import AnimationGraph.Control.Panels
import AnimationGraph.Proofs.Execution.Units
import AnimationGraph.Proofs.Forest.Survey

/-! # Following links

From a node, links are followed to all nodes that they lead to: in any order, through reroutes and around cycles.
-/

namespace AnimationGraph

open List Relation

namespace World

variable (w : World)

/-- A link joins a socket on one of these sides of the first node with a socket of the second node. -/
def Leads (sides : List Side) (m n : NodeId) : Prop := ∃ side ∈ sides, ∃ s ∈ w.forest.side m side, ∃ t,
 (w.Links (w.socketKey s) t ∨ w.Links t (w.socketKey s)) ∧ w.nodeAt? t.node = some n

/-- Names tell nodes apart, and sockets at links are found by their names. -/
structure Named : Prop where
 typed : w.IsTyped
 keys : (w.outline.1.nodes.map (·.key)).Nodup
 found : ∀ s t, w.Links s t → ∀ k ∈ [s, t], (w.socketOf? k).isSome

variable {w}

theorem Named.mem_ends {sides : List Side} (proper : w.Named) : k ∈ sides.flatMap (w.surveyed.linkEnds m) ↔
  ∃ side ∈ sides, ∃ s ∈ w.forest.side m side, w.Links (w.socketKey s) k ∨ w.Links k (w.socketKey s) := by
 have direct s : k ∈ w.surveyed.survey.tables.directlyLinked s ↔ _ :=
  Analysis.mem_direct (Analysis.tells_nothing.putTrees proper.keys)
 simp only [(refreshSurvey_of_typed proper.typed constantly).1] at direct
 change k ∈ sides.flatMap (fun side => (w.forest.side m side).toList.flatMap fun s =>
  w.surveyed.survey.tables.directlyLinked (w.socketKey s)) ↔ _
 simp only [mem_flatMap, Array.mem_toList_iff, direct]

/-- After the survey was made anew, exactly the nodes that links of these sides lead to are found, each of them once. -/
theorem links_followed (i : Interface) (w : World) (proper : w.Named) (start : NodeId) (present : start ∈ w.forest.allNodes)
  (sides : List Side) (pick : List NodeId → Nat) :
  ∃ w', refreshSurvey i w = .ok () w' ∧ w'.forest = w.forest ∧ ∃ ns, nodesAlongLinks start sides pick i w' = .ok ns w' ∧
   ns.Nodup ∧ ∀ n, n ∈ ns ↔ n ≠ start ∧ ReflTransGen (w.Leads sides) start n := by
 have leads : (fun m n => n ∈ (sides.flatMap (w.surveyed.linkEnds m)).filterMap (w.nodeAt? ·.node)) = w.Leads sides := by
  funext m n
  simp only [mem_filterMap, proper.mem_ends, Leads]
  grind
 have inside n (path : ReflTransGen (w.Leads sides) start n) : n ∈ w.forest.allNodes.toList := by
  refine Array.mem_toList_iff.mpr ?_
  cases path with
  | refl => exact present
  | tail _ leads =>
   obtain ⟨_, -, _, -, t, -, found⟩ := leads
   obtain ⟨tree, isTree, isNode⟩ := Option.bind_eq_some_iff.mp found
   exact Array.mem_flatMap.mpr ⟨tree, Array.mem_of_find?_eq_some isTree, Array.mem_of_find?_eq_some isNode⟩
 obtain ⟨distinct, reached⟩ := mem_reachedFrom pick (leads ▸ inside) (show _ < w.forest.allNodes.size + 2 by simp)
 refine ⟨w.surveyed, refreshSurvey_eq proper.typed i, rfl, _, ?_, distinct.filter (· != start), fun n => ?_⟩
 · refine Run.bind_eq (Run.mapM_reads (g := fun k => (w.socketOf? k).getD default) fun k isEnd => ?_)
   obtain ⟨m, -, isEnd⟩ := mem_flatMap.mp isEnd
   obtain ⟨_, -, s, -, links⟩ := proper.mem_ends.mp isEnd
   have known : (w.socketOf? k).isSome := links.elim (proper.found _ _ · k (by simp)) (proper.found _ _ · k (by simp))
   obtain ⟨x, known⟩ := Option.isSome_iff_exists.mp known
   obtain ⟨n, node, -⟩ := Option.bind_eq_some_iff.mp known
   have owner : nodeAt k.node i w.surveyed = .ok n w.surveyed := by
    change (need .key (w.nodeAt? _) : Run NodeId) i w.surveyed = _
    rw [node]
    rfl
   refine (Run.bind_eq owner).trans ?_
   change (need .attr (w.socketOf? _) : Run SocketId) i w.surveyed = _
   rw [known]
   rfl
 · rw [mem_filter, reached, leads, bne_iff_ne, and_comm]

theorem feeding_followed : ∃ w', refreshSurvey constantly (feeding "an_DataInputNode") = .ok () w' ∧
  ∃ ns, nodesAlongLinks ⟨2⟩ [.input] List.length constantly w' = .ok ns w' ∧ ns.Nodup ∧
   ∀ n, n ∈ ns ↔ n ≠ ⟨2⟩ ∧ ReflTransGen ((feeding "an_DataInputNode").Leads [.input]) ⟨2⟩ n := by
 have proper : (feeding "an_DataInputNode").Named := by
  refine ⟨feeding_typed.1, feeding_typed.2.keys, ?_⟩
  rintro _ _ ⟨t, isTree, k, isLink, rfl, rfl, -⟩
  revert t isTree k
  decide +kernel
 obtain ⟨w', refreshed, -, followed⟩ := links_followed constantly _ proper ⟨2⟩ (by decide +kernel) [.input] List.length
 exact ⟨w', refreshed, followed⟩

theorem unlinked_followed (unlinked : w.linkEnds n side = []) : nodesAlongLinks n [side] (fun _ => 0) i w = .ok [] w := by
 rw [nodesAlongLinks, Run.bind_eq (show (get : Run World) i w = .ok w w from rfl)]
 simp [reachedFrom, unlinked]
 rfl

/-- A link comes from a node of an unknown kind, but it is not followed. -/
theorem undefined_unfollowed : (feeding "NodeUndefined").forest.links.any (fun l => l.origin == ⟨0⟩ && l.target == ⟨4⟩) ∧
  ((feeding "NodeUndefined").forest.socket ⟨4⟩).owner = ⟨3⟩ ∧
  ∃ w', refreshSurvey constantly (feeding "NodeUndefined") = .ok () w' ∧
   nodesAlongLinks ⟨3⟩ [.input] (fun _ => 0) constantly w' = .ok [] w' := by
 obtain ⟨typed, ends⟩ : (feeding "NodeUndefined").IsTyped ∧ (feeding "NodeUndefined").surveyed.linkEnds ⟨3⟩ .input = [] := by
  unfold IsTyped
  decide +kernel
 exact ⟨by decide +kernel, by decide +kernel, _, refreshSurvey_eq typed _, unlinked_followed ends⟩

end World
end AnimationGraph
