import AnimationGraph.Proofs.Execution.Units
import Mathlib.Data.List.Chain
import Mathlib.Data.List.Nodup
import Mathlib.Data.List.Perm.Subperm
import Mathlib.Logic.Relation

/-! # The order of updates

Nodes are brought up to date after the nodes that they take their inputs from.  Where links run in a circle a node can
come before one of its sources, but only if that source depends on it as well.
-/

namespace AnimationGraph

open List Relation

variable {w v : World}

/-- Updates of nodes lead from one session to another. -/
def Reaches (i : Interface) (w v : World) : Prop := ∃ ns : List NodeId, forM ns NodeId.renew i w = .ok () v

/-- Wherever updates lead, nodes take their inputs from the same nodes. -/
def Steady (i : Interface) (w : World) (sources : NodeId → List NodeId) : Prop :=
 ∀ v, Reaches i w v → ∀ n ∈ w.forest.allNodes, n.sourceNodes i v = .ok (sources n) v

/-- Wherever updates lead, a computation updates these nodes in this order, and gives the result if none of them fails. -/
def Does (i : Interface) (w : World) (x : Run α) (ns : List NodeId) (a : α) : Prop :=
 ∀ v, Reaches i w v → x i v = (forM ns NodeId.renew >>= fun _ => pure a) i v

theorem Does.andThen (first : Does i w x ns a)
  (next : Does i w (f a) ms b) : Does i w (x >>= f) (ns ++ ms) b := by
 intro v reached
 have start := first v reached
 simp only [bind, Run.bind, forM_append] at start ⊢
 rw [start]
 cases done : forM ns NodeId.renew i v with
 | ok _ v' =>
  obtain ⟨before, reached⟩ := reached
  refine next v' ⟨before ++ ns, ?_⟩
  simp only [forM_append, bind, Run.bind, reached, done]
 | failed f v' => rfl

theorem does_nothing (a : α) : Does i w (pure a) [] a := fun _ _ => rfl

theorem does_renew (n : NodeId) : Does i w n.renew [n] () := by
 intro v _
 simp only [forM_cons, forM_nil, bind, Run.bind, pure, Run.pure]
 cases n.renew i v <;> rfl

def Feeds (sources : NodeId → List NodeId) (m n : NodeId) : Prop := m ∈ sources n

/-- Updated nodes, latest first: each comes after its sources, apart from those that depend on it. -/
inductive Timely (sources : NodeId → List NodeId) : List NodeId → Prop
 | nil : Timely sources []
 | cons {n : NodeId} {done : List NodeId} : Timely sources done → n ∉ done →
   (∀ m ∈ sources n, m ∈ done ∨ TransGen (Feeds sources) n m) → Timely sources (n :: done)

/-- The nodes that are being updated are a path along the links, and none of them has been updated. -/
structure Begun (w : World) (sources : NodeId → List NodeId) (e : Editing) : Prop where
 inside : e.current ⊆ w.forest.allNodes.toList
 distinct : e.current.Nodup
 chain : e.current.IsChain (Feeds sources)
 timely : Timely sources e.updated
 apart : ∀ n ∈ e.current, n ∉ e.updated

/-- A computation goes on from there: it updates some more nodes, so that those asked for are updated or on the path. -/
def GoesOn (i : Interface) (w : World) (sources : NodeId → List NodeId) (e : Editing) (asked : List NodeId)
  (x : Run Editing) : Prop :=
 ∃ new, Does i w x new.reverse ⟨new ++ e.updated, e.current⟩ ∧ Timely sources (new ++ e.updated) ∧
  (∀ n ∈ asked, n ∈ e.current ∨ n ∈ new ++ e.updated) ∧
  ∀ m ∈ new, m ∉ e.current ∧ ∃ n ∈ asked, ReflTransGen (Feeds sources) m n

theorem bringAfter_goesOn {follow : List NodeId → Editing → Run Editing}
  (steady : Steady i w sources) (begun : Begun w sources e) (isNode : n ∈ w.forest.allNodes)
  (linked : ∀ m ∈ e.current.head?, Feeds sources n m)
  (goesOn : ∀ e' : Editing, e' = ⟨e.updated, n :: e.current⟩ → Begun w sources e' →
   GoesOn i w sources e' (sources n) (follow (sources n) e')) :
  GoesOn i w sources e [n] (bringAfter follow e n) := by
 by_cases known : e.updated.contains n || e.current.contains n
 · refine ⟨[], ?_, begun.timely, by simpa [or_comm] using known, by simp⟩
   rw [bringAfter, if_pos known]
   exact does_nothing e
 · obtain ⟨fresh, old⟩ : n ∉ e.current ∧ n ∉ e.updated := by simpa [and_comm] using known
   have chain : (n :: e.current).IsChain (Feeds sources) := isChain_cons.mpr ⟨linked, begun.chain⟩
   have dependent : ∀ m ∈ e.current, TransGen (Feeds sources) n m :=
    (pairwise_cons.mp (chain.imp (S := TransGen (Feeds sources)) fun _ _ => .single).pairwise).1
   obtain ⟨more, does, timely, met, apart⟩ := goesOn _ rfl
    ⟨by grind [begun.inside], nodup_cons.mpr ⟨fresh, begun.distinct⟩, chain, begun.timely, by grind [begun.apart]⟩
   refine ⟨n :: more, ?_, timely.cons ?_ fun m feeds => ?_, by simp, forall_mem_cons.mpr ⟨⟨fresh, n, by simp, .refl⟩, ?_⟩⟩
   · have reads : Does i w n.sourceNodes [] (sources n) := fun v reached => steady v reached n isNode
     rw [bringAfter, if_neg known, show (n :: more).reverse = [] ++ (more.reverse ++ ([n] ++ [])) by simp]
     refine reads.andThen (does.andThen ((does_renew n).andThen ?_))
     rw [erase_cons_head]
     exact does_nothing _
   · grind
   · rcases met m feeds with path | done
     · rcases mem_cons.mp path with rfl | path
       · exact .inr (.single feeds)
       · exact .inr (dependent m path)
     · exact .inl done
   · intro m mem
     obtain ⟨outside, s, feeds, reaches⟩ := apart m mem
     exact ⟨by grind, n, by simp, reaches.tail feeds⟩

/-- A node that is begun is added to the path, which has no node twice, so the bound is enough. -/
theorem bringUpToDate_goesOn (steady : Steady i w sources)
  (closed : ∀ n ∈ w.forest.allNodes, ∀ m ∈ sources n, m ∈ w.forest.allNodes) {fuel : Nat}
  (begun : Begun w sources e) (inside : ns ⊆ w.forest.allNodes.toList)
  (linked : ∀ n ∈ ns, ∀ m ∈ e.current.head?, Feeds sources n m)
  (bound : fuel + e.current.length = w.forest.allNodes.size + 1) : GoesOn i w sources e ns (bringUpToDate fuel ns e) := by
 induction fuel generalizing ns e with
 | zero =>
  have few := (subperm_of_subset begun.distinct begun.inside).length_le
  simp at few
  omega
 | succ fuel ih =>
  rw [bringUpToDate]
  induction ns generalizing e with
  | nil => exact ⟨[], does_nothing e, begun.timely, by simp, by simp⟩
  | cons n ns loop =>
   have isNode : n ∈ w.forest.allNodes := by simpa using inside mem_cons_self
   obtain ⟨first, does, timely, met, apart⟩ := bringAfter_goesOn steady begun isNode (linked n mem_cons_self)
    fun e' same begun => ih begun (by grind) (by simp [same, Feeds]) (by simp [same]; omega)
   obtain ⟨rest, does', timely', met', apart'⟩ := loop (e := ⟨first ++ e.updated, e.current⟩)
    ⟨begun.inside, begun.distinct, begun.chain, timely, by grind [begun.apart]⟩ (by grind) (by grind) bound
   refine ⟨rest ++ first, ?_, by simpa using timely', by grind, by grind⟩
   rw [reverse_append, append_assoc]
   exact does.andThen does'

theorem nodeAt_mem (found : w.nodeAt? k = some n) : n ∈ w.forest.allNodes := by
 obtain ⟨t, tree, node⟩ := Option.bind_eq_some_iff.mp found
 exact Array.mem_flatMap.mpr ⟨t, Array.mem_of_find?_eq_some tree, Array.mem_of_find?_eq_some node⟩

theorem found_iff {ks : List NodeKey} :
  ks.mapM nodeAt i w = .ok ns v ↔ ks.map w.nodeAt? = ns.map some ∧ v = w := by
 induction ks generalizing ns v with
 | nil =>
  cases ns <;> simp only [mapM_nil, pure, Run.pure, Outcome.ok.injEq] <;> grind
 | cons k ks ih =>
  rw [mapM_cons]
  simp only [nodeAt, bind, Run.bind, look]
  cases known : w.nodeAt? k with
  | none => cases ns <;> simp [known, need, fail, throw, throwThe, MonadExceptOf.throw, Run.throw]
  | some m =>
   simp only [need, pure, Run.pure]
   cases rest : ks.mapM nodeAt i w with
   | failed f w₁ =>
    have none (ms : List NodeId) : ks.map w.nodeAt? ≠ ms.map some := fun found => by simp [ih.mpr ⟨found, rfl⟩] at rest
    cases ns <;> simp_all
   | ok ms w₁ =>
    obtain ⟨found, rfl⟩ := ih.mp rest
    rw [map_cons, known, found, ← map_cons, (map_injective_iff.mpr fun _ _ => Option.some.inj).eq_iff, Outcome.ok.injEq,
     eq_comm (a := v)]

theorem Timely.nodup (timely : Timely sources done) : done.Nodup := by
 induction timely with
 | nil => exact .nil
 | cons _ fresh _ ih => exact nodup_cons.mpr ⟨fresh, ih⟩

theorem Timely.before (timely : Timely sources (front ++ b :: back))
  (feeds : a ∈ sources b) : a ∈ back ∨ TransGen (Feeds sources) b a := by
 induction front with
 | nil =>
  cases timely with
  | cons _ _ all => exact all a feeds
 | cons n front ih =>
  cases timely with
  | cons earlier _ _ => exact ih earlier

/-- Bringing all nodes up to date is the same as updating nodes in a certain order.  Every animated node is there once,
after all its sources that do not depend on it, and every node that is there is animated or feeds an animated one. -/
theorem updateNodes_in_order (i : Interface) (w v : World) (sources : NodeId → List NodeId)
  (surveyed : refreshIfStale i w = .ok () v) (steady : Steady i v sources) : ∃ nodes order : List NodeId,
   animatedNodes i v = .ok nodes v ∧ updateNodes i w = forM order NodeId.renew i v ∧ order.Nodup ∧ nodes ⊆ order ∧
   (∀ n ∈ order, ∃ m ∈ nodes, ReflTransGen (Feeds sources) n m) ∧
   ∀ before b after, order = before ++ b :: after → ∀ a ∈ sources b, ¬ TransGen (Feeds sources) b a → a ∈ before := by
 have closed : ∀ n ∈ v.forest.allNodes, ∀ m ∈ sources n, m ∈ v.forest.allNodes := by
  intro n isNode m feeds
  have found : some m ∈ _ := (found_iff.mp (steady v ⟨[], rfl⟩ n isNode)).1 ▸ mem_map_of_mem feeds
  obtain ⟨k, -, found⟩ := mem_map.mp found
  exact nodeAt_mem found
 obtain ⟨nodes, listed, inside⟩ : ∃ nodes, animatedNodes i v = .ok nodes v ∧ nodes ⊆ v.forest.allNodes.toList := by
  refine ⟨_, rfl, fun n mem => ?_⟩
  simp only [World.ownTrees, mem_flatMap, mem_filter, Forest.allNodes] at mem ⊢
  simp
  grind
 obtain ⟨new, does, timely, met, apart⟩ := bringUpToDate_goesOn (e := {}) steady closed
  ⟨by simp, .nil, .nil, .nil, by simp⟩ inside (by simp) rfl
 refine ⟨nodes, new.reverse, listed, ?_, by simpa using timely.nodup, fun n mem => by simpa using met n mem, ?_, ?_⟩
 · simp only [updateNodes, bind, Run.bind, surveyed, look, listed]
   rw [does v ⟨[], rfl⟩]
   simp only [bind, Run.bind, pure, Run.pure]
   cases forM new.reverse NodeId.renew i v <;> rfl
 · simpa using fun n mem => (apart n mem).2
 · intro before b after split a feeds apart
   have timely : Timely sources (after.reverse ++ b :: before.reverse) := by
    rw [reverse_eq_iff] at split
    simpa [split] using timely
   simpa [apart] using timely.before feeds

/-- Two nodes feed each other, and a third one feeds the first of them. -/
def circling : World :=
 let w : World := {
  forest := {
   present := #[⟨0⟩]
   trees := #[{ name := "T", nodes := #[⟨0⟩, ⟨1⟩, ⟨2⟩], links := #[⟨0⟩, ⟨1⟩, ⟨2⟩] }]
   nodes := #[⟨⟨0⟩, "an_ViewerNode", "a", #[⟨0⟩, ⟨1⟩], #[⟨2⟩], [], []⟩, ⟨⟨0⟩, "an_ViewerNode", "b", #[⟨3⟩], #[⟨4⟩], [], []⟩,
    ⟨⟨0⟩, "an_ViewerNode", "c", #[], #[⟨5⟩], [], []⟩]
   sockets := #[(0, .input, "x"), (0, .input, "y"), (0, .output, "x"), (1, .input, "x"), (1, .output, "x"),
    (2, .output, "x")].map fun (n, side, id) => ⟨⟨n⟩, side, "an_TextSocket", id, id, [], []⟩
   links := #[⟨⟨0⟩, ⟨4⟩, ⟨0⟩⟩, ⟨⟨0⟩, ⟨5⟩, ⟨1⟩⟩, ⟨⟨0⟩, ⟨2⟩, ⟨3⟩⟩] } }
 { w with survey := .ofOutline w.outline.1, stale := false }

theorem circling_in_order : ∃ order : List NodeId,
  updateNodes constantly circling = forM order NodeId.renew constantly circling ∧ order.Nodup ∧ [⟨0⟩, ⟨1⟩, ⟨2⟩] ⊆ order ∧
  ∀ before after, order = before ++ ⟨0⟩ :: after → ⟨2⟩ ∈ before := by
 let sources : NodeId → List NodeId := fun n => if n = ⟨0⟩ then [⟨1⟩, ⟨2⟩] else if n = ⟨1⟩ then [⟨0⟩] else []
 have still (n : NodeId) : n.renew constantly circling = .ok () circling := by
  have bare (side : Side) : ({} : NodeNotes).sockets side = [] := by cases side <;> rfl
  have none : circling.wishes n = [] := by
   simp [World.wishes, World.notesOf, show circling.notes = [] from rfl, NodeNotes.socketNote, bare]
  simp only [NodeId.renew, NodeId.update, NodeId.applyTemplates, bind, Run.bind, look, none]
  rfl
 have steady : Steady constantly circling sources := by
  rintro v ⟨ns, reached⟩ n isNode
  have same : v = circling := by
   induction ns with
   | nil =>
    cases reached
    rfl
   | cons n ns ih =>
    simp only [forM_cons, bind, Run.bind, still] at reached
    exact ih reached
  have found : ∀ n ∈ circling.forest.allNodes.toList,
    (circling.survey.tables.origins (circling.nodeKey n)).map circling.nodeAt? = (sources n).map some := by decide +kernel
  rw [same]
  exact found_iff.mpr ⟨found n (by simpa using isNode), rfl⟩
 obtain ⟨nodes, order, listed, done, once, all, -, sorted⟩ :=
  updateNodes_in_order constantly circling circling sources rfl steady
 cases listed
 refine ⟨order, done, once, fun n mem => all (by revert n; decide),
  fun before after split => sorted _ _ _ split _ (by decide) ?_⟩
 intro circle
 cases circle <;> simp_all [Feeds, sources]

end AnimationGraph
