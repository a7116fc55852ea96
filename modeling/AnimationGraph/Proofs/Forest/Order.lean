import AnimationGraph.Execution.Units
import AnimationGraph.Proofs.Forest.Members
import Mathlib.Data.List.Chain
import Mathlib.Logic.Relation

/-! # The order of execution

A search finishes a node after everything that it depends on.  It fails exactly if links run in a circle.
The order in which the search takes the members of a network does not matter for that.
-/

namespace AnimationGraph.Network

open List

variable {a : Analysis} {members : List NodeKey}

/-- Finished nodes, latest first: each of them was finished after all that it depends on. -/
inductive Settled (a : Analysis) : Finished → Prop
 | nil : Settled a []
 | cons {n : NodeKey} {done : Finished} : Settled a done → n ∉ done → a.dependencies n ⊆ done → Settled a (n :: done)

def Needed (a : Analysis) (members : List NodeKey) (x y : NodeKey) : Prop :=
 x ∈ members ∧ y ∈ members ∧ x ∈ a.dependencies y

/-- What a search for some nodes comes to: they are finished, and no node of the path is; or there is a circle. -/
def Searched (a : Analysis) (members path : List NodeKey) (done : Finished) (todo : List NodeKey) :
  Option Finished → Prop
 | some finished => Settled a finished ∧ done ⊆ finished ∧ todo ⊆ finished ∧
   ∀ k ∈ finished, k ∈ done ∨ k ∈ members ∧ k ∉ path
 | none => ∃ k, Relation.TransGen (Needed a members) k k

theorem search_all {f : NodeKey → Finished → Option Finished}
  (one : ∀ n ∈ todo, ∀ done, Settled a done → Searched a members path done [n] (f n done)) (settled : Settled a done) :
  Searched a members path done todo (todo.foldl (fun state n => state.bind (f n)) (some done)) := by
 induction todo generalizing done with
 | nil => exact ⟨settled, List.Subset.refl _, by simp, fun k mem => .inl mem⟩
 | cons n todo ih =>
  have first := one n mem_cons_self done settled
  simp only [foldl_cons, Option.bind_some]
  cases found : f n done with
  | none =>
   have stays : todo.foldl (fun state n => state.bind (f n)) none = none := by
    clear one ih
    induction todo with
    | nil => rfl
    | cons _ _ ih => exact ih
   rw [stays]
   simpa [found, Searched] using first
  | some finished =>
   rw [found] at first
   obtain ⟨settled, kept, here, fresh⟩ := first
   have rest := ih (fun k mem => one k (mem_cons_of_mem _ mem)) settled
   cases result : todo.foldl (fun state n => state.bind (f n)) (some finished) with
   | none => simpa [result, Searched] using rest
   | some finished' =>
    rw [result] at rest
    obtain ⟨settled', kept', done', fresh'⟩ := rest
    exact ⟨settled', by grind, by grind, by grind⟩

section

variable (closed : ∀ n ∈ members, a.dependencies n ⊆ members) (known : members ⊆ a.nodes)

include closed known

/-- The path runs along dependencies, so a node that is met again closes a circle; and as the nodes on the path
are distinct, the bound is never reached. -/
theorem visit_searched {n : NodeKey} (isMember : n ∈ members)
  (bound : fuel + path.length = a.nodes.length + 1) (distinct : path.Nodup) (inside : path ⊆ members)
  (chain : (n :: path).IsChain (Needed a members)) (settled : Settled a done) :
  Searched a members path done [n] (visit a fuel path n done) := by
 induction fuel generalizing path n done with
 | zero =>
  have few := (subperm_of_subset distinct fun k mem => known (inside mem)).length_le
  omega
 | succ fuel ih =>
  simp only [visit]
  split
  · rename_i met
    have path := (chain.imp fun _ _ => Relation.TransGen.single).pairwise
    exact ⟨n, (pairwise_cons.mp path).1 n (by simpa using met)⟩
  · rename_i fresh
    have fresh : n ∉ path := by simpa using fresh
    split
    · rename_i finished
      exact ⟨settled, List.Subset.refl _, by simpa using finished, fun k mem => .inl mem⟩
    · rename_i unfinished
      have unfinished : n ∉ done := by simpa using unfinished
      have each : ∀ d ∈ a.dependencies n, ∀ done, Settled a done →
        Searched a members (n :: path) done [d] (visit a fuel (n :: path) d done) :=
       fun d needed done settled =>
        ih (closed n isMember needed) (by simp only [length_cons]; omega)
         (nodup_cons.mpr ⟨fresh, distinct⟩) (by simpa [isMember] using inside)
         (.cons_cons ⟨closed n isMember needed, isMember, needed⟩ chain) settled
      have searched := search_all each settled
      cases result : (a.dependencies n).foldl (fun state d => state.bind (visit a fuel (n :: path) d)) (some done) with
      | none => simpa [result, Searched] using searched
      | some finished =>
       rw [result] at searched
       obtain ⟨settled', kept, needed, fresh'⟩ := searched
       exact ⟨settled'.cons (by grind) needed, by grind, by simp, by grind⟩

end

theorem Settled.of_append (settled : Settled a (front ++ done)) : Settled a done := by
 induction front with
 | nil => exact settled
 | cons n front ih =>
  cases settled with
  | cons before _ _ => exact ih before

/-- Whatever a finished node depends on was finished before. -/
theorem Settled.before (path : Relation.TransGen (Needed a members) x y)
  (settled : Settled a (front ++ y :: back)) : x ∈ back := by
 induction path generalizing front back with
 | single needed =>
  cases settled.of_append with
  | cons _ _ all => exact all needed.2.2
 | tail path needed ih =>
  cases settled.of_append with
  | cons before _ all =>
   obtain ⟨front', back', rfl⟩ := append_of_mem (all needed.2.2)
   exact mem_append_right _ (mem_cons_of_mem _ (ih before))

theorem Settled.acyclic (settled : Settled a done) (mem : k ∈ done) :
  ¬ Relation.TransGen (Needed a members) k k := by
 intro circle
 obtain ⟨front, back, rfl⟩ := append_of_mem mem
 have again := settled.before circle
 cases settled.of_append with
 | cons _ fresh _ => exact fresh again

theorem Settled.ordered {done : Finished} (settled : Settled a done) :
  done.Nodup ∧ done.Pairwise (fun y x => y ∉ a.dependencies x) ∧ ∀ x ∈ done, a.dependencies x ⊆ done ∧ x ∉ a.dependencies x := by
 induction settled with
 | nil => simp
 | @cons n done before fresh all ih =>
  obtain ⟨distinct, apart, closed⟩ := ih
  refine ⟨nodup_cons.mpr ⟨fresh, distinct⟩, pairwise_cons.mpr ⟨fun x mem needed => ?_, apart⟩, ?_⟩
  · exact fresh ((closed x mem).1 needed)
  · exact forall_mem_cons.mpr ⟨⟨by grind, by grind⟩, by grind⟩

/-- Whatever order the search takes the members in: it either puts every animated member into the list once, after
all nodes that feed it, or reports that links run in a circle.  It does so exactly if they do. -/
theorem sorted_for_every_order (o : Outline) (wf : o.WellFormed) {n : Network} (isNetwork : n ∈ all (Analysis.ofOutline o))
  (m : Network) (order : m.members.Perm n.members) :
  (∀ l, m.sorted? (Analysis.ofOutline o) = some l → l.Nodup ∧
    (∀ k, k ∈ l ↔ k ∈ n.members ∧ (Analysis.ofOutline o).isAnimated k = true) ∧
    l.Pairwise (fun x y => ¬ o.Feeds y x) ∧ ∀ x ∈ l, ¬ o.Feeds x x) ∧
   (m.sorted? (Analysis.ofOutline o) = none ↔
    ∃ k, Relation.TransGen (fun x y => x ∈ n.members ∧ y ∈ n.members ∧ o.Feeds x y) k k) ∧
   (m.sorted? (Analysis.ofOutline o) = none → ∀ (e : Interface) (w : World), w.survey.tables = Analysis.ofOutline o →
    Code.sortedMembers m e w = .ok none { w with problems := w.problems ++ [.linkRecursion] }) := by
 have enclosed := all_enclosed (neighbours_known wf) isNetwork
 have needs {x y : NodeKey} : x ∈ (Analysis.ofOutline o).dependencies y ↔ o.Feeds x y := Analysis.mem_dependencies_ofOutline wf
 have closed : ∀ y ∈ n.members, (Analysis.ofOutline o).dependencies y ⊆ n.members := by
  intro y mem x needed
  obtain ⟨_, _, k, s, t, chain, rfl, rfl⟩ := needs.mp needed
  exact enclosed.of_chain wf chain mem
 have same : ∀ k, k ∈ m.searchOrder ↔ k ∈ n.members := by
  intro k
  unfold searchOrder
  split <;> simp [order.mem_iff]
 have searched : Searched (Analysis.ofOutline o) n.members [] [] m.searchOrder _ :=
  search_all (fun k mem done settled => visit_searched closed enclosed.known ((same k).mp mem) rfl .nil
   (nil_subset _) (isChain_singleton k) settled) .nil
 have report (failed : m.sorted? (Analysis.ofOutline o) = none) (e : Interface) (w : World)
   (tables : w.survey.tables = Analysis.ofOutline o) :
   Code.sortedMembers m e w = .ok none { w with problems := w.problems ++ [.linkRecursion] } := by
  rw [← tables] at failed
  simp only [Code.sortedMembers, bind, Run.bind, look, failed]
  rfl
 refine ⟨?_, ?_, report⟩ <;> simp only [← needs, sorted?]
 · intro l shape
   obtain ⟨finished, result, rfl⟩ := Option.map_eq_some_iff.mp shape
   rw [result] at searched
   obtain ⟨settled, _, all, fresh⟩ := searched
   obtain ⟨distinct, apart, own⟩ := settled.ordered
   refine ⟨(nodup_reverse.mpr distinct).filter _, fun k => ?_, (pairwise_reverse.mpr apart).filter _, fun x mem => ?_⟩
   · have : k ∈ finished ↔ k ∈ n.members :=
      ⟨fun mem => by simpa using fresh k mem, fun mem => all ((same k).mpr mem)⟩
     simp [this]
   · exact (own x (by simpa using (mem_filter.mp mem).1)).2
 · constructor
   · intro failed
     rw [Option.map_eq_none_iff.mp failed] at searched
     exact searched
   · rintro ⟨k, circle⟩
     cases result : m.searchOrder.foldl (fun state k => state.bind (visit (Analysis.ofOutline o)
       ((Analysis.ofOutline o).nodes.length + 1) [] k)) (some []) with
     | none => rfl
     | some finished =>
      rw [result] at searched
      obtain ⟨settled, _, all, _⟩ := searched
      obtain ⟨_, _, last⟩ := Relation.TransGen.tail'_iff.mp circle
      exact absurd circle (settled.acyclic (all ((same k).mpr last.2.1)))

/-- The node `a` feeds `b` and `c` through the reroute `r`, and `b` feeds `c`. -/
def rerouted : Outline :=
 let node (name kind : String) (role : NodeRole) (inputs outputs : Pairs) : NodeOutline :=
  ⟨⟨"tree", name⟩, kind, role, name, "", "", "", inputs, outputs⟩
 let link (origin output target input : String) : SocketKey × SocketKey :=
  (⟨⟨"tree", origin⟩, true, output⟩, ⟨⟨"tree", target⟩, false, input⟩)
 [⟨"tree", [node "c" "Plain" .plain [("x", ""), ("y", "")] [], node "a" "Plain" .plain [] [("x", "")],
   node "r" "NodeReroute" .reroute [("x", "")] [("x", "")], node "b" "Plain" .plain [("x", "")] [("x", "")]],
  [link "a" "x" "r" "x", link "r" "x" "b" "x", link "r" "x" "c" "x", link "b" "x" "c" "y"]⟩]

theorem rerouted_sorted : rerouted.WellFormed ∧ ∃ n ∈ all (Analysis.ofOutline rerouted), ∃ l,
  { n with members := n.members.reverse }.sorted? (Analysis.ofOutline rerouted) = some l ∧
    l = [⟨"tree", "a"⟩, ⟨"tree", "b"⟩, ⟨"tree", "c"⟩] ∧ l.Pairwise fun x y => ¬ rerouted.Feeds y x := by
 have wf : rerouted.WellFormed := by constructor <;> decide +kernel
 have sorted : ∀ n ∈ all (Analysis.ofOutline rerouted), { n with members := n.members.reverse }.sorted?
   (Analysis.ofOutline rerouted) = some [⟨"tree", "a"⟩, ⟨"tree", "b"⟩, ⟨"tree", "c"⟩] := by decide +kernel
 have some? : (all (Analysis.ofOutline rerouted)).isEmpty = false := by decide +kernel
 obtain ⟨n, isNetwork⟩ := exists_mem_of_ne_nil _ (isEmpty_eq_false_iff.mp some?)
 refine ⟨wf, n, isNetwork, _, sorted n isNetwork, rfl, ?_⟩
 exact ((sorted_for_every_order rerouted wf isNetwork _ n.members.reverse_perm).1 _ (sorted n isNetwork)).2.2.1

end AnimationGraph.Network
