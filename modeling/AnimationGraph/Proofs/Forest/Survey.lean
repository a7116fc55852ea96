import AnimationGraph.Proofs.Execution.Guard
import AnimationGraph.Proofs.Forest.Partition
import Mathlib.Data.List.TakeWhile

/-! # The survey of a forest

What the survey says after it was made anew is about the links of the forest, apart from those at nodes of unknown kinds.
-/

namespace AnimationGraph.World

open List

variable (w : World)

/-- Every node that carries data has sockets with data types only. -/
def IsTyped : Prop := ∀ t ∈ w.ownTrees, ∀ n ∈ (w.forest.tree t).nodes.toList, w.isTyped n = true

/-- A link joins the sockets, and both belong to nodes of known kinds. -/
def Links (s t : SocketKey) : Prop :=
 ∃ tree ∈ w.ownTrees, ∃ k ∈ (w.forest.tree tree).links, w.socketKey (w.forest.link k).origin = s ∧
  w.socketKey (w.forest.link k).target = t ∧ ∀ x ∈ [(w.forest.link k).origin, (w.forest.link k).target],
   (w.forest.node (w.forest.socket x).owner).kind ≠ "NodeUndefined"

variable {w}

theorem outline_of_typed (typed : w.IsTyped) : w.outline = (w.ownTrees.map fun t =>
  ⟨(w.forest.tree t).name, (w.forest.tree t).nodes.toList.map w.nodeOutline, w.linkOutlines t⟩, true) := by
 unfold outline IsTyped at *
 generalize w.ownTrees = trees at *
 induction trees with
 | nil => rfl
 | cons t ts ih =>
  obtain ⟨first, typed⟩ := forall_mem_cons.mp typed
  simp [outline.go, takeWhile_eq_self_iff.mpr first, ih typed]

abbrev surveyed (w : World) : World :=
 { w with survey := .ofOutline w.outline.1, stale := false, analyses := w.analyses + 1 }

theorem refreshSurvey_eq (typed : w.IsTyped) (i : Interface) : refreshSurvey i w = .ok () w.surveyed := by
 change (if w.outline.2 = true then change _ else _ : Act) i w = _
 rw [if_pos (by rw [outline_of_typed typed])]
 rfl

/-- A forest whose nodes are typed is surveyed as a whole. -/
theorem refreshSurvey_of_typed (typed : w.IsTyped) (i : Interface) : (∀ s t, (s, t) ∈ w.outline.1.links ↔ w.Links s t) ∧
  ∃ w', refreshSurvey i w = .ok () w' ∧ w'.survey = .ofOutline w.outline.1 := by
 refine ⟨fun s t => ?_, _, refreshSurvey_eq typed i, rfl⟩
 simp only [outline_of_typed typed, Outline.links, linkOutlines, Links]
 simp
 grind

/-- A node feeds two others, one of them through a reroute. -/
def feeding (kind : String) : World where
 forest := {
  present := #[⟨0⟩]
  trees := #[{ name := "T", nodes := #[⟨0⟩, ⟨1⟩, ⟨2⟩, ⟨3⟩], links := #[⟨0⟩, ⟨1⟩, ⟨2⟩] }]
  nodes := #[⟨⟨0⟩, kind, "a", #[], #[⟨0⟩], [], []⟩, ⟨⟨0⟩, "NodeReroute", "r", #[⟨1⟩], #[⟨2⟩], [], []⟩,
   ⟨⟨0⟩, "an_ViewerNode", "b", #[⟨3⟩], #[], [], []⟩, ⟨⟨0⟩, "an_ViewerNode", "c", #[⟨4⟩], #[], [], []⟩]
  sockets := #[(0, .output), (1, .input), (1, .output), (2, .input), (3, .input)].map fun (n, side) =>
   ⟨⟨n⟩, side, "an_TextSocket", "x", "x", [], []⟩
  links := #[⟨⟨0⟩, ⟨0⟩, ⟨4⟩⟩, ⟨⟨0⟩, ⟨0⟩, ⟨1⟩⟩, ⟨⟨0⟩, ⟨2⟩, ⟨3⟩⟩] }

theorem feeding_typed : (feeding "an_DataInputNode").IsTyped ∧ (feeding "an_DataInputNode").outline.1.WellFormed := by
 rw [IsTyped, Outline.wellFormed_iff]
 decide +kernel

end AnimationGraph.World
