import AnimationGraph.Proofs.Execution.Guard
import AnimationGraph.Proofs.Forest.Keys

/-! # Detecting changes of names

A check compares the set of all names with the one that it found the last time.  So it notices when a name comes into
use or goes out of use, but not when names change their places.
-/

namespace AnimationGraph

def World.names (w : World) : Texts :=
 w.ownTrees.flatMap fun t =>
  (w.forest.tree t).name :: (w.forest.tree t).nodes.toList.map fun n => (w.forest.node n).name

theorem namesChanged_eq (i : Interface) (w : World) : ∃ w', w'.knownNames = some (sortedSet w.names) ∧
  namesChanged i w = .ok (w.knownNames != some (sortedSet w.names)) w' := by
 change ∃ w', _ ∧ (if w.knownNames == some (sortedSet w.names) then pure false
  else change (fun w' => { w' with knownNames := some (sortedSet w.names) }) >>= fun _ => pure true : Run Bool) i w = _
 by_cases known : w.knownNames = some (sortedSet w.names)
 · exact ⟨w, known, by simp [known, pure, Run.pure]⟩
 · exact ⟨{ w with knownNames := some (sortedSet w.names) }, rfl, by simp [known, bind, Run.bind, change, pure, Run.pure]⟩

/-- Something that is done to trees and nodes between two checks. -/
structure Revision where
 apply : World → World
 apart : ∀ w, (apply w).knownNames = w.knownNames

def nameChecks (i : Interface) : World → List Revision → List (World × Bool)
 | _, [] => []
 | w, e :: es =>
  match namesChanged i (e.apply w) with
  | .ok answer w' => (e.apply w, answer) :: nameChecks i w' es
  | .failed _ w' => nameChecks i w' es

/-- A check notices that a name has come into use or gone out of use. -/
def Notices (last now : World × Bool) : Prop := now.2 = true ↔ ∃ s, ¬ (s ∈ last.1.names ↔ s ∈ now.1.names)

theorem checks_after (known : w.knownNames = some (sortedSet v.names)) (b : Bool)
  (es : List Revision) : ((v, b) :: nameChecks i w es).IsChain Notices ∧ (nameChecks i w es).length = es.length := by
 induction es generalizing v w b with
 | nil => exact ⟨.singleton _, rfl⟩
 | cons e es ih =>
  obtain ⟨w', known', answer⟩ := namesChanged_eq i (e.apply w)
  rw [nameChecks, answer]
  obtain ⟨chain, length⟩ := ih known' _
  refine ⟨.cons_cons ?_ chain, by simp [length]⟩
  rw [Notices, e.apart, known, bne_iff_ne, ne_eq, Option.some_inj, sortedSet_eq_iff, not_forall]

/-- All checks answer.  But for the first one, they say yes exactly if the names in use are not those of the check before. -/
theorem checks_compare_names (i : Interface) (w : World) (es : List Revision) :
  (nameChecks i w es).length = es.length ∧ (nameChecks i w es).IsChain Notices := by
 cases es with
 | nil => exact ⟨rfl, .nil⟩
 | cons e es =>
  obtain ⟨w', known, answer⟩ := namesChanged_eq i (e.apply w)
  rw [nameChecks, answer]
  obtain ⟨chain, length⟩ := checks_after (i := i) known _ es
  exact ⟨by simp [length], chain⟩

def naming (first second : String) : Revision where
 apply w := { w with forest := {
  present := #[⟨0⟩], trees := #[{ name := "T", nodes := #[⟨0⟩, ⟨1⟩] }]
  nodes := #[⟨⟨0⟩, "an_ViewerNode", first, #[], #[], [], []⟩, ⟨⟨0⟩, "an_ViewerNode", second, #[], #[], [], []⟩] } }
 apart _ := rfl

/-- Two nodes have exchanged their names, and the check says no. -/
theorem exchange_unnoticed : (nameChecks constantly {} [naming "a" "b", naming "b" "a"]).map (fun p =>
  ((p.1.forest.node ⟨0⟩).name, (p.1.forest.node ⟨1⟩).name, p.2)) = [("a", "b", true), ("b", "a", false)] := by
 decide +kernel

end AnimationGraph
