import AnimationGraph.Control.Trees
import AnimationGraph.Proofs.Execution.Units
import Mathlib.Data.List.Nodup
import Std.Data.String.ToNat

/-! # Operators with a description

Until an operator is made for a description, one without a description stands in for it; but the first one that is made
takes the place of the one that stands in (`operators_faithful`).
-/

namespace AnimationGraph

open List

inductive OperatorStep where
 | request (description : String)
 | create

def OperatorStep.run : OperatorStep → Act
 | request d => operatorFor d >>= fun _ => pure ()
 | create => createDescribedOperators

def operatorId (k : Nat) : String := s!"an.invoke_function_{k}"

/-- Of those with an id name the last one registered counts; the first of all is the one that stands in. -/
def World.operatorAt? (w : World) (id : String) : Option String :=
 ((("", operatorId 0) :: w.describedOperators).reverse.find? (·.2 == id)).map (·.1)

def Numbered (w : World) : Prop := w.describedOperators.map (·.2) = (range w.describedOperators.length).map operatorId

namespace Numbered

theorem eq_of_id (numbered : Numbered w) (first : e ∈ w.describedOperators) (second : f ∈ w.describedOperators)
  (same : e.2 = f.2) : e = f := by
 have injective : Function.Injective operatorId := fun _ _ same =>
  Nat.repr_injective ((String.append_right_inj _).mp same)
 have distinct : (w.describedOperators.map (·.2)).Nodup := numbered ▸ nodup_range.map injective
 exact inj_on_of_nodup_map distinct first second same

theorem operatorAt (numbered : Numbered w) (mem : e ∈ w.describedOperators) : w.operatorAt? e.2 = some e.1 := by
 have found : w.describedOperators.reverse.find? (·.2 == e.2) = some e := by
  cases search : w.describedOperators.reverse.find? (·.2 == e.2) with
  | none => simpa using find?_eq_none.mp search e (by simpa)
  | some f =>
   have isEntry := mem_reverse.mp (mem_of_find?_eq_some search)
   rw [numbered.eq_of_id isEntry mem (by simpa using find?_some search)]
 rw [World.operatorAt?, reverse_cons, find?_append, found]
 rfl

theorem create (d : String) (numbered : Numbered w) : ∃ w', createOperator d i w = .ok () w' ∧ Numbered w' :=
 ⟨_, rfl, by
  change map _ (w.describedOperators ++ [(d, operatorId _)]) = map _ (range (w.describedOperators ++ [_]).length)
  simp [range_succ, numbered.symm]⟩

end Numbered

theorem operatorFor_known {w : World} {id : String} (known : w.describedOperators.lookup d = some id) :
  operatorFor d i w = .ok id w := by
 simp [operatorFor, look, known, bind, Run.bind, pure, Run.pure]

theorem operatorFor_missing {w : World} (missing : w.describedOperators.lookup d = none) : operatorFor d i w =
  .ok (operatorId 0) { w with pendingDescriptions := insertSorted d w.pendingDescriptions } := by
 simp [operatorFor, look, missing, change, bind, Run.bind, pure, Run.pure]
 rfl

theorem Numbered.step (numbered : Numbered w) : ∀ s : OperatorStep, ∃ w', s.run i w = .ok () w' ∧ Numbered w'
 | .request d => by
  cases known : w.describedOperators.lookup d with
  | some id => exact ⟨w, Run.bind_eq (operatorFor_known known), numbered⟩
  | none => exact ⟨_, Run.bind_eq (operatorFor_missing known), numbered⟩
 | .create => by
  obtain ⟨w', run, numbered⟩ := Run.forM_returns (fun _ => Numbered) (fun _ d _ _ _ now => now.create d) numbered
  exact ⟨{ w' with pendingDescriptions := [] }, (Run.bind_eq run).trans rfl, numbered⟩

/-- A description whose operator has been made has its own one.  The others get the id name of the first operator, which
stands for no description only as long as none is made. -/
theorem operators_faithful (steps : List OperatorStep) {w : World} (fresh : w.describedOperators = []) :
  ∃ w', steps.forM (·.run) i w = .ok () w' ∧
   (∀ d id, w'.describedOperators.lookup d = some id → operatorFor d i w' = .ok id w' ∧
    w'.operatorAt? id = some d ∧ ∀ e, w'.describedOperators.lookup e = some id → e = d) ∧
   ∀ d, w'.describedOperators.lookup d = none → (∃ w'', operatorFor d i w' = .ok (operatorId 0) w'') ∧
    (w'.operatorAt? (operatorId 0) = some "" ↔ ∀ e ∈ w'.describedOperators.head?, e.1 = "") := by
 have start : Numbered w := by simp [Numbered, fresh]
 obtain ⟨w', run, numbered⟩ := Run.forM_returns (fun _ => Numbered) (fun _ s _ _ _ now => now.step s) start
 refine ⟨w', run, fun d id known => ?_, fun d missing => ⟨⟨_, operatorFor_missing missing⟩, ?_⟩⟩
 · have entry (e : String) (known : w'.describedOperators.lookup e = some id) : (e, id) ∈ w'.describedOperators := by
    obtain ⟨_, _, split, _⟩ := lookup_eq_some_iff.mp known
    simp [split]
   refine ⟨operatorFor_known known, numbered.operatorAt (entry d known), fun e also => ?_⟩
   exact congrArg Prod.fst (numbered.eq_of_id (entry e also) (entry d known) rfl)
 · cases table : w'.describedOperators with
   | nil => simp [World.operatorAt?, table]
   | cons e rest =>
    have first : e.2 = operatorId 0 := by
     simp [Numbered, table, range_succ_eq_map] at numbered
     exact numbered.1
    rw [← first, numbered.operatorAt (table ▸ mem_cons_self)]
    simp

theorem removal_stands_in : ∃ w', [OperatorStep.request "Remove", .create].forM (·.run) constantly {} = .ok () w' ∧
  w'.operatorAt? (operatorId 0) = some "Remove" ∧ ∃ w'', operatorFor "Add" constantly w' = .ok (operatorId 0) w'' := by
 obtain ⟨w', run, known, missing⟩ := @operators_faithful constantly [.request "Remove", .create] {} rfl
 have table : w'.describedOperators = [("Remove", operatorId 0)] := by
  cases run
  rfl
 exact ⟨w', run, (known "Remove" _ (by rw [table]; rfl)).2.1, (missing "Add" (by rw [table]; rfl)).1⟩

end AnimationGraph
