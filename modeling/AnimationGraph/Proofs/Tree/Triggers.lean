import AnimationGraph.Execution.Update

/-! # Triggers

A trigger compares what the texts of all watched values form together, and takes no text for no state.  So it fires for each
change, and only then, as long as different texts form different states and none of them forms none (`fires_exactly_iff`).
-/

namespace AnimationGraph

/-- A trigger that is enabled, and whose paths can be resolved: where `P last texts` holds, it keeps this last state, and these
are the texts of what it watches. -/
structure Watching (i : Interface) (c : CellId) (P : String → List Texts → World → Prop) : Prop where
 keeps {s ts w} : P s ts w → c.attr "lastState" i w = .ok s w
 enabled {s ts w} : P s ts w → holds c "enabled" i w = .ok true w
 resolves {s ts w} : P s ts w → ∃ w', watchedTexts c i w = .ok ts w' ∧ P s ts w'
 writes {s ts w} (new : String) : P s ts w → ∃ w', c.set "lastState" new i w = .ok () w' ∧ P new ts w'

theorem Watching.update (watching : Watching i c P) (here : P s ts w) :
  ∃ w', triggerFires c i w = .ok (s != formed ts && s != "") w' ∧ P (formed ts) ts w' := by
 obtain ⟨w₁, read, here₁⟩ := watching.resolves here
 by_cases same : s = formed ts
 · refine ⟨w₁, ?_, same ▸ here₁⟩
   simp [triggerFires, watchedState, bind, Run.bind, pure, Run.pure, watching.keeps here, read, Value.is, same]
 · obtain ⟨w₂, written, here₂⟩ := watching.writes (formed ts) here₁
   refine ⟨w₂, ?_, here₂⟩
   simp [triggerFires, watchedState, bind, Run.bind, pure, Run.pure, watching.keeps here, read, Value.is, same, written,
    watching.enabled here₂, bne]

/-- In every run of such a trigger, an update after the first tells whether the texts have changed, unless they have changed to
ones that form the same text, or from ones that form no text. -/
theorem fires_exactly_iff (watching : Watching i c P) {s : String} {ts : Nat → List Texts} {w : Nat → World}
  (start : P s (ts 0) (w 0))
  (between : ∀ k b s w', triggerFires c i (w k) = .ok b w' → P s (ts k) w' → P s (ts (k + 1)) (w (k + 1))) (k : Nat) :
  ∃ fired w', triggerFires c i (w (k + 1)) = .ok fired w' ∧ ((fired = true ↔ ts (k + 1) ≠ ts k) ↔
   (ts (k + 1) ≠ ts k → formed (ts k) ≠ formed (ts (k + 1)) ∧ formed (ts k) ≠ "")) := by
 have step (k : Nat) (s : String) (here : P s (ts k) (w k)) : P (formed (ts k)) (ts (k + 1)) (w (k + 1)) := by
  obtain ⟨w', done, kept⟩ := watching.update here
  exact between k _ _ w' done kept
 have kept : P (formed (ts k)) (ts (k + 1)) (w (k + 1)) := by
  induction k with
  | zero => exact step 0 s start
  | succ k ih => exact step (k + 1) _ ih
 obtain ⟨w', done, -⟩ := watching.update kept
 refine ⟨_, w', done, ?_⟩
 by_cases same : ts (k + 1) = ts k <;> simp [same]

/-- An interface that keeps all attributes in one place, with one value that every path resolves to. -/
def plainly : Interface where
 attr _ name w := .ok ((w.registers.get? name).getD .none) w
 setAttr _ name x w := .ok () { w with registers := w.registers.set name x }
 invoke _ _ _ w := .ok ((w.registers.get? "pair").getD .none) w
 apply _ _ w := .ok .none w

def pairOf (last x y : String) : World where
 registers := [("lastState", last), ("pair", .tuple [.str x, .str y]), ("enabled", true), ("hasError", false),
  ("idType", "COLLECTION"), ("collection", true), ("all_objects", .tuple [true]), ("dataPaths", "pair")]

theorem watching_pair : Watching plainly ⟨0⟩ fun s ts w => ∃ x y, ts = [[x, y]] ∧ w = pairOf s x y where
 keeps := by
  rintro s _ _ ⟨x, y, rfl, rfl⟩
  rfl
 enabled := by
  rintro s _ _ ⟨x, y, rfl, rfl⟩
  rfl
 resolves := by
  rintro s _ _ ⟨x, y, rfl, rfl⟩
  exact ⟨pairOf s x y, rfl, x, y, rfl, rfl⟩
 writes new := by
  rintro ⟨x, y, rfl, rfl⟩
  exact ⟨pairOf new x y, rfl, x, y, rfl, rfl⟩

/-- 1 and 23 form the same text as 12 and 3: it is not told that they have changed. -/
theorem pair_unnoticed : ∃ fired w', triggerFires ⟨0⟩ plainly (pairOf "123" "12" "3") = .ok fired w' ∧
  ¬(fired = true ↔ [["12", "3"]] ≠ [["1", "23"]]) := by
 obtain ⟨fired, w', done, exact⟩ := @fires_exactly_iff plainly ⟨0⟩ _ watching_pair ""
  (fun | 0 => [["1", "23"]] | _ => [["12", "3"]]) (fun | 0 => pairOf "" "1" "23" | _ => pairOf "123" "12" "3")
  ⟨_, _, rfl, rfl⟩ (by
   rintro (_ | k) b s _ done ⟨x, y, -, rfl⟩ <;> cases congrArg World.registers (Outcome.ok.inj done).2 <;>
    exact ⟨_, _, rfl, rfl⟩) 0
 exact ⟨fired, w', done, fun h => absurd (exact.mp h) (by decide)⟩

end AnimationGraph
