import AnimationGraph.Midi
import AnimationGraph.Proofs.Reckoning
import Mathlib.Analysis.Convex.Basic

/-! # The course of a note

With exact arithmetic, a track can be evaluated at any time, whatever the times of the envelope are: nothing is divided by
zero, and each shape is asked for parts of the way only (`levelOf_defined`).
-/

namespace AnimationGraph.Midi

open Reckoning

variable [Field K] [LinearOrder K]

/-- The times of an envelope are any numbers.  All that is a part of a whole is one by its type. -/
structure Course (K : Type) [Field K] [LinearOrder K] where
 (attackTime decayTime releaseTime : K)
 (attack decay release : Set.Icc (0 : K) 1 → Set.Icc (0 : K) 1)
 (sustain sensitivity : Set.Icc (0 : K) 1)

/-- A shape fails at a number that is no part. -/
def onParts (shape : Set.Icc (0 : K) 1 → Set.Icc (0 : K) 1) (x : K) : Except Cause K :=
 if part : x ∈ Set.Icc 0 1 then .ok (shape ⟨x, part⟩) else .error .value

def Course.envelope (c : Course K) : Envelope (Except Cause) K where
 attackTime := c.attackTime
 attackShape := onParts c.attack
 decayTime := c.decayTime
 decayShape := onParts c.decay
 sustainLevel := c.sustain
 releaseTime := c.releaseTime
 releaseShape := onParts c.release
 velocitySensitivity := c.sensitivity

/-- The notes of a track that are heard at a time. -/
def Course.heard (c : Course K) (notes : List (PlayedNote K)) (time ch num : K) : List (PlayedNote K) :=
 notes.filter fun n => n.channel = ch ∧ n.number = num ∧ n.timeOn ≤ time ∧ time ≤ n.timeOff + c.releaseTime

/-- Levels that an envelope does not leave, if its shapes are asked for parts of the way. -/
structure Envelope.Within (e : Envelope (Except Cause) K) (S : Set K) : Prop where
 silent : 0 ∈ S
 held : e.sustainLevel ∈ S
 attack : ∀ x ∈ Set.Icc 0 1, ∃ y ∈ S, e.attackShape x = .ok y
 decay : ∀ x ∈ Set.Icc 0 1, ∃ y, y * (1 - e.sustainLevel) + e.sustainLevel ∈ S ∧ e.decayShape x = .ok y
 release : ∀ x ∈ Set.Icc 0 1, ∃ y, (∀ v ∈ S, v * y ∈ S) ∧ e.releaseShape x = .ok y

/-- How hard a note is struck does not lead out of the levels. -/
def Envelope.Weighs (e : Envelope (Except Cause) K) (S : Set K) (note : PlayedNote K) : Prop :=
 ∀ v ∈ S, (1 - e.velocitySensitivity) * v + e.velocitySensitivity * note.velocity * v ∈ S

variable [IsStrictOrderedRing K] {c : Course K}
 {e : Envelope (Except Cause) K}

theorem div_part {x y : K} (start : 0 ≤ x) (before : x ≤ y) (pos : 0 < y) :
  x / y ∈ Set.Icc 0 1 ∧ 1 - x / y ∈ Set.Icc 0 1 := by
 have low : 0 ≤ x / y := div_nonneg start pos.le
 have high : x / y ≤ 1 := (div_le_one pos).mpr before
 exact ⟨⟨low, high⟩, by linarith, by linarith⟩

theorem mul_parts {x y : K} (x_part : x ∈ Set.Icc 0 1) (y_part : y ∈ Set.Icc 0 1) : x * y ∈ Set.Icc 0 1 :=
 ⟨mul_nonneg x_part.1 y_part.1, mul_le_one₀ x_part.2 y_part.1 y_part.2⟩

/-- A level between two others, given by a part. -/
theorem between_parts {x y s : K} (x_part : x ∈ Set.Icc 0 1) (y_part : y ∈ Set.Icc 0 1) (s_part : s ∈ Set.Icc 0 1) :
  (1 - s) * x + s * y ∈ Set.Icc 0 1 :=
 convex_Icc 0 1 x_part y_part (by linarith [s_part.2]) s_part.1 (by ring)

theorem Course.within (c : Course K) : c.envelope.Within (Set.Icc 0 1) where
 silent := by simp
 held := c.sustain.2
 attack x part := ⟨_, (c.attack ⟨x, part⟩).2, dif_pos _⟩
 decay x part := by
  refine ⟨_, ?_, dif_pos part⟩
  have between := between_parts (c.decay ⟨x, part⟩).2 (y := 1) (by simp) c.sustain.2
  rwa [mul_comm, mul_one] at between
 release x part := ⟨_, fun v within => mul_parts within (c.release ⟨x, part⟩).2, dif_pos part⟩

theorem Course.weighs (c : Course K) (struck : note.velocity ∈ Set.Icc 0 1) : c.envelope.Weighs (Set.Icc 0 1) note := by
 intro v within
 rw [mul_assoc]
 exact between_parts within (mul_parts struck within) c.sensitivity.2

variable [FloorRing K]

theorem Envelope.Within.heldLevel_defined (inside : e.Within S) (time timeOn timeOff : K) :
  ∃ v ∈ S, e.heldLevel time timeOn timeOff = .ok v := by
 simp only [Envelope.heldLevel, lesser_eq_min, sub, less, atMost, nought, whole, add, mul, bind, Except.bind, pure, Except.pure,
  Nat.cast_one]
 generalize min time timeOff - timeOn = passed
 by_cases silent : passed ≤ 0
 · exact ⟨0, inside.silent, by simp [silent]⟩
 by_cases early : passed < e.attackTime
 · have pos : 0 < e.attackTime := by linarith
   obtain ⟨v, within, asked⟩ := inside.attack _ (div_part (by linarith) early.le pos).1
   exact ⟨v, within, by simp [silent, early, div_eq pos.ne', asked]⟩
 by_cases late : passed - e.attackTime < e.decayTime
 · have pos : 0 < e.decayTime := by linarith
   obtain ⟨v, within, asked⟩ := inside.decay _ (div_part (by linarith) late.le pos).2
   exact ⟨_, within, by simp [silent, early, late, div_eq pos.ne', asked]⟩
 · exact ⟨e.sustainLevel, inside.held, by simp [silent, early, late]⟩

/-- A note that is heard has not been released for longer than the release takes. -/
theorem Envelope.Within.level_defined (inside : e.Within S) (weighs : e.Weighs S note)
  (heard : time ≤ note.timeOff + e.releaseTime) : ∃ v ∈ S, e.level note time = .ok v := by
 obtain ⟨held, within, told⟩ := inside.heldLevel_defined time note.timeOn note.timeOff
 simp only [Envelope.level, told, sub, greater, whole, add, mul, bind, Except.bind, pure, Except.pure, Nat.cast_one,
  decide_eq_true_eq]
 split
 next released =>
  have pos : 0 < e.releaseTime := by linarith
  obtain ⟨part, left, asked⟩ := inside.release _
   (div_part (x := time - note.timeOff) (by linarith) (by linarith) pos).2
  exact ⟨_, weighs _ (left held within), by simp [div_eq pos.ne', asked]⟩
 next => exact ⟨_, weighs held within, rfl⟩

theorem level_defined (struck : note.velocity ∈ Set.Icc 0 1) (heard : time ≤ note.timeOff + c.releaseTime) :
  ∃ v ∈ Set.Icc 0 1, c.envelope.level note time = .ok v := c.within.level_defined (c.weighs struck) heard

theorem levelOf_defined (c : Course K) (struck : ∀ n ∈ notes, n.velocity ∈ Set.Icc 0 1) (time ch num : K) :
  ∃ v ∈ Set.Icc 0 1, c.envelope.levelOf notes time ch num = .ok v ∧
   (c.heard notes time ch num = [] ∧ v = 0 ∨ ∃ n ∈ c.heard notes time ch num, c.envelope.level n time = .ok v) ∧
   ∀ n ∈ c.heard notes time ch num, ∃ l ≤ v, c.envelope.level n time = .ok l := by
 have listened : notes.filterM (m := Except Cause) (fun n => do
   if ← same n.channel ch then if ← same n.number num then c.envelope.isHeard time n else return false
   else return false) = .ok (c.heard notes time ch num) := by
  refine filterM_ok fun n => ?_
  simp only [Envelope.isHeard, same, atLeast, add, bind, Except.bind, pure, Except.pure, Course.envelope]
  by_cases n.channel = ch <;> by_cases n.number = num <;> by_cases time ≤ n.timeOff + c.releaseTime <;> simp [*]
 have each : ∀ n ∈ c.heard notes time ch num, ∃ l, l ∈ Set.Icc 0 1 ∧ c.envelope.level n time = .ok l := by
  intro n mem
  obtain ⟨known, heard⟩ := List.mem_filter.mp mem
  exact level_defined (struck n known) (of_decide_eq_true heard).2.2.2
 choose! level within told using each
 have run : c.envelope.levelOf notes time ch num = loudest ((c.heard notes time ch num).map level) := by
  rw [Envelope.levelOf, listened]
  exact congrArg (· >>= loudest) (mapM_ok told)
 generalize c.heard notes time ch num = heard at *
 cases heard with
 | nil => exact ⟨0, by simp, run, by simp, by simp⟩
 | cons n rest =>
  obtain ⟨v, given, found, top⟩ := greatest_spec (level n) (rest.map level)
  obtain ⟨n', mem, rfl⟩ := List.mem_map.mp (List.map_cons ▸ given)
  exact ⟨_, within n' mem, run.trans found, .inr ⟨n', mem, told n' mem⟩,
   fun n mem => ⟨_, top _ (List.mem_map_of_mem mem), told n mem⟩⟩

theorem released_defined : ∃ v ≤ (1 : ℚ), (Course.envelope ⟨0, -1, 2, id, id, id, ⟨0, by simp⟩, ⟨1, by simp⟩⟩).levelOf
  [⟨0, 60, 0, 1, 1⟩] 2 0 60 = .ok v := by
 obtain ⟨v, part, told, -⟩ := levelOf_defined ⟨0, -1, 2, id, id, id, ⟨0, by simp⟩, ⟨1, by simp⟩⟩
  (show ∀ n ∈ [(⟨0, 60, 0, 1, 1⟩ : PlayedNote ℚ)], n.velocity ∈ Set.Icc 0 1 by simp) 2 0 60
 exact ⟨v, part.2, told⟩

end AnimationGraph.Midi
