import AnimationGraph.Proofs.Execution.Units
import AnimationGraph.Proofs.Midi.Envelope

/-! # All notes at once

The levels of all numbers of notes are found in one go: the notes that are heard are picked first, and then those of each
number.  They are the levels that are found number by number (`levels_agree`).
-/

namespace AnimationGraph.Midi

open List

section

variable [Monad m] [LawfulMonad m] [Reckoning m α] {e : Envelope m α}

/-- The notes of a track are compared without effects. -/
structure Envelope.Compares (e : Envelope m α) (notes : List (PlayedNote α)) (time ch : α)
  (onChannel heard : PlayedNote α → Bool) (numbered : Nat → PlayedNote α → Bool) : Prop where
 channel : ∀ n ∈ notes, Reckoning.same n.channel ch = (pure (onChannel n) : m Bool)
 number : ∀ n ∈ notes, ∀ k, Reckoning.same n.number (Reckoning.whole m k) = (pure (numbered k n) : m Bool)
 hear : ∀ n ∈ notes, e.isHeard time n = pure (heard n)

namespace Envelope.Compares

variable (compares : e.Compares notes time ch onChannel heard numbered)

include compares

theorem levelOf_eq (k : Nat) : e.levelOf notes time ch (Reckoning.whole m k) = (do
  loudest (← ((notes.filter fun n => onChannel n && heard n).filter (numbered k)).mapM (e.level · time))) := by
 rw [Envelope.levelOf, filter_filter, filterM_pure, pure_bind]
 intro n mem
 rw [compares.channel n mem, compares.number n mem, pure_bind, pure_bind]
 cases onChannel n <;> cases numbered k n <;> simp [compares.hear n mem]

/-- It does not matter in which order the notes are picked. -/
theorem levels_eq : e.levels notes time ch = (range 128).mapM fun k => e.levelOf notes time ch (Reckoning.whole m k) := by
 have picked : notes.filterM (fun n => do
   if ← (Reckoning.same n.channel ch : m Bool) then e.isHeard time n else return false) =
   pure (notes.filter fun n => onChannel n && heard n) := filterM_pure fun n mem => by
  rw [compares.channel n mem, pure_bind]
  cases onChannel n <;> simp [compares.hear n mem]
 rw [Envelope.levels, picked, pure_bind]
 congr 1
 funext k
 rw [compares.levelOf_eq, filterM_pure fun n mem => compares.number n (mem_filter.mp mem).1 k, pure_bind]

end Envelope.Compares

end

/-- A note with whole numbers for its channel and its number, and fractions for its times. -/
def PlayedNote.IsTyped (n : PlayedNote Value) : Prop :=
 ∃ (ch num : Int) (timeOn timeOff : Float), n.channel = ch ∧ n.number = num ∧ n.timeOn = timeOn ∧ n.timeOff = timeOff

theorem isHeard_pure {e : Envelope Run Value} {n : PlayedNote Value} {release timeOn timeOff : Float} (time : Float)
  (released : e.releaseTime = release) (started : n.timeOn = timeOn) (ended : n.timeOff = timeOff) :
  ∃ heard, e.isHeard time n = pure heard := by
 have atLeast (x y : Float) : ∃ b, Reckoning.atLeast (x : Value) (y : Value) = (pure b : Ask) := ⟨_, rfl⟩
 have added : Reckoning.add (timeOff : Value) (release : Value) = (pure ((timeOff + release : Float) : Value) : Eval) := rfl
 obtain ⟨_ | _, late⟩ := atLeast (timeOff + release) time
 · exact ⟨false, by simp [Envelope.isHeard, released, ended, added, late]⟩
 · obtain ⟨b, early⟩ := atLeast time timeOn
   exact ⟨b, by simp [Envelope.isHeard, released, started, ended, added, late, early]⟩

theorem compares_typed {e : Envelope Run Value} {release : Float} (time : Float) (ch : Int)
  (released : e.releaseTime = release) (typed : ∀ n ∈ notes, n.IsTyped) :
  ∃ onChannel heard numbered, e.Compares notes time ch onChannel heard numbered := by
 have whole (a b : Int) : Reckoning.same (a : Value) (b : Value) = (pure (Number.eq (.whole a) (.whole b)) : Ask) := rfl
 choose! channel number timeOn timeOff onChannel numbered started ended using typed
 choose! heard hear using fun n mem => isHeard_pure time released (started n mem) (ended n mem)
 exact ⟨_, heard, _, fun n mem => by rw [onChannel n mem, whole], fun n mem k => by rw [numbered n mem]; exact whole .., hear⟩

section

variable [Field K] [LinearOrder K]

/-- The shapes of an envelope are defined for all parts. -/
def Envelope.IsShaped (e : Envelope (Except Cause) K) : Prop :=
 ∀ shape ∈ [e.attackShape, e.decayShape, e.releaseShape], ∀ x ∈ Set.Icc 0 1, ∃ y, shape x = .ok y

theorem Envelope.IsShaped.within {e : Envelope (Except Cause) K} (shaped : e.IsShaped) : e.Within Set.univ := by
 simp only [Envelope.IsShaped, forall_mem_cons] at shaped
 constructor <;> simp_all

variable [FloorRing K]

theorem compares_exact (e : Envelope (Except Cause) K) (notes : List (PlayedNote K)) (time ch : K) :
  e.Compares notes time ch (fun n => n.channel = ch) (fun n => n.timeOn ≤ time ∧ time ≤ n.timeOff + e.releaseTime)
   fun k n => n.number = k := by
 refine ⟨fun _ _ => rfl, fun _ _ _ => rfl, fun n _ => ?_⟩
 simp only [Envelope.isHeard, Reckoning.atLeast, Reckoning.add, bind, Except.bind, pure, Except.pure]
 by_cases time ≤ n.timeOff + e.releaseTime <;> simp [*]

theorem loudest_returns [IsStrictOrderedRing K] (ls : List K) : ∃ v, (loudest ls : Except Cause K) = .ok v := by
 cases ls with
 | nil => exact ⟨_, rfl⟩
 | cons first rest =>
  obtain ⟨v, -, found, -⟩ := Reckoning.greatest_spec first rest
  exact ⟨v, found⟩

theorem levelOf_returns [IsStrictOrderedRing K] {e : Envelope (Except Cause) K} (shaped : e.IsShaped)
  (notes : List (PlayedNote K)) (time ch : K) (k : Nat) : ∃ v, e.levelOf notes time ch (k : K) = .ok v := by
 have levels := (compares_exact e notes time ch).levelOf_eq k
 generalize picked : filter _ (notes.filter _) = heard at levels
 have each : ∀ n ∈ heard, ∃ v, e.level n time = .ok v := fun n mem => by
  obtain ⟨v, -, told⟩ := shaped.within.level_defined (fun _ _ => trivial) (by grind : time ≤ n.timeOff + e.releaseTime)
  exact ⟨v, told⟩
 choose! level told using each
 rw [mapM_ok told] at levels
 obtain ⟨v, found⟩ := loudest_returns (heard.map level)
 exact ⟨v, levels.trans found⟩

end

theorem levels_agree :
  (∀ (e : Envelope Run Value) (release : Float) (notes : List (PlayedNote Value)) (time : Float) (ch : Int),
   e.releaseTime = release → (∀ n ∈ notes, n.IsTyped) →
   e.levels notes time ch = (range 128).mapM fun k : ℕ => e.levelOf notes time ch k) ∧
  ∀ (K : Type) [Field K] [LinearOrder K] [IsStrictOrderedRing K] [FloorRing K] (e : Envelope (Except Cause) K)
   (notes : List (PlayedNote K)) (time ch : K), e.IsShaped →
   ∃ vs, e.levels notes time ch = .ok vs ∧ vs.length = 128 ∧
    ∀ k (inside : k < vs.length), e.levelOf notes time ch (k : K) = .ok vs[k] := by
 constructor
 · intro e release notes time ch released typed
   obtain ⟨_, _, _, compares⟩ := compares_typed time ch released typed
   exact compares.levels_eq
 · intro K _ _ _ _ e notes time ch shaped
   choose v told using levelOf_returns shaped notes time ch
   exact ⟨_, (compares_exact e notes time ch).levels_eq.trans (mapM_ok fun k _ => told k), by simp, by simp [told]⟩

theorem chord_levels_agree :
  (let e : Envelope Run Value := ⟨(1 : Float), pure, (1 : Float), pure, (0.5 : Float), (1 : Float), pure, (1 : Float)⟩
   let note : PlayedNote Value := ⟨(0 : Int), (60 : Int), (0 : Float), (3 : Float), (1 : Float)⟩
   e.levels [note] (2 : Float) (0 : Int) = (range 128).mapM fun k : ℕ => e.levelOf [note] (2 : Float) (0 : Int) k) ∧
  ∃ vs : List ℚ, Envelope.levels (m := Except Cause) ⟨1, .ok, 1, .ok, 1 / 2, 1, .ok, 1⟩
   [⟨0, 60, 0, 3, 1⟩, ⟨1, 64, 1, 4, 1 / 2⟩] 2 0 = .ok vs ∧ vs.length = 128 := by
 constructor
 · exact levels_agree.1 _ 1 _ 2 0 rfl (by simpa using ⟨0, 60, 0, 3, rfl, rfl, rfl, rfl⟩)
 · obtain ⟨vs, told, length, -⟩ := levels_agree.2 ℚ ⟨1, .ok, 1, .ok, 1 / 2, 1, .ok, 1⟩
    [⟨0, 60, 0, 3, 1⟩, ⟨1, 64, 1, 4, 1 / 2⟩] 2 0 (by simp [Envelope.IsShaped])
   exact ⟨vs, told, length⟩

end AnimationGraph.Midi
