import AnimationGraph.Proofs.Reckoning
import AnimationGraph.Sound

/-! # The samples of a mix

With exact arithmetic, the samples of a sound between two times are sums over the strips that play
(`samples_exact`).
-/

namespace AnimationGraph.Sound

section
variable {β : Type} {xs : Array β} {start stop : Int}

theorem getElem?_cut (front : 0 ≤ start) (order : start ≤ stop) (k : Nat) :
  (cut xs start stop)[k]? = if start + k < stop then xs[(start + k).toNat]? else none := by
 simp only [cut, if_neg (not_lt.mpr front), if_neg (not_lt.mpr (front.trans order)), Array.getElem?_extract]
 grind

theorem size_cut (front : 0 ≤ start) (order : start ≤ stop) :
  (cut xs start stop).size = min stop.toNat xs.size - min start.toNat xs.size := by
 simp [cut, if_neg (not_lt.mpr front), if_neg (not_lt.mpr (front.trans order))]

theorem addAt?_fits [AddZeroClass β] (xs : Array β) (pos : Nat) (ch : Array β) (fits : pos + ch.size ≤ xs.size) :
  ∃ ys, addAt? xs pos ch = some ys ∧ ys.size = xs.size ∧
   ∀ i, ys[i]? = xs[i]?.map (· + if pos ≤ i then ch[i - pos]?.getD 0 else 0) := by
 refine ⟨_, if_neg (by simp; omega), by simp, fun i => ?_⟩
 rw [Array.getElem?_mapIdx]
 congr 1
 funext x
 grind [add_zero]

end

variable {K : Type} [Field K] [LinearOrder K] [FloorRing K]

/-- A strip that does not end before it starts. -/
structure Clip (K : Type) [Field K] [LinearOrder K] where
 (start stop offset volume : K)
 samples : Array K
 ordered : start ≤ stop
 forward : 0 ≤ offset

def position (time : K) : Int := truncate (time * sampleRate)

namespace Clip

def strip (c : Clip K) : Strip (Except Cause) K K := ⟨.ok c.start, .ok c.stop, .ok c.offset, .ok c.samples, .ok c.volume⟩

/-- What a clip adds to the sample at a position. -/
def sampleAt (c : Clip K) (p : Int) : K :=
 if position c.start ≤ p ∧ p < position c.stop then
  (c.samples[(p - position c.start + position c.offset).toNat]?).elim 0 (c.volume * ·)
 else 0

end Clip

def clipSamples (clips : List (Clip K)) : K → K → Except Cause (Array K) := samplesBetween (.ok (clips.map Clip.strip))

variable [IsStrictOrderedRing K] {xs : Array K} {first last : Int}

omit [IsStrictOrderedRing K] in
theorem sampleAt_eq (time : K) : (sampleAt time : Except Cause Int) = .ok (position time) := rfl

theorem mixInto_exact (c : Clip K) (order : first ≤ last) (size : xs.size = (last - first + 1).toNat) :
  ∃ ys, c.strip.mixInto first last xs = .ok ys ∧ ys.size = xs.size ∧
   ∀ p, first ≤ p → p < last → ys[(p - first).toNat]? = xs[(p - first).toNat]?.map (· + c.sampleAt p) := by
 have ordered : position c.start ≤ position c.stop := truncate_mono (mul_le_mul_of_nonneg_right c.ordered (by simp))
 have forward : 0 ≤ position c.offset := truncate_nonneg (mul_nonneg c.forward (by simp))
 simp only [Strip.mixInto, Clip.strip, sampleAt_eq, bind, Except.bind, Clip.sampleAt]
 generalize position c.start = start, position c.stop = stop, position c.offset = offset at *
 by_cases apart : first > stop ∨ last < start
 · refine ⟨xs, if_pos (by simpa using apart), rfl, fun p after before => ?_⟩
   rw [if_neg (by omega)]
   simp
 · have front : 0 ≤ max first start + (offset - start) := by omega
   have inOrder : max first start + (offset - start) ≤ min last stop + (offset - start) := by omega
   obtain ⟨ys, added, same, each⟩ := addAt?_fits xs (max first start - first).toNat
    ((cut c.samples (max first start + (offset - start)) (min last stop + (offset - start))).map (· * c.volume)) <| by
    rw [Array.size_map, size_cut front inOrder]
    omega
   refine ⟨ys, by rw [if_neg (by simpa using apart), added]; rfl, same, fun p after before => ?_⟩
   rw [each, Array.getElem?_map, getElem?_cut front inOrder]
   congr 3
   funext x
   congr 1
   by_cases begun : start ≤ p
   · have place : max first start + (offset - start) + ((p - first).toNat - (max first start - first).toNat : Nat) =
       p - start + offset := by omega
     rw [if_pos (by omega), place]
     by_cases playing : p < stop
     · rw [if_pos (by omega), if_pos ⟨begun, playing⟩]
       cases c.samples[(p - start + offset).toNat]? <;> simp [mul_comm]
     · rw [if_neg (by omega), if_neg (by omega)]
       rfl
   · rw [if_neg (by omega), if_neg (by omega)]

/-- The samples of several clips are added in their order. -/
theorem mix_exact (clips : List (Clip K)) (order : first ≤ last) (size : xs.size = (last - first + 1).toNat) :
  ∃ ys, (clips.map Clip.strip).foldlM (Strip.mixInto first last) xs = .ok ys ∧ ys.size = xs.size ∧
   ∀ p, first ≤ p → p < last →
    ys[(p - first).toNat]? = xs[(p - first).toNat]?.map (· + (clips.map (·.sampleAt p)).sum) := by
 induction clips generalizing xs with
 | nil => exact ⟨xs, rfl, rfl, by simp⟩
 | cons c clips ih =>
  obtain ⟨ys, mixed, same, each⟩ := mixInto_exact c order size
  obtain ⟨zs, rest, same', each'⟩ := ih (same.trans size)
  refine ⟨zs, ?_, same'.trans same, fun p after before => ?_⟩
  · rw [List.map_cons, List.foldlM_cons, mixed]
    exact rest
  · rw [each' p after before, each p after before, Option.map_map]
    simp [Function.comp_def, add_assoc]

theorem clipSamples_ok (clips : List (Clip K)) (before : start < stop) :
  ∃ xs, clipSamples clips start stop = .ok xs ∧ (xs.size : Int) = position stop - position start + 1 ∧
   ∀ p, position start ≤ p → p < position stop →
    xs[(p - position start).toNat]? = some (clips.map (·.sampleAt p)).sum := by
 have order : position start ≤ position stop := truncate_mono (mul_le_mul_of_nonneg_right before.le (by simp))
 obtain ⟨xs, mixed, size, each⟩ := mix_exact clips order (Array.size_replicate (v := 0))
 refine ⟨xs, ?_, ?_, fun p after until' => ?_⟩
 · simp [clipSamples, samplesBetween, Reckoning.atMost, before, sampleAt_eq, bind, Except.bind, mixed]
 · simp [size]
   omega
 · rw [each p after until', Array.getElem?_replicate, if_pos (by omega)]
   simp

/-- With exact arithmetic, the sample at a position is the sum of what the clips add there, and two ranges agree where both
play; the sample at the end itself is not filled. -/
theorem samples_exact (clips : List (Clip K)) {start stop : K} (before : start < stop) :
  ∃ xs, clipSamples clips start stop = .ok xs ∧ (xs.size : Int) = position stop - position start + 1 ∧
   (∀ p, position start ≤ p → p < position stop →
    xs[(p - position start).toNat]? = some (clips.map (·.sampleAt p)).sum) ∧
   ∀ start' stop', start' < stop' → ∃ xs', clipSamples clips start' stop' = .ok xs' ∧
    ∀ p, position start ≤ p → p < position stop → position start' ≤ p → p < position stop' →
     xs[(p - position start).toNat]? = xs'[(p - position start').toNat]? := by
 obtain ⟨xs, told, size, each⟩ := clipSamples_ok clips before
 refine ⟨xs, told, size, each, fun start' stop' before' => ?_⟩
 obtain ⟨xs', told', -, each'⟩ := clipSamples_ok clips before'
 exact ⟨xs', told', fun p after until' after' before' => (each p after until').trans (each' p after' before').symm⟩

theorem early_exact : ∃ xs, clipSamples [⟨-1, 0, 1, 1 / 2, #[4], by simp, by simp⟩] (-2) (1 : ℚ) = .ok xs ∧
  (xs.size : Int) = 3 * sampleRate + 1 := by
 obtain ⟨xs, told, size, -⟩ := samples_exact [⟨-1, 0, 1, 1 / 2, #[4], by simp, by simp⟩] (show (-2 : ℚ) < 1 by norm_num)
 exact ⟨xs, told, size.trans (by decide +kernel)⟩

end AnimationGraph.Sound
