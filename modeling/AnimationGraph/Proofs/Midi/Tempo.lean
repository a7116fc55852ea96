import AnimationGraph.Midi
import Mathlib.MeasureTheory.Integral.IntervalIntegral.Basic

/-! # The time of a tick

Each tempo record holds the seconds that the records before it give for its tick.  With exact arithmetic this makes the
time of a tick the integral of the tempo in force (`seconds_integral`).
-/

namespace AnimationGraph.Midi

instance : TimeNumber ℚ where
 ofNat? n := some n

def timeline : Nat → List Event → List (Nat × Message)
 | _, [] => []
 | tick, e :: es => (tick + e.delta, e.message) :: timeline (tick + e.delta) es

def Message.tempo? : Message → Option Nat
 | .info (.tempo micros) => some micros
 | _ => none

def changes (tick : Nat) (es : List Event) : List (Nat × Nat) :=
 (timeline tick es).filterMap fun (tick, m) => m.tempo?.map (tick, ·)

/-- The microseconds of a quarter note from this tick to the next one: the last change up to it counts. -/
def tempoAt (es : List Event) (tick : Nat) : Nat :=
 (((changes 0 es).filter (·.1 ≤ tick)).getLast?.map (·.2)).getD 500000

/-- The record that counts at a tick; there is a default one at the start. -/
def governing (rs : List (TempoRecord ℚ)) (tick : Nat) : TempoRecord ℚ := (inForce rs tick).getD ⟨0, 0, 500000⟩

def clock (res : Nat) (rs : List (TempoRecord ℚ)) (tick : Nat) : ℚ :=
 (governing rs tick).seconds + (tick - (governing rs tick).tick : ℕ) * ((governing rs tick).micros / res / 1000000)

theorem secondsAt_eq_clock (pos : 0 < res) (rs : List (TempoRecord ℚ)) (tick : Nat) :
  secondsAt res rs tick = .ok (clock res rs tick) := by
 have : ¬res = 0 := by omega
 cases found : inForce rs tick <;> simp [secondsAt, clock, governing, found, this, TimeNumber.ofNat?, bind, Except.bind, pure, Except.pure]

theorem governing_cons (r : TempoRecord ℚ) (rs : List (TempoRecord ℚ)) (tick : Nat) :
  governing (r :: rs) tick = if r.tick ≤ tick then r else governing rs tick := by
 unfold governing inForce
 split <;> simp [*]

/-- Each record begins, at the time the ones before it give, no earlier than these. -/
def Anchored (res : Nat) : List (TempoRecord ℚ) → Prop
 | [] => True
 | r :: rs => Anchored res rs ∧ (∀ q ∈ rs, q.tick ≤ r.tick) ∧ r.seconds = clock res rs r.tick

theorem clock_zero (anchored : Anchored res rs) : clock res rs 0 = 0 := by
 induction rs with
 | nil => simp [clock, governing, inForce]
 | cons r rs ih =>
  obtain ⟨anchored, -, begun⟩ := anchored
  by_cases first : r.tick = 0
  · rw [first, ih anchored] at begun
    simp [clock, governing_cons, first, begun]
  · simpa [clock, governing_cons, first] using ih anchored

theorem clock_succ (anchored : Anchored res rs) (tick : Nat) :
  clock res rs (tick + 1) = clock res rs tick + (governing rs tick).micros / res / 1000000 := by
 induction rs with
 | nil => simp [clock, governing, inForce]; ring
 | cons r rs ih =>
  obtain ⟨anchored, -, begun⟩ := anchored
  specialize ih anchored
  unfold clock at ih begun ⊢
  simp only [governing_cons]
  rcases Nat.lt_trichotomy r.tick (tick + 1) with before | here | later
  · have : tick + 1 - r.tick = tick - r.tick + 1 := by omega
    simp only [if_pos (show r.tick ≤ tick by omega), if_pos (show r.tick ≤ tick + 1 by omega), this]
    push_cast
    ring
  · simp only [here, if_neg (show ¬tick + 1 ≤ tick by omega), if_pos (le_refl (tick + 1)), Nat.sub_self] at begun ⊢
    rw [begun, ← ih]
    simp
  · simp only [if_neg (show ¬r.tick ≤ tick by omega), if_neg (show ¬r.tick ≤ tick + 1 by omega), ih]

/-- What a record stores is the time of its tick, also when others at the same tick come after it. -/
theorem clock_record (anchored : Anchored res rs) (mem : r ∈ rs) : clock res rs r.tick = r.seconds := by
 induction rs with
 | nil => cases mem
 | cons q rs ih =>
  obtain ⟨anchored, ordered, begun⟩ := anchored
  have at_start : clock res (q :: rs) q.tick = q.seconds := by simp [clock, governing_cons]
  rcases List.mem_cons.mp mem with rfl | mem
  · exact at_start
  · rcases (ordered r mem).lt_or_eq with before | here
    · rw [← ih anchored mem]
      simp only [clock, governing_cons, if_neg (Nat.not_le.mpr before)]
    · rw [← ih anchored mem, here, at_start, begun]

/-- The changes a list of records stands for, the latest one first. -/
def recorded (rs : List (TempoRecord ℚ)) : List (Nat × Nat) := rs.map fun r => (r.tick, r.micros)

theorem changes_cons (tick : Nat) (e : Event) (es : List Event) : changes tick (e :: es) =
  (e.message.tempo?.map (tick + e.delta, ·)).toList ++ changes (tick + e.delta) es := by
 cases change : e.message.tempo? <;> simp [changes, timeline, change]

theorem tempoRecords_anchored (pos : 0 < res) (tick : Nat) (es : List Event) (anchored : Anchored res rs)
  (past : ∀ r ∈ rs, r.tick ≤ tick) : ∃ rs', tempoRecords res (es.map some) tick rs = .ok rs' ∧ Anchored res rs' ∧
   recorded rs' = (changes tick es).reverse ++ recorded rs := by
 induction es generalizing tick rs with
 | nil => exact ⟨rs, rfl, anchored, rfl⟩
 | cons e es ih =>
  rcases e with ⟨delta, m⟩
  have past : ∀ r ∈ rs, r.tick ≤ tick + delta := fun r mem => (past r mem).trans (by omega)
  simp only [List.map_cons, tempoRecords, secondsAt_eq_clock pos, bind, Except.bind]
  split
  next micros =>
   have begun : Anchored res (⟨tick + delta, clock res rs (tick + delta), micros⟩ :: rs) := ⟨anchored, past, rfl⟩
   obtain ⟨rs', told, anchored, same⟩ := ih (tick + delta) begun (by simpa using past)
   exact ⟨rs', told, anchored, by rw [same, changes_cons]; simp [Message.tempo?, recorded]⟩
  next other =>
   obtain ⟨rs', told, anchored, same⟩ := ih _ anchored past
   exact ⟨rs', told, anchored, by rw [same, changes_cons]; simp [Message.tempo?, recorded]⟩

theorem governing_eq_tempoAt (same : recorded rs = (changes 0 es).reverse) (tick : Nat) :
  (governing rs tick).micros = tempoAt es tick := by
 have found : (inForce rs tick).map (·.micros) = ((recorded rs).find? (·.1 ≤ tick)).map (·.2) := by
  simp [inForce, recorded, List.find?_map, Function.comp_def]
 rw [tempoAt, List.getLast?_filter, ← same, ← found, governing]
 cases inForce rs tick <;> rfl

/-- Between two ticks the tempo stays the same. -/
theorem integral_floor (f : Nat → Nat) (tick : Nat) :
  ∫ x in (0 : ℝ)..tick, (f ⌊x⌋₊ : ℝ) = ∑ i ∈ Finset.range tick, (f i : ℝ) := by
 have constant (i : Nat) : (Set.uIoo (i : ℝ) (i + 1 : ℕ)).EqOn (fun x => (f ⌊x⌋₊ : ℝ)) fun _ => f i := by
  intro x inside
  rw [Set.uIoo_of_le (by simp)] at inside
  have : ⌊x⌋₊ = i := (Nat.floor_eq_iff (i.cast_nonneg.trans inside.1.le)).mpr ⟨inside.1.le, by simpa using inside.2⟩
  simp [this]
 have pieces := intervalIntegral.sum_integral_adjacent_intervals (μ := MeasureTheory.volume) (n := tick) fun i _ =>
  (intervalIntegrable_congr_uIoo (constant i)).mpr intervalIntegrable_const
 rw [← Nat.cast_zero, ← pieces]
 refine Finset.sum_congr rfl fun i _ => ?_
 rw [intervalIntegral.integral_congr_uIoo (constant i)]
 simp

/-- With exact arithmetic, the time of a tick is the integral of the tempo in force. -/
theorem seconds_integral (format : Nat) (pos : 0 < res) (es : List Event) :
  ∃ (rs : List (TempoRecord ℚ)) (clock : Nat → ℚ),
   (File.mk format res [⟨es.map some⟩]).tempo = .ok rs ∧ (∀ t, secondsAt res rs t = .ok (clock t)) ∧
   (∀ t, (clock t : ℝ) = (∫ x in (0 : ℝ)..t, (tempoAt es ⌊x⌋₊ : ℝ)) / res / 1000000) ∧
   Monotone clock ∧ (∀ t, clock (t + 1) = clock t + tempoAt es t / res / 1000000) ∧
   ∀ r ∈ rs, clock r.tick = r.seconds := by
 obtain ⟨rs, told, anchored, same⟩ := tempoRecords_anchored pos 0 es (show Anchored res [] from trivial) (by simp)
 have succ (t : Nat) : clock res rs (t + 1) = clock res rs t + tempoAt es t / res / 1000000 := by
  rw [clock_succ anchored, governing_eq_tempoAt (by simpa [recorded] using same)]
 have sum (t : Nat) : clock res rs t = (∑ i ∈ Finset.range t, (tempoAt es i : ℚ)) / res / 1000000 := by
  induction t with
  | zero => simp [clock_zero anchored]
  | succ t ih => rw [succ, ih, Finset.sum_range_succ]; ring
 refine ⟨rs, clock res rs, ?_, secondsAt_eq_clock pos rs, fun t => ?_, ?_, succ, fun r => clock_record anchored⟩
 · simp [File.tempo, told]
 · rw [integral_floor, sum]
   push_cast
   rfl
 · refine monotone_nat_of_le_succ fun t => ?_
   rw [succ]
   exact le_add_of_nonneg_right (by positivity)

theorem slowing_integral : ∃ rs : List (TempoRecord ℚ),
  (File.mk 0 96 [⟨[some ⟨0, .info (.tempo 250000)⟩, some ⟨96, .info (.tempo 1000000)⟩]⟩]).tempo = .ok rs ∧
   ∀ r ∈ rs, secondsAt 96 rs r.tick = .ok r.seconds := by
 obtain ⟨rs, clock, told, time, -, -, -, stored⟩ := seconds_integral 0 (show 0 < 96 by decide)
  [⟨0, .info (.tempo 250000)⟩, ⟨96, .info (.tempo 1000000)⟩]
 exact ⟨rs, told, fun r mem => (time r.tick).trans (congrArg _ (stored r mem))⟩

end AnimationGraph.Midi
