import AnimationGraph.Proofs.Midi.Tempo
import AnimationGraph.Proofs.Reckoning

/-! # Notes from their starts and ends

A note sounds as long as it was started more often than ended.  Reading a track gives one note for each such time that
comes to an end, in the order of the ends, and fails exactly when a note is ended too often (`notes_paired`).
-/

namespace AnimationGraph.Midi

open List

/-- What a message adds to the starts of a note, given by channel and number, that have no end yet. -/
def Message.change (key : Nat × Nat) : Message → Int
 | .channel c (.noteOn n _) => if (c, n) = key then 1 else 0
 | .channel c (.noteOff n _) => if (c, n) = key then -1 else 0
 | _ => 0

/-- The starts of a note less its ends, among the first messages. -/
def balance (ms : List (Nat × Message)) (key : Nat × Nat) (k : Nat) : Int := ((ms.take k).map (·.2.change key)).sum

theorem balance_succ (here : ms[j]? = some p) : balance ms key (j + 1) = balance ms key j + p.2.change key := by
 simp [balance, take_add_one, here]

/-- Up to no place, a note has more ends than starts. -/
def Fair (ms : List (Nat × Message)) (j : Nat) : Prop := ∀ key, ∀ k ≤ j, 0 ≤ balance ms key k

/-- A note and the places of the messages that start and end it. -/
structure Span (α : Type) where
 (first last : Nat)
 note : Note α

/-- The balance is positive behind the first message and up to the last one, and 0 before and after. -/
def Span.Sounds (now level : Nat → α) (ms : List (Nat × Message)) (s : Span α) : Prop :=
 ∃ c n t v t' w, ms[s.first]? = some (t, .channel c (.noteOn n v)) ∧ ms[s.last]? = some (t', .channel c (.noteOff n w)) ∧
  s.first < s.last ∧ balance ms (c, n) s.first = 0 ∧ balance ms (c, n) (s.last + 1) = 0 ∧
  (∀ k, s.first < k → k ≤ s.last → 0 < balance ms (c, n) k) ∧ s.note = ⟨c, n, now t, now t', level v⟩

/-- The notes of all spans that end before a place, in the order of their ends. -/
def Told (now level : Nat → α) (ms : List (Nat × Message)) (j : Nat) (notes : List (Note α)) : Prop :=
 ∃ spans : List (Span α), notes = spans.map (·.note) ∧ (∀ s, s ∈ spans ↔ s.last < j ∧ s.Sounds now level ms) ∧
  spans.Pairwise (·.last < ·.last)

/-- What is known of a note at a place: since when it sounds, if it does. -/
inductive Held (now level : Nat → α) (ms : List (Nat × Message)) (j : Nat) (key : Nat × Nat) : Option (Sounding α) → Prop
 | silent : balance ms key j = 0 → Held now level ms j key none
 | sounding {x i t v} : ms[i]? = some (t, .channel key.1 (.noteOn key.2 v)) → i < j → balance ms key i = 0 →
   (∀ k, i < k → k ≤ j → 0 < balance ms key k) → x.count = balance ms key j → x.since = now t → x.velocity = level v →
   Held now level ms j key (some x)

/-- What has been read up to a place. -/
structure Reached (now level : Nat → α) (ms : List (Nat × Message)) (j : Nat) (s : TrackProgress α) : Prop where
 fair : Fair ms j
 held (key : Nat × Nat) : Held now level ms j key s.sounding[key]?
 told : Told now level ms j s.ended.reverse

variable {s s' : TrackProgress α}

theorem Held.more (held : Held now level ms j key (some x)) (here : ms[j]? = some p)
  (counted : (y.count : Int) = x.count + p.2.change key) (more : 0 < y.count) (since : y.since = x.since)
  (velocity : y.velocity = x.velocity) : Held now level ms (j + 1) key (some y) := by
 cases held with
 | sounding first before zero positive count time strength =>
  have total : (y.count : Int) = balance ms key (j + 1) := by rw [balance_succ here, ← count, counted]
  refine .sounding first (by omega) zero (fun k after upTo => ?_) total (since.trans time) (velocity.trans strength)
  rcases upTo.lt_or_eq with early | rfl
  · exact positive k after (by omega)
  · omega

theorem Held.count_pos (held : Held now level ms j key (some x)) : (x.count : Int) = balance ms key j ∧ 0 < x.count := by
 cases held with
 | sounding _ before _ positive count =>
  have := positive j before le_rfl
  omega

theorem Held.fair (held : Held now level ms j key o) : 0 ≤ balance ms key j := by
 cases held <;> omega

theorem Held.other (held : Held now level ms j key o) (here : ms[j]? = some p)
  (other : p.2.change key = 0) : Held now level ms (j + 1) key o := by
 cases o with
 | some x => exact held.more here (by omega) held.count_pos.2 rfl rfl
 | none =>
  cases held with
  | silent zero => exact .silent (by rw [balance_succ here, zero, other, add_zero])

theorem Told.append (told : Told now level ms j notes) (new : Option (Span α))
  (fresh : ∀ s, new = some s ↔ s.last = j ∧ s.Sounds now level ms) :
  Told now level ms (j + 1) (notes ++ (new.map (·.note)).toList) := by
 obtain ⟨spans, rfl, exact, sorted⟩ := told
 refine ⟨spans ++ new.toList, by cases new <;> simp, fun s => ?_, ?_⟩
 · rw [mem_append, Option.mem_toList, fresh, exact, ← or_and_right, Nat.lt_succ_iff_lt_or_eq]
 · refine pairwise_append.mpr ⟨sorted, by cases new <;> simp, fun s mem s' mem' => ?_⟩
   rw [Option.mem_toList, fresh] at mem'
   exact mem'.1 ▸ ((exact s).mp mem).1

theorem Reached.append (reached : Reached now level ms j s) (held : ∀ key, Held now level ms (j + 1) key s'.sounding[key]?)
  (new : Option (Span α)) (fresh : ∀ s, new = some s ↔ s.last = j ∧ s.Sounds now level ms)
  (ended : s'.ended = (new.map (·.note)).toList ++ s.ended) : Reached now level ms (j + 1) s' where
 fair key k upTo := by
  rcases upTo.lt_or_eq with early | rfl
  · exact reached.fair key k (by omega)
  · exact (held key).fair
 held := held
 told := by
  have := reached.told.append new fresh
  cases new <;> simpa [ended] using this

/-- Only the end of a note that sounds once ends a span. -/
theorem Reached.append_quiet (reached : Reached now level ms j s) (here : ms[j]? = some p)
  (held : ∀ key, Held now level ms (j + 1) key s'.sounding[key]?) (ended : s'.ended = s.ended)
  (quiet : ∀ c n w, p.2 = .channel c (.noteOff n w) → balance ms (c, n) j ≠ 1) : Reached now level ms (j + 1) s' := by
 refine reached.append held none (fun s => ⟨nofun, fun ⟨last, c, n, t, v, t', w, sounds⟩ => ?_⟩) ended
 obtain ⟨-, found, -, -, none, -⟩ := sounds
 rw [last, here, Option.some.injEq] at found
 subst found
 rw [last, balance_succ here] at none
 simp only [Message.change, if_true] at none
 exact absurd (by omega) (quiet c n w rfl)

theorem Reached.other (reached : Reached now level ms j s) (here : ms[j]? = some p) (same : s'.sounding = s.sounding)
  (ended : s'.ended = s.ended) (noStart : ∀ c n v, p.2 = .channel c (.noteOn n v) → False)
  (noEnd : ∀ c n w, p.2 = .channel c (.noteOff n w) → False) : Reached now level ms (j + 1) s' := by
 refine reached.append_quiet here (fun key => same ▸ (reached.held key).other here ?_) ended
  fun c n w found => (noEnd c n w found).elim
 unfold Message.change
 split
 next found => exact (noStart _ _ _ found).elim
 next found => exact (noEnd _ _ _ found).elim
 next => rfl

theorem Reached.start (reached : Reached now level ms j s)
  (here : ms[j]? = some (t, .channel key.1 (.noteOn key.2 v))) :
  Reached now level ms (j + 1) (s.start (now t) (level v) key) := by
 refine reached.append_quiet here (fun key' => ?_) rfl nofun
 have held := reached.held key'
 simp only [TrackProgress.start, Std.HashMap.getElem?_insert, beq_iff_eq]
 split
 next same =>
  subst same
  split
  next x found => exact (found ▸ held).more here (by simp [Message.change]) (by simp) rfl rfl
  next found =>
   rw [found] at held
   cases held with
   | silent zero =>
    have one : balance ms key (j + 1) = 1 := by simp [balance_succ here, zero, Message.change]
    refine .sounding here (by omega) zero (fun k after upTo => ?_) one.symm rfl rfl
    rw [show k = j + 1 by omega, one]
    decide
 next other => exact held.other here (if_neg other)

/-- The span that the end of a note closes is the only one. -/
theorem Span.closed_iff {s : Span α} (first : ms[i]? = some (t, .channel key.1 (.noteOn key.2 v)))
  (before : i < j) (zero : balance ms key i = 0) (positive : ∀ k, i < k → k ≤ j → 0 < balance ms key k)
  (here : ms[j]? = some (t', .channel key.1 (.noteOff key.2 w))) (none : balance ms key (j + 1) = 0) :
  some ⟨i, j, key.1, key.2, now t, now t', level v⟩ = some s ↔ s.last = j ∧ s.Sounds now level ms := by
 constructor
 · rintro ⟨⟩
   exact ⟨rfl, key.1, key.2, t, v, t', w, first, here, before, zero, none, positive, rfl⟩
 · rintro ⟨last, c, n, u, v', u', w', first', found, order, zero', -, positive', note⟩
   rw [last, here] at found
   cases found
   rw [last] at order positive'
   have same : s.first = i := by
    rcases Nat.lt_trichotomy s.first i with less | same | more
    · exact absurd zero (positive' i less before.le).ne'
    · exact same
    · exact absurd zero' (positive s.first more order.le).ne'
   rw [same, first] at first'
   cases first'
   rcases s with ⟨a, b, note⟩
   simp_all

theorem Reached.stop {t w : Nat} (reached : Reached now level ms j s)
  (here : ms[j]? = some (t, .channel key.1 (.noteOff key.2 w))) :
  (∃ s', s.stop (now t) key = .ok s' ∧ s'.tick = s.tick ∧ Reached now level ms (j + 1) s') ∨
  s.stop (now t) key = .error .notStarted ∧ balance ms key (j + 1) < 0 := by
 have held := reached.held key
 have self : balance ms key (j + 1) = balance ms key j - 1 := by
  rw [balance_succ here]
  simp [Message.change]
  rfl
 unfold TrackProgress.stop
 cases found : s.sounding[key]? with
 | none =>
  rw [found] at held
  cases held with
  | silent zero => exact .inr ⟨rfl, by omega⟩
 | some x =>
  rw [found] at held
  dsimp only
  split
  next one =>
   refine .inl ⟨_, rfl, rfl, ?_⟩
   cases held with
   | sounding first before zero positive count since velocity =>
    have none : balance ms key (j + 1) = 0 := by simp_all
    refine reached.append (fun key' => ?_) _ (fun _ => Span.closed_iff first before zero positive here none)
     (by simp [since, velocity])
    rw [Std.HashMap.getElem?_erase]
    split
    next same => exact beq_iff_eq.mp same ▸ .silent none
    next other => exact (reached.held key').other here (if_neg (by simpa using other))
  next more =>
   have ⟨count, pos⟩ := held.count_pos
   refine .inl ⟨_, rfl, rfl, reached.append_quiet here (fun key' => ?_) rfl ?_⟩
   · rw [Std.HashMap.getElem?_insert]
     split
     next same =>
      cases beq_iff_eq.mp same
      exact held.more here (by simp [Message.change]; omega) (by simp at more ⊢; omega) rfl rfl
     next other => exact (reached.held key').other here (if_neg (by simpa using other))
   · rintro _ _ _ ⟨⟩ (one : balance ms key j = 1)
     simp at more
     omega

/-- The time and the strength of a message can be told. -/
structure Timed [TimeNumber α] (res : Nat) (rs : List (TempoRecord α)) (now level : Nat → α) (p : Nat × Message) : Prop where
 time : secondsAt res rs p.1 = .ok (now p.1)
 strength {c n v : Nat} : p.2 = .channel c (.noteOn n v) →
  ∃ x full, TimeNumber.ofNat? v = some x ∧ TimeNumber.ofNat? 127 = some full ∧ level v = x / full

variable [TimeNumber α] {res : Nat} {rs : List (TempoRecord α)} {e : Event}

theorem step_reached (here : ms[j]? = some (s.tick + e.delta, e.message))
  (timed : Timed res rs now level (s.tick + e.delta, e.message)) (reached : Reached now level ms j s) :
  (∃ s', s.step res rs (some e) = .ok s' ∧ s'.tick = s.tick + e.delta ∧ Reached now level ms (j + 1) s') ∨
  s.step res rs (some e) = .error .notStarted ∧ ∃ key, balance ms key (j + 1) < 0 := by
 rcases e with ⟨delta, m⟩
 have reached : Reached now level ms j { s with tick := s.tick + delta } := ⟨reached.fair, reached.held, reached.told⟩
 simp only [TrackProgress.step, timed.time, bind, Except.bind]
 split
 · exact .inl ⟨_, rfl, rfl, reached.other here rfl rfl nofun nofun⟩
 next c n v =>
  obtain ⟨x, full, told, whole, same⟩ := timed.strength rfl
  simp only [told, whole, ← same]
  exact .inl ⟨_, rfl, rfl, reached.start (show _ = some (_, Message.channel (c, n).1 (.noteOn (c, n).2 v)) from here)⟩
 next c n w =>
  rcases reached.stop (show _ = some (_, Message.channel (c, n).1 (.noteOff (c, n).2 w)) from here) with ok | ⟨failed, negative⟩
  · exact .inl ok
  · exact .inr ⟨failed, _, negative⟩
 next noStart noEnd => exact .inl ⟨_, rfl, rfl, reached.other here rfl rfl noStart noEnd⟩

theorem run_reached (es : List Event) (done : List (Nat × Message)) (timed : ∀ p ∈ ms, Timed res rs now level p)
  (reached : Reached now level ms done.length s) (split : ms = done ++ timeline s.tick es) :
  (∃ s', (es.map some).foldlM (TrackProgress.step res rs) s = .ok s' ∧ Reached now level ms ms.length s') ∨
  (es.map some).foldlM (TrackProgress.step res rs) s = .error .notStarted ∧ ¬Fair ms ms.length := by
 induction es generalizing done s with
 | nil => exact .inl ⟨s, rfl, by simpa [split, timeline] using reached⟩
 | cons e es ih =>
  have here : ms[done.length]? = some (s.tick + e.delta, e.message) := by simp [split, timeline]
  rw [map_cons, foldlM_cons]
  rcases step_reached here (timed _ (mem_of_getElem? here)) reached with
   ⟨s', stepped, tick, reached⟩ | ⟨failed, key, negative⟩
  · rw [stepped]
    exact ih (done ++ [_]) (by simpa using reached) (by rw [split, timeline, tick, append_cons])
  · rw [failed]
    exact .inr ⟨rfl, fun fair => absurd negative (Int.not_lt.mpr (fair key _ (by simp [split, timeline])))⟩

theorem trackOf_cases (i : Nat) (es : List Event) (timed : ∀ p ∈ timeline 0 es, Timed res rs now level p) :
  (∃ name notes, trackOf res rs i ⟨es.map some⟩ = .ok ⟨name, i, notes⟩ ∧ Fair (timeline 0 es) (timeline 0 es).length ∧
   Told now level (timeline 0 es) (timeline 0 es).length notes) ∨
  trackOf res rs i ⟨es.map some⟩ = .error .notStarted ∧ ¬Fair (timeline 0 es) (timeline 0 es).length := by
 have start : Reached now level (timeline 0 es) 0 ({} : TrackProgress α) := {
  fair _ k upTo := by simp [Nat.le_zero.mp upTo, balance]
  held _ := by simpa using .silent rfl
  told := ⟨[], rfl, by simp, .nil⟩ }
 unfold trackOf
 rcases run_reached es [] timed start rfl with ⟨s, read, reached⟩ | ⟨failed, unfair⟩
 · rw [read]
   exact .inl ⟨s.name, _, rfl, reached.fair, reached.told⟩
 · rw [failed]
   exact .inr ⟨rfl, unfair⟩

/-- Reading a track fails when some note is ended more often than started; otherwise it tells the notes of all spans. -/
theorem notes_paired (i : Nat) (es : List Event) (timed : ∀ p ∈ timeline 0 es, Timed res rs now level p) :
  (trackOf res rs i ⟨es.map some⟩ = .error .notStarted ↔ ¬Fair (timeline 0 es) (timeline 0 es).length) ∧
  (Fair (timeline 0 es) (timeline 0 es).length → ∃ name notes,
   trackOf res rs i ⟨es.map some⟩ = .ok ⟨name, i, notes⟩ ∧
   Told now level (timeline 0 es) (timeline 0 es).length notes) := by
 rcases trackOf_cases i es timed with ⟨name, notes, read, fair, told⟩ | ⟨failed, unfair⟩
 · exact ⟨by simp [read, fair], fun _ => ⟨name, notes, read, told⟩⟩
 · exact ⟨by simp [failed, unfair], fun fair => absurd fair unfair⟩

theorem timed_exact (pos : 0 < res) (rs : List (TempoRecord ℚ)) (p : Nat × Message) :
  Timed res rs (clock res rs) (· / 127) p :=
 ⟨secondsAt_eq_clock pos rs p.1, fun _ => ⟨_, _, rfl, rfl, rfl⟩⟩

def nested : List Event := [⟨0, .channel 0 (.noteOn 60 64)⟩, ⟨1, .channel 0 (.noteOn 60 64)⟩, ⟨1, .channel 0 (.noteOff 60 0)⟩,
 ⟨1, .channel 0 (.noteOff 60 0)⟩]

theorem nested_fair (k : Nat) : Fair (timeline 0 nested) k := by
 rintro key (_ | _ | _ | _ | j) - <;> by_cases same : (0, 60) = key <;>
  simp [balance, nested, timeline, Message.change, same]

theorem nested_paired : ∃ name notes, trackOf 96 [] 0 ⟨nested.map some⟩ = (.ok ⟨name, 0, notes⟩ : Except Misfit (Track ℚ)) := by
 obtain ⟨name, notes, read, -⟩ := (notes_paired 0 nested fun p _ => timed_exact (show 0 < 96 by decide) [] p).2 (nested_fair _)
 exact ⟨name, notes, read⟩

/-- With exact arithmetic, the notes of a file in which no note has more ends than starts can be told if all tracks share
the tempo of the first one, by the format, or if there is one track.  Other files are refused. -/
theorem notes_told_iff {format res : Nat} (pos : 0 < res) (first : List Event) (others : List (List Event))
  (fair : ∀ es ∈ first :: others, Fair (timeline 0 es) (timeline 0 es).length) :
  let notes : Except Misfit (List (Track ℚ)) := (File.mk format res ((first :: others).map (⟨·.map some⟩))).notes
  (format = 1 ∨ others = [] → ∃ rs ts, tempoRecords res (first.map some) 0 [] = .ok rs ∧ notes = .ok ts ∧
   List.Forall₂ (fun (es, i) t => t.index = i ∧ Told (clock res rs) (· / 127) (timeline 0 es) (timeline 0 es).length t.notes)
    (if format = 1 then others else [first]).zipIdx ts) ∧
  (¬(format = 1 ∨ others = []) → notes = .error .noTempoTrack) := by
 obtain ⟨rs, told, -⟩ := tempoRecords_anchored pos 0 first (show Anchored res [] from trivial) (by simp)
 have tempo : (File.mk format res ((first :: others).map (⟨·.map some⟩))).tempo =
   if format = 1 ∨ others = [] then .ok rs else .error .noTempoTrack := by
  simp only [File.tempo, map_cons, told, bind, Except.bind]
  by_cases format = 1 <;> cases others <;> simp_all <;> rfl
 simp only [File.notes, tempo]
 constructor
 · intro single
   have sounding : (File.mk format res ((first :: others).map (⟨·.map some⟩))).soundingTracks =
     (if format = 1 then others else [first]).map (⟨·.map some⟩) := by
    unfold File.soundingTracks
    grind
   have each : ∀ p ∈ (if format = 1 then others else [first]).zipIdx, ∃ t,
     (t.index = p.2 ∧ Told (clock res rs) (· / 127) (timeline 0 p.1) (timeline 0 p.1).length t.notes) ∧
     trackOf res rs p.2 ⟨p.1.map some⟩ = .ok t := by
    rintro ⟨es, i⟩ mem
    have : es ∈ first :: others := by
     have := fst_mem_of_mem_zipIdx mem
     grind
    rcases trackOf_cases i es fun p _ => timed_exact pos rs p with ⟨name, notes, read, -, told⟩ | ⟨-, unfair⟩
    · exact ⟨_, ⟨rfl, told⟩, read⟩
    · exact absurd (fair es this) unfair
   have : Nonempty (Track ℚ) := ⟨"", 0, []⟩
   choose! track given read using each
   refine ⟨rs, _, told, ?_, forall₂_map_right_iff.mpr (forall₂_same.mpr given)⟩
   rw [if_pos single, sounding, zipIdx_map]
   exact mapM_map.trans (mapM_ok read)
 · intro many
   rw [if_neg many]
   rfl

theorem separate_told : (File.mk 2 96 [⟨nested.map some⟩, ⟨nested.map some⟩]).notes =
  (.error .noTempoTrack : Except Misfit (List (Track ℚ))) :=
 (notes_told_iff (show 0 < 96 by decide) nested [nested] (by simpa using nested_fair _)).2 (by simp)

end AnimationGraph.Midi
