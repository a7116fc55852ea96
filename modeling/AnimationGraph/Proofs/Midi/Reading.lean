import AnimationGraph.Proofs.Midi.RoundTrip

/-! # Reading events

Whatever the bytes are, reading a track ends: each event takes at least one byte (`events_end`).  A place stays empty for
each data byte that comes before the first status, and only for these (`events_places`).
-/

namespace AnimationGraph.Midi.Reader

open List

/-- Reading one event after the other comes to an end with this result. -/
inductive Ends : Nat → List UInt8 → Except Fault (List (Option Event) × List UInt8) → Prop
 | failed : event running bs = .error f → Ends running bs (.error f)
 | last {status} : event running bs = .ok ((e, status), rest) → e.any Event.endsTrack = true →
   Ends running bs (.ok ([e], rest))
 | next {status} : event running bs = .ok ((e, status), rest) → e.any Event.endsTrack = false →
   Ends status rest r → Ends running bs (r.map fun (es, rest) => (e :: es, rest))

variable {running status : Nat}

/-- What is left lies behind what has been read. -/
class Forward (x : Reader α) : Prop where
 suffix {bs a rest} : x bs = .ok (a, rest) → rest <:+ bs

theorem of_bind {f : α → Reader β} (read : (x >>= f) bs = .ok (b, rest)) :
  ∃ a mid, x bs = .ok (a, mid) ∧ f a mid = .ok (b, rest) := by
 change (x bs >>= fun p => f p.1 p.2) = _ at read
 cases first : x bs with
 | error => simp [first, bind, Except.bind] at read
 | ok p => exact ⟨p.1, p.2, rfl, by simpa [first, bind, Except.bind] using read⟩

instance (a : α) : Forward (pure a : Reader α) where
 suffix read := by
  cases read
  exact suffix_rfl

instance (f : Fault) : Forward (throw f : Reader α) where
 suffix read := by cases read

instance forward_bind (x : Reader α) (f : α → Reader β) [Forward x] [next : ∀ a, Forward (f a)] : Forward (x >>= f) where
 suffix read := by
  obtain ⟨a, mid, first, second⟩ := of_bind read
  exact ((next a).suffix second).trans (Forward.suffix first)

instance : Forward byte where
 suffix {bs a rest} read := by
  cases bs with
  | nil => cases read
  | cons b bs =>
   cases read
   exact suffix_cons b rest

instance (n : Nat) : Forward (exactly n) where
 suffix read := by
  unfold exactly at read
  split at read
  · cases read
  · split at read
    · cases read
    · cases read
      exact drop_suffix n _

theorem quantity_read {n : Nat} (read : quantity bs = .ok (n, rest)) : ∃ time, Quantity n time ∧ bs = time ++ rest := by
 have go (acc : Nat) : quantityOf acc bs = .ok (n, rest) → ∃ high low, bs = high ++ [low] ++ rest ∧
   (∀ b ∈ high, 128 ≤ b.toNat) ∧ low.toNat < 128 ∧
   n = (high ++ [low]).foldl (fun acc b => acc * 128 + b.toNat % 128) acc := by
  clear read
  induction bs generalizing acc with
  | nil => nofun
  | cons b bs ih =>
   intro read
   rw [quantityOf] at read
   split at read
   next low =>
    cases read
    exact ⟨[], b, rfl, by simp, low, rfl⟩
   next large =>
    obtain ⟨high, low, rfl, marked, last, rfl⟩ := ih _ read
    exact ⟨b :: high, low, rfl, by simpa using ⟨Nat.not_lt.mp large, marked⟩, last, rfl⟩
 obtain ⟨high, low, same, marked, last, value⟩ := go 0 read
 exact ⟨high ++ [low], ⟨high, low, rfl, marked, last, value⟩, same⟩

instance : Forward quantity where
 suffix read := by
  obtain ⟨time, -, rfl⟩ := quantity_read read
  exact suffix_append time _

instance (n acc : Nat) : Forward (bigEndian n acc) := by
 induction n generalizing acc with
 | zero => exact inferInstanceAs (Forward (pure acc))
 | succ n ih => exact inferInstanceAs (Forward (byte >>= fun b => bigEndian n (acc * 256 + b)))

instance (n : Nat) : Forward (text n) := by
 unfold text
 infer_instance

instance (status : Nat) : Forward (channelMessage status) := by
 unfold channelMessage
 split <;> infer_instance

instance : Forward metaMessage := by
 refine @forward_bind _ _ byte _ _ fun type => @forward_bind _ _ quantity _ _ fun len => ?_
 split
 · infer_instance
 · split <;> infer_instance

instance (status : Nat) : Forward (message? status) := by
 unfold message?
 repeat' split
 all_goals infer_instance

/-- A reader takes some bytes for the time, looks at the byte behind them, and then goes forward. -/
theorem of_event (read : event running bs = .ok ((e, status), rest)) :
  ∃ delta time b more behind, Quantity delta time ∧ bs = time ++ b :: more ∧
   (128 ≤ b.toNat ∧ status = b.toNat ∧ behind = more ∨ b.toNat < 128 ∧ status = running ∧ behind = b :: more) ∧
   ∃ m, message? status behind = .ok (m, rest) ∧ e = m.map (⟨delta, ·⟩) := by
 obtain ⟨delta, mid, first, read⟩ := of_bind read
 obtain ⟨state, behind, second, read⟩ := of_bind read
 obtain ⟨m, last, third, read⟩ := of_bind read
 cases read
 obtain ⟨time, written, rfl⟩ := quantity_read first
 cases mid with
 | nil => cases second
 | cons b more =>
  refine ⟨delta, time, b, more, behind, written, rfl, ?_, m, third, rfl⟩
  simp only [Reader.status] at second
  split at second <;> cases second
  · exact .inl ⟨‹_›, rfl, rfl⟩
  · exact .inr ⟨Nat.not_le.mp ‹_›, rfl, rfl⟩

theorem event_advances (read : event running bs = .ok ((e, status), rest)) :
  ∃ used, used ≠ [] ∧ bs = used ++ rest := by
 obtain ⟨delta, time, b, more, behind, ⟨high, low, rfl, -⟩, rfl, looked, m, message, -⟩ := of_event read
 obtain ⟨used, rfl⟩ := Forward.suffix message
 obtain ⟨-, -, rfl⟩ | ⟨-, -, same⟩ := looked
 · exact ⟨high ++ [low] ++ b :: used, by simp, by simp⟩
 · exact ⟨high ++ [low] ++ used, by simp, by simp [← same]⟩

theorem ends_events (running : Nat) (bs : List UInt8) : Ends running bs (events running bs) := by
 rw [events]
 split
 next f failed => exact .failed failed
 next e status rest read =>
  obtain ⟨used, some, rfl⟩ := event_advances read
  split
  next last => exact .last read last
  next more =>
   have shorter : rest.length < (used ++ rest).length := by
    have := length_pos_iff.mpr some
    simp only [length_append]
    omega
   rw [if_pos shorter]
   exact .next read (Bool.not_eq_true _ ▸ more) (ends_events status rest)
termination_by bs.length

theorem Ends.unique (ended : Ends running bs r)
  (ended' : Ends running bs r') : r = r' := by
 induction ended generalizing r' with
 | failed read => cases ended' <;> simp_all
 | last read last => cases ended' <;> simp_all
 | next read more _ ih =>
  cases ended' with
  | next read' more' rest =>
   cases read.symm.trans read'
   rw [ih rest]
  | _ => simp_all

/-- Reading events always comes to an end, with events or a fault, and every event that is read takes at least one byte, also
where the byte that is looked at for a status is left for the data. -/
theorem events_end (running : Nat) (bs : List UInt8) :
  (∀ e status rest, event running bs = .ok ((e, status), rest) → ∃ used, used ≠ [] ∧ bs = used ++ rest) ∧
   ∀ r, Ends running bs r ↔ events running bs = r :=
 ⟨fun _ _ _ => event_advances, fun _ => ⟨(ends_events running bs).unique, fun same => same ▸ ends_events running bs⟩⟩

/-- A note under the status of the one before it takes three bytes of four. -/
theorem repeated_advances : event 0x90 [5, 60, 64, 0] = .ok ((some ⟨5, .channel 0 (.noteOn 60 64)⟩, 0x90), [0]) ∧
  ∃ used, used ≠ [] ∧ [5, 60, 64, 0] = used ++ [(0 : UInt8)] :=
 ⟨rfl, (events_end 0x90 _).1 _ _ _ rfl⟩

/-- Under a status, a message is read or there is a fault. -/
theorem message_of_status {m : Option Message} (large : 128 ≤ status)
  (read : message? status bs = .ok (m, rest)) : ∃ m', m = some m' := by
 unfold message? at read
 split at read
 · obtain ⟨info, _, -, read⟩ := of_bind read
   cases read
   exact ⟨.info info, rfl⟩
 split at read
 · obtain ⟨len, _, -, read⟩ := of_bind read
   obtain ⟨data, _, -, read⟩ := of_bind read
   cases read
   exact ⟨.sysEx data, rfl⟩
 split at read
 · obtain ⟨len, _, -, read⟩ := of_bind read
   obtain ⟨data, _, -, read⟩ := of_bind read
   cases read
   exact ⟨.escape data, rfl⟩
 · obtain ⟨m, _, -, read⟩ := of_bind read
   cases read
   exact ⟨m, rfl⟩

/-- Events of which the last one, and no other, ends the track. -/
def Whole (es : List (Option Event)) : Prop :=
 ∃ init last, es = (init ++ [last]).map some ∧ (∀ e ∈ init, e.endsTrack = false) ∧ last.endsTrack = true

theorem Whole.cons {e : Event} (whole : Whole es) (more : e.endsTrack = false) :
  Whole (some e :: es) := by
 obtain ⟨init, last, rfl, others, ends⟩ := whole
 exact ⟨e :: init, last, rfl, by simpa using ⟨more, others⟩, ends⟩

theorem event_of_status (large : 128 ≤ running)
  (read : event running bs = .ok ((e, status), rest)) : 128 ≤ status ∧ ∃ e', e = some e' := by
 obtain ⟨delta, time, b, more, behind, -, -, looked, m, message, rfl⟩ := of_event read
 have large : 128 ≤ status := by
  obtain ⟨high, rfl, -⟩ | ⟨-, rfl, -⟩ := looked <;> assumption
 obtain ⟨m, rfl⟩ := message_of_status large message
 exact ⟨large, _, rfl⟩

theorem map_eq_ok {r : Except Fault (List (Option Event) × List UInt8)}
  (same : r.map (fun (es, rest) => (e :: es, rest)) = .ok (es, rest)) : ∃ es', r = .ok (es', rest) ∧ es = e :: es' := by
 cases r with
 | error => cases same
 | ok p =>
  cases same
  exact ⟨p.1, rfl, rfl⟩

theorem Ends.whole (ended : Ends running bs (.ok (es, rest))) (large : 128 ≤ running) :
  Whole es := by
 generalize result : Except.ok (es, rest) = r at ended
 induction ended generalizing es rest with
 | failed => cases result
 | last read last =>
  cases result
  obtain ⟨-, e, rfl⟩ := event_of_status large read
  exact ⟨[], e, rfl, by simp, last⟩
 | next read more _ ih =>
  obtain ⟨es', rfl, rfl⟩ := map_eq_ok result.symm
  obtain ⟨large, e, rfl⟩ := event_of_status large read
  exact (ih large rfl).cons more

/-- As many places are empty as there are data bytes between the first time and the first status, all others hold the
events behind. -/
def Placed (bs : List UInt8) (es : List (Option Event)) : Prop :=
 ∃ delta time data s more places, Quantity delta time ∧ bs = time ++ data ++ s :: more ∧ (∀ d ∈ data, d.toNat < 128) ∧
  128 ≤ s.toNat ∧ es = replicate data.length none ++ places ∧ Whole places

theorem placed_of_status
  (written : Quantity delta time) (large : 128 ≤ s.toNat) (whole : Whole es) : Placed (time ++ s :: more) es :=
 ⟨delta, time, [], s, more, es, written, by simp, by simp, large, rfl, whole⟩

/-- A byte that is no status is the whole time of the next event. -/
theorem Placed.cons
  (placed : Placed (d :: more) es) (written : Quantity delta time) (small : d.toNat < 128) :
  Placed (time ++ d :: more) (none :: es) := by
 obtain ⟨_, _, data, s, more, places, ⟨high, low, rfl, marked, -⟩, same, others, large, rfl, whole⟩ := placed
 cases high with
 | nil =>
  cases same
  exact ⟨delta, time, d :: data, s, more, places, written, by simp, by simpa using ⟨small, others⟩, large, rfl, whole⟩
 | cons b high =>
  cases same
  exact absurd small (Nat.not_lt.mpr (marked d (by simp)))

theorem Ends.placed (ended : Ends 0 bs (.ok (es, rest))) : Placed bs es := by
 generalize result : Except.ok (es, rest) = r at ended
 generalize fresh : 0 = running at ended
 induction ended generalizing es rest with subst fresh
 | failed => cases result
 | last read last =>
  cases result
  obtain ⟨delta, time, b, more, behind, written, rfl, looked, m, message, rfl⟩ := of_event read
  obtain ⟨large, rfl, rfl⟩ | ⟨-, rfl, rfl⟩ := looked
  · obtain ⟨m, rfl⟩ := message_of_status large message
    exact placed_of_status written large ⟨[], _, rfl, by simp, last⟩
  · cases message
    cases last
 | next read more ended ih =>
  obtain ⟨es', rfl, rfl⟩ := map_eq_ok result.symm
  obtain ⟨delta, time, b, after, behind, written, rfl, looked, m, message, rfl⟩ := of_event read
  obtain ⟨large, rfl, rfl⟩ | ⟨small, rfl, rfl⟩ := looked
  · obtain ⟨m, rfl⟩ := message_of_status large message
    exact placed_of_status written large ((ended.whole large).cons more)
  · cases message
    exact (ih rfl rfl).cons written small

/-- What has been read of a track are events, of which only the last one ends the track, apart from empty places in front:
there is one for each data byte before the first status. -/
theorem events_places (read : events 0 bs = .ok (es, rest)) : Placed bs es :=
 Ends.placed (read ▸ ends_events 0 bs)

/-- Two data bytes without a status are no fault. -/
theorem unstated_places : events 0 [0, 60, 64, 0xFF, 0x2F, 0] = .ok ([none, none, some ⟨64, .info .endOfTrack⟩], []) ∧
  Placed [0, 60, 64, 0xFF, 0x2F, 0] [none, none, some ⟨64, .info .endOfTrack⟩] := by
 have ended : Ends 0 [0, 60, 64, 0xFF, 0x2F, 0] _ := .next rfl rfl (.next rfl rfl (.last rfl rfl))
 have read := (ends_events 0 _).unique ended
 exact ⟨read, events_places read⟩

end AnimationGraph.Midi.Reader
