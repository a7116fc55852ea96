import AnimationGraph.Midi
import Mathlib.Algebra.Group.Nat.Defs

/-! # Files of the standard format

The grammar of MIDI files relates what a file says to the bytes that may stand for it.  Reading any of
these bytes gives back the file (`ofBytes_written`); only a note that starts with velocity 0 is read as
its end.
-/

namespace AnimationGraph.Midi

open List

/-- Seven bits of the number in each byte; all bytes but the last one are marked. -/
def Quantity (n : Nat) (bs : List UInt8) : Prop :=
 ∃ high low, bs = high ++ [low] ∧ (∀ b ∈ high, 128 ≤ b.toNat) ∧ low.toNat < 128 ∧
  n = bs.foldl (fun acc b => acc * 128 + b.toNat % 128) 0

def Numeral (size n : Nat) (bs : List UInt8) : Prop :=
 bs.length = size ∧ n = bs.foldl (fun acc b => acc * 256 + b.toNat) 0

def ChannelMessage.code : ChannelMessage → Nat
 | .noteOff .. => 0x8
 | .noteOn .. => 0x9
 | .notePressure .. => 0xA
 | .controller .. => 0xB
 | .program .. => 0xC
 | .channelPressure .. => 0xD
 | .pitchBend .. => 0xE

def TextKind.code : TextKind → UInt8
 | .text => 0x01
 | .copyright => 0x02
 | .trackName => 0x03
 | .instrumentName => 0x04
 | .lyric => 0x05
 | .marker => 0x06
 | .cuePoint => 0x07
 | .programName => 0x08
 | .deviceName => 0x09

/-- The type and the content of a message about the file. -/
inductive MetaMessage.Written : MetaMessage → UInt8 → List UInt8 → Prop
 | sequenceNumber {n bs} : Numeral 2 n bs → Written (.sequenceNumber n) 0x00 bs
 | text {kind} (bs) : Written (.text kind (.ofList (bs.map fun b => Char.ofNat b.toNat))) kind.code bs
 | channelPrefix (c) : Written (.channelPrefix c.toNat) 0x20 [c]
 | device (n) : Written (.device n.toNat) 0x21 [n]
 | endOfTrack : Written .endOfTrack 0x2F []
 | tempo {n bs} : Numeral 3 n bs → Written (.tempo n) 0x51 bs
 | smpteOffset (h m s f x) : Written (.smpteOffset h.toNat m.toNat s.toNat f.toNat x.toNat) 0x54 [h, m, s, f, x]
 | timeSignature (a b c d) : Written (.timeSignature a.toNat b.toNat c.toNat d.toNat) 0x58 [a, b, c, d]
 | keySignature (a m) : Written (.keySignature a.toNat m.toNat) 0x59 [a, m]
 | sequencer (bs) : Written (.sequencer bs) 0x7F bs

namespace Message

def status : Message → Nat
 | .channel c m => 16 * m.code + c
 | .info _ => 0xFF
 | .sysEx _ => 0xF0
 | .escape _ => 0xF7

inductive Data : Message → List UInt8 → Prop
 | channel {c m bs} : c < 16 → (∀ b ∈ bs, b.toNat < 128) → bs.map (·.toNat) = m.parts.2 → Data (.channel c m) bs
 | info {m type len bs} : m.Written type bs → Quantity bs.length len → Data (.info m) (type :: (len ++ bs))
 | sysEx {len bs} : Quantity bs.length len → Data (.sysEx bs) (len ++ bs)
 | escape {len bs} : Quantity bs.length len → Data (.escape bs) (len ++ bs)

def heard : Message → Message
 | .channel c (.noteOn note velocity) => .channel c (if velocity == 0 then .noteOff note 0 else .noteOn note velocity)
 | m => m

end Message

/-- The event as it is read. -/
def Event.heard (e : Event) : Event := ⟨e.delta, e.message.heard⟩

/-- An event behind one with this status, which need not be repeated by another one of the same channel and kind. -/
inductive Event.Written (running : Nat) : Event → List UInt8 → Prop
 | full {delta m time data} : Quantity delta time → m.Data data →
   Written running ⟨delta, m⟩ (time ++ UInt8.ofNat m.status :: data)
 | short {delta c m time data} : Quantity delta time → (Message.channel c m).Data data →
   running = (Message.channel c m).status → Written running ⟨delta, .channel c m⟩ (time ++ data)

inductive TrackWritten : Nat → List Event → List UInt8 → Prop
 | last {running delta bs} : Event.Written running ⟨delta, .info .endOfTrack⟩ bs →
   TrackWritten running [⟨delta, .info .endOfTrack⟩] bs
 | next {running e es bs rest} : e.Written running bs → e.endsTrack = false →
   TrackWritten e.message.status es rest → TrackWritten running (e :: es) (bs ++ rest)

inductive TracksWritten : List (List Event) → List UInt8 → Prop
 | nil : TracksWritten [] []
 | cons {es ts l bs rest} : Numeral 4 bs.length l → TrackWritten 0 es bs → TracksWritten ts rest →
   TracksWritten (es :: ts) (0x4D :: 0x54 :: 0x72 :: 0x6B :: (l ++ (bs ++ rest)))

/-- A file of the standard format, whose header has six bytes. -/
inductive FileWritten : Nat → Nat → List (List Event) → List UInt8 → Prop
 | intro {format resolution tracks f k r bs} : Numeral 2 format f → Numeral 2 tracks.length k →
   Numeral 2 resolution r → TracksWritten tracks bs →
   FileWritten format resolution tracks (0x4D :: 0x54 :: 0x68 :: 0x64 :: 0 :: 0 :: 0 :: 6 :: (f ++ (k ++ (r ++ bs))))

namespace Reader

theorem bind_ok {f : α → Reader β} (read : x bs = .ok (a, rest)) : (x >>= f) bs = f a rest := by
 change (x bs >>= fun p => f p.1 p.2) = _
 rw [read]
 rfl

theorem quantity_written (written : Quantity n bs) : quantity (bs ++ rest) = .ok (n, rest) := by
 obtain ⟨high, low, rfl, marked, unmarked, rfl⟩ := written
 have go (acc : Nat) : quantityOf acc (high ++ [low] ++ rest) =
   .ok ((high ++ [low]).foldl (fun acc b => acc * 128 + b.toNat % 128) acc, rest) := by
  induction high generalizing acc with
  | nil => simp [quantityOf, unmarked]
  | cons b high ih =>
   have large := marked b (by simp)
   simp only [cons_append, quantityOf, if_neg (Nat.not_lt.mpr large), foldl_cons]
   exact ih (fun c mem => marked c (by simp [mem])) _
 exact go 0

theorem bigEndian_written (written : Numeral size n bs) : bigEndian size 0 (bs ++ rest) = .ok (n, rest) := by
 obtain ⟨rfl, rfl⟩ := written
 have go (acc : Nat) : bigEndian bs.length acc (bs ++ rest) =
   .ok (bs.foldl (fun acc b => acc * 256 + b.toNat) acc, rest) := by
  induction bs generalizing acc with
  | nil => rfl
  | cons b bs ih => exact ih _
 exact go 0

theorem exactly_append (short : bs.length < 2 ^ 63) : exactly bs.length (bs ++ rest) = .ok (bs, rest) := by
 have below : ¬bs.length ≥ Nat.pow 2 63 := Nat.not_le.mpr short
 have fits : ¬(bs ++ rest).length < bs.length := by simp
 rw [exactly, if_neg below, if_neg fits, take_left, drop_left]

theorem metaMessage_written {type : UInt8} (written : m.Written type bs)
  (size : Quantity bs.length len) (short : bs.length < 2 ^ 63) :
  metaMessage (type :: (len ++ (bs ++ rest))) = .ok (m, rest) := by
 rw [metaMessage, bind_ok (a := type.toNat) rfl, bind_ok (quantity_written size)]
 cases written with
 | text =>
  rename_i kind
  have : textKind? kind.code.toNat = some kind := by cases kind <;> rfl
  simp only [this, text]
  rw [bind_ok]
  rfl
  rw [bind_ok (exactly_append short)]
  rfl
 | sequenceNumber numeral => exact bind_ok (bigEndian_written numeral)
 | tempo numeral => exact bind_ok (bigEndian_written numeral)
 | sequencer => exact bind_ok (exactly_append short)
 | _ => rfl

theorem channelMessage_written (low : c < 16) (same : bs.map (·.toNat) = m.parts.2) :
  channelMessage (16 * m.code + c) (bs ++ rest) = .ok ((Message.channel c m).heard, rest) := by
 have code : (16 * m.code + c) / 16 = m.code := by omega
 have number : (16 * m.code + c) % 16 = c := by omega
 rw [channelMessage, code, number]
 cases m with
 | program | channelPressure =>
  obtain ⟨a, _, rfl, rfl, none⟩ := map_eq_cons_iff.mp same
  cases map_eq_nil_iff.mp none
  rfl
 | _ =>
  obtain ⟨a, _, rfl, rfl, more⟩ := map_eq_cons_iff.mp same
  obtain ⟨b, _, rfl, rfl, none⟩ := map_eq_cons_iff.mp more
  cases map_eq_nil_iff.mp none
  rfl

theorem code_range (m : ChannelMessage) : 8 ≤ m.code ∧ m.code < 15 := by
 cases m <;> simp [ChannelMessage.code]

theorem message_written {m : Message} {data : List UInt8} (written : m.Data data) (short : data.length < 2 ^ 63) :
  message? m.status (data ++ rest) = .ok (some m.heard, rest) := by
 cases written with
 | channel low small same =>
  rename_i c m
  have range := code_range m
  rw [Message.status, message?, if_neg (by simp; omega), if_neg (by simp; omega), if_neg (by simp; omega),
   if_pos (by omega)]
  exact bind_ok (channelMessage_written low same)
 | info known size =>
  simp only [length_cons, length_append] at short
  rw [cons_append, append_assoc]
  exact bind_ok (metaMessage_written known size (by omega))
 | sysEx size | escape size =>
  rw [length_append] at short
  rw [append_assoc]
  exact (bind_ok (quantity_written size)).trans (bind_ok (exactly_append (by omega)))

theorem status_full {m : Message} (written : m.Data data) (running : Nat) :
  status running (UInt8.ofNat m.status :: rest) = .ok (m.status, rest) := by
 have large : 128 ≤ m.status ∧ m.status < 256 := by
  cases written with
  | @channel c m _ low =>
   have range := code_range m
   simp only [Message.status]
   omega
  | _ => simp [Message.status]
 have same : (UInt8.ofNat m.status).toNat = m.status := by simp; omega
 simp only [status, same, if_pos large.1]

theorem status_short (written : (Message.channel c m).Data bs) (running : Nat) :
  status running (bs ++ rest) = .ok (running, bs ++ rest) := by
 cases written with
 | channel low small same =>
  cases bs with
  | nil => cases m <;> cases same
  | cons b bs => simp only [cons_append, status, if_neg (Nat.not_le.mpr (small b (by simp)))]

theorem event_written {e : Event} {running : Nat} (written : e.Written running bs) (short : bs.length < 2 ^ 63) :
  event running (bs ++ rest) = .ok ((some e.heard, e.message.status), rest) := by
 cases written with
 | full time known =>
  simp only [length_append, length_cons] at short
  rw [append_assoc, cons_append, event, bind_ok (quantity_written time),
   bind_ok (status_full known running), bind_ok (message_written known (by omega))]
  rfl
 | short time known same =>
  rw [length_append] at short
  rw [append_assoc, event, bind_ok (quantity_written time), bind_ok (status_short known running), same,
   bind_ok (message_written known (by omega))]
  rfl

theorem endsTrack_heard (e : Event) : e.heard.endsTrack = e.endsTrack := by
 rcases e with ⟨_, ⟨_, _ | _⟩ | _ | _ | _⟩ <;> rfl

theorem events_written {es : List Event} (written : TrackWritten running es bs)
  (short : bs.length < 2 ^ 63) :
  events running (bs ++ rest) = .ok (es.map (some ·.heard), rest) := by
 induction written with
 | last known =>
  rw [events, event_written known short]
  rfl
 | @next running e es bs more known goesOn _ ih =>
  rw [length_append] at short
  have begun : 0 < bs.length := by
   cases known with
   | full | short => grind [Quantity]
  rw [append_assoc, events, event_written known (by omega)]
  simp only [Option.any_some, endsTrack_heard, goesOn]
  rw [if_neg (by simp), if_pos (by simp; omega), ih (by omega)]
  rfl

theorem numeral_lt (written : Numeral size n bs) : n < 256 ^ size := by
 obtain ⟨rfl, rfl⟩ := written
 have go (acc : Nat) : bs.foldl (fun acc b => acc * 256 + b.toNat) acc < (acc + 1) * 256 ^ bs.length := by
  induction bs generalizing acc with
  | nil => simp
  | cons b bs ih =>
   calc _ < (acc * 256 + b.toNat + 1) * 256 ^ bs.length := ih _
    _ ≤ (acc + 1) * 256 * 256 ^ bs.length := Nat.mul_le_mul_right _ (by have := b.toNat_lt; omega)
    _ = _ := by rw [length_cons, Nat.pow_succ', Nat.mul_assoc]
 simpa using go 0

theorem track_written {len : List UInt8} (size : Numeral 4 bs.length len) (written : TrackWritten 0 es bs) :
  track (0x4D :: 0x54 :: 0x72 :: 0x6B :: (len ++ (bs ++ rest))) = .ok (⟨es.map (some ·.heard)⟩, rest) := by
 have short := numeral_lt size
 have header : chunk (0x4D :: 0x54 :: 0x72 :: 0x6B :: (len ++ (bs ++ rest))) = .ok (bs.length, bs ++ rest) :=
  bigEndian_written size
 rw [track, bind_ok header]
 exact bind_ok (events_written written (by omega))

theorem tracks_written {ts : List (List Event)} (written : TracksWritten ts bs) :
  tracks ts.length bs = .ok (ts.map fun es => ⟨es.map (some ·.heard)⟩, []) := by
 induction written with
 | nil => rfl
 | cons size known _ ih =>
  rw [length_cons, tracks, bind_ok (track_written size known), bind_ok ih]
  rfl

end Reader

/-- Reading a file of the standard format gives its tracks with all their events; only a note that starts with
velocity 0 is read as one that ends. -/
theorem ofBytes_written {format resolution : Nat} {tracks : List (List Event)} {bs : List UInt8}
  (written : FileWritten format resolution tracks bs) :
  File.ofBytes bs = .ok ⟨format, resolution, tracks.map fun es => ⟨es.map (some ·.heard)⟩⟩ := by
 obtain ⟨f, k, r, rest⟩ := written
 rw [File.ofBytes, if_neg (by simp), Reader.file, Reader.bind_ok (a := 6) rfl,
  Reader.bind_ok (Reader.bigEndian_written f), Reader.bind_ok (Reader.bigEndian_written k),
  Reader.bind_ok (Reader.bigEndian_written r), Reader.bind_ok (Reader.tracks_written rest)]
 rfl

/-- After a pause of 200 ticks, one note starts twice with one status for both, the second time silently. -/
def pausedNote : List Event :=
 [⟨200, .info (.tempo 500000)⟩, ⟨0, .channel 1 (.noteOn 60 64)⟩, ⟨5, .channel 1 (.noteOn 60 0)⟩, ⟨0, .info .endOfTrack⟩]

def pausedNoteBytes : List UInt8 :=
 [0x4D, 0x54, 0x68, 0x64, 0, 0, 0, 6, 0, 1, 0, 1, 0, 96, 0x4D, 0x54, 0x72, 0x6B, 0, 0, 0, 19,
 0x81, 0x48, 0xFF, 0x51, 3, 0x07, 0xA1, 0x20, 0, 0x91, 60, 64, 5, 60, 0, 0, 0xFF, 0x2F, 0]

theorem pausedNote_read :
  FileWritten 1 96 [pausedNote] pausedNoteBytes ∧
   File.ofBytes pausedNoteBytes = .ok ⟨1, 96, [⟨pausedNote.map (some ·.heard)⟩]⟩ := by
 have one (b : UInt8) (low : b.toNat < 128) : Quantity b.toNat [b] := ⟨[], b, rfl, by simp, low, by simp; omega⟩
 have pause : Quantity 200 [0x81, 0x48] := ⟨[0x81], 0x48, rfl, by simp, by decide, rfl⟩
 have tempo : (MetaMessage.tempo 500000).Written 0x51 [0x07, 0xA1, 0x20] := .tempo ⟨rfl, rfl⟩
 have loud : (Message.channel 1 (.noteOn 60 64)).Data [60, 64] := .channel (by decide) (by simp) rfl
 have silent : (Message.channel 1 (.noteOn 60 0)).Data [60, 0] := .channel (by decide) (by simp) rfl
 have track : TrackWritten 0 pausedNote _ :=
  .next (.full pause (.info tempo (one 3 (by decide)))) rfl <|
  .next (.full (one 0 (by decide)) loud) rfl <|
  .next (.short (one 5 (by decide)) silent rfl) rfl <|
  .last (.full (one 0 (by decide)) (.info .endOfTrack (one 0 (by decide))))
 have written : FileWritten 1 96 [pausedNote] pausedNoteBytes :=
  .intro (f := [0, 1]) (k := [0, 1]) (r := [0, 96]) ⟨rfl, rfl⟩ ⟨rfl, rfl⟩ ⟨rfl, rfl⟩
   (.cons (l := [0, 0, 0, 19]) ⟨rfl, rfl⟩ track .nil)
 exact ⟨written, ofBytes_written written⟩

end AnimationGraph.Midi
