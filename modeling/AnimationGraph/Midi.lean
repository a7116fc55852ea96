import AnimationGraph.Value.Basic
import Std.Data.HashMap

/-! # MIDI events

What a track of a MIDI file holds: messages, each a number of ticks after the one before.
-/

namespace AnimationGraph.Midi

inductive ChannelMessage where
 | noteOff (note velocity : Nat)
 | noteOn (note velocity : Nat)
 | notePressure (note pressure : Nat)
 | controller (number value : Nat)
 | program (number : Nat)
 | channelPressure (pressure : Nat)
 | pitchBend (low high : Nat)

inductive TextKind where
 | text | copyright | trackName | instrumentName | lyric | marker | cuePoint | programName
 | deviceName

inductive MetaMessage where
 | sequenceNumber (number : Nat)
 | text (kind : TextKind) (content : String)
 | channelPrefix (channel : Nat)
 | device (number : Nat)
 | endOfTrack
 | tempo (micros : Nat)
 | smpteOffset (hours minutes seconds frames fraction : Nat)
 | timeSignature (numerator denominator clocks thirtySeconds : Nat)
 | keySignature (accidentals minor : Nat)
 | sequencer (data : List UInt8)

inductive Message where
 | channel (number : Nat) (message : ChannelMessage)
 | info (message : MetaMessage)
 | sysEx (data : List UInt8)
 | escape (data : List UInt8)

structure Event where
 delta : Nat
 message : Message

def Event.endsTrack (e : Event) : Bool :=
 match e.message with
 | .info .endOfTrack => true
 | _ => false

inductive Part where
 | number (n : Nat)
 | text (s : String)
 | data (bytes : List UInt8)

def TextKind.label : TextKind -> String
 | .text => "TextEvent"
 | .copyright => "CopyrightEvent"
 | .trackName => "TrackNameEvent"
 | .instrumentName => "InstrumentNameEvent"
 | .lyric => "LyricEvent"
 | .marker => "MarkerEvent"
 | .cuePoint => "CuePointEvent"
 | .programName => "ProgramNameEvent"
 | .deviceName => "DeviceNameEvent"

def ChannelMessage.parts : ChannelMessage -> String × List Nat
 | .noteOff note vel => ("NoteOffEvent", [note, vel])
 | .noteOn note vel => ("NoteOnEvent", [note, vel])
 | .notePressure note pressure => ("NotePressureEvent", [note, pressure])
 | .controller num v => ("ControllerEvent", [num, v])
 | .program num => ("ProgramEvent", [num])
 | .channelPressure pressure => ("ChannelPressureEvent", [pressure])
 | .pitchBend low high => ("PitchBendEvent", [low, high])

def MetaMessage.parts : MetaMessage -> String × List Part
 | .sequenceNumber n => ("SequenceNumberEvent", [.number n])
 | .text kind s => (kind.label, [.text s])
 | .channelPrefix c => ("MidiChannelPrefixEvent", [.number c])
 | .device n => ("MidiPortEvent", [.number n])
 | .endOfTrack => ("EndOfTrackEvent", [])
 | .tempo t => ("TempoEvent", [.number t])
 | .smpteOffset h m s f x => ("SmpteOffsetEvent", [.number h, .number m, .number s, .number f, .number x])
 | .timeSignature a b c d => ("TimeSignatureEvent", [.number a, .number b, .number c, .number d])
 | .keySignature a m => ("KeySignatureEvent", [.number a, .number m])
 | .sequencer data => ("SequencerEvent", [.data data])

def Event.parts (e : Event) : String × List Part :=
 match e.message with
 | .channel c m => let (name, ns) := m.parts; (name, .number c :: ns.map .number)
 | .info m => m.parts
 | .sysEx data => ("SysExEvent", [.data data])
 | .escape data => ("EscapeSequenceEvent", [.data data])

/-- A track of a file. A place in it can be empty, where a data byte stands before any status. -/
structure FileTrack where
 events : List (Option Event)

/-- A MIDI file: how its tracks belong together, and the number of ticks in a quarter note. -/
structure File where
 (format resolution : Nat)
 tracks : List FileTrack

inductive Fault where
 | empty
 | truncated
 | chunkName | unknownMessage | length

def Fault.cause : Fault -> Cause
 | .empty => .value
 | .truncated => .truncated
 | .chunkName => .host "UnicodeDecodeError"
 | .unknownMessage => .key
 | .length => .overflow

abbrev Reader (α : Type) := StateT (List UInt8) (Except Fault) α

namespace Reader

def byte : Reader Nat := fun bs =>
 match bs with
 | [] => .error .truncated
 | b :: rest => .ok (b.toNat, rest)

def bigEndian : Nat -> Nat -> Reader Nat
 | 0, acc => pure acc
 | n + 1, acc => do bigEndian n (acc * 256 + (<- byte))

def upTo (n : Nat) : Reader (List UInt8) := fun bs => .ok (bs.take n, bs.drop n)

def exactly (n : Nat) : Reader (List UInt8) := fun bs =>
 if n ≥ .pow 2 63 then .error .length
 else if bs.length < n then .error .truncated
 else .ok (bs.take n, bs.drop n)

def quantityOf (acc : Nat) : List UInt8 -> Except Fault (Nat × List UInt8)
 | [] => .error .truncated
 | b :: rest =>
  let total := acc * 128 + b.toNat % 128
  if b.toNat < 128 then .ok (total, rest) else quantityOf total rest

def quantity : Reader Nat := quantityOf 0
def text (len : Nat) : Reader String := return .ofList ((<- exactly len).map (.ofNat ·.toNat))

def chunk : Reader Nat := do
 let name <- upTo 4
 if name.any (·.toNat ≥ 128) then throw .chunkName
 bigEndian 4 0

def channelMessage (status : Nat) : Reader Message := do
 let msg : ChannelMessage <- match status / 16 with
  | 0x8 => pure (.noteOff (<- byte) (<- byte))
  | 0x9 => do
   let note <- byte
   let vel <- byte
   pure (if vel == 0 then .noteOff note 0 else .noteOn note vel)
  | 0xA => pure (.notePressure (<- byte) (<- byte))
  | 0xB => pure (.controller (<- byte) (<- byte))
  | 0xC => pure (.program (<- byte))
  | 0xD => pure (.channelPressure (<- byte))
  | 0xE => pure (.pitchBend (<- byte) (<- byte))
  | _ => throw .unknownMessage
 return .channel (status % 16) msg

def textKind? : Nat -> Option TextKind
 | 0x01 => some .text
 | 0x02 => some .copyright
 | 0x03 => some .trackName
 | 0x04 => some .instrumentName
 | 0x05 => some .lyric
 | 0x06 => some .marker
 | 0x07 => some .cuePoint
 | 0x08 => some .programName
 | 0x09 => some .deviceName
 | _ => none

def metaMessage : Reader MetaMessage := do
 let type <- byte
 let len <- quantity
 match textKind? type with
 | some kind => return .text kind (<- text len)
 | none =>
  match type with
  | 0x00 => return .sequenceNumber (<- bigEndian 2 0)
  | 0x20 => return .channelPrefix (<- byte)
  | 0x21 => return .device (<- byte)
  | 0x2F => pure .endOfTrack
  | 0x51 => return .tempo (<- bigEndian 3 0)
  | 0x54 => return .smpteOffset (<- byte) (<- byte) (<- byte) (<- byte) (<- byte)
  | 0x58 => return .timeSignature (<- byte) (<- byte) (<- byte) (<- byte)
  | 0x59 => return .keySignature (<- byte) (<- byte)
  | 0x7F => return .sequencer (<- exactly len)
  | _ => throw .unknownMessage

def message? (status : Nat) : Reader (Option Message) := do
 if status == 0xFF then return some (.info (<- metaMessage))
 else if status == 0xF0 then return some (.sysEx (<- exactly (<- quantity)))
 else if status == 0xF7 then return some (.escape (<- exactly (<- quantity)))
 else if status ≥ 0x80 then return some (<- channelMessage status)
 else pure none

def status (running : Nat) : Reader Nat := fun bs =>
 match bs with
 | [] => .error .truncated
 | b :: rest => if b.toNat ≥ 128 then .ok (b.toNat, rest) else .ok (running, bs)

def event (running : Nat) : Reader (Option Event × Nat) := do
 let delta <- quantity
 let status <- status running
 return ((<- message? status).map (⟨delta, ·⟩), status)

def events (running : Nat) (bs : List UInt8) : Except Fault (List (Option Event) × List UInt8) :=
 match event running bs with
 | .error f => .error f
 | .ok ((e, running), rest) =>
  if e.any Event.endsTrack then .ok ([e], rest)
  else if rest.length < bs.length then (events running rest).map fun (es, rest) => (e :: es, rest)
  else .error .truncated
termination_by bs.length

def track : Reader FileTrack := do
 let _ <- chunk
 return ⟨<- events 0⟩

def tracks : Nat -> Reader (List FileTrack)
 | 0 => pure []
 | n + 1 => return (<- track) :: (<- tracks n)

def file : Reader File := do
 let _ <- chunk
 let format <- bigEndian 2 0
 let k <- bigEndian 2 0
 return { format, resolution := (<- bigEndian 2 0), tracks := <- tracks k }

end Reader

def File.ofBytes (bs : List UInt8) : Except Fault File :=
 if bs.isEmpty then .error .empty
 else (Reader.file bs).map (·.1)

class TimeNumber (α : Type) extends Add α, Mul α, Div α where
 ofNat? : Nat -> Option α

instance : TimeNumber Float where
 ofNat? n := if n < .pow 2 1024 - .pow 2 970 then some (.ofScientific n false 0) else none

/-- Why the notes of a file cannot be told. -/
inductive Misfit where
 | noEvent | noResolution | noTempoTrack | tooLate | notStarted

def Misfit.cause : Misfit -> Cause
 | .noEvent => .attr
 | .noResolution => .zeroDivision
 | .noTempoTrack => .index
 | .tooLate => .overflow
 | .notStarted => .key

/-- From a tick on, at so many seconds, a quarter note takes so many microseconds. -/
structure TempoRecord (α : Type) where
 tick : Nat
 seconds : α
 micros : Nat

def inForce {α : Type} (rs : List (TempoRecord α)) (tick : Nat) : Option (TempoRecord α) := rs.find? (·.tick ≤ tick)

def secondsAt {α : Type} [TimeNumber α] (res : Nat) (rs : List (TempoRecord α)) (tick : Nat) :
  Except Misfit α := do
 let count (n : Nat) : Except Misfit α := match TimeNumber.ofNat? n with
  | some x => .ok x
  | none => .error .tooLate
 if res == 0 then throw .noResolution
 let (start, seconds, micros) <- match inForce rs tick with
  | some r => pure (r.tick, r.seconds, r.micros)
  | none => pure (0, <- count 0, 500000)
 let step := (<- count micros) / (<- count res) / (<- count 1000000)
 return seconds + (<- count (tick - start)) * step

def tempoRecords {α : Type} [TimeNumber α] (res : Nat) :
  List (Option Event) -> Nat -> List (TempoRecord α) -> Except Misfit (List (TempoRecord α))
 | [], _, rs => .ok rs
 | none :: _, _, _ => .error .noEvent
 | some e :: rest, tick, rs => do
  let tick := tick + e.delta
  let seconds <- secondsAt res rs tick
  match e.message with
  | .info (.tempo micros) => tempoRecords res rest tick (⟨tick, seconds, micros⟩ :: rs)
  | _ => tempoRecords res rest tick rs

def File.tempo {α : Type} [TimeNumber α] (f : File) : Except Misfit (List (TempoRecord α)) :=
 match f.tracks with
 | [] => .ok []
 | first :: others => do
  let rs <- tempoRecords f.resolution first.events 0 []
  if f.format != 1 && !others.isEmpty then throw .noTempoTrack
  pure rs

structure Note (α : Type) where
 (channel number : Nat)
 (timeOn timeOff velocity : α)

structure Track (α : Type) where
 name : String
 index : Nat
 notes : List (Note α)

/-- A note that sounds: since when, how strong, and how often it was started. -/
structure Sounding (α : Type) where
 (since velocity : α)
 count : Nat := 1

structure TrackProgress (α : Type) where
 name : String := ""
 tick : Nat := 0
 /-- By channel and number. -/
 sounding : Std.HashMap (Nat × Nat) (Sounding α) := {}
 ended : List (Note α) := []

namespace TrackProgress

variable {α : Type} (s : TrackProgress α)

def start (now velocity : α) (key : Nat × Nat) : TrackProgress α :=
 let n := match s.sounding[key]? with
  | some n => { n with count := n.count + 1 }
  | none => ⟨now, velocity, 1⟩
 { s with sounding := s.sounding.insert key n }

def stop (now : α) (key : Nat × Nat) : Except Misfit (TrackProgress α) :=
 match s.sounding[key]? with
 | none => .error .notStarted
 | some n =>
  if n.count == 1 then .ok { s with
   sounding := s.sounding.erase key
   ended := ⟨key.1, key.2, n.since, now, n.velocity⟩ :: s.ended }
  else .ok { s with sounding := s.sounding.insert key { n with count := n.count - 1 } }

def step [TimeNumber α] (res : Nat) (rs : List (TempoRecord α)) (s : TrackProgress α) :
  Option Event -> Except Misfit (TrackProgress α)
 | none => .error .noEvent
 | some e => do
  let s := { s with tick := s.tick + e.delta }
  let now <- secondsAt res rs s.tick
  match e.message with
  | .info (.text .trackName name) => return { s with name }
  | .channel c (.noteOn num vel) =>
   match TimeNumber.ofNat? vel, TimeNumber.ofNat? 127 with
   | some v, some full => return s.start now (v / full) (c, num)
   | _, _ => throw .tooLate
  | .channel c (.noteOff num _) => s.stop now (c, num)
  | _ => pure s

end TrackProgress

variable {α : Type} [TimeNumber α]

def trackOf (res : Nat) (rs : List (TempoRecord α)) (i : Nat) (t : FileTrack) :
  Except Misfit (Track α) := do
 let s <- t.events.foldlM (TrackProgress.step res rs) {}
 pure ⟨s.name, i, s.ended.reverse⟩

def File.soundingTracks (f : File) : List FileTrack := if f.format == 1 then f.tracks.drop 1 else f.tracks

def File.notes (f : File) : Except Misfit (List (Track α)) := do
 let rs <- f.tempo
 f.soundingTracks.zipIdx.mapM fun (t, i) => trackOf f.resolution rs i t

/-- The course of a note over time. The shapes give the level at a part of the way, from 0 to 1. -/
structure Envelope (m : Type -> Type) (α : Type) where
 attackTime : α
 attackShape : α -> m α
 decayTime : α
 decayShape : α -> m α
 (sustainLevel releaseTime : α)
 releaseShape : α -> m α
 velocitySensitivity : α

/-- A note as it is evaluated: its numbers need not come from a file. -/
structure PlayedNote (α : Type) where
 (channel number timeOn timeOff velocity : α)

section
variable {m : Type -> Type} {α : Type} [Monad m] [Reckoning m α]
open Reckoning

variable (e : Envelope m α) (notes : List (PlayedNote α)) (time : α) (note : PlayedNote α)

def Envelope.heldLevel (timeOn timeOff : α) : m α := do
 let zero : α := nought m
 let passed <- sub (m := m) (<- lesser time timeOff) timeOn
 if <- atMost passed zero then return zero
 if <- less passed e.attackTime then return <- e.attackShape (<- div passed e.attackTime)
 let passed <- sub (m := m) passed e.attackTime
 if <- less passed e.decayTime then
  let one : α := whole m 1
  let level <- e.decayShape (<- sub one (<- div passed e.decayTime))
  return <- add (<- mul level (<- sub one e.sustainLevel)) e.sustainLevel
 pure e.sustainLevel

def Envelope.level (time : α) : m α := do
 let one : α := whole m 1
 let held <- e.heldLevel time note.timeOn note.timeOff
 let v <- do
  if <- greater time note.timeOff then
   let gone <- div (<- sub time note.timeOff) e.releaseTime
   mul held (<- e.releaseShape (<- sub one gone))
  else pure held
 let free <- mul (<- sub one e.velocitySensitivity) v
 add free (<- mul (<- mul e.velocitySensitivity note.velocity) v)

def Envelope.isHeard : m Bool := do
 if <- atLeast (m := m) (<- add note.timeOff e.releaseTime) time then atLeast time note.timeOn
 else pure false

def loudest : List α -> m α
 | [] => return nought m
 | first :: rest => greatest first rest

def Envelope.levelOf (ch num : α) : m α := do
 let heard <- notes.filterM fun note => do
  if <- same note.channel ch then
   if <- same note.number num then e.isHeard time note else pure false
  else pure false
 loudest (<- heard.mapM (e.level · time))

def Envelope.levels (ch : α) : m (List α) := do
 let heard <- notes.filterM fun note => do if <- same note.channel ch then e.isHeard time note else pure false
 (List.range 128).mapM fun i => do
  let same <- heard.filterM (same ·.number (whole m i))
  loudest (<- same.mapM (e.level · time))

end

end AnimationGraph.Midi
