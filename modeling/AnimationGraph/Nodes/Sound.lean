import AnimationGraph.Midi
import AnimationGraph.Node.Vocabulary
import AnimationGraph.Sound

/-! # Nodes for sound

Notes and tracks are values that nodes pass on; sounds, their spectrum and MIDI tracks.
-/

namespace AnimationGraph

def plainRecord (kind : String) (ps : List Parameter) (args : Args) : Eval := do
 newRecord kind ((ps.map (·.name)).zip (<- bindArgs ps args).toList)

def remembered (name : String) (key : Value) (find : Eval) : Eval := do
 let known <- table name
 if <- has known key then return <- item known key
 let v <- find
 setItem known key v
 pure v

def playedNote (v : Value) : Run (Midi.PlayedNote Value) := do
 return {
  channel := <- v "channel"
  number := <- v "noteNumber"
  timeOn := <- v "timeOn"
  timeOff := <- v "timeOff"
  velocity := <- v "velocity" }

def envelopeParameters : List Parameter := [
 "attackTime", "attackInterpolation", "decayTime", "decayInterpolation", "sustainLevel", "releaseTime",
 "releaseInterpolation", "velocitySensitivity"]

def envelopeOf (b : Bound) (first : Nat) : Midi.Envelope Run Value where
 attackTime := b first
 attackShape x := (b (first + 1)).apply [x]
 decayTime := b (first + 2)
 decayShape x := (b (first + 3)).apply [x]
 sustainLevel := b (first + 4)
 releaseTime := b (first + 5)
 releaseShape x := (b (first + 6)).apply [x]
 velocitySensitivity := b (first + 7)

def trackNotes (r : CellId) : Run (List (Midi.PlayedNote Value)) := do (<- each r "notes").mapM playedNote
def noteFields : Texts := ["channel", "noteNumber", "timeOn", "timeOff", "velocity"]

def midiKinds : List RecordKind := [
{ name := "MIDINote"
  construct := some <| plainRecord "MIDINote" (noteFields.map (opt · 0))
  members := [
  method ⟨"evaluate", "time" :: envelopeParameters⟩ fun r b => do (envelopeOf b 1).level (<- playedNote r) (b 0),
  fn0 "copy" fun r => do make "MIDINote" (<- noteFields.mapM (r.attr ·))] },
{ name := "MIDITrack"
  construct := some fun args => do plainRecord "MIDITrack" [opt "name" "", opt "index" 0, opt "notes" (<- list [])] args
  members := [
  method ⟨"evaluate", "time" :: "channel" :: "noteNumber" :: envelopeParameters⟩ fun r b => do
   (envelopeOf b 3).levelOf (<- trackNotes r) (b 0) (b 1) (b 2),
  method ⟨"evaluateAll", "time" :: "channel" :: envelopeParameters⟩ fun r b => do
   list (<- (envelopeOf b 2).levels (<- trackNotes r) (b 0) (b 1)),
  fn0 "copy" fun r => do
   let notes <- (<- each r "notes").mapM (·.call "copy")
   make "MIDITrack" [<- r "name", <- r "index", <- list notes]] }]

namespace Midi

def Note.toValue (n : Note Float) : Eval := make "MIDINote" [n.channel, n.number, n.timeOn, n.timeOff, n.velocity]

def Track.toValue (t : Track Float) : Eval := do
 make "MIDITrack" [t.name, t.index, <- list (<- t.notes.mapM Note.toValue)]

def tracksOfBytes (bs : List UInt8) : Eval := do
 match File.ofBytes bs with
 | .error f => fail f.cause
 | .ok file =>
  match (file.notes : Except Misfit (List (Track Float))) with
  | .error f => fail f.cause
  | .ok tracks => list (<- tracks.mapM Track.toValue)

end Midi

def newFractions (xs : Array Float) : Eval := newCell (.numeric (xs.map .float))

def fractionsOf (v : Value) : Run (Array Float) := do
 let .cell id := v | fail .type
 let .numeric xs <- readCell id | fail .type
 xs.mapM toFloat

def stripOf (v : Value) : Sound.Strip Run Value Float where
 start := v "start"
 stop := v "end"
 offset := v "startOffset"
 samples := do fractionsOf (<- v.at "data.samples")
 volume := do toFloat (<- v "volume")

def soundSamples (sound : CellId) : Value -> Value -> Run (Array Float) :=
 Sound.samplesBetween do return (<- each sound "soundSequences").map stripOf

def soundSpectrum (sound : CellId) (start stop beta : Value) : Run (Array Float) := do
 return Sound.spectrum (<- soundSamples sound start stop) (<- toFloat beta)

def recordedData (sound : Value) : Eval := do
 let rate : Value := Sound.sampleRate
 let fits <- equal (<- item (<- sound "specs") 0) rate
 let ch <- sound.call "rechannel" [1]
 let ch <- if fits then pure ch else ch.call "resample" [rate, true]
 make "SoundData" [<- (<- ch.call "data").call "ravel", rate]

def sceneOfStrip (strip : Value) : Eval := do
 for sc in <- iter (<- blocks "scenes") do
  let editor <- sc "sequence_editor"
  if editor.isSome then for other in <- each editor "sequences_all" do if <- equal other strip then return sc
 pure .none

def stripSound (strip : Value) : Eval := do
 unless (<- strip "type").is "SOUND" do fail .value
 let sound <- strip "sound"
 let packed := (<- sound "packed_file").isSome
 let path <- sound "filepath"
 unless <- pure packed <||> (do pathExists (<- textArg path)) do return .none
 let data <- if packed then remembered "packedSounds" sound (do recordedData (<- (<- evaluated sound) "factory"))
  else remembered "soundsByPath" path (do recordedData (<- kernel "Sound.file" [path]))
 let fps <- framesPerSecond (<- sceneOfStrip strip)
 make "SoundSequence"
  [data, <- div (<- strip "frame_final_start") fps, <- div (<- strip "frame_offset_start") fps,
  <- div (<- strip "frame_final_end") fps, <- strip "volume", fps]

def soundKinds : List RecordKind := [
{ name := "Sound"
  construct := some <| plainRecord "Sound" ["soundSequences"]
  members := [
  fn2 "getSamplesInRange start end" fun r start stop => do newFractions (<- soundSamples r start stop),
  fn3 ⟨"computeSpectrum", ["start", "end", opt "beta" 6]⟩ fun r start stop beta => do
   newFractions (<- soundSpectrum r start stop beta),
  method ⟨"computeTimeSmoothedSpectrum", ["start", "end", "attack", "release", opt "smoothingSamples" 5, opt "beta" 6]⟩ fun r b => do
   let dur <- sub (b 1) (b 0)
   let spectra <- (<- span (b 4) (-1) (-1)).mapM fun i => do
    let earlier <- mul i dur
    soundSpectrum r (<- sub (b 0) earlier) (<- sub (b 1) earlier) (b 5)
   let some bands := Sound.smoothed (<- toFloat (b 2)) (<- toFloat (b 3)) spectra | pure .none
   newFractions bands] },
{ name := "SoundData"
  construct := some <| plainRecord "SoundData" ["samples", "sampleRate"] },
{ name := "SoundSequence"
  construct := some <| plainRecord "SoundSequence" ["data", "start", "startOffset", "end", "volume", "fps"]
  statics := [fn1 "fromSequence sequence" fun _ strip => stripSound strip] }]

def stripsOf (sc : Value) : Evals := do
 if sc.isNone then return []
 iter (<- sc.at "sequence_editor.sequences")

variable (n : NodeId)

def reductionOf : Run Sound.Reduction := do
 match <- n.word "reductionFunction" with
 | "MEAN" => pure .mean
 | "MAX" => pure .max
 | _ => fail .key

/-- The spectrum of a sound: the inputs start with the sound, the frame and the times, the scene is the given one. -/
def smoothedSpectrum (b : Bound) (scene : Nat) : Run (Array Float) := do
 let perFrame (x : Value) : Eval := do div x (<- framesPerSecond (b scene))
 let start <- perFrame (b 1)
 let dur <- maxOf (<- perFrame 1) (<- n "minDuration")
 let stop <- add (<- perFrame (b 1)) dur
 fractionsOf (<- (b 0).call "computeTimeSmoothedSpectrum"
  [start, stop, b 2, b 3, <- n "smoothingSamples", <- n "kaiserBeta"])

def binLevel (r : Sound.Reduction) (spectrum : Array Float) (bin : Int × Int) (amplitude : Value) : Eval := do
 mul (<- need .value <| r.apply? (Sound.cut spectrum bin.1 bin.2)) amplitude

def needsSound (sound : Value) : Act := do if (<- count sound "soundSequences") == 0 then n.halt "Empty sound!"

def fillBins (k : Value) (spectrum : Array Float) (bins : List (Int × Int)) (amplitude : Value) : Eval := do
 let levels <- kernel "DoubleList" [k]
 let reduction <- reductionOf n
 for (bin, i) in bins.zipIdx do setItem levels i (<- binLevel reduction spectrum bin amplitude)
 pure levels

def noteParts : List (String × SocketNames × SocketNames) := [("Integer", "Channel", "Channels"),
 ("Integer", "Note Number", "Note Numbers"), ("Float", "Time On", "Times On"), ("Float", "Time Off", "Times Off"),
 ("Float", "Velocity", "Velocities")]

def soundNodes : List NodeKind := [
.of "Evaluate MIDI Track" [menu "evaluationType" "SINGLE"] (fun n => do
 n.takes "MIDI Track" "Track"
 n.float "Frame"
 n.int "Channel" [atLeast 0, atMost 15]
 if (<- n "evaluationType").is "SINGLE" then n.int "Note Number" [atLeast 0, atMost 127]
 n.float "Attack Time" [val 0.01]
 n.takes "Interpolation" "Attack Interpolation" [unnamed]
 n.float "Decay Time" [val 0.01]
 n.takes "Interpolation" "Decay Interpolation" [unnamed]
 n.float "Sustain Level" (dial 0.6 0 1)
 n.float "Release Time" [val 0.05]
 n.takes "Interpolation" "Release Interpolation" [unnamed]
 n.float "Velocity Sensitivity" (dial 0.0 0 1)
 n.takes "Scene" "Scene" [hide]
 if (<- n "evaluationType").is "SINGLE" then n.gives "Float" "Note Value"
 else n.gives "Float List" "Note Values") [
 shows "evaluationType" bare,
 writes fun n _ => do
  emit "time = frame / AN.utils.scene.getFPS(scene)"
  let rest := "attackTime, attackInterpolation, decayTime, decayInterpolation, min(max(sustainLevel, 0), 1), releaseTime, releaseInterpolation,min(max(velocitySensitivity, 0), 1))"
  if (<- n "evaluationType").is "SINGLE" then emit ("noteValue = track.evaluate(time, channel, noteNumber," ++ rest)
  else emit s!"noteValues = DoubleList.fromValues(track.evaluateAll(time, channel,{rest})"],
.risky "Read MIDI File" [] (do
 str "Path" [("showFileChooser", true)]
 gives "MIDI Track List" "Tracks") ((remembersFiles "midiFiles").append [
 fn1 "execute path" fun n path => do
  unless <- pathExists (<- textArg path) do n.halt "File does not exist."
  unless (<- textArg path).endsWith ".mid" do n.halt "File is not a MIDI file."
  let some (c, time) <- fileAt? (<- textArg path) | fail .missingFile
  remembered "midiFiles" (.tuple [path, time]) (Midi.tracksOfBytes c.toUTF8.toList)]),
.of "MIDI Note Info" [flag "useNotesList"] (do
 takesMany "MIDI Note" ["useNotesList"] "Note"
 for (type, one, several) in noteParts do givesMany type ["useNotesList"] one several) [
 writes fun n req => do
  let many <- n.is "useNotesList"
  emitWanted req <| noteParts.map fun (type, one, several) =>
   if !many then (one.identifier, "note." ++ one.identifier)
   else (several.identifier, (if type == "Float" then "Double" else "Long") ++
    s!"List.fromValues(note.{one.identifier} for note in notes)")],
.of "MIDI Track Info" [] (do
 takes "MIDI Track" "Track"
 gives "MIDI Note List" "Notes"
 gives "Text" "Name"
 gives "Integer" "Index") [
 fn1 "execute track" fun _ track => return .tuple [<- track "notes", <- track "name", <- track "index"]],
.of "Sound From Sequence" [flag "useSequenceList"] (do
 takesSome "Sequence"
 gives "Sound") [
 fn1 "execute sequences" fun n sequences => do
  let strips <- if <- n.is "useSequenceList" then iter sequences else pure [sequences]
  let sounding <- strips.filterM fun s => pure s.isSome <&&> fits s "type" "SOUND"
  make "Sound" [<- list (<- sounding.mapM ((Value.kind "SoundSequence").call "fromSequence" [·]))]],
.found [("Sound Intensity", [("samplingMethod", "'SINGLE'")])] <| .risky "Sound Spectrum"
  [choice "reductionFunction" "MAX", whole "smoothingSamples" 10, fraction "kaiserBeta" 6.0,
  fraction "minDuration", menu "samplingMethod" "EXP"] (fun n => do
 n.takes "Sound"
 n.float "Frame"
 n.float "Attack" (dial 0.005 0 1)
 n.float "Release" (dial 0.6 0 1)
 n.float "Amplitude" [val 10]
 match <- n.word "samplingMethod" with
 | "EXP" =>
  n.int "Count" (dial 20 1)
  n.float "Low" [val 0, atLeast 0, atMost 1, hide]
  n.float "High" [val 1, atLeast 0, atMost 1, hide]
  n.float "Exponential Rate" [val 5, ("minValue", 1e-05)]
 | "CUSTOM" => n.takes "Float List" "Pins"
 | "SINGLE" =>
  n.float ("Low", "lowFrequency") (dial 0 0 1)
  n.float ("High", "highFrequency") (dial 0.1 0 1)
 | _ => pure ()
 n.takes "Scene" "Scene" [hide]
 if (<- n "samplingMethod").isOneOf ["EXP", "CUSTOM", "FULL"] then n.gives "Float List" "Spectrum"
 else n.gives "Float" "Spectrum") [
 shows "samplingMethod" bare,
 drawsMore fun n l => do
  l.prop n "reductionFunction" bare
  l.prop n "smoothingSamples"
  l.prop n "kaiserBeta"
  l.prop n "minDuration",
 runsBy (.byItem "samplingMethod" [("EXP", "executeExponential"), ("CUSTOM", "executeCustom"), ("SINGLE",
   "executeSingle"), ("FULL", "executeFull")]),
 method "executeExponential sound frame attack release amplitude count low high exponentialRate scene"
    fun n b => do
   needsSound n (b 0)
   unless <- Sound.isRange (m := Run) (b 6) (b 7) do n.halt "Invalid interval!"
   if <- less (b 5) 1 then n.halt "Invalid count!"
   let bands <- smoothedSpectrum n b 9
   let growth (x : Value) : Eval := return Sound.exponentialLessOne (<- toFloat x)
   let pins <- Sound.growingPins growth (b 6) (b 7) (b 8) (b 5) (<- span (<- add (b 5) 1))
   fillBins n (b 5) bands ((<- Sound.binsBetween (m := Run) (bands.size - 1) pins).map Sound.widened) (b 4),
 method "executeSingle sound frame attack release amplitude low high scene" fun n b => do
  needsSound n (b 0)
  unless <- Sound.isRange (m := Run) (b 5) (b 6) do n.halt "Invalid interval!"
  let bands <- smoothedSpectrum n b 7
  let bins <- Sound.binsBetween (m := Run) (bands.size - 1) [b 5, b 6]
  binLevel (<- reductionOf n) bands (bins.headD (0, 0)) (b 4),
 method "executeCustom sound frame attack release amplitude pins scene" fun n b => do
  needsSound n (b 0)
  let pins <- iter (b 5)
  unless <- Sound.arePins (m := Run) pins do n.halt "Invalid pins list!"
  let bands <- smoothedSpectrum n b 6
  fillBins n (.int (pins.length - 1)) bands (<- Sound.binsBetween (m := Run) (bands.size - 1) pins) (b 4),
 method "executeFull sound frame attack release amplitude scene" fun n b => do
  needsSound n (b 0)
  let bands <- smoothedSpectrum n b 5
  let amplitude <- toFloat (b 4)
  kernel "DoubleList.fromNumpyArray" [<- newFractions (bands.map (· * amplitude))]]]

end AnimationGraph
