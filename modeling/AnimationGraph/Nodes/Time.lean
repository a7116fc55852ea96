import AnimationGraph.Data.Motion
import AnimationGraph.Script.Eval

/-! # Nodes for scenes and time

Particles, shape keys and the strips of the sequence editor; animated values, keyframes and curves over time.
-/

namespace AnimationGraph

/-- A property of particles: the socket that gives it, its name, its data type and the list that holds it. -/
structure ParticleLayer where
 socket : SocketNames
 (layer type list : String)

def particleLayers : List ParticleLayer := [
 ⟨"Locations", "location", "Vector List", "Vector3DList"⟩,
 ⟨"Velocities", "velocity", "Vector List", "Vector3DList"⟩,
 ⟨"Rotations", "rotation", "Quaternion List", "QuaternionList"⟩,
 ⟨"Sizes", "size", "Float List", "FloatList"⟩,
 ⟨"Birth Times", "birth_time", "Float List", "FloatList"⟩,
 ⟨"Die Times", "die_time", "Float List", "FloatList"⟩]

def ParticleLayer.identifier (p : ParticleLayer) : String := p.socket.identifier
def particleStates : Texts := ["Unborn", "Alive", "Dying", "Dead"]

/-- What can be set of a shape key, and the variables that hold it. -/
def shapeKeyParts : List ((String × String) × Nat) := List.zipIdx [("value", "value"), ("slider_min", "sliderMin"),
 ("slider_max", "sliderMax"), ("mute", "mute"), ("name", "name")] 1

def sceneNodes : List NodeKind := [
.called "ParticleSystemHairData" <|
 .of "Hair Data" [flag "useParticleSystemList", choice "splineType" "POLY" reruns] (do
 takesSome "Particle System"
 bool "Use World Space" [val true]
 gives "Spline List" "Hair Splines") [
 shows "splineType" bare,
 fn2 "execute particleSystems useWorldSpace" fun n systems space => do
  let systems <- if <- n.is "useParticleSystemList" then iter systems else pure [systems]
  list (<- systems.flatMapM fun system => do iter (<- n.call "getHairSplines" [system, space])),
 fn2 "getHairSplines particleSystem useWorldSpace" fun n system space => do
  if system.isNone then return <- list []
  unless (<- system.at "settings.type").is "HAIR" do return <- list []
  let matrix <- (<- evaluated (<- system "id_data")) "matrix_world"
  let spline <- n.call "getSplineType"
  mapList (<- system "particles") fun particle => do
   let ps <- kernel "Vector3DList" [<- count particle "hair_keys"]
   (<- particle "hair_keys").readAll "co" ps
   if <- truthy space then ps.tell "transform" [matrix]
   spline.apply [ps],
 fn0 "getSplineType" fun n => do
  match <- n.word "splineType" with
  | "POLY" => return .kind "PolySpline"
  | "BEZIER" => return .kind "BezierSpline"
  | _ => pure .none],
.of "Particle Systems from Object" [] (do
 takesObject
 gives "Particle System" "Active"
 gives "Particle System List" "Particle Systems") [
 fn1 "execute object" fun _ o => do
  unless <- truthy o do return .tuple [.none, <- list []]
  let systems <- (<- evaluated o) "particle_systems"
  tuple [<- systems "active", <- list (<- iter systems)]],
.called "ParticleSystemParticlesData" <| .of "Particles Data"
  ((particleStates.map fun s => flag s!"include{s}" (s == "Alive") rebuilds) ++ [flag "useParticleSystemList"]) (fun n => do
 n.takesSome "Particle System"
 for p in particleLayers do n.gives p.type p.socket
 hideAll ((<- n.outputs).drop 1)) [
 draws fun n l => do
  let col <- l.stack
  for some in [particleStates.take 2, particleStates.drop 2] do
   let row <- col.line
   for s in some do row.prop n s!"include{s}" [("text", s), ("toggle", true)],
 code fun n req => do
  let wanted <- particleLayers.filterM (has req ·.identifier)
  let opening := if <- n.is "useParticleSystemList" then [] else ["particleSystems = [particleSystem]"]
  let loop := ["for system in particleSystems:",
   "    if system is None: continue", "    if system.settings.type not in ('EMITTER', 'FLIP'): continue",
   "    _mask = self.getParticlesMask(system.particles)"]
  let reading := wanted.flatMap fun p => [
   s!"    values = self.getParticleProperties(system, '{p.layer}', {p.list}, _mask)",
   s!"    {p.identifier}.extend(values)"]
  let finishing := wanted.flatMap fun p =>
   (if p.layer == "rotation" then
     [s!"{p.identifier} = AN.nodes.particles.c_utils.correctParticleRotations({p.identifier})"]
    else [])
    ++ (if p.list == "FloatList" then [s!"{p.identifier} = DoubleList.fromValues({p.identifier})"] else [])
  return (opening ++ (wanted.map fun p => s!"{p.identifier} = {p.list}()") ++ loop ++ reading ++ finishing).toArray,
 fn4 "getParticleProperties particleSystem attribute CListType mask"
   fun _ system ly CListType mask => do
  let particles <- system "particles"
  let vs <- CListType.apply [] [("length", <- length particles)]
  particles.readAll ly vs
  kernel "mask_CList" [vs, mask],
 fn1 "getParticlesMask particles" fun n particles => do
  let states <- n.call "getIncludedParticleStates"
  let maskList <- (<- iter particles).mapM fun p => return ((<- has states (<- p "alive_state")) : Value)
  kernel "BooleanList.fromValues" [<- list maskList],
 fn0 "getIncludedParticleStates" fun n => do
  newSet (<- distinctValues (<- iter (<- n.call "iterIncludedParticleStates"))),
 writes0 "iterIncludedParticleStates" fun n => do
  for s in particleStates do if <- n.is s!"include{s}" then emit s.toUpper],
.lifted "Shape Key Output" (listFlags ["ShapeKey", "Value"]) (fun n => do
 n.takesSome "Shape Key" (named "Shape Key" [unnamed]) "Shape Keys" [] false
 n.takesSome "Float" (named "Value" [atLeast 0, atMost 1])
 n.takesEach "Float" ["Slider Min", "Slider Max"]
 n.bool "Mute"
 n.str "Name"
 n.givesSome "Shape Key"
 n.switchable
 hideAll ((<- n.inputs).drop 2)) [
 writes fun n _ => do
  emit "if shapeKey is not None:"
  for ((part, var), i) in shapeKeyParts do if <- n.usesInputAt i then emit s!"    shapeKey.{part} = {var}"
  emit "    pass",
 writes0 "getBakeCode" fun n => do
  emit "if shapeKey is not None:"
  for ((part, _), i) in shapeKeyParts.take 4 do
   if <- n.usesInputAt i then emit s!"    shapeKey.keyframe_insert('{part}')"],
.of "Shape Keys from Object" [] (do
 takesObject
 gives "Shape Key List" "Shape Keys"
 gives "Shape Key" "Reference Key") [
 fn1 "execute object" fun _ o => do
  if o.isNone then return .tuple [<- list [], .none]
  unless <- among (<- o "type") ["MESH", "CURVE", "LATTICE"] do return .tuple [<- list [], .none]
  if (<- o.at "data.shape_keys").isNone then return .tuple [<- list [], .none]
  let ref <- o.at "data.shape_keys.reference_key"
  tuple [<- item (<- list (<- iter (<- o.at "data.shape_keys.key_blocks")))
    (sliceValue 1 .none .none), ref]],
.of "Get All Sequences" [] (do
 takes "Scene" "Scene" [hide]
 gives "Sequence List" "Sequences") [
 runsLines #["editor = scene.sequence_editor if scene else None",
  "sequences = list(getattr(editor, 'sequences', []))"]],
.of "Sequence Info" [] (fun n => do
 n.takes "Sequence" "Sequence" [unnamed]
 n.givesEach "Text" ["Name", "Type"]
 n.givesEach "Integer" ["Channel", "Final Duration", "Final Start Frame", "Final End Frame"]
 n.gives "Float" "Opacity"
 n.gives "Text" "Blend Type"
 n.gives "Float" "Effect Fader"
 n.givesEach "Integer" ["Start Frame", "Start Offset", "End Offset", "Total Duration", "Still Frame Start",
  "Still Frame End"]
 n.givesEach "Boolean" ["Lock", "Mute", "Select"]
 n.gives "Float" "Speed Factor"
 n.givesEach "Boolean" ["Use Default Fade", "Use Linear Modifiers"]
 hideAll ((<- n.outputs).drop 6)) [
 writes fun _ req => ifWanted req do
  emit "if sequence is not None:"
  emitWanted req (.map (.map id ("sequence." ++ ·)) [("opacity", "blend_alpha"), ("blendType", "blend_type"),
   ("channel", "channel"), ("effectFader", "effect_fader"),
   ("totalDuration", "frame_duration"), ("finalDuration", "frame_final_duration"),
   ("finalStartFrame", "frame_final_start"), ("finalEndFrame", "frame_final_end"),
   ("startOffset", "frame_offset_start"), ("endOffset", "frame_offset_end"),
   ("startFrame", "frame_start"), ("stillFrameStart", "frame_still_start"),
   ("stillFrameEnd", "frame_still_end"), ("lock", "lock"), ("mute", "mute"),
   ("name", "name"), ("select", "select"), ("speedFactor", "speed_factor"),
   ("type", "type"), ("useDefaultFade", "use_default_fade"),
   ("useLinearModifiers", "use_linear_modifiers")]) "    "
  emits #["else:", "    opacity = 0.0", "    blendType = ''", "    channel = 1", "    effectFader = 0",
   "    totalDuration = finalDuration = finalStartFrame = finalEndFrame = 0",
   "    startOffset = endOffset = startFrame = 0", "    stillFrameStart = stillFrameEnd = 0", "    lock = False",
   "    mute = False", "    name = ''", "    select = False", "    speedFactor = 0.0", "    type = ''",
   "    useDefaultFade = False", "    useLinearModifiers = False"]],
.of "Sequences from Channel" [] (fun n => do
 n.int "Channel" (dial 1 1 32)
 n.takes "Scene" "Scene" [hide]
 n.gives "Sequence List" "Sequences") [
 runs (.tuple ["editor = scene.sequence_editor if scene else None",
   "sequences = [sequence for sequence in getattr(editor, 'sequences', []) if sequence.channel == channel]"])]]

def timeGroups : List RecordKind := [
{ name := "KeyframePath"
  props := [words "path" "" reruns, whole "index" (-1) reruns] },
{ name := "CurveMapPointCache"
  props := [words "handle_type", fractions "location" [0, 0]] },
{ name := "CurveMapCache"
  props := [groupsOf "points" "CurveMapPointCache", flag "dirty" true] }]

def forKeyframes (n : NodeId) (o fr : Value) (m complaint : String) : Act := do
 for e in <- each n "paths" do
  try
   let (b, path) <- nestedProperty o (<- e "path")
   b.tell m [] [("data_path", path), ("frame", fr), ("index", <- e "index")]
  catch _ => n.showError complaint

/-- An interpolation that is eased at its start, at its end or at both. -/
def NodeId.eased (n : NodeId) (name : String) (opts : Values) : Eval := do
 let side := match <- n.is "easeIn", <- n.is "easeOut" with
  | true, true => "InOut"
  | true, false => "In"
  | _, _ => "Out"
 kernel (name ++ side) opts

def eases (sig : Signature) (name : String) : Feature := method sig fun n b => n.eased name b.toList

def timeNodes : List NodeKind := [
.hiddenLabel <| .of "Delay Time" (pairFlags.map (flag ·)) (do
 takesMany "Float" ["useListA"] "Time"
 takesMany "Float" ["useListB"] (named "Delay" [val 10])
 givesMany "Float" pairFlags ("Time", "outTime")) [
 labels fun n => do
  if <- n.is "useListB" then return "Delay Time"
  let socket <- n.inputNamed "Delay"
  if <- holds socket "isUnlinked" then
   let v <- socket "value"
   let shown <- if <- equal v (<- wholeOf v) then wholeOf v else rounded v 2
   return s!"Delay {(<- text shown)} Frames"
  else pure "Delay Time",
 runsCode fun n => do
  if <- n.isAny pairFlags then
   let args := commaList (<- (<- n.inputs).mapM (·.identifier))
   return s!"outTimes = self.executeList({args})"
  else pure "outTime = time - delay",
 fn2 "executeList time delay" fun _ time delay => do
  let ls <- endlessNumbers [time, delay]
  kernel "executeSubtract_A_B" (ls ++ [<- longest "Double" ls])],
.of "Repeat Time" [choice "repetitionType" "LOOP" rebuilds] (do
 float "Time"
 float "Rate" (dial 50 0.0001)
 gives "Float" ("Time", "outTime")) [
 shows "repetitionType" "Type",
 writes fun n _ => do
  if (<- n "repetitionType").is "LOOP" then emit "outTime = time % max(rate, 0.0001)"
  if (<- n "repetitionType").is "PING_PONG" then
   emits #["finalRate = max(rate, 0.0001)",
    "outTime = time % finalRate if (time // finalRate) % 2 == 0 else finalRate - time % finalRate"]
  emit "outTime = time if time < 0 else outTime"],
.telling <| .of "Set Keyframes"
  [groupsOf "paths" "KeyframePath", choice "selectedPathType" "Location", words "attributePath"] (do
 bool "Enable" [val false]
 takesEach "Boolean" ["Set Keyframe", "Remove Unwanted"]
 takes "Object") [
 draws fun n l => do
  let mut row <- l.line
  row.prop n "selectedPathType" bare
  n.button row "addKeyframePath" { icon := "PLUS" }
  let col <- l.stack
  for (e, i) in (<- each n "paths").zipIdx do
   row := <- col.line
   let split <- row.call "split" [] [("align", true), ("factor", 0.7)]
   split.prop e "path" bare
   split.prop e "index" bare
   n.button row "removeItemFromList" { icon := "X", data := (toString i) },
 act4 "execute enable setKeyframe removeUnwanted object"
    fun n enable keyframe unwanted o => do
   unless <- truthy enable do return
   let fr <- n.at "nodeTree.scene.frame_current_final"
   if <- truthy keyframe then forKeyframes n o fr "keyframe_insert" "Could not set keyframe."
   else if <- truthy unwanted then forKeyframes n o fr "keyframe_delete" "Could not remove keyframe.",
 act2 ⟨"newPath", ["path", opt "index" (-1)]⟩ fun n path j => do
  let e <- n.use "paths.add"
  e.set "path" path
  e.set "index" j,
 act0 "addKeyframePath" fun n => do
  let paths := [("Custom", [""]), ("Location", ["location"]), ("Rotation", ["rotation_euler"]), ("Scale", ["scale"]),
   ("LocRotScale", ["location", "rotation_euler", "scale"])]
  for path in (paths.lookup (<- n.word "selectedPathType")).getD [] do n.tell "newPath" [path],
 act1 "removeItemFromList strIndex" fun n index => do (<- n "paths").tell "remove" [<- wholeOf index]],
.found [("Frame", [])] <| .of "Time Info" [] (do
 takes "Scene" "Scene" [hide]
 gives "Float" "Frame"
 givesEach "Float" ["Start Frame", "End Frame", "Frame Rate"] [hide]) [
 act0 "edit" fun n => do
  let s <- n.input 0
  let o <- s "dataOrigin"
  if o.isNone then return
  unless (<- o "dataType").is "Scene" do
   s.tell "removeLinks"
   s.set "hide" true,
 writes fun _ req => ifWanted req do
  emit "if scene is not None:"
  emitWanted req [("frame", "scene.frame_current_final"), ("startFrame", "scene.frame_start"),
   ("endFrame", "scene.frame_end"), ("frameRate", "scene.render.fps / scene.render.fps_base")] "    "
  emits #["else:", "    frame = startFrame = endFrame = frameRate = 0"]],
.of "Evaluate FCurve" [choice "frameType" "OFFSET" rebuilds] (do
 takes "FCurve"
 float "Frame"
 gives "Float" "Value") [
 shows "frameType" "Frame",
 writes fun n _ => do
  emit "evaluationFrame = frame"
  if (<- n "frameType").is "OFFSET" then emit "evaluationFrame += self.nodeTree.scene.frame_current_final"
  emits #["if fCurve is None: value = 0.0", "else: value = fCurve.evaluate(evaluationFrame)"]],
.of "Evaluate FCurves Transforms" [choice "frameType" "OFFSET" reruns] (do
 takes "FCurve List" "FCurves"
 float "Frame"
 gives "Matrix"
 gives "Float" ("Frame", "outFrame")) [
 shows "frameType" "Frame",
 fn2 "execute fCurves frame" fun n fCurves fr => do
  let place <- if (<- n "frameType").is "OFFSET" then do add fr (<- n.at "nodeTree.scene.frame_current_final")
   else pure fr
  let ts <- newDict
    [("location", <- list [0, 0, 0]), ("rotation_euler", <- list [0, 0, 0]),
    ("scale", <- list [1, 1, 1])]
  let mut maxFrame : Value := 0
  for fcurve in <- iter fCurves do
   if <- has ts (<- fcurve "data_path") then
    setItem (<- item ts (<- fcurve "data_path")) (<- fcurve "array_index") (<- fcurve.call "evaluate" [place])
    maxFrame := <- maxOf maxFrame (<- item (<- fcurve.call "range") 1)
  let m <- composedMatrix (<- item ts "location")
    (<- newEuler (<- iter (.tuple (<- iter (<- item ts "rotation_euler")))))
    (<- item ts "scale")
  tuple [m, <- sub fr maxFrame]],
.of "FCurve Info" [] (do
 takes "FCurve"
 gives "Text" "Data Path"
 gives "Integer" "Array Index") [
 writes fun _ req => ifWanted req do
  emit "if fCurve is not None:"
  emitWanted req [("dataPath", "fCurve.data_path"), ("arrayIndex", "fCurve.array_index")] "    "
  emit "else: dataPath, arrayIndex = '', 0"],
.of "FCurve Keyframes" [] (do
 takes "FCurve"
 givesEach "Float List" ["Keyframes Frames", "Keyframes Values"]) [
 fn1 "execute fCurve" fun _ fCurve => do
  if fCurve.isNone then return .tuple [<- kernel "DoubleList", <- kernel "DoubleList"]
  let values <- kernel "FloatList" [.int (2 * (<- count fCurve "keyframe_points"))]
  (<- fCurve "keyframe_points").readAll "co" values
  let each2 (start : Value) : Eval := do kernel "DoubleList.fromValues" [<- item values (sliceValue start .none 2)]
  tuple [<- each2 0, <- each2 1]],
.of "FCurves from Object" [] (do
 takesObject
 gives "FCurve List" "FCurves") [
 fn1 "execute object" fun _ o => do
  try list (<- iter (<- o.at "animation_data.action.fcurves"))
  catch _ => list []],
.of "Construct Interpolation" [menu "category" "LINEAR", flag "easeIn" false rebuilds, flag "easeOut" true rebuilds]
  (fun n => do
 let third <- n "category"
 if third.isOneOf ["BOUNCE", "ELASTIC"] then n.int ("Bounces", "intBounces") (dial 4)
 if third.isOneOf ["POWER", "EXPONENTIAL"] then n.int ("Exponent", "intExponent") (dial 2 1)
 if third.isOneOf ["EXPONENTIAL", "ELASTIC"] then n.float ("Base", "floatBase") (dial 2 0.001)
 if third.is "ELASTIC" then n.float ("Exponent", "floatExponent") [val 2]
 if third.isOneOf ["BACK", "BOUNCE"] then n.float ("Size", "floatSize") [val 1.4]
 n.gives "Interpolation") [
 drawsRow fun n row => do
  row.prop n "category" bare
  unless (<- n "category").is "LINEAR" do
   row.prop n "easeIn" (badge "" "IPO_EASE_IN")
   row.prop n "easeOut" (badge "" "IPO_EASE_OUT"),
 runsCode fun n => do
  if !((<- n.is "easeIn") || (<- n.is "easeOut")) then return "interpolation = self.getLinear()"
  let calls := [("LINEAR", "Linear()"), ("SINUSOIDAL", "Sinusoidal()"), ("POWER", "Power(intExponent)"),
   ("EXPONENTIAL", "Exponential(floatBase, intExponent)"), ("CIRCULAR", "Circular()"), ("BACK", "Back(floatSize)"),
   ("BOUNCE", "Bounce(intBounces, floatSize)"), ("ELASTIC", "Elastic(floatBase, floatExponent, intBounces)")]
  n.lineBy "category" (calls.map fun (category, call) => (category, s!"interpolation = self.get{call}")),
 fn0 "getLinear" fun _ => kernel "Linear", eases "getSinusoidal" "Sin",
 fn1 "getPower exponent" fun n power => do n.eased "Power" [<- maxOf 0 (<- wholeOf power)],
 eases "getExponential base exponent" "Exponential", eases "getCircular" "Circular", eases "getBack back" "Back",
 eases "getBounce bounces base" "Bounce",
 fn3 "getElastic base exponent bounces" fun n base power bounces => n.eased "Elastic" [bounces, base, power]],
.of "Evaluate Interpolation" [flag "useList"] (do
 takesAny "Float" (named "Position" [atLeast 0, atMost 1])
 takes "Interpolation" "Interpolation" [unnamed]
 givesAny "Float" "Value") [
 runsEither "useList"
  #["values = interpolation.evaluateList(positions)"]
  #["value = interpolation(max(min(position, 1.0), 0.0))"]],
.called "InterpolationFromCurve" <|
 .of "Curve Interpolation" [groupOf "curveMapCache" "CurveMapCache", flag "cacheInterpolation" false reruns]
  (gives "Interpolation") [
 act0 "setup" fun n => n.tell "createCurveNode",
 draws fun n l => do
  l.put "template_curve_mapping" [<- n "curveNode", "mapping"] [("type", "NONE")]
  n.button l "resetEndPoints" { text := "Reset End Points" }
  l.prop n "cacheInterpolation",
 fn0 "execute" fun n => do
  unless <- n.is "curveMapCache.dirty" do
   n.tell "loadCachedCurveMap"
   (<- n "curveMapCache").set "dirty" true
  let mapping <- n "mapping"
  let c <- item (<- mapping "curves") 3
  try mapping.tell "evaluate" [c, 0.5]
  catch _ => mapping.tell "initialize"
  let interp <- kernel "PyInterpolation" [.operation "<lambda>" [mapping, c]]
  if <- n.is "cacheInterpolation" then kernel "CachedInterpolation" [interp]
  else pure interp,
 fn0 "createCurveNode" fun n => do
  let node <- (<- helperMaterial).use "node_tree.nodes.new" ["ShaderNodeRGBCurve"]
  node.set "name" (<- n "identifier")
  let mapping <- n "mapping"
  mapping.set "use_clip" true
  mapping.set "clip_min_y" (-0.5)
  mapping.set "clip_max_y" 1.5
  n.tell "resetEndPoints"
  pure node,
 act0 "removeCurveNode" fun n => do
  let tree <- (<- helperMaterial) "node_tree"
  let curveNode <- (<- tree "nodes").call "get" [<- n "identifier"]
  if curveNode.isSome then tree.bid "nodes.remove" [curveNode],
 act0 "resetEndPoints" fun n => do
  let ps <- n.at "curve.points"
  (<- item ps 0).set "location" (.tuple [0, 0])
  (<- item ps (-1)).set "location" (.tuple [1, 1])
  n.bid "mapping.update",
 act1 "duplicate sourceNode" fun n source => do
  n.tell "createCurveNode"
  n.tell "copyOtherCurveNode" [source],
 act0 "delete" fun n => n.tell "removeCurveNode",
 act0 "cacheCurveMap" fun n => do
  let c <- n "curve"
  n.bid "curveMapCache.points.clear"
  for p in <- each c "points" do
   let e <- n.use "curveMapCache.points.add"
   e.set "handle_type" (<- p "handle_type")
   e.set "location" (<- p "location")
  (<- n "curveMapCache").set "dirty" false,
 act0 "loadCachedCurveMap" fun n => do n.tell "copyOtherCurve" [<- n "curveMapCache"],
 act1 "copyOtherCurve otherCurve" fun n curve => do
  let points <- (<- n "curve") "points"
  for (p, i) in (<- each curve "points").zipIdx do
   if (<- length points) == i then points.tell "new" [50, 50]
   (<- item points i).set "location" (<- p "location")
   (<- item points i).set "handle_type" (<- p "handle_type")
  n.bid "mapping.update",
 act1 "copyOtherCurveNode sourceNode" fun n source => do
  (<- n "mapping").set "extend" (<- source.at "mapping.extend")
  n.tell "copyOtherCurve" [<- source "curve"],
 act0 "save" fun n => n.tell "cacheCurveMap",
 prop "curve" fun n => do item (<- n.at "mapping.curves") 3,
 prop "mapping" fun n => n.at "curveNode.mapping",
 prop "curveNode" fun n => do
  let mat <- helperMaterial
  let mut node <- (<- mat.at "node_tree.nodes").call "get" [<- n "identifier"]
  if node.isNone then node := <- n.call "createCurveNode"
  pure node],
.of "Interpolation from FCurve" [] (do
 takes "FCurve"
 gives "Interpolation") [
 fn1 "execute fCurve" fun _ fCurve => do
  if fCurve.isNone then return <- kernel "Linear"
  let (startX, endX) <- unpack2 (<- fCurve.call "range")
  if <- equal startX endX then return <- kernel "Linear"
  let startY <- fCurve.call "evaluate" [startX]
  let endY <- fCurve.call "evaluate" [endX]
  if <- equal startY endY then return <- kernel "Linear"
  kernel "FCurveMapping" [fCurve, startX, <- sub endX startX, <- negate startY, <- div 1 (<- sub endY startY)]],
.of "Mirror Interpolation" [flag "chain" true reruns] (do
 takes "Interpolation" ("Interpolation", "interpolationIn") [unnamed]
 gives "Interpolation" ("Interpolation", "interpolationOut")) [
 shows "chain",
 fn1 "execute interpolation" fun n interp => do
  if <- n.is "chain" then kernel "MirroredAndChainedInterpolation" [interp]
  else kernel "MirroredInterpolation" [interp]],
.of "Mix Interpolation" [menu "mode" "OVERLAY"] (fun n => do
 let both := n.takesEach "Interpolation" [("Interpolation 1", "a"), ("Interpolation 2", "b")] [unnamed]
 match <- n.word "mode" with
 | "OVERLAY" =>
  n.float "Factor" [atLeast 0, atMost 1]
  both
 | "CHAIN" =>
  both
  n.float "Position" (dial 0.5 0 1)
  n.float ("End 1", "endA") (dial 1 0 1)
  n.float ("Start 2", "startB") (dial 0 0 1)
  n.float "Fade Width" [atLeast 0, atMost 1]
 | _ => pure ()
 n.gives "Interpolation") [
 drawsColumn fun n col => do col.prop n "mode" bare,
 runsBy (.byItem "mode" [("OVERLAY", "execute_Overlay"), ("CHAIN", "execute_Chain")]),
 delegates "execute_Overlay factor a b" "MixedInterpolation",
 method "execute_Chain a b position endA startB fadeWidth" fun _ b => kernel "ChainedInterpolation" b.toList],
.of "Delay Action" [flag "relative" true] (do
 takes "Action" ("Action", "inAction")
 float "Delay" [val 5]
 gives "Action" ("Action", "outAction")) [
 shows "relative",
 fn2 "execute action delay" fun n act delay => do
  if act.isNone then return .none
  kernel "DelayAction" [act, delay, <- n "relative"]]]

end AnimationGraph
