import AnimationGraph.Data.Motion

/-! # Nodes for grease pencil

Strokes, frames and layers of grease pencil objects.
-/

namespace AnimationGraph

variable (n : NodeId) (layer off : Value)

def layerInfo (fs : Eval) : Eval := do
 let (masks, layers) <- unpack2 (<- n.call "getMaskLayers" [layer])
 let details <- layer.attrs
  ["layerName", "blendMode", "opacity", "useLights", "tintColor", "tintFactor", "lineChange", "passIndex"]
 tuple ((<- fs) :: details ++ [masks, layers])

def framesInfo (empty : Eval) (choose : Value -> Eval)
  (first : Bool := false) : Eval := do
 let fs <- layer "frames"
 if <- isEmpty fs then layerInfo n layer empty
 else if first then layerInfo n layer (choose fs)
 else layerInfo n layer (pure (<- choose fs))

def activeFrame (frame frames : Value) : Eval := do
 let begun <- (<- iter frames).filterM fun fr => do lessEqual (<- fr "frameNumber") frame
 let first <- item frames 0
 match begun with
 | [] => pure first
 | f :: fs => fs.foldlM (fun best fr => do
  if <- greater (<- fr "frameNumber") (<- best "frameNumber") then pure fr else pure best) f

def strokeTraits : Texts := (strokeFields.drop strokePointFields.length).map (·.1)

def refuseBlendMode (mode : Value) : Act :=
 n.requireItem mode "Blend Mode" ["REGULAR", "OVERLAY", "ADD", "SUBTRACT", "MULTIPLY", "DIVIDE"] "blend mode"

def capModes : Texts := ["ROUND", "FLAT"]
def displayModes : Texts := ["SCREEN", "3DSPACE", "2DSPACE", "2DIMAGE"]
def listOf (v : Value) (isList : Bool) : Eval := if isList then pure v else list [v]

def NodeId.pencilData (o : Value) : Eval := do
 if <- notEqual (<- o "type") "GPENCIL" then n.halt "Object is not a grease pencil object."
 if <- fits o "mode" "EDIT" then n.halt "Object is not in object mode."
 o "data"

def NodeId.itemAt (kind : String) (xs index : Value) : Eval := do
 if (<- less index 0) || (<- greaterEqual index (<- length xs)) then
  n.halt (s!"There is no {kind} for index '{(<- text index)}'.")
 item xs index

def NodeId.drawLayers (o : Value) (layers : Values) : Eval := do
 let gp <- n.call "getObjectData" [o]
 for ly in layers do n.tell "setLayerData" [gp, ly]
 for ly in layers do n.tell "setMaskLayers" [gp, ly]
 gp.bid "layers.active.frames.update"
 pure o

def allDistinct (ns : Values) : Ask := return (<- distinctValues ns).length == ns.length

def NodeId.readLayer (o object space : Value) : Eval := do
 make "GPLayer" (
  [<- layer "info", <- n.call "getFrames" [layer, object, space]] ++
  (<- layer.attrs ["blend_mode", "opacity", "use_lights"]) ++ [<- n.call "getTintColor" [layer]] ++
  (<- layer.attrs ["tint_factor", "line_change", "pass_index"]) ++
  [.bool false, <- n.call "getMaskLayers" [layer, o, space]])

def delayFrames : Act := do
 for fr in <- each layer "frames" do fr.set "frameNumber" (<- add (<- fr "frameNumber") off)

def moveFrames (move : String) (by_ : Value) : Act := do
 for fr in <- each layer "frames" do
  fr.set "frameNumber" (<- add (<- fr "frameNumber") off)
  for s in <- each fr "strokes" do (<- s "vertices").tell move [by_]

def offsetFlags : Pairs := [
 ("useLocation", "Location"), ("useStrength", "Strength"), ("usePressure", "Pressure"),
 ("useUVRotation", "UVRotation"), ("useVertexColor", "Vertex Color")]

def replicatedLayers (mover : String) (n : NodeId) (b : Bound) : Eval := do
 let layers <- listOf (b 0) (!(<- isA (b 0) "GPLayer"))
 let offsets <- endless "Long" (b 2) 0
 let colors <- endless "Color" (b 3) (<- rgba [0, 0, 0, 0])
 let factors <- endless "Double" (b 4) 0
 let changes <- endless "Long" (b 5) 0
 list (<- (<- iter (b 1)).zipIdx.flatMapM fun (move, i) => do
  (<- iter layers).mapM fun ly => do
   let new <- ly.call "copy"
   new.set "layerName" (<- add (<- add (<- ly "layerName") "-") (toString i))
   new.set "tintColor" (<- item colors i)
   new.set "tintFactor" (<- item factors i)
   new.set "lineChange" (<- item changes i)
   n.tell mover [new, <- item offsets i, move]
   pure new)

def replicatedStrokes (ss ps : Value) (m : Value -> Eval := pure) : Eval :=
 copiesAt "GPStroke" ss ps fun copy place => do (<- copy "vertices").tell "transform" [<- m place]

/-- An attribute that a node sets on layers or strokes. -/
structure PencilAttribute where
 (type name : String)
 names : SocketNames := name ++ "s"
 flagName : String := "use" ++ name.replace " " "" ++ "List"
 (settings own : Fields := [])
 /-- The type of endless lists of such values, and the value for a missing one. -/
 endless : Option (String × String) := none
 /-- The field that is set, or the member that sets it. -/
 target : String := SocketNames.identifier name

def PencilAttribute.line (a : PencilAttribute) (x v : String) : String :=
 if a.target.startsWith "set" then s!"self.{a.target}({x}, {v})"
 else s!"{x}.{a.target} = {v}"

def attributeOfEach (type name list d : String) (settings : Fields := []) : PencilAttribute :=
 { type, name, settings, endless := (list, d) }

structure AttributeSetter where
 thing : String
 attributes : List PencilAttribute
 members : Members

namespace AttributeSetter

variable (s : AttributeSetter)

def listFlag : String := s!"use{s.thing}List"
def flags : Texts := s.listFlag :: (s.attributes.filter (·.endless.isSome)).map (·.flagName)

def lines (used : List PencilAttribute) (many : Bool) : Texts :=
 let xs := s.thing.decapitalize ++ "s"
 let out := "out" ++ s.thing
 if !many then s!"{out} = {xs}" :: used.map fun a => a.line out a.names.identifier
 else if used.isEmpty then [s!"{out}s = {xs}"]
 else
  let repeated := used.filterMap fun a => a.endless.map (a.names.identifier, ·)
  let new := s.thing.decapitalize ++ "New"
  let set := used.map fun a =>
   "    " ++ a.line new (if a.endless.isSome then s!"_{a.names.identifier}[i]" else a.names.identifier)
  (repeated.map fun (id, type, d) => s!"_{id} = Virtual{type}List.create({id}, {d})") ++
   [s!"_{xs} = VirtualPyList.create({xs}, GP{s.thing}())",
   "amount = VirtualPyList.getMaxRealLength(_" ++ xs] ++
   (repeated.map fun (id, _) => "         , _" ++ id) ++
   ["         )", out ++ "s = []", "for i in range(amount):", s!"    {new} = _{xs}[i].copy()"] ++
   set ++ [s!"    {out}s.append({new})"]

def kind : NodeKind where
 id := s!"an_SetGP{s.thing}AttributesNode"
 label := s!"Set GP {s.thing} Attributes"
 errorMode := "EXCEPTION"
 props := flag s.listFlag :: s.attributes.map (flag ·.flagName)
 create n := do
  let xs : SocketNames := s.thing ++ "s"
  n.takesMany s!"GP{s.thing}" [s.listFlag] (s.thing, xs.identifier) xs [modified]
  for a in s.attributes do
   n.takesMany a.type [a.flagName] (named (a.name, a.names.identifier) a.own) a.names a.settings
  n.givesMany s!"GP{s.thing}" s.flags (s.thing, "out" ++ s.thing) (xs.name, "out" ++ xs.name)
  n.switchable
 members :=
  (code fun n _ => do
   let used <- (s.attributes.zipIdx 1).filterM fun (_, i) => n.usesInputAt i
   return (s.lines (used.map (·.1)) (<- n.isAny s.flags)).toArray) :: s.members

end AttributeSetter

def layerSetter : AttributeSetter where
 thing := "Layer"
 attributes := [
  { attributeOfEach "Text" "Name" "Py" "'AN-Layer'" [val "AN-Layer", hide] with
    names := ("Names", "layerNames"), target := "layerName" },
  { attributeOfEach "Text" "Blend Mode" "Py" "'REGULAR'" [val "REGULAR", hide] with target := "setBlendMode" },
  { attributeOfEach "Float" "Opacity" "Double" "1" (dial 1 0 1) with names := "Opacities" },
  { attributeOfEach "Boolean" "Use Lights" "Boolean" "False" [val false, hide] with
    flagName := "useLightsList", names := "Use Lights" },
  attributeOfEach "Color" "Tint Color" "Color" "Color((0, 0, 0, 0))" [hide],
  attributeOfEach "Float" "Tint Factor" "Double" "0" (dial 0 0 1 ++ [hide]),
  { attributeOfEach "Integer" "Stroke Thickness" "Long" "0" [hide] with
    flagName := "useLineChangeList", names := ("Stroke Thicknesses", "lineChanges"), target := "lineChange" },
  { attributeOfEach "Integer" "Pass Index" "Long" "0" (dial 0) with names := "Pass Indices" },
  { type := "GPLayer", name := "Mask Layer", target := "setMaskLayers" },
  { type := "Boolean", name := "Invert Mask Layer", settings := [val false, hide],
    target := "setInvertMaskLayers" }]
 members := [
 fn2 "setBlendMode layer blendMode" fun n ly mode => do
  refuseBlendMode n mode
  ly.set "blendMode" mode
  pure ly,
 fn2 "setMaskLayers layer maskLayersIn" fun n ly maskLayersIn => do
  let masks <- list []
  for mask in <- iter (<- listOf maskLayersIn (<- n.is "useMaskLayerList")) do
   if <- ask mask "isEmptyLayer" then continue
   let maskName <- mask "layerName"
   if <- (notEqual maskName "") <&&> (do notEqual mask (<- ly "layerName")) then masks.tell "append" [mask]
  ly.set "maskLayers" masks
  pure ly,
 fn2 "setInvertMaskLayers layer invertMaskLayers" fun _ ly layers => do
  let layers <- endless "Boolean" layers false
  let masks <- ly "maskLayers"
  for (mask, i) in (<- iter masks).zipIdx do mask.set "invertAsMask" (<- item layers i)
  ly.set "maskLayers" masks
  pure ly]

def strokeItemSetter (field label : String) (xs : Texts) : Feature :=
 fn2 s!"set{field.capitalize} stroke {field}" fun n s v => do
  n.requireItem v label xs
  s.set field v
  pure s

def strokeSetter : AttributeSetter where
 thing := "Stroke"
 attributes := [
  attributeOfEach "Integer" "Line Width" "Integer" "0" (dial 250),
  { attributeOfEach "Float" "Hardness" "Double" "0" (dial 1 0 1) with names := "Hardnesses" },
  { attributeOfEach "Boolean" "Cyclic" "Boolean" "False" [val false, hide] with target := "useCyclic" },
  { attributeOfEach "Text" "Start Cap Mode" "Py" "'ROUND'" [val "ROUND", hide] with target := "setStartCapMode" },
  { attributeOfEach "Text" "End Cap Mode" "Py" "'ROUND'" [val "ROUND", hide] with target := "setEndCapMode" },
  { attributeOfEach "Color" "Vertex Color Fill" "Color" "Color((0, 0, 0, 0))" with own := [val (.tuple [0, 0, 0, 0])] },
  { attributeOfEach "Integer" "Material Index" "Long" "0" (dial 0) with names := "Material Indices" },
  { attributeOfEach "Text" "Display Mode" "Py" "'3DSPACE'" [val "3DSPACE", hide] with target := "setDisplayMode" }]
 members := [
 strokeItemSetter "startCapMode" "Start Cap Mode" capModes, strokeItemSetter "endCapMode" "End Cap Mode" capModes,
 strokeItemSetter "displayMode" "Display Mode" displayModes]

/-- Copies, each changed in its own way. -/
def changedCopies (vs : Value) (empty : Eval) (type : String) (ways : Value) (d : Eval) (f : Value -> Value -> Act) : Eval := do
 let vs <- endless "Py" vs (<- empty)
 let ways <- endless type ways (<- d)
 mapSpan (<- longest "Py" [vs, ways]) fun i => do
  let v <- (<- item vs i).call "copy"
  f v (<- item ways i)
  pure v

/-- Layers or strokes are moved by matrices: one as it is, several as copies. -/
def transforming (x : String) (empty : Eval) : Members :=
 let one := s!"execute_{x}_Matrix"
 let many := s!"execute_{x}List_MatrixList"
 let low := x.decapitalize
 [runsBy (.ifAny [s!"use{x}List", "useMatrixList"] many one),
 fn2 s!"{one} {low} matrix" fun n v m => do
  if m.isSome then n.tell s!"transform{x}" [v, m]
  pure v,
 fn2 s!"{many} {low}s matrices" fun n vs ms => do
  changedCopies vs empty "Matrix4x4" ms (kernel "Matrix") fun v m => n.tell s!"transform{x}" [v, m]]

def pencilNodes : List NodeKind := [
.lifted "Change GP Stroke Direction" [flag "useStrokeList"] (do
 takesSome "GPStroke" "Stroke"
 givesSome "GPStroke" ("Stroke", "newStroke")) [
 runs "newStroke = self.changeStrokeDirection(stroke)",
 fn1 "changeStrokeDirection stroke" fun _ s => do
  newStroke ((<- (<- s.attrs (strokePointFields.map (·.1))).mapM (·.call "reversed")) ++ (<- s.attrs strokeTraits))],
.risky "GP Frame From Strokes" (listFlags ["Stroke", "Number"]) (do
 takesSome "GPStroke" "Stroke" "Strokes" [modified]
 takesMany "Integer" ["useStrokeList", "useNumberList"] "Frame Number" "Frame Numbers" [val 1]
 givesMany "GPFrame" ["useNumberList"] "Frame") [
 runsBy (.ifSet "useNumberList" "execute_StrokesFrameNumbers" "execute_StrokesFrameNumber"),
 fn2 "execute_StrokesFrameNumber strokes frameNumber" fun n ss number => do
  make "GPFrame" [<- listOf ss (<- n.is "useStrokeList"), number],
 fn2 "execute_StrokesFrameNumbers strokes frameNumbers" fun n ss ns => do
  if (<- length ss) != (<- length ns) then n.halt "Strokes and Frame Numbers have different lengths."
  unless <- allDistinct (<- iter (<- ns.call "asNumpyArray")) do n.halt "Some Frame Numbers are repeated."
  list (<- ((<- iter ss).zip (<- iter ns)).mapM fun (s, num) => do make "GPFrame" [<- list [s], num])],
.risky "GP Frame Info" [menu "strokeType" "ALL", flag "useIntegerList"] (do
 takes "GPFrame" "Frame" [modified]
 match <- word "strokeType" with
 | "ALL" => gives "GPStroke List" "Strokes"
 | "INDEX" =>
  takesMany "Integer" ["useIntegerList"] "Stroke Index" "Stroke Indices"
  givesMany "GPStroke" ["useIntegerList"] "Stroke"
 | _ => pure ()
 gives "Integer" "Frame Number") [
 shows "strokeType" bare,
 runsBy (.byItem "strokeType" [("ALL", "execute_AllStrokes"), ("INDEX", .ifSet "useIntegerList"
   "execute_StrokeIndices" "execute_StrokeIndex")]),
 fn1 "execute_AllStrokes frame" fun _ fr => return .tuple [<- fr "strokes", <- fr "frameNumber"],
 fn2 "execute_StrokeIndex frame strokeIndex" fun n fr index => do
  let ss <- fr "strokes"
  if <- isEmpty ss then return .tuple [<- newStroke [], <- fr "frameNumber"]
  tuple [<- n.call "getStroke" [ss, index], <- fr "frameNumber"],
 fn2 "execute_StrokeIndices frame strokeIndices" fun n fr ix => do
  let ss <- fr "strokes"
  if <- isEmpty ss then return .tuple [<- list [], <- fr "frameNumber"]
  let strokes <- (<- iter ix).mapM (n.call "getStroke" [ss, ·])
  tuple [<- list strokes, <- fr "frameNumber"],
 fn2 "getStroke strokes strokeIndex" (·.itemAt "stroke")],
.risky "GP Layer From Frames" (listFlags ["Frame", "MaskLayer", "InvertMaskLayer"]) (do
 takesSome "GPFrame" "Frame" "Frames" [modified]
 str ("Name", "layerName") [val "AN-Layer"]
 str "Blend Mode" [val "REGULAR"]
 float "Opacity" (dial 1 0 1)
 bool "Use Lights" [val true, hide]
 takes "Color" "Tint Color" [hide]
 float "Tint Factor" (dial 0 0 1 ++ [hide])
 int ("Stroke Thickness", "lineChange") [hide]
 int "Pass Index" (dial 0 ++ [hide])
 takesSome "GPLayer" "Mask Layer" "Mask Layers" [hide]
 takesSome "Boolean" "Invert Mask Layer" "Invert Mask Layers" [val false, hide]
 gives "GPLayer" "Layer") [
 method "execute frames layerName blendMode opacity useLights tintColor tintFactor lineChange passIndex maskLayersIn invertMaskLayers" fun n b => do
  let fs <- listOf (b 0) (<- n.is "useFrameList")
  let maskLayersIn <- listOf (b 9) (<- n.is "useMaskLayerList")
  let ns <- (<- iter fs).mapM (· "frameNumber")
  if ns.length != (<- length (<- newSet (<- distinctValues ns))) then n.halt "Some Frame Numbers are repeated."
  n.requireName (b 1) "Layer"
  refuseBlendMode n (b 2)
  let masks <- list []
  if (<- length maskLayersIn) > 0 then
   let layers <- endless "Boolean" (b 10) false
   for (layer, i) in (<- iter maskLayersIn).zipIdx do
    if <- ask layer "isEmptyLayer" then continue
    let name <- layer "layerName"
    if (<- notEqual name "") && (<- notEqual name (b 1)) then
     layer.set "invertAsMask" (<- item layers i)
     masks.tell "append" [layer]
  make "GPLayer" (b 1 :: fs :: (b.toList.drop 2).take 7 ++ [.bool false, masks])],
.risky "GP Layer Info" [menu "frameType" "ACTIVE", flag "useFrameList"] (do
 takes "GPLayer" "Layer" [modified]
 match <- word "frameType" with
 | "ACTIVE" =>
  takes "Scene" "Scene" [hide]
  gives "GPFrame" "Frame"
 | "INDEX" =>
  takesMany "Integer" ["useFrameList"] "Frame Index" "Frame Indices" [val 0]
  givesSome "GPFrame" "Frame"
 | "FRAME" =>
  takesMany "Float" ["useFrameList"] "Frame Number" ("Frame Numbers", "inFrameNumbers") [val 1]
  givesSome "GPFrame" "Frame"
 | "ALL" => gives "GPFrame List" "Frames"
 | _ => pure ()
 givesEach "Text" [("Name", "layerName"), "Blend Mode"] [hide]
 gives "Float" "Opacity" [hide]
 gives "Boolean" "Use Lights" [hide]
 gives "Color" "Tint Color" [hide]
 gives "Float" "Tint Factor" [hide]
 givesEach "Integer" [("Stroke Thickness", "lineChange"), "Pass Index"] [hide]
 gives "GPLayer List" "Mask Layers" [hide]
 gives "Boolean List" "Invert Mask Layers" [hide]) [
 shows "frameType" bare,
 runsBy (.byItem "frameType" [("ACTIVE", "execute_ActiveFrame"), ("INDEX", .ifSet "useFrameList"
   "execute_FrameIndices" "execute_FrameIndex"), ("FRAME", .ifSet "useFrameList" "execute_FrameNumbers"
   "execute_FrameNumber"), ("ALL", "execute_AllFrames")]),
 fn2 "execute_ActiveFrame layer scene" fun n ly sc =>
  framesInfo n ly (make "GPFrame") (fun fs => do n.call "getActiveFrame" [<- sc "frame_current", fs]) true,
 fn2 "execute_FrameIndex layer frameIndex" fun n ly index =>
  framesInfo n ly (make "GPFrame") (n.call "getFrame" [·, index]),
 fn2 "execute_FrameIndices layer frameIndices" fun n ly ix =>
  framesInfo n ly (list []) fun fs => mapList ix (n.call "getFrame" [fs, ·]),
 fn2 "execute_FrameNumber layer frameNumber" fun n ly number =>
  framesInfo n ly (make "GPFrame") (n.call "getFrameFromNumber" [·, number]) true,
 fn2 "execute_FrameNumbers layer inFrameNumbers" fun n ly ns =>
  framesInfo n ly (list []) fun fs => mapList ns (n.call "getFrameFromNumber" [fs, ·]),
 fn1 "execute_AllFrames layer" fun n ly => do layerInfo n ly (pure (<- ly "frames")),
 fn2 "getActiveFrame currentFrame frames" fun _ => activeFrame,
 fn2 "getFrameFromNumber frames frameNumber" fun n fs number => do
  match <- (<- iter fs).findM? (fits · "frameNumber" number) with
  | some fr => pure fr
  | none => n.halt (s!"There is no frame for frame-number '{(<- text number)}'."),
 fn2 "getFrame frames frameIndex" (·.itemAt "frame"),
 fn1 "getMaskLayers layer" fun _ ly => do
  let layers <- ly "maskLayers"
  tuple [layers, <- mapList layers (· "invertAsMask")]],
.risky "GP Material Output" [] (do
 takes "Material" "Material" [unnamed]
 bool "Show Stroke" [val true]
 str "Stroke Draw Mode" [val "LINE"]
 takes "Color" "Stroke Color"
 bool "Show Fill" [val false, hide]
 takes "Color" "Fill Color" [hide]
 int "Pass Index" [val 0, ("minVlaue", 0), hide]
 gives "Material"
 switchable) [
 writes fun n _ => do
  emits #["if material is not None:", "    if not material.is_grease_pencil:",
   "        bpy.data.materials.create_gpencil_data(material)"]
  let ls <- n.linesOfUsed [("Show Stroke", "gpMaterial.show_stroke = showStroke"),
   ("Stroke Draw Mode", "self.setStrokeDrawMode(gpMaterial, strokeDrawMode)"),
   ("Stroke Color", "gpMaterial.color = strokeColor"), ("Show Fill", "gpMaterial.show_fill = showFill"),
   ("Fill Color", "gpMaterial.fill_color = fillColor"), ("Pass Index", "gpMaterial.pass_index = passIndex")]
  unless ls.isEmpty do emits (#["    gpMaterial = material.grease_pencil"] ++ ls),
 act2 "setStrokeDrawMode gpMaterial strokeDrawMode" fun n material mode => do
  n.requireItem mode "Stroke Draw Mode" ["LINE", "DOTS", "BOX"]
  material.set "mode" mode],
.risky "GP Object Input" [menu "importType" "ALL"] (do
 takesObject
 bool "Use World Space" [val true]
 match <- word "importType" with
 | "SINGLE" =>
  str "Layer Name"
  gives "GPLayer" "Layer"
 | "ALL" => gives "GPLayer List" "Layers"
 | _ => pure ()) [
 showsMore "importType", runsBy (.byItem "importType" [("SINGLE", "executeSingle"), ("ALL", "executeList")]),
 fn3 "executeSingle object useWorldSpace layerName" fun n o space layer => do
  if o.isNone then return <- make "GPLayer"
  let object <- evaluated o
  n.readLayer (<- n.call "getLayer" [object, layer]) o object space,
 fn2 "executeList object useWorldSpace" fun n o space => do
  if o.isNone then return <- list []
  let object <- evaluated o
  mapList (<- n.call "getLayers" [object]) (n.readLayer · o object space),
 fn2 "getLayer object layerName" fun n o layer => do
  let layers <- n.call "getLayers" [o]
  if <- has layers layer then item layers layer
  else n.halt (s!"Object doesn't have a layer with the name '{(<- text layer)}'."),
 fn1 "getLayers object" fun n o => do (<- n.call "getObjectData" [o]) "layers",
 fn1 "getTintColor layer" fun _ ly => do
  let c <- ly "tint_color"
  rgba [<- c "r", <- c "g", <- c "b", 1],
 fn3 "getMaskLayers layer object useWorldSpace" fun n ly o space => do
  mapList (<- ly "mask_layers") fun mask => do
   let maskLayer <- n.call "executeSingle" [o, space, <- mask "name"]
   maskLayer.set "invertAsMask" (<- mask "invert")
   pure maskLayer,
 fn1 "getObjectData object" NodeId.pencilData,
 fn3 "getFrames layer object useWorldSpace" fun n ly o space => do
  mapList (<- ly "frames") fun fr => do
   make "GPFrame" [<- n.call "getStrokes" [<- fr "strokes", o, space], <- fr "frame_number"],
 fn3 "getStrokes strokes object useWorldSpace" fun n ss o space => mapList ss (n.call "getStroke" [·, o, space]),
 fn3 "getStroke stroke object useWorldSpace" fun n s o space => do
  let points <- s "points"
  let k <- length points
  let vs <- sized "Vector3DList" k
  let ns <- ["strength", "pressure", "uv_rotation"].mapM fun name => do return (name, <- sized "FloatList" k)
  let colors <- sized "ColorList" k
  points.readAll "co" vs "asNumpyArray"
  if <- truthy space then vs.tell "transform" [<- o "matrix_world"]
  for (name, list) in ns ++ [("vertex_color", colors)] do
   points.readAll name list "asNumpyArray"
  newStroke ([vs] ++ ns.map (·.2) ++ [colors] ++
   (<- s.attrs ["line_width", "hardness", "use_cyclic", "start_cap_mode", "end_cap_mode"]) ++
   [<- n.call "getVertexColorFill" [s]] ++ (<- s.attrs ["material_index", "display_mode"])),
 fn1 "getVertexColorFill stroke" fun _ s => do
  let c <- s "vertex_color_fill"
  rgba (<- iter c)],
.risky "GP Object Output" [toggle "appendLayers", flag "useLayerList"] (fun n => do
 n.takes "Object" "Object" [unnamed, ("objectCreationType", "GPENCIL")]
 n.takesSome "GPLayer" "Layer"
 n.gives "Object") [
 drawsMore fun n l => do (<- l.line).prop n "appendLayers",
 runsBy (.ifSet "useLayerList" "execute_LayerList" "execute_Layer"),
 fn2 "execute_Layer object layer" fun n o ly => do
  if o.isNone then return .none
  if <- fits ly "layerName" "" then return o
  n.drawLayers o [ly],
 fn2 "execute_LayerList object layers" fun n o layers => do
  if o.isNone then return .none
  if <- isEmpty layers then return o
  n.drawLayers o (<- iter layers),
 act2 "setLayerData gpencil layer" fun n gp ly => do
  let layer <- n.call "getLayer" [gp, ly]
  for fr in <- each ly "frames" do
   let gpFrame <- (<- layer "frames").call "new" [<- fr "frameNumber"] [("active", true)]
   for s in <- each fr "strokes" do
    let vs <- s "vertices"
    if (<- length vs) > 0 then
     let stroke <- gpFrame.use "strokes.new"
     n.tell "setStrokeProperties" [stroke, s]
     let points <- stroke "points"
     points.tell "add" [<- length vs] [("strength", 0.75), ("pressure", 1)]
     points.writeAll "co" vs "asNumpyArray"
     for (name, field) in [("strength", "strengths"), ("pressure", "pressures"), ("uv_rotation",
       "uvRotations")] do
      points.tell "foreach_set" [name, <- s.attr field]
     points.writeAll "vertex_color" (<- s "vertexColors") "asNumpyArray"
   gpFrame.bid "strokes.update",
 act2 "setMaskLayers gpencil layer" fun _ gp ly => do
  let gpLayers <- gp "layers"
  let title <- ly "layerName"
  let layer <- item gpLayers title
  for mask in <- each ly "maskLayers" do
   let maskName <- mask "layerName"
   if (<- has gpLayers maskName) && (<- notEqual maskName title) && (<- notEqual maskName "") then
    (<- layer "mask_layers").tell "add" [<- item gpLayers maskName]
    (<- item (<- layer "mask_layers") maskName).set "invert" (<- mask "invertAsMask"),
 act2 "setStrokeProperties gpStroke stroke" fun _ stroke s => do
  stroke.takeAttrs s [("line_width", "lineWidth"), ("hardness", "hardness"), ("use_cyclic", "useCyclic"),
   ("start_cap_mode", "startCapMode"), ("end_cap_mode", "endCapMode"), ("vertex_color_fill", "vertexColorFill"),
   ("material_index", "materialIndex"), ("display_mode", "displayMode")],
 fn2 "getLayer gpencil layer" fun n gp ly => do
  let title <- ly "layerName"
  let gpLayers <- gp "layers"
  let known := (<- has gpLayers title) && (<- n.is "appendLayers")
  let layer <- if known then item gpLayers title else gpLayers.call "new" [title] [("set_active", true)]
  if known then layer.tell "clear"
  layer.takeAttrs ly [("blend_mode", "blendMode"), ("opacity", "opacity"), ("use_lights", "useLights")]
  layer.set "tint_color" (<- item (<- ly "tintColor") (sliceValue .none 3 .none))
  layer.takeAttrs ly
   [("tint_factor", "tintFactor"), ("line_change", "lineChange"), ("pass_index", "passIndex")]
  if (<- count ly "maskLayers") > 0 then layer.set "use_mask_layer" true
  pure layer,
 fn1 "getObjectData object" fun n o => do
  let gp <- n.pencilData o
  unless <- n.is "appendLayers" do gp.tell "clear"
  pure gp],
.risky "GP Stroke From Points" (listFlags ["Strength", "Pressure", "UVRotation", "VertexColor"]) (do
 takes "Vector List" ("Points", "vertices")
 takesSome "Float" "Strength" "Strengths" [val 1]
 takesSome "Float" "Pressure" "Pressures" [val 1]
 takesMany "Float" ["useUVRotationList"] ("UV-Rotation", "uvRotation") ("UV-Rotations", "uvRotations") [hide]
 takesSome "Color" (named "Vertex Color" [val (.tuple [0, 0, 0, 0])])
 int "Line Width" [val 250]
 float "Hardness" [val 1]
 bool ("Cyclic", "useCyclic") [val false, hide]
 takesEach "Text" ["Start Cap Mode", "End Cap Mode"] [val "ROUND", hide]
 takes "Color" "Vertex Color Fill" [val (.tuple [0, 0, 0, 0]), hide]
 int "Material Index" [val 0]
 str "Display Mode" [val "3DSPACE", hide]
 gives "GPStroke" "Stroke") [
 method "execute vertices strengths pressures uvRotations vertexColors lineWidth hardness useCyclic startCapMode endCapMode vertexColorFill materialIndex displayMode" fun n b => do
  let k <- length (b 0)
  let ns <- [(b 1, (1 : Value)), (b 2, 1), (b 3, 0)].mapM fun (v, d) => do
   kernel "FloatList.fromValues" [<- filled "Double" v d k]
  let colors <- filled "Color" (b 4) (<- rgba [0, 0, 0, 0]) k
  n.requireItem (b 8) "Start Cap Mode" capModes
  n.requireItem (b 9) "End Cap Mode" capModes
  n.requireItem (b 12) "Display Mode" displayModes
  newStroke (b 0 :: ns ++ colors :: b.toList.drop 5)],
.lifted "GP Stroke From Spline" [flag "useSplineList"] (do
 takesSome "Spline" "Spline" "Splines" [unnamed]
 givesMany "GPStroke" ["useSplineList"] "Stroke") [
 runs "stroke = self.strokesFromSplines(spline)",
 fn1 "strokesFromSplines spline" fun _ sp => do
  if sp.isNone then return <- newStroke []
  let vs <- sp.use "points.copy"
  let pressures <- sp.use "radii.copy"
  let k <- length vs
  let strengths <- sized "FloatList" k
  let rotations <- sized "FloatList" k
  strengths.tell "fill" [1]
  rotations.tell "fill" [0]
  newStroke [] [("vertices", vs), ("strengths", strengths), ("pressures", pressures),
   ("uvRotations", rotations), ("useCyclic", <- sp "cyclic")]],
.of "GP Stroke Info" [] (do
 takes "GPStroke" "Stroke"
 gives "Vector List" ("Points", "vertices")
 givesEach "Float List" ["Strengths", "Pressures"]
 gives "Float List" ("UV-Rotations", "uvRotations") [hide]
 gives "Color List" "Vertex Colors"
 gives "Integer" "Line Width"
 gives "Float" "Hardness"
 gives "Boolean" ("Cyclic", "useCyclic") [hide]
 givesEach "Text" ["Start Cap Mode", "End Cap Mode"] [hide]
 gives "Color" "Vertex Color Fill"
 gives "Integer" "Material Index"
 gives "Text" "Display Mode" [hide]) [
 fn1 "execute stroke" fun _ s => do
  let ns <- ["strengths", "pressures", "uvRotations"].mapM fun name => do
   kernel "DoubleList.fromValues" [<- s.attr name]
  tuple ([<- s "vertices"] ++ ns ++ (<- s.attrs ("vertexColors" :: strokeTraits)))],
.of "Offset GP Layer Frames" (listFlags ["Layer", "FrameNumber"]) (do
 takesSome "GPLayer" "Layer" "Layers" [modified]
 takesMany "Integer" ["useFrameNumberList"] "Offset" (" Offsets", "offsets") [val 0]
 givesMany "GPLayer" ["useLayerList", "useFrameNumberList"] "Layer" ("Layers", "outLayers")) [
 runsBy (.ifAny ["useLayerList", "useFrameNumberList"] "execute_LayerList_FrameNumberList"
   "execute_Layer_FrameNumber"),
 fn2 "execute_Layer_FrameNumber layer offset" fun _ ly off => do
  delayFrames ly off
  pure ly,
 fn2 "execute_LayerList_FrameNumberList layers offsets" fun _ layers offsets => do
  changedCopies layers (make "GPLayer") "Double" offsets (pure 0) delayFrames],
.risky "Offset GP Stroke" (menu "methodType" "MIX" ::
  (offsetFlags.map fun (f, _) => flag f false checked) ++
  listFlags ["Vector", "Strength", "Pressure", "UVRotation", "VertexColor"])
  (fun n => do
 n.takes "GPStroke" "Stroke" [modified]
 n.takes "Falloff"
 n.takesOffsetLocations
 n.takesSome "Float" (named ("Strength", "offsetStrength") [val 1])
 n.takesSome "Float" (named ("Pressure", "offsetPressure") [val 1])
 n.takesMany "Float" ["useUVRotationList"] (named ("UV-Rotation", "offsetUVRotation") [val 1])
 n.takesMany "Color" ["useVertexColorList"] (named ("Color", "offsetVertexColor") [val (.tuple [1, 0, 0, 1])])
 n.gives "GPStroke" "Stroke"
 n.tell "updateSocketVisibility") [
 checks,
 draws fun n l => do
  let col <- l.stack
  for pair in [offsetFlags.take 2, (offsetFlags.drop 2).take 2, offsetFlags.drop 4] do
   let row <- col.line
   for (name, label) in pair do row.prop n name [("text", label), ("toggle", true)],
 drawsMore fun n l => do
  let col <- l.column
  col.set "active" (<- n "useVertexColor")
  col.prop n "methodType" "Type",
 act0 "updateSocketVisibility" fun n => do
  for ((name, _), i) in offsetFlags.zipIdx 2 do (<- n.input i).set "hide" (!(<- n.is name)),
 method "execute stroke falloff offsetLocations offsetStrengths offsetPressures offsetUVRotations offsetVertexColors" fun n b => do
  let stroke := b 0
  unless <- offsetFlags.anyM fun (name, _) => n.is name do return stroke
  let influences <- (<- n.call "getFalloffEvaluator" [b 1]).call "evaluateList" [<- stroke "vertices"]
  for (name, field, offsets) in [("useStrength", "strengths", b 3), ("usePressure", "pressures", b 4),
    ("useUVRotation", "uvRotations", b 5)] do
   if <- n.is name then
    let offsets <- endless "Double" offsets 0
    affect "offsetFloats" [<- stroke.attr field, offsets, influences]
  if <- n.is "useVertexColor" then
   let colors <- endless "Color" (b 6) (.tuple [0, 0, 0, 0])
   affect "offsetColors" [<- stroke "vertexColors", colors, influences, <- n "methodType"]
  if <- n.is "useLocation" then
   let offsets <- endless "Vector3D" (b 2) zero3
   affect "offset3DVectors" [<- stroke "vertices", offsets, influences]
  pure stroke,
 evaluatesFalloff],
.of "Replicate GP Layer" ([menu "transformationType" "MATRIX_LIST"] ++
   listFlags ["Layer", "Offset", "TintColor", "TintFactor", "LineChange"]) (do
 takesSome "GPLayer" ("Layer", "layers") "Layers" [modified]
 takesPlaces
 takesMany "Integer" ["useOffsetList"] ("Offset Frame", "offsets") ("Offset Frames", "offsets") [val 0, hide]
 takesSome "Color" ("Tint Color", "tintColors") "Tint Colors" [hide]
 takesSome "Float" ("Tint Factor", "tintFactors") "Tint Factors" [val 0, hide]
 takesMany "Integer" ["useLineChangeList"] ("Stroke Thickness", "lineChanges")
   ("Stroke Thicknesses", "lineChanges") [val 0, hide]
 gives "GPLayer List" ("Layers", "outLayers")) (runsByPlaces "execute_MatrixList" "execute_VectorList" ++ [
 method "execute_MatrixList layers matrices offsets tintColors tintFactors lineChanges"
  (replicatedLayers "transformLayerByMatrix"),
 method "execute_VectorList layers vectors offsets tintColors tintFactors lineChanges"
  (replicatedLayers "transformLayerByVector"),
 act3 "transformLayerByMatrix layer offset matrix" fun _ ly off m => moveFrames ly off "transform" m,
 act3 "transformLayerByVector layer offset vector" fun _ ly off v => moveFrames ly off "move" v]),
.of "Replicate GP Stroke" [flag "useStrokeList", menu "transformationType" "MATRIX_LIST"] (do
 takesSome "GPStroke" ("Stroke", "strokes") "Strokes" [modified]
 takesPlaces
 gives "GPStroke List" ("Strokes", "outStrokes")) (runsByPlaces "execute_MatrixList" "execute_VectorList" ++ [
 fn2 "execute_MatrixList strokes matrices" fun _ ss ms => replicatedStrokes ss ms,
 fn2 "execute_VectorList strokes vectors" fun _ ss vs => replicatedStrokes ss vs (kernel "Matrix.Translation" [·])]),
layerSetter.kind,
strokeSetter.kind,
.of "Transform GP Layer" (listFlags ["Layer", "Matrix"]) (do
 takesSome "GPLayer" (named "Layer" [unnamed]) "Layers" [modified]
 takesSome "Matrix" "Matrix" ("Matices", "matrices")
 givesMany "GPLayer" ["useLayerList", "useMatrixList"] ("Layer", "outLayer")) (transforming "Layer" (make "GPLayer") ++ [
 act2 "transformLayer layer matrix" fun _ ly m => do
  for fr in <- each ly "frames" do
   for s in <- each fr "strokes" do s.bid "vertices.transform" [m]]),
.of "Transform GP Stroke" (listFlags ["Stroke", "Matrix"]) (do
 takesSome "GPStroke" "Stroke" "Strokes" [modified]
 takesSome "Matrix" "Matrix" ("Matices", "matrices")
 givesMany "GPStroke" ["useStrokeList", "useMatrixList"] "Stroke") (transforming "Stroke" (newStroke []) ++ [
 fn2 "transformStroke stroke matrix" fun _ s m => do s.use "vertices.transform" [m]])]

end AnimationGraph
