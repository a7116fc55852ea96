import AnimationGraph.Host.Blocks
import Std.Data.HashMap

/-! # Kinds of sockets and catalogues

For every data type: what a socket of this type stores while nothing is linked to it, how that is
drawn, which value it stands for, and how any value is brought into this type. Splines are made from the curves of the
host and joined end to end. A catalogue holds every kind of nodes, every kind of records and every operation that can be
called by name.
-/

namespace AnimationGraph

def finishSpline (sp c : Value) : Eval := do
 sp.set "cyclic" (<- c "use_cyclic_u")
 sp.set "materialIndex" (<- c "material_index")
 pure sp

variable (c : Value)

def bezierSplineOf : Eval := do
 let k <- count c "bezier_points"
 let ls <- ["Vector3DList", "Vector3DList", "Vector3DList", "FloatList", "FloatList"].mapM (sized · k)
 for (prop, list) in ["co", "handle_left", "handle_right", "radius", "tilt"].zip ls do
  (<- c "bezier_points").readAll prop list
 finishSpline (<- kernel "BezierSpline" ls) c

def polySplineOf : Eval := do
 let k <- count c "points"
 let coords <- sized "FloatList" (4 * k : Nat)
 (<- c "points").readAll "co" coords
 delItem coords (sliceValue 3 .none 4)
 let ps <- kernel "Vector3DList.fromFloatList" [coords]
 let radii <- sized "FloatList" k
 let tilts <- sized "FloatList" k
 (<- c "points").readAll "radius" radii
 (<- c "points").readAll "tilt" tilts
 finishSpline (<- kernel "PolySpline" [ps, radii, tilts]) c

def splineOf? : Run (Option Value) := do
 let type <- c "type"
 if type.is "BEZIER" then return some (<- bezierSplineOf c)
 if type.is "POLY" then return some (<- polySplineOf c)
 pure none

def splinesOfObject (o : Value) (modifiers : Value := false) : Eval := do
 let data <- o.use "an.getCurve" [modifiers]
 if data.isNone then return <- list []
 list (<- (<- each data "splines").filterMapM splineOf?)

def joinedSpline (straight : Bool) (ss : Value) : Eval := do
 let joined <- kernel (if straight then "PolySpline" else "BezierSpline") []
 for sp in <- iter ss do
  let extend (part src : String) : Act := do (<- joined.attr part).tell "extend" [<- sp.attr src]
  extend "points" "points"
  extend "radii" "radii"
  unless straight do
   extend "tilts" "tilts"
   for side in ["leftHandles", "rightHandles"] do
    if <- isA sp "PolySpline" then extend side "points"
    else if <- isA sp "BezierSpline" then extend side side
 joined.set "materialIndex" (<- (<- item ss 0) "materialIndex")
 pure joined

def connectedSpline (ss : Value) : Eval := do
 let k <- length ss
 if k == 0 then return <- kernel "BezierSpline"
 if k == 1 then return <- (<- item ss 0).call "copy"
 joinedSpline (<- (<- iter ss).allM (isA · "PolySpline")) ss

variable (dataType : String) (test : Value -> Ask)

def keepIf (d : Eval) (v : Value) : Run (Value × Nat) := do
 if <- test v then return (v, 0)
 return (<- d, 2)

def keepOrConvert (convert : Value -> Eval) (d : Eval) (v : Value) : Run (Value × Nat) := do
 if <- test v then return (v, 0)
 try return (<- convert v, 1) catch _ => return (<- d, 2)

def isOrNone (kind : String) (v : Value) : Ask := return v.isNone || (<- isA v kind)
abbrev DrawValue := SocketId -> LayoutId -> Value -> NodeId -> Act

variable (name : String) (ns : Texts)

def drawProp : DrawValue := fun s l text _ => l.prop s name [("text", text)]

def drawComponents : DrawValue := fun s l text _ => do
 let col <- l.stack
 unless text.is "" do col.write text
 for (name, i) in ns.zipIdx do col.prop s "value" [("index", i), ("text", name)]

def drawMember (draw : DrawValue) : Feature SocketId :=
 action "drawProperty layout text node" fun s b => do draw s (<- layoutOf (b 0)) (b 1) (<- nodeOf (b 2))

def keptIn : Members SocketId := [act1 "setProperty data" (·.set name), fn0 "getProperty" (·.attr name)]

def keptInAll : Members SocketId :=
 [act1 "setProperty data" fun s v => do
  let ps <- iter v
  unless ps.length == ns.length do fail .value
  for (name, v) in ns.zip ps do s.set name v,
 fn0 "getProperty" fun s => return .tuple (<- ns.mapM s.attr)]

def valueMember : (SocketId -> Eval) -> Feature SocketId := fn0 "getValue"
def changes (_ : SocketId) : Act := valueChanged

variable (s : SocketId) (default : Eval) (row : LayoutId) (cls : String)

def clampedTo (v : Value) : Eval := do minOf (<- maxOf (<- s "minValue") v) (<- s "maxValue")

def clampedValue (storage : Storage) : Property SocketId :=
 { name := "value", storage, onUpdate := changes
   compute := some fun s => do clampedTo s ((<- look fun w => (w.forest.socket s).custom.get? "value").getD 0)
   assign := some fun s v => do
    let v <- clampedTo s v
    changeForest (·.modifySocket s fun x => { x with custom := x.custom.set "value" v }) }

def rangeMember : Feature SocketId :=
 act2 "setRange min max" fun s low high => do
  s.set "minValue" low
  s.set "maxValue" high

def drawBeside (draw : SocketId -> LayoutId -> NodeId -> Act) : DrawValue := fun s l text n => do
 let row <- l.line
 row.prop s name [("text", text)]
 draw s row n

def bareKind (props : List (Property SocketId) := []) (members : Members SocketId := []) : SocketKind :=
 { dataType, props, members, default, correct := keepIf test default }

def listKind (props : List (Property SocketId) := []) (members : Members SocketId := []) : SocketKind :=
 bareKind (dataType ++ " List") (isListOf · test) (list []) props members

def bareKinds : List SocketKind := [bareKind dataType test default, listKind dataType test]
def madeKinds (cls : String := dataType) : List SocketKind := bareKinds dataType (isA · cls) (Value.kind cls).apply

/-- A kind whose sockets stand for something or for nothing. -/
def optionalKind (props : List (Property SocketId)) (members : Members SocketId) : SocketKind :=
 bareKind dataType (isOrNone cls) (pure .none) props members

def holderKinds (cls name : String) (draw : DrawValue := drawProp name) (more : Members SocketId := [])
  (props : List (Property SocketId) := []) : List SocketKind :=
 [optionalKind dataType cls (block name changes :: props)
  (keptIn name ++ [drawMember draw, valueMember (·.attr name)] ++ more), listKind dataType (isOrNone cls)]

def eyedropper (n : NodeId) : Act :=
 s.button row n "handleEyedropperButton" {
  icon := "EYEDROPPER", passEvent := true
  description := "Assign active object to this socket (hold CTRL to open a rename object dialog)" }

def activeObject : Eval := do here "active_object"

def takeActive (accept : Value -> Ask) : Act := do
 let o <- activeObject
 if <- accept o then s.set "object" o

def typeOf (o : Value) : Eval := o.attrD "type" ""

def eyedropperMember (icon : String) (needed : Bool) (accept : Value -> Ask) : Feature SocketId :=
 act1 "handleEyedropperButton event" fun s event => do
  if <- holds event "ctrl" then
   let o <- s "object"
   if needed || (<- truthy o) then
    hostOperator "an.rename_datablock_popup" ["INVOKE_DEFAULT"]
     [("oldName", <- o "name"), ("path", "bpy.data.objects"), ("icon", icon)]
  else takeActive s accept

def drawObjectInSpace (dropper : SocketId -> LayoutId -> NodeId -> Act) : DrawValue := fun s l text n => do
 let row <- l.line
 row.prop s "object" [("text", text)]
 dropper s row n
 if <- holds s "object" then row.prop s "useWorldSpace" (badge "" "WORLD")

def objectInSpace : List (Property SocketId) := [block "object" changes, flag "useWorldSpace" true changes]
def keptInSpace : Members SocketId := keptInAll ["object", "useWorldSpace"]

def kernelListKind : SocketKind :=
 { dataType, default := kernel cls []
   correct := keepOrConvert (isA · cls) (fun v => kernel s!"{cls}.fromValues" [v]) (kernel cls []) }

def numberKind (storage : Storage) (limits : List (Property SocketId)) (convert : Value -> Eval) : SocketKind :=
 { dataType, props := clampedValue storage :: limits
   members := keptIn "value" ++ [drawMember (drawProp "value"), valueMember (· "value"), rangeMember]
   default := pure 0, correct := keepOrConvert test convert (pure 0) }

def numbersKind (default : List Float) (labels : Texts) (make : Values -> Eval) (zero : Values)
  (correct : (Values -> Eval) -> Values -> Value -> Run (Value × Nat)) : SocketKind :=
 { dataType, props := [fractions "value" default changes]
   members := keptIn "value" ++ [drawMember (drawComponents labels), valueMember fun s => do make (<- each s "value")]
   default := make zero, correct := correct make zero }

def correctVector (vector : Values -> Eval) (zero : Values) (v : Value) : Run (Value × Nat) := do
 let fits <- try pure ((<- length v) == zero.length) catch _ => pure false
 if (<- isA v "Vector") && fits then return (v, 0)
 if fits then try return (<- vector (<- iter v), 1) catch _ => pure ()
 return (<- vector zero, 2)

def correctRotation (kind : String) (make : Values -> Eval) (zero : Values) : Value -> Run (Value × Nat) :=
 keepOrConvert (isA · kind) (fun v => do make (<- iter v)) (make zero)

def emptyTree : Eval := do kernel "BVHTree.FromPolygons" [] [("vertices", <- list []), ("polygons", <- list [])]
def emptySpline : Eval := kernel "BezierSpline"
def isSpline (v : Value) : Ask := isAnyOf v ["BezierSpline", "PolySpline"]
def SocketId.scene : Eval := do (<- s "nodeTree") "scene"
def SocketId.sequenceEditor : Eval := do (<- s.scene) "sequence_editor"
def emptySound : Eval := do make "Sound" [<- list []]

def sequenceEditors : Evals := do
 let scenes <- iter (<- blocks "scenes")
 return (<- scenes.mapM (· "sequence_editor")).filter Value.isSome

def soundStripItems : Evals := do
 let strips <- (<- sequenceEditors).flatMapM (each · "sequences_all")
 let items <- (<- strips.filterM (fits · "type" "SOUND")).mapM fun s => do
  let name <- s "name"
  tuple [name, name, "", <- kernel "strToEnumItemID" [name]]
 return items ++ [.tuple ["NONE", "Empty Sound", "", 0]]

def emptyChannel (editor : Value) : Run Nat := do
 let used <- (<- each editor "sequences").mapM fun strip => do indexOf (<- strip "channel")
 if used.any fun c => (position? 32 (c - 1)).isNone then fail .index
 let taken := used.filterMap fun c => position? 32 (c - 1)
 return (((List.range 32).find? (!taken.contains ·)).map (· + 1)).getD 32

def orCreateSequencer (sc : Value) : Eval := do
 unless <- holds sc "sequence_editor" do sc.tell "sequence_editor_create"
 sc "sequence_editor"

def createObjectFor : Act := do
 let type <- s "objectCreationType"
 let new (col : String) (args : Values) : Eval := do (<- blocks col).call "new" args
 let data <-
  if type.is "MESH" then new "meshes" ["Mesh"]
  else if type.is "CURVE" then do
   let data <- new "curves" ["Curve", "CURVE"]
   data.set "dimensions" "3D"
   data.set "fill_mode" "FULL"
   pure data
  else if type.is "GPENCIL" then new "grease_pencils" ["ANGPencil"]
  else fail (.host "UnboundLocalError")
 let o <- new "objects" ["Target", data]
 (<- (<- here "collection") "objects").tell "link" [o]
 s.set "object" o

/-- The scene that all follow is told by its name. -/
def writeScene (t : Value) (shown : String -> String) : Act := do
 let name <- literal (<- (<- s.scene) "name")
 let title <- if t.is "" then pure t else add t ": "
 row.write (<- add title (shown name))

def socketKinds : List SocketKind :=
 bareKinds "FCurve" (isOrNone "FCurve") (pure .none) ++ madeKinds "GPFrame" ++ madeKinds "GPLayer"
  ++ madeKinds "GPStroke" ++ madeKinds "MIDI Note" "MIDINote" ++ madeKinds "MIDI Track" "MIDITrack"
  ++ bareKinds "Mesh" (isA · "Mesh") (kernel "Mesh")
  ++ bareKinds "Particle System" (isOrNone "ParticleSystem") (pure .none)
  ++ bareKinds "Struct" (isOrNone "ANStruct") (newCell (.struct #[]))
  ++ holderKinds "Collection" "Collection" "collection"
  ++ holderKinds "Font" "VectorFont" "font"
   (drawBeside "font" fun s row n => s.selector row "PATH" n "loadFont" { icon := "PLUS" })
   [act1 "loadFont path" fun s p => attempt do s.set "font" (<- (<- blocks "fonts").call "load" [p])]
  ++ holderKinds "Material" "Material" "material"
   (drawBeside "material" fun s row n => s.button row n "createMaterial" { icon := "PLUS" })
   [act0 "createMaterial" fun s => do s.set "material" (<- (<- blocks "materials").call "new" ["Material"])]
  ++ holderKinds "Object" "Object" "object"
   (drawBeside "object" fun s row n => do
    unless (<- s "objectCreationType").is "" do s.button row n "createObject" { icon := "PLUS" }
    if <- s.is "showHideToggle" then
     let o <- s "object"
     if o.isSome then
      let icon := if <- holds o "hide_viewport" then "RESTRICT_VIEW_ON" else "RESTRICT_VIEW_OFF"
      s.button row n "toggleObjectVisibilty" { icon, description := "Toggle viewport and render visibility" }
    eyedropper s row n)
   [eyedropperMember "OBJECT_DATA" false truthy, act0 "createObject" createObjectFor,
   act0 "toggleObjectVisibilty" fun s => do
    let o <- s "object"
    if o.isSome then
     o.set "hide_viewport" (!(<- holds o "hide_viewport"))
     o.set "hide_render" (<- o "hide_viewport")]
   [words "objectCreationType", flag "showHideToggle"]
  ++ holderKinds "Text Block" "Text" "textBlock"
   (drawBeside "textBlock" fun s row n => do
    if (<- s "textBlock").isNone then s.button row n "createTextBlock" { icon := "ADD" }
    else s.selector row "AREA" n "viewTextBlockInArea" { icon := "ZOOM_SELECTED" })
   [act0 "createTextBlock" fun s => do s.set "textBlock" (<- (<- blocks "texts").call "new" ["Text Block"]),
   act1 "viewTextBlockInArea area" fun s area => do
    area.set "type" "TEXT_EDITOR"
    (<- (<- area "spaces") "active").set "text" (<- s "textBlock")] ++ [
 bareKind "Action" (isA · "Action") (pure .none) [] [valueMember fun _ => pure .none],
  listKind "Action" (isA · "Action"), bareKind "BMesh" (isA · "BMesh") (kernel "new"),
 { dataType := "Boolean"
   props := [flag "value" true changes, flag "showCreateCompareNodeButton"]
   members := keptIn "value" ++
    [drawMember fun s l text n => do
     let row <- l.row
     row.prop s "value" [("text", text)]
     if (<- s.is "showCreateCompareNodeButton") && !(<- s.isLinked) then
      s.button row n "createCompareNode" { icon := "PLUS", emboss := false, description := "Create compare node" },
    valueMember (· "value"),
    act0 "createCompareNode" fun s => do
     let n <- addNodeAtCursor "an_CompareNode"
     s.tell "linkWith" [<- item (<- n "outputs") 0]
     dragSelected]
   default := pure false
   correct := keepOrConvert (isA · "bool") (truthy ·) (pure false) },
 kernelListKind "Boolean List" "BooleanList",
 bareKind "BVHTree" (isA · "BVHTree") emptyTree objectInSpace <| keptInSpace ++
   [drawMember (drawObjectInSpace eyedropper),
   eyedropperMember "OUTLINER_OB_MESH" true fun o => do equal (<- typeOf o) "MESH",
   valueMember fun s => do
    let obj <- s "object"
    unless (<- typeOf obj).is "MESH" do return <- emptyTree
    let obj <- evaluated obj
    let mesh <- obj "data"
    let ps <- mesh.use "an.getPolygonIndices"
    if <- isEmpty ps then return <- emptyTree
    let vs <- mesh.use "an.getVertices"
    if <- s.is "useWorldSpace" then vs.tell "transform" [<- obj "matrix_world"]
    kernel "BVHTree.FromPolygons" [vs, ps]],
 bareKind "Color" (isA · "Color") (newColor [0, 0, 0, 1]) [fractions "value" [0.5, 0.5, 0.5, 1.0] changes]
  (keptIn "value" ++ [drawMember (drawProp "value"), valueMember fun s => do make "Color" [<- s "value"]]),
 kernelListKind "Color List" "ColorList",
 { dataType := "Edge Indices", default := tuple [0, 1]
   correct := fun v => do
    let pair <- if <- isAnyOf v ["tuple", "list", "set"] then pure ((<- length v) == 2) else pure false
    if pair then
     if <- isA v "tuple" then return (v, 0)
     return (.tuple (<- iter v), 1)
    return (.tuple [0, 1], 2) }, kernelListKind "Edge Indices List" "EdgeIndicesList",
   numbersKind "Euler" [0, 0, 0] ["X", "Y", "Z"] newEuler [0, 0, 0] (correctRotation "Euler"),
   kernelListKind "Euler List" "EulerList",
 bareKind "Falloff" (isA · "Falloff") (kernel "ConstantFalloff" [1.0]) [fraction "value" 1 changes] (keptIn "value" ++
   [drawMember fun s l text _ => l.prop s "value" [("text", text), ("slider", true)],
   valueMember fun s => do kernel "ConstantFalloff" [<- s "value"]]),
 listKind "Falloff" (isA · "Falloff"),
 numberKind "Float" (isAnyOf · ["float", "int"]) .fraction
  [fraction "minValue" (-1e10), fraction "maxValue" 1.7976931348623157e308] (toFloat ·),
 kernelListKind "Float List" "DoubleList",
 { dataType := "Generic"
   members := [method "getCurrentDataType" fun s _ => return (<- s.typesOfLinks).head?.getD "Generic"]
   default := pure .none, correct := fun v => return (v, 0) },
   { dataType := "Generic List", default := list [], correct := fun v => return (v, 0) },
 numberKind "Integer" (isA · "int") .asGiven [whole "minValue" (-2147483648), whole "maxValue" 2147483647] (toInt ·),
 kernelListKind "Integer List" "LongList",
 { dataType := "Interpolation"
   props := [choice "category" "LINEAR" changes, flag "easeIn" false changes, flag "easeOut" true changes]
   members := keptInAll ["category", "easeIn", "easeOut"] ++
    [drawMember fun s l text _ => do
     let col <- l.stack
     unless text.is "" do col.write text
     let row <- col.line
     row.prop s "category" bare
     unless (<- s "category").is "LINEAR" do
      unless (<- s.is "easeIn") || (<- s.is "easeOut") do row.label [("icon", "ERROR"), ("text", "")]
      row.prop s "easeIn" (badge "" "IPO_EASE_IN")
      row.prop s "easeOut" (badge "" "IPO_EASE_OUT"),
    valueMember fun s => do kernel "getInterpolationPreset" [<- s "category", <- s "easeIn", <- s "easeOut"]]
   default := kernel "Linear"
   correct := keepOrConvert (isA · "Interpolation") (kernel "PyInterpolation" [·]) (kernel "Linear") },
 { dataType := "Interpolation List", default := list []
   correct := keepOrConvert (isListOf · (isA · "Interpolation"))
    (mapList · (kernel "PyInterpolation" [·])) (list []) },
   bareKind "KDTree" (isA · "KDTree") do
    let tree <- kernel "KDTree" [0]
    tree.tell "balance"
    pure tree,
   { dataType := "Matrix", default := kernel "Matrix.Identity" [4]
     correct := keepOrConvert (isA · "Matrix") (kernel "Matrix" [·]) (kernel "Matrix.Identity" [4]) },
   kernelListKind "Matrix List" "Matrix4x4List",
 { dataType := "Node Control", props := [fraction "margin" 0.0001]
   members :=
    [action "draw context layout node text" fun s b => do
     let col <- (<- layoutOf (b 1)).column
     let margin : Act := do
      let space <- col.column
      space.label bare
      space.set "scale_y" (<- s "margin")
     margin
     (b 2).tell "drawControlSocket" [col, s]
     margin]
   default := pure .none, correct := fun v => return (v, 0) },
 { dataType := "Polygon Indices", default := tuple [0, 1, 2], correct := fun _ => fail .name },
 kernelListKind "Polygon Indices List" "PolygonIndicesList",
  numbersKind "Quaternion" [1, 0, 0, 0] ["W", "X", "Y", "Z"] newQuaternion [1, 0, 0, 0] (correctRotation "Quaternion"),
  kernelListKind "Quaternion List" "QuaternionList",
 optionalKind "Scene" "Scene" [block "scene" changes, flag "useGlobalScene" true changes]
  (keptInAll ["scene", "useGlobalScene"] ++
   [drawMember fun s l text n => do
    let row <- l.line
    if <- s.is "useGlobalScene" then writeScene s row text id
    else drawProp "scene" s row text n
    row.prop s "useGlobalScene" (badge "" "WORLD"),
   valueMember fun s => do if <- s.is "useGlobalScene" then s.scene else s "scene"]),
 listKind "Scene" (isOrNone "Scene") [flag "useGlobalScene" true changes]
  [drawMember fun s l text _ => do
   let row <- l.line
   if <- s.is "useGlobalScene" then writeScene s row text (s!"[{·}]")
   else
    let own <- if <- truthy text then pure text else s "text"
    row.write own
   row.prop s "useGlobalScene" [("icon", "WORLD"), ("text", "")],
  valueMember fun s => do list [<- s.scene]],
 optionalKind "Sequence" "Sequence" [words "sequenceName" "" changes] (keptIn "sequenceName" ++
   [drawMember fun s l text n => do
    let row <- l.line
    let editor <- s.sequenceEditor
    if <- truthy editor then
     row.put "prop_search" [s, "sequenceName", editor, "sequences"] [("icon", "NLA"), ("text", text)]
     s.button row n "assignActiveSequence" { icon := "EYEDROPPER" }
    else row.write "No Sequence Editor",
   valueMember fun s => do
    let editor <- s.sequenceEditor
    if <- truthy editor then (<- editor "sequences").call "get" [<- s "sequenceName"]
    else pure .none,
   act0 "assignActiveSequence" fun s => do
    let editor <- s.sequenceEditor
    if <- truthy editor then
     let seq <- editor "active_strip"
     if <- truthy seq then s.set "sequenceName" (<- seq "name")]),
 listKind "Sequence" (isOrNone "Sequence"),
 optionalKind "Shape Key" "ShapeKey" [block "object" changes] (keptIn "object" ++
   [drawMember (drawBeside "object" fun s row n => s.button row n "assignActiveObject" { icon := "EYEDROPPER" }),
   valueMember fun s => do
    let o <- s "object"
    unless (<- typeOf o).isOneOf ["MESH", "CURVE", "LATTICE"] do return .none
    let keys <- (<- o "data") "shape_keys"
    if keys.isNone then return .none
    try item (<- keys "key_blocks") 1 catch _ => pure .none,
   act0 "assignActiveObject" fun s => takeActive s truthy]),
 listKind "Shape Key" (isOrNone "ShapeKey"),
 bareKind "Sound" (isOrNone "Sound") emptySound [openChoice "soundSequence" (fun _ => do item ((<- soundStripItems).headD .none) 0) changes]
   [act1 "setProperty data" fun s v => attempt do s.set "soundSequence" v,
   fn0 "getProperty" fun s => s "soundSequence",
   drawMember fun s l _ n => do
    let row <- l.line
    row.prop s "soundSequence" bare
    s.selector row "PATH" n "loadSound" { icon := "PLUS" },
   valueMember fun s => do
    let name <- s "soundSequence"
    if name.isOneOf ["NONE", ""] then return <- emptySound
    for editor in <- sequenceEditors do
     let strip <- editor.use "sequences_all.get" [name]
     if strip.isSome then
      let seq <- (Value.operation "SoundSequence.fromSequence" []).apply [strip]
      if seq.isNone then return <- emptySound
      return <- make "Sound" [<- list [seq]]
    pure .none,
   act1 "loadSound path" fun s path => do
    let editor <- orCreateSequencer (<- s.scene)
    let ch <- emptyChannel editor
    let start <- (<- here "scene") "frame_start"
    let strip <- (<- editor "sequences").call "new_sound" [] [("name", fileName (<- text path)), ("filepath", path),
     ("channel", ch), ("frame_start", start)]
    s.set "soundSequence" (<- strip "name")],
 bareKind "Spline" isSpline emptySpline objectInSpace <| keptInSpace ++
   [drawMember (drawObjectInSpace eyedropper),
   eyedropperMember "OUTLINER_OB_CURVE" true fun o => do occursIn (<- typeOf o) ["CURVE", "FONT"],
   valueMember fun s => do
    let obj <- s "object"
    if obj.isNone then return <- emptySpline
    unless (<- obj "type").isOneOf ["CURVE", "FONT"] do return <- emptySpline
    let obj <- evaluated obj
    let ss <- (<- obj.use "an.getCurve") "splines"
    if (<- length ss) > 0 then
     if let some spline <- splineOf? (<- item ss 0) then
      if <- s.is "useWorldSpace" then spline.tell "transform" [<- obj "matrix_world"]
      return spline
    emptySpline],
 listKind "Spline" isSpline objectInSpace <| keptInSpace ++
  [drawMember (drawObjectInSpace fun s row n => s.button row n "assignActiveObject" { icon := "EYEDROPPER" }),
  act0 "assignActiveObject" fun s => takeActive s fun o => return (<- typeOf o).is "CURVE",
  valueMember fun s => do
   let obj <- s "object"
   if obj.isNone then return <- list []
   let obj <- evaluated obj
   let ss <- splinesOfObject obj
   if <- s.is "useWorldSpace" then for sp in <- iter ss do sp.tell "transform" [<- obj "matrix_world"]
   pure ss],
 { dataType := "Text"
   props := [words "value" "" changes, flag "showFileChooser"]
   members := keptIn "value" ++
    [drawMember fun s l text n => do
     let row <- l.line
     row.prop s "value" [("text", text)]
     if <- s.is "showFileChooser" then s.selector row "PATH" n "setPath" { icon := "EYEDROPPER" },
    valueMember (· "value"),
    act1 "setPath path" fun s path => s.set "value" path]
   default := pure ""
   correct := fun v => do
    if <- isA v "str" then return (v, 0)
    return (<- text v, 1) },
 { dataType := "Text List", default := list []
   correct := fun v => do
    unless <- isA v "list" do return (<- list [], 2)
    if <- isListOf v (isA · "str") then return (v, 0)
    return (<- textList (<- textsOf v), 1) },
   numbersKind "Vector" [0, 0, 0] ["X", "Y", "Z"] vector [0, 0, 0] correctVector,
   kernelListKind "Vector List" "Vector3DList",
   numbersKind "Vector 2D" [0, 0] ["X", "Y"] vector [0, 0] correctVector,
   kernelListKind "Vector 2D List" "Vector2DList"]

def socketKind? : Option SocketKind := socketKinds.find? (·.dataType == dataType)
abbrev Operation := Args -> Eval
abbrev Service := String × Operation
abbrev Operations := List Service

structure Catalogue where
 nodes : Std.HashMap String NodeKind := {}
 records : Std.HashMap String RecordKind := {}
 operations : Std.HashMap String Operation := {}
 spaces : Std.HashMap String Fields := {}

variable (sig : Signature)

def op (body : Bound -> Eval) : Service := (sig.name, fun args => do body (<- bindArgs sig.params args))

def proc (body : Bound -> Act) : Service :=
 op sig fun b => do
  body b
  pure .none

def op1 (body : Value -> Eval) : Service := op sig fun b => body (b 0)
def proc1 (body : Value -> Act) : Service := proc sig fun b => body (b 0)
def op2 (body : Value -> Value -> Eval) : Service := op sig fun b => body (b 0) (b 1)
def proc2 (body : Value -> Value -> Act) : Service := proc sig fun b => body (b 0) (b 1)
def op3 (body : Value -> Value -> Value -> Eval) : Service := op sig fun b => body (b 0) (b 1) (b 2)
def op4 (body : Value -> Value -> Value -> Value -> Eval) : Service := op sig fun b => body (b 0) (b 1) (b 2) (b 3)
def asking (body : Eval) : Service := op sig fun _ => body
def asksIf (body : Ask) : Service := asking sig do body
def doing (body : Act) : Service := proc sig fun _ => body
def within (path : String) : Operations -> Operations := .map (.map (path ++ ·) id)

namespace Catalogue

variable (c : Catalogue)

def recordKind? (name : String) : Option RecordKind :=
 match c.records[name]? with
 | some k => some k
 | none =>
  match name.splitOn "_" with
  | [family, num] => if num.isNat then c.records[family]? else none
  | _ => none

def addNodes (kinds : List NodeKind) : Catalogue := { c with nodes := kinds.foldl (fun m k => m.insert k.id k) c.nodes }

def addRecords (kinds : List RecordKind) : Catalogue :=
 { c with records := kinds.foldl (fun m k => m.insert k.name k) c.records }

def addOperations (ops : Operations) : Catalogue :=
 { c with operations := ops.foldl (fun m (n, f) => m.insert n f) c.operations }

def addSpaces (spaces : List (String × Fields)) : Catalogue :=
 { c with spaces := spaces.foldl (fun m (n, fs) => m.insert n ((m.getD n []) ++ fs)) c.spaces }

end Catalogue

def socketKindNamed? (idName : String) : Option (DataType × SocketKind) := do
 let t <- socketTypes.types.find? (·.idName == idName)
 return (t, (<- socketKind? t.name))

def socketKindFor? (input : String) : Option (DataType × SocketKind) := do
 let t <- socketTypes.find? input
 return (t, (<- socketKind? t.name))

end AnimationGraph
