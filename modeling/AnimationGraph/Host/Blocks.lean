import AnimationGraph.Host.Trees
import AnimationGraph.Run.Methods

/-! # Data blocks and preferences

The host keeps its data in blocks with unique names, one collection for each class of blocks. The files that a session
can read have a path, a content and the time of their last change. Preferences are what the user can choose for all
trees: the colours of nodes, which code is made, and settings for development.
-/

namespace AnimationGraph

def filesHome : String := "DIR"

variable (name path : String) (args : Values) (s : String)

def fileAt? : Run (Option (String × Nat)) :=
 look fun w => if path.startsWith s!"{filesHome}/" then
   (w.files.file? (path.drop (filesHome.length + 1)).toString).map fun f => (f.content, f.changed)
  else none

def pathExists : Ask :=
 look fun w => path == filesHome || (path.startsWith s!"{filesHome}/" &&
  let inner := (path.drop (filesHome.length + 1)).toString
  w.files.isFile inner || w.files.isFolder inner)

def fileName : String := (path.splitOn "/").getLastD ""
def withPlainBreaks : String := (s.replace "\r\n" "\n").replace "\r" "\n"

/-- How the bytes of a file are read as a text. -/
inductive Encoding where
 | ascii | utf8 | latin

def Encoding.named? : Option Encoding :=
 let plain := (name.toLower.replace "-" "_").replace " " "_"
 if ["ascii", "us_ascii", "646", "ansi_x3.4_1968", "iso646_us"].contains plain then some .ascii
 else if ["utf_8", "utf8", "u8", "utf", "utf8_ucs2", "utf8_ucs4", "cp65001"].contains plain then some .utf8
 else if ["latin_1", "latin1", "latin", "l1", "iso_8859_1", "iso8859_1", "iso8859", "8859", "cp819"].contains plain then
  some .latin
 else none

def Encoding.read? (e : Encoding) (content : String) : Option String :=
 match e with
 | .utf8 => some (withPlainBreaks content)
 | .ascii => if content.toList.all (·.toNat < 128) then some (withPlainBreaks content) else none
 | .latin =>
  some (withPlainBreaks (.ofList (content.toUTF8.toList.map (.ofNat ·.toNat))))

def recorder (ops : Texts) : Eval := newStruct [("name", name)] ops

def shader : Eval := do
 record "shader" [name]
 recorder "shader" ["bind", "uniform_float"]

def batch (kind : String) (c : Value) (is : Value := .none) : Eval := do
 record "batch" [kind, c, is]
 recorder "batch" ["draw"]

def drawingState : Act := record name args
def fontState : Act := record s!"blf.{name}" args
def textWidth : Float := 6.0 * s.length.toFloat
def textHeight : Float := 10.0

def blockClasses : Pairs := [
 ("scenes", "Scene"), ("objects", "Object"), ("texts", "Text"), ("curves", "Curve"), ("meshes", "Mesh"),
 ("cameras", "Camera"), ("lights", "Light"), ("grease_pencils", "GreasePencil"), ("collections", "Collection"),
 ("fonts", "VectorFont"), ("materials", "Material"), ("window_managers", "WindowManager")]

variable (c : CellId) (collection : String) (id : CellId)

def sequenceOf : Run Sequence := do
 let .sequence s <- readCell id | fail .type
 pure s

def setElements (items : Array Value) : Act := do
 writeCell id (.sequence { (<- sequenceOf id) with items })

variable (cls name : String) (b : CellId)

def takeDefaults : Run Fields := do
 let some (first :: rest) <- look (·.defaults.lookup cls) | pure []
 unless rest.isEmpty do
  change fun w => { w with defaults := w.defaults.map fun d => if d.1 == cls then (cls, rest) else d }
 decodeFields valueOf first

/-- A block joins a collection under a name that is free there. -/
def joinBlocks (home : CellId) (block : String -> Record) : Eval := do
 let s <- sequenceOf home
 let taken <- look fun w => s.items.toList.filterMap (nameOf w)
 let v <- newCell (.record (block (Forest.freshName (taken.contains ·) name s.items.size)))
 setElements home (s.items.push v)
 pure v

def addBlock (initial fs : Fields) : Run CellId := do
 let .cell c <- joinBlocks name (<- dataCollection collection)
   fun name => { kind := cls, origin := .block, fields := .setAll (("name", name) :: initial) fs }
  | fail .type
 pure c

def newBlock (fs : Fields := []) : Run CellId := do addBlock collection cls name (<- takeDefaults cls) fs

def homeOf? : Run (Option (String × CellId)) := do
 for (name, id) in (<- get).collections do
  let .sequence s <- readCell id | pure ()
  if s.items.any (identical · b) then return some (name, id)
 pure none

def copyBlock : Eval := do
 match <- readCell b, <- homeOf? b with
 | .record r, some (_, home) =>
  joinBlocks (<- text ((r.fields.get? "name").getD "")) home fun name => { r with fields := r.fields.set "name" name }
 | _, _ => fail .attr

def recorded : Feature CellId := (name, .free fun _ args => do record name args.pos args.named; pure .none)

def blockMembers : Members CellId := [
 recorded "user_clear", recorded "update_tag",
 fn0 "copy" copyBlock,
 fn1 "path_resolve path" fun c path => do
  tryCatch (((<- textArg path).splitOn ".").foldlM Value.attr c) fun _ => fail .value,
 fn2 "get key default?" fun c key d => do return ((<- customProperties c).get? (<- textArg key)).getD d,
 fn0 "keys" fun c => do list ((<- customProperties c).map fun (k, _) => k),
 fn0 "items" fun c => do list ((<- customProperties c).map fun (k, v) => .tuple [k, v])]

def blockText : Run String := do
 let .record r <- readCell c | pure ""
 return ((r.fields.get? "_content").bind Value.text?).getD ""

def setBlockText (content : String) : Act := setField c "_content" content

def readsElements (name cls col field : String) (asArray : Bool := false) : Feature CellId := fn0 name fun c => do
 let all <- getPath c s!"mesh.{col}"
 let out <- sized cls (<- length all)
 all.readAll field out (if asArray then "asNumpyArray" else "asMemoryView")
 pure out

def domainSize (field : Value) : Run Nat := do
 let xs := [("POINT", "vertices"), ("EDGE", "edges"), ("FACE", "polygons")].lookup (<- field "domain").word
 length (<- getPath c ("mesh." ++ xs.getD "loops"))

def attributeValues (name : Value) : Eval := do
 let field <- (<- getPath c "mesh.attributes").call "get" [name]
 let k <- domainSize c field
 let type <- field "data_type"
 let cls := [("FLOAT", "DoubleList"), ("INT", "LongList"), ("FLOAT2", "Vector2DList"), ("FLOAT_VECTOR", "Vector3DList"),
  ("FLOAT_COLOR", "ColorList"), ("BYTE_COLOR", "ColorList")].lookup type.word
 let vs <- sized (cls.getD "BooleanList") k
 let part :=
  if type.isOneOf ["FLOAT", "INT", "BOOLEAN"] then "value"
  else if type.isOneOf ["FLOAT2", "FLOAT_VECTOR"] then "vector" else "color"
 (<- field "data").readAll part vs "asNumpyArray"
 pure vs

variable (applyModifiers : Value)

def meshOfObject : Eval := do
 let o <- c "id_data"
 let apply <- truthy applyModifiers
 if <- pure !apply <&&> do return (<- o "type").is "MESH" then o "data"
 else tryCatch (do if apply then (<- evaluated o).call "to_mesh" else o.call "to_mesh") fun _ => pure .none

def curveOfObject : Eval := do
 let o <- c "id_data"
 if o.isNone then return .none
 unless (<- o "type").isOneOf ["CURVE", "FONT"] do return .none
 if !(<- truthy applyModifiers) && (<- o "type").is "CURVE" then return <- o "data"
 o.call "to_curve" [<- activeDepsgraph] [("apply_modifiers", applyModifiers)]

def blockProperties : List (Property CellId) :=
 groupOf "an_data" "IDProperties" :: groupOf "id_keys" "IDKeyProperties" ::
  (if cls == "Mesh" then [groupOf "an" "MeshProperties"]
   else if cls == "Object" then [groupOf "an" "ObjectProperties"]
   else [])

def blockKinds : List RecordKind := [
 { name := "Text"
   members :=
    [fn0 "as_string" (blockText ·),
    act1 "from_string string" fun c v => do setBlockText c (<- textArg v),
    act0 "clear" fun c => setBlockText c "",
    act1 "write text" fun c v => do setBlockText c ((<- blockText c) ++ (<- textArg v))] },
 { name := "IDProperties", props := [flag "removeOnZeroUsers"] },
 { name := "ObjectProperties"
   members :=
    [("getMesh", meshOfObject), ("getCurve", curveOfObject)].map fun (name, f) =>
     fn1 ⟨name, [opt "applyModifiers" false]⟩ f },
 { name := "MeshProperties"
   members :=
    [prop "mesh" fun c => c "id_data",
    readsElements "getVertices" "Vector3DList" "vertices" "co",
    readsElements "getEdgeIndices" "EdgeIndicesList" "edges" "vertices",
    fn0 "getPolygonIndices" fun c => do
     let mesh <- c "id_data"
     let ps <- kernel "PolygonIndicesList" []
      [("indicesAmount", <- count mesh "loops"), ("polygonAmount", <- count mesh "polygons")]
     for (field, part) in [("vertices", "indices"), ("loop_total", "polyLengths"), ("loop_start", "polyStarts")] do
      (<- mesh "polygons").readAll field (<- ps.attr part)
     pure ps,
    readsElements "getVertexNormals" "Vector3DList" "vertices" "normal",
    readsElements "getPolygonNormals" "Vector3DList" "polygons" "normal",
    readsElements "getPolygonCenters" "Vector3DList" "polygons" "center",
    readsElements "getPolygonAreas" "FloatList" "polygons" "area",
    readsElements "getPolygonMaterialIndices" "UIntegerList" "polygons" "material_index",
    readsElements "getLoopEdges" "UIntegerList" "loops" "edge_index",
    fn1 "getUVMap name" fun c name => do
     let ly <- item (<- getPath c "mesh.uv_layers") name
     let map <- sized "Vector2DList" (<- length (<- getPath c "mesh.loops"))
     (<- ly "data").readAll "uv" map
     pure map,
    fn1 "getVertexColorLayer name" fun c name => do
     let ly <- item (<- getPath c "mesh.vertex_colors") name
     let colors <- sized "ColorList" (<- count ly "data")
     (<- ly "data").readAll "color" colors "asNumpyArray"
     pure colors,
    readsElements "getEdgeCreases" "DoubleList" "edges" "crease" true,
    readsElements "getBevelEdgeWeights" "DoubleList" "edges" "bevel_weight" true,
    readsElements "getBevelVertexWeights" "DoubleList" "vertices" "bevel_weight" true,
    fn1 "getCustomAttribute name" attributeValues] }]

def collectionMembers : Members CellId :=
 [("new", .free fun _ args => do
  let (name, rest) <- match args.pos with
   | name :: rest => pure (name, rest)
   | [] => pure (<- need .type (args.named.get? "name"), [])
  let fields := match collection, rest with
   | "objects", data :: _ => [("data", data)]
   | _, _ => []
  newBlock collection ((blockClasses.lookup collection).getD "ID") (<- textArg name) (fields ++ args.named.erase "name")),
 ("remove", .free fun id args => do
  match args.pos with
  | v :: _ =>
   let xs := (<- sequenceOf id).items
   unless xs.any (identical · v) do fail .value
   setElements id (xs.filter (!identical · v))
  | [] => fail .type
  pure .none)]

variable (viewLayer : Value) (name : String)

def sharedFlag (stored : String) : Property CellId :=
 { name
   compute := some fun _ => return (<- look (·.registers.get? stored)).getD false
   assign := some fun _ v => do
    setRegister stored v
    redrawAreas "VIEW_3D" }

def drawPreferences (p : CellId) (l : LayoutId) : Act := do
 let colors <- p "nodeColors"
 let row <- l.row
 let col <- row.stack
 col.write "Node Colors:"
 (<- col.row).prop colors "mainNetwork"
 (<- col.row).prop colors "invalidNetwork"
 let subrow <- col.line
 subrow.prop colors "subprogramValue" [("slider", true)]
 subrow.prop colors "subprogramSaturation" [("slider", true)]
 let developer <- p "developer"
 let col <- row.stack
 col.prop developer "debug"
 col.prop developer "runTests"
 let col <- l.stack
 let split <- col.call "split" [] [("factor", 0.25)]
 split.prop p "showUninstallInfo" [("text", "How to Uninstall?"), ("toggle", true), ("icon", "INFO")]
 if <- holds p "showUninstallInfo" then
  col.write "1. Disable Animation Nodes and save the user settings."
  col.write "2. Restart Blender and remove the addon (without enabling it first)."

def preferenceKinds : List RecordKind := [
 { name := "NodeColorProperties"
   props :=
    [fractions "mainNetwork" [0.5, 0.5, 0.5] fun _ => colorForest,
    fractions "invalidNetwork" [0.8, 0.28, 0.25] fun _ => colorForest,
    fraction "subprogramValue" 0.5 fun _ => colorForest,
    fraction "subprogramSaturation" 0.2 fun _ => colorForest,
    choice "nodeColorMode" "NETWORKS" fun _ => colorForest] },
 { name := "ProfilingProperties"
   props := [choice "function" "EXECUTION", choice "output" "CONSOLE", choice "sort" "cumtime"] },
 { name := "DeveloperProperties"
   props := [groupOf "profiling" "ProfilingProperties", flag "debug", flag "runTests"] },
 { name := "ExecutionCodeProperties"
   props :=
    [choice "type" "DEFAULT" fun _ => codeChanged,
    { name := "measureExecution"
      compute := some fun c => return (<- c "type").is "MEASURE"
      assign := some fun c v => do
       if <- truthy v then c.set "type" "MEASURE"
       else if (<- c "type").is "MEASURE" then c.set "type" "DEFAULT" }] },
 { name := "DrawMeshIndicesProperties"
   props :=
    [sharedFlag "drawVertices" "drawVertices", sharedFlag "drawEdges" "drawEdges",
    sharedFlag "drawPolygons" "drawPolygons", whole "fontSize" 14, fractions "verticesColor" [1, 1, 1],
    fractions "edgesColor" [1, 1, 1], fractions "polygonsColor" [1, 1, 1]] },
 { name := "DrawHandlerProperties", props := [groupOf "meshIndices" "DrawMeshIndicesProperties"] },
 { name := "AnimationNodesPreferences"
   props :=
    [groupOf "nodeColors" "NodeColorProperties", groupOf "developer" "DeveloperProperties",
    groupOf "executionCode" "ExecutionCodeProperties", groupOf "drawHandlers" "DrawHandlerProperties",
    flag "showUninstallInfo"]
   members := [act1 "draw context" fun p _ => do drawPreferences p (<- layoutOf (<- p "layout"))] }]

variable (kind : String)

def newPart (fields : Fields) : Eval := newCell (.record { kind, origin := .host, fields })

def activeNode (context : CellId) : Eval := do
 match <- context "space_data" with
 | .none => pure .none
 | space =>
  let .tree t <- space.attrD "node_tree" .none | pure .none
  (Value.nodesOf t) "active"

def managerAnswer (answer : Eval) : Feature CellId :=
 (name, .free fun _ args => do
  record name args.pos args.named
  answer)

def popUpMenu (args : Args) : Eval := do
 match args.pos with
 | draw :: rest =>
  let l <- newLayout
  let _ <- draw.apply [<- newStruct [("layout", l)], <- context]
  if !rest.isEmpty then fail .type
  let named <- look fun w => args.named.map fun (k, v) => (k, w.json v)
  change fun w => { w with log := w.log.push (.popup l named) }
  pure .none
 | [] => fail .type

def hostKinds : List RecordKind := [
 { name := "Area", members := [idle "tag_redraw"] },
 { name := "Context"
   members :=
    [prop "getActiveAnimationNodeTree" fun c => do
     unless <- hostIsExtended do fail .attr
     return .operation "getActiveAnimationNodeTree" [c],
    prop "active_node" activeNode] },
 { name := "WindowManager"
   members :=
    [managerAnswer "modal_handler_add" (pure true),
    managerAnswer "invoke_props_dialog" (newSet ["RUNNING_MODAL"]),
    managerAnswer "invoke_confirm" (newSet ["RUNNING_MODAL"]),
    managerAnswer "invoke_search_popup" (pure .none),
    managerAnswer "fileselect_add" (pure .none),
    managerAnswer "event_timer_add" (pure "timer"),
    managerAnswer "event_timer_remove" (pure .none),
    ("popup_menu", .free fun _ args => popUpMenu args)] }]

def startHost : Act := do
 let mut collections : List (String × CellId) := []
 for name in "node_groups" :: blockClasses.map (·.1) do
  let .cell id <- newCell (.sequence { kind := .data name }) | pure ()
  collections := collections ++ [(name, id)]
 change ({ · with collections })
 let sc <- newBlock "scenes" "Scene" "Scene"
  [("frame_current", 1), ("frame_current_final", 1.0), ("sequence_editor", .none)]
 let manager <- newBlock "window_managers" "WindowManager" "WinMan"
 manager.set "windows" (<- list [])
 manager.set "keyconfigs" (.layout (<- newLayout))
 let prefs <- newPart "AnimationNodesPreferences" []
 let system <- newPart "PreferencesSystem" [("dpi", 72), ("pixel_size", 1)]
 let addon <- newPart "Addon" [("preferences", prefs)]
 let all <- newPart "Preferences" [("system", system), ("addons", <- newDict [("animation_nodes", addon)])]
 let area <- newPart "Area" [("type", "NODE_EDITOR")]
 let space <- newPart "SpaceNodeEditor"
  [("type", "NODE_EDITOR"), ("tree_type", treeKind), ("node_tree", .none), ("edit_tree", .none)]
 let context <- newPart "Context"
  [("scene", sc), ("window_manager", manager), ("preferences", all), ("area", area), ("space_data", space),
  ("active_object", .none)]
 match context, prefs with
 | .cell c, .cell p => change ({ · with context := c, preferences := p })
 | _, _ => pure ()

def editTree (t : TreeId) : Act := do
 let space <- here "space_data"
 space.set "node_tree" t
 space.set "edit_tree" t

def finished : Eval := newSet ["FINISHED"]
def cancelled : Eval := newSet ["CANCELLED"]
def runningModal : Eval := newSet ["RUNNING_MODAL"]
def passedThrough : Eval := newSet ["PASS_THROUGH"]

def divideArea (overwrite : Value) : Act := do
 let area <- item overwrite "area"
 let screen <- item overwrite "screen"
 let some r <- record? area | pure ()
 (<- screen "areas").tell "append" [<- newCell (.record r)]

def hostOperator (pos : Values := []) (named : Fields := []) : Act := do
 let recorded (pos : Values) : Act := record s!"ops.{name}" pos named
 match name with
 | "node.add_node" => do
  let .tree t <- here "space_data.node_tree" | pure ()
  let _ <- newNode t (<- text ((named.get? "type").getD .none))
 | "screen.area_split" =>
  recorded []
  divideArea (pos.headD .none)
 | "object.convert" =>
  recorded pos
  if <- truthy ((named.get? "keep_original").getD .none) then
   let new <- newBlock "objects" "Object" "Converted" (<- takeDefaults "Converted")
   (<- here "view_layer.objects").set "active" new
 | _ => recorded pos

def changeHostKind (change : String) (args : Values) : Eval := do
 record s!"{kind}.{change}" args
 pure "handler"

def addNodeAtCursor : Eval := do
 hostOperator "node.add_node" [] [("type", kind)]
 item (<- (<- here "space_data.node_tree") "nodes") (-1)

def dragSelected : Act := hostOperator "node.translate_attach" ["INVOKE_DEFAULT"]

def leaveEditMode : Act := do
 let o <- here "active_object"
 if <- notEqual (<- o.attrD "mode" "OBJECT") "OBJECT" then hostOperator "object.mode_set" [] [("mode", "OBJECT")]

def popUpText (c : Value) (title : Value := "") (icon : Value := "NONE") : Act := do
 (<- here "window_manager").tell "popup_menu" [.operation "popupText" [c]] [("title", title), ("icon", icon)]

def selectedObjects : Eval := do
 list (<- (<- each viewLayer "objects").filterM fun o => do
  truthy (<- o.call "select_get" [] [("view_layer", viewLayer)]))

def selectedObjectNames : Eval := do mapList (<- selectedObjects viewLayer) (· "name")
def activeObjectOf : Eval := do (<- viewLayer "objects") "active"

def sortedSelectionNames : Eval := do
 match <- register "sortedSelection" with
 | .none =>
  let ns <- list []
  setRegister "sortedSelection" ns
  pure ns
 | ns => pure ns

def sortedSelection : Eval := do
 let os <- (Value.space "bpy.data") "objects"
 mapList (<- sortedSelectionNames) (os.call "get" [·])

/-- Names that are still selected keep their order, and others follow. -/
def reordered (pre now : Texts) : Texts :=
 now.foldl (fun ns n => if ns.contains n then ns else ns ++ [n]) (pre.filter (now.contains ·))

def updateSelectionOrder : Act := do
 let now <- textsOf (<- selectedObjectNames viewLayer)
 let pre <- textsOf (<- sortedSelectionNames)
 setRegister "sortedSelection" (<- textList (reordered pre now))

def collectionsByObjectType : Pairs := [
 ("MESH", "meshes"), ("CAMERA", "cameras"), ("FONT", "curves"), ("CURVE", "curves"), ("SURFACE", "curves"),
 ("META", "metaballs"), ("ARMATURE", "armatures"), ("LATTICE", "lattices"), ("LIGHT", "lights"),
 ("SPEAKER", "speakers")]

def removeUnusedBlock (data : Value) (type : String) : Act := do
 (<- (Value.space "bpy.data").attr (<- need .key (collectionsByObjectType.lookup type))).tell "remove" [data]

def framesPerSecond (sc : Value) : Eval := do
 let render <- sc "render"
 div (<- render "fps") (<- render "fps_base")

def dataPath : Run String := return s!"[\"{name}\"]"

def possibleName (col : Value) (base : String) : Run String := do
 let start := base ++ (<- randomLetters 3)
 for i in List.range 1000 do
  let name := start ++ toString (i + 1)
  unless <- ask col "get" [name] do return name
 fail .exhausted

end AnimationGraph
