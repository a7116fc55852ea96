import AnimationGraph.Nodes.MeshData

/-! # Nodes for shapes and layers of meshes

Meshes that are made from nothing; vertex groups, colour layers, UV maps and attributes.
-/

namespace AnimationGraph

def unityTriangle : Value :=
 let point (x y : Value) : Value := .tuple [x, y, 0]
 let made (name : String) (xs : Values) : Value := .kernel name [.tuple xs] []
 let vs := made "Vector3DList.fromValues" [point (-0.7598356856515925) (-0.4386913376508308),
  point 0.7598356856515925 (-0.4386913376508308), point 0 0.8773826753016617]
 let es := made "EdgeIndicesList.fromValues" [.tuple [0, 1], .tuple [1, 2], .tuple [2, 0]]
 .kernel "Mesh" [vs, es, made "PolygonIndicesList.fromValues" [.tuple [0, 1, 2]]] [("skipValidation", true)]

def withEdges (mesh : Value) : Eval := return .tuple [mesh, <- mesh "vertices", <- mesh "edges"]
def circleFlags : Texts := ["RadialLoops", "InnerLoops", "OuterRadius", "InnerRadius", "StartAngle", "EndAngle"]

def makesGrid (mode sizes : String) : Feature :=
 fn4 s!"execute_{mode} xDivisions yDivisions {sizes}" fun _ xs ys x y => do
  let xs <- maxOf xs 2
  kernel s!"getGridMesh_{mode}" [x, y, xs, <- maxOf ys 2]

def meshShapeNodes : List NodeKind := [
.found ([("Regular Pentagon", "5"), ("Regular Hexagon", "6"), ("Regular Heptagon", "7"),
 ("Regular Octagon", "8")].map fun (name, n) => (name, [("inputs[\"Radial Loops\"].value", n)])) <|
 .of "Circle Mesh" ([flag "mergeStartEnd" true checked, flag "mergeCenter" true checked] ++
   listFlags circleFlags) (fun n => do
 n.takesSome "Integer" (named "Radial Loops" (dial 10 3)) "Radial Loops" [] true "10"
 n.takesSome "Integer" (named "Inner Loops" (dial 0)) "Inner Loops" [] true "0"
 n.takesSome "Float" (named "Outer Radius" (dial 1)) "Outer Radii" [] true "1"
 n.takesMany "Float" ["useInnerRadiusList"]
   (named ("Inner Radius", "innerRadii") (dial 0.5)) "Inner Radii" [] true "0.5"
 n.takesSome "Float" (named "Start Angle" [val 0]) "Start Angles" [] true "0"
 n.takesSome "Float" (named "End Angle" [val 5]) "End Angles" [] true "5"
 n.givesMany "Mesh" (circleFlags.map (s!"use{·}List")) ("Mesh", "Mesh") ("Meshes", "Meshes")
 n.tell "updateSocketVisibility") [
 checks,
 drawsColumn fun n col => do
  let subcol <- col.stack
  subcol.prop n "mergeStartEnd" (badge "Merge Start End" "PROP_CON")
  subcol.prop n "mergeCenter" (badge "Merge Center" "AUTOMERGE_ON"),
 act0 "updateSocketVisibility" fun n => do
  for (i, flag) in [(3, "mergeCenter"), (4, "mergeStartEnd"), (5, "mergeStartEnd")] do
   (<- n.input i).set "hide" (<- n.attr flag),
 runsBy (.ifAny (circleFlags.map (s!"use{·}List")) "execute_List" "execute_Single"),
 method "execute_List radialLoops innerLoops outerRadii innerRadii startAngles endAngles"
   fun n b => do
  let pair (type : String) (i : Nat) (one two : Value) := do
   exactly 2 (<- kernel s!"Virtual{type}List.createMultiple" [.tuple [b i, one], .tuple [b (i + 1), two]])
  let ls := (<- pair "Long" 0 10 0) ++ (<- pair "Double" 2 1 0.5) ++ (<- pair "Double" 4 0 5)
  kernel "getCircleMeshList" ((<- longest "Long" ls) :: ls ++ [<- n "mergeStartEnd", <- n "mergeCenter"]),
 method "execute_Single radialLoops innerLoops outerRadius innerRadius startAngle endAngle"
   fun n b => do
  kernel "getCircleMesh" (b.toList ++ [<- n "mergeStartEnd", <- n "mergeCenter"])],
.of "Cylinder Mesh" [] (do
 float "Radius" (dial 1)
 float "Height" (dial 2)
 int "Resolution" (dial 8 2)
 bool "Caps" [val true]
 gives "Mesh") [
 fn4 "execute radius height resolution caps" fun _ radius height res caps => do
  let res <- maxOf res 2
  kernel "getCylinderMesh" [<- maxOf radius 0, <- maxOf height 0, res, caps]],
.of "Grid Mesh" [menu "mode" "SIZE"] (do
 takesEach "Integer" ["X Divisions", "Y Divisions"] (dial 10 2)
 match <- word "mode" with
 | "STEP" => takesEach "Float" ["X Distance", "Y Distance"] [val 1]
 | "SIZE" => takesEach "Float" ["Length", "Width"] [val 10]
 | _ => pure ()
 gives "Mesh") [
 shows "mode",
 runsBy (.byItem "mode" [("STEP", "execute_Step"), ("SIZE", "execute_Size")]),
 makesGrid "Step" "xDistance yDistance", makesGrid "Size" "length width"],
.risky "Line Mesh" [menu "lineMode" "START_END"] (do
 match <- word "lineMode" with
 | "START_END" =>
  takes "Vector" "Start"
  takes "Vector" "End" [val (<- list [5, 0, 0])]
  int "Steps" (dial 2 2)
 | "POINTS" =>
  takes "Vector List" "Points"
  bool "Cyclic" [val false]
 | _ => pure ()
 gives "Mesh"
 gives "Vector List" ("Vertex Locations", "vertices") [hide]
 gives "Edge Indices" ("Edge Indices", "edges") [hide]) [
 shows "lineMode" bare,
 runsBy (.byItem "lineMode" [("START_END", "execute_StartEndLine"), ("POINTS", "execute_PointsLine")]),
 fn3 "execute_StartEndLine start end steps" fun _ start stop steps => do
  withEdges (<- kernel "getLineMesh" [start, stop, <- maxOf steps 2]),
 fn2 "execute_PointsLine points cyclic" fun n ps cyclic => do
  let amount <- length ps
  if amount < 2 then n.halt "Points list should have at least two points."
  if amount < 3 && (<- truthy cyclic) then n.halt "For cyclic, Points list should have at least three points."
  withEdges (<- kernel "getLinesMesh" [ps, cyclic])],
.of "Unity Triangle Mesh" [] (gives "Mesh" ("Mesh", "meshData")) [
 fn0 "execute" fun _ => unityTriangle.call "copy"]]

structure GrowthPreset where
 start : String
 rules : Texts
 angle : Nat

def growthPresets : List (String × GrowthPreset) := [
 ("Koch Snowflake", ⟨"F--F--F", ["F = F+F--F+F"], 60⟩),
 ("Hilbert Curve", ⟨"A", ["A = -BF+AFA+FB-", "B = +AF-BFB-FA+"], 90⟩),
 ("Tree", ⟨"FFFA", ["A = \"! [&FFFA] //// [&FFFA] //// [&FFFA]"], 30⟩),
 ("Cracy Cubes", ⟨"A", ["A = F[+FA][-^FA]"], 90⟩), ("Twin Dragon", ⟨"FX+FX+", ["X = X+YF", "Y = FX-Y"], 90⟩),
 ("Dragon Curve", ⟨"F1", ["F1 = F1+F2+", "F2 = -F1-F2"], 90⟩)]

def growthPresetItems : Values := growthPresets.map fun (name, _) => .tuple [name, name, ""]

def attributeList (type : String) (data k : Value) : Eval := do
 let filled (cls : String) (fallback : Value) : Eval := do
  (<- kernel s!"{cls}.create" [data, fallback]).call "materialize" [k]
 match type with
 | "INT" => filled "VirtualLongList" 0
 | "FLOAT" => do kernel "FloatList.fromValues" [<- filled "VirtualDoubleList" 0]
 | "FLOAT2" => do filled "VirtualVector2DList" (<- kernel "Vector" [.tuple [0, 0]])
 | "FLOAT_VECTOR" => do filled "VirtualVector3DList" (<- kernel "Vector" [zero3])
 | "FLOAT_COLOR" | "BYTE_COLOR" => do filled "VirtualColorList" (<- newColor [0, 0, 0, 0])
 | _ => filled "VirtualBooleanList" false

def elementCount (domain : String) (mesh : Value) (corners : String) : Eval := do
 match domain with
 | "POINT" => do count mesh "vertices"
 | "EDGE" => do count mesh "edges"
 | "FACE" => do count mesh "polygons"
 | _ => do length (<- mesh.at corners)

variable (n : NodeId)

def NodeId.layerOf (mesh name : Value) (owner x kind : String) : Eval := do
 n.requireName name x.capitalize
 let ly <- mesh.call s!"get{kind}" [name]
 if ly.isNone then
  n.halt (owner ++ " does not have " ++ x ++ " with name '" ++ (<- text name) ++
   "'.\nAvailable: " ++ (<- text (<- mesh.call s!"getAll{kind}Names")))
 pure ly

/-- The type of the elements of an attribute, and what one and many of them are called. -/
def attributeElement : String -> String × String × String
 | "INT" => ("Integer", "Value", "Values")
 | "FLOAT" => ("Float", "Value", "Values")
 | "FLOAT2" => ("Vector 2D", "Vector 2D", "Vectors 2D")
 | "FLOAT_VECTOR" => ("Vector", "Vector", "Vectors")
 | "FLOAT_COLOR" | "BYTE_COLOR" => ("Color", "Color", "Colors")
 | _ => ("Boolean", "Value", "Values")

def NodeId.takesAttribute : Act := do
 n.str ("Name", "customAttributeName") [val "AN-Att"]
 let (type, one, many) := attributeElement (<- n.word "dataType")
 n.takesMany type ["useDataList"] (one, "data") (many, "data")

def showsAttribute : Feature :=
 draws fun n l => do
  l.prop n "domain" bare
  l.prop n "dataType" bare

/-- Insert a layer into a mesh, with a name that has been checked. -/
def NodeId.inserts (mesh name : Value) (kind : String) (layer : Eval) : Eval := do
 n.tell "checkAttributeName" [mesh, name]
 mesh.tell s!"insert{kind}" [<- layer]
 pure mesh

def colorLayer (name hues : Value) : Eval := meshAttribute name "VERTEX_COLOR" "CORNER" "BYTE_COLOR" hues
def cornerCount (mesh : Value) : Run Nat := do length (<- mesh.at "polygons.indices")

/-- The name of a new layer must be given and must not be taken. -/
def checksName (title x layers : String) : Feature :=
 act2 "checkAttributeName mesh attributeName" fun n mesh name => do
  n.requireName name title
  if <- has (<- mesh.call s!"getAll{layers}AttributeNames") name then
   n.halt (s!"Mesh has already a {x} with the name '{(<- text name)}'.")

def NodeId.takesGroup : Act := do
 n.takesObject
 match <- n.word "groupIdentifierType" with
 | "INDEX" => n.int "Group Index"
 | "NAME" => n.str ("Name", "groupName")
 | _ => pure ()

def NodeId.weighs (o id : Value) (change : Value -> Act) : Eval := do
 if o.isNone then return .none
 change (<- n.call "getVertexGroup" [o, id])
 o.bid "data.update"
 pure o

def meshLayerNodes : List NodeKind := [
.risky "Get Custom Attribute" [menu "dataType" "FLOAT"] (do
 takes "Mesh"
 str ("Name", "attributeName") [val ""]
 let (type, _, many) := attributeElement (<- word "dataType")
 gives (type ++ " List") (many, "data")
 givesEach "Text" ["Type", "Domain ", "Data Type "] [hide]) [
 shows "dataType" bare,
 fn2 "execute mesh attributeName" fun n mesh name => do
  if mesh.isNone then return .tuple [.none, .none, .none, .none]
  let ly <- n.layerOf mesh name "Object" "attribute" "CustomAttribute"
  if <- notEqual (<- n "dataType") (<- ly.call "getListTypeAsString") then
   n.halt ("Wrong output data type. Attribute is of type '" ++
     (<- text (<- ly.call "getListTypeAsString")) ++ "'.")
  let data <- ly "data"
  let data <- if (<- n "dataType").is "FLOAT" then kernel "DoubleList.fromValues" [data] else pure data
  tuple [data, <- ly.call "getTypeAsString", <- ly.call "getDomainAsString", <- n "dataType"]],
.risky "Get Linked Vertices" [] (do
 takes "Mesh"
 int ("Vextex Index", "vertexIndex")
 givesEach "Integer List" [("Vertices", "vertexIndices"), ("Edges", "edgeIndices")]
 gives "Integer" "Amount") [
 fn2 "execute mesh vertexIndex" fun n mesh k => do
  if mesh.isNone then return .tuple [<- kernel "LongList", <- kernel "LongList", 0]
  if <- (less k 0) <||> (do greaterEqual k (<- count mesh "vertices")) then
   n.halt "Vertex Index is out of range."
  mesh.call "getVertexLinkedVertices" [k]],
.risky "Get UV Map" [] (do
 takes "Mesh"
 str ("Name", "uvMapName")
 gives "Vector 2D List" "Positions") [
 fn2 "execute mesh uvMapName" fun n mesh name => do
  n.requireName name "UV map"
  let uvMap <- mesh.call "getUVMapAttribute" [name]
  if uvMap.isNone then n.halt (s!"Mesh doesn't have a uv map with the name '{(<- text name)}'.")
  uvMap "data"],
.risky "Get Vertex Color Layer" [choice "colorMode" "LOOP" reruns] (do
 takes "Mesh"
 str ("Name", "colorLayerName")
 gives "Color List" "Colors") [
 shows "colorMode" bare,
 fn2 "execute mesh colorLayerName" fun n mesh name => do
  n.requireName name "Vertex color layer"
  let color <- rgba [0, 0, 0, 1]
  let vertexColor <- mesh.call "getVertexColorAttribute" [name]
  if vertexColor.isNone then
   n.halt (s!"Mesh doesn't have a vertex color layer with the name '{(<- text name)}'.")
  let colors <- vertexColor "data"
  match <- n.word "colorMode" with
  | "LOOP" => pure colors
  | "VERTEX" =>
   let ix <- mesh "polygons"
   kernel "getVertexColorsFromLoopColors" [<- count mesh "vertices", ix, <- endless "Color" colors color]
  | "POLYGON" => kernel "getPolygonColorsFromLoopColors" [<- mesh "polygons", <- endless "Color" colors color]
  | _ => pure .none],
.risky "Get Vertex Group" [] (do
 takes "Mesh"
 str ("Name", "vertexWeightName")
 gives "Float List" "Weights") [
 fn2 "execute mesh vertexWeightName" fun n mesh name => do
  if mesh.isNone then return .none
  let ly <- n.layerOf mesh name "Mesh" "vertex group" "VertexWeightAttribute"
  kernel "DoubleList.fromValues" [<- ly "data"]],
.risky "Insert Custom Attribute" [menu "domain" "POINT", menu "dataType" "FLOAT",
 flag "useDataList"] (fun n => do
 n.takes "Mesh" "Mesh" [modified]
 n.takesAttribute
 n.gives "Mesh") [
 showsAttribute,
 fn3 "execute mesh customAttributeName data" fun n mesh name data =>
  n.inserts mesh name "CustomAttribute" do
  let k <- elementCount (<- n.word "domain") mesh "polygons.indices"
  let vs <- attributeList (<- n.word "dataType") data k
  let type <- (Value.kind "AttributeType") "CUSTOM"
  let domain <- item (.kind "AttributeDomain") (<- n "domain")
  kernel "Attribute" [name, type, domain, <- item (.kind "AttributeDataType") (<- n "dataType"), vs],
 act2 "checkAttributeName mesh attributeName" fun n _ attributeName => do
  n.requireName attributeName "Custom attribute"],
.risky "Insert UV Map" [flag "useVector2DList"] (do
 takes "Mesh" "Mesh" [modified]
 str ("Name", "uvMapName") [val "AN-UV Map"]
 takesMany "Vector 2D" ["useVector2DList"] "Position"
 gives "Mesh") [
 fn3 "execute mesh uvMapName positions" fun n mesh name positions =>
  n.inserts mesh name "UVMapAttribute" do
  let positions <- filled "Vector2D" positions (<- kernel "Vector" [.tuple [0, 0]]) (<- cornerCount mesh)
  meshAttribute name "UV_MAP" "CORNER" "FLOAT2" positions,
 checksName "UV map" "uv map" "UVMap"],
.risky "Insert Vertex Color Layer" [choice "colorMode" "LOOP" reruns, flag "useColorList"] (do
 takes "Mesh" "Mesh" [modified]
 str ("Name", "colorLayerName") [val "AN-Col"]
 takesSome "Color"
 gives "Mesh") [
 draws fun n l => do if <- n.is "useColorList" then l.prop n "colorMode" bare,
 runsBy (.ifSet "useColorList" "execute_ColorsList" "execute_SingleColor"),
 fn3 "execute_SingleColor mesh colorLayerName color" fun n mesh name c =>
  n.inserts mesh name "VertexColorAttribute" do
  colorLayer name (<- filled "Color" c (<- rgba [0, 0, 0, 1]) (<- cornerCount mesh)),
 fn3 "execute_ColorsList mesh colorLayerName colors" fun n mesh name colors =>
  n.inserts mesh name "VertexColorAttribute" do
  let hues <- endless "Color" colors (<- rgba [0, 0, 0, 1])
  colorLayer name <| <- match <- n.word "colorMode" with
   | "LOOP" => do hues.call "materialize" [<- cornerCount mesh]
   | "VERTEX" => do kernel "getLoopColorsFromVertexColors" [<- mesh "polygons", hues]
   | "POLYGON" => do kernel "getLoopColorsFromPolygonColors" [<- mesh "polygons", hues]
   | _ => pure hues,
 checksName "Vertex color layer" "vertex color layer" "VertexColor"],
.risky "Insert Vertex Group" [flag "useFloatList"] (do
 takes "Mesh" "Mesh" [modified]
 str ("Name", "vertexWeightName") [val "AN-Group"]
 takesMany "Float" ["useFloatList"] "Weight"
 gives "Mesh") [
 fn3 "execute mesh vertexWeightName weights" fun n mesh name ws =>
  n.inserts mesh name "VertexWeightAttribute" do
  let ws <- kernel "FloatList.fromValues" [<- filled "Double" ws 0 (<- count mesh "vertices")]
  meshAttribute name "VERTEX_WEIGHT" "POINT" "FLOAT" ws,
 checksName "Vertex group" "vertex group" "VertexWeight"],
.risky "LSystem" [flag "useSymbolLimit" true, whole "symbolLimit" 100000,
 openChoice "preset" fun _ => firstItem (Value.tuple growthPresetItems)] (do
 str "Axiom"
 takes "Text List" "Rules"
 float "Generations" [atLeast 0]
 float "Step Size" [val 1]
 float "Angle" [val 90]
 int "Seed"
 float "Scale Width" [val 0.8, hide]
 float "Scale Step Size" [val 0.9, hide]
 float "Gravity" [val 0, hide]
 float "Random Angle" [val 180, hide]
 bool "Only Partial Moves" [val true, hide]
 gives "Mesh"
 gives "Float List" "Edge Widths"
 gives "Text" "Symbols"
 givesEach "Matrix List" [("J", "statesJ"), ("K", "statesK"), ("M", "statesM")] [hide]) [
 fn1 "getPresetItems context" fun _ _ => list growthPresetItems,
 drawsMore fun n l => do
  let row <- l.line
  let subrow <- row.line
  subrow.set "active" (<- n "useSymbolLimit")
  subrow.prop n "symbolLimit"
  row.prop n "useSymbolLimit" (badge "" (if <- n.is "useSymbolLimit" then "LAYER_ACTIVE" else "LAYER_USED"))
  let col <- (<- l.box).stack
  col.prop n "preset"
  let some preset := growthPresets.lookup (<- n.word "preset") | fail .key
  col.write s!"Axiom: {preset.start}"
  for (rule, i) in preset.rules.zipIdx do col.write s!"Rule {i}: {rule}"
  col.write s!"Angle: {preset.angle}",
 method "execute axiom rules generations stepSize angle seed scaleWidth scaleStepSize gravity randomAngle onlyPartialMoves" fun n b => do
   let defaults <- newDict [("Step Size", b 3), ("Angle", b 4), ("Random Angle", b 9), ("Scale Step Size", b 7),
    ("Gravity", b 8), ("Scale Width", b 6)]
   let rules <- (<- iter (b 1)).mapM (·.call "strip")
   let rules <- rules.filterM fun rule => return (<- length rule) > 0
   let limit <- if <- n.is "useSymbolLimit" then n "symbolLimit" else pure .none
   let grown <- n.reporting do
    let r <- kernel "calculateLSystem" [b 0, <- list rules, b 2, b 5, defaults, b 10, limit]
    tuple (<- exactly 7 r)
   let .tuple (vertices :: edges :: widths :: finalSymbols :: states) := grown | fail .value
   let mesh <- kernel "Mesh" [vertices, edges] [("skipValidation", true)]
   let widths <- kernel "DoubleList.fromValues" [widths]
   let symbols <- if <- holds (<- n.outputNamed "Symbols") "isLinked" then finalSymbols.call "toString" else pure ""
   tuple (mesh :: widths :: symbols :: states)],
.risky "Offset Vertices" [flag "useVectorList"] (do
 takes "Mesh" "Mesh" [modified]
 takes "Falloff"
 takesMany "Vector" ["useVectorList"] (named "Offset" [val (.tuple [0, 0, 1])])
 gives "Mesh") [
 fn3 "execute mesh falloff offsets" fun n mesh fo offsets => do
  let offsets <- endless "Vector3D" offsets zero3
  affect "offsetVector3DList" [<- mesh "vertices", offsets, <- n.call "getFalloffEvaluator" [fo]]
  mesh.tell "verticesTransformed"
  pure mesh,
 evaluatesFalloff],
.risky "Set Bevel Vertex Weight" [flag "useWeightList"] (do
 takesObject
 takesSome "Float" "Weight"
 gives "Object") [
 fn2 "execute object weights" fun n o ws => do
  if o.isNone then return .none
  n.requireMeshObject o
  unless <- truthy (<- o.at "data.use_customdata_vertex_bevel") do
   (<- o "data").set "use_customdata_vertex_bevel" true
  o.bid "data.vertices.foreach_set" ["bevel_weight", <- filled "Double" ws 0 (<- length (<- o.at "data.vertices"))]
  o.bid "data.update"
  pure o],
.risky "Set Custom Attribute" [menu "domain" "POINT", menu "dataType" "FLOAT", flag "useDataList"] (fun n => do
 n.takesObject
 n.takesAttribute
 n.gives "Object") [
 showsAttribute,
 fn3 "execute object customAttributeName data" fun n o name data => do
  if o.isNone then return o
  if <- notEqual (<- o "type") "MESH" then n.halt "Object should be Mesh type."
  n.requireName name "Attribute"
  let type <- n.word "dataType"
  let domain <- n.word "domain"
  let new : Eval := do o.use "data.attributes.new" [name, type, domain]
  let found <- o.use "data.attributes.get" [name]
  let ly <- do
   if found.isNone then new
   else if <- (do notEqual (<- found "data_type") type) <||> (do notEqual (<- found "domain") domain) then
    o.bid "data.attributes.remove" [found]
    new
   else pure found
  let k <- elementCount domain (<- o "data") "loops"
  let listType <- do
   if ["INT", "FLOAT"].contains type then pure type
   else if <- (fits ly "data_type" "FLOAT2") then pure "FLOAT2"
   else pure (if type == "FLOAT2" then "BOOLEAN" else type)
  let vs <- attributeList listType data k
  let property <- componentOf type
  (<- ly "data").writeAll property vs
  ly.bid "data.update"
  pure o],
.risky "Set UV Map" [menu "mapIdentifierType" "INDEX", flag "useVector2DList"] (do
 takesObject
 match <- word "mapIdentifierType" with
 | "INDEX" => int ("UV Map Index", "uvMapIndex")
 | "NAME" => str ("Name", "uvMapName")
 | _ => pure ()
 takesMany "Vector 2D" ["useVector2DList"] "Position"
 gives "Object") [
 showsMore "mapIdentifierType" "Type",
 fn3 "execute object identifier positions" fun n o id positions => do
  if o.isNone then return o
  let uvMap <- n.call "getUVMap" [o, id]
  let positions <- filled "Vector2D" positions (<- kernel "Vector" [.tuple [0, 0]]) (<- count uvMap "data")
  (<- uvMap "data").writeAll "uv" positions "asNumpyArray"
  o.tell "update_tag"
  pure o,
 fn2 "getUVMap object identifier" fun n o id => do
  if <- notEqual (<- o "type") "MESH" then n.halt "Object is not a mesh object."
  try item (<- o.at "data.uv_layers") id
  catch _ => n.halt "UV map is not found."],
.risky "Set Vertex Weight"
  ([menu "mode" "ALL", menu "groupIdentifierType" "INDEX"] ++ listFlags ["Index", "Weights"]) (fun n => do
 n.takesGroup
 if (<- n "mode").is "INDEX" then n.takesSome "Integer" "Index" "Indices"
 n.takesMany "Float" ["useWeightsList", "useIndexList"] "Weight"
 n.gives "Object") [
 shows "mode" bare,
 showsMore "groupIdentifierType" "Type",
 runsBy (.byItem "mode" [("INDEX", .ifSet "useIndexList" (.ifSet "useWeightsList" "execute_Indices_WeightsList"
   "execute_Indices_SingleWeight") "execute_Index_Weight"), ("ALL", .ifSet "useWeightsList"
   "execute_All_WeightsList" "execute_All_SingleWeight")]),
 fn4 "execute_Index_Weight object identifier index weight" fun n o id j weight =>
  n.weighs o id fun g => do g.tell "add" [<- list [j], weight, "REPLACE"],
 fn4 "execute_Indices_SingleWeight object identifier indices weight"
   fun n o id ix weight =>
  n.weighs o id (·.tell "add" [ix, weight, "REPLACE"]),
 fn4 "execute_Indices_WeightsList object identifier indices weights"
   fun n o id ix ws =>
  n.weighs o id fun g => do
   let ws <- endless "Double" ws 0
   for (j, i) in (<- iter ix).zipIdx do g.tell "add" [<- list [j], <- item ws i, "REPLACE"],
 fn3 "execute_All_SingleWeight object identifier weight" fun n o id weight =>
  n.weighs o id fun g => do g.tell "add" [<- list (<- span (<- length (<- o.at "data.vertices"))), weight, "REPLACE"],
 fn3 "execute_All_WeightsList object identifier weights" fun n o id ws =>
  n.weighs o id fun g => do
   let ws <- endless "Double" ws 0
   for i in (List.range (<- length (<- o.at "data.vertices"))) do
    g.tell "add" [<- list [i], <- item ws i, "REPLACE"],
 elementOfMesh "getVertexGroup" "vertex_groups" "Group is not found."],
.lifted "Shade Object Smooth" (listFlags ["Object", "Smooth"]) (fun n => do
 n.takesObjects [] false
 n.takesSome "Boolean" "Smooth" "Smooth"
 (<- n.input 1).configure (optional true)
 n.givesSome "Object") [
 runsCode fun n => do
  if <- n.usesInputAt 1 then return "object = self.execute_Single(object, smooth)"
  pure .none,
 fn2 "execute_Single object smooth" fun _ o smooth => do
  if <- equal (<- o.attrD "type" "") "MESH" then
   let mesh <- o "data"
   if (<- count mesh "polygons") > 0 then
    mesh.bid "polygons.foreach_set" ["use_smooth", <- mul (<- list [smooth]) (<- count mesh "polygons")]
    (<- item (<- mesh "polygons") 0).set "use_smooth" smooth
  else if <- equal (<- o.attrD "type" "") "CURVE" then
   for sp in <- iter (<- o.at "data.splines") do sp.set "use_smooth" smooth
  pure o],
.risky "Vertex Group Input" [menu "mode" "ALL", menu "groupIdentifierType" "INDEX", flag "useIndexList"]
  (fun n => do
 n.takesGroup
 match <- n.word "mode" with
 | "INDEX" =>
  n.takesSome "Integer" "Index" "Indices"
  n.givesMany "Float" ["useIndexList"] "Weight"
 | "ALL" =>
  n.bool "Use Modifiers" [val false]
  n.takes "Scene" "Scene" [hide]
  n.gives "Float List" "Weights"
 | _ => pure ()) [
 shows "mode" bare,
 showsMore "groupIdentifierType" "Type",
 runsBy (.byItem "mode" [("INDEX", .ifSet "useIndexList" "execute_Indices" "execute_Index"), ("ALL", "execute_All")]),
 fn3 "execute_Index object identifier index" fun n o id j => do
  if o.isNone then return 0
  let g <- n.call "getVertexGroup" [o, id]
  if g.isNone then n.halt "group not found"
  try g.call "weight" [j]
  catch _ => pure 0,
 fn3 "execute_Indices object identifier indices" fun n o id is => do
  let g <- n.call "getVertexGroup" [o, id]
  if g.isNone then
   if o.isSome then n.halt "group not found"
   return <- kernel "DoubleList"
  weightsOf g (<- iter is),
 rest3 "execute_All"
   fun n o id mods scene => do
  if o.isNone then return <- kernel "DoubleList"
  if <- notEqual (<- o "type") "MESH" then n.halt "no mesh object"
  let g <- n.call "getVertexGroup" [o, id]
  if g.isNone then n.halt "group not found"
  if <- truthy mods then n.call "execute_All_WithModifiers" [o, g, <- item (<- list scene) 0]
  else n.call "execute_All_WithoutModifiers" [o, g],
 fn2 "execute_All_WithoutModifiers object vertexGroup" fun _ o g => do
  weightsOf g (<- span (<- length (<- o.at "data.vertices"))),
 fn3 "execute_All_WithModifiers object vertexGroup scene" fun n o g sc => do
  if sc.isNone then n.halt "scene required"
  let mesh <- o.use "an.getMesh" [] [("applyModifiers", true)]
  let j <- g "index"
  let ws <- sized "DoubleList" (<- count mesh "vertices")
  ws.tell "fill" [0]
  for (v, i) in (<- each mesh "vertices").zipIdx do
   for elem in <- each v "groups" do
    if <- fits elem "group" j then
     setItem ws i (<- elem "weight")
     break
  if <- fits mesh "users" 0 then o.tell "to_mesh_clear"
  pure ws,
 fn2 "getVertexGroup object identifier" fun _ o id => do
  try item (<- o "vertex_groups") id
  catch _ => pure .none]]

end AnimationGraph
