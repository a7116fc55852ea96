import AnimationGraph.Node.Vocabulary

/-! # Nodes for colours

Colours are put together and taken apart in several colour models.
-/

namespace AnimationGraph

def animatedSocketTypes : Pairs := [
 ("NodeSocketVector", "an_VectorSocket"), ("NodeSocketColor", "an_ColorSocket"),
 ("NodeSocketFloatFactor", "an_FloatSocket"), ("NodeSocketFloat", "an_FloatSocket")]

def materialAttributes : List (String × String × String) := [
 ("Color", "Color", "diffuse_color"), ("Float", "Roughness", "roughness"), ("Float", "Metallic", "metallic"),
 ("Integer", "Pass Index", "pass_index"), ("Boolean", "Screen Space Refraction", "use_screen_refraction"),
 ("Float", "Refraction Depth", "refraction_depth"), ("Boolean", "SSS Translucency", "use_sss_translucency")]

def isAnimatable (s : Value) : Ask := return (label? animatedSocketTypes (<- s "bl_idname")).isSome
def colorFlags : Texts := ["useListR", "useListG", "useListB", "useListA"]

def colorParts? (model : String) : Option Texts :=
 if ["RGB", "HSV", "HSL", "YIQ"].contains model then some (model.toList.map toString) else none

def partVariables (parts : Texts) : String := commaList (parts.map Letters.lowered)
def warnsOfLinear : Feature := drawsMore fun _ l => l.sign "Uses linear color space" "INFO"
def lacksMaterials (o : Value) : Ask := pure o.isNone <||> (return !(<- (<- o "data").hasAttr "materials"))

def colorNodes : List NodeKind := [
.of "Choose Color" [fractions "colorProperty" [0.5, 0.5, 0.5] reruns] (do
 float "Alpha" [val 1.0]
 gives "Color") [
 draws fun n l => do l.put "template_color_picker" [n, "colorProperty"] [("value_slider", true)],
 fn1 "execute alpha" fun n alpha => do make "Color" [<- list ((<- each n "colorProperty") ++ [alpha])]],
.hiddenLabel <| .of "Combine Color" (colorFlags.map (flag ·) ++ [menu "sourceType" "RGB"]) (do
 for (flag, part) in colorFlags.zip ((colorParts? (<- word "sourceType")).getD []) do
  takesMany "Float" [flag] part part
 takesMany "Float" ["useListA"] "A" "A"
 givesMany "Color" colorFlags) [
 shows "sourceType" [("expand", true)],
 warnsOfLinear,
 labels fun n => return "Color from " ++ (<- n.textOf "sourceType") ++ "A",
 writes fun n _ => do
  if <- n.isAny colorFlags then
   if let some parts := colorParts? (<- n.word "sourceType") then
    emit s!"colors = self.createColorList({partVariables parts}, a)"
  else
   n.emitBy "sourceType" [("RGB", "color = Color((r, g, b, a))"),
    ("HSV", "color = Color((*colorsys.hsv_to_rgb(h, s, v), a))"),
    ("HSL", "color = Color((*colorsys.hls_to_rgb(h, l, s), a))"),
    ("YIQ", "color = Color((*colorsys.yiq_to_rgb(y, i, q), a))")],
 method "createColorList r g b a" fun n b => do
  let ls <- endlessNumbers b.toList
  let k <- longest "Double" ls
  let type <- n.word "sourceType"
  if (colorParts? type).isSome then kernel s!"colorListFrom{type}A" (k :: ls) else pure .none,
 usesModules ["colorsys"]],
.of "Random Color" seedProperties (do
 takesSeed
 givesSeeded "Color" "Color" "Colors") (withSeed [showsSeed,
 runsSeeded "colors = AN.nodes.color.c_utils.generateRandomColors(_seed, count)"
  #["color = self.execute_colorSingle(_seed)"],
 fn1 "execute_colorSingle seed" fun _ _ => do rgba [<- randomFraction, <- randomFraction, <- randomFraction, 1.0]]),
.hiddenLabel <| .of "Separate Color" [flag "useList", menu "targetType" "RGB"] (do
 takesAny "Color"
 for part in (colorParts? (<- word "targetType")).getD [] do givesAny "Float" part part) [
 shows "targetType" [("expand", true)],
 labels fun n => return (<- n.textOf "targetType") ++ "A from Color",
 warnsOfLinear,
 writes fun n _ => do
  if <- n.is "useList" then
   let type <- n.word "targetType"
   if let some parts := colorParts? type then
    emit s!"{partVariables parts}, a = AN.nodes.color.c_utils.{type}AFromColorList(colors)"
  else
   n.emitBy "targetType" [("RGB", "r, g, b = color.r, color.g, color.b"),
    ("HSV", "h, s, v = colorsys.rgb_to_hsv(color.r, color.g, color.b)"),
    ("HSL", "h, l, s = colorsys.rgb_to_hls(color.r, color.g, color.b)"),
    ("YIQ", "y, i, q = colorsys.rgb_to_yiq(color.r, color.g, color.b)")]
   emit "a = color.a",
 usesModules ["colorsys"]],
.risky "Set Vertex Color"
  [choice "colorMode" "LOOP" reruns, menu "colorLayerIdentifierType" "INDEX", flag "useColorList"] (do
 takesObject
 match <- word "colorLayerIdentifierType" with
 | "INDEX" => int "Vertex Color Index"
 | "NAME" => str ("Name", "colorLayerName")
 | _ => pure ()
 takesSome "Color"
 gives "Object" ("Object", "outObject")) [
 draws fun n l => do if <- n.is "useColorList" then l.prop n "colorMode" bare,
 showsMore "colorLayerIdentifierType" "Type",
 runsBy (.ifSet "useColorList" "execute_ColorsList" "execute_SingleColor"),
 fn3 "execute_SingleColor object identifier color" fun n o id c => do
  if o.isNone then return .none
  let color <- rgba [0, 0, 0, 1]
  let layer <- n.call "getVertexColorLayer" [o, id]
  let hues <- filled "Color" c color (<- count layer "data")
  (<- layer "data").writeAll "color" hues "asNumpyArray"
  o.bid "data.update"
  pure o,
 fn3 "execute_ColorsList object identifier colors" fun n o id colors => do
  if o.isNone then return .none
  let color <- rgba [0, 0, 0, 1]
  let mut hues <- endless "Color" colors color
  let layer <- n.call "getVertexColorLayer" [o, id]
  match <- n.word "colorMode" with
  | "LOOP" => hues := <- hues.call "materialize" [<- count layer "data"]
  | mode =>
   if let some work := [("VERTEX", "Vertex"), ("POLYGON", "Polygon")].lookup mode then
    let ix <- (<- o.use "an.getMesh" [false]).use "an.getPolygonIndices"
    hues := <- kernel s!"getLoopColorsFrom{work}Colors" [ix, hues]
  (<- layer "data").writeAll "color" hues "asNumpyArray"
  o.bid "data.update"
  pure o,
 elementOfMesh "getVertexColorLayer" "data.vertex_colors" "Color Layer is not found."],
.of "Cycles Material Output" [block "material" NodeId.refresh, words "nodeName" "" NodeId.refresh,
 openChoice "socketIdentifier" (fun n => do firstItem (<- n.call "getPossibleSocketItems" [.none]))
   NodeId.refresh] (fun n => do
 let s <- n.call "getSelectedSocket"
 if s.isSome then
  let data <- s "default_value"
  n.takes (<- text (<- labelled .key animatedSocketTypes (<- s "bl_idname"))) "Data"
  (<- n.inputNamed "Data").tell "setProperty" [data]) [
 fn1 "getPossibleSocketItems context" fun n _ => do
  let ss <- n.call "getPossibleSockets"
  list (<- (<- (<- iter ss).filterM isAnimatable).mapM fun s => do
   let id <- s "identifier"
   tuple [id, id, ""]),
 fn0 "getPossibleSockets" fun n => do
  let node <- n.call "getSelectedNode"
  if node.isNone then return <- list []
  list (<- (<- each node "inputs").filterM isAnimatable),
 draws fun n l => do
  l.prop n "material" bare
  if (<- n "material").isNone then return
  let tree <- n.at "material.node_tree"
  if tree.isNone then return
  l.put "prop_search" [n, "nodeName", tree, "nodes"] (badge "" "NODE")
  let node <- (<- n.at "material.node_tree.nodes").call "get" [<- n "nodeName"]
  if node.isNone then return
  if <- ask n "hasPossibleInputs" [node] then l.prop n "socketIdentifier" bare
  else l.sign "No Animatable Inputs" "INFO",
 fn1 "hasPossibleInputs node" fun _ node => do (<- each node "inputs").anyM isAnimatable,
 writes fun n _ => do
  let socket <- (Value.sockets n .input).call "get" ["Data"]
  if socket.isNone then return
  emits #["socket = self.getSelectedSocket()", "if socket is not None:"]
  if (<- socket "dataType").isOneOf ["Float", "Vector"] then emit "    if socket.default_value != data:"
  else if (<- socket "dataType").is "Color" then emit "    if tuple(socket.default_value) != tuple(data):"
  emit "        socket.default_value = data",
 code0 "getBakeCode" fun _ => return #["socket = self.getSelectedSocket()", "if socket is not None:",
  "    socket.keyframe_insert('default_value')"],
 act0 "edit" fun n => do
  let socket <- (Value.sockets n .input).call "get" ["Data"]
  if socket.isNone then return
  if <- holds socket "isLinked" then
   let name <- socket.at "dataOrigin.bl_idname"
   let ids <- n.call "getInputIdentifiersFromSocketType" [name]
   if (<- notEqual (<- socket "bl_idname") name) && (<- length ids) > 0 then
    n.set "socketIdentifier" (<- item ids 0),
 fn1 "getInputIdentifiersFromSocketType searchType" fun n searchType => do
  list (<- (<- (<- iter (<- n.call "getPossibleSockets")).filterM fun s => do
   equal (<- labelled .key animatedSocketTypes (<- s "bl_idname")) searchType).mapM (· "identifier")),
 fn0 "getSelectedNode" fun n => do
  if (<- n "material").isNone then return .none
  let tree <- n.at "material.node_tree"
  if tree.isNone then return .none
  (<- tree "nodes").call "get" [<- n "nodeName"],
 fn0 "getSelectedSocket" fun n => do
  let node <- n.call "getSelectedNode"
  if node.isNone then return .none
  n.call "getInputSocketWithIdentifier" [node, <- n "socketIdentifier"],
 fn2 "getInputSocketWithIdentifier node identifier" fun _ node id => do
  return (<- (<- each node "inputs").findM? (fits · "identifier" id)).getD .none],
.of "Material Output" [] (fun n => do
 n.takes "Material" "Material" [unnamed]
 for (type, name, attr) in materialAttributes do n.takes type (name, attr) (optional false)
 hideAll ((<- n.inputs).drop 4)
 n.gives "Material") [
 writes fun n _ => do
  emits #["if material is not None:", "    pass"]
  for ((type, _, attr), i) in materialAttributes.zipIdx do
   let setter := if type == "Color" then "Color" else "Numeric"
   if <- truthy (<- (<- n.input (i + 1)) "isUsed") then
    emit s!"    self.setAttribute_{setter}(material, '{attr}', {attr})",
 act3 "setAttribute_Color material attribute color" fun _ mat ly c => do
  let color <- list (<- iter (<- mat.attr (<- text ly)))
  unless <- ((<- iter color).zip (<- iter c)).allM fun (a, b) => isClose a b do mat.set (<- text ly) c,
 act3 "setAttribute_Numeric material attribute value" fun _ mat ly v => do
  unless <- isClose v (<- mat.attr (<- text ly)) do mat.set (<- text ly) v],
.of "Object Material Input" [] (do
 takesObject
 gives "Material List" "Materials") [
 fn1 "execute object" fun _ o => do
  if <- lacksMaterials o then return <- list []
  list (<- (<- iter (<- o.at "data.materials")).filterM truthy)],
.of "Object Material Output" [flag "appendMaterials", flag "useMaterialList"] (do
 takesObject
 takesSome "Material" "Material" "Materials" [unnamed]
 gives "Object") [
 drawsMore fun n l => do (<- l.line).prop n "appendMaterials",
 runsBy (.ifSet "useMaterialList" "executeList" "executeSingle"),
 fn2 "executeSingle object material" fun n o mat => do n.call "executeList" [o, <- list [mat]],
 fn2 "executeList object materials" fun n o mats => do
  if <- lacksMaterials o then return o
  let materials <- o.at "data.materials"
  unless <- n.is "appendMaterials" do materials.tell "clear"
  for mat in <- iter mats do unless mat.isNone do n.tell "appendMaterial" [materials, mat]
  pure o,
 act2 "appendMaterial objectMaterials material" fun n materials mat => do
  unless <- n.is "appendMaterials" <&&> (do has materials (<- mat "name")) do materials.tell "append" [mat]]]

end AnimationGraph
