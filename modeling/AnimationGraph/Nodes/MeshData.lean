import AnimationGraph.Data.Motion
import AnimationGraph.Nodes.Matrix

/-! # Layers of data on meshes

Each layer has a name and tells what it means, which elements of the mesh it belongs to, and what type
of values it holds.
-/

namespace AnimationGraph

def meshAttribute (name : Value) (type domain ty : String) (data : Value) : Eval := do
 kernel "Attribute" [name, <- (Value.kind "AttributeType").attr type, <- (Value.kind "AttributeDomain").attr domain,
  <- (Value.kind "AttributeDataType").attr ty, data]

/-- The weights in a vertex group, 0 for what is not in it. -/
def weightsOf (g : Value) (vs : Values) : Eval := do
 let ws <- sized "DoubleList" vs.length
 let weight <- g "weight"
 for (v, i) in vs.zipIdx do
  try setItem ws i (<- weight.apply [v])
  catch _ => setItem ws i 0
 pure ws

def componentOf (ty : Value) : Run String := do
 if <- among ty ["FLOAT", "INT", "BOOLEAN"] then return "value"
 return if <- among ty ["FLOAT2", "FLOAT_VECTOR"] then "vector" else "color"

def zeros (k : Nat) (type : String := "Double") : Eval := do
 let list <- sized s!"{type}List" k
 list.tell "fill" [0]
 pure list

def newFace (bm is : Value) : Eval := do
 (<- bm "faces").call "new" [.tuple (<- (<- iter is).mapM fun i => do item (<- bm "verts") i)]

variable (n : NodeId) (mesh : Value)

def editableMesh : Eval := do
 let bm <- kernel "new"
 for co in <- each mesh "vertices" do bm.bid "verts.new" [co]
 attempt do bm.bid "verts.ensure_lookup_table"
 for edge in <- each mesh "edges" do
  let es <- bm "edges"
  es.tell "new" [.tuple [<- item (<- bm "verts") (<- item edge 0), <- item (<- bm "verts") (<- item edge 1)]]
 let mats <- mesh.call "getBuiltInAttribute" ["Material Indices"]
 let ps <- each mesh "polygons"
 if mats.isNone then for p in ps do discard <| newFace bm p
 else
  for (p, mat) in ps.zip (<- each mats "data") do (<- newFace bm p).set "material_index" mat
 bm.tell "normal_update"
 pure bm

def bMeshChange (label line : String) (opts : NodeId -> Act) : NodeKind where
 label
 create n := do
  n.takes "BMesh" ("BMesh", "bm") [modified]
  opts n
  n.gives "BMesh" ("BMesh", "bm")
 members := [runs line, usesModules ["bmesh"]]

def cornersOf (part : Value) : Eval := return .tuple (<- (<- each part "verts").mapM (· "index"))

def partsOf (name list ps : String) (read : Value -> Eval) : Feature :=
 fn1 s!"{name} bMesh" fun _ bMesh => do kernel s!"{list}.fromValues" [<- mapList (<- bMesh ps) read]

def placed (name reader : String) (translates : Bool) : Feature :=
 fn3 s!"{name} mesh object useWorldSpace" fun _ mesh o space => do
  let vs <- (<- mesh "an").call reader
  if <- truthy space then
   vs.tell "transform" [<- o "matrix_world"] (if translates then [] else [("ignoreTranslation", true)])
  pure vs

def NodeId.whenNotEdited (o : Value) (x : Act) : Act := do
 if <- notEqual (<- o "mode") "EDIT" then x else n.showError "Object is in edit mode."

def loadsLayers (m layers reader inserter type ty : String) : Feature :=
 act3 s!"{m} mesh sourceMesh object" fun n mesh source o => n.whenNotEdited o do
  for name in <- iter (<- (<- source.attr layers).call "keys") do
   let data <- (<- source "an").call reader [name]
   mesh.tell inserter [<- meshAttribute name type "CORNER" ty data]

def NodeId.meshInput? : Run (Option SocketId) := do
 match <- n.word "meshDataType" with
 | "MESH_DATA" => n.inputNamed "Mesh"
 | "BMESH" => n.inputNamed "BMesh"
 | "VERTICES" => n.inputNamed "Vertices"
 | _ => pure none

def moveMesh (method : String) (mesh by_ : Value) : Eval := do
 mesh.tell method [by_]
 pure mesh

/-- One mesh or many meshes are moved by one vector or matrix or by many. -/
def movesMeshes (one many method : String) (d : Eval) : Members :=
 let (v, vs) := (Letters.lowered one, Letters.lowered many)
 [fn2 s!"execute_Single_{one} mesh {v}" fun _ => moveMesh method,
 delegates s!"execute_SingleMesh_Multiple{many}_Joined mesh {vs}" "replicateMesh",
 fn2 s!"execute_SingleMesh_Multiple{many}_Separated mesh {vs}" fun _ mesh vs =>
  mapList vs fun v => do moveMesh method (<- mesh.call "copy") v,
 fn2 s!"execute_MultipleMeshes_Single{one} meshes {v}" fun n meshes v => do
  for mesh in <- iter meshes do mesh.tell method [v]
  n.call "joinWhenNecessary" [meshes],
 fn2 s!"execute_MultipleMeshes_Multiple{many} meshes {vs}" fun n ms moves => do
  let ms <- endless "Py" ms (<- kernel "Mesh")
  let moves <- list (<- iter moves)
  let moves <- endless "Py" moves (<- d)
  let k <- longest "Py" [ms, moves]
  n.call "joinWhenNecessary"
   [<- mapSpan k fun i => do moveMesh method (<- (<- item ms i).call "copy") (<- item moves i)]]

def transformPlan (one many : String) : Plan :=
 .ifSet "useMeshList"
  (.ifSet "useTransformationList" s!"execute_MultipleMeshes_Multiple{many}" s!"execute_MultipleMeshes_Single{one}")
  (.ifSet "useTransformationList"
   (.ifSet "joinMeshes" s!"execute_SingleMesh_Multiple{many}_Joined"
    s!"execute_SingleMesh_Multiple{many}_Separated")
   s!"execute_Single_{one}")

def ofEdges (name : String) : Feature := delegates s!"{name} points edges" name

def NodeId.setEdgeNumbers (o ns : Value) (flag prop : String) : Eval := do
 if o.isNone then return .none
 n.requireMeshObject o
 let mesh <- o "data"
 unless <- truthy (<- mesh.attr flag) do mesh.set flag true
 let es <- mesh "edges"
 es.tell "foreach_set" [prop, <- filled "Double" ns 0 (<- length es)]
 mesh.tell "update"
 pure o

def orientedPolygons (ps : Value) : Eval := do
 let (ns, tans, bitangents) <- unpack3 (<- mesh.call "getPolygonOrientationMatrices" [] [("normalized", true)])
 kernel "matricesFromNormalizedAxisData" [ps, tans, bitangents, ns]

def onePerPolygon (list : Value) : Eval := do
 list.call "materialize" [<- count mesh "polygons"] [("canUseOriginal", true)]

/-- What is read from the mesh of an object: the output, the type of the list, whether it is a part of meshes, and how it is
read. -/
def objectMeshParts : List (String × String × Bool × String) :=
 let places (part : Bool) (out : String) :=
  (out, "Vector3D", part, s!"self.get{out.capitalize}(sourceMesh, evaluatedObject, useWorldSpace)")
 let indices (out : String) := (out, out.capitalize, true, s!"sourceMesh.an.get{out.capitalize}()")
 let numbers (out reader : String) (type : String := "Double") (part : Bool := true) :=
  (out, type, part, s!"{type}List.fromValues(sourceMesh.an.get{reader}())")
 [places true "vertexLocations", indices "edgeIndices", indices "polygonIndices", places true "vertexNormals",
 places true "polygonNormals", places false "polygonCenters", numbers "localPolygonAreas" "PolygonAreas" "Double" false,
 numbers "materialIndices" "PolygonMaterialIndices" "Long", numbers "bevelVertexWeights" "BevelVertexWeights",
 numbers "bevelEdgeWeights" "BevelEdgeWeights", numbers "edgeCreases" "EdgeCreases"]

def NodeId.triangle (problem : String) : Eval := do
 n.showError problem
 tuple [0, 1, 2]

def NodeId.outOfRange (name : String) (i : Value) : Act := do n.halt (s!"{name} index is out of range '{(<- text i)}'")

def offsetsPolygons (name : String) (split : Bool) (place : Value -> Value -> Eval) : Feature :=
 rest1 name fun n mesh args => do
  let (moves, own) <- if split then splitLast args else pure (args, .none)
  let new <- kernel "getIndividualPolygonsMesh" [mesh]
  n.call "transformMeshPolygons" [new, <- place new own, <- list moves]

def meshDataNodes : List NodeKind := [
.called "CreateBMeshFromMesh" <| .risky "Create BMesh" [] (do
 takes "Mesh" ("Mesh", "meshData")
 gives "BMesh" ("BMesh", "bm")) [
 fn1 "execute meshData" fun n data => do
  try editableMesh data
  catch f =>
   match f.cause with
   | .index => n.halt "Missing vertices"
   | .value => n.halt "Multiple identical edges or polygons"
   | _ => throw f],
.of "BMesh from Object" [] (do
 takesObject
 bool "Use World Space" [val true]
 gives "BMesh" ("BMesh", "bm")) [
 fn2 "execute object useWorldSpace" fun _ o space => do
  let bm <- kernel "new"
  if <- notEqual (<- o.attrD "type" "") "MESH" then return bm
  bm.tell "from_object" [o, <- activeDepsgraph]
  if <- truthy space then
   let object <- evaluated o
   bm.tell "transform" [<- object "matrix_world"]
  pure bm],
 bMeshChange "BMesh Invert Normals" "bmesh.ops.reverse_faces(bm, faces = bm.faces, flip_multires = flipMultires)"
  (·.bool "Flip Multires" [val false, hide]),
.of "BMesh Mesh" [] (do
 takes "BMesh" ("BMesh", "bm")
 gives "Vector List" "Vertex Locations"
 givesIndices
 gives "Integer List" "Material Indices") [
 writes fun _ req => ifWanted req do
  let outs := [("vertexLocations", "Vector3D"), ("edgeIndices", "EdgeIndices"),
   ("polygonIndices", "PolygonIndices"), ("materialIndices", "Long")]
  emit "if bm:"
  emitWanted req (outs.map fun (out, _) => (out, s!"self.get{out.capitalize}(bm)")) "    "
  emit "else:"
  for (out, type) in outs do emit s!"    {out} = {type}List()",
 partsOf "getVertexLocations" "Vector3DList" "verts" (· "co"),
 partsOf "getEdgeIndices" "EdgeIndicesList" "edges" cornersOf,
 partsOf "getPolygonIndices" "PolygonIndicesList" "faces" cornersOf,
 partsOf "getMaterialIndices" "LongList" "faces" (· "material_index")],
 { bMeshChange "BMesh Recalculate Normals" "bmesh.ops.recalc_face_normals(bm, faces = bm.faces)" fun _ => pure () with
   id := "an_BMeshRecalculateFaceNormalsNode" },
 bMeshChange "BMesh Remove Doubles" "bmesh.ops.remove_doubles(bm, verts = bm.verts, dist = distance)"
  (·.float "Distance" (dial 0.0001 0.0)),
.risky "Combine Mesh" [flag "skipValidation" false reruns] (fun n => do
 n.takes "Vector List" "Vertex Locations" [modified]
 n.takes "Edge Indices List" "Edge Indices" [modified]
 n.takes "Polygon Indices List" "Polygon Indices" [modified]
 n.takes "Integer List" "Material Indices" [hide, modified]
 n.gives "an_MeshSocket" ("Mesh", "meshData")
 (<- n.inputNamed "Material Indices").configure (optional false)) [
 draws fun n l => do if <- n.is "skipValidation" then l.sign "Validation skipped" "INFO",
 showsMore "skipValidation", fn4 "execute vertexLocations edgeIndices polygonIndices materialIndices"
    fun n locations edges polygons materials => n.reporting do
   let mesh <- kernel "Mesh" [locations, edges, polygons] [("skipValidation", <- n "skipValidation")]
   if <- n.usesInput "Material Indices" then
    let fitting <- (return (<- length materials) == (<- length polygons)) <&&>
     (do greaterEqual (<- materials.call "getMinValue") 0)
    unless fitting do n.halt "Invalid material indices."
    mesh.tell "insertBuiltInAttribute" [<- meshAttribute "Material Indices" "MATERIAL_INDEX" "FACE" "INT" materials]
   pure mesh],
.of "Join Mesh List" [] (do
 takes "Mesh List" ("Mesh List", "meshDataList") [modified]
 gives "Mesh" ("Mesh", "meshData")) [
 fn1 "execute meshDataList" fun _ list => do kernel "Mesh.join" (<- iter list)],
.of "Mesh Info" [] (do
 takes "Mesh" "Mesh" [modified]
 gives "Vector List" ("Vertex Locations", "vertices")
 givesIndices
 givesEach "Vector List" ["Vertex Normals", "Polygon Centers", "Polygon Normals"]
 gives "Integer List" "Material Indices"
 givesEach "Float List" ["Bevel Vertex Weights", "Bevel Edge Weights", "Edge Creases"]
 givesEach "Text List" [("UV Map Names", "uvMapNames"), ("Vertex Color Layers", "vertexColorLayerNames"),
  "Custom Attribute Names"]) [
 writes fun _ req => emitWanted req <| [("vertices", "mesh.vertices"), ("edgeIndices", "mesh.edges"),
  ("polygonIndices", "mesh.polygons")] ++ ["vertexNormals", "polygonNormals", "polygonCenters"].map
  (fun out => (out, s!"mesh.get{out.capitalize}()")) ++
  ["Material Indices", "Bevel Vertex Weights", "Bevel Edge Weights", "Edge Creases"].map
  (fun (name : String) => (SocketNames.identifier name, s!"self.getBuiltInAttributes('{name}', mesh)")) ++ [
  ("uvMapNames", "mesh.getAllUVMapAttributeNames()"),
  ("vertexColorLayerNames", "mesh.getAllVertexColorAttributeNames()"),
  ("customAttributeNames", "mesh.getAllCustomAttributeNames()")],
 fn2 "getBuiltInAttributes name mesh" fun _ name mesh => do
  let builtIn <- mesh.call "getBuiltInAttribute" [name]
  if builtIn.isNone then
   if name.is "Material Indices" then zeros (<- count mesh "polygons") "Long"
   else if name.is "Bevel Vertex Weights" then zeros (<- count mesh "vertices")
   else zeros (<- count mesh "edges")
  else builtIn "data"],
.telling <| .found [("Object Mesh Data", []), ("Mesh from Object", [])] <| .of "Mesh Object Input" [] (fun n => do
 n.takesObject
 n.bool "Use World Space"
 n.bool "Use Modifiers" [val false]
 n.takesEach "Boolean" ["Load UVs", "Load Vertex Colors", "Load Vertex Weights",
  "Load Custom Attributes"] [val false, hide]
 n.takes "Scene" "Scene" [hide]
 n.gives "Mesh"
 n.givesEach "Vector List" ["Vertex Locations", "Vertex Normals", "Polygon Centers", "Polygon Normals"]
 n.givesIndices
 n.gives "Float List" "Local Polygon Areas"
 n.gives "Integer List" "Material Indices"
 n.givesEach "Float List" ["Bevel Vertex Weights", "Bevel Edge Weights", "Edge Creases"]
 n.gives "Text" "Mesh Name"
 let visibleOutputs : Value := .tuple ["Mesh", "Vertex Locations", "Polygon Centers"]
 for s in <- n.outputs do s.set "hide" (!(<- has visibleOutputs (<- s.name)))) [
 draws fun _ _ => pure (),
 writes fun n req => ifWanted req do
  emits #["sourceMesh = object.an.getMesh(useModifiers) if object else None", "if sourceMesh is not None:"]
  for line in <- linesOf (<- n.call "iterGetMeshDataCodeLines" [req]) do emit s!"    {line}"
  emits #["    if sourceMesh.users == 0: object.to_mesh_clear()", "else:", "    meshName = ''", "    mesh = Mesh()"]
  for (out, type, _) in objectMeshParts do
   emit s!"    {out} = {type}List()",
 writesFor "iterGetMeshDataCodeLines" fun _ req => do
  if <- has req "meshName" then emit "meshName = sourceMesh.name"
  emit "evaluatedObject = AN.utils.depsgraph.getEvaluatedID(object)"
  let whole <- has req "mesh"
  for (out, _, forMesh, v) in objectMeshParts do
   if (whole && forMesh) || (<- has req out) then emit s!"{out} = {v}"
  if whole then
   emits #["mesh = Mesh(vertexLocations, edgeIndices, polygonIndices)", "mesh.setVertexNormals(vertexNormals)",
    "mesh.setPolygonNormals(polygonNormals)", "mesh.setLoopEdges(sourceMesh.an.getLoopEdges())",
    "self.loadBuiltInAttributes(mesh, sourceMesh, evaluatedObject)",
    "if loadUVs: self.loadUVMaps(mesh, sourceMesh, object)",
    "if loadVertexColors: self.loadVertexColors(mesh, sourceMesh, object)",
    "if loadVertexWeights: self.loadVertexWeights(mesh, sourceMesh, object, useModifiers, scene)",
    "if loadCustomAttributes: self.loadCustomAttributes(mesh, sourceMesh, evaluatedObject)"],
 placed "getVertexLocations" "getVertices" true, placed "getVertexNormals" "getVertexNormals" false,
 placed "getPolygonNormals" "getPolygonNormals" false, placed "getPolygonCenters" "getPolygonCenters" true,
 act3 "loadBuiltInAttributes mesh sourceMesh object" fun n mesh source o =>
  n.whenNotEdited o do
   for (name, type, domain, ty, reader) in [
     ("Material Indices", "MATERIAL_INDEX", "FACE", "INT", "getPolygonMaterialIndices"),
     ("Bevel Edge Weights", "BEVEL_EDGE_WEIGHT", "EDGE", "FLOAT", "getBevelEdgeWeights"),
     ("Bevel Vertex Weights", "BEVEL_VERTEX_WEIGHT", "POINT", "FLOAT", "getBevelVertexWeights"),
     ("Edge Creases", "EDGE_CREASE", "EDGE", "FLOAT", "getEdgeCreases")] do
    let data <- (<- source "an").call reader
    mesh.tell "insertBuiltInAttribute" [<- meshAttribute name type domain ty data],
 loadsLayers "loadUVMaps" "uv_layers" "getUVMap" "insertUVMapAttribute" "UV_MAP" "FLOAT2",
 loadsLayers "loadVertexColors" "vertex_colors" "getVertexColorLayer" "insertVertexColorAttribute" "VERTEX_COLOR"
  "BYTE_COLOR",
 action "loadVertexWeights mesh sourceMesh object useModifiers scene" fun n b => do
  let mesh := b 0
  n.whenNotEdited (b 2) do
   let gs <- (b 2) "vertex_groups"
   for name in <- iter (<- gs.call "keys") do
    let ws <- do
     if <- truthy (b 3) then zeros (<- count mesh "vertices")
     else n.call "execute_All_WithoutModifiers" [mesh, <- item gs name]
    mesh.tell "insertVertexWeightAttribute" [<- meshAttribute name "VERTEX_WEIGHT" "POINT" "FLOAT" ws],
 act3 "loadCustomAttributes mesh sourceMesh object" fun n mesh source o =>
  n.whenNotEdited o do
   let attrs <- source "attributes"
   for name in <- iter (<- attrs.call "keys") do
    let ly <- attrs.call "get" [name]
    mesh.tell "insertCustomAttribute" [<- kernel "Attribute"
     [name, <- (Value.kind "AttributeType") "CUSTOM", <- item (.kind "AttributeDomain") (<- ly "domain"),
     <- item (.kind "AttributeDataType") (<- ly "data_type"),
     <- source.use "an.getCustomAttribute" [name]]],
 fn2 "execute_All_WithoutModifiers mesh vertexGroup" fun _ mesh g => do
  weightsOf g (<- span (<- count mesh "vertices"))],
.telling <| .of "Mesh Object Output"
  [menu "meshDataType" "MESH_DATA", flag "validateMesh" false reruns, flag "validateMeshVerbose" false reruns,
  flag "ensureAnimationData" true reruns, flag "calculateLooseEdges" false reruns] (do
 takes "Object" "Object" [unnamed, ("objectCreationType", "MESH")]
 match <- word "meshDataType" with
 | "MESH_DATA" => takes "Mesh" ("Mesh", "meshData")
 | "BMESH" => takes "BMesh" ("BMesh", "bm")
 | "VERTICES" => takes "Vector List" "Vertices"
 | _ => pure ()
 switchable
 gives "Object") [
 draws fun n l => unless <- n.is "meshInputSocket.hide" do l.prop n "meshDataType" "Type",
 prop "meshInputSocket" fun n => return (<- n.meshInput?).elim .none .socket,
 drawsMore fun n l => do
  l.prop n "ensureAnimationData"
  let col <- l.stack
  col.prop n "validateMesh"
  let subcol <- col.stack
  subcol.set "active" (<- n "validateMesh")
  subcol.prop n "validateMeshVerbose" "Print Validation Info"
  l.prop n "calculateLooseEdges",
 writes fun n _ => do
  unless <- ask n "isInputUsed" do return
  emits #["if self.isValidObject(object):", "    mesh = object.data"]
  n.emitBy "meshDataType" [("MESH_DATA", "    self.setMesh(mesh, meshData, object)"),
   ("BMESH", "    self.setBMesh(mesh, bm)"), ("VERTICES", "    self.setVertices(mesh, vertices)")]
  emits #["    if self.ensureAnimationData:", "        self.ensureThatMeshHasAnimationData(mesh)"],
 fn0 "isInputUsed" fun n => do
  let some socket <- n.meshInput? | pure false
  socket "isUsed",
 fn1 "isValidObject object" fun n o => do
  if o.isNone then return false
  for (attr, needed, msg) in [
    ("type", "MESH", "Object is not a mesh object."), ("mode", "OBJECT", "Object is not in object mode.")] do
   if <- notEqual (<- o.attr attr) needed then
    n.showError msg
    return false
  pure true,
 act3 "setMesh outMesh mesh object" fun n outMesh mesh o => do
  (<- kernel "new").tell "to_mesh" [outMesh]
  for (part, path) in [
    ("vertices", "vertices"), ("edges", "edges"), ("loops", "polygons.indices"), ("polygons", "polygons")] do
   (<- outMesh.attr part).tell "add" [<- length (<- mesh.at path)]
  let write (part name : String) (list : Eval) : Act := do (<- outMesh.attr part).writeAll name (<- list)
  write "vertices" "co" (mesh "vertices")
  write "vertices" "normal" (mesh.call "getVertexNormals")
  write "edges" "vertices" (mesh "edges")
  write "polygons" "loop_total" (mesh.at "polygons.polyLengths")
  write "polygons" "loop_start" (mesh.at "polygons.polyStarts")
  write "loops" "vertex_index" (mesh.at "polygons.indices")
  write "loops" "edge_index" (mesh.call "getLoopEdges")
  let materials <- mesh.call "getBuiltInAttribute" ["Material Indices"]
  if materials.isSome then
   let ix <- materials "data"
   if <- (return decide ((<- length ix) > 0)) <&&> (do greater (<- ix.call "getMaxValue") 0) <&&>
     (do greaterEqual (<- ix.call "getMinValue") 0) then
    write "polygons" "material_index" (kernel "UShortList.fromValues" [ix])
  for (reader, layers, comp) in [
    ("iterUVMapAttributes", "uv_layers", "uv"), ("iterVertexColorAttributes", "vertex_colors", "color")] do
   for ly in <- iter (<- mesh.call reader) do
    let t <- (<- outMesh.attr layers).call "new" [] [("name", <- ly "name"), ("do_init", false)]
    (<- t "data").writeAll comp (<- ly "data")
  let amount <- count outMesh "vertices"
  for ly in <- iter (<- mesh.call "iterVertexWeightAttributes") do
   let mut group <- (<- o "vertex_groups").call "get" [<- ly "name"]
   if group.isNone then group := <- (<- o "vertex_groups").call "new" [] [("name", <- ly "name")]
   let ws <- ly "data"
   for i in (List.range amount) do group.tell "add" [<- list [i], <- item ws i, "REPLACE"]
  o.bid "data.update"
  for ly in <- iter (<- mesh.call "iterCustomAttributes") do
   let domain <- ly.call "getDomainAsString"
   let ty <- ly.call "getListTypeAsString"
   let data <- ly "data"
   let out <- (<- outMesh "attributes").call "new" [<- ly "name", ty, domain]
   let comp <- componentOf ty
   (<- out "data").writeAll comp data
  if <- n.is "validateMesh" then outMesh.tell "validate" [] [("verbose", <- n "validateMeshVerbose")]
  if <- n.is "calculateLooseEdges" then outMesh.tell "update" [] [("calc_edges_loose", true)],
 act2 "setBMesh mesh bm" fun _ mesh bm => bm.tell "to_mesh" [mesh],
 fn2 "setVertices mesh vertices" fun n mesh vs => do
  if (<- count mesh "vertices") != (<- length vs) then
   n.showError "The vertex amounts are not equal."
   return .kind "object"
  (<- mesh "vertices").writeAll "co" vs
  mesh.tell "update"
  pure .none,
 act1 "ensureThatMeshHasAnimationData mesh" fun _ mesh => do
  unless <- isAnimated mesh do
   setItem mesh "an_helper_property" 0
   mesh.tell "keyframe_insert" [] [("data_path", "[\"an_helper_property\"]")]],
.of "Mesh Points Scatter"
  [menu "mode" "POLYGONS", flag "useAdvancedTriangulationMethod" false reruns, whole "nodeSeed" 0 reruns] (do
 takes "Mesh"
 int "Seed" [atLeast 0]
 int "Amount" (dial 10)
 takes "Float List" "Weights" [hide]
 gives "Matrix List" "Matrices"
 gives "Vector List" "Vectors"
 gives "Vector List" "Normals" [hide]) (withSeed [
 draws fun n l => do
  (<- l.line).prop n "nodeSeed" "Node Seed"
  l.prop n "mode" bare,
 showsMore "useAdvancedTriangulationMethod",
 writes fun _ req => do
  emit "matrices = self.execute_RandomPointsScatter(mesh, seed, amount, weights)"
  emitWanted req [("vectors", "AN.nodes.matrix.c_utils.extractMatrixTranslations(matrices)"),
   ("normals", "AN.nodes.matrix.c_utils.extractMatricesZBasis(matrices)")],
 fn4 "execute_RandomPointsScatter mesh seed amount weights" fun n mesh seed k ws => do
  let vs <- mesh "vertices"
  let mut polygons <- mesh "polygons"
  let es <- mesh "edges"
  if (<- isEmpty vs) || (<- equal k 0) then return <- kernel "Matrix4x4List"
  let ws <- endless "Double" ws 1
  let seed <- pairNumber (<- wholeOf (<- maxOf seed 0)) (<- n "nodeSeed")
  if (<- n "mode").is "POLYGONS" then
   if <- isEmpty polygons then return <- kernel "Matrix4x4List"
   if <- greater (<- polygons.use "polyLengths.getMaxValue") 3 then
    polygons <- if <- n.is "useAdvancedTriangulationMethod" then
      kernel "triangulatePolygonsUsingEarClipMethod" [vs, polygons]
     else kernel "triangulatePolygonsUsingFanSpanMethod" [polygons]
   let normals <- kernel "calculatePolygonNormals" [vs, polygons]
   kernel "scatterPointsOnPolygons" [vs, polygons, normals, ws, seed, <- maxOf k 0]
  else
   if <- isEmpty es then return <- kernel "Matrix4x4List"
   kernel "scatterPointsOnEdges" [vs, es, <- mesh.call "getVertexNormals", ws, seed, <- maxOf k 0]]),
.of "Transform Mesh"
  ([menu "transformationType" "MATRIX", toggle "joinMeshes" true] ++ listFlags ["Mesh", "Transformation"]) (fun n => do
 n.takesSome "Mesh" ("Mesh", "inMesh") ("Meshes", "inMeshes")
 (<- n.input 0).set "dataIsModified" (<- n "inputMeshesAreModified")
 match <- n.word "transformationType" with
 | "VECTOR" => n.takesMany "Vector" ["useTransformationList"] "Translation"
 | "MATRIX" => n.takesSome "Matrix" "Transformation"
 | _ => pure ()
 if (<- n.is "hasListInput") && !(<- n.is "joinMeshes") then n.gives "Mesh List" ("Meshes", "outMeshes")
 else n.gives "Mesh" ("Mesh", "outMesh")) (.append [
 draws fun n l => do
  l.prop n "transformationType" bare
  if <- n.is "hasListInput" then l.prop n "joinMeshes",
 runsBy (.ifItem "transformationType" "MATRIX" (transformPlan "Matrix" "Matrices") (transformPlan "Vector" "Vectors")),
 fn1 "joinWhenNecessary meshes" fun n meshes => do
  if <- n.is "joinMeshes" then kernel "Mesh.join" (<- iter meshes)
  else pure meshes,
 prop "hasListInput" fun n => do eitherOf (<- n "useMeshList") (<- n "useTransformationList"),
 prop "inputMeshesAreModified" fun n => do
  eitherOf (!(<- n.is "hasListInput"))
    (<- bothOf (<- n "useMeshList")
    (<- bothOf (!(<- n.is "useTransformationList")) (!(<- n.is "joinMeshes"))))]
  (movesMeshes "Vector" "Vectors" "move" (pure zero3) ++
   movesMeshes "Matrix" "Matrices" "transform" (kernel "Matrix"))),
.risky "Triangulate Mesh" [flag "methodType" false reruns] (do
 takes "Mesh" "Mesh" [modified]
 gives "Mesh" ("Mesh", "meshOut")) [
 shows "methodType" "Use Advanced Method",
 fn1 "execute mesh" fun n mesh => do
  mesh.tell "triangulateMesh" [] [("method", if <- n.is "methodType" then "EAR" else "FAN")]
  n.reporting do
   affect "checkMeshData" [<- mesh "vertices", <- mesh "edges", <- mesh "polygons"]
   pure mesh],
.of "Create Edge Indices" [flag "useList1", flag "useList2"] (do
 takesMany "Integer" ["useList1"] (named "Index 1" (dial 0)) "Indices 1"
 takesMany "Integer" ["useList2"] (named "Index 2" (dial 1)) "Indices 2"
 givesMany "Edge Indices" ["useList1", "useList2"] "Edge Indices" "Edge Indices List") [
 runsBy (.ifAny ["useList1", "useList2"] "execute_List" .nothing),
 runs "edgeIndices = (max(index1, 0), max(index2, 0))",
 fn2 "execute_List indices1 indices2" fun _ indices1 indices2 => do
  let ix <- endless "Long" indices1 0
  let others <- endless "Long" indices2 0
  kernel "createEdgeIndices" [<- longest "Long" [ix, others], ix, others]],
.risky "Create Edges" [] (do
 takesEach "Vector List" ["Edge Starts", "Edge Ends"]
 gives "Vector List" "Vectors"
 gives "Edge Indices List") [
 fn2 "execute edgeStarts edgeEnds" fun n starts ends => do
  if (<- length starts) != (<- length ends) then n.halt "List lengths not equal"
  kernel "createEdges" [starts, ends]],
.telling <| .of "Edge Info" [flag "useEdgeList"] (do
 takes "Vector List" "Points"
 takesMany "Edge Indices" ["useEdgeList"] "Edge Indices" "Edge Indices List"
 for name in ["Start", "End", "Center"] do givesMany "Vector" ["useEdgeList"] name
 givesMany "Float" ["useEdgeList"] "Length") [
 writes fun n req => do
  let m := if <- n.is "useEdgeList" then "iterExecutionCode_List" else "iterExecutionCode_Single"
  emits (<- linesOf (<- n.call m [req])),
 writesFor "iterExecutionCode_Single" fun _ req => do
  emits #["try:", "    i1, i2 = edgeIndices"]
  emitWanted req [("length", "(points[i1] - points[i2]).length"),
   ("center", "(points[i1] + points[i2]) / 2"), ("start", "points[i1]"), ("end", "points[i2]")] "    "
  emits #["except IndexError:", "    self.setErrorMessage('invalid edge', show = self.inputs[1].isLinked)",
   "    length, center = Vector((0, 0, 0)), Vector((0, 0, 0))",
   "    start, end = Vector((0, 0, 0)), Vector((0, 0, 0))"],
 writesFor "iterExecutionCode_List" fun _ req => do
  emit "try:"
  emitWanted req [("lengths", "self.calculateEdgeLengths(points, edgeIndicesList)"),
   ("centers", "self.calculateEdgeCenters(points, edgeIndicesList)"),
   ("starts", "self.getEdgeStartPoints(points, edgeIndicesList)"),
   ("ends", "self.getEdgeEndPoints(points, edgeIndicesList)")] "    "
  emits #["    pass", "except IndexError:", "    self.setErrorMessage('invalid edge')",
   "    lengths, centers = DoubleList(), Vector3DList()"],
 ofEdges "calculateEdgeLengths", ofEdges "calculateEdgeCenters", ofEdges "getEdgeStartPoints",
 ofEdges "getEdgeEndPoints"],
.risky "Edge to Tube" (listFlags ["EdgeIndices", "Radius"]) (do
 takes "Vector List" ("Points", "inPoints")
 takesSome "Edge Indices" ("Edge Indices", "inEdge") ("Edge Indices List", "inEdges")
 takesMany "Float" ["useRadiusList", "useEdgeIndicesList"] (named "Radius" (dial 0.1)) "Radii"
 int "Resolution" (dial 3 2)
 bool "Caps" [val true]
 gives "Mesh") [
 runsBy (.ifSet "useEdgeIndicesList" "execute_List" "execute_Single"),
 method "execute_Single inPoints inEdge radius resolution caps" fun n b => do
  try
   kernel "edgesToTubes" [b 0, <- kernel "EdgeIndicesList.fromValue" [b 1], b 2, <- maxOf (b 3) 2, b 4]
  catch f => n.halt f.text (<- holds (<- n.inputNamed "Edge Indices") "isLinked"),
 method "execute_List inPoints inEdges radius resolution caps" fun n b => n.reporting do
  kernel "edgesToTubes" [b 0, b 1, b 2, <- maxOf (b 3) 2, b 4]],
.of "Edges of Polygons" [] (do
 takes "Polygon Indices List" "Polygons"
 gives "Edge Indices List" "Edges") [
 fn1 "execute polygons" fun _ ps => kernel "createValidEdgesList" [] [("polygons", ps)]],
.risky "Set Bevel Edge Weight" [flag "useWeightList"] (do
 takesObject
 takesSome "Float" "Weight"
 gives "Object") [
 fn2 "execute object weights" fun n o ws => n.setEdgeNumbers o ws "use_customdata_edge_bevel" "bevel_weight"],
.risky "Set Edge Crease" [flag "useFloatList"] (do
 takesObject
 takesMany "Float" ["useFloatList"] "Crease"
 gives "Object") [
 fn2 "execute object creases" fun n o creases => n.setEdgeNumbers o creases "use_customdata_edge_crease" "crease"],
.telling <| .of "Create Polygon Indices" [menu "mode" "VERTEX_AMOUNT", toggle "useList"] (do
 match <- word "mode" with
 | "INDICES" =>
  takes "Integer List" "Indices"
  gives "Polygon Indices"
 | "VERTEX_AMOUNT" =>
  if <- is "useList" then
   takes "Integer List" "Vertex Amounts"
   gives "Polygon Indices List"
  else
   int "Vertex Amount" (dial 3 3)
   gives "Polygon Indices"
 | _ => pure ()) [
 drawsRow fun n row => do
  row.prop n "mode" bare
  if (<- n "mode").is "VERTEX_AMOUNT" then row.prop n "useList" (badge "" "LINENUMBERS_ON"),
 runsBy (.byItem "mode" [("INDICES", "execute_Indices"), ("VERTEX_AMOUNT", .ifSet "useList"
   "execute_VertexAmount_List" "execute_VertexAmount_Single")]),
 fn1 "execute_Indices indices" fun n ix => do
  if (<- length ix) < 3 then n.triangle "less than 3 indices"
  else if <- (<- iter ix).anyM fun i => less i 0 then n.triangle "index < 0"
  else tuple (<- iter ix),
 fn1 "execute_VertexAmount_Single vertexAmount" fun n amount => do
  if <- less amount 3 then n.triangle "less than 3 indices" else tuple (<- span amount),
 fn1 "execute_VertexAmount_List lengths" fun n lengths => do
  try kernel "polygonIndicesListFromVertexAmounts" [lengths]
  catch f =>
   n.showError f.text
   kernel "PolygonIndicesList"],
.risky "Extract Polygon Transforms" [menu "sourceType" "MESH", menu "extractionType" "DEFAULT",
 menu "edgeSelectionType" "DIRECTION", menu "directionType" "X",
 flag "negateDirection", menu "distanceType" "CLOSEST", flag "polygonsAreFlat" false reruns] (do
 match <- word "sourceType" with
 | "MESH" => takes "Mesh"
 | "VERTICES_AND_POLYGONS" =>
  takes "Vector List" "Vertices"
  takes "Polygon Indices List" "Polygon Indices"
 | _ => pure ()
 if <- is "useDirectionInput" then takes "Vector" "Direction" [val (.tuple [1, 0, 0])]
 if <- is "useCenterInput" then takes "Vector" "Center"
 gives "Matrix List" "Transforms"
 gives "Matrix List" "Inverted Transforms" [hide]) [
 drawsColumn fun n col => do
  col.prop n "extractionType" bare
  if (<- n "extractionType").is "EDGE" then
   let subcol <- col.stack
   subcol.prop n "edgeSelectionType" bare
   match <- n.word "edgeSelectionType" with
   | "DIRECTION" =>
    let row <- subcol.line
    row.prop n "negateDirection" (badge "" "REMOVE")
    row.prop n "directionType" bare
   | "DISTANCE" => subcol.prop n "distanceType" bare
   | _ => pure (),
 drawsMore fun n l => do
  l.prop n "sourceType" "Source"
  l.prop n "polygonsAreFlat",
 writes fun n req => do
  n.emitBy "sourceType" [("MESH", "vertices, polygonIndices = mesh.vertices, mesh.polygons"),
   ("VERTICES_AND_POLYGONS", "self.validateMeshData(vertices, polygonIndices)")]
  emit "extraArgs = \x7b\x7d"
  if <- n.is "useDirectionInput" then emit "extraArgs['Direction'] = direction"
  if <- n.is "useCenterInput" then emit "extraArgs['Center'] = center"
  emit "transforms = self.getTransforms(vertices, polygonIndices, extraArgs)"
  if <- has req "invertedTransforms" then emit "invertedTransforms = self.invertTransforms(transforms)",
 act2 "validateMeshData vertices polygons" fun n vs ps => do
  if <- (return decide ((<- length ps) > 0)) <&&>
    (do greaterEqual (<- ps.call "getMaxIndex") (<- length vs)) then
   n.halt "Invalid polygon indices",
 fn3 "getTransforms vertices polygons extraArgs" fun n vs ps args => do
  let (origins, tans) <- do
   match <- n.word "extractionType" with
   | "DEFAULT" => unpack2 (<- n.call "getTransforms_Default" [vs, ps])
   | "EDGE" => unpack2 (<- n.call "getTransforms_Edge" [vs, ps, args])
   | _ => pure (.none, .none)
  let mut ns <- kernel "calculatePolygonNormals" [vs, ps]
  let flat <- n.is "polygonsAreFlat"
  if flat then ns.tell "normalize"
  tans.tell "normalize"
  let bitangents <- kernel "calculateCrossProducts" [tans, ns]
  unless flat do
   bitangents.tell "normalize"
   ns <- kernel "calculateCrossProducts" [tans, bitangents]
  kernel "matricesFromNormalizedAxisData" [origins, tans, bitangents, ns],
 fn2 "getTransforms_Default vertices polygons" fun _ vs ps => do
  tuple [<- kernel "calculatePolygonCenters" [vs, ps], <- kernel "calculatePolygonTangents" [vs, ps]],
 fn3 "getTransforms_Edge vertices polygons extraArgs" fun n vs ps args => do
  let es <- do
   match <- n.word "edgeSelectionType" with
   | "DIRECTION" =>
    kernel "getPolygonEdgesByDirection" [vs, ps, <- n.call "getDirection" [args], <- n "negateDirection"]
   | "DISTANCE" =>
    let furthest := (<- n "distanceType").is "FURTHEST"
    kernel "getPolygonEdgesByDistance" [vs, ps, <- item args "Center", furthest]
   | _ => pure .none
  tuple [<- kernel "calculateEdgeCenters" [vs, es], <- kernel "calculateEdgeDirections" [vs, es]],
 fn1 "getDirection extraArgs" fun n args => do
  match <- n.word "directionType" with
  | "X" => vector [1, 0, 0]
  | "Y" => vector [0, 1, 0]
  | "Z" => vector [0, 0, 1]
  | "CUSTOM" => item args "Direction"
  | _ => pure .none,
 delegates "invertTransforms transforms" "getInvertedOrthogonalMatrices",
 prop "useDirectionInput" fun n => do
  return (<- n "extractionType").is "EDGE" && (<- n "edgeSelectionType").is "DIRECTION" &&
    (<- n "directionType").is "CUSTOM",
 prop "useCenterInput" fun n => do
  return (<- n "extractionType").is "EDGE" && (<- n "edgeSelectionType").is "DISTANCE"],
.risky "Offset Polygons" ([menu "pivotSource" "DEFAULT"] ++ transformationProperties) (fun n => do
 n.takes "Mesh" ("Mesh", "inMesh") [modified]
 n.tell "createMatrixTransformationInputs" [] [("useMatrixList", true)]
 match <- n.word "pivotSource" with
 | "CUSTOM_POINTS" => n.takes "Vector List" "Pivots"
 | "CUSTOM_MATRICES" => n.takes "Matrix List" "Matrices"
 | _ => pure ()
 n.gives "Mesh" ("Mesh", "outMesh")) (List.append [
 draws fun n l => n.tell "draw_MatrixTransformationProperties" [l],
 drawsMore fun n l => do
  l.prop n "pivotSource" "Local Pivots"
  if (<- n "pivotSource").is "CUSTOM_MATRICES" && !(<- has (<- n "rotationMode") "LOCAL_AXIS") then
   l.sign "Try to change the rotation mode." "INFO"
  n.tell "drawAdvanced_MatrixTransformationProperties" [l],
 runsBy (.byItem "pivotSource" [("DEFAULT", "execute_Normal"), ("CUSTOM_POINTS", "execute_CustomPivots"),
  ("CUSTOM_MATRICES", "execute_Custom")]),
 offsetsPolygons "execute_Normal" false fun mesh _ => do orientedPolygons mesh (<- mesh.call "getPolygonCenters"),
 offsetsPolygons "execute_CustomPivots" true fun mesh pivots => do
  orientedPolygons mesh (<- onePerPolygon mesh (<- endless "Vector3D" pivots zero3)),
 offsetsPolygons "execute_Custom" true fun mesh ms => do
  onePerPolygon mesh (<- endless "Matrix4x4" ms (<- kernel "Matrix")),
 fn3 "transformMeshPolygons mesh transforms transformationArgs"
   fun n mesh transforms moves => do
  let inverted <- kernel "getInvertedOrthogonalMatrices" [transforms]
  affect "transformPolygons" [<- mesh "vertices", <- mesh "polygons", inverted]
  let newTransforms <- n.call "transformMatrices" [transforms, moves]
  affect "transformPolygons" [<- mesh "vertices", <- mesh "polygons", newTransforms]
  mesh.tell "verticesTransformed"
  pure mesh,
 fn2 "transformMatrices matrices args" fun n ms args => do
  let name <- n.call "getMatrixTransformationFunctionName" [] [("useMatrixList", true)]
  (<- n.attr (<- text name)).apply ([ms] ++ (<- iter args))] transformationMembers),
.risky "Separate Polygons" [] (do
 takes "Vector List" ("Vertex Locations", "inVertices")
 takes "Polygon Indices List" ("Polygon Indices", "inPolygonIndices")
 gives "Vector List" ("Vertices", "outVertices")
 gives "Polygon Indices List" ("Polygon Indices", "outPolygonIndices")) [
 fn2 "execute vertices polygons" fun n vs ps => do
  if <- (return ((<- length ps) == 0)) <||>
    (do less (<- ps.call "getMaxIndex") (<- length vs)) then
   kernel "separatePolygons" [vs, ps]
  else n.halt "Invalid polygon indices"],
.risky "Set Polygon Material Index" [flag "useMaterialIndexList"] (do
 takesObject
 takesSome "Integer" "Material Index" "Material Indices"
 gives "Object") [
 fn2 "execute object materialIndices" fun n o indices => do
  if o.isNone then return .none
  n.requireMeshObject o
  let neg <- if <- n.is "useMaterialIndexList" then do
   ask indices "containsValueLowerThan" [0]
   else less indices 0
  if neg then n.halt "Material index can't be negative."
  let ps <- o.at "data.polygons"
  ps.tell "foreach_set" ["material_index", <- filled "Long" indices 0 (<- length ps)]
  o.bid "data.update"
  pure o],
.risky "Find Shortest Path"
  [menu "mode" "TREE", menu "pathType" "MESH", toggle "joinMeshes" true, flag "useSourceList"] (fun n => do
 n.takes "Mesh"
 if (<- n "mode").is "PATH" then
  n.int "Source"
  n.int "Target" [val 1]
 else n.takesSome "Integer" ("Source", "sources") "Sources"
 if (<- n "mode").is "PATH" then n.gives "Integer List" "Indices"
 else if (<- n "pathType").is "MESH" then
  if <- n.is "joinMeshes" then n.gives "Mesh" ("Mesh", "outMesh")
  else n.gives "Mesh List" ("Meshes", "outMeshes")
 else if (<- n "pathType").is "SPLINE" then n.gives "Spline List" ("Splines", "outSplines")
 else if (<- n "pathType").is "STROKE" then n.gives "GPStroke List" ("Strokes", "outStrokes")) [
 draws fun n l => do
  l.prop n "mode" bare
  if (<- n "mode").is "TREE" then
   l.prop n "pathType" bare
   if (<- n "pathType").is "MESH" then l.prop n "joinMeshes",
 runsBy (.ifItem "mode" "PATH" "execute_Path" "execute_Tree"),
 fn3 "execute_Path mesh source target" fun n mesh src t => do
  if mesh.isNone then return <- kernel "LongList"
  for (name, i) in [("Source", src), ("Target", t)] do
   if <- (less i 0) <||> (do greaterEqual i (<- count mesh "vertices")) then n.outOfRange name i
  kernel "getShortestPath" [mesh, <- kernel "LongList.fromValue" [src], t],
 fn2 "execute_Tree mesh sources" fun n mesh sources => do
  let sources <- if <- n.is "useSourceList" then pure sources else kernel "LongList.fromValue" [sources]
  let type <- n "pathType"
  let joined := type.is "MESH" && (<- n.is "joinMeshes")
  if mesh.isNone || (<- isEmpty sources) then return <- if joined then kernel "Mesh" else list []
  let min <- sources.call "getMinValue"
  let max <- sources.call "getMaxValue"
  if <- less min 0 then n.outOfRange "Source" min
  if <- greaterEqual max (<- count mesh "vertices") then n.outOfRange "Source" max
  let tree <- kernel "getShortestTree" [mesh, sources, type]
  if joined then kernel "Mesh.join" (<- iter tree) else pure tree]]

end AnimationGraph
