import AnimationGraph.Node.Vocabulary

/-! # Nodes for geometry

Where lines, planes and spheres meet and where points fall on them, points near a point, and rays that meet surfaces.
-/

namespace AnimationGraph

/-- An input of a node that works on shapes in space: a vector or a number, or a list of them. -/
structure ShapeInput where
 name : String
 names : SocketNames
 value : Value

namespace ShapeInput

variable (i : ShapeInput)

def type : String := if let .tuple _ := i.value then "Vector" else "Float"
def flagName : String := "use" ++ .join (i.name.splitOn " ") ++ "List"

end ShapeInput

structure ShapeWork where
 label : String
 tags : Texts := []
 inputs : List ShapeInput
 order : List Nat := List.range inputs.length
 outputs : List (String × SocketNames × SocketNames)
 together : Bool := false

/-- What is done, and the shapes that it is done to. -/
def ShapeWork.work (s : ShapeWork) : String :=
 let parts := s.label.splitOn " "
 (parts.headD "").decapitalize ++ "_" ++ camelCase (" ".intercalate parts.tail)

def ShapeWork.kind (s : ShapeWork) : NodeKind :=
 let flags := s.inputs.map (·.flagName)
 { id := s!"an_{camelCase s.label}Node", label := s.label, searchTags := s.tags.map (·, []),
   props := flags.map (flag ·),
   create n := do
    for i in s.inputs do
     n.takesMany i.type [i.flagName] (named i.name [val i.value]) i.names [] true (<- literal i.value)
    for (type, base, list) in s.outputs do n.givesMany type (s.order.filterMap (flags[·]?)) base list,
   members := [
    runsBy (.ifAny flags "execute_List" "execute_Single"),
    method ⟨"execute_List", s.inputs.map (·.names.identifier)⟩ fun _ b => do
     let given := s.inputs.zip b.toList
     let ls <- if s.together then do
      let made <- kernel "VirtualVector3DList.createMultiple" (given.map fun (i, v) => .tuple [v, i.value])
      exactly given.length made
      else given.mapM fun (i, v) => do
       if let .tuple place := i.value then endless "Vector3D" v (<- vector place) else endless "Double" v i.value
     kernel s!"{s.work}_List" ((<- longest "Vector3D" ls) :: ls),
    method ⟨"execute_Single", s.inputs.map fun i => (i.name : SocketNames).identifier⟩ fun _ b =>
     kernel s!"{s.work}_Single" b.toList] }

def ShapeInput.plain (name : String) : Value -> ShapeInput := .mk name (.plural name)
def several (type : String) (base : SocketNames) : String × SocketNames × SocketNames := (type, base, base.plural)

def lineInputs (start stop : Value) (starts stops : SocketNames) : List ShapeInput :=
 [⟨"Line Start", starts, start⟩, ⟨"Line End", stops, stop⟩]

def planeInputs (nrm : Value := .tuple [0, 0, 1]) (which : String := "") : List ShapeInput := [
 .plain (which ++ "Plane Point") zero3, .plain (which ++ "Plane Normal") nrm]

def sphereInputs (center : Value := zero3) (which : String := "") : List ShapeInput := [
 .plain (which ++ "Sphere Center") center,
 ⟨which ++ "Sphere Radius", which ++ "Sphere Radii", 1⟩]

def validOutput : String × SocketNames × SocketNames := several "Boolean" "Valid"

def shapeWorks : List ShapeWork := [
 { label := "Intersect Line Line", tags := ["Nearest Points on 2 Lines"],
   inputs := [.plain "First Line Start" (.tuple [1, 1, 0]), .plain "First Line End" (.tuple [-1, -1, 0]),
    .plain "Second Line Start" (.tuple [1, -1, 0]), .plain "Second Line End" (.tuple [-1, 1, 0])],
   together := true,
   outputs := [several "Vector" "First Nearest Point", several "Vector" "Second Nearest Point",
    several "Float" "First Parameter", several "Float" "Second Parameter", validOutput] },
 { label := "Intersect Line Plane",
   inputs := lineInputs (.tuple [0, 0, 1]) (.tuple [0, 0, -1]) "Line Starts" "Line Ends" ++ planeInputs,
   order := [0, 1, 3, 2],
   outputs := [several "Vector" "Intersection", several "Float" "Parameter", validOutput] },
 { label := "Intersect Line Sphere",
   inputs := lineInputs zero3 (.tuple [0, 0, 2]) ("Line Start", "lineStarts") "Line Ends" ++
    [.plain "Sphere Center" zero3, ⟨"Sphere Radius", ("Spheres Radii", "sphereRadii"), 1⟩],
   outputs := [several "Vector" "First Intersection", several "Vector" "Second Intersection",
    several "Float" "First Parameter", several "Float" "Second Parameter",
    ("Integer", "Number Of Intersections", "Number Of Intersections")] },
 { label := "Intersect Plane Plane",
   inputs := planeInputs (.tuple [0, 0, 1]) "First " ++ planeInputs (.tuple [1, 0, 0]) "Second ",
   outputs := [several "Vector" "Line Direction", several "Vector" "Line Point", validOutput] },
 { label := "Intersect Sphere Plane",
   inputs := sphereInputs ++ planeInputs, order := [2, 3, 0, 1],
   outputs := [several "Vector" "Circle Center", ("Float", "Circle Radius", "Circle Radii"), validOutput] },
 { label := "Intersect Sphere Sphere",
   inputs := sphereInputs (.tuple [0, 0, -0.5]) "First " ++ sphereInputs (.tuple [0, 0, 0.5]) "Second ",
   order := [2, 3, 0, 1],
   outputs := [several "Vector" "Circle Center", several "Vector" "Circle Normal",
    ("Float", "Circle Radius", "Circle Radii"), validOutput] },
 { label := "Project Point on Line",
   tags := ["Distance Point to Line", "Closest Point on Line"],
   inputs := lineInputs zero3 (.tuple [1, 0, 0]) "Line Starts" ("Line End", "lineEnds") ++
    [.plain "Point" (.tuple [1, 1, 0])],
   outputs := [several "Vector" "Projection", several "Float" "Parameter", several "Float" "Distance"] },
 { label := "Project Point on Plane",
   tags := ["Distance Point to Plane", "Closest Point on Plane"],
   inputs := planeInputs ++ [.plain "Point" (.tuple [0, 0, 1])],
   outputs := [several "Vector" "Projection", several "Float" ("Signed Distance", "distance")] }]

def geometryNodes : List NodeKind := [
.called "BMeshLimitedDissolve" <| .of "Limited Dissolve BMesh" [] (do
 takes "BMesh" ("BMesh", "bm") [modified]
 float "Angle Limit" [val 30.0]
 bool "Dissolve Boundries" [val false]
 gives "BMesh" ("BMesh", "bm")) [
 fn3 "execute bm angleLimit dissolveBoundries" fun _ bm limit boundries => do
  affect "dissolve_limit" [bm]
   [("verts", <- bm "verts"), ("edges", <- bm "edges"), ("angle_limit", <- radians limit),
   ("use_dissolve_boundaries", boundries)]
  pure bm],
.called "BMeshTriangulate" <|
 .of "Triangulate BMesh" [choice "quad" "BEAUTY" reruns, choice "ngon" "BEAUTY" reruns] (do
 takes "BMesh" ("BMesh", "bm") [modified]
 gives "BMesh" ("BMesh", "bm")
 gives "Integer List" ("Source Ngon Indices", "ngonIndices") [hide]) [
 drawsMore fun n l => ["quad", "ngon"].forM (l.prop n ·),
 writes fun _ req => do
  emit "faces = bm.faces"
  if <- has req "ngonIndices" then
   emits #["ngonIndices = list(range(len(faces)))", "for face in faces:", "    indf = face.index",
    "    lenf = len(face.verts) - 3", "    if lenf > 0: ngonIndices.extend(indf for i in range(lenf))"]
  if <- has req "bm" then
   emits #["bmesh.ops.triangulate(bm, faces = faces,", "    quad_method = self.quad, ngon_method = self.ngon)"],
 usesModules ["bmesh"]],
.found (tagsFor "conversionType" [("Point/Normal to Matrix", "POINT_NORMAL_TO_MATRIX"),
 ("Matrix to Point/Normal", "MATRIX_TO_POINT_NORMAL")]) <| .hiddenLabel <|
 .of "Convert Plane Type" [menu "conversionType" "MATRIX_TO_POINT_NORMAL"] (fun n => do
 if (<- n "conversionType").is "POINT_NORMAL_TO_MATRIX" then
  n.takes "Vector" ("Point in Plane", "planePoint")
  n.takes "Vector" "Plane Normal" [val (<- list [0, 0, 1])]
  n.gives "Matrix"
 if (<- n "conversionType").is "MATRIX_TO_POINT_NORMAL" then
  n.takes "Matrix"
  n.givesEach "Vector" [("Point in Plane", "planePoint"), "Plane Normal"]) [
 shows "conversionType" bare,
 labels fun n => do
  n.lineBy "conversionType" [("POINT_NORMAL_TO_MATRIX", "Point/Normal to Matrix"),
   ("MATRIX_TO_POINT_NORMAL", "Matrix to Point/Normal")],
 writes fun n req => do
  if (<- n "conversionType").is "POINT_NORMAL_TO_MATRIX" then
   emits #["if planeNormal.length_squared == 0: planeNormal = Vector((0, 0, 1))",
    "matrix = Matrix.Translation(planePoint) @ planeNormal.to_track_quat('Z', 'Y').to_matrix().to_4x4()"]
  if (<- n "conversionType").is "MATRIX_TO_POINT_NORMAL" then
   emitWanted req [("planePoint", "matrix.to_translation()"),
    ("planeNormal", "matrix.to_3x3() @ Vector((0, 0, 1))")]],
.of "Point in Camera Frustrum" [] (do
 takes "Object" "Camera" [unnamed]
 takes "Vector" "Point" [val zero3]
 float "Threshold" [val 0.0]
 takes "Scene" "Scene" [hide]
 givesEach "Float" [("Image u", "u"), ("Image v", "v"), ("Z depth", "z")]
 gives "Boolean" "Visible") [
 fn4 "execute camera point threshold scene" fun _ camera p limit sc => do
  if <- notEqual (<- camera.attrD "type" "") "CAMERA" then return .tuple [0, 0, 0, false]
  let cam <- evaluated camera
  let co <- kernel "world_to_camera_view" [sc, cam, p]
  let start <- cam.at "data.clip_start"
  let clipEnd <- cam.at "data.clip_end"
  let limit <- minOf 0.5 limit
  let (u, v, z) <- unpack3 (<- co "xyz")
  let isInside (x : Value) : Ask := (do less (<- add 0.0 limit) x) <&&> (do less x (<- sub 1.0 limit))
  tuple [u, v, z, <- isInside u <&&> isInside v <&&> less start z <&&> less z clipEnd]],
.telling <| .found [("Points Normal", []), ("Calculate Normal", [])] <| .of "Point List Normal" [] (do
 takes "Vector List" ("Point List", "points")
 gives "Vector" "Normal"
 gives "Boolean" "Is Valid") [
 runsLines #["if len(points) >= 3:", "    normal = mathutils.geometry.normal(points)", "else:",
  "    normal = Vector((0, 0, 0))", "    self.setErrorMessage('Expected min 3 different vectors')",
  "isValid = normal[:] != (0, 0, 0)"],
 usesModules ["mathutils"]]] ++ shapeWorks.map (·.kind)

/-- A falloff that follows the transforms of one object, or is mixed from those of several. -/
def controlled (shape : String) (opts : List Parameter) (fo : NodeId -> Value -> Values -> Eval) :
  Members :=
 let own := s!"get{shape}Falloff"
 let ps := opts.append ["interpolation", "invert"]
 [method ⟨s!"execute_{shape}_List", "objects" :: ps⟩ fun n b => do
  let (set, finish) := b.toList.tail.splitAt opts.length
  let fos <- list []
  for o in <- iter (b 0) do if o.isSome then fos.tell "append" [<- n.call own (o :: set)]
  if <- isEmpty fos then kernel "ConstantFalloff" [0]
  else n.call "applyMixInterpolationAndInvert" (fos :: finish),
 method ⟨s!"execute_{shape}", "object" :: ps⟩ fun n b => do
  let (set, finish) := b.toList.splitAt (opts.length + 1)
  n.call "applyInterpolationAndInvert" ((<- n.call own set) :: finish),
 method ⟨own, "object" :: opts⟩ fun n b => do
  if (b 0).isNone then kernel "ConstantFalloff" [0]
  else fo n (<- (<- evaluated (b 0)) "matrix_world") b.toList.tail]

def shapedFalloffs : Members :=
 controlled "Sphere" ["offset", "falloffWidth"] (fun _ m set => do
  let [offset, falloffWidth] := set | fail .type
  let center <- m.call "to_translation"
  let size <- add (<- absolute (<- (<- m.call "to_scale") "x")) offset
  kernel "PointDistanceFalloff" [center, <- sub size 1, falloffWidth]) ++
 controlled "Directional" [] (fun n m _ => do
  let loc <- m.call "to_translation"
  let size <- maxOf (<- (<- m.call "to_scale") "x") 0.0001
  let dir <- kernel "eulerToDirection" [<- m.call "to_euler", <- n "axisDirection"]
  kernel "UniDirectionalFalloff" [loc, dir, size]) ++
 controlled "Radial" ["phase"] (fun n m set => do
  let o <- m.call "to_translation"
  kernel "RadialFalloff" (o :: (<- kernel "eulerToDirection" [<- m.call "to_euler", <- n "axisDirection"]) :: set))

def shapedRun (ending : String) : Plan := .byItem "falloffType"
 (["Sphere", "Directional", "Radial"].map fun s => (s.toUpper, .run s!"execute_{s}{ending}"))

def invertedIf (invert fo : Value) : Eval := do if <- truthy invert then invertedFalloff fo else pure fo

def NodeId.givesHit (lists : Texts) (n : NodeId) : Act := do
 n.givesMany "Vector" lists "Location"
 n.givesMany "Vector" lists "Normal"
 n.givesMany "Float" lists "Distance"
 n.givesMany "Integer" lists (named "Polygon Index" [hide]) (named "Polygon Indices" [hide])
 n.givesMany "Boolean" lists "Hit"

def spatialNodes : List NodeKind := [
.of "Construct BVHTree" [menu "sourceType" "MESH_DATA"] (do
 match <- word "sourceType" with
 | "MESH_DATA" => takes "Mesh"
 | "BMESH" => takes "BMesh" ("BMesh", "bm")
 | "OBJECT" => takesObject
 | _ => pure ()
 float "Epsilon" [hide, atLeast 0]
 gives "BVHTree" ("BVHTree", "bvhTree")) [
 shows "sourceType" "Source",
 runsBy (.byItem "sourceType" [("MESH_DATA", "execute_Mesh"), ("BMESH", "execute_BMesh"), ("OBJECT",
   "execute_Object")]),
 fn2 "execute_Mesh mesh epsilon" fun n mesh epsilon => do
  if <- isEmpty (<- mesh "polygons") then return <- n.call "getFallbackBVHTree"
  kernel "BVHTree.FromPolygons" [<- mesh "vertices", <- mesh "polygons"] [("epsilon", <- maxOf epsilon 0)],
 fn2 "execute_BMesh bm epsilon" fun _ bm epsilon => do
  kernel "BVHTree.FromBMesh" [bm] [("epsilon", <- maxOf epsilon 0)],
 fn2 "execute_Object object epsilon" fun n o epsilon => do
  if <- pure o.isNone <||> (do notEqual (<- o "type") "MESH") then return <- n.call "getFallbackBVHTree"
  let object <- evaluated o
  let mesh <- object "data"
  let ps <- mesh.use "an.getPolygonIndices"
  if <- isEmpty ps then return <- n.call "getFallbackBVHTree"
  let vs <- mesh.use "an.getVertices"
  vs.tell "transform" [<- object "matrix_world"]
  kernel "BVHTree.FromPolygons" [vs, ps] [("epsilon", <- maxOf epsilon 0)],
 fn0 "getFallbackBVHTree" fun n => do (<- n.output 0).call "getDefaultValue"],
.lifted "Find Nearest Surface Point" [flag "useVectorList"] (do
 takes "BVHTree" ("BVHTree", "bvhTree") [unnamed]
 takesSome "Vector"
 float "Max Distance" [atLeast 0, val 1000000.0, hide]
 NodeId.givesHit ["useVectorList"]) [
 runsLines #["location, normal, polygonIndex, distance = bvhTree.find_nearest(vector, maxDistance)",
  "if location is None:", "    location = Vector((0, 0, 0))", "    normal = Vector((0, 0, 0))",
  "    polygonIndex = -1", "    distance = 0", "    hit = False", "else: hit = True"]],
.called "IsInsideVolumeBVHTree" <| .lifted "Is Inside Volume" [flag "useVectorList"] (do
 takes "BVHTree" ("BVHTree", "bvhTree") [unnamed]
 takesSome "Vector" (named "Vector" [unnamed]) (named "Vectors" [unnamed])
 givesMany "Boolean" ["useVectorList"] "Is Inside" "Are Inside") [
 runs "isInside = AN.utils.bvh.isInsideVolume(bvhTree, vector)"],
.lifted "Ray Cast BVHTree" (listFlags ["Start", "Direction"] ++ [flag "startInInfinity" false rebuilds])
  (do
 takes "BVHTree" ("BVHTree", "bvhTree") [unnamed]
 takesMany "Vector" ["useStartList"] ("Ray Start", "start")
 takesMany "Vector" ["useDirectionList"] (named ("Ray Direction", "direction") [val (.tuple [0, 0, -1])])
   ("Ray Directions", "directions") [] true "(0, 0, -1)"
 float "Min Distance" [val 0.001, hide]
 float "Max Distance" [val 1000000.0, hide]
 NodeId.givesHit ["useStartList", "useDirectionList"]) [
 shows "startInInfinity",
 writes fun n _ => do
  emit "_direction = direction.normalized()"
  let start := if <- n.is "startInInfinity" then "InInfinity" else "AtLocation"
  emits (<- linesOf (<- n.call s!"iterStart{start}Code")),
 code0 "iterStartAtLocationCode" fun _ =>
  return #["location, normal, polygonIndex, distance = bvhTree.ray_cast(start + _direction * minDistance, _direction, maxDistance - minDistance)",
   "if location is None:", "    location = Vector((0, 0, 0))", "    polygonIndex = -1",
   "    normal = Vector((0, 0, 0))", "    distance = 0", "    hit = False", "else:", "    hit = True",
   "    distance += minDistance"],
 code0 "iterStartInInfinityCode" fun _ =>
  return #["_start = start - _direction * 100000", "distance = 0",
   "location, normal, polygonIndex, _ = bvhTree.ray_cast(_start, _direction)",
   "if location is None:", "    location = Vector((0, 0, 0))", "    polygonIndex = -1",
   "    normal = Vector((0, 0, 0))", "    hit = False", "else:", "    hit = True"]],
.of "Construct KDTree" [] (do
 takes "Vector List"
 gives "KDTree" ("KDTree", "kdTree")) [
 runsLines #["kdTree = mathutils.kdtree.KDTree(len(vectorList))",
  "for i, vector in enumerate(vectorList): kdTree.insert(vector, i)", "kdTree.balance()"],
 usesModules ["mathutils"]],
.called "FindNearestNPointsInKDTree" <| .of "Find Nearest Points" [] (do
 takes "KDTree" ("KDTree", "kdTree")
 int "Amount" (dial 5)
 takes "Vector" ("Vector", "searchVector") [unnamed]
 gives "Vector List" ("Vectors", "nearestVectors")
 gives "Float List" "Distances"
 gives "Integer List" "Indices") [
 runsLines #["_amount = max(amount, 0)", "nearestVectors = Vector3DList(capacity = _amount)",
  "distances = DoubleList(capacity = _amount)", "indices = LongList(capacity = _amount)",
  "for vector, index, distance in kdTree.find_n(searchVector, _amount):", "    nearestVectors.append(vector)",
  "    indices.append(index)", "    distances.append(distance)"]],
.called "FindNearestPointInKDTree" <| .lifted "Find Nearest Point" [flag "useVectorList"] (do
 takes "KDTree" ("KDTree", "kdTree")
 takesSome "Vector" (named ("Vector", "searchVector") [unnamed])
 givesSome "Vector" ("Vector", "nearestVector")
 givesMany "Float" ["useVectorList"] "Distance"
 givesMany "Integer" ["useVectorList"] "Index" "Indices") [
 runsLines #["nearestVector, index, distance = kdTree.find(searchVector)", "if nearestVector is None:",
  "    nearestVector, index, distance = Vector((0, 0, 0)), 0.0, -1"]],
.called "FindPointsInRadiusInKDTree" <| .of "Find Points in Radius" [] (do
 takes "KDTree" ("KDTree", "kdTree")
 float "Radius" (dial 5)
 takes "Vector" ("Vector", "searchVector") [unnamed]
 gives "an_VectorListSocket" ("Vectors", "nearestVectors")
 gives "an_FloatListSocket" "Distances"
 gives "an_IntegerListSocket" "Indices") [
 runsLines #["nearestVectors = Vector3DList()", "distances = DoubleList()", "indices = LongList()",
  "for vector, index, distance in kdTree.find_range(searchVector, max(radius, 0)):",
  "    nearestVectors.append(vector)", "    indices.append(index)", "    distances.append(distance)"]],
.of "Invert Falloff" [] (do
 takes "Falloff" ("Falloff", "inFalloff")
 gives "Falloff" ("Falloff", "outFalloff")) [fn1 "execute falloff" fun _ fo => invertedFalloff fo],
.of "Object Controller Falloff" [menu "falloffType" "SPHERE", choice "axisDirection" "Z" reruns,
 choice "mixListType" "MAX" reruns, flag "useObjectList"] (fun n => do
 n.takesObjects [] false
 if (<- n "falloffType").is "SPHERE" then
  n.float "Offset" [val 0]
  n.float "Falloff Width" [val 1.0]
 if (<- n "falloffType").is "RADIAL" then n.float "Phase"
 n.takes "Interpolation" "Interpolation" [unnamed]
 n.bool "Invert" [val false]
 n.gives "Falloff") (shapedFalloffs.append [
 drawsColumn fun n col => do
  col.prop n "falloffType" bare
  if (<- n "falloffType").isOneOf ["DIRECTIONAL", "RADIAL"] then
   (<- col.row).prop n "axisDirection" [("expand", true)]
  if <- n.is "useObjectList" then col.prop n "mixListType" bare,
 offersTrigger, runsBy (.ifSet "useObjectList" (shapedRun "_List") (shapedRun "")),
 fn3 "applyMixInterpolationAndInvert falloffs interpolation invert" fun n fos interp invert => do
  match <- n.word "mixListType" with
  | "MAX" => n.call "applyInterpolationAndInvert" [<- kernel "MixFalloffs" [fos, "MAX"], interp, invert]
  | "ADD" =>
   let bent <- mapList fos (kernel "InterpolateFalloff" [·, interp])
   invertedIf invert (<- kernel "MixFalloffs" [bent, "ADD"])
  | _ => pure .none,
 fn3 "applyInterpolationAndInvert falloff interpolation invert" fun _ fo interp invert => do
  invertedIf invert (<- kernel "InterpolateFalloff" [fo, interp]),
 act0 "createAutoExecutionTrigger" fun n => do
  if <- (n.is "useObjectList") <||> (return (<- (<- n.inputNamed "Object") "object").isNone) then return
  let shape <- n "falloffType"
  let turned := if shape.isOneOf ["DIRECTIONAL", "RADIAL"] then "rotation_euler," else ""
  n.watch ((if shape.isOneOf ["DIRECTIONAL", "SPHERE"] then "scale," else "") ++ turned ++ "location" : String)])]

end AnimationGraph
