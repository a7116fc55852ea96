import AnimationGraph.Node.Vocabulary

/-! # Nodes for vectors and rotations

Nodes that compute noise share the choice of the noise and the inputs that it asks for. Euler angles and quaternions are
combined, converted into each other, mixed and made up at random.
-/

namespace AnimationGraph

structure NoiseInput where
 dataType : String
 socket : SocketNames
 settings : Fields := []

def noiseInputs (type r : String) : List NoiseInput :=
 [⟨"Integer", "Seed", []⟩, ⟨"Float", "Amplitude", [val 1]⟩]
  ++ (if type == "WHITE_NOISE" then [] else
   [⟨"Float", "Frequency", [val 0.1]⟩,
   ⟨"Vector", "Axis Scale", [val one3, hide]⟩, ⟨"Vector", "Offset", []⟩])
  ++ (if ["WHITE_NOISE", "CELLULAR"].contains type then [] else
   [⟨"Integer", "Octaves", (dial 3 1 10)⟩])
  ++ (if type == "CELLULAR" then
    ⟨"Float", "Jitter", [val 0.45]⟩ ::
     (if r == "NOISE_LOOKUP" then [⟨"Float", "Lookup Frequency", [val 0.2]⟩]
     else [])
   else [])

def noiseDefaults : Fields := [
 ("seed", 0), ("amplitude", 1), ("frequency", 0.1), ("axisScale", one3),
 ("offset", zero3), ("octaves", 3), ("jitter", 0.45), ("lookupFrequency", 0.2)]

def noiseInputsOf (n : NodeId) : Run (List NoiseInput) := do
 return noiseInputs (<- n.word "noiseType") (<- n.word "cellularReturnType")

def noiseSettingProperties : List Property :=
 [("noiseType", "SIMPLEX"), ("perturbType", "NONE"), ("fractalType", "FBM"), ("cellularReturnType", "CELL_VALUE"),
  ("cellularLookupType", "SIMPLEX"), ("cellularDistanceFunction", "EUCLIDEAN")].map fun (name, first) =>
   choice name first (calling "noiseSettingChanged")

def noiseOf (n : NodeId) (args : Values) : Eval := do
 let noise <- kernel "PyNoise"
 for prop in ["noiseType", "fractalType", "perturbType", "cellularReturnType", "cellularLookupType",
   "cellularDistanceFunction"] do
  noise.tell ("set" ++ prop.capitalize.replace "Lookup" "NoiseLookup") [<- n.attr prop]
 let given := (args.zip (<- noiseInputsOf n)).map fun (v, input) => (input.socket.identifier, v)
 let value (name : String) : Value := (Fields.get? (given.reverse ++ noiseDefaults) name).getD .none
 for (m, name) in [("Seed", "seed"), ("Frequency", "frequency"), ("AxisScales", "axisScale"), ("Amplitude", "amplitude"),
   ("Offset", "offset")] do
  noise.tell s!"set{m}" [value name]
 noise.tell "setOctaves" [<- minOf (<- maxOf (value "octaves") 1) 10]
 noise.tell "setCellularJitter" [value "jitter"]
 noise.tell "setCellularNoiseLookupFrequency" [value "lookupFrequency"]
 pure noise

def noiseSettingMembers : Members := [
 act1 "noiseSettingChanged context" fun n _ => n.refresh,
 drawing "drawNoiseSettings" fun n l => do
  l.prop n "noiseType" bare
  if (<- n "noiseType").is "CELLULAR" then
   let col <- l.column
   col.prop n "cellularReturnType" bare
   if (<- n "cellularReturnType").is "NOISE_LOOKUP" then col.prop n "cellularLookupType" bare,
 drawing "drawAdvancedNoiseSettings" fun n l => do
  l.prop n "fractalType"
  l.prop n "perturbType"
  let col <- l.column
  let cellular := (<- n "noiseType").is "CELLULAR"
  col.set "active" (cellular && ((<- n.word "cellularReturnType").splitOn "DISTANCE").length > 1)
  col.prop n "cellularDistanceFunction" "Distance",
 act0 "createNoiseInputs" fun n => do
  for input in <- noiseInputsOf n do n.takes input.dataType input.socket input.settings,
 ("calculateNoise", .free fun n args => do
  match args.pos with
  | vs :: opts => (<- noiseOf n opts).call "calculateList" [vs]
  | [] => fail .type),
 fn1 "getNoiseObject args" fun n args => do noiseOf n (<- iter args),
 fn0 "getNoiseTypeTuple" fun n => do
  tuple [<- n "noiseType", <- n "perturbType", <- n "fractalType",
   <- n "cellularReturnType", <- n "cellularLookupType"]]

/-- Edges between points and the points that are found near them. -/
def edgesBetween (ps : Value) (near : Value -> Eval) : Eval := do
 let es <- kernel "EdgeIndicesList"
 let edgeSet <- newSet []
 for (point, i) in (<- iter ps).zipIdx do
  for p in <- iter (<- near point) do
   let (_, index, _) <- unpack3 p
   if <- equal index i then continue
   let edge : Value := if <- less index i then .tuple [index, i] else .tuple [i, index]
   unless <- has edgeSet edge do
    edgeSet.tell "add" [edge]
    es.tell "append" [edge]
 pure es

def vectorNodes : List NodeKind := [
.hiddenLabel <| .of "Combine Vector" (axisFlags.map (flag ·)) (do
 takesAxes
 givesMany "Vector" axisFlags) [
 labels fun n => do
  let mut label := "<X, Y, Z>"
  for s in <- n.inputs do
   let axis <- s.name
   if !(<- truthy (<- n.attr s!"useList{axis}")) && !(<- holds s "isLinked") then
    label := label.replace axis (<- text (<- rounded (<- s "value") 4))
  pure label,
 runsEither "generatesList" #["vectors = self.createVectorList(x, y, z)"] #["vector = Vector((x, y, z))"],
 combinesNumbers "createVectorList x y z" "combineVectorList",
 prop "generatesList" fun n => n.isAny axisFlags],
.of "Find Close Points" [menu "mode" "AMOUNT"] (do
 takes "Vector List" "Points"
 match <- word "mode" with
 | "AMOUNT" => int "Amount" (dial 3)
 | "DISTANCE" => float "Max Distance" (dial 0.3)
 | _ => pure ()
 gives "Edge Indices List" "Edges"
 gives "Float List" "Distances") [
 shows "mode",
 writes fun n _ => do
  n.emitBy "mode" [("AMOUNT", "edges = self.execute_Amount(points, amount)"),
   ("DISTANCE", "edges = self.execute_Distance(points, maxDistance)")]
  if <- holds (<- n.outputNamed "Distances") "isLinked" then
   emit "distances = self.calculateEdgeLengths(points, edges)",
 fn2 "execute_Amount points amount" fun n ps amount => do
  let kdTree <- n.call "buildKDTree" [ps]
  let amount <- maxOf 0 amount
  edgesBetween ps fun p => do kdTree.call "find_n" [p, <- add amount 1],
 fn2 "execute_Distance points maxDistance" fun n ps dist => do
  let kdTree <- n.call "buildKDTree" [ps]
  edgesBetween ps (kdTree.call "find_range" [·, <- maxOf 0 dist]),
 fn1 "buildKDTree points" fun _ ps => do
  let kdTree <- kernel "KDTree" [<- length ps]
  for (v, i) in (<- iter ps).zipIdx do kdTree.tell "insert" [v, i]
  kdTree.tell "balance"
  pure kdTree,
 delegates "calculateEdgeLengths points edges" "calculateEdgeLengths"],
.of "Random Vector" (seedProperties ++ [toggle "normalizedVector"]) (do
 takesSeed
 float "Scale" [val 2.0]
 givesSeeded "Vector" ("Vector", "randomVector") ("Vectors", "randomVectors")) (withSeed [showsSeed,
 showsMore "normalizedVector",
 writes fun n _ => do
  if <- n.is "createList" then emit "randomVectors = self.calcRandomVectors(seed, count, scale)"
  else
   emit "_seed = seed + 25642 * self.nodeSeed"
   if <- n.is "normalizedVector" then
    emit "randomVector = algorithms.random.getRandomNormalized3DVector(_seed, scale)"
   else emit "randomVector = algorithms.random.getRandom3DVector(_seed, scale)",
 fn3 "calcRandomVectors seed count scale" fun n seed k scale => do
  kernel "generateRandomVectors"
    [<- add seed (<- mul (<- n "nodeSeed") 234144), k, scale, <- n "normalizedVector"]]),
.of "Separate Vector" [flag "useList"] (do
 takesAny "Vector"
 givesAxes "XYZ") [
 writesAxes "xyz" "vector",
 delegates "getAxisList vectors axis" "getAxisListOfVectorList"],
.of "Transform Vector" (listFlags ["Vector", "Matrix"]) (do
 takesSome "Vector"
 takesSome "Matrix" "Matrix" "Matrices"
 givesMany "Vector" ["useVectorList", "useMatrixList"] ("Vector", "transformedVector")) [
 transformsEach ("useVectorList", "vector", "vectors", "Vector3DList", "(0,0,0)")
  ("useMatrixList", "matrix", "matrices") ("transformedVector", "transformedVectors")
  "AN.nodes.vector.c_utils.transformVirtualVectorList"],
.lifted "Vector Angle" (pairFlags.map (flag ·)) (do
 takesMany "Vector" ["useListA"] (named "A" [val (.tuple [1, 0, 0])]) "A"
 takesMany "Vector" ["useListB"] (named "B" [val (.tuple [0, 0, 1])]) "B"
 givesMany "Float" pairFlags "Angle"
 givesMany "Quaternion" pairFlags "Rotation Difference") [
 writes fun _ req => emitWanted req [("angle", "a.angle(b, 0.0)"), ("rotationDifference", "a.rotation_difference(b)")]],
.of "Vector Distance" (pairFlags.map (flag ·)) (do
 takesMany "Vector" ["useListA"] "A" "A"
 takesMany "Vector" ["useListB"] "B" "B"
 givesMany "Float" pairFlags "Distance") [
 runsCode fun n => do
  list [if <- n.isAny pairFlags then "distances = self.calcDistances(a, b)" else "distance = (a - b).length"],
 fn2 "calcDistances a b" fun _ a b => do
  let a <- endless "Vector3D" a zero3
  let b <- endless "Vector3D" b zero3
  kernel "calculateVectorDistancesVirtual" [<- longest "Vector3D" [a, b], a, b]],
.of "Vector Dot Product" (pairFlags.map (flag ·)) (do
 takesMany "Vector" ["useListA"] "A" "A"
 takesMany "Vector" ["useListB"] "B" "B"
 givesMany "Float" pairFlags "Dot Product" ("Dot Product", "dotProducts")) [
 code fun n _ => do
  if <- n.isAny pairFlags then
   return #["_vA, _vB = VirtualVector3DList.createMultiple((a, (0,0,0)), (b, (0,0,0)))",
    "amount = VirtualVector3DList.getMaxRealLength(_vA, _vB)",
    "dotProducts = AN.nodes.vector.c_utils.calculateVectorDotProducts(amount, _vA, _vB)"]
  else return #["dotProduct = a.dot(b)"]],
.of "Vector from Value" [flag "useList"] (do
 takesAny "Float" "Value"
 givesAny "Vector") [
 runsEither "useList" #["vectors = self.vectorsFromValues(values)"] #["vector = Vector((value, value, value))"],
 delegates "vectorsFromValues values" "vectorsFromValues"],
.of "Vector Length" [flag "useList"] (do
 takesAny "Vector"
 givesAny "Float" "Length" ("Lenghts", "lengths")) [
 runsEither "useList" #["lengths = self.calcLengths(vectors)"] #["length = vector.length"],
 delegates "calcLengths vectors" "calculateVectorLengths"],
.of "Vector List Math" [choice "operation" "ADD" rebuilds] (do
 takes "Vector List" ("Vector List", "vectors")
 gives "Vector" "Result") [
 shows "operation" bare,
 writes fun n _ => n.emitBy "operation" [("ADD", "result = vectors.getSumOfElements()"),
  ("AVERAGE", "result = vectors.getAverageOfElements()")]],
.of "Vector Noise" noiseSettingProperties (fun n => do
 n.takes "Vector List" "Vectors"
 n.tell "createNoiseInputs"
 n.gives "Float List" "Value") (.append [
 draws fun n l => n.tell "drawNoiseSettings" [l],
 drawsMore fun n l => n.tell "drawAdvancedNoiseSettings" [l],
 rest1 "execute" fun n vs opts => do
  kernel "DoubleList.fromValues" [<- n.call "calculateNoise" (vs :: opts)]] noiseSettingMembers),
 wiggleNode "Vector" "Vector" "Vector" (list [5, 5, 5]) ("Vector(" ++ · ++ ")") "Integer"]

def rotationConversions : Pairs := [
 ("QUATERNION_TO_EULER", "Quaternion to Euler"), ("EULER_TO_QUATERNION", "Euler to Quaternion"),
 ("QUATERNION_TO_MATRIX", "Quaternion to Matrix"), ("MATRIX_TO_QUATERNION", "Matrix to Quaternion"),
 ("EULER_TO_MATRIX", "Euler to Matrix"), ("MATRIX_TO_EULER", "Matrix to Euler"),
 ("QUATERNION_TO_AXIS_ANGLE", "Quaternion to Axis Angle"), ("AXIS_ANGLE_TO_QUATERNION", "Axis Angle to Quaternion")]

/-- The sockets of a form of rotations: their types and names, for one rotation and for a list. -/
def rotationSockets : String -> List (String × String × String)
 | "QUATERNION" => [("Quaternion", "Quaternion", "Quaternions")]
 | "EULER" => [("Euler", "Euler", "Eulers")]
 | "MATRIX" => [("Matrix", "Matrix", "Matrices")]
 | _ => [("Vector", "Axis", "Axises"), ("Float", "Angle", "Angles")]

def divisions (k : Nat) : Array String := (Array.range k).map fun i => s!"if b[{i}] != 0: result[{i}] = a[{i}] / b[{i}]"

def snaps (ps : Array String) : Array String := ps.mapIdx fun i part =>
 s!"if stepSize{part} != 0: result[{i}] = round(a[{i}] / stepSize[{i}]) * stepSize[{i}]"

def rotationNodes : List NodeKind := [
.of "Combine Euler" (flag "useDegree" false rebuilds :: axisFlags.map (flag ·)) (do
 takesAxes
 givesMany "Euler" axisFlags) [
 shows "useDegree",
 code fun n _ => do
  if <- n.is "generatesList" then return #["eulers = self.createEulerList(x, y, z)"]
  return #[<- text (<- n.call "getExecutionCode_Single")],
 fn0 "getExecutionCode_Single" fun n => do
  if <- n.is "useDegree" then
   let radian := "math.pi / 180"
   return s!"euler = Euler((x * {radian}, y * {radian}, z * {radian}), 'XYZ')"
  else pure "euler = Euler((x, y, z), 'XYZ')",
 combinesNumbers "createEulerList x y z" "combineEulerList" fun n => return [<- n "useDegree"],
 usesModules ["math"],
 prop "generatesList" fun n => n.isAny axisFlags],
.of "Combine Quaternion" (("useListW" :: axisFlags).map (flag ·)) (do
 takesMany "Float" ["useListW"] (named "W" [val 1]) "W"
 takesAxes
 givesMany "Quaternion" ("useListW" :: axisFlags)) [
 runsEither "generatesList"
  #["quaternions = self.createQuaternionList(w, x, y, z)"]
  #["quaternion = Quaternion((w, x, y, z)).normalized()"],
 combinesNumbers "createQuaternionList w x y z" "combineQuaternionList",
 prop "generatesList" fun n => n.isAny ("useListW" :: axisFlags)],
.variants "conversionType" [("Vector to Euler", "VECTOR_TO_EULER"), ("Euler to Vector", "EULER_TO_VECTOR")] <|
 .of "Convert Vector and Euler"
  [flag "useDegree" false rebuilds, menu "conversionType" "EULER_TO_VECTOR", flag "useList"] (fun n => do
 let sockets (src dst : String) : Act := do
  n.takesMany src ["useList"]
  n.givesMany dst ["useList"]
 match <- n.word "conversionType" with
 | "VECTOR_TO_EULER" => sockets "Vector" "Euler"
 | "EULER_TO_VECTOR" => sockets "Euler" "Vector"
 | _ => pure ()
 (<- n.input 0).set "defaultDrawType" "PROPERTY_ONLY") [
 draws fun n l => do
  l.prop n "conversionType" bare
  l.prop n "useDegree",
 labels (·.lineBy "conversionType" [("VECTOR_TO_EULER", "Vector to Euler"), ("EULER_TO_VECTOR", "Euler to Vector")]),
 runsCode fun n => do
  match <- n.word "conversionType", <- n.is "useList", <- n.is "useDegree" with
  | "VECTOR_TO_EULER", true, _ => pure "eulers = self.vectorsToEulers(vectors)"
  | "EULER_TO_VECTOR", true, _ => pure "vectors = self.eulersToVectors(eulers)"
  | "VECTOR_TO_EULER", _, degree => return "euler = Euler(vector" ++ (if degree then " / 180 * math.pi" else "") ++ ", 'XYZ')"
  | "EULER_TO_VECTOR", _, degree => return "vector = Vector(euler)" ++ if degree then " * 180 / math.pi" else ""
  | _, _, _ => pure .none,
 fn1 "vectorsToEulers vectors" fun n vs => do kernel "vectorsToEulers" [vs, <- n "useDegree"],
 fn1 "eulersToVectors eulers" fun n eulers => do kernel "eulersToVectors" [eulers, <- n "useDegree"],
 usesModules ["math"]],
.variants "conversionType" (rotationConversions.map .swap) <| .of "Convert Rotations"
  [menu "conversionType" "QUATERNION_TO_EULER", flag "useDegree" false rebuilds, flag "useList"] (fun n => do
 let type <- n.word "conversionType"
 if (rotationConversions.lookup type).isSome then
  if let [source, target] := type.splitOn "_TO_" then
   for (type, one, many) in rotationSockets source do n.takesMany type ["useList"] one many
   for (type, one, many) in rotationSockets target do n.givesMany type ["useList"] one many
 (<- n.input 0).set "defaultDrawType" "PREFER_PROPERTY") [
 draws fun n l => do
  l.prop n "conversionType" bare
  if <- has (<- n "conversionType") "ANGLE" then l.prop n "useDegree",
 labels fun n => return (label? rotationConversions (<- n "conversionType")).getD .none,
 runsCode fun n => do
  let either (many one : String) : Eval := return if <- n.is "useList" then many else one
  let utils := "AN.nodes.rotation.c_utils."
  match <- n.word "conversionType", <- n.is "useDegree" with
  | "QUATERNION_TO_EULER", _ =>
   either s!"eulers = {utils}quaternionListToEulerList(quaternions)" "euler = quaternion.to_euler('XYZ')"
  | "EULER_TO_QUATERNION", _ =>
   either s!"quaternions = {utils}eulerListToQuaternionList(eulers)" "quaternion = euler.to_quaternion()"
  | "QUATERNION_TO_MATRIX", _ =>
   either s!"matrices = {utils}quaternionListToMatrixList(quaternions)"
    "matrix = quaternion.normalized().to_matrix().to_4x4()"
  | "MATRIX_TO_QUATERNION", _ =>
   either "quaternions = Matrix4x4List.toQuaternions(matrices)" "quaternion = matrix.to_quaternion()"
  | "EULER_TO_MATRIX", _ =>
   either "matrices = AN.nodes.matrix.c_utils.createRotationsFromEulers(eulers)" "matrix = euler.to_matrix().to_4x4()"
  | "MATRIX_TO_EULER", _ => either "eulers = Matrix4x4List.toEulers(matrices)" "euler = matrix.to_euler('XYZ')"
  | "QUATERNION_TO_AXIS_ANGLE", degree =>
   either ("axises, angles = " ++ utils ++ "quaternionListToAxisListAngleList(quaternions, " ++
     (if degree then "True)" else "False)"))
    ("axis, angle = quaternion." ++ if degree then "axis, math.degrees(quaternion.angle)" else "to_axis_angle()")
  | "AXIS_ANGLE_TO_QUATERNION", degree =>
   either ("quaternions = " ++ utils ++ "axisListAngleListToQuaternionList(axises, angles, " ++
     (if degree then "True)" else "False)"))
    ("quaternion = Quaternion(axis, " ++ if degree then "math.radians(angle))" else "angle)")
  | _, _ => pure .none,
 usesModules ["math"]],
.of "Direction to Rotation"
  ([choice "trackAxis" "Z" reruns, choice "guideAxis" "X" reruns] ++ listFlags ["Direction", "Guide"]) (do
 takesSome "Vector" "Direction"
 takesSome "Vector" (named "Guide" [val (.tuple [0, 0, 1])])
 let properties := ["useDirectionList", "useGuideList"]
 givesMany "Euler" properties "Euler Rotation"
 givesMany "Quaternion" properties (named "Quaternion Rotation" [hide]) (named "Quaternion Rotations" [hide])
 givesMany "Matrix" properties "Matrix Rotation") [
 draws fun n l => do
  l.prop n "trackAxis" [("expand", true)]
  l.prop n "guideAxis" [("expand", true)]
  if <- equal (<- item (<- n "trackAxis") (sliceValue (-1) .none .none))
    (<- item (<- n "guideAxis") (sliceValue (-1) .none .none)) then
   l.sign "Must be different" "ERROR",
 writes fun n req => do
  let list <- eitherOf (<- n "useDirectionList") (<- n "useGuideList")
  if <- truthy list then
   emits #["_directions = " ++ (<- (<- n.input 0).identifier), "_guides = " ++ (<- (<- n.input 1).identifier),
    "matrixRotations = AN.algorithms.rotations.directionsToMatrices(_directions, _guides, self.trackAxis, self.guideAxis)"]
   if <- has req "eulerRotations" then emit "eulerRotations = matrixRotations.toEulers(isNormalized = True)"
   if <- has req "quaternionRotations" then
    emit "quaternionRotations = matrixRotations.toQuaternions(isNormalized = True)"
  else
   emit "matrixRotation = AN.algorithms.rotations.directionToMatrix(direction, guide, self.trackAxis, self.guideAxis)"
   emitWanted req [("eulerRotation", "matrixRotation.to_euler()"),
    ("quaternionRotation", "matrixRotation.to_quaternion()")]],
.hiddenLabel <| .lifted "Euler Math"
  [menu "operation" "ADD", flag "useListA", flag "useListEulerB", flag "useListVectorB",
  flag "useListScale", flag "useListStep"] (fun n => do
 n.takesMany "Euler" ["useListA"] "A" "A"
 let used : Texts <- match <- n.word "operation" with
  | "ADD" | "SUBTRACT" =>
   n.takesMany "Euler" ["useListEulerB"] "B" "B"
   pure ["useListEulerB"]
  | "MULTIPLY" | "DIVIDE" =>
   n.takesMany "Vector" ["useListVectorB"] (named "B" [val one3]) "B" [] true "(1, 1, 1)"
   pure ["useListVectorB"]
  | "SCALE" =>
   n.takesMany "Float" ["useListScale"] (named "Scale" [val 1])
   pure ["useListScale"]
  | "SNAP" =>
   let v <- radians 10
   n.takesMany "Euler" ["useListStep"] (named "Step Size" [val (.tuple [v, v, v])]) "Step Sizes" [] true
    "(0.17453292519943295, 0.17453292519943295, 0.17453292519943295)"
   pure ["useListStep"]
  | _ => pure []
 n.givesMany "Euler" ("useListA" :: used) "Result") [
 shows "operation" bare,
 labelsBy "operation" [("ADD", "A + B"), ("SUBTRACT", "A - B"), ("MULTIPLY", "A * B"), ("DIVIDE", "A / B"),
  ("SCALE", "A * scale"), ("ABSOLUTE", "abs A"), ("SNAP", "snap A")],
 writes fun n _ => do
  let each (part : Nat -> String) := emit s!"result = Euler(({part 0}, {part 1}, {part 2}), a.order)"
  match <- n.word "operation" with
  | "ADD" => each fun i => s!"a[{i}] + b[{i}]"
  | "SUBTRACT" => each fun i => s!"a[{i}] - b[{i}]"
  | "MULTIPLY" => each fun i => s!"a[{i}] * b[{i}]"
  | "DIVIDE" =>
   emit "result = Euler((0, 0, 0), a.order)"
   emits (divisions 3)
  | "SCALE" => each fun i => s!"a[{i}] * scale"
  | "ABSOLUTE" => each fun i => s!"abs(a[{i}])"
  | "SNAP" =>
   emit "result = a.copy()"
   emits (snaps #[".x", ".y", ".z"])
  | _ => pure ()],
.called "QuaternionListCombine" <| .of "Combine Quaternion Rotations" [] (do
 takes "Quaternion List" "Quaternions"
 gives "Quaternion" "Result") [
 fn1 "execute quaternions" fun _ quats => do (<- iter quats).reverse.foldlM matMul (<- newQuaternion [1, 0, 0, 0])],
.hiddenLabel <| .of "Quaternion Math" [menu "operation" "ADD"] (fun n => do
 n.takes "Quaternion" "A"
 if (<- n "operation").isOneOf
   ["ADD", "SUBTRACT", "COMBINE", "ROTATION_DIFFERENCE", "MULTIPLY", "DIVIDE", "CROSS"] then
  n.takes "Quaternion" "B"
 if (<- n "operation").isOneOf ["NORMALIZE", "SCALE"] then n.float "Scale" [val 1.0]
 if (<- n "operation").isOneOf ["SNAP"] then
  (<- n.newInput "Quaternion" "Step Size" "stepSize").set "value" (.tuple [0.1, 0.1, 0.1, 0.1])
 n.gives "Quaternion" "Result") [
 shows "operation" bare,
 labelsBy "operation" [("ADD", "A + B"), ("SUBTRACT", "A - B"), ("COMBINE", "Combine Rotations"),
  ("ROTATION_DIFFERENCE", "Rotation Difference"), ("MULTIPLY", "A * B"), ("DIVIDE", "A / B"),
  ("CROSS", "A cross B"), ("NORMALIZE", "A normalize"), ("SCALE", "A * scale"), ("ABSOLUTE", "abs A"),
  ("INVERT", "- A"), ("CONJUGATE", "- xyz (A)"), ("SNAP", "snap A")],
 runsCode (·.lineBy "operation" [("ADD", "result = a + b"), ("SUBTRACT", "result = a - b"),
  ("COMBINE", "result = a @ b"), ("ROTATION_DIFFERENCE", "result = a.rotation_difference(b)"),
  ("MULTIPLY", "result = Quaternion((A * B for A, B in zip(a, b)))"),
  ("DIVIDE", .tuple ("result = Quaternion((1, 0, 0, 0))" :: (divisions 4).toList.map .str)),
  ("CROSS", "result = a.cross(b)"), ("NORMALIZE", "result = a.normalized() * scale"),
  ("SCALE", "result = a * scale"), ("ABSOLUTE", "result = Quaternion((abs(A) for A in a))"),
  ("INVERT", "result = a.inverted()"), ("CONJUGATE", "result = a.conjugated()"),
  ("SNAP", .tuple ("result = a.copy()" :: (snaps #["[0]", "[1]", "[2]", "[3]"]).toList.map .str))])],
.of "Random Euler" (seedProperties) (do
 takesSeed
 float "Scale" [val 0.5]
 givesSeeded "Euler" ("Euler", "randomEuler") ("Eulers", "randomEulers")) [
 showsSeed, runsEither "createList"
  #["randomEulers = self.calcRandomEulers(seed, count, scale)"]
  #["randomEuler = Euler(algorithms.random.randomNumberTuple(seed + 45234 * self.nodeSeed, 3, scale))"],
 fn3 "calcRandomEulers seed count scale" fun n seed k scale => do
  kernel "generateRandomEulers" [<- add (<- mul (<- n "nodeSeed") 1234545) seed, k, scale],
 act1 "duplicate sourceNode" fun n _ => do n.set "nodeSeed" (<- randomSeed 100)],
.of "Random Quaternion" (seedProperties) (do
 takesSeed
 givesSeeded "Quaternion" ("Quaternion", "randomQuaternion") ("Quaternions", "randomQuaternions")) [
 showsSeed, runsSeeded "randomQuaternions = AN.nodes.rotation.c_utils.randomQuaternionList(_seed, count)"
  #["randomQuaternion = Quaternion(algorithms.random.randomNumberTuple(_seed, 4, math.pi))",
   "randomQuaternion.normalize()"],
 usesModules ["math"],
 act1 "duplicate sourceNode" fun n _ => do n.set "nodeSeed" (<- randomSeed 100),
 act0 "randomizeNodeSeed" fun n => do n.set "nodeSeed" (<- randomSeed 100)],
.of "Rotation to Direction" [flag "useRotationList", choice "directionAxis" "Z" reruns] (do
 takesSome "Euler" "Rotation"
 float "Length" [val 1]
 givesMany "Vector" ["useRotationList"] "Direction") [
 shows "directionAxis" [("expand", true)],
 runsEither "useRotationList" #[
   "directions = AN.algorithms.rotations.eulersToDirections(rotations, self.directionAxis)",
   "AN.math.scaleVector3DList(directions, length)"]
  #["direction = AN.algorithms.rotations.eulerToDirection(rotation, self.directionAxis)", "direction *= length"]],
.of "Separate Euler" [flag "useDegree" false rebuilds, flag "useList"] (do
 takesAny "Euler"
 givesAxes "XYZ") [
 shows "useDegree",
 writesAxes "xyz" "euler" fun n axis => do if <- n.is "useDegree" then emit s!"{axis} *= 180 / math.pi",
 fn2 "getAxisList eulers axis" fun n eulers axis => do
  kernel "getAxisListOfEulerList" [eulers, axis, <- n "useDegree"],
 usesModules ["math"]],
.of "Separate Quaternion" [flag "useList"] (do
 takesAny "Quaternion"
 givesAxes "WXYZ") [
 writesAxes "wxyz" "quaternion",
 delegates "getAxisList quaternions axis" "getAxisListOfQuaternionList"],
 wiggleNode "Euler" "Euler" "Euler" (do list [<- radians 30, <- radians 30, <- radians 30]) ("Euler(" ++ · ++ ")"),
 wiggleNode "Quaternion" "Quaternion" "Quaternion" (list [1, 0.3, 0.3, 0.3]) ("Quaternion((1, *" ++ · ++ "))")]

end AnimationGraph
