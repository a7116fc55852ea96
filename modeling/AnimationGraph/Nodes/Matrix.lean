import AnimationGraph.Node.Vocabulary

/-! # Nodes for matrices

Transformations as matrices: composed, decomposed, combined and offset.
-/

namespace AnimationGraph

def matrixParts : Texts := ["Translation", "Rotation", "Scale"]
def partFlags : Texts := matrixParts.map ("use" ++ · ++ "List")

def transformationProperties : List Property := [
 menu "transformationSource" "LOC_ROT_SCALE", choice "specifiedState" "START" reruns, toggle "useTranslation",
 toggle "useRotation", toggle "useScale"] ++ listFlags matrixParts ++ [choice "translationMode" "GLOBAL_AXIS" reruns, choice "rotationMode" "GLOBAL_AXIS__LOCAL_PIVOT" reruns,
 choice "scaleMode" "LOCAL_AXIS" reruns, menu "evaluationTimeMode" "FIXED"]

def NodeId.showTransformParts (n : NodeId) (row : LayoutId) : Act := do
 row.prop n "useTranslation" (badge "Loc" "EXPORT")
 row.prop n "useRotation" (badge "Rot" "FILE_REFRESH")
 row.prop n "useScale" (badge "Scale" "FULLSCREEN_ENTER")

def actingOnOne (mode argument : String) : Feature :=
 let name := "transform_Action_" ++ mode
 fn3 s!"{name}_Single matrix action {argument}" fun n m act v => do
  item (<- n.call s!"{name}_List" [<- kernel "Matrix4x4List.fromValue" [m], act, v]) 0

def transformationMembers : Members := [
 act1 "createMatrixTransformationInputs useMatrixList" fun n list => do
  match <- n.word "transformationSource" with
  | "LOC_ROT_SCALE" =>
   n.takes "Falloff"
   let many <- truthy list
   for (name, type, opts) in [("Translation", "Vector", []), ("Rotation", "Euler", []),
     ("Scale", "Vector", [val one3])] do
    if <- n.is ("use" ++ name) then if many then n.takesSome type (named name opts) else n.takes type name opts
  | "ACTION" =>
   n.takes "Action"
   match <- n.word "evaluationTimeMode" with
   | "FIXED" => n.float "Frame"
   | "FALLOFF" => n.takes "Falloff"
   | _ => pure ()
  | _ => pure (),
 drawing "draw_MatrixTransformationProperties" fun n l => do
  let col <- l.column
  col.prop n "transformationSource" bare
  match <- n.word "transformationSource" with
  | "LOC_ROT_SCALE" => n.showTransformParts (<- col.line)
  | "ACTION" => col.prop n "evaluationTimeMode" bare
  | _ => pure (),
 drawing "drawAdvanced_MatrixTransformationProperties" fun n l => do
  let col <- l.stack
  col.prop n "translationMode" "Translation"
  col.prop n "rotationMode" "Rotation"
  col.prop n "scaleMode" "Scale"
  if (<- n "scaleMode").isOneOf ["GLOBAL_AXIS", "INCLUDE_TRANSLATION"] then
   l.sign "May result in invalid object matrices" "INFO",
 fn1 "getMatrixTransformationFunctionName useMatrixList" fun n list => do
  let k := if <- truthy list then "List" else "Single"
  match <- n.word "transformationSource" with
  | "LOC_ROT_SCALE" => return "transform_LocRotScale_" ++ k
  | "ACTION" =>
   match <- n.word "evaluationTimeMode" with
   | "FIXED" => return "transform_Action_FixedFrame_" ++ k
   | "FALLOFF" => return "transform_Action_FalloffFrame_" ++ k
   | _ => pure .none
  | _ => pure .none,
 rest2 "transform_LocRotScale_Single" fun n m falloff args => do
  let inMatrices <- kernel "Matrix4x4List.fromValue" [m]
  item (<- n.call "transform_LocRotScale_List" ([inMatrices, falloff] ++ (<- iter (<- list args)))) 0,
 rest2 "transform_LocRotScale_List" fun n matrices falloff args => do
  let mut matrices := matrices
  let influences <- n.call "evaluateFalloff" [matrices, falloff]
  let mut index : Value := -1
  if <- n.is "useScale" then
   let scales <- endless "Vector3D" (<- item (<- list args) index) one3
   affect "scaleMatrixList" [matrices, <- n "scaleMode", scales, influences]
   index := <- sub index 1
  if <- n.is "useRotation" then
   let rots <- endless "Euler" (<- item (<- list args) index) zero3
   matrices := <- kernel "getRotatedMatrixList" [matrices, <- n "rotationMode", rots, influences]
   index := <- sub index 1
  if <- n.is "useTranslation" then
   let shifts <- endless "Vector3D" (<- item (<- list args) index) zero3
   affect "translateMatrixList" [matrices, <- n "translationMode", shifts, influences]
  pure matrices,
 actingOnOne "FixedFrame" "frame",
 fn3 "transform_Action_FixedFrame_List matrices action frame" fun n matrices act fr => do
  if act.isNone then return matrices
  let (loc, rot, scale) <- unpack3 (<- kernel "evaluateTransformationAction" [act, fr, <- length matrices])
  n.call "computeNewMatrices" [matrices, loc, rot, scale],
 actingOnOne "FalloffFrame" "falloff",
 fn3 "transform_Action_FalloffFrame_List matrices action falloff" fun n matrices act falloff => do
  if act.isNone then return matrices
  unless <- isA act "BoundedAction" do n.halt "action is not bounded (has no start and end)"
  let ps <- n.call "evaluateFalloff" [matrices, falloff]
  let (loc, rot, scale) <- unpack3 (<- kernel "evaluateBoundedTransformationAction" [act, ps])
  n.call "computeNewMatrices" [matrices, loc, rot, scale],
 fn4 "computeNewMatrices matrices translations rotations scales"
   fun n matrices shifts rots scales => do
  let influences <- kernel "FloatList.fromValue" [1] [("length", <- length matrices)]
  let _shifts <- kernel "VirtualVector3DList.fromList" [shifts, zero3]
  let _rotations <- kernel "VirtualEulerList.fromList" [rots, zero3]
  let _scales <- kernel "VirtualVector3DList.fromList" [scales, one3]
  affect "scaleMatrixList" [matrices, <- n "scaleMode", _scales, influences]
  let matrices <- kernel "getRotatedMatrixList" [matrices, <- n "rotationMode", _rotations, influences]
  affect "translateMatrixList" [matrices, <- n "translationMode", _shifts, influences]
  pure matrices,
 fn2 "evaluateFalloff matrices falloff" fun n matrices falloff => do
  let fo <- if (<- n "specifiedState").is "END" then invertedFalloff falloff else pure falloff
  let evaluator <- try fo.call "getEvaluator" ["TRANSFORMATION_MATRIX"]
   catch _ => n.halt "cannot evaluate falloff with matrices"
  evaluator.call "evaluateList" [matrices],
 prop "transformsOriginalMatrixList" fun n => do
  eitherOf ((<- n "transformationSource").is "ACTION")
    (<- eitherOf (<- n "useScale") (<- bothOf (<- n "useTranslation") (!(<- n.is "useRotation"))))]

def matrixNodes : List NodeKind := [
.of "Axis Rotation Matrix" [menu "axis" "X", flag "useDegree" false rebuilds, flag "useList"] (do
 takesAny "Float" "Angle"
 givesAny "Matrix" "Matrix" "Matrices") [
 drawsColumn fun n col => do
  (<- col.row).prop n "axis" [("expand", true)]
  col.prop n "useDegree",
 code fun n _ => do
  if <- n.is "useList" then return #["matrices = self.execute_List(angles)"]
  let turns := if <- n.is "useDegree" then " / 180 * math.pi" else ""
  return #["matrix = Matrix.Rotation(angle" ++ turns ++ ", 4, '" ++ (<- n.textOf "axis") ++ "')"],
 fn1 "execute_List angles" fun n angles => do kernel "createAxisRotations" [angles, <- n "axis", <- n "useDegree"],
 usesModules ["math"]],
.called "MatrixCombine" <| .of "Combine Matrices" [] (do
 takes "Matrix List" "Matrices"
 gives "Matrix" "Result") [
 fn1 "execute matrices" fun _ ms => kernel "reduceMatrixList" [ms] [("reversed", true)]],
.found [("Translation Matrix", [("useTranslation", "True")]), ("Rotation Matrix", [("useRotation", "True")]),
 ("Scale Matrix", [("useScale", "True")]), ("Compose Matrix", [("useTranslation", "True"), ("useRotation", "True"),
 ("useScale", "True")])] <| .onlyFound <|
 .of "Compose Matrix"
  (matrixParts.map (fun part => flag ("use" ++ part) false checked) ++ listFlags matrixParts) (fun n => do
 n.takesSome "Vector" "Translation"
 n.takesSome "Euler" "Rotation"
 n.takesSome "Vector" (named "Scale" [val one3]) "Scales" [] true "(1, 1, 1)"
 n.givesMany "Matrix" partFlags "Matrix" "Matrices"
 n.tell "updateSocketVisibility") [
 checks,
 drawsRow NodeId.showTransformParts,
 act0 "updateSocketVisibility" fun n => do
  for (part, i) in matrixParts.zipIdx do (<- n.input i).set "hide" (!(<- n.is ("use" ++ part))),
 writes fun n _ => do
  if <- n.isAny partFlags then
   let args := commaList (<- (<- n.inputs).mapM (·.identifier))
   emit s!"matrices = self.calculateMatrices({args})"
  else emits (<- linesOf (<- n.call "getExecutionCode_Single")),
 writes0 "getExecutionCode_Single" fun n => do
  let loc <- n "useTranslation"
  let rot <- n "useRotation"
  let scale <- n "useScale"
  let amount <- (<- list [loc, rot, scale]).call "count" [true]
  if <- equal amount 0 then emit "matrix = Matrix.Identity(4)"
  else if <- equal amount 1 then
   if <- truthy loc then emit "matrix = Matrix.Translation(translation)"
   else if <- truthy rot then emits #["matrix = rotation.to_matrix()", "matrix.resize_4x4()"]
   else if <- truthy scale then emit "matrix = AN.utils.math.scaleMatrix(scale)"
  else if <- equal amount 2 then
   if (<- truthy loc) && (<- truthy rot) then
    emits #["matrix = rotation.to_matrix()", "matrix.resize_4x4()", "matrix.col[3][:3] = translation"]
   else if (<- truthy loc) && (<- truthy scale) then
    emits #["matrix = AN.utils.math.scaleMatrix(scale)", "matrix.col[3][:3] = translation"]
   else if (<- truthy rot) && (<- truthy scale) then
    emits #["matrix = rotation.to_matrix()", "matrix[0] *= scale.x", "matrix[1] *= scale.y",
     "matrix[2] *= scale.z", "matrix.resize_4x4()"]
  else if <- equal amount 3 then emit "matrix = AN.utils.math.composeMatrix(translation, rotation, scale)",
 fn3 "calculateMatrices translation rotation scale" fun n shift rotation scale => do
  unless <- n.isAny (matrixParts.map ("use" ++ ·)) do return <- kernel "Matrix4x4List"
  let shifts <- endless "Vector3D" shift zero3
  let rots <- endless "Euler" rotation zero3
  let scales <- endless "Vector3D" scale one3
  let ls <- [("useTranslation", shifts), ("useRotation", rots), ("useScale", scales)].filterM (n.is ·.1)
  let k <- kernel "VirtualList.getMaxRealLength" (ls.map (·.2))
  let matrices <- if <- n.is "useRotation" then do
    let turned <- kernel "rotationsFromVirtualEulers" [k, rots]
    if <- n.is "useScale" then affect "scale3x3Parts" [turned, scales]
    pure turned
   else if <- n.is "useScale" then kernel "scalesFromVirtualVectors" [k, scales]
   else do kernel "Matrix4x4List.fromValue" [<- kernel "Matrix.Identity" [4], k]
  if <- n.is "useTranslation" then affect "setLocations" [matrices, shifts]
  pure matrices],
.of "Decompose Matrix" [flag "useMatrixList"] (do
 takesSome "Matrix" "Matrix" "Matrices"
 givesMany "Vector" ["useMatrixList"] "Translation"
 givesMany "Euler" ["useMatrixList"] "Rotation"
 givesMany "Vector" ["useMatrixList"] "Scale") [
 writes fun n req => do
  if <- n.is "useMatrixList" then
   emitWanted req [("translations", "self.toTranslations(matrices)"),
    ("rotations", "self.toRotations(matrices)"), ("scales", "self.toScales(matrices)")]
  else
   emitWanted req [("translation", "matrix.to_translation()"), ("rotation", "matrix.to_euler()"),
    ("scale", "matrix.to_scale()")],
 delegates "toTranslations matrices" "extractMatrixTranslations",
 delegates "toRotations matrices" "extractMatrixRotations",
 delegates "toScales matrices" "extractMatrixScales"],
.of "Extract Matrix Basis" [choice "basisAxis" "X" reruns, flag "useMatrixList"] (do
 takesSome "Matrix" "Matrix" "Matrices"
 givesMany "Vector" ["useMatrixList"] "Basis" "Bases") [
 shows "basisAxis" bare,
 fn1 "execute matrices" fun n matrices => do
  let ms <- if <- n.is "useMatrixList" then pure matrices else kernel "Matrix4x4List.fromValue" [matrices]
  let axis <- n.word "basisAxis"
  let bases <- if ["X", "Y", "Z"].contains axis then kernel s!"extractMatrices{axis}Basis" [ms] else pure .none
  if <- n.is "useMatrixList" then pure bases else item bases 0],
.of "Invert Matrix" [] (do
 takes "Matrix"
 gives "Matrix" "Inverted Matrix") [
 draws fun _ l => l.separator,
 runs "invertedMatrix = matrix.inverted(Matrix.Identity(4))"],
.telling <| .of "Matrix Math" (choice "operation" "MULTIPLY" rebuilds :: pairFlags.map (flag ·)) (do
 takesMany "Matrix" ["useListA"] "A" "A"
 takesMany "Matrix" ["useListB"] "B" "B"
 givesMany "Matrix" pairFlags "Result") [
 shows "operation" bare,
 writes fun n _ => do
  if (<- n "operation").is "MULTIPLY" then
   if (<- n.is "useListA") && (<- n.is "useListB") then emit "results = self.multMatrixLists(a, b)"
   else if <- n.isAny pairFlags then emit "results = self.multMatrixWithList(a, b)"
   else emit "result = a @ b",
 fn2 "multMatrixLists listA listB" fun n xs ys => do
  if (<- length xs) != (<- length ys) then
   n.showError "different length"
   return <- kernel "Matrix4x4List"
  kernel "vectorizedMatrixMultiplication" [xs, ys],
 delegates "multMatrixWithList a b" "vectorizedMatrixMultiplication"],
.found [("Offset Matrices", [("useMatrixList", "True")])] <| .onlyFound <|
 .risky "Offset Matrix" ([toggle "useMatrixList"] ++ transformationProperties) (fun n => do
 if <- n.is "useMatrixList" then
  n.takes "Matrix List" ("Matrices", "inMatrices") [("dataIsModified", <- n "transformsOriginalMatrixList")]
  n.gives "Matrix List" ("Matrices", "outMatrices")
 else
  n.takes "Matrix" ("Matrix", "inMatrix")
  n.gives "Matrix" ("Matrix", "outMatrix")
 n.tell "createMatrixTransformationInputs" [<- n "useMatrixList"]) (.append [
 draws fun n l => n.tell "draw_MatrixTransformationProperties" [l],
 drawsMore fun n l => do
  l.prop n "useMatrixList"
  n.tell "drawAdvanced_MatrixTransformationProperties" [l],
 fn0 "getExecutionFunctionName" fun n => do
  n.call "getMatrixTransformationFunctionName" [<- n "useMatrixList"]] transformationMembers),
.of "Replicate Matrix" [flag "useMatrixList", menu "transformationType" "MATRIX_LIST"] (do
 takesSome "Matrix" ("Matrix", "inMatrix") ("Matrices", "inMatrices")
 takesPlaces
 gives "Matrix List" ("Matrices", "outMatrices")) (runsByPlaces (.ifSet "useMatrixList" "execute_List_Matrices" "execute_Single_Matrices")
  (.ifSet "useMatrixList" "execute_List_Vectors" "execute_Single_Vectors") ++ [
 delegates "execute_Single_Matrices matrix transformations" "replicateMatrixAtMatrices",
 delegates "execute_Single_Vectors matrix translations" "replicateMatrixAtVectors",
 delegates "execute_List_Matrices matrices transformations" "replicateMatricesAtMatrices",
 delegates "execute_List_Vectors matrices translations" "replicateMatricesAtVectors"]),
.of "Shear Matrix" [menu "plane" "XY"] (do
 let plane <- word "plane"
 if ["XY", "XZ", "YZ"].contains plane then
  for (axis, id) in plane.toList.zip ["angleA", "angleB"] do float (s!"Angle {axis}", id)
 gives "Matrix") [
 shows "plane" [("expand", true)],
 code fun n _ => do
  return #["limit = math.pi / 2 - 0.00001",
   "_angleA = math.tan(min(max(angleA, -limit), limit))", "_angleB = math.tan(min(max(angleB, -limit), limit))",
   "matrix = Matrix.Shear('" ++ (<- n.textOf "plane") ++ "', 4, (_angleA, _angleB))"],
 usesModules ["math"]],
.of "Transform Matrix" (listFlags ["Matrix", "Transform"]) (do
 takesSome "Matrix" ("Matrix", "inMatrix") ("Matrices", "inMatrices")
 takesMany "Matrix" ["useTransformList"] "Transformation"
 givesMany "Matrix" ["useMatrixList", "useTransformList"] ("Matrix", "outMatrix") ("Matrices", "outMatrices")) [
 transformsEach ("useMatrixList", "inMatrix", "inMatrices", "Matrix4x4List", "Matrix.Identity(4)")
  ("useTransformList", "transformation", "transformations") ("outMatrix", "outMatrices")
  "AN.nodes.matrix.c_utils.transformVirtualMatrix4x4List"]]

end AnimationGraph
