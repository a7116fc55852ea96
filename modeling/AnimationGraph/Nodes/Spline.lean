import AnimationGraph.Node.Vocabulary
import AnimationGraph.Catalogue.Basic

/-! # Nodes for splines

Splines are made, changed, evaluated and written to curve objects.
-/

namespace AnimationGraph

def splineEvaluationProperties : List Property :=
 [choice "parameterType" "UNIFORM" (calling "parameterTypeChanged"), whole "resolution" 20 reruns]

def splineEvaluationMembers : Members := [
 act1 "parameterTypeChanged context" fun _ _ => do
  valueChanged
  codeChanged]

def remadeSpline (sp : Value) (kind method : String) (handles : Pairs := []) : Eval := do
 let ls <- (("points", "points") :: handles ++ [("radii", "radii"), ("tilts", "tilts")]).mapM fun (name, list) => do
  return (name, <- (<- sp.attr list).call method)
 kernel kind [] (ls ++ [("cyclic", <- sp "cyclic"), ("materialIndex", <- sp "materialIndex")])

def Value.movedCopy (v m : Value) : Eval := do
 let copy <- v.call "copy"
 copy.tell "transform" [m]
 pure copy

def bakedCurveSettings : Pairs := [
 ("Bevel Depth", "bevel_depth"), ("Bevel Resolution", "bevel_resolution"), ("Bevel Start", "bevel_factor_start"),
 ("Bevel End", "bevel_factor_end"), ("Extrude", "extrude"), ("Offset", "offset"),
 ("Preview Resolution", "resolution_u")]

def splineSamples : List (String × String × Bool) := [
 ("locations", "Points", false), ("tangents", "Tangents", false), ("normals", "Normals", false),
 ("radii", "Radii", true), ("tilts", "Tilts", true), ("curvatures", "Curvatures", true),
 ("matrices", "Matrices", false)]

def emitSamples (req : Value) (call : String -> String) : Writing Unit := do
 for (out, name, converted) in splineSamples do
  if <- has req out then
   if converted then emits #["_" ++ out ++ " = spline." ++ call name, s!"{out} = DoubleList.fromValues(_{out})"]
   else emit (out ++ " = spline." ++ call name)

def NodeId.drawResolution (n : NodeId) (l : LayoutId) : Act := do
 let col <- l.column
 col.set "active" ((<- n "parameterType").is "UNIFORM")
 col.prop n "resolution"

def NodeId.splineParameters (n : NodeId) (sp start stop : Value) : Run (Value × Value) := do
 if (<- n "parameterType").is "UNIFORM" then
  sp.tell "ensureUniformConverter" [<- n "resolution"]
  return (<- sp.call "toUniformParameter" [start], <- sp.call "toUniformParameter" [stop])
 pure (start, stop)

def NodeId.preparedFor (n : NodeId) (ps : Value) (vs : Values) : Evals :=
 vs.mapM fun v => do n.call "prepareFloatList" [v, <- length ps]

/-- Does to each spline of a list what another method does to one. -/
def toEachSpline (sig : Signature) (m : String) : Feature := fn2 sig fun n ss v => do
 for sp in <- iter ss do n.tell m [sp, v]
 pure ss

def splineNodes : List NodeKind := [
.of "Append Point to Spline" [menu "pointType" "POINT"] (fun n => do
 n.takes "Spline" "Spline" [modified]
 n.takes "Vector" "Point"
 if (<- n "pointType").is "BEZIER_POINT" then n.takesEach "Vector" ["Left Handle", "Right Handle"]
 n.float "Radius" (dial 0.1)
 n.float "Tilt"
 n.gives "Spline" ("Spline", "outSpline")) [
 shows "pointType" bare,
 runsBy (.byItem "pointType" [("POINT", "execute_Point"), ("BEZIER_POINT", "execute_BezierPoint")]),
 fn4 "execute_Point spline point radius tilt" fun _ sp p radius tilt => do
  if <- fits sp "type" "BEZIER" then sp.tell "appendPoint" [p, p, p, radius, tilt]
  else sp.tell "appendPoint" [p, radius, tilt]
  sp.tell "markChanged"
  pure sp,
 method "execute_BezierPoint spline point leftHandle rightHandle radius tilt" fun n b => do
  let bezier <- (return (<- n "pointType").is "BEZIER_POINT") <&&> (fits (b 0) "type" "BEZIER")
  (b 0).tell "appendPoint" (if bezier then b.toList.tail else [b 1, b 4, b 5])
  (b 0).tell "markChanged"
  return b 0],
.risky "Bevel Spline" [flag "useRadiusList"] (do
 takes "Spline" "Spline" [unnamed]
 takesSome "Float" (named "Radius" (dial 0.5)) "Radii"
 gives "Spline") [
 fn2 "execute spline radii" fun n sp radii => do
  if <- notEqual (<- sp "type") "POLY" then n.halt "Bezier splines are not supported!"
  kernel "bevelPolySpline" [sp, <- endless "Double" radii 0.5]],
.lifted "Change Spline Direction" [flag "useSplineList"] (do
 takesSome "Spline" "Spline" "Splines" [unnamed, modified]
 givesSome "Spline" ("Spline", "newSpline")) [
 runs "newSpline = self.changeSplineDirection(spline)",
 fn1 "changeSplineDirection spline" fun _ sp => do
  if <- fits sp "type" "POLY" then remadeSpline sp "PolySpline" "reversed"
  else if <- fits sp "type" "BEZIER" then
   remadeSpline sp "BezierSpline" "reversed" [("leftHandles", "rightHandles"), ("rightHandles", "leftHandles")]
  else pure .none],
.lifted "Change Spline Type" [flag "useSplineList", choice "targetType" "POLY" reruns] (do
 takesSome "Spline" ("Spline", "inSpline") ("Splines", "inSplines") [unnamed]
 givesSome "Spline" ("Spline", "outSpline")) [
 shows "targetType" bare,
 runs "outSpline = self.convertToTargetType(inSpline)",
 fn1 "convertToTargetType spline" fun n sp => do
  let type <- sp "type"
  let target <- n.word "targetType"
  let some kind := [("POLY", "PolySpline"), ("BEZIER", "BezierSpline")].lookup target | pure .none
  if <- equal type target then sp.call "copy"
  else if <- among type ["POLY", "BEZIER"] then remadeSpline sp kind "copy"
  else pure .none],
.of "Connect Splines" [] (do
 takes "Spline List" "Splines" [unnamed]
 gives "Spline") [fn1 "execute splines" fun _ ss => connectedSpline ss],
.telling <| .of "Curve Object Output" [flag "useSplineList"] (fun n => do
 n.takes "Object" "Object" [unnamed, ("objectCreationType", "CURVE")]
 n.takesSome "Spline" (named "Spline" [textOnly])
   (named "Splines" [textOnly])
 n.float "Bevel Depth" [atLeast 0]
 n.int "Bevel Resolution"
 n.takesEach "Float" ["Extrude", "Bevel Start"]
 n.float "Bevel End" [val 1.0]
 n.float "Offset"
 n.int "Preview Resolution" [val 12]
 n.takes "Object" "Taper Object"
 n.str "Taper Mode" [val "MULTIPLY"]
 n.takes "Object" "Bevel Object"
 n.bool "Fill Caps"
 n.str "Fill Mode" [val "FRONT"]
 n.str "Bevel Mode" [val "ROUND"]
 n.gives "Object"
 n.switchable
 hideAll ((<- n.inputs).drop 4)) [
 writes fun n _ => do
  emitWhen "object" "CURVE" "curve = object.data"
  if <- n.is "useSplineList" then
   if <- n.usesInput "Splines" then emit "    self.setSplines(object, splines)"
  else if <- n.usesInput "Spline" then emit "    self.setSplines(object, [spline])"
  for (input, prop) in bakedCurveSettings do
   if <- n.usesInput input then emit ("    curve." ++ prop ++ " = " ++ SocketNames.identifier input)
  emits (<- n.linesOfUsed [("Taper Object", "curve.taper_object = taperObject"),
   ("Taper Mode", "self.setTaperMode(curve, taperMode)"),
   ("Bevel Object", "curve.bevel_object = bevelObject"), ("Fill Caps", "curve.use_fill_caps = fillCaps"),
   ("Fill Mode", "self.setFillMode(curve, fillMode)"), ("Bevel Mode", "self.setBevelMode(curve, bevelMode)")]),
 act2 "setSplines object splines" fun _ o ss => do affect "setSplinesOnBlenderObject" [o, ss],
 act2 "setTaperMode curve taperMode" fun n c taperMode =>
  n.assignItem c "taper_radius_mode" taperMode "Taper Mode" ["OVERRIDE", "MULTIPLY", "ADD"],
 act2 "setFillMode curve fillMode" fun n c mode => do
  let correct <-
   if <- fits c "dimensions" "3D" then among mode ["FULL", "BACK", "FRONT", "HALF"]
   else among mode ["NONE", "BACK", "FRONT", "BOTH"]
  if correct then c.set "fill_mode" mode
  else
   n.showError ("The fill mode is invalid. \n\nPossible values for 'Fill Mode' are: \n" ++
    "3D Curve: 'FULL', 'HALF', 'BACK', 'FRONT' \n2D Curve: 'NONE', 'BACK', 'FRONT', 'BOTH'"),
 act2 "setBevelMode curve bevelMode" fun n c bevelMode =>
  n.assignItem c "bevel_mode" bevelMode "Bevel Mode" ["ROUND", "OBJECT", "PROFILE"],
 writes0 "getBakeCode" fun n => do
  emitWhen "object" "CURVE" "curve = object.data"
  for (input, prop) in bakedCurveSettings do
   if <- n.usesInput input then emit s!"    curve.keyframe_insert('{prop}')"],
.of "Evaluate Spline" ([menu "evaluationType" "PARAMETER", toggle "wrapParameters",
 flag "useParameterList"] ++ splineEvaluationProperties) (fun n => do
 n.takes "Spline" "Spline" [unnamed]
 let mode <- n "evaluationType"
 if mode.isOneOf ["RANGE_COUNT", "RANGE_STEP"] then
  if mode.is "RANGE_COUNT" then n.int "Amount" [val 50]
  else n.float "Step" [val 0.1]
  n.float "Start" (dial 0.0 0.0 1.0)
  n.float "End" (dial 1.0 0.0 1.0)
  n.givesEach "Vector List" ["Locations", "Tangents", "Normals"]
  n.gives "Float List" "Radii"
  n.givesEach "Float List" ["Tilts", "Curvatures"] [hide]
  n.gives "Matrix List" "Matrices"
 else
  n.takesSome "Float" (named "Parameter" (if <- n.is "wrapParameters" then [] else [atLeast 0, atMost 1]))
  for name in ["Location", "Tangent", "Normal"] do n.givesMany "Vector" ["useParameterList"] name
  n.givesMany "Float" ["useParameterList"] "Radius" "Radii"
  for name in ["Tilt", "Curvature"] do
   n.givesMany "Float" ["useParameterList"] (named name [hide]) (named s!"{name}s" [hide])
  n.givesMany "Matrix" ["useParameterList"] "Matrix" "Matrices") ((· ++ splineEvaluationMembers) [
 draws fun n l => do
  l.prop n "evaluationType" bare
  unless (<- n "evaluationType").is "RANGE_STEP" do l.prop n "parameterType" bare,
 drawsMore fun n l => do
  n.drawResolution l
  let col <- l.column
  col.set "active" ((<- n "evaluationType").is "PARAMETER")
  col.prop n "wrapParameters",
 writes fun n req => do
  emit "if spline.isEvaluable():"
  if (<- n "parameterType").is "UNIFORM" || (<- n "evaluationType").is "RANGE_STEP" then
   emit "    spline.ensureUniformConverter(self.resolution)"
  if <- ["normal", "normals", "matrix", "matrices"].anyM fun out : String => has req out then
   emit "    spline.ensureNormals()"
  let m := if (<- n "evaluationType").isOneOf ["RANGE_COUNT", "RANGE_STEP"] then "getExecutionCode_Range"
   else "getExecutionCode_Parameters"
  for line in <- linesOf (<- n.call m [req]) do emit s!"    {line}"
  emit "else:"
  for s in <- n.outputs do
   emit (s!"    {(<- s.identifier)} = self.outputs['{(<- s.name)}'].getDefaultValue()"),
 writesFor "getExecutionCode_Range" fun n req => do
  emits #["_start = min(max(start, 0), 1)", "_end = min(max(end, 0), 1)"]
  if (<- n "evaluationType").is "RANGE_STEP" then
   emits #["uniformStart = spline.toUniformParameter(_start)", "uniformEnd = spline.toUniformParameter(_end)",
    "length = spline.getPartialLength(uniformStart, uniformEnd, self.resolution)",
    "_amount = int(length / step) if step > 0 else 0", "parameterType = 'UNIFORM'"]
  else emits #["_amount = max(amount, 0)", "parameterType = self.parameterType"]
  emitSamples req fun name => s!"getDistributed{name}(_amount, _start, _end, parameterType)",
 writesFor "getExecutionCode_Parameters" fun n req => do
  let m := if <- n.is "useParameterList" then "getExecutionCode_Parameters_List"
   else "getExecutionCode_Parameters_Single"
  emits (<- linesOf (<- n.call m [req])),
 writesFor "getExecutionCode_Parameters_List" fun n req => do
  emit "_parameters = FloatList.fromValues(parameters)"
  if <- n.is "wrapParameters" then emit "_parameters = AN.nodes.spline.c_utils.wrapSplineParameters(_parameters)"
  else emit "_parameters.clamp(0, 1)"
  if (<- n "parameterType").is "UNIFORM" then emit "_parameters = spline.toUniformParameters(_parameters)"
  emitSamples req fun name => s!"sample{name}(_parameters, False, 'RESOLUTION')",
 writesFor "getExecutionCode_Parameters_Single" fun n req => do
  if <- n.is "wrapParameters" then emit "_parameter = 1 if parameter != 0 and parameter % 1 == 0 else parameter % 1"
  else emit "_parameter = min(max(parameter, 0), 1)"
  if (<- n "parameterType").is "UNIFORM" then emit "_parameter = spline.toUniformParameter(_parameter)"
  for (out, name) in [
    ("location", "Point"), ("tangent", "Tangent"), ("normal", "Normal"), ("radius", "Radius"), ("tilt", "Tilt"),
    ("curvature", "Curvature"), ("matrix", "Matrix")] do
   if <- has req out then emit s!"{out} = spline.evaluate{name}(_parameter)"]),
.of "Get Spline Length" (listFlags ["Spline", "Start", "End"] ++ splineEvaluationProperties) (do
 takesSome "Spline" "Spline" ("Splines", "spline") [unnamed]
 takesSome "Float" "Start" ("Starts", "start")
 takesSome "Float" "End" ("Ends", "end")
 givesMany "Float" ["useSplineList", "useStartList", "useEndList"] "Length") (.append [
 shows "parameterType" bare,
 drawsMore NodeId.drawResolution,
 runsBy (.ifAny ["useSplineList", "useStartList", "useEndList"]
   "execute_MultipleSplines_MultipleStarts_MultipleEnds" "execute_SingleSpline_SingleStart_SingleEnd"),
 fn3 "execute_MultipleSplines_MultipleStarts_MultipleEnds spline start end"
   fun n sp start stop => do
  let ss <- endless "Py" sp (<- kernel "PolySpline")
  let ends <- endlessNumbers [start, stop]
  let k <- longest "Double" (ss :: ends)
  let lengths <- kernel "DoubleList" [k, 0]
  for i in <- span k do
   setItem lengths i (<- n.call "execute_SingleSpline_SingleStart_SingleEnd"
     (<- (ss :: ends).mapM (item · i)))
  pure lengths,
 fn3 "execute_SingleSpline_SingleStart_SingleEnd spline start end" fun n sp start stop => do
  unless <- ask sp "isEvaluable" do return 0.0
  let start <- minOf (<- maxOf start 0) 1
  let stop <- minOf (<- maxOf stop 0) 1
  if (<- equal start 0) && (<- equal stop 1) then return <- sp.call "getLength" [<- n "resolution"]
  let (start, stop) <- n.splineParameters sp start stop
  sp.call "getPartialLength" [start, stop, <- n "resolution"]] splineEvaluationMembers),
.of "Loft Splines" [menu "interpolationType" "LINEAR", whole "resolution" 5 reruns,
 choice "splineDistributionType" "RESOLUTION" reruns, choice "surfaceDistributionType" "RESOLUTION" reruns]
  (fun n => do
 n.takes "Spline List" "Splines" [textOnly]
 n.int "Spline Samples" (dial 16 2)
 match <- n.word "interpolationType" with
 | "LINEAR" => n.int "Subdivisions" (dial 0)
 | "SMOOTH" => n.int "Surface Samples" (dial 16 2)
 | _ => pure ()
 n.bool "Cyclic" [val false]
 if (<- n "interpolationType").is "SMOOTH" then n.float "Smoothness" [val (<- div 1 3)]
 n.float "Start" (hide :: dial 0.0 0.0 1.0)
 n.float "End" (hide :: dial 1.0 0.0 1.0)
 n.gives "Vector List" "Vertices"
 n.givesIndices) [
 shows "interpolationType" bare,
 drawsMore fun n l => do
  let col <- l.column
  col.prop n "splineDistributionType"
  col.prop n "surfaceDistributionType"
  col.prop n "resolution",
 runsBy (.byItem "interpolationType" [("LINEAR", "execute_Linear"), ("SMOOTH", "execute_Smooth")]),
 method "execute_Linear splines splineSamples subdivisions cyclic start end" fun n b => do
  let loft <- kernel "LinearLoft"
  loft.setAttrs (["splines", "splineSamples", "subdivisions", "cyclic", "start", "end"].zip b.toList ++
   [("distributionType", <- n "splineDistributionType"), ("uniformResolution", <- n "resolution")])
  n.call "evaluateLoft" [loft],
 method "execute_Smooth splines splineSamples surfaceSamples cyclic smoothness start end"
   fun n b => do
  let loft <- kernel "SmoothLoft"
  loft.setAttrs (["splines", "splineSamples", "surfaceSamples", "cyclic", "smoothness", "start", "end"].zip
   ((<- list (<- iter (b 0)).reverse) :: b.toList.tail) ++ [("splineDistributionType", <- n "splineDistributionType"),
   ("surfaceDistributionType", <- n "surfaceDistributionType"), ("uniformResolution", <- n "resolution")])
  n.call "evaluateLoft" [loft],
 fn1 "evaluateLoft loft" fun n loft => do
  n.meshParts (<- ask loft "validate")
   [loft.call "calcVertices", loft.call "calcEdgeIndices", loft.call "calcPolygonIndices"]],
.of "Make Spline Cyclic" [] (do
 takes "Spline" "Spline" [modified, unnamed]
 bool ("Cyclic", "cylic") [val true]
 gives "Spline" ("Spline", "outSpline")) [
 fn2 "execute spline cyclic" fun _ sp cyclic => do
  sp.set "cyclic" cyclic
  sp.tell "markChanged"
  pure sp],
.of "Mesh from Spline" ([toggle "useCustomShape"] ++ splineEvaluationProperties) (do
 takes "Spline" "Spline" [unnamed]
 float "Size" (dial 0.3)
 int "Spline Resolution" (dial 5)
 if <- is "useCustomShape" then
  takes "Vector List" "Shape Border" [modified]
  bool "Closed Shape" [val true]
 else int "Bevel Resolution" (dial 4 2)
 bool "Cap Ends" [val false]
 gives "Mesh") (.append [
 shows "useCustomShape",
 drawsMore fun n l => do
  let col <- l.column
  col.prop n "parameterType"
  n.drawResolution col,
 runsBy (.ifSet "useCustomShape" "execute_CustomShape" "execute_CircleShape"),
 method "execute_CircleShape spline size splineResolution bevelResolution capEnds" fun n b => do
  let size <- maxOf (b 1) 0
  n.call "createSplineMesh" [b 0, b 4, b 2, <- kernel "getPointsOnCircle" [<- maxOf (b 3) 2, size], true],
 method "execute_CustomShape spline size splineResolution shapeBorder closedShape capEnds"
   fun n b => do
  (b 3).tell "scale" [<- maxOf (b 1) 0]
  n.call "createSplineMesh" [b 0, b 5, b 2, b 3, b 4],
 method "createSplineMesh spline capEnds splineResolution shape closedShape" fun n b => do
  let [spline, capEnds, res, shape, closedShape] := b.toList | fail .type
  unless <- ask spline "isEvaluable" do return <- kernel "Mesh"
  if (<- length shape) < 2 then return <- kernel "Mesh"
  let res <- maxOf res 0
  let count <- count spline "points"
  let cyclic <- spline "cyclic"
  let segments : Int := if <- truthy cyclic then count else count - 1
  let k <- add count (<- mul res segments)
  spline.tell "ensureUniformConverter" [<- n "resolution"]
  let ms <- kernel "getMatricesAlongSpline" [spline, k, <- n "parameterType"]
  let vertices <- kernel "getReplicatedVertices" [shape, ms]
  let corners <- length shape
  let joins : Fields := [("joinVertical", if corners > 2 then closedShape else false), ("joinHorizontal", cyclic)]
  let edges <- kernel "quadEdges" [k, corners] joins
  let polygons <- kernel "quadPolygons" [k, corners] joins
  if <- (truthy capEnds) <&&> (return !(<- truthy cyclic)) <&&> (pure (decide (corners > 2))) then
   let ring <- mul (<- sub k 1) corners
   let stop <- mul k corners
   polygons.tell "append" [.tuple (<- span corners)]
   polygons.tell "append" [.tuple (<- span ring stop).reverse]
   unless <- truthy closedShape do
    edges.tell "append" [.tuple [0, <- sub corners 1]]
    edges.tell "append" [.tuple [ring, <- sub stop 1]]
  kernel "Mesh" [vertices, edges, polygons] [("skipValidation", true)]] splineEvaluationMembers),
.risky "Offset Spline"
  (["useLocation", "useRadius", "useTilt"].map (flag · false checked) ++
   listFlags ["Spline", "Vector", "Radius", "Tilt"]) (fun n => do
 n.takesSome "Spline" (named "Spline" [modified]) (named "Splines" [modified])
 n.takes "Falloff"
 n.takesOffsetLocations
 n.takesSome "Float" (named ("Radius", "offsetRadius") [val 1]) ("Radii", "offsetRadii")
 n.takesSome "Float" (named ("Tilt", "offsetTilt") [val 1])
 n.givesSome "Spline"
 n.tell "updateSocketVisibility") [
 checks,
 draws fun n l => do
  let col <- l.stack
  for fields in [["Location"], ["Radius", "Tilt"]] do
   let row <- col.line
   for f in fields do row.prop n s!"use{f}" [("text", f), ("toggle", true)],
 act0 "updateSocketVisibility" fun n => do
  for (flag, i) in [("useLocation", 2), ("useRadius", 3), ("useTilt", 4)] do
   (<- n.input i).set "hide" (!(<- n.is flag)),
 method "execute splines falloff offsetLocations offsetRadii offsetTilts" fun n b => do
  unless <- n.isAny ["useLocation", "useRadius", "useTilt"] do return b 0
  let ss <- if <- n.is "useSplineList" then pure (b 0) else list [b 0]
  let radii <- endless "Double" (b 3) 0
  let tilts <- endless "Double" (b 4) 0
  let locs <- endless "Vector3D" (b 2) zero3
  let eval <- n.call "getFalloffEvaluator" [b 1]
  for sp in <- iter ss do
   let influences <- eval.call "evaluateList" [<- sp "points"]
   let offset (f list : String) (by_ : Value) : Act := do affect f [<- sp.attr list, by_, influences]
   if <- n.is "useRadius" then offset "offsetFloats" "radii" radii
   if <- n.is "useTilt" then offset "offsetFloats" "tilts" tilts
   if <- n.is "useLocation" then
    offset "offset3DVectors" "points" locs
    if <- fits sp "type" "BEZIER" then
     offset "offset3DVectors" "leftHandles" locs
     offset "offset3DVectors" "rightHandles" locs
  if <- n.is "useSplineList" then pure ss else item ss 0,
 evaluatesFalloff],
.of "Project on Spline" [toggle "extended"] (do
 takes "Spline" "Spline" [unnamed]
 takes "Vector" "Location"
 givesEach "Vector" ["Position", "Tangent"]
 gives "Float" "Distance"
 unless <- is "extended" do gives "Float" "Parameter") [
 shows "extended" "Extended",
 writes fun n _ => do
  emit "if spline.isEvaluable():"
  if <- n.is "extended" then emit "    position, tangent = spline.projectExtended(location)"
  else
   emits #["    parameter = spline.project(location)", "    position = spline.evaluatePoint(parameter)",
    "    tangent = spline.evaluateTangent(parameter)"]
  emits #["    distance = (position - location).length", "else:", "    position = Vector((0, 0, 0))",
   "    tangent = Vector((0, 0, 0))", "    parameter = 0.0", "    distance = 0.0"]],
.of "Replicate Spline" [flag "useSplineList", menu "transformationType" "MATRIX_LIST"] (do
 takesSome "Spline" (named "Spline" [unnamed])
 takesPlaces
 gives "Spline List" ("Splines", "outSplines")) (runsByPlaces "execute_MatrixList" "execute_VectorList" ++ [
 fn2 "execute_MatrixList splines matrices" fun _ ss ms =>
  copiesAt "Spline" ss ms fun copy m => copy.tell "transform" [m],
 fn2 "execute_VectorList splines vectors" fun _ ss vs =>
  copiesAt "Spline" ss vs fun copy v => do copy.tell "transform" [<- kernel "Matrix.Translation" [v]]]),
.of "Revolve Spline" [choice "projectionType" "PROJECT" reruns] (do
 takesEach "Spline" ["Axis", "Profile"]
 int "Spline Samples" (dial 16 2)
 int "Surface Samples" (dial 16 3)
 gives "Vector List" "Vertices"
 givesIndices) [
 shows "projectionType" bare,
 fn4 "execute axis profile splineSamples surfaceSamples"
    fun n axis profile samples surface => do
   let possible <- (do ask axis "isEvaluable") <&&> (do ask profile "isEvaluable") <&&>
    (return !(<- less samples 2)) <&&> (return !(<- less surface 3))
   let xs := [samples, surface]
   n.meshParts possible [
    do kernel "vertices" ([axis, profile] ++ xs ++ [<- n "projectionType"]),
    kernel "edges" xs, kernel "polygons" xs]],
.of "Set Spline Radius" (listFlags ["Spline", "Radius"] ++ [choice "vectorizationType" "RADIUS_PER_POINT" rebuilds])
  (do
 takesSome "Spline" "Spline" "Splines" [unnamed, modified]
 takesSome "Float" (named "Radius" (dial 0.1)) "Radii"
 givesSome "Spline") [
 draws fun n l => do if (<- n.is "useSplineList") && (<- n.is "useRadiusList") then l.prop n "vectorizationType" bare,
 runsBy (.ifSet "useSplineList" (.ifSet "useRadiusList" (.ifItem "vectorizationType" "RADIUS_PER_POINT"
   "execute_MultipleSplines_MultipleRadii_PerPoint" "execute_MultipleSplines_MultipleRadii_PerSpline")
   "execute_MultipleSplines_SingleRadius") (.ifSet "useRadiusList" "execute_SingleSpline_MultipleRadii"
   "execute_SingleSpline_SingleRadius")),
 toEachSpline "execute_MultipleSplines_MultipleRadii_PerPoint splines radii" "execute_SingleSpline_MultipleRadii",
 fn2 "execute_MultipleSplines_MultipleRadii_PerSpline splines radii" fun n ss radii => do
  let virtualRadii <- endless "Double" radii 0
  for (sp, i) in (<- iter ss).zipIdx do n.tell "execute_SingleSpline_SingleRadius" [sp, <- item virtualRadii i]
  pure ss,
 toEachSpline "execute_MultipleSplines_SingleRadius splines radius" "execute_SingleSpline_SingleRadius",
 fn2 "execute_SingleSpline_SingleRadius spline radius" fun _ sp radius => do
  sp.set "radii" (<- kernel "FloatList.fromValue" [radius, <- count sp "points"])
  pure sp,
 fn2 "execute_SingleSpline_MultipleRadii spline radii" fun _ sp radii => do
  let virtualRadii <- endless "Float" (<- kernel "FloatList.fromValues" [radii]) 0
  sp.set "radii" (<- virtualRadii.call "materialize" [<- count sp "points"])
  pure sp],
.lifted "Smooth Bezier Spline" [flag "useSplineList"] (do
 takesSome "Spline" "Spline" "Splines" [textOnly, modified]
 float "Smoothness" [val 0.3333]
 givesSome "Spline") [
 runsLines #["if spline.type == 'BEZIER':", "    spline.smoothAllHandles(smoothness)"]],
.lifted "Spline From GP Stroke" [flag "useStrokeList"] (do
 takesSome "GPStroke" "Stroke"
 givesMany "Spline" ["useStrokeList"]) [
 runs "spline = self.splinesFromStrokes(stroke)",
 fn1 "splinesFromStrokes stroke" fun _ s => do
  if s.isNone then return <- kernel "PolySpline"
  kernel "PolySpline" []
    [("points", <- s.use "vertices.copy"),
    ("radii", <- s.use "pressures.copy"), ("cyclic", <- s "useCyclic"),
    ("materialIndex", <- s "materialIndex")]],
.of "Spline from Points"
  ([menu "splineType" "BEZIER", flag "improveBezierHandles" true reruns] ++ listFlags ["Radius", "Tilt"]) (fun n => do
 n.takes "Vector List" "Points" [modified]
 if (<- n "splineType").is "BEZIER" then n.takesEach "Vector List" ["Left Handles", "Right Handles"] [modified]
 n.takesSome "Float" (named "Radius" (dial 0.1)) "Radii"
 n.takesSome "Float" "Tilt"
 n.bool "Cyclic" [val false]
 n.int "Material Index"
 n.gives "Spline") [
 shows "splineType" bare,
 showsMore "improveBezierHandles",
 runsBy (.byItem "splineType" [("BEZIER", "execute_Bezier"), ("POLY", "execute_Poly")]),
 method "execute_Bezier points leftHandles rightHandles radii tilts cyclic materialIndex"
   fun n b => do
  for i in [1, 2] do n.tell "correctHandlesListIfNecessary" [b 0, b i]
  let sp <- kernel "BezierSpline" (b.toList.take 3 ++ (<- n.preparedFor (b 0) [b 3, b 4]) ++ b.toList.drop 5)
  if <- n.is "improveBezierHandles" then sp.tell "improveStraightBezierSegments"
  pure sp,
 act2 "correctHandlesListIfNecessary points handles" fun _ ps handles => do
  let wanted <- length ps
  let given <- length handles
  if wanted < given then delItem handles (sliceValue wanted .none .none)
  else if wanted > given then discard <| addTo handles (<- item ps (sliceValue given .none .none)),
 method "execute_Poly points radii tilts cyclic materialIndex" fun n b => do
  kernel "PolySpline" (b 0 :: (<- n.preparedFor (b 0) [b 1, b 2]) ++ b.toList.drop 3),
 fn2 "prepareFloatList source pointAmount" fun _ src amount => do
  if <- isA src "DoubleList" then
   (<- kernel "FloatList.fromValues" [src]).call "repeated" [] [("length", amount), ("default", 0)]
  else kernel "FloatList.fromValue" [src] [("length", amount)]],
.of "Spline Info" [menu "splineType" "POLY"] (fun n => do
 n.takes "Spline" "Spline" [unnamed, modified]
 n.gives "Vector List" "Points"
 if (<- n "splineType").is "BEZIER" then n.givesEach "Vector List" ["Left Handles", "Right Handles"]
 n.givesEach "Float List" ["Radii", "Tilts"]
 n.gives "Boolean" "Cyclic"
 n.givesEach "Integer" ["Material Index", "Point Amount"]) [
 shows "splineType" bare,
 writes fun n req => do
  emitWanted req [("points", "spline.points"), ("radii", "DoubleList.fromValues(spline.radii)"),
   ("tilts", "DoubleList.fromValues(spline.tilts)"), ("cyclic", "spline.cyclic"),
   ("materialIndex", "spline.materialIndex"), ("pointAmount", "len(spline.points)")]
  if (<- n "splineType").is "BEZIER" then
   emitWanted req (["leftHandles", "rightHandles"].map fun out =>
    (out, s!"spline.{out} if spline.type == 'BEZIER' else Vector3DList()"))],
.risky "Splines from Edges"
  [choice "algorithmType" "EDGE" reruns, choice "radiusType" "EDGE" reruns, flag "useRadiusList"] (do
 takes "Vector List" ("Vertex Locations", "vertices") [modified]
 takes "Edge Indices List" "Edge Indices"
 takesSome "Float" (named ("Radius", "radii") (dial 0.1)) "Radii" [] true "0.1"
 gives "Spline List" "Splines") [
 draws fun n l => do
  l.prop n "algorithmType" bare
  if (<- n "algorithmType").is "EDGE" then l.prop n "radiusType" bare,
 fn3 "execute vertices edgeIndices radii" fun n vs ix radii => do
  if <- isEmpty ix then return <- list []
  if <- greaterEqual (<- ix.call "getMaxIndex") (<- length vs) then n.halt "Invalid Edge Indices."
  let radii <- endless "Double" radii 0.1
  if (<- n "algorithmType").is "EDGE" then kernel "splinesFromEdges" [vs, ix, radii, <- n "radiusType"]
  else kernel "splinesFromBranches" [vs, ix, radii]],
.risky "Splines from Object" [menu "importType" "ALL"] (fun n => do
 n.takesObject
 n.bool "Use World Space" [val true]
 n.bool "Apply Modifiers" [val false]
 if (<- n "importType").is "SINGLE" then
  n.int "Index" [atLeast 0]
  n.gives "Spline"
 else n.gives "Spline List" "Splines") [
 showsMore "importType",
 writes fun n _ => n.emitBy "importType"
  [("SINGLE", "spline = self.getSingleSpline(object, useWorldSpace, applyModifiers, index)"),
  ("ALL", "splines = self.getAllSplines(object, useWorldSpace, applyModifiers)")],
 fn4 "getSingleSpline bObject useWorldSpace applyModifiers index"
   fun n bObject space mods i => do
  if bObject.isNone then return <- kernel "BezierSpline"
  unless <- among (<- bObject "type") ["CURVE", "FONT"] do n.halt "Not a curve or a font object"
  let obj <- evaluated bObject
  let splines <- (<- obj.use "an.getCurve" [mods]) "splines"
  if (<- lessEqual 0 i) && (<- less i (<- length splines)) then
   let bSpline <- item splines i
   if <- among (<- bSpline "type") ["POLY", "BEZIER"] then
    let sp := (<- splineOf? bSpline).getD .none
    if <- truthy space then sp.tell "transform" [<- obj "matrix_world"]
    pure sp
   else n.halt ("Spline type not supported: " ++ (<- textAt bSpline "type"))
  else n.halt "Index out of range",
 fn3 "getAllSplines bObject useWorldSpace applyModifiers"
   fun n bObject space mods => do
  if bObject.isNone then return <- list []
  unless <- among (<- bObject "type") ["CURVE", "FONT"] do n.halt "Not a curve or a font object."
  let obj <- evaluated bObject
  let ss <- splinesOfObject obj mods
  if <- truthy space then for sp in <- iter ss do sp.tell "transform" [<- obj "matrix_world"]
  pure ss],
.of "Tilt Spline" (listFlags ["Tilt", "Spline"] ++ [flag "accumulateTilts" false reruns]) (do
 takesSome "Spline" "Spline" "Splines" [unnamed, modified]
 takesSome "Float" "Tilt"
 givesSome "Spline") [
 shows "accumulateTilts" "Accumulate",
 runsBy (.ifSet "useSplineList" (.ifSet "useTiltList" "execute_MultipleSplines_MultipleTilts"
   "execute_MultipleSplines_SingleTilt") (.ifSet "useTiltList" "execute_SingleSpline_MultipleTilts"
   "execute_SingleSpline_SingleTilt")),
 toEachSpline "execute_MultipleSplines_MultipleTilts splines tilts" "execute_SingleSpline_MultipleTilts",
 toEachSpline "execute_MultipleSplines_SingleTilt splines tilt" "execute_SingleSpline_SingleTilt",
 fn2 "execute_SingleSpline_SingleTilt spline tilt" fun n sp tilt => do
  affect "tiltSplinePoints" [sp, <- kernel "VirtualFloatList.fromElement" [tilt], <- n "accumulateTilts"]
  pure sp,
 fn2 "execute_SingleSpline_MultipleTilts spline tilts" fun n sp tilts => do
  let _tilts <- kernel "VirtualFloatList.fromList" [<- kernel "FloatList.fromValues" [tilts], 0]
  affect "tiltSplinePoints" [sp, _tilts, <- n "accumulateTilts"]
  pure sp],
.of "Transform Spline" (listFlags ["Spline", "Matrix"]) (do
 takesSome "Spline" "Spline" "Splines" [("dataIsModified", (!(<- is "useMatrixList"))), unnamed]
 takesSome "Matrix" "Matrix" "Matrices"
 givesMany "Spline" ["useSplineList", "useMatrixList"]) [
 runsBy (.ifSet "useSplineList" (.ifSet "useMatrixList" "execute_MultipleSpline_MultipleMatrix"
   "execute_MultipleSpline_SingleMatrix") (.ifSet "useMatrixList" "execute_SingleSpline_MultipleMatrix"
   "execute_SingleSpline_SingleMatrix")),
 fn2 "execute_SingleSpline_SingleMatrix spline matrix" fun _ sp m => do
  sp.tell "transform" [m]
  pure sp,
 fn2 "execute_SingleSpline_MultipleMatrix spline matrices" fun _ sp ms => do mapList ms sp.movedCopy,
 fn2 "execute_MultipleSpline_SingleMatrix splines matrix" fun _ ss m => do
  for sp in <- iter ss do sp.tell "transform" [m]
  pure ss,
 fn2 "execute_MultipleSpline_MultipleMatrix splines matrices" fun _ ss ms => do
  let ss <- endless "Py" ss (<- kernel "Spline")
  let ms <- endless "Matrix4x4" ms (<- kernel "Matrix.Identity" [4])
  mapSpan (<- longest "Py" [ss, ms]) fun i => do (<- item ss i).movedCopy (<- item ms i)],
.lifted "Trim Spline" (listFlags ["Spline", "Start", "End"] ++ splineEvaluationProperties) (do
 takesSome "Spline" (named "Spline" [unnamed])
 takesSome "Float" (named "Start" (dial 0 0 1))
 takesSome "Float" (named "End" (dial 1 0 1))
 givesMany "Spline" ["useSplineList", "useStartList", "useEndList"] ("Spline", "trimmedSpline")) (.append [
 shows "parameterType" bare,
 drawsMore NodeId.drawResolution,
 runs "trimmedSpline = self.trimSpline(spline, start, end)",
 fn3 "trimSpline spline start end" fun n sp start stop => do
  if !(<- ask sp "isEvaluable") || ((<- less start 1e-05) && (<- greater stop 0.99999)) then
   return <- sp.call "copy"
  let start <- minOf (<- maxOf start 0.0) 1.0
  let stop <- minOf (<- maxOf stop 0.0) 1.0
  let (start, stop) <- n.splineParameters sp start stop
  sp.call "getTrimmedCopy" [start, stop]] splineEvaluationMembers)]

end AnimationGraph
