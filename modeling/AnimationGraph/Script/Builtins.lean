import AnimationGraph.Catalogue.Basic
import AnimationGraph.Data.Motion
import AnimationGraph.Script.Eval

/-! # Names that generated scripts use

Vectors, rotations and colours are short sequences of numbers. Generated scripts reach into this library by name: to
measure themselves, to report problems, and to call functions that are written out in no script.
-/

namespace AnimationGraph

def colorFrom (v : Value) : Eval := do
 if (<- length v) != 4 then throw { cause := .value, message := some "Expected a tuple of 4 numbers." }
 newColor (<- iter v)

def numbersFrom (args : Args) (d : Values) (make : Values -> Eval) : Eval := do
 match args.pos with
 | [] => make d
 | v :: _ => make (<- iter v)

def numberKinds : List RecordKind :=
 [
 { name := "Color"
   construct := some fun args => do colorFrom ((<- bindArgs ["color"] args) 0) },
   { name := "Vector", construct := some (numbersFrom · [0, 0, 0] vector) },
   { name := "Quaternion", construct := some (numbersFrom · [1, 0, 0, 0] newQuaternion) },
   { name := "Euler"
     construct := some fun args => do
      let b <- bindArgs [opt "angles" zero3, opt "order" "XYZ"] args
      newEuler (<- iter (b 0)) (<- text (b 1)) }]

def copyByType (type : String) (v : Value) : Eval := do
 let some code := (<- need .key (socketTypes.find? type)).copy | pure v
 Script.resultOf s!"result = {code}" [("value", v)] "result"

abbrev StructEntries := Array ((String × String) × Value)

def structEntries (c : CellId) : Run StructEntries := do
 let .struct es <- readCell c | return #[]
 pure es

def structMembers : Members CellId := [
 fn0 "copyValues" fun c => do
  newCell (.struct (<- (<- structEntries c).mapM fun (k, v) => return (k, <- copyByType k.1 v))),
 fn1 "findDataTypesWithName name" fun c name => do
  textList (((<- structEntries c).toList.filter (·.1.2 == name.word)).map (·.1.1)),
 fn1 "findNamesWithDataType dataType" fun c type => do
  textList (((<- structEntries c).toList.filter (·.1.1 == type.word)).map (·.1.2))] ++ dictMembers

def structKind : RecordKind :=
 { name := "ANStruct"
   construct := some fun _ => newCell (.struct #[])
   members := structMembers }

namespace ColorModel

abbrev Triple := Number × Number × Number

instance : Add Number := ⟨.add⟩
instance : Sub Number := ⟨.sub⟩
instance : Mul Number := ⟨.mul⟩
instance : OfScientific Number := ⟨fun m neg e => .real (.ofScientific m neg e)⟩

def greatest (a b c : Number) : Number :=
 let m := if a.lt b then b else a
 if m.lt c then c else m

def least (a b c : Number) : Number :=
 let m := if b.lt a then b else a
 if c.lt m then c else m

def hue (r g b top range : Number) : Except Cause Number := do
 let rc <- (top - r).div range
 let gc <- (top - g).div range
 let bc <- (top - b).div range
 let h := if r.eq top then bc - gc else if g.eq top then 2.0 + rc - bc else 4.0 + gc - rc
 (<- h.div 6.0).mod 1.0

def toHsv : Triple -> Except Cause Triple
 | (r, g, b) => do
  let top := greatest r g b
  let low := least r g b
  if low.eq top then return (0.0, 0.0, top)
  let range := top - low
  let s <- range.div top
  return (<- hue r g b top range, s, top)

def sector (h : Float) : Except Cause Int :=
 let x := h * 6.0
 match Decimal.truncate x with
 | some i => .ok i
 | none => .error (if x.isNaN then .value else .overflow)

def ofHsv : Triple -> Except Cause Triple
 | (h, s, v) => do
  if s.isZero then return (v, v, v)
  let i <- sector h.toFloat
  let f := h * 6.0 - .whole i
  let p := v * (1.0 - s)
  let q := v * (1.0 - s * f)
  let t := v * (1.0 - s * (1.0 - f))
  return match i % 6 with
   | 0 => (v, t, p)
   | 1 => (q, v, p)
   | 2 => (p, v, t)
   | 3 => (p, q, v)
   | 4 => (t, p, v)
   | _ => (v, p, q)

def toHls : Triple -> Except Cause Triple
 | (r, g, b) => do
  let top := greatest r g b
  let low := least r g b
  let l <- (top + low).div 2.0
  if low.eq top then return (0.0, l, 0.0)
  let range := top - low
  let s <- range.div (if l.le 0.5 then top + low else 2.0 - top - low)
  return (<- hue r g b top range, l, s)

def strength (m1 m2 h : Number) : Except Cause Number := do
 let h <- h.mod 1.0
 let thirds : Number := .real (2.0 / 3.0)
 if h.lt (.real (1.0 / 6.0)) then return m1 + (m2 - m1) * h * 6.0
 else if h.lt 0.5 then pure m2
 else if h.lt thirds then return m1 + (m2 - m1) * (thirds - h) * 6.0
 else pure m1

def ofHls : Triple -> Except Cause Triple
 | (h, l, s) => do
  if s.isZero then return (l, l, l)
  let m2 := if l.le 0.5 then l * (1.0 + s) else l + s - l * s
  let m1 := 2.0 * l - m2
  let third : Number := .real (1.0 / 3.0)
  return (<- strength m1 m2 (h + third), <- strength m1 m2 h, <- strength m1 m2 (h - third))

def toYiq : Triple -> Except Cause Triple
 | (r, g, b) =>
  let y := 0.30 * r + 0.59 * g + 0.11 * b
  .ok (y, 0.74 * (r - y) - 0.27 * (b - y), 0.48 * (r - y) + 0.41 * (b - y))

def clampUnit (c : Number) : Number :=
 if c.lt 0.0 then 0.0 else if Number.lt 1.0 c then 1.0 else c

def ofYiq : Triple -> Except Cause Triple
 | (y, i, q) =>
  let r := y + 0.9468822170900693 * i + 0.6235565819861433 * q
  let g := y - 0.27478764629897834 * i - 0.6356910791873801 * q
  let b := y - 1.1085450346420322 * i + 1.7090069284064666 * q
  .ok (clampUnit r, clampUnit g, clampUnit b)

def asOperation (name : String) (f : Triple -> Except Cause Triple) : Service :=
 op s!"{name} a b c" fun args => do
  match (args 0).number?, (args 1).number?, (args 2).number? with
  | some a, some b, some c =>
   match f (a, b, c) with
   | .ok (x, y, z) => return .tuple [x.toValue, y.toValue, z.toValue]
   | .error e => fail e
  | _, _, _ => fail .type

def operations : Operations := [
 asOperation "colorsys.rgb_to_hsv" toHsv, asOperation "colorsys.hsv_to_rgb" ofHsv,
 asOperation "colorsys.rgb_to_hls" toHls, asOperation "colorsys.hls_to_rgb" ofHls,
 asOperation "colorsys.rgb_to_yiq" toYiq, asOperation "colorsys.yiq_to_rgb" ofYiq]

end ColorModel

def listConversions : Texts := [
 "convert_LongList_to_BooleanList", "convert_DoubleList_to_BooleanList", "convert_BooleanList_to_DoubleList",
 "convert_BooleanList_to_LongList", "convert_Vector3DList_to_Vector2DList", "convert_Vector2DList_to_Vector3DList"]

def measurements : Eval := do
 let ids <- look fun w => (w.forest.trees.toList.flatMap (·.nodes.toList)).map fun n =>
  (w.forest.node n).fields.get? "identifier"
 newDict (<- (ids.filterMap id).mapM fun id => return (id, <- newRecord "NodeMeasurements" []))

variable (name : String)

def problemKind (ps : List Parameter) (construct : Bound -> Run Fields)
  (read : CellId -> Run Problem) : RecordKind where
 name
 construct := some fun args => do newRecord name (<- construct (<- bindArgs ps args))
 members :=
  [fn0 "allowUnitCreation" fun c => return (<- read c).allowsUnits,
  fn0 "allowExecution" fun c => return (<- read c).allowsExecution,
  fn0 "allowAutoExecution" fun c => return (<- read c).allowsAutoExecution,
  prop "reportable" fun c => return (<- read c).deservesReport,
  prop "possiblyDisabledSafetyFeature" fun c => return (<- read c).fromDisabledCheck,
  draws fun c l => do (<- read c).draw l,
  act0 "report" fun c => do report (<- read c)]

def problemKinds : List RecordKind :=
 let plain (p : Problem) := problemKind p.label [] (fun _ => pure []) fun _ => pure p
 let ofNode (make : String -> Problem) :=
  problemKind (make "").label ["nodeIdentifier"] (fun b => pure [("nodeIdentifier", b 0)]) fun c => do
   return make (<- textAt c "nodeIdentifier")
 [plain .linkRecursion, plain .invalidNetworks, plain .identifierTwice, plain .linkedTree, plain .codeCreation,
 plain .malformedScript, plain .unitSetup, plain .execution, ofNode .notInSubprogram, ofNode .notInAutoExecution,
 ofNode .noExecution, ofNode .nodeCode, ofNode .nodeExecution, problemKind "UndefinedNodeExists" ["nodes"]
  (fun b => return [("nodeIDs", <- mapList (b 0) (·.call "toID"))])
  fun c => return .undefinedNodes ((<- each c "nodeIDs").filterMap keyOf?)]

def namedOperations : Operations := [
 asking "getMeasurementsDict" measurements,
 ("notSetUp", fun _ => fail .notSetUp),
 ("kernelCall", fun args =>
  match args.pos with
  | name :: rest => kernel name.word rest args.named
  | [] => fail .type),
 asking "conversionFunctions" <| list (listConversions.map (.operation "kernelCall" [.str ·])),
 doing "extend_bpy_types.register" (setRegister "hostExtended" true),
 doing "extend_bpy_types.unregister" do
  unless <- hostIsExtended do fail .attr
  setRegister "hostExtended" false,
 op1 "getActiveAnimationNodeTree context" activeTree,
 proc "popupText content menu context" fun b => (b 1).bid "layout.label" [] [("text", b 0)],
 asking "getActiveDepsgraph" activeDepsgraph, op1 "getEvaluatedID idObject" evaluated,
 op1 "getFPS scene" framesPerSecond, op2 "cantorPair a b" pairNumber,
 op3 "composeMatrix location rotation scale" composedMatrix,
 op1 "scaleMatrix scale" fun v => scalingMatrix 4 v,
 op1 "rotationMatrix rotation" turningMatrix, op1 "extractRotation matrix" fun m => do turningMatrix (<- m.call "to_euler"),
 op3 "mixEulers a b factor" blendEulers,
 op3 "mixQuaternions x y factor" blendQuaternions,
 op2 "isInsideVolume bvhTree vector" liesInVolume,
 op4 ⟨"getArrayValueAtFrame", ["object", "dataPath", "frame", opt "arraySize" 3]⟩ (arrayAtFrame · · · ·),
 op1 "connectSplines splines" connectedSpline,
 op4 "mixMatrixLists matricesA matricesB factors amount" mixMatrices,
 asking "getSoundSequenceItems self context" do list (<- soundStripItems),
 op1 "getDefaultValue input" fun v => do (<- need .key (socketKindFor? (<- text v))).2.default]

def zipped (vs : Values) : Evals := do
 let mut sized : List Nat := []
 for v in vs do
  let endless <- match v with
   | .cell id =>
    let .iterator _ _ cyclic <- readCell id | pure false
    pure cyclic
   | _ => pure false
  unless endless do sized := sized ++ [<- sizeOfParts v]
 let k := (sized.min?).getD 0
 let cols <- vs.mapM (elementsUpTo · k)
 return (List.range k).map fun i => .tuple (cols.map (·[i]?.getD .none))
where
 sizeOfParts (v : Value) : Run Nat := do
  match v with
  | .kernel .. => statedLength
  | _ =>
   let some xs <- look (·.elements? v) | fail .type
   pure xs.length

def nextOf (v : Value) : Eval := do
 let .cell id := v | fail .type
 let .iterator items next cyclic <- readCell id | fail .type
 let place := if cyclic && !items.isEmpty then next % items.size else next
 let some x := items[place]? | fail .endOfIteration
 writeCell id (.iterator items (next + 1) cyclic)
 pure x

def iteratorOver (v : Value) (cyclic : Bool := false) : Eval := do
 if let .cell id := v then if let .iterator .. <- readCell id then return v
 newCell (.iterator (<- iter v).toArray 0 cyclic)

def kindNames : Value -> Texts
 | .kind name => [name]
 | .tuple ks => ks.flatMap kindNames
 | _ => []

def extremeBy (better : Value -> Value -> Ask) (args : Args) : Eval := do
 let key := (args.named.get? "key").getD .none
 let xs <- match args.pos with
  | [v] => iter v
  | vs => pure vs
 let mut best :: xs := xs | fail .value
 let mut measure <- keyWith key best
 for x in xs do
  let m <- keyWith key x
  if <- better m measure then
   best := x
   measure := m
 pure best

def builtinOperations : Operations := [
 op1 "len obj" (length ·),
 op ⟨"range", ["start", opt "stop" .none, opt "step" 1]⟩ fun b => do list (<- span (b 0) (b 1) (b 2)),
 ("zip", fun args => do list (<- zipped args.pos)),
 op2 ⟨"enumerate", ["iterable", opt "start" 0]⟩ fun x y => do
  let start <- indexOf y
  list ((<- iter x).zipIdx.map fun (v, i) => .tuple [.int (start + .ofNat i), v]),
 op1 "abs x" absolute,
 ("min", extremeBy less), ("max", extremeBy greater),
 op2 ⟨"sum", ["iterable", opt "start" 0]⟩ fun v w => do (<- iter v).foldlM add w,
 op ⟨"sorted", ["iterable", opt "key" .none, opt "reverse" false]⟩ fun b => do
  list (<- sortBy (keyWith (b 1)) (<- truthy (b 2)) (<- iter (b 0))),
 op1 "reversed sequence" fun v => do list (<- iter v).reverse,
 op1 "any iterable" fun v => do anyOf (<- iter v),
 op1 "all iterable" fun v => do allOf (<- iter v),
 ("map", fun args => do
  match args.pos with
  | f :: [v] => mapList v (f.apply [·])
  | f :: vs =>
   list (<- (<- zipped vs).mapM fun
    | .tuple xs => f.apply xs
    | x => f.apply [x])
  | [] => fail .type),
 op2 "filter function iterable" fun f v => do list (<- (<- iter v).filterM fun x => do truthy (<- keyWith f x)),
 op2 "isinstance object kinds" fun v k => isAnyOf v (kindNames k),
 op2 "hasattr object name" fun v name => v.hasAttr name.word,
 ("getattr", fun args => do
  match args.pos with
  | [v, name] => v.attr name.word
  | [v, name, other] => v.attrD name.word other
  | _ => fail .type),
 proc "setattr object name value" fun b => (b 0).set (b 1).word (b 2),
 op1 "repr object" (literal ·),
 op1 "type object" kindOf,
 ("print", fun _ => pure .none),
 op1 "iter object" iteratorOver, op1 "next iterator" nextOf,
 op2 "round number digits?" fun v w => rounded v w,
 op1 "ord character" fun v => do
  let [c] := v.word.toList | fail .type
  pure c.toNat,
 op1 "chr number" fun v => return String.singleton (Char.ofNat (<- natArg v)),
 op1 "callable object" fun v => return v matches .operation .. | .member .. | .kind _]

def plainKind (d : Eval) (convert : Value -> Eval) : RecordKind :=
 { name
   construct := some fun args => do
    match args.pos with
    | [] => d
    | [v] => convert v
    | _ => fail .type }

def plainKinds : List RecordKind := [
 plainKind "str" (pure "") (text ·),
 plainKind "int" (pure 0) wholeOf,
 plainKind "float" (pure 0.0) (toFloat ·),
 plainKind "bool" (pure false) (truthy ·),
 plainKind "list" (list []) fun v => do list (<- iter v),
 plainKind "tuple" (return .tuple []) fun v => return .tuple (<- iter v),
 plainKind "set" (newSet []) fun v => do newSet (<- distinctValues (<- iter v)),
 { name := "dict"
   construct := some fun args => do
    let d <- newDict []
    d.tell "update" args.pos args.named
    return d }]

def failureNames : Texts := Letters.words "Exception BaseException AttributeError KeyError IndexError TypeError ValueError
  NameError ZeroDivisionError OverflowError NotImplementedError SyntaxError AssertionError RecursionError ImportError
  ModuleNotFoundError FileNotFoundError OSError StopIteration LookupError ArithmeticError RuntimeError"

def wholeBy (f : Float -> Float) (v : Value) : Eval := do
 match v with
 | .int i => pure i
 | _ => wholeOf (f (<- toFloat v))

def numberFunctions : List (String × (Float -> Float)) :=
 [("sin", .sin), ("cos", .cos), ("tan", .tan), ("asin", .asin), ("acos", .acos), ("atan", .atan), ("sinh", .sinh),
 ("cosh", .cosh), ("tanh", .tanh), ("exp", .exp), ("fabs", .abs)]

def mathOperations : Operations :=
 (numberFunctions.map fun (name, f) => op1 s!"math.{name} x" fun v => return f (<- toFloat v)) ++ [
 op1 "math.sqrt x" fun v => do
  let x <- toFloat v
  if x < 0.0 then fail .value else pure x.sqrt,
 op1 "math.log x" fun v => do
  let x <- toFloat v
  if x <= 0.0 then fail .value else pure x.log,
 op1 "math.floor x" (wholeBy .floor), op1 "math.ceil x" (wholeBy .ceil),
 op2 "math.pow x y" fun x y => return (<- toFloat x).pow (<- toFloat y),
 op2 "math.atan2 y x" fun y x => return (<- toFloat y).atan2 (<- toFloat x),
 op1 "math.radians x" radians, op1 "math.degrees x" degrees,
 op2 "math.isclose a b" fun a b => isClose a b]

def placeInArray : Service :=
 op1 s!"numpy.{name} array" fun v => do
  let .kernel .. := v | fail .notImplemented
  kernel s!"call .{name}" [v] [("axis", .none), ("out", .none)]

def arraySearches : Operations := [placeInArray "argmin", placeInArray "argmax"]

def operationFields (ops : Operations) : Fields :=
 ops.map fun (name, _) => ((name.splitOn ".").getLastD name, .operation name [])

def dataClasses : Texts := Letters.words "Color ANStruct CList Mesh GPLayer GPFrame GPStroke PolygonIndicesList Vector3DList
  Vector2DList Matrix4x4List EdgeIndicesList EulerList ColorList BooleanList FloatList DoubleList LongList
  IntegerList UShortList CharList QuaternionList UIntegerList ShortList VirtualList VirtualPyList VirtualVector3DList
  VirtualMatrix4x4List VirtualEulerList VirtualBooleanList VirtualFloatList VirtualDoubleList VirtualLongList
  VirtualColorList VirtualVector2DList VirtualQuaternionList Spline PolySpline BezierSpline CDefaultList Attribute
  AttributeType AttributeDomain AttributeDataType Interpolation Falloff BaseFalloff CompoundFalloff Sound SoundData
  SoundSequence MIDINote MIDITrack Action ActionEvaluator ActionChannel PathActionChannel PathIndexActionChannel
  BoundedAction UnboundedAction BoundedActionEvaluator UnboundedActionEvaluator SimpleBoundedAction
  SimpleUnboundedAction DelayAction"

def kindFields (ns : Texts) : Fields := ns.map fun n => (n, .kind n)

def scriptSpaces : List (String × Fields) := [
 ("builtins", operationFields builtinOperations ++ kindFields (plainKinds.map (·.name)) ++ kindFields failureNames),
 ("math",
  operationFields mathOperations ++
   [("pi", 3.141592653589793), ("e", 2.718281828459045), ("inf", .float (1.0 / 0.0)), ("tau", 6.283185307179586)]),
 ("sys", [("modules", .space "sys.modules"), ("exc_info", .operation "handledFailure" [])]),
 ("sys.modules", [("get", .operation "nameSpace" [])]),
 ("itertools", [("cycle", .operation "cycle" []), ("chain", .operation "chain" [])]),
 ("time", [("perf_counter", .operation "currentTime" [])]),
 ("string", [("capwords", .operation "capitalizedWords" [])]), ("numpy", operationFields arraySearches),
 ("random", [("seed", .operation "seed" []), ("randint", .operation "randomBetween" [])]),
 ("colorsys", operationFields ColorModel.operations), ("mathutils",
  kindFields ["Vector", "Matrix", "Quaternion", "Euler"] ++
   ["kdtree", "geometry"].map fun n => (n, .space s!"mathutils.{n}")),
 ("bpy", [("data", .space "bpy.data"), ("context", .operation "computed" ["context"]), ("ops", .space "bpy.ops")]),
 ("animation_nodes.data_structures", kindFields dataClasses)]

def spaceOperations : Operations := arraySearches ++
 [op1 "nameSpace name" fun v => return .space v.word,
 ("handledFailure", fun _ => do
  let v <- register "handled"
  return .tuple [<- kindOf v, v, <- newRecord "traceback" [("tb_lineno", <- register "failedLine")]]),
 op1 "cycle iterable" (iteratorOver · true),
 op1 "capitalizedWords text" fun v => return Edit.capitalizedWords (<- textArg v),
 ("chain", fun args => do list (<- args.pos.mapM iter).flatten),
 ("currentTime", fun _ => pure 0.0),
 op1 "seed value" fun _ => pure .none,
 op2 "randomBetween low high" fun _ _ => fail .notImplemented,
 ("context", fun _ => context)]

end AnimationGraph
