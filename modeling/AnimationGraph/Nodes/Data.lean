import AnimationGraph.Data.Motion
import AnimationGraph.Code.Program
import AnimationGraph.Script.Eval

/-! # Nodes for data of any type

Data is given, converted, compared, mixed and switched whatever its type is.
-/

namespace AnimationGraph

def expressionLines (e : String) (ns modules : Texts) : Texts :=
 Code.importLines [] ++ (modules.flatMap fun name => ["import " ++ name, s!"from {name} import *"]) ++
  ["def main(" ++ commaList ns ++ "):", "    __result__ = " ++ e, "    return __result__"]

def functionOfExpression (e : String) (ns modules : Texts) : Eval := do
 let some body := Script.compile? ("\n".intercalate (expressionLines e ns modules)) | fail .malformed
 let globals <- newDict []
 if let .cell table := globals then Script.run table body
 item globals "main"

def longestOf (ls : Values) : Eval := kernel "VirtualDoubleList.getMaxRealLength" ls
def subscript (type name : String) : String := "[(" ++ Quoted.literal type ++ ", " ++ Quoted.literal name ++ ")]"
def structElement (type name : String) : String := "struct" ++ subscript type name

def mixLabels : Pairs := [
 ("Matrix", "Mix Matrices"), ("Vector", "Mix Vectors"), ("Float", "Mix Floats"), ("Color", "Mix Colors"),
 ("Euler", "Mix Eulers"), ("Quaternion", "Mix Quaternions")]

def mixedTypes (label : String -> String) : Pairs := mixLabels.map fun (t, _) => (label t, t)

/-- The lists of the types that can be mixed: what their endless lists and what their mixers are called by. -/
def mixedLists : List (String × String × String) := [("Float", "Double", "Double"), ("Vector", "Vector3D", "Vector"),
 ("Matrix", "Matrix4x4", "Matrix"), ("Color", "Color", "Color"), ("Euler", "Euler", "Euler"),
 ("Quaternion", "Quaternion", "Quaternion")]

def animatedFlags : Texts := ["useListTime", "useListStartTime", "useListStart", "useListEnd", "useListDuration"]
def mixFlags : Texts := ["useAList", "useBList", "useFactorList"]
def NodeId.expression (n : NodeId) : Eval := do item (<- table "expressionByIdentifier") (<- n "identifier")

def dataNodes : List NodeKind := [
.variants "dataType" (mixedTypes ("Animate " ++ ·)) <|
 .of "Animate Data" (words "dataType" "Float" NodeId.refresh :: animatedFlags.map (flag ·)) (do
 takesMany "Float" ["useListTime"] "Time" ("Times", "time")
 takesMany "Float" ["useListStartTime"] (named "Start Time" [val 0]) ("Start Times", "startTime") [hide]
 takesMany (<- textOf "dataType") ["useListStart"] "Start Value" ("Start Values", "startValue")
 takesMany (<- textOf "dataType") ["useListEnd"] "End Value" ("End Values", "endValue")
 takes "Interpolation" "interpolation" [unnamed]
 takesMany "Float" ["useListDuration"] (named "Duration" (dial 20 0.001)) ("Durations", "duration")
 givesMany (<- textOf "dataType") animatedFlags "Result" "Results"
 givesMany "Float" animatedFlags ("Time", "outTime") ("Times", "outTimes")) [
 labels fun n => return "Animate " ++ (<- (<- n.input 2).dataType),
 writes fun n _ => do
  if <- n.isAny animatedFlags then
   let endless (name : String) := s!"s = AN.data_structures.VirtualDoubleList.create({name}, 0)"
   for name in ["time", "startTime", "duration"] do emit (name ++ endless name)
   let (list, mixer) <- need .key (mixedLists.lookup (<- n.word "dataType"))
   emits #[s!"startValues, endValues = AN.data_structures.Virtual{list}List.createMultiple((startValue, 0), (endValue, 0))",
    "amount = AN.data_structures.VirtualDoubleList.getMaxRealLength(times, startTimes, startValues, endValues, durations)",
    "factors = AN.nodes.generic.c_utils.calculateInfluenceList(times, startTimes, interpolation, durations, amount)",
    "_factor" ++ endless "factors",
    "outTimes = AN.nodes.generic.c_utils.executeTimeList(times, startTimes, durations, amount)"]
   let module := if mixer == "Matrix" then "mix_data" else "c_utils"
   emit s!"results = AN.nodes.generic.{module}.mix{mixer}Lists(startValues, endValues, _factors, amount)"
  else
   emits #["finalDuration = max(duration, 0.0001)",
    "influence = max(min((time - startTime) / finalDuration, 1.0), 0.0)", "influence = interpolation(influence)",
    <- mixCode (<- n.textOf "dataType") "startValue" "endValue" "influence" "result",
    "outTime = time - startTime - finalDuration"]],
.called "BlendDataByName" <| .variants "dataType"
  (["Object", "Scene", "Collection", "Text Block", "Material"].map fun t => (t ++ " by Name", t)) <|
 .of "Data by Name" [words "dataType" "Object" NodeId.refresh] (do
 str "Name" [unnamed]
 gives (<- textOf "dataType") ((<- textOf "dataType"), "output")) [
 labels fun n => return (<- n.textOf "dataType") ++ " by Name",
 runsCode fun n => do
  return ("output = bpy.data." ++
    (<- text (<- labelled .key
    [("Object", "objects"), ("Scene", "scenes"), ("Collection", "collections"), ("Text Block", "texts"),
    ("Material", "materials")] (<- n "dataType"))) ++ ".get(name)")],
.of "Convert" [words "dataType" "Generic", whole "lastCorrectionType", toggle "fixedOutputDataType"] (do
 takes "Generic" "Old" [modified]
 if <- is "fixedOutputDataType" then gives (<- textOf "dataType") "New"
 else followOutput (.dataType "New" "new" "dataType" ["Generic"])) [
 act0 "setup" fun n => n.set "width_hidden" 45,
 draws fun n l => do
  let row <- l.line
  n.selector row "DATA_TYPE" "assignOutputType" { text := "to " ++ (<- n.textOf "dataType") }
  let icon := if <- n.is "fixedOutputDataType" then "LOCKED" else "UNLOCKED"
  row.prop n "fixedOutputDataType" [("icon", icon), ("text", "")]
  if <- fits n "lastCorrectionType" 2 then l.sign "Conversion Failed" "ERROR",
 act1 "assignOutputType dataType" fun n ty => do
  n.set "fixedOutputDataType" true
  if <- notEqual (<- n "dataType") ty then
   n.set "dataType" ty
   n.refresh,
 runsLines #["new, self.lastCorrectionType = self.outputs[0].correctValue(old)"]],
.variants "assignedType" ((socketTypes.types.filter (·.drawn)).map fun t => (t.name ++ " Input", t.name)) <|
 .of "Data Input" [words "assignedType" "Float" NodeId.refresh] (fun n => do
 let s <- n.newInput (<- n.textOf "assignedType") "Input" "value" [modified, hide]
 n.tell "setupSocket" [s]
 n.tell "setupSocket" [<- n.newOutput (<- n.textOf "assignedType") "Output" "value"]) [
 act1 "setupSocket socket" fun n s => do
  (<- s "display").set "text" true
  s.set "text" (<- n "assignedType")
  s.set "defaultDrawType" "PREFER_PROPERTY",
 draws fun n l => do
  let inputSocket <- n.input 0
  if <- holds inputSocket "hide" then
   if <- (Value.socket inputSocket).hasAttr "drawProperty" then inputSocket.tell "drawProperty" [l, "", n]
   else l.sign "Default Used" "INFO",
 labels fun n => return (<- (<- n.input 0).dataType) ++ " Input",
 drawsMore fun n l => n.offerTypes l "assignSocketType",
 runsCode fun _ => list [],
 act1 "assignSocketType dataType" fun n ty => n.set "assignedType" ty],
.of "Data Interface" [menu "dataDirection" "IMPORT", accessor "value" (·.call "getValue") (·.tell "setValue" [·])]
  (fun n => do
 if (<- n "dataDirection").is "EXPORT" then n.takes "Generic" "Value"
 if (<- n "dataDirection").is "IMPORT" then n.gives "Generic" "Value") [
 shows "dataDirection" bare,
 runsCode fun n => do
  if (<- n "dataDirection").is "EXPORT" then return "self.setValue(value)"
  if (<- n "dataDirection").is "IMPORT" then return "value = self.getValue()"
  pure .none,
 act1 "setValue value" fun n v => do setItem (<- table "dataByIdentifier") (<- n "identifier") v,
 fn0 "getValue" fun n => do (<- table "dataByIdentifier").call "get" [<- n "identifier"]],
.hiddenLabel <| .edited "Expression" [words "expression" "" (calling "settingChanged"), words "errorMessage",
 whole "lastCorrectionType", flag "containsSyntaxError", flag "debugMode" true rebuilds,
 flag "correctType" true rebuilds, words "moduleNames" "math" rebuilds,
 words "outputDataType" "Generic" (calling "outputDataTypeChanged"), flag "fixedOutputDataType",
 flag "inlineExpression" false rebuilds] [
 act1 "settingChanged context?" fun n _ => do
  n.set "errorMessage" ""
  n.set "containsSyntaxError" (!(<- isValidCode (<- n.textOf "expression")))
  codeChanged,
 act1 "outputDataTypeChanged context" fun n _ => n.tell "recreateOutputSocket",
 act0 "setup" fun n => do
  n.takes "Node Control" ("New Input", "New Input")
  n.gives "Generic" "Result",
 act0 "recreateOutputSocket" fun n => n.keepingState do
  n.tell "clearOutputs"
  n.gives (<- n.word "outputDataType") "Result",
 draws fun n l => do
  let mut row <- l.line
  row.prop n "expression" bare
  n.selector row "DATA_TYPE" "changeOutputTypeManually" { icon := "PREFERENCES" }
  let col <- l.stack
  if <- n.is "containsSyntaxError" then col.sign "Syntax Error" "ERROR"
  else
   if (<- n.is "debugMode") && !(<- n "expression").is "" then
    unless (<- n "errorMessage").is "" do
     row := <- col.row
     row.sign (<- n "errorMessage") "ERROR"
     n.button row "clearErrorMessage" { icon := "X", emboss := false }
   if <- n.is "correctType" then
    if <- fits n "lastCorrectionType" 1 then col.sign "Automatic Type Correction" "INFO"
    else if <- fits n "lastCorrectionType" 2 then
     col.sign "Wrong Output Type" "ERROR"
     col.sign ("Expected " ++ (<- literal (<- n "outputDataType"))) "INFO",
 drawsMore fun n l => do
  l.prop n "moduleNames"
  let col <- l.stack
  col.prop n "debugMode"
  col.prop n "correctType"
  col.prop n "inlineExpression"
  l.prop n "fixedOutputDataType",
 labels (· "expression"),
 drawsNew "newInputSocket",
 fn0 "getInputSocketVariables" fun n => do
  newDict (<- (<- n.inputs).mapM fun s => return (<- s.identifier, <- s "text")),
 writes fun n _ => do
  if (<- n.use "expression.strip").is "" || (<- n.is "containsSyntaxError") then
   emits #["self.errorMessage = ''", "result = self.outputs[0].getDefaultValue()"]
   return
  let opts <- n.call "getExpressionFunctionSettings"
  unless <- (do has (<- table "expressionByIdentifier") (<- n "identifier")) <&&>
    (do equal (<- item (<- n.expression) 0) opts) do
   n.tell "updateExpressionFunction" [opts]
  if <- n.is "debugMode" then
   emits #["try:", "    result = " ++ (<- text (<- n.call "getExpressionCode")), "    self.errorMessage = ''",
    "except Exception as e:", "    result = None", "    self.errorMessage = str(e)"]
  else emit ("result = " ++ (<- text (<- n.call "getExpressionCode")))
  if <- n.is "correctType" then emit "result, self.lastCorrectionType = self.outputs[0].correctValue(result)",
 fn0 "getExpressionCode" fun n => do
  if <- n.is "inlineExpression" then return <- n "expression"
  let args := commaList (<- (<- ((<- n.inputs).dropLast).mapM (· "text")).mapM text)
  return s!"self.expressionFunction({args})",
 fn0 "getUsedModules" fun n => do
  textList ((((<- n.word "moduleNames").toList.splitOnP (!Letters.isWord ·)).filter (!·.isEmpty)).map .ofList),
 act0 "clearErrorMessage" fun n => n.set "errorMessage" "",
 act1 "updateExpressionFunction settings" fun n opts => do
  let (e, ns, modules) <- unpack3 opts
  let f <- functionOfExpression (<- text e) (<- textsOf ns) (<- textsOf modules)
  setItem (<- table "expressionByIdentifier") (<- n "identifier") (.tuple [opts, f]),
 fn0 "getExpressionFunctionSettings" fun n => do
  let ps <- ((<- n.inputs).dropLast).mapM (· "text")
  let modules <- n.call "getUsedModules"
  tuple [<- n "expression", <- list ps, modules],
 prop "expressionFunction" fun n => do item (<- n.expression) 1,
 act0 "edit" fun n => do
  n.tell "edit_Inputs"
  n.tell "edit_Output",
 act0 "edit_Inputs" fun n => do
  let socket <- n.inputNamed "New Input"
  let origin <- socket "directOrigin"
  if origin.isNone then return
  let dataOrigin <- socket "dataOrigin"
  if (<- dataOrigin "dataType").is "Node Control" then return
  let s <- n.call "newInputSocket" [<- dataOrigin "dataType"]
  socket.tell "removeLinks"
  s.tell "linkWith" [origin],
 act0 "edit_Output" fun n => do
  if <- n.is "fixedOutputDataType" then return
  let ts <- (<- n.output 0) "dataTargets"
  if (<- length ts) == 1 then
   let ty <- (<- item ts 0) "dataType"
   unless ty.isOneOf ["Node Control", "Generic", "Generic List"] do n.tell "changeOutputType" [ty],
 act1 "changeOutputTypeManually dataType" fun n ty => do
  n.set "fixedOutputDataType" true
  n.tell "changeOutputType" [ty],
 act1 "changeOutputType dataType" fun n ty => do
  if <- notEqual (<- n "outputDataType") ty then n.set "outputDataType" ty,
 fn1 "newInputSocket dataType" fun n ty => do
  let name <- n.call "getNewSocketName"
  let s <- n.newInput (<- text ty) (<- text name) "input"
  s.set "dataIsModified" true
  setAll (<- s "textProps") ["variable", "unique"]
  makeEditable s name
  n.placeLast s,
 fn0 "getNewSocketName" fun n => do
  let taken <- (<- n.inputs).mapM fun s : SocketId => do textAt s "text"
  return (("xyzabcdefghijklmnopqrstuvw".toList.map .singleton).find? (!taken.contains ·)).getD "x",
 act0 "socketChanged" fun n => do
  n.tell "settingChanged"
  codeChanged],
.variants "dataType"
  (["Object", "Scene", "Text Block", "Collection", "Material"].map fun t => (s!"Filter {t} List by Name", t)) <|
 .of "Filter Blend Data List By Name"
  [words "dataType" "Object" NodeId.refresh, choice "filterType" "STARTS_WITH" rebuilds,
  flag "caseSensitive" false rebuilds] (do
 let list <- listType (<- textOf "dataType")
 takes list (list, "sourceList")
 str "Name"
 gives list (list, "targetList")) [
 draws fun n l => do
  l.prop n "filterType" [("expand", true)]
  l.prop n "caseSensitive",
 labels fun n => return "Filter " ++ (<- n.textOf "dataType") ++ " List",
 runsCode fun n => do
  let op := if (<- n "filterType").is "STARTS_WITH" then "startswith" else "endswith"
  let low := if <- n.is "caseSensitive" then "" else ".lower()"
  return "targetList = [object for object in sourceList if object is not None and " ++
   s!"getattr(object, 'name', 'NONE'){low}.{op}(name{low})]"],
.called "MixData" <| .variants "dataType" (mixLabels.map .swap) <| .of "Mix"
  ([words "dataType" "Float" NodeId.refresh, flag "clampFactor" false rebuilds] ++ listFlags ["Factor", "A", "B"])
  (do
 takesSome "Float" "Factor" ("Factors", "factor") [modified]
 takesMany (<- textOf "dataType") ["useAList"] "A" "A"
 takesMany (<- textOf "dataType") ["useBList"] "B" "B"
 givesMany (<- textOf "dataType") mixFlags "Result" ("Results", "result")) [
 shows "clampFactor",
 labels fun n => do
  let many <- n.isAny mixFlags
  let type : Value := <- (<- n.output 0).dataType
  labelled .key mixLabels (<- if many then do (<- type.call "strip" ["List"]).call "rstrip" else pure type),
 writes fun n _ => do
  if <- n.isAny mixFlags then emit "result = self.execute_MixDataList(a, b, factor)"
  else
   emits #[
    if <- n.is "clampFactor" then "f = min(max(factor, 0.0), 1.0)" else "f = factor",
    <- mixCode (<- n.textOf "dataType") "a" "b" "f" "result"],
 fn3 "execute_MixDataList mix1 mix2 factor" fun n a b factor => do
  let mut factor := factor
  if <- n.is "clampFactor" then
   if <- n.is "useFactorList" then factor.tell "clamp" [0, 1]
   else factor := <- minOf (<- maxOf factor 0.0) 1.0
  let factors <- endless "Double" factor 0
  let mixed (cls f : String) (d : Value) : Eval := do
   let (a, b) <- unpack2 (<- kernel s!"Virtual{cls}List.createMultiple" [.tuple [a, d], .tuple [b, d]])
   kernel s!"mix{f}Lists" [a, b, factors, <- longestOf [a, b, factors]]
  match <- n.word "dataType" with
  | "Float" => mixed "Double" "Double" 0
  | "Vector" => mixed "Vector3D" "Vector" (<- vector [0, 0, 0])
  | "Quaternion" => mixed "Quaternion" "Quaternion" (<- newQuaternion [1, 0, 0, 0])
  | "Matrix" =>
   let first <- kernel "Matrix"
   let second <- kernel "Matrix"
   let (a, b) <- unpack2 (<- kernel "VirtualMatrix4x4List.createMultiple" [.tuple [a, first], .tuple [b, second]])
   mixMatrices a b factors (<- longestOf [a, b, factors])
  | "Color" => mixed "Color" "Color" (<- rgba [0, 0, 0, 0])
  | "Euler" => mixed "Euler" "Euler" (<- newEuler [0, 0, 0])
  | _ => pure .none],
.variants "dataType" (mixedTypes (s!"Mix {·} List")) <|
 .of "Mix Data List" [words "dataType" "Float" NodeId.refresh, flag "repeat" false rebuilds] (do
 let list <- listType (<- textOf "dataType")
 float "Factor"
 takes list (list, "dataList")
 takes "Interpolation" "Interpolation" [unnamed]
 gives (<- textOf "dataType") "Result") [
 shows "repeat",
 labelsBy "dataType" ((mixedTypes (s!"Mix {·} List")).map .swap),
 code fun n _ => do
  return #["length = len(dataList)",
   "if length > 0:",
   "    f = (factor" ++ (if <- n.is "repeat" then " % 1" else "") ++ ") * (length - 1)",
   "    before = dataList[max(min(math.floor(f), length - 1), 0)]",
   "    after = dataList[max(min(math.ceil(f), length - 1), 0)]", "    influence = interpolation(f % 1)",
   "    " ++ (<- mixCode (<- n.textOf "dataType") "before" "after" "influence" "result"),
   "else: result = self.outputs[0].getDefaultValue()"],
 usesModules ["math"]],
.edited "Viewport Input" [flag "hidden", whole "orderWeight"] <| .append [
 act0 "setup" fun n => do
  n.set "label" "Viewport Input"
  n.gives "Node Control" ("New Output", "New Output") [("margin", 0.15)],
 act2 "drawControlSocket layout socket" fun n l _ => do
  n.selector (<- layoutOf l) "DATA_TYPE" "newOutputSocket"
    { text := "New Output", description := "Create a new output socket", icon := "ADD", emboss := false }
    "DRAWABLE",
 showsMore "orderWeight",
 writes fun n _ => do
  for (out, i) in ((<- n.outputs).dropLast).zipIdx do
   emit (s!"{(<- out.identifier)} = self.outputs[{i}].getValue()")] (makesOutputs "newOutputSocket"),
{ NodeKind.edited "Get Struct Elements" [flag "makeCopies" true rebuilds] [
  act0 "setup" fun n => do
   n.takes "Struct"
   n.gives "Node Control" ("New Output", "New Output"),
  showsMore "makeCopies", drawsNew "newOutputSocket",
  act0 "edit" fun n => do n.makeFor "newOutputSocket" (<- n.outputNamed "New Output") ["getDisplayedName"],
  makesModified "newOutputSocket" (·.newOutput · · "outputSocket"),
  fn0 "getOutputSocketVariables" fun n => do
   let ns <- numberedVariables (<- n.outputs).dropLast "output_"
   setItem ns "New Output" "newOutput"
   pure ns,
  writes fun n _ => do
   for (s, i) in ((<- n.outputs).dropLast).zipIdx do
    let name := s!"output_{i}"
    let x := structElement (<- s.dataType) (<- textAt s "text")
    emit "try:"
    if (<- ask s "isCopyable") && (<- n.is "makeCopies") then
     emit ("    " ++ name ++ " = " ++
       (<- text (<- (<- s.call "getCopyExpression").call "replace" ["value", x])))
    else emit s!"    {name} = {x}"
    emits #["except:", s!"    socket = self.outputs[{i}]",
     "    self.raiseErrorMessage(self.getDetailedErrorMessage(struct, socket))"],
  fn2 "getDetailedErrorMessage struct socket" fun _ struct s => do
   let types <- struct.call "findDataTypesWithName" [<- s "text"]
   let name := "Name " ++ (<- literal (<- s "text"))
   if <- isEmpty types then
    let names <- struct.call "findNamesWithDataType" [<- s "dataType"]
    if <- isEmpty names then return name ++ " does not exist"
    return name ++ " does not exist.\nOther names with type " ++ (<- literal (<- s "dataType")) ++ ": " ++
     (<- text names)
   else return s!"{name} only exists with these data types: {(<- text types)}",
  act0 "socketChanged" rebuilds] with errorMode := "EXCEPTION" },
.telling <| .of "Get Struct List Elements"
  [flag "makeCopies" true rebuilds, words "elementKey" "" reruns, words "elementDataType" "Integer" NodeId.refresh]
  (do
 takes "Struct List"
 if <- isBaseType (<- textOf "elementDataType") then gives (<- listType (<- textOf "elementDataType")) ("Data", "Data")
 else gives "Generic List" ("Data", "Data")) [
 drawsColumn fun n col => do
  col.prop n "elementKey"
  n.selector col "DATA_TYPE" "assignType" { text := <- textAt n "elementDataType", icon := "TRIA_RIGHT" },
 act1 "assignType dataType" fun n ty => n.set "elementDataType" ty,
 fn1 "execute structList" fun n list => do
  let key : Value := .tuple [<- n "elementDataType", <- n "elementKey"]
  try item (<- (<- n.output 0).call "correctValue" [<- mapList list (item · key)]) 0
  catch _ =>
   n.showError "The key does not exist in all structs"
   (<- n.output 0).call "getDefaultValue"],
.edited "Set Struct Elements" [] [
 act0 "setup" fun n => do
  n.takes "Struct" "Struct" [modified]
  n.takes "Node Control" ("New Input", "New Input")
  n.gives "Struct",
 drawsNew "newInputSocket",
 act0 "edit" fun n => do
  let socket <- n.inputNamed "New Input"
  let origin <- socket "dataOrigin"
  let direct <- socket "directOrigin"
  if origin.isNone then return
  if (<- origin "dataType").is "Node Control" then return
  (<- n.call "newInputSocket" [<- origin "dataType", <- origin.call "getDisplayedName"]).tell "linkWith" [direct],
 makesModified "newInputSocket" (·.newInput · · "inputSocket"),
 fn0 "getInputSocketVariables" fun n => do
  let ns <- numberedVariables ((<- n.inputs).dropLast.drop 1) "input_"
  setItem ns "struct" "struct"
  setItem ns "New Input" "newInput"
  pure ns,
 writes fun n _ => do
  for (s, i) in ((<- n.inputs).dropLast.drop 1).zipIdx do
   emit (structElement (<- textAt s "dataType") (<- textAt s "text") ++ " = input_" ++ toString i),
 act0 "socketChanged" rebuilds]]

end AnimationGraph
