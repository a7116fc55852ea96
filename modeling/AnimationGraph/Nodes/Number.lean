import AnimationGraph.Node.Vocabulary

/-! # Nodes for numbers and truth values

Numbers are compared, rounded, clamped, mapped and made up at random; truth values are combined.
-/

namespace AnimationGraph

/-- A label with the values of inputs in place of their names, where they are not linked. -/
def NodeId.withValues (n : NodeId) (label : Value) : Eval :=
 ["A", "B"].foldlM (fun label name => do
  let s := "socket" ++ name
  if <- truthy (<- (<- n s).attrD "isUnlinked" false) then
   label.call "replace" [name, (<- text (<- rounded (<- n.at s!"{s}.value") 4))]
  else pure label) label

/-- Comparisons of numbers: their signs and the names of the functions for lists. -/
def numberComparisons : List (String × String × String) := [
 ("A=B", "==", "Equal"), ("A!=B", "!=", "NotEqual"), ("A<B", "<", "LessThan"), ("A>B", ">", "GreaterThan"),
 ("A<=B", "<=", "LessThanOrEqual"), ("A>=B", ">=", "GreaterThanOrEqual")]

def comparisonLabels : Pairs := [("A=B", "A = B"), ("A!=B", "A != B"), ("A<B", "A < B"), ("A>B", "A > B"),
 ("A<=B", "A <= B"), ("A>=B", "A >= B")]

def assignsType : Members := [drawsMore fun n l => n.offerTypes l "assignType",
 act1 "assignType dataType" fun n ty => do
  if <- notEqual (<- n "assignedType") ty then
   n.set "assignedType" ty
   n.refresh]

def socketsAB : Members :=
 ["A", "B"].map fun name => prop ("socket" ++ name) fun n => (Value.sockets n .input).call "get" [name]

def numberNodes : List NodeKind := [
.hiddenLabel <| .of "Compare Numbers" (listFlags ["A", "B"] ++ [choice "compareType" "A=B" rebuilds]) (do
 takesSome "Float" "A" "A"
 takesSome "Float" "B" "B"
 givesMany "Boolean" ["useAList", "useBList"] "Result" "Result") ([
 shows "compareType" "Type",
 labels fun n => do n.withValues (<- labelled .endOfIteration comparisonLabels (<- n "compareType")),
 writes fun n _ => do
  if <- n.isAny ["useAList", "useBList"] then emit "result = self.executeList(a, b)"
  else emits (<- linesOf (<- n.call "executeSingle")),
 writes0 "executeSingle" fun n => do
  if let some (sign, _) := numberComparisons.lookup (<- n.word "compareType") then
   emit s!"result = a {sign} b",
 fn2 "executeList a b" fun n a b => do
  let ls <- endlessNumbers [a, b]
  let k <- longest "Double" ls
  let some (_, name) := numberComparisons.lookup (<- n.word "compareType") | pure .none
  kernel s!"compareNumbers_{name}" (ls ++ [k])] ++ socketsAB),
.called "NumberConstants" <| .hiddenLabel <| .of "Constants" [choice "constant" "Pi" rebuilds,
 choice "factor" "1" rebuilds]
  (gives "Float" "Value") [
 drawsRow fun n row => do
  row.prop n "factor" bare
  row.prop n "constant" bare,
 labels fun n => do
  if (<- n "factor").is "1" then return <- n "constant"
  return (<- n.textOf "factor") ++ " " ++ (<- n.textOf "constant"),
 writes fun n _ => do
  n.emitBy "constant" [("Pi", "value = math.pi"), ("e", "value = math.e")]
  unless (<- n "factor").is "1" do emit ("value *= " ++ (<- n.textOf "factor")),
 usesModules ["math"]],
.found (tagsFor "conversionType" [("Degree to Radian", "DEGREE_TO_RADIAN"),
 ("Radian to Degree", "RADIAN_TO_DEGREE")]) <|
 .of "Convert Angle" [menu "conversionType" "DEGREE_TO_RADIAN", flag "useList"] (do
 let sockets (src dst : String) : ReaderT NodeId Run Unit := do
  takesAny "Float" (src, "inAngle")
  givesAny "Float" (dst, "outAngle")
 match <- word "conversionType" with
 | "DEGREE_TO_RADIAN" => sockets "Degree" "Radian"
 | "RADIAN_TO_DEGREE" => sockets "Radian" "Degree"
 | _ => pure ()) [
 shows "conversionType" bare,
 runsCode fun n => do
  match <- n.word "conversionType", <- n.is "useList" with
  | "DEGREE_TO_RADIAN", true => pure "outAngles = AN.nodes.number.c_utils.degreesToRadians(inAngles)"
  | "RADIAN_TO_DEGREE", true => pure "outAngles = AN.nodes.number.c_utils.radiansToDegrees(inAngles)"
  | "DEGREE_TO_RADIAN", _ => pure "outAngle = inAngle / 180 * math.pi"
  | "RADIAN_TO_DEGREE", _ => pure "outAngle = inAngle * 180 / math.pi"
  | _, _ => pure .none,
 usesModules ["math"]],
.called "FloatClamp" <| .hiddenLabel <| .of "Clamp" [flag "useValueList"] (do
 takesSome "Float" "Value" (named "Values" [modified])
 float ("Min", "minValue") [val 0.0]
 float ("Max", "maxValue") [val 1.0]
 givesSome "Float" ("Value", "outValue")) [
 runsEither "useValueList" #["outValues = values", "outValues.clamp(minValue, maxValue)"]
  #["outValue = min(max(value, minValue), maxValue)"],
 labels fun n => do
  let mut label := "clamp(min, max)"
  for name in ["Min", "Max"] do
   let s <- n.inputNamed name
   if <- holds s "isUnlinked" then label := label.replace name.toLower (<- text (<- rounded (<- s "value") 4))
  pure label],
.alwaysLabel <| .of "Float to Integer" [choice "type" "FLOOR" rebuilds] (do
 takes "Float"
 gives "Integer") [
 labels fun n => return "to Integer (" ++ (<- text (<- n.use "type.lower")) ++ ")",
 showsMore "type" bare,
 runsCode (·.lineBy "type" [("ROUND", "integer = int(round(float))"), ("CEILING", "integer = int(math.ceil(float))"),
  ("FLOOR", "integer = int(math.floor(float))")]),
 usesModules ["math"]],
.of "Float to Text" [flag "useList"] (do
 takesAny "Float" "Number"
 int "Min Length" (dial 10)
 int "Decimals" (dial 3)
 bool "Insert Sign" [val false]
 givesAny "Text") [
 runsBy (.ifSet "useList" "executeList" "executeSingle"),
 fn4 "executeSingle number minLength decimals insertSign"
   fun n num len digits insertSign => do
  (<- n.call "getFormatString" [len, digits, insertSign]).call "format" [num],
 fn4 "executeList numbers minLength decimals insertSign"
   fun n ns len digits insertSign => do
  mapList ns ((<- n.call "getFormatString" [len, digits, insertSign]).call "format" [·]),
 fn3 "getFormatString minLength decimals insertSign" fun _ len digits insertSign => do
  return ("\x7b" ++ ":" ++ (if <- truthy insertSign then "+" else "") ++ "0" ++ (<- text (<- maxOf len 0)) ++ "." ++
    (<- text (<- maxOf digits 0)) ++ "f" ++ "\x7d")],
wiggleNode "Float" "Number" "Double" (pure 1.0) id,
.found (tagsFor "operation" [("Add List Numbers", "ADD"), ("Multiply List Numbers", "MULTIPLY"),
 ("Min List Numbers", "MIN"), ("Max List Numbers", "MAX"), ("Average List Numbers", "AVERAGE")]) <|
 .of "Number List Math" [choice "operation" "ADD" rebuilds] (fun n => do
 n.takes "Float List" ("Number List", "numbers")
 n.gives "Float" "Result"
 if (<- n "operation").isOneOf ["MIN", "MAX"] then n.gives "Integer" "Index" [hide]) [
 shows "operation" bare,
 code fun n _ => do
  let extreme (name : String) : Array String := #[
   s!"index = int(numpy.arg{name}(numbers.asNumpyArray())) if len(numbers) > 0 else 0",
   "result = numbers[index] if len(numbers) > 0 else 0"]
  match <- n.word "operation" with
  | "ADD" => return #["result = numbers.getSumOfElements()"]
  | "MULTIPLY" => return #["result = numbers.getProductOfElements()"]
  | "MIN" => return extreme "min"
  | "MAX" => return extreme "max"
  | "AVERAGE" => return #["result = numbers.getAverageOfElements() if len(numbers) > 0 else 0"]
  | _ => return #[],
 usesModules ["numpy"]],
.of "Map Range" [toggle "clampInput" true, toggle "useInterpolation", flag "useValueList"] (do
 takesSome "Float" "Value"
 float ("Input Min", "inMin") [val 0]
 float ("Input Max", "inMax") [val 1]
 float ("Output Min", "outMin") [val 0]
 float ("Output Max", "outMax") [val 1]
 if (<- is "useInterpolation") && (<- is "clampInput") then takes "Interpolation" "Interpolation" [unnamed]
 givesSome "Float" ("Value", "newValue")) [
 drawsRow fun n row => do
  row.prop n "clampInput" [("icon", "FULLSCREEN_EXIT"), ("text", "Clamp"), ("toggle", false)]
  let subrow <- row.line
  subrow.set "active" (<- n "clampInput")
  subrow.prop n "useInterpolation" [("icon", "IPO_BEZIER"), ("text", "Interpolate")],
 writes fun n _ => do
  if <- n.is "useValueList" then
   if (<- n.is "useInterpolation") && (<- n.is "clampInput") then
    emits #["newValues = self.execute_Multiple_Interpolated(",
     "    values, inMin, inMax, outMin, outMax, interpolation)"]
   else emit "newValues = self.execute_Multiple(values, inMin, inMax, outMin, outMax)"
  else emits (<- linesOf (<- n.call "iterExecutionCode_Single")),
 writes0 "iterExecutionCode_Single" fun n => do
  emits #["if inMin == inMax: newValue = 0", "else:"]
  if <- n.is "clampInput" then
   emit "    _value = min(max(value, inMin), inMax) if inMin < inMax else min(max(value, inMax), inMin)"
   if <- n.is "useInterpolation" then
    emit "    newValue = outMin + interpolation((_value - inMin) / (inMax - inMin)) * (outMax - outMin)"
   else emit "    newValue = outMin + (_value - inMin) / (inMax - inMin) * (outMax - outMin)"
  else emit "    newValue = outMin + (value - inMin) / (inMax - inMin) * (outMax - outMin)",
 method "execute_Multiple values inMin inMax outMin outMax" fun n b => do
  kernel "mapRange_DoubleList" (b 0 :: (<- n "clampInput") :: b.toList.tail),
 method "execute_Multiple_Interpolated values inMin inMax outMin outMax interpolation" fun _ b =>
  kernel "mapRange_DoubleList_Interpolated" [b 0, b 5, b 1, b 2, b 3, b 4]],
.variants "dataType" [("Float Range", "Float"), ("Integer Range", "Integer")] <| .of "Number Range"
  [words "dataType" "Float" NodeId.refresh, menu "floatStepType" "START_STEP", flag "includeEndPoint" true rebuilds]
  (do
 int "Amount" (dial 5)
 match <- word "dataType" with
 | "Float" =>
  float "Start"
  match <- word "floatStepType" with
  | "START_STEP" => float "Step" [val 1]
  | "START_STOP" => float "Stop" [val 1]
  | _ => pure ()
  takes "Interpolation" "Interpolation" [unnamed, hide]
 | "Integer" =>
  int "Start"
  int "Step" [val 1]
 | _ => pure ()
 gives (<- listType (<- textOf "dataType")) "List") [
 draws fun n l => do
  if (<- n "dataType").is "Float" then
   l.prop n "floatStepType" bare
   if (<- n "floatStepType").is "START_STOP" then l.prop n "includeEndPoint",
 labels fun n => return (<- (<- n.input 1).dataType) ++ " Range",
 runsBy (.byItem "dataType" [("Integer", "execute_IntegerRange"), ("Float", .byItem
   "floatStepType" [("START_STEP", "execute_FloatRange_StartStep"), ("START_STOP",
   "execute_FloatRange_StartStop")])]),
 delegates "execute_IntegerRange amount start step" "range_LongList_StartStep",
 fn4 "execute_FloatRange_StartStep amount start step interpolation"
   fun _ k start step interp => do
  if <- lessEqual k 0 then return <- kernel "DoubleList"
  if <- equal k 1 then return <- kernel "DoubleList.fromValues" [<- list [start]]
  if <- isA interp "LinearInterpolation" then kernel "range_DoubleList_StartStep" [k, start, step]
  else kernel "range_DoubleList_StartStep_Interpolated" [k, start, step, interp],
 fn4 "execute_FloatRange_StartStop amount start stop interpolation"
   fun n k start stop interp => do
  if <- lessEqual k 0 then return <- kernel "DoubleList"
  if <- equal k 1 then return <- kernel "DoubleList.fromValues" [<- list [start]]
  let steps <- if <- n.is "includeEndPoint" then sub k 1 else pure k
  n.call "execute_FloatRange_StartStep" [k, start, <- div (<- sub stop start) steps, interp]],
.of "Parse Number" [flag "parsingSuccessfull", flag "useList"] (do
 takesAny "Text" (named "Text" [val "0"])
 givesAny "Float" "Number") [
 draws fun n l => do unless <- n.is "parsingSuccessfull" do l.sign "Parsing Error" "ERROR",
 runsEither "useList" #["try:", "    numbers = DoubleList.fromValues(float(text) for text in texts)",
  "    self.parsingSuccessfull = True", "except:", "    numbers = DoubleList()",
  "    self.parsingSuccessfull = False"]
  #["try:", "    number = float(text)", "    self.parsingSuccessfull = True", "except:", "    number = 0",
   "    self.parsingSuccessfull = False"]],
.of "Random Number" seedProperties (do
 takesSeed
 float ("Min", "minValue") [val 0.0]
 float ("Max", "maxValue") [val 1.0]
 givesSeeded "Float" "Number" "Numbers") (withSeed [showsSeed,
 runsEither "createList"
  #["numbers = self.calcRandomNumbers(seed, count, minValue, maxValue)"]
  #["number = algorithms.random.uniformRandomDoubleWithTwoSeeds(seed, self.nodeSeed, minValue, maxValue)"],
 fn4 "calcRandomNumbers seed count minValue maxValue" fun n seed k v maxValue => do
  kernel "random_DoubleList" [<- add (<- mul seed 234123) (<- mul (<- n "nodeSeed") 1234434), k, v, maxValue]]),
.of "Round Number" [] (do
 float "Number"
 int "Decimals"
 gives "Float" "Result") [
 runsLines #["result  = int(round(number, decimals)) if decimals <= 0 else round(number, decimals)"]],
.of "Sort Numbers" [] (do
 takes "Float List" "Numbers"
 gives "Float List" "Sorted Numbers"
 gives "Integer List" "Indices") [
 writes fun _ req => do
  if <- has req "sortedNumbers" then
   emits #["if len(numbers):", "    sortedNumbers = DoubleList.fromNumpyArray(numpy.sort(numbers.asMemoryView()))",
    "else:", "    sortedNumbers = DoubleList()"]
  if <- has req "indices" then
   emits #["if len(numbers):",
    "    indices = LongList.fromNumpyArray(numpy.argsort(numbers.asMemoryView()).astype(int))", "else:",
    "    indices = LongList()"],
 usesModules ["numpy"]],
.hiddenLabel <| .of "Boolean List Logic" [choice "compareType" "ALL_TRUE" rebuilds] (do
 takes "Boolean List" ("Boolean List", "inList")
 gives "Boolean" "Result") [
 shows "compareType" bare,
 labelsBy "compareType" [("ALL_TRUE", "All True"), ("ALL_FALSE", "All False"), ("NOT_ALL_TRUE", "Not All True"),
  ("NOT_ALL_FALSE", "Not All False")],
 writes fun n _ => do
  emit "if len(inList) > 0:"
  n.emitBy "compareType" [("ALL_TRUE", "    result = inList.allTrue()"), ("ALL_FALSE", "    result = inList.allFalse()"),
   ("NOT_ALL_TRUE", "    result = not inList.allTrue()"), ("NOT_ALL_FALSE", "    result = not inList.allFalse()")]
  emit "else:"
  n.emitBy "compareType" [("ALL_TRUE", "    result = True"), ("ALL_FALSE", "    result = True"),
   ("NOT_ALL_TRUE", "    result = False"), ("NOT_ALL_FALSE", "    result = False")]],
.hiddenLabel <| .of "Compare" [words "assignedType" "Integer", menu "compareType" "A=B"] (fun n => do
 n.followInput (.dataType "A" "a" "assignedType" [])
 unless (<- n "compareType").is "A_IS_NONE" do n.followInput (.dataType "B" "b" "assignedType" [])
 n.gives "Boolean" "Result") ([
 shows "compareType" "Type",
 labels fun n => do
  let label <- labelled .index (comparisonLabels ++ [("A_IS_B", "A is B"), ("A_IS_NONE", "A is None")])
   (<- n "compareType")
  if (<- n "assignedType").isOneOf ["Integer", "Float"] && ((<- n.inputs).length == 2) then n.withValues label
  else pure label,
 runsCode fun n => do
  match <- n.word "compareType" with
  | "A=B" => pure "result = a == b"
  | "A!=B" => pure "result = a != b"
  | "A_IS_B" => pure "result = a is b"
  | "A_IS_NONE" => pure "result = a is None"
  | type => match numberComparisons.lookup type with
   | some (sign, _) => return s!"try: result = a {sign} b \nexcept: result = False"
   | none => pure "result = False"] ++ assignsType ++ socketsAB),
.of "Invert Boolean" [flag "useList"] (do
 takesAny "Boolean" "Input" (named "Input" [modified])
 givesAny "Boolean" "Output" "Output") [
 runsEither "useList" #["input.invertAll()", "output = input"] #["output = not input"]],
.hiddenLabel <| .of "Logic Operators" [choice "operation" "AND" rebuilds] (do
 takesEach "Boolean" ["A", "B"]
 gives "Boolean" "Result") [
 shows "operation" bare,
 labelsBy "operation" [("AND", "A and B"), ("NAND", "not (A and B)"), ("OR", "A or B"), ("NOR", "not (A or B)"),
  ("XOR", "A xor B")],
 runsCode (·.lineBy "operation" [("AND", "result = a and b"), ("NAND", "result = not (a and b)"),
  ("OR", "result = a or b"), ("NOR", "result = not (a or b)"), ("XOR", "result = a ^ b")])],
.of "Random Boolean" seedProperties (do
 takesSeed "Integer" 1
 givesSeeded "Boolean" "Boolean" "Booleans"
 float "Probability" [val 0.5, atLeast 0, atMost 1, hide]) ([
 showsSeed, runsSeeded "booleans = AN.nodes.boolean.c_utils.generateRandomBooleans(_seed, count, probability)"
  #["boolean = self.execute_single(_seed, probability)"],
 fn2 "execute_single seed probability" fun _ _ limit => do less (<- randomFraction) limit] ++ reseeds),
.of "Switch" [words "assignedType" "Float"] (do
 takes "an_BooleanSocket" "Condition"
 followInput (.dataType "If True" "ifTrue" "assignedType" [])
 followInput (.dataType "If False" "ifFalse" "assignedType" [])
 followOutput (.dataType "Output" "output" "assignedType" [])
 followOutput (.dataType "Other" "other" "assignedType" []) [hide]) (assignsType ++ [
 writes fun _ req => emitWanted req [("output", "ifTrue if condition else ifFalse"),
  ("other", "ifFalse if condition else ifTrue")]])]

end AnimationGraph
