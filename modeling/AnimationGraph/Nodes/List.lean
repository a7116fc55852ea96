import AnimationGraph.Node.Vocabulary

/-! # Nodes for lists

Lists of any type: made, joined, cut, searched, filtered and shuffled.
-/

namespace AnimationGraph

variable (kept : TypeLevel) (names : SocketNames) (n : NodeId)

def ofListType (level : TypeLevel) (opts : Fields) : Template := .listType (named names opts) level "assignedType" kept

section
variable (opts : Fields := [])

def NodeId.takesList : NodeId -> Act := followInput (ofListType kept names .list opts)
def NodeId.takesElement : NodeId -> Act := followInput (ofListType kept names .base opts)
def NodeId.givesList : NodeId -> Act := followOutput (ofListType kept names .list opts)
def NodeId.givesElement : NodeId -> Act := followOutput (ofListType kept names .base opts)

end

export NodeId (takesList takesElement givesList givesElement)

/-- The property for the type of the elements or of the list. -/
def typed (d : String := "Float") : Property := words "assignedType" d

def NodeId.assigned : Run String := n.textOf "assignedType"
def NodeId.offerType (l : LayoutId) : Act := n.offerTypes l "assignListDataType" "LIST"

def offersType (props : Texts := []) : Feature := drawsMore fun n l => do
 props.forM (l.prop n ·)
 n.offerType l

def NodeId.takeType (right : String -> Ask) (type : Value) : Act := do
 unless <- right (<- text type) do return
 if <- equal type (<- n "assignedType") then return
 n.set "assignedType" type
 n.refresh

variable (members : Members)

def withElementType : Members :=
 act1 "assignListDataType listDataType" (fun n list => do n.tell "assignType" [<- baseType (<- text list)])
 :: act1 "assignType baseDataType" (NodeId.takeType · isBaseType)
 :: members

def assignsList (name : String) : Feature := act1 s!"{name} listDataType" (NodeId.takeType · isListType)

def NodeId.newElement (type title : String) : Run SocketId := do
 let s <- n.newInput type title title
 (<- s "display").set "text" true
 setAll s ["dataIsModified", "removeable", "moveable"]
 s.set "text" title
 s.set "defaultDrawType" "PREFER_PROPERTY"
 pure s

def growInputs : Act := do
 let socket <- n.inputNamed "..."
 let o <- socket "directOrigin"
 if o.isNone then return
 (<- n.call "newInputSocket").tell "linkWith" [o]
 socket.tell "removeLinks"

def offerInputs (l : LayoutId) : Act := do
 let row <- l.line
 n.button row "newInputSocket" { text := "New Input", description := "Create a new input socket", icon := "PLUS" }
 n.button row "removeUnlinkedInputs" { description := "Remove unlinked inputs", confirm := true, icon := "X" }

def withGrowingInputs : Members :=
 act1 "assignedTypeChanged context" (fun n _ => n.tell "recreateSockets")
 :: act0 "setup" (·.set "assignedType" "Float")
 :: act1 "assignListDataType listDataType" (fun n list => do n.set "assignedType" (<- baseType (<- text list)))
 :: act1 ⟨"recreateSockets", [opt "inputAmount" 2]⟩ (fun n amount => do
  n.dropSockets
  n.takes "Node Control" "..."
  for _ in <- span amount do n.tell "newInputSocket"
  n.gives (<- listType (<- n.assigned)) ("List", "outList"))
 :: act0 "removeUnlinkedInputs" (fun n => do
  for s in ((<- n.inputs).dropLast) do unless <- holds s "is_linked" do s.tell "remove")
 :: members

/-- Kinds that make a list from as many inputs as there are. -/
def growingKind (label verb lead : String) (props : List Property) : NodeKind :=
 let types := sortByKey (·.1) (socketTypes.types.filterMap fun t => t.element.map (t.name, ·))
 .variants "assignedType" (types.map fun (l, e) => (s!"{verb} {l}", e)) <|
  .edited label (words "assignedType" "" (calling "assignedTypeChanged") :: props) <| withGrowingInputs
   (labels (fun n => return verb ++ " " ++ (<- listType (<- n.assigned))) :: numbersInputs lead :: members)

def collect (outList append : Value) (e : Value × Ask) : Act := do
 unless <- has outList e.1 do if <- e.2 then discard <| append.apply [e.1]

def gather (src : List (Value × Ask)) : Eval := do
 let outList <- n.call "getEmptyStartList"
 src.forM (collect outList (<- outList "append"))
 pure outList

def lacking (list : Value) (xs : Values) : List (Value × Ask) := xs.map fun x => (x, return !(<- has list x))

namespace NodeId

variable (xs ys : Value)

def union : Eval := do gather n (((<- iter xs) ++ (<- iter ys)).map (·, pure true))
def intersection : Eval := do gather n ((<- iter xs).map fun x => (x, has ys x))
def difference : Eval := do gather n (lacking ys (<- iter xs))
def symmetricDifference : Eval := do gather n (lacking ys (<- iter xs) ++ lacking xs (<- iter ys))

end NodeId

def listNodes : List NodeKind := [
.called "AppendList" <| .of "Append to List" [typed] (do
 takesList .base "List" [modified]
 takesElement .base "Element" [modified]
 givesList .base "List") (withElementType [
 offersType,
 runs "list.append(element)"]),
growingKind [
 draws offerInputs,
 offersType,
 writes fun n _ => do
  let names := ((<- n.inputs).dropLast).zipIdx.map fun (_, i) => s!"list_{i}"
  let code <- (<- n.output 0).call "getJoinListsCode"
  emit ("outList = " ++ (<- text (<- code.call "replace" ["value", commaList names]))),
 act0 "edit" growInputs,
 fn0 "newInputSocket" fun n => do
  let s <- n.newElement (<- listType (<- n.assigned)) "List"
  (<- s "textProps").set "editable" true
  n.placeLast s] "Combine Lists" "Combine" "list_" [],
growingKind [
 act1 "hideStatusChanged context" fun n _ => do
  for socket in <- n.inputs do socket.set "hide" (<- n "hideInputs"),
 draws fun n layout => do
  offerInputs n layout
  n.tell "drawTypeSpecifics" [layout],
 drawsMore fun n layout => do
  n.offerType layout
  layout.prop n "hideInputs"
  n.button layout "removeUnlinkedInputs" { text := "Remove Unlinked Inputs", icon := "X" }
  n.tell "drawAdvancedTypeSpecific" [layout],
 runsCode fun n => do
  let names <- (<- n.inputs).zipIdx.filterMapM fun (socket, i) => do
   if (<- socket.dataType) != "Node Control" then return some s!"element_{i}" else pure none
  let expr <- (<- (<- n.output 0).call "getFromValuesCode").call "replace" ["value", "[" ++ commaList names ++ "]"]
  return "outList = " ++ (<- text expr),
 act0 "edit" fun n => do
  n.tell "updateOutputName"
  growInputs n,
 act2 ⟨"assignBaseDataType", ["baseDataType", opt "inputAmount" 2]⟩ fun n base amount => do
  n.set "assignedType" base
  n.tell "recreateSockets" [amount],
 fn0 "newInputSocket" fun n => do
  let s <- n.placeLast (<- n.newElement (<- n.assigned) "Element")
  n.tell "updateOutputName"
  pure s,
 act0 "updateOutputName" fun n => do
  let name := s!"List ({(<- text (<- sub (<- n.inputs).length 1))})"
  if (<- n.outputs).length > 0 then (<- n.output 0).set "name" name,
 drawing "drawTypeSpecifics" fun n layout => do
  if (<- n.inputs).length == 1 then n.tell "drawAdvancedTypeSpecific" [layout],
 drawing "drawAdvancedTypeSpecific" fun n layout => do
  let offer (m : String) := n.button layout m { text := "From Selection", icon := "PLUS" }
  match <- n.word "assignedType" with
  | "Object" | "Spline" => offer "createInputsForSelectedObjects"
  | "Collection" => offer "createInputsForSelectedObjectCollections"
  | _ => pure (),
 act0 "createInputsForSelectedObjects" fun n => do
  let os <- selectedObjects (<- here "view_layer")
  for o in <- iter os do (<- n.call "newInputSocket").set "object" o,
 act0 "createInputsForSelectedObjectCollections" fun n => do
  let cols <- n.call "getCollectionsOfObjects" [<- here "selected_objects"]
  for col in <- iter cols do (<- n.call "newInputSocket").set "collectionName" (<- col "name"),
 fn1 "getCollectionsOfObjects objects" fun _ os => do
  let cols <- newSet []
  for o in <- iter os do
   cols.tell "update" [<- list (<- (<- iter (<- blocks "collections")).filterM fun col => do
    has (<- col "objects") (<- o "name"))]
  list (<- iter cols)] "Create List" "Create" "element_"
 [flag "hideInputs" false (calling "hideStatusChanged")],
.of "Fill List" [typed, choice "fillMode" "RIGHT" rebuilds, flag "makeElementCopies" true rebuilds]
  (do
 takesList .base ("List", "inList") [modified]
 takesElement .base ("Element", "fillElement")
 int "Length" [atLeast 0]
 givesList .base ("List", "outList")) (withElementType [
 shows "fillMode" [("expand", true)],
 drawsMore fun n l => do
  let col <- l.column
  col.set "active" (<- (<- n.inputNamed "Element").call "isCopyable")
  col.prop n "makeElementCopies"
  n.offerType l,
 code fun n _ => do
  return #["outList = AN.algorithms.lists.fill('" ++ (<- listType (<- n.assigned)) ++
    "', inList, '" ++ (<- n.textOf "fillMode") ++ "', length, fillElement, " ++
    (<- n.textOf "makeElementCopies") ++ ")"]]),
.hiddenLabel <| .of "Get List Element"
  [typed, flag "clampIndex" false rebuilds, flag "allowNegativeIndex" true rebuilds,
  flag "makeCopy" true rebuilds, toggle "useIndexList"] (do
 takesList .base ("List", "inList")
 let many <- is "useIndexList"
 if many then takes "Integer List" "Indices" else int "Index"
 takesElement .base "Fallback" [hide]
 if many then givesList .base "Elements" else givesElement .base "Element") (withElementType [
 drawsRow fun n row => do
  row.prop n "clampIndex" (badge "Clamp" "FULLSCREEN_EXIT")
  row.prop n "allowNegativeIndex" (badge "Wrap" "LOOP_FORWARDS")
  row.prop n "useIndexList" (badge "" "LINENUMBERS_ON"),
 offersType ["makeCopy"],
 labels fun n => do
  unless <- n.is "useIndexList" do
   if <- holds (<- n.inputNamed "Index") "isUnlinked" then
    return "List[" ++ (<- text (<- (<- n.inputNamed "Index") "value")) ++ "]"
  pure "Get List Element",
 code fun n _ => do
  linesOf (<- n.call (if <- n.is "useIndexList" then "getExecutionCode_List" else "getExecutionCode_Single")),
 writes0 "getExecutionCode_Single" fun n => do
  emits #["if len(inList) != 0: element = " ++ (<- text (<- n.call "getGetElementCode" ["index", "len(inList)"])),
   "else: element = fallback"]
  if <- n.is "makeCopy" then
   let s <- n.output 0
   if <- ask s "isCopyable" then
    emit ("element = " ++ (<- text (<- (<- s.call "getCopyExpression").call "replace" ["value", "element"]))),
 writes0 "getExecutionCode_List" fun n => do
  emits #["if len(inList) != 0:", "    length = len(inList)", "    elements = self.outputs[0].getDefaultValue()",
   "    for i in indices:",
   "        elements.append(" ++ (<- text (<- n.call "getGetElementCode" ["i", "length"])) ++ ")", "else:"]
  let fallback <- (<- (<- item (<- n "sockets") 0).call "getFromValuesCode").call "replace"
    ["value", "[fallback]"]
  emit s!"    elements = {(<- text fallback)} * len(indices)",
 fn2 "getGetElementCode index length" fun n j size => do
  let i <- text j
  let size <- text size
  let low := if <- n.is "allowNegativeIndex" then "-" ++ size else "0"
  if <- n.is "clampIndex" then return s!"inList[min(max({i}, {low}), {size} - 1)]"
  return s!"inList[{i}] if {low} <= {i} < {size} else fallback"]),
.hiddenLabel <| .of "Get List Length" [] (do
 takes "Generic" "List"
 gives "Integer" "Length") [
 labels fun _ => pure "Get Length",
 runsLines #["try: length = len(list)", "except: length = 0"]],
.of "Get Random List Elements"
  [typed "Float List", menu "selectionType" "MULTIPLE", whole "nodeSeed" 0 reruns] (do
 int "Seed"
 takesList .list ("List", "inList") [modified]
 match <- word "selectionType" with
 | "SINGLE" =>
  givesElement .list ("Element", "outElement")
  gives "Integer" "Index"
 | "MULTIPLE" =>
  int "Amount" (dial 3)
  givesList .list ("List", "outList")
  gives "Integer List" "Indices"
 | _ => pure ()) (withSeed [
 draws fun n l => do
  l.prop n "selectionType" bare
  l.prop n "nodeSeed" "Node Seed",
 writes fun n _ => do
  emit "_seed = self.nodeSeed * 154245 + seed * 13412"
  match <- n.word "selectionType" with
  | "SINGLE" =>
   emits #["random.seed(_seed)", "if len(inList) == 0:",
    "    outElement, index = self.outputs['Element'].getDefaultValue(), 0", "else:",
    "    index = random.randint(0, len(inList) - 1)", "    outElement = inList[index]"]
  | "MULTIPLE" =>
   emits #["_seed += amount * 45234", "_amount = min(max(amount, 0), len(inList))",
    s!"outList, indices = AN.algorithms.lists.sample('{(<- n.assigned)}', inList, _amount, _seed)"]
  | _ => pure (),
 usesModules ["random"], assignsList "assignType"]),
.of "Insert List Element" [typed, flag "useList"] (do
 takesList .base "List" [modified]
 takesMany (<- textOf "assignedType") ["useList"] "Element" "Elements" [modified]
 int "Index"
 givesList .base "List") (withElementType [
 offersType,
 runsEither "useList" #["list = list[:index] + elements + list[index:]"] #["list.insert(index, element)"]]),
.of "List Boolean Operations" [choice "operation" "UNION" rebuilds, typed "Object List"] (do
 takesList .list "List 1" [modified]
 takesList .list "List 2" [modified]
 givesList .list ("List", "outList")) [
 shows "operation" bare,
 runsCode fun n => do
  let call (name : String) : Value := s!"outList = self.execute_{name}(list1, list2)"
  n.lineBy "operation" [("UNION", call "Union"), ("INTERSECTION", call "Intersection"), ("DIFFERENCE", call "Difference"),
   ("SYMMETRIC_DIFFERENCE", call "SymmetricDifference")],
 fn2 "execute_Union list1 list2" NodeId.union, fn2 "execute_Intersection list1 list2" NodeId.intersection,
 fn2 "execute_Difference list1 list2" NodeId.difference,
 fn2 "execute_SymmetricDifference list1 list2" NodeId.symmetricDifference,
 fn0 "getEmptyStartList" fun n => do (<- n.output 0).call "getDefaultValue",
 assignsList "assignType"],
.of "Mask List" [typed "Integer List"] (do
 takesList .list ("List", "inList")
 takes "Boolean List" "Mask"
 givesList .list ("List", "outList")) [
 fn2 "execute inList mask" fun n inList mask => do
  let k <- length inList
  let mask <- if k == (<- length mask) then pure mask
   else mask.call "repeated" [] [("length", k), ("default", true)]
  kernel "mask" [<- n "assignedType", inList, mask]],
.of "Random List" [typed "Float List", whole "nodeSeed" 0 reruns] (do
 int "Seed"
 int "Length" (dial 5)
 takesList .list ("Source", "sourceElements") [modified]
 givesList .list ("List", "outList")) [
 shows "nodeSeed",
 fn3 "execute seed length sourceElements" fun n seed size xs => do
  if (<- isEmpty xs) || (<- less size 0) then return <- (<- n.output 0).call "getDefaultValue"
  let repeated <- kernel "getRepeatFunction" [<- n "assignedType"]
  let shuffle <- kernel "getShuffleFunction" [<- n "assignedType"]
  let seed <- add (<- add (<- mul (<- n "nodeSeed") 987654) (<- mul seed 12345)) (<- mul size 5243)
  let ps <- shuffle.apply [xs, seed]
  shuffle.apply [<- repeated.apply [ps, size], <- add seed 1234]],
.of "Remove List Element" [typed "Integer", choice "removeType" "FIRST_OCCURRENCE" (calling "typeChanged")]
  (fun n => do
 n.takesList .base ("List", "inList") (if (<- n "removeType").isOneOf ["FIRST_OCCURRENCE", "INDEX"] then [modified] else [])
 match <- n.word "removeType" with
 | "FIRST_OCCURRENCE" | "ALL_OCCURRENCES" => n.takesElement .base "Element" [("defaultDrawType", "PREFER_PROPERTY")]
 | "INDEX" => n.int "Index"
 | _ => pure ()
 n.givesList .base ("List", "outList")) (withElementType [
 act1 "typeChanged context" fun n _ => do
  if <- ask n "isAllowedDataType" [<- n "assignedType"] then n.refresh
  else n.tell "reset_and_show_error",
 shows "removeType" bare,
 offersType,
 writes fun n _ => do
  emit "outList = inList"
  match <- n.word "removeType" with
  | "FIRST_OCCURRENCE" => emits #["try: inList.remove(element)", "except ValueError: pass"]
  | "ALL_OCCURRENCES" =>
   emits #["outList = self.outputs[0].getDefaultValue()", "outList += [e for e in inList if e != element]"]
  | "INDEX" => emit "if 0 <= index < len(inList): del inList[index]"
  | _ => pure (),
 fn1 "isAllowedDataType dataType" fun n ty => do
  if (<- n "removeType").isOneOf ["FIRST_OCCURRENCE", "ALL_OCCURRENCES"] then
   unless (<- need .key (socketTypes.find? (<- text ty))).comparable do return false
  pure true,
 act0 "reset_and_show_error" fun n => do
  n.tell "show_type_error" [<- n "assignedType"]
  n.tell "removeLinks"
  n.set "assignedType" "Integer",
 act1 "show_type_error dataType" fun _ ty => do
  popUpText s!"This list type only supports element removal using an index: '{<- listType (<- text ty)}'" "Error" "ERROR"]),
.of "Repeat List" [typed "Float List", choice "repetitionType" "LOOP" rebuilds, menu "amountType" "AMOUNT",
 flag "makeElementCopies" true rebuilds] (fun n => do
 n.takesList .list ("List", "inList")
 if (<- n "amountType").is "AMOUNT" then n.int "Amount" (dial 5)
 else if <- has (<- n "amountType") "LENGTH" then n.int "Length" (dial 20)
 n.givesList .list ("List", "outList")) [
 drawsColumn fun n col => do
  col.prop n "repetitionType" bare
  col.prop n "amountType" bare,
 offersType ["makeElementCopies"],
 writes fun n _ => do
  emits #["inLength = len(inList)", "if inLength == 0:", "    outList = self.outputs[0].getDefaultValue()", "else:"]
  n.emitBy "amountType" [("AMOUNT", "    outLength = inLength * amount"), ("LENGTH", "    outLength = length"),
   ("LENGTH_FLOOR", "    outLength = int(math.floor(length / inLength) * inLength)"),
   ("LENGTH_CEIL", "    outLength = int(math.ceil(length / inLength) * inLength)")]
  emit "    outLength = max(0, outLength)"
  match <- n.word "repetitionType" with
  | "LOOP" => emit "    _sourceList = inList"
  | "PING_PONG" =>
   emits #[s!"    _reversedList = AN.algorithms.lists.reverse('{(<- n.assigned)}', inList)",
    "    _sourceList = inList + _reversedList"]
  | _ => pure ()
  emit s!"    outList = AN.algorithms.lists.repeat('{(<- n.assigned)}', _sourceList, outLength, self.makeElementCopies)",
 usesModules ["math"],
 act1 "assignListDataType listDataType" fun n listDataType => n.tell "assignType" [listDataType],
 assignsList "assignType"],
.risky "Repeat List Elements"
  [flag "useList", typed "Float List", flag "makeElementCopies" true reruns] (do
 takesList .list ("List", "inList") [modified]
 takesAny "Integer" (named "Amount" (dial 3))
 givesList .list "Repeated List") [
 offersType ["makeElementCopies"],
 fn2 "execute inList amounts" fun n inList amounts => do
  if <- n.is "useList" then
   if <- ask amounts "containsValueLowerThan" [0] then
    n.halt "The amounts list can not contain a negative amount."
  else if <- less amounts 0 then n.halt "The amount can not be negative."
  let amounts <- filled "Long" amounts 0 (<- length inList)
  kernel "repeatElements" [<- n "assignedType", inList, amounts, <- n "makeElementCopies"],
 assignsList "assignListDataType"],
.of "Reverse List" [typed "Float List"] (do
 takesList .list ("List", "inList") [modified]
 givesList .list "Reversed List") [
 code fun n _ => return #[s!"reversedList = AN.algorithms.lists.reverse('{(<- n.assigned)}', inList)"],
 assignsList "assignType"],
.of "Search List Element" [typed] (do
 takesList .base "List" [modified]
 takesElement .base "Search"
 gives "Integer" "First Index"
 gives "Integer List" "All Indices"
 gives "Integer" "Occurrences") (withElementType [
 offersType,
 writes fun _ req => ifWanted req do
  if <- has req "allIndices" then
   emit "allIndices = LongList.fromValues(i for i, element in enumerate(list) if element == search)"
   emitWanted req [("firstIndex", "allIndices[0] if len(allIndices) > 0 else -1"),
    ("occurrences", "len(allIndices)")]
  else
   if <- has req "firstIndex" then emits #["try: firstIndex = list.index(search)", "except: firstIndex = -1"]
   if <- has req "occurrences" then emit "occurrences = list.count(search)"]),
.telling <| .of "Set List Element"
  [typed, flag "clampIndex" false rebuilds, flag "allowNegativeIndex" false rebuilds] (do
 takesList .base "List" [modified]
 takesElement .base "Element"
 int "Index"
 givesList .base "List") (withElementType [
 offersType ["clampIndex", "allowNegativeIndex"],
 writes fun n _ => do
  let low := if <- n.is "allowNegativeIndex" then "-len(list)" else "0"
  if <- n.is "clampIndex" then emit s!"if len(list) != 0: list[min(max(index, {low}), len(list) - 1)] = element"
  else emit s!"if {low} <= index < len(list): list[index] = element"
  emit "else: self.setErrorMessage('Index out of range')"]),
.of "Shift List" [typed "Float List"] (do
 takesList .list ("List", "inList") [modified]
 int "Amount"
 givesList .list "Shifted List" [modified]) [
 runsLines #["if len(inList) == 0: shiftedList = self.outputs[0].getDefaultValue()", "else:",
  "    shiftAmount = amount % len(inList)", "    shiftedList = inList[-shiftAmount:] + inList[:-shiftAmount]"]],
.of "Shuffle List" [whole "nodeSeed" 0 reruns, typed "Float List"] (do
 takesList .list ("List", "sourceList") [modified]
 int "Seed"
 givesList .list ("Shuffled List", "newList")) (withSeed [
 shows "nodeSeed",
 code fun n _ => return #["_seed = self.nodeSeed * 3242354 + seed",
  s!"newList = AN.algorithms.lists.shuffle('{(<- n.assigned)}', sourceList, _seed)"]]),
.of "Slice List" [typed, toggle "useStart" true, toggle "useEnd" true,
 toggle "useStep", menu "sliceEndType" "END_INDEX"] (do
 takesList .base "List" [modified]
 if <- is "useStart" then int "Start"
 if <- is "useEnd" then
  match <- word "sliceEndType" with
  | "END_INDEX" => int "End" [val 10]
  | "OUTPUT_LENGTH" => int "Length"
  | _ => pure ()
 if <- is "useStep" then int "Step" [val 1]
 givesList .base ("List", "slicedList")) (withElementType [
 drawsColumn fun n col => do
  let row <- col.line
  for (use, icon) in [("useStart", "TRIA_RIGHT"), ("useEnd", "TRIA_LEFT"), ("useStep", "ARROW_LEFTRIGHT")] do
   row.prop n use [("expand", true), ("icon", icon)]
  if <- n.is "useEnd" then col.prop n "sliceEndType" "End",
 offersType,
 writes fun n _ => do
  emits #[
   if <- n.is "useStart" then "_start = start" else "_start = 0",
   if <- n.is "useStep" then "_step = 1 if step == 0 else step" else "_step = 1"]
  if <- n.is "useEnd" then
   match <- n.word "sliceEndType" with
   | "END_INDEX" => emit "_end = end"
   | "OUTPUT_LENGTH" =>
    emits #["realStart = _start if _start >= 0 else len(list) + _start",
     "_end = max(0, realStart + _step * length)"]
   | _ => pure ()
  let ps <- ["Start", "End", "Step"].mapM fun x => return if <- n.is s!"use{x}" then s!"_{x.decapitalize}" else ""
  emit ("slicedList = list[" ++ ":".intercalate ps ++ "]")])]

end AnimationGraph
