import AnimationGraph.Execution.Units

/-! # Interfaces of subprograms

A subprogram has inputs and outputs.
-/

namespace AnimationGraph

/-- A socket that callers of a subprogram get. -/
structure InterfaceSocket where
 (kind identifier : String)
 text : Value
 hide : Value := .bool false
 /-- What the socket holds at first, if the subprogram says so. -/
 default : Option Value := none

structure SubprogramInterface where
 (inputs outputs : List InterfaceSocket := [])

namespace InterfaceSocket

def ofSocket (s : SocketId) : Run InterfaceSocket := do
 let kind <- s.kind
 return { kind, identifier := <- s.identifier, text := <- s "text", hide := <- getPath s "subprogram.hideByDefault",
          default := some (<- s.getProperty) }

def addTo (n : NodeId) (side : Side) (i : InterfaceSocket) : Act := do
 let s <- match side with
  | .input => n.newInput i.kind i.identifier i.identifier
  | .output => n.newOutput i.kind i.identifier i.identifier
 if let (.input, some v) := (side, i.default) then s.setProperty v
 s.set "hide" i.hide
 s.set "text" i.text
 (<- s "display").set "text" true
 s.set "dataIsModified" true

def toValue (i : InterfaceSocket) : Eval :=
 newRecord "SocketData"
  [("idName", i.kind), ("identifier", i.identifier), ("text", i.text), ("hideByDefault", i.hide),
  ("defaultValue", i.default.getD .none)]

end InterfaceSocket

namespace SubprogramInterface

def applyTo (i : SubprogramInterface) (n : NodeId) : Act := do
 for s in i.inputs do s.addTo n .input
 for s in i.outputs do s.addTo n .output

def toValue (i : SubprogramInterface) : Eval := do
 newRecord "SubprogramData"
  [("inputs", <- list (<- i.inputs.mapM (·.toValue))), ("outputs", <- list (<- i.outputs.mapM (·.toValue)))]

variable (n : NodeId)

def ofGroup : Run SubprogramInterface := do
 let inputs <- (<- n.outputs).dropLast.mapM InterfaceSocket.ofSocket
 let outputs <- match <- n "outputNode" with
  | .node out => do (<- out.inputs).dropLast.mapM InterfaceSocket.ofSocket
  | _ => pure []
 return { inputs, outputs }

def ofScript : Run SubprogramInterface := do
 let worded (s : SocketId) : Run InterfaceSocket := do
  let i <- InterfaceSocket.ofSocket s
  return { i with text := (Names.title i.text.word) }
 return { inputs := <- (<- n.inputs).dropLast.mapM worded, outputs := <- (<- n.outputs).dropLast.mapM worded }

/-- A loop takes the lists that it runs through or the number of rounds, and first values.  It gives back lists that it
ran through, lists that it built, and last values. -/
def ofParts (ls : List (InterfaceSocket × Bool)) (generated : List InterfaceSocket)
  (ps : List (InterfaceSocket × Bool × Bool)) : SubprogramInterface where
 inputs :=
  (if ls.isEmpty then
   [{ kind := "an_IntegerSocket", identifier := "loop_iterations", text := "Iterations", default := some 0 }]
  else ls.map (·.1)) ++ (ps.filter (·.2.1)).map fun (i, _) => { i with identifier := i.identifier ++ "_input" }
 outputs := (ls.filter (·.2)).map (·.1) ++ generated ++
  (ps.filter (·.2.2)).map fun (i, _) => { i with identifier := i.identifier ++ "_output" }

def ofLoop : Run SubprogramInterface := do
 if (<- n.outputs).isEmpty then return {}
 let ls <- (<- n.iteratorSockets).mapM fun s : SocketId => do
  let new : InterfaceSocket :=
   { kind := (<- need .key (socketTypes.listOf? (<- s.dataType))).idName, identifier := <- s.identifier, text := ((<- textAt s "text") ++ " List") }
  return (new, <- s.is "loop.useAsOutput")
 let generated <- (<- n.sortedGenerators).mapM fun g : NodeId => do
  let some kind := socketTypes.idNameOf? (<- textAt g "listDataType") | fail .key
  return { kind, identifier := <- g.identifier, text := <- g "outputName", hide := <- g "hideByDefault" }
 let ps <- (<- n.parameterSockets).mapM fun s => do
  return (<- InterfaceSocket.ofSocket s, <- s.is "loop.useAsInput", <- s.is "loop.useAsOutput")
 return ofParts ls generated ps

def ofNode : Run SubprogramInterface := do
 match <- n.kind with
 | "an_GroupInputNode" => ofGroup n
 | "an_LoopInputNode" => ofLoop n
 | "an_ScriptNode" => ofScript n
 | _ => fail .attr

end SubprogramInterface

def nameAndNumber? (line : String) : Option (String × Nat) :=
 let ds := line.toList.reverse.takeWhile Char.isDigit
 match ds, (line.toList.reverse.drop ds.length) with
 | _ :: _, ' ' :: rest => (String.ofList ds.reverse).toNat?.map fun k => (String.ofList rest.reverse, k)
 | _, _ => none

def copyName (name : String) : String :=
 let body := if name.endsWith "\n" then .ofList name.toList.dropLast else name
 match nameAndNumber? ((body.splitOn "\n").getLastD body) with
 | some (line, k) => s!"{line} {k + 1}"
 | none => name ++ " 2"

/-- The residue that stands for a whole number in keys of caches.  It is never -1. -/
def residue (n : Int) : Int := if n.tmod (.pow 2 61 - 1) = -1 then -2 else n.tmod (.pow 2 61 - 1)

/-- What stands for a value in keys of caches: the same for equal numbers, but also the same for -1 and -2. -/
def plainKey (v : Value) : Value :=
 match v.number? with
 | some (.whole n) => residue n
 | some (.real x) =>
  match Decimal.classify x with
  | .finite b => residue ((if b.negative then -1 else 1) * b.mantissa * .pow 2 (b.exponent % 61).toNat)
  | .infinite negative => if negative then -314159 else 314159
  | .nan => v
 | none => v

def cacheKey (v : Value) : Eval := do
 if v matches .none | .bool _ | .int _ | .float _ | .str _ then return plainKey v
 let v <- if <- v.hasAttr "freeze" then v.call "freeze" else pure v
 if let .cell id := v then
  if (<- readCell id) matches .list _ | .dict _ | .set _ | .sequence _ | .struct _ then fail .type
 return plainKey v

def retrieved (data : Eval) : Eval := tryCatch (return .tuple [true, <- data]) fun _ => tuple [false, .none]
def kept (caches owner : Value) (key : Eval) : Eval := do item (<- item caches owner) (<- key)

def keep (caches owner key data : Value) : Act := do
 unless <- has caches owner do setItem caches owner (<- newDict [])
 setItem (<- item caches owner) key data

def randomPlace : Eval := do add (<- randomSeed 10000) 100

variable (n : NodeId) (l : LayoutId) (title : String) (ss : List SocketId)

def NodeId.findLoopInput : Act := do
 let net <- n.network
 if net.type != .invalid then return
 let [input] := net.loopInputs | return
 let id <- (<- nodeAt input) "identifier"
 if <- fits n "loopInputIdentifier" id then return
 n.set "loopInputIdentifier" id

def socketsValue : Eval := list (ss.map .socket)

def subprogramOwnerProperties : List Property := [
 words "subprogramName" "Subprogram" fun _ => structureChanged,
 words "subprogramDescription" "" fun _ => structureChanged,
 fractions "networkColor" [0.5, 0.5, 0.5] fun _ => colorForest]

def NodeId.describe : Act := do
 let col <- l.column
 col.write "Description:"
 col.prop n "subprogramDescription" bare

def NodeId.startAs (name : String) : Act := do
 n.tell "randomizeNetworkColor"
 n.set "subprogramName" name

def LayoutId.titledBox : Run LayoutId := do
 l.write title
 l.box

/-- What callers get for each socket but the last one. -/
def NodeId.showDefaults (valued : Bool) : Act := do
 let box <- l.titledBox title
 for s in ss.dropLast do
  let subBox <- box.box
  subBox.write (<- literal (<- s "text"))
  if valued then s.tell "drawSocket" [subBox, "Default"] [("node", n), ("drawType", "PROPERTY_ONLY")]
  subBox.prop (<- s "subprogram") "hideByDefault" "Hide"

def NodeId.createFor (kind key : String) (settings : Fields := []) : Act := do
 let node <- addNodeAtCursor s!"an_{kind}Node"
 node.set key (<- n "identifier")
 for (name, v) in settings do node.set name v
 dragSelected

def NodeId.offerNew (l s : Value) (m : String) (types : String := "ALL") : Act := do
 let (left, right) <- (<- layoutOf l).splitToSides
 n.selector left "DATA_TYPE" m { icon := "ADD", emboss := false } types
 right.write (<- s "name")

def tellsInterface : Members := [
 act0 "socketChanged" fun _ => interfaceChanged,
 act0 "delete" fun n => do
  n.dropSockets
  interfaceChanged]

def inLoop : Members := [
 act0 "edit" NodeId.findLoopInput,
 prop "loopInputNode" fun n => do identifiedNode? (<- n "loopInputIdentifier")]

def showsLoop : Feature :=
 draws fun n l => do
  let node <- n "loopInputNode"
  if node.isSome then l.sign (<- node "subprogramName") "GROUP_VERTEX"

def outputProp (p name : String) : Feature := prop p (·.outputNamed name)

def subprogramOwnerMembers : Members := tellsInterface ++ [
 act1 "duplicate sourceNode" fun n _ => do
  n.tell "randomizeNetworkColor"
  n.set "subprogramName" (copyName (<- n.word "subprogramName")),
 act0 "randomizeNetworkColor" fun n => n.set "networkColor" (.tuple [0.5, 0.5, 0.5]),
 fn0 "getInvokeNodes" fun n => do
  list (<- (<- iter (<- nodesByKind callKind)).filterM fun node => do
   fits node "subprogramIdentifier" (<- n "identifier")),
 constant "isSubprogramNode" true]

def makesSocket (name : String) (side : Side) : Feature := act1 s!"{name} dataType" fun n ty => do
 let ty <- text ty
 n.tell "setupSocket" [<- n.newOn ty side ty ty []]

def subprogramNodes : List NodeKind := [
.edited "Group Input" subprogramOwnerProperties <| .append [
 act0 "setup" fun n => do
  n.startAs "My Group"
  n.gives "Node Control" ("New Input", "New Input") [("margin", 0.15)],
 draws fun n l => do
  l.separator
  l.prop n "subprogramName" (badge "" "GROUP_VERTEX")
  if (<- n "outputNode").isNone then n.button l "createGroupOutputNode" { text := "Output Node", icon := "PLUS" },
 drawsMore fun n l => do
  n.describe l
  n.showDefaults (<- l.column) "Parameter Defaults:" (<- n.outputs) true,
 act2 "drawControlSocket layout socket" fun n l s => n.offerNew l s "newGroupInput",
 fn0 "getSocketData" fun n => do (<- SubprogramInterface.ofGroup n).toValue,
 prop "outputNode" fun n => do n.use "network.getGroupOutputNode",
 act0 "createGroupOutputNode" (·.createFor "GroupOutput" "groupInputIdentifier")] (makesOutputs "newGroupInput" ++ subprogramOwnerMembers),
.onlyFound <| .edited "Group Output" [words "groupInputIdentifier" "" (calling "inputNodeIdentifierChanged")] <|
 tellsInterface ++ [
 act1 "inputNodeIdentifierChanged context" fun _ _ => do
  interfaceChanged
  structureChanged,
 act0 "setup" fun n => n.takes "Node Control" ("New Output", "New Output") [("margin", 0.15)],
 draws fun n l => do
  if <- n.is "inInvalidNetwork" then
   let col <- l.column
   col.set "scale_y" 1.5
   n.button col "useGroupInputInNetwork"
     { text := "Use Input in Network", description := "Scan the network of this node for group input nodes",
       icon := "QUESTION" }
  l.separator
  let inputNode <- n.use "network.getGroupInputNode"
  if <- truthy inputNode then l.sign (<- inputNode "subprogramName") "GROUP_VERTEX"
  else n.button l "createGroupInputNode" { text := "Input Node", icon := "PLUS" }
  l.separator,
 drawsMore fun n l => do n.showDefaults l "Output Defaults:" (<- n.inputs) false,
 drawsNew "newGroupOutput",
 act0 "edit" fun n => do
  n.tell "changeInputIdentifierIfNecessary"
  let socket <- n.input (-1)
  let origin <- socket "dataOrigin"
  let direct <- socket "directOrigin"
  unless <- truthy origin do return
  if (<- origin "dataType").is "Node Control" then return
  (<- n.call "newGroupOutput" [<- origin "dataType", <- origin.call "getDisplayedName"]).tell "linkWith" [direct]
  socket.tell "removeLinks",
 act0 "changeInputIdentifierIfNecessary" fun n => do
  let net <- n "network"
  unless (<- net "type").is "Invalid" do return
  if <- notEqual (<- net "groupInAmount") 1 then return
  let inputNode <- net.call "getGroupInputNode"
  if <- fits n "groupInputIdentifier" (<- inputNode "identifier") then return
  n.set "groupInputIdentifier" (<- inputNode "identifier"),
 makesModified "newGroupOutput" fun n t s => do n.newInput t s (<- text (<- randomText 10)),
 act0 "createGroupInputNode" fun n => do
  let node <- addNodeAtCursor "an_GroupInputNode"
  n.set "groupInputIdentifier" (<- node "identifier")
  dragSelected,
 act0 "useGroupInputInNetwork" fun n => do
  let net <- n "network"
  for node in <- iter (<- net.call "getNodes") do
   if (<- node "bl_idname").is "an_GroupInputNode" then n.set "groupInputIdentifier" (<- node "identifier")],
.hiddenLabel <| .of "Invoke Subprogram"
  [words "subprogramIdentifier" "" NodeId.refresh, choice "cacheType" "DISABLED" (calling "cacheTypeChanged"),
  flag "isOutputStorable", flag "isInputComparable", flag "showCacheOptions"] (fun n => do
 if let .node subprogram <- n "subprogramNode" then
  if (<- subprogram.network).type != .invalid then (<- SubprogramInterface.ofNode subprogram).applyTo n
 n.tell "checkCachingPossibilities"
 n.tell "clearCache") [
 act1 "cacheTypeChanged context" fun n _ => do
  n.tell "clearCache"
  codeChanged
  n.set "showCacheOptions" true,
 labels fun n => do
  let net <- n "subprogramNetwork"
  if net.isSome then return "<" ++ (<- textAt net "name") ++ ">"
  pure "Invoke Subprogram",
 numbersInputs "input_",
 fn0 "getOutputSocketVariables" fun n => do numberedVariables (<- n.outputs) "output_",
 runsCode fun n => do
  if (<- n "subprogramNode").isNone then return ""
  let arguments := commaList (Code.LoopView.numbered "input_" (<- n.inputs).length)
  let results := commaList (Code.LoopView.numbered "output_" (<- n.outputs).length)
  let call := "_subprogram" ++ (<- n.word "subprogramIdentifier") ++ "(" ++ arguments ++ ")"
  if (<- n "cacheType").is "DISABLED" || !(<- n.is "canCache") then
   return if results == "" then call else s!"{results} = {call}"
  textList
   ([s!"useCache, groupOutputData = self.getCachedData({arguments})", "if not useCache:",
    "    groupOutputData = " ++ call, s!"    self.setCacheData(groupOutputData, {arguments})"]
    ++ (if results == "" then [] else [results ++ " = groupOutputData"])),
 rest0 "getCachedData" fun n args => retrieved do
  match <- n.word "cacheType" with
  | "ONE_TIME" => item (<- table "oneTimeCache") (<- n "identifier")
  | "FRAME_BASED" =>
   kept (<- table "frameBasedCache") (<- n "identifier") (do text (<- n.at "nodeTree.scene.frame_current"))
  | "INPUT_BASED" => kept (<- table "inputBasedCache") (<- n "subprogramIdentifier") (n.call "getArgsHash" [.tuple args])
  | _ => fail .key,
 rest1 "setCacheData" fun n data args => do
  match <- n.word "cacheType" with
  | "ONE_TIME" => setItem (<- table "oneTimeCache") (<- n "identifier") data
  | "FRAME_BASED" =>
   keep (<- table "frameBasedCache") (<- n "identifier") (<- text (<- n.at "nodeTree.scene.frame_current")) data
  | "INPUT_BASED" =>
   keep (<- table "inputBasedCache") (<- n "subprogramIdentifier") (<- n.call "getArgsHash" [.tuple args]) data
  | _ => pure ()
  pure .none,
 fn1 "getArgsHash args" fun _ args => return .tuple (<- (<- iter args).mapM cacheKey),
 draws fun n l => do
  let nets <- length (<- subprogramList)
  let net <- n "subprogramNetwork"
  l.separator
  let row <- (<- l.column).line
  row.set "scale_y" 1.6
  if nets > 0 then
   let fs <- if net.isSome then do pure (badge (<- net "name") "GROUP_VERTEX") else pure (badge "Choose" "TRIA_RIGHT")
   (<- row.operator "an.change_subprogram" fs).set "nodeIdentifier" (<- n "identifier")
  let new <- row.operator "an.insert_empty_subprogram"
   [("icon", "FILE_NEW"), ("text", if nets == 0 then "New Subprogram" else "")]
  new.set "targetNodeIdentifier" (<- n "identifier")
  if (<- n.is "showCacheOptions") || !(<- n "cacheType").is "DISABLED" then n.tell "drawCacheOptions" [l]
  l.separator,
 drawsMore fun n l => do
  n.tell "drawCacheOptions" [l]
  let col <- l.column
  col.set "active" ((<- n "cacheType").is "DISABLED")
  col.prop n "showCacheOptions",
 drawing "drawCacheOptions" fun n l => do
  let mut col <- l.column
  col.set "active" (<- n "isOutputStorable")
  col.prop n "cacheType"
  unless <- n.is "canCache" do
   col := <- l.stack
   col.write "This caching method is not available:"
   unless <- n.is "isOutputStorable" do col.write "  - The output is not storable"
   unless <- n.is "isInputComparable" do col.write "  - The input is not comparable"
  n.button l "clearCache" { text := "Clear Cache" },
 act0 "checkCachingPossibilities" fun n => do
  n.set "isInputComparable" (<- (<- n.inputs).allM (·.is "comparable"))
  n.set "isOutputStorable" (<- (<- n.outputs).allM (·.is "storable")),
 act0 "clearCache" fun n => do
  for (cache, key) in [("oneTime", "identifier"), ("frameBased", "identifier"), ("inputBased", "subprogramIdentifier")] do
   (<- table s!"{cache}Cache").tell "pop" [<- n.attr key, .none],
 prop "subprogramNode" fun n => do identifiedNode? (<- n "subprogramIdentifier"),
 prop "subprogramNetwork" fun n => do networkNamed (<- n "subprogramIdentifier"),
 prop "canCache" fun n => do
  let type <- n "cacheType"
  let comparable <- n.is "isInputComparable"
  return type.is "DISABLED" || (<- n.is "isOutputStorable") &&
   (type.isOneOf ["ONE_TIME", "FRAME_BASED"] || type.is "INPUT_BASED" && comparable)],
.onlyFound <| .of "Loop Break" [words "loopInputIdentifier" "" fun _ => structureChanged]
  (bool ("Continue", "continueCondition") [val true]) (showsLoop :: inLoop),
.onlyFound <| .alwaysLabel <|
 .of "Loop Generator Output" [flag "hideByDefault", words "outputName" "" (calling "settingChanged"),
 words "loopInputIdentifier" "" (calling "settingChanged"), whole "sortIndex",
 words "listDataType" "Vector List" (calling "settingChanged"), flag "useList"] (fun n => do
 let list <- n "listDataType"
 let base <- baseType (<- text list)
 if (<- n "listDataType").is "Generic List" then n.takes "Generic" ("Generic", "input")
 else
  n.takesMany base ["useList"] (named (base, "input") [textOnly])
    (named (<- text list, "input") [textOnly])
 n.bool "Condition" [val true, hide]) <| .append (showsLoop :: inLoop) [
 act1 "settingChanged context" fun n _ => do
  n.refresh
  interfaceChanged,
 act0 "setup" fun n => do
  n.set "sortIndex" (<- randomPlace)
  n.set "outputName" (<- n "listDataType"),
 drawsMore fun n l => do
  l.prop n "outputName" "Name"
  l.prop n "hideByDefault"
  n.offerTypes l "setListDataType" "LIST"
  l.sign "No vectorization for generic type." "INFO",
 labels (· "outputName"),
 act1 "setListDataType dataType" fun n ty => n.set "listDataType" ty,
 act0 "delete" fun _ => interfaceChanged,
 act1 "duplicate source" fun n _ => do
  n.set "sortIndex" (<- randomPlace)
  interfaceChanged,
 prop "conditionSocket" fun n => n.input 1,
 prop "dataInputSocket" fun n => n.input 0,
 prop "generatorType" fun n => do
  return if !(<- n "listDataType").is "Generic List" && (<- n.is "useList") then "extend" else "append"],
.edited "Loop Input" subprogramOwnerProperties <| .append [
 act0 "setup" fun n => do
  n.startAs "My Loop"
  n.givesEach "Integer" [("Index", "Index"), ("Iterations", "Iterations")]
  n.givesEach "Node Control" [("New Iterator", "New Iterator"), ("New Parameter", "New Parameter")] [("margin", 0.15)],
 draws fun n l => do
  l.separator
  let (left, right) <- l.splitToSides
  n.selector left "DATA_TYPE" "createGeneratorOutputNode" { text := "", icon := "ADD", emboss := false } "LIST"
  right.write "New Generator Output"
  l.prop n "subprogramName" (badge "" "GROUP_VERTEX"),
 drawsMore fun n l => do
  n.describe l
  l.separator
  let box <- (<- l.column).titledBox "Iterator Sockets:"
  for s in <- n.iteratorSockets do
   box.prop (<- s "loop") "useAsOutput" [("text", "Use " ++ (<- literal (<- s "text")) ++ " as Output")]
  n.selector box "DATA_TYPE" "newIterator" { text := "New Iterator", icon := "PLUS" } "LIST"
  l.separator
  let box <- (<- l.column).titledBox "Parameter Sockets:"
  for s in <- n.parameterSockets do
   let subcol <- (<- box.box).column [("align", false)]
   let row <- subcol.row
   row.write (<- literal (<- s "text"))
   n.button row "createReassignParameterNode" { text := "Reassign", data := <- s "identifier" }
   let row <- subcol.row
   row.prop (<- s "loop") "useAsInput" "Input"
   row.prop (<- s "loop") "useAsOutput" "Output"
   let row <- subcol.row
   let subrow <- row.row
   subrow.set "active" (<- s.call "isCopyable")
   subrow.prop (<- s "loop") "copyAlways" "Copy"
   row.prop (<- s "subprogram") "hideByDefault" "Hide"
   s.tell "drawSocket" [subcol] [("text", "Default"), ("node", n), ("drawType", "PROPERTY_ONLY")]
  n.selector box "DATA_TYPE" "newParameter" { text := "New Parameter", icon := "PLUS" }
  l.separator
  let box <- (<- l.column).titledBox "List Generators:"
  let subcol <- box.stack
  for (node, i) in (<- n.sortedGenerators).zipIdx do
   let row <- subcol.line
   row.write ((<- literal (<- node "outputName")) ++ " - " ++ (<- textAt node "listDataType"))
   n.button row "moveGeneratorOutput" { data := s!"{i};-1", icon := "TRIA_UP" }
   n.button row "moveGeneratorOutput" { data := s!"{i};1", icon := "TRIA_DOWN" }
  n.selector box "DATA_TYPE" "createGeneratorOutputNode" { text := "New Generator", icon := "PLUS" } "LIST"
  n.button l "createBreakNode" { text := "New Break Condition", icon := "PLUS" },
 act0 "edit" fun n => do
  for t in <- iter (<- n.at "newIteratorSocket.dataTargets") do
   if (<- t "dataType").is "Node Control" then continue
   unless <- isBaseType (<- textAt t "dataType") do continue
   (<- n.call "newIterator" [<- listType (<- textAt t "dataType"), <- t.call "getDisplayedName"]).tell "linkWith" [t]
  n.makeFor "newParameter" (<- n "newParameterSocket")
  n.bid "newIteratorSocket.removeLinks"
  n.bid "newParameterSocket.removeLinks",
 act2 "drawControlSocket layout socket" fun n l s => do
  if <- equal s (<- n.output (-1)) then n.offerNew l s "newParameter" else n.offerNew l s "newIterator" "LIST",
 fn2 "newIterator listDataType name?" fun n list name => do
  let type <- baseType (<- text list)
  let name := if name.isNone then .str type else name
  let s <- n.newOutput type (<- text name) ("iterator_" ++ (<- text (<- randomText 5)))
  s.moveTo (<- (<- n.outputNamed "New Iterator").place)
  n.tell "setupSocket" [s, name, 1]
  pure s,
 fn3 "newParameter dataType name? defaultValue?"
    fun n ty name v => do
   let name := if name.isNone then ty else name
   let s <- n.newOutput (<- text ty) (<- text name) ("parameter_" ++ (<- text (<- randomText 5)))
   if <- truthy v then s.tell "setProperty" [v]
   s.moveTo (<- (<- n.outputNamed "New Parameter").place)
   (<- s "loop").set "copyAlways" false
   n.tell "setupSocket" [s, name, 2]
   pure s,
 act3 "setupSocket socket name moveGroup" fun _ s name g => do
  s.set "moveGroup" g
  makeEditable s name
  (<- s "loop").set "useAsInput" true,
 fn0 "getSocketData" fun n => do (<- SubprogramInterface.ofLoop n).toValue,
 act1 "createGeneratorOutputNode dataType" fun n ty => do
  n.createFor "LoopGeneratorOutput" "loopInputIdentifier" [("listDataType", ty), ("outputName", ty)]
  interfaceChanged,
 act1 "createReassignParameterNode socketIdentifier" fun n ident => do
  discard <| item (<- n "outputsByIdentifier") ident
  n.createFor "ReassignLoopParameter" "loopInputIdentifier" [("parameterIdentifier", ident)]
  interfaceChanged,
 act0 "createBreakNode" (·.createFor "LoopBreak" "loopInputIdentifier"),
 act1 "moveGeneratorOutput data" fun n data => do
  let (j, dir) <- unpack2 (<- data.call "split" [";"])
  let j <- toInt j
  let dir <- toInt dir
  let gens <- n.call "getSortedGeneratorNodes"
  if j == 0 && dir == -1 then return
  if j == (<- length gens) - 1 && dir == 1 then return
  let node <- item gens j
  let other <- item gens (j + dir)
  let place <- other "sortIndex"
  other.set "sortIndex" (<- node "sortIndex")
  node.set "sortIndex" place
  interfaceChanged,
 outputProp "newIteratorSocket" "New Iterator", outputProp "newParameterSocket" "New Parameter",
 outputProp "indexSocket" "Index", outputProp "iterationsSocket" "Iterations",
 prop "iterateThroughLists" fun n => return !(<- n.iteratorSockets).isEmpty,
 fn0 "getIteratorSockets" fun n => do socketsValue (<- n.iteratorSockets),
 fn0 "getParameterSockets" fun n => do socketsValue (<- n.parameterSockets),
 fn1 "getBreakNodes nodeByID" fun n d => do n.use "network.getBreakNodes" [d],
 fn1 "getSortedGeneratorNodes nodeByID?" fun n _ => do nodeList (<- n.sortedGenerators),
 fn1 "getReassignParameterNodes nodeByID?" fun n _ => do nodeList (<- n.reassignNodes)] subprogramOwnerMembers,
.onlyFound <| .edited "Reassign Loop Parameter" [words "loopInputIdentifier" "" (calling "identifierChanged"),
 words "parameterIdentifier" "" (calling "identifierChanged"), words "parameterDataType"] <| .append inLoop [
 act1 "identifierChanged context" fun n _ => do
  let s <- n "linkedParameterSocket"
  if <- truthy s then
   n.set "parameterDataType" (<- n.at "linkedParameterSocket.dataType")
   n.tell "generateSockets",
 draws fun n l => do
  let s <- n "linkedParameterSocket"
  if <- truthy s then
   l.sign ((<- literal (<- s.at "node.subprogramName")) ++ " > " ++
     (<- textAt s "text")) "GROUP_VERTEX"
  else l.sign "Target does not exist" "ERROR",
 act0 "generateSockets" fun n => n.keepingState do
  n.dropSockets
  n.takes (<- n.textOf "parameterDataType") "New Value" [textOnly]
  n.bool "Condition" [hide],
 prop "linkedParameterSocket" fun n =>
   tryCatch
    (do item (<- (<- n "loopInputNode") "outputsByIdentifier") (<- n "parameterIdentifier"))
    (fun _ => pure .none),
 prop "conditionSocket" fun n => tryCatch (n.inputNamed "Condition") (fun _ => pure .none)],
.edited "Script" ([words "executionCode", block "textBlock",
 flag "debugMode" true (calling "scriptExecutionCodeChanged"), words "errorMessage", flag "interactiveMode" true,
 flag "initializeMissingOutputs" true (calling "scriptExecutionCodeChanged"),
 flag "correctOutputTypes" true (calling "scriptExecutionCodeChanged")] ++ subprogramOwnerProperties) <| .append [
 act1 "scriptExecutionCodeChanged context" fun n _ => do
  n.set "errorMessage" ""
  codeChanged,
 act0 "setup" fun n => do
  n.startAs "My Script"
  n.takes "an_NodeControlSocket" "New Input"
  n.gives "an_NodeControlSocket" "New Output",
 draws fun n l => do
  l.separator
  let col <- l.stack
  let row <- col.line
  if (<- n "textBlock").isNone then n.button row "createNewTextBlock" { icon := "ADD" }
  else n.selector row "AREA" "viewTextBlockInArea" { icon := "ZOOM_SELECTED" }
  row.prop n "textBlock" bare
  let subrow <- row.line
  subrow.set "active" (<- n "textBlock").isSome
  n.button subrow "writeToTextBlock"
    { icon := "COPYDOWN", description := "Write script code into the selected text block" }
  let subcol <- col.stack
  subcol.set "scale_y" 1.4
  subcol.set "active" (<- n "textBlock").isSome
  let mut icon := "NONE"
  let c <- n "textInTextBlock"
  if c.isSome then if <- notEqual (<- n "executionCode") c then icon := "ERROR"
  unless <- n.is "interactiveMode" do
   n.button subcol "readFromTextBlock"
     { text := "Import Changes", icon, description := "Import the changes from the selected text block" }
  l.prop n "subprogramName" (badge "" "GROUP_VERTEX")
  n.tell "drawErrorMessages" [l] [("onlyErrors", false)]
  l.separator,
 act2 ⟨"drawErrorMessages", ["layout", opt "onlyErrors" false]⟩ fun n l errors => do
  let l <- layoutOf l
  unless (<- n "errorMessage").is "" do
   l.sign (<- n "errorMessage") "ERROR"
   return
  let col <- l.stack
  for s in ((<- n.outputs).dropLast) do
   let name <- s "text"
   let say (icon what : String) : Act := do col.sign s!"'{<- text name}' - {what}" icon
   if <- n.is "initializeMissingOutputs" then
    unless <- truthy (<- (Value.socket s).attrD "[\"variableInitialized\"]" true) do
     say "ERROR" "Not Initialized, used default"
   if <- n.is "correctOutputTypes" then
    let correction <- (Value.socket s).attrD "[\"correctionType\"]" 0
    if (<- equal correction 1) && !(<- truthy errors) then say "INFO" "Type Corrected"
    else if <- equal correction 2 then say "ERROR" s!"Wrong Type, expected '{<- s.dataType}'",
 drawsMore fun n l => do
  n.describe l
  l.prop n "interactiveMode"
  let col <- l.stack
  col.prop n "debugMode"
  col.prop n "initializeMissingOutputs"
  col.prop n "correctOutputTypes"
  n.showDefaults (<- l.column) "Input Defaults:" (<- n.inputs) true
  n.showDefaults (<- l.column) "Output Defaults:" (<- n.outputs) false,
 act2 "drawControlSocket layout socket" fun n l s => do
  let l <- layoutOf l
  if <- has (<- sequenceValue (<- n.inputs)) s then
   n.selector l "DATA_TYPE" "newInputSocket" { text := "New Input", icon := "ADD" }
  else n.selector l "DATA_TYPE" "newOutputSocket" { text := "New Output", icon := "ADD" },
 act0 "edit" fun n => n.tell "removeLinks",
 makesSocket "newInputSocket" .input, makesSocket "newOutputSocket" .output,
 act1 "setupSocket socket" fun _ s => do
  setAll (<- s "textProps") ["editable", "variable", "unique"]
  setAll (<- s "display") ["textInput", "text", "removeOperator"]
  setAll s ["moveable", "removeable"]
  s.tell "moveUp"
  s.set "text" (<- s "dataType"),
 act1 "duplicate sourceNode" fun n _ => do
  n.tell "randomizeNetworkColor"
  n.set "textBlock" .none,
 fn0 "getSocketData" fun n => do (<- SubprogramInterface.ofScript n).toValue,
 act0 "createNewTextBlock" fun n => do
  n.set "textBlock" (<- (<- blocks "texts").call "new" [] [("name", <- n "subprogramName")])
  n.tell "writeToTextBlock",
 act1 "viewTextBlockInArea area" fun n area => do
  area.set "type" "TEXT_EDITOR"
  (<- area.at "spaces.active").setAttrs
   [("text", <- n "textBlock"), ("show_line_numbers", true), ("show_syntax_highlight", true)],
 act0 "writeToTextBlock" fun n => do
  unless <- n.is "textBlock" do return
  (<- n "textBlock").tell "from_string" [<- n "executionCode"],
 act0 "readFromTextBlock" fun n => do
  unless <- n.is "textBlock" do return
  n.set "executionCode" (<- n "textInTextBlock")
  n.set "errorMessage" ""
  codeChanged,
 act0 "interactiveUpdate" fun n => do
  unless <- n.is "textBlock" do return
  let c <- n "textInTextBlock"
  if <- fits n "executionCode" c then return
  let some key <- subprogramUnit? (<- n.identifier) | return
  n.set "executionCode" c
  refreshScriptUnit key,
 prop "textInTextBlock" fun n => do
  if <- n.is "textBlock" then return <- n.use "textBlock.as_string"
  pure .none,
 prop "executionUnit" fun n => do
  match <- subprogramUnit? (<- n.identifier) with
  | some _ => newRecord "ScriptExecutionUnit" []
  | none => pure .none] subprogramOwnerMembers]

end AnimationGraph
