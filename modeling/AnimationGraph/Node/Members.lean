import AnimationGraph.Node.Base

/-! # Members of all sockets and nodes

A socket shows its name or a text that the user can edit, it can be moved among the sockets of its
group and removed, and it draws its value where nothing is linked to it. Every node offers members under a name.
-/

namespace AnimationGraph

def socketGroups : List RecordKind := [
 { name := "SocketTextProperties", props := [flag "unique", flag "editable", flag "variable"] },
 { name := "SocketDisplayProperties"
   props := [flag "text", flag "textInput", flag "moveOperators", flag "removeOperator"] },
 { name := "SocketSubprogramProperties", props := [flag "hideByDefault"] },
 { name := "SocketLoopProperties"
   props := ["useAsInput", "useAsOutput", "copyAlways"].map fun name =>
    flag name false fun _ => do
     interfaceChanged
     codeChanged },
 { name := "SocketExecutionProperties", props := [whole "neededCopies"] }]

namespace SocketId

variable (s : SocketId)

def is (path : String) : Ask := do truthy (<- getPath s path)

variable (l : LayoutId) (n : NodeId)

def freshText (base : String) : Run String := do
 let used <- ((<- n.inputs) ++ (<- n.outputs)).mapM fun s : SocketId => do textAt s "text"
 -- every round draws new letters, and there are more pairs of letters than sockets
 let rec go : Nat -> String -> Run String
  | 0, _ => fail .exhausted
  | fuel + 1, candidate => do
   if used.contains candidate then go fuel s!"{base}_{(<- randomLetters 2)}" else pure candidate
 go 10000 base

def tidyText : Act := do
 if <- s.is "textProps.variable" then s.set "text" (Names.ofText (<- textAt s "text"))
 let owner <- s.owner
 if <- s.is "textProps.unique" then
  let wanted <- textAt s "text"
  s.set "text" "temporary name to avoid some errors"
  s.set "text" (<- freshText owner wanted)
 owner.tell "customSocketNameChanged" [s]

def textEdited : Act := guarded "correctText" s.tidyText

def displayedName : Eval := do
 if <- s.is "display.text" then s "text"
 else if (<- s.is "textProps.editable") && (<- s.is "display.textInput") then s "text"
 else s.name

def callback (m : Value) : Run String := do
 callbackText "executeSocketCallback" [SocketKey.toValue ⟨<- n.key, <- s.isOutput, <- s.identifier⟩, m]

def button (m : String) (b : Button := {}) : Act := do drawButton l b (<- s.callback n m)
def selectors : Pairs := [("PATH", "choose_path"), ("AREA", "select_area")]

def selector (s : SocketId) (l : LayoutId) (type : String) (n : NodeId) (m : String)
  (b : Button := {}) : Act := do
 if (selectors.lookup type).isSome then s.button l n s!"_selector_{type}" { b with data := m }
 else failWith "invalid selector type"

def hasProperty : Ask := (Value.socket s).hasAttr "drawProperty"
def drawProperty (text : Value) (n : NodeId) : Act := s.tell "drawProperty" [l, text, n]

def drawAs (text : Value) (n : NodeId) (drawType : Value) : Act := do
 let valued <- s.hasProperty
 let drawType : Value :=
  if drawType.is "TEXT_PROPERTY_OR_NONE" && valued then "TEXT_PROPERTY"
  else if drawType.is "PREFER_PROPERTY" then (if valued then "PROPERTY_ONLY" else "TEXT_ONLY")
  else drawType
 if drawType.is "TEXT_PROPERTY" then
  if valued then s.drawProperty l text n else l.write text
 else if drawType.is "PROPERTY_ONLY" then
  if valued then s.drawProperty l "" n
 else if drawType.is "TEXT_ONLY" then l.write text

def drawInNode : Act := do
 let shown <- s.call "getDisplayedName"
 let row <- l.line
 let out <- s.isOutput
 if (<- s.is "textProps.editable") && (<- s.is "display.textInput") then row.prop s "text" bare
 else if !out && !(<- s.isLinked) && (<- s.is "isUsed") then
  s.tell "drawSocket" [row, shown, n, <- s "defaultDrawType"]
 else
  if out then row.set "alignment" "RIGHT"
  row.write shown
 if (<- s.is "moveable") && (<- s.is "display.moveOperators") then
  row.separator
  s.button row n "moveUpInGroup" { icon := "TRIA_UP" }
  s.button row n "moveDownInGroup" { icon := "TRIA_DOWN" }
 if (<- s.is "removeable") && (<- s.is "display.removeOperator") then
  row.separator
  s.button row n "remove" { icon := "X" }
 if <- s.is "useIsUsedProperty" then
  let used <- s.is "isUsed"
  if (<- s.touched) && !used then
   row.sign "" "QUESTION"
   row.sign "" "TRIA_RIGHT"
  row.prop s "isUsed" (badge "" (if used then "LAYER_ACTIVE" else "LAYER_USED"))

def side : Run Side := look fun w => (w.forest.socket s).side

def moveFrom (src t : Nat) : Act := do
 changeForest fun f => f.arrange s (Forest.moved (f.siblings s).toList src t).toArray
 structureChanged

def moveTo (t : Int) : Act := do
 let own <- s.place
 if (own : Int) != t then
  let k := (<- look (·.forest.siblings s)).size
  s.moveFrom own (clampIndex (k - 1) t 0 (k - 1)).toNat
  (<- s.owner).tell "socketMoved"

def groupTarget (peers : List Bool) (cur : Nat) (up : Bool) : Option Nat :=
 let ps := (List.range peers.length).filter fun k => peers.getD k false && if up then k < cur else cur < k
 if up then ps.max? else ps.min?

def moveAmongPeers (up : Bool) : Act := do
 unless <- holds s "moveable" do return
 let g <- s "moveGroup"
 let peers <- (<- look (·.forest.siblings s)).toList.mapM fun t : SocketId => do
  if <- holds t "moveable" then fits t "moveGroup" g else pure false
 let cur <- s.place
 if let some target := groupTarget peers cur up then
  s.moveFrom cur target
  s.moveFrom (if up then target + 1 else target - 1) cur
  (<- s.owner).tell "socketMoved"

def remove : Act := do
 s.free
 let owner <- s.owner
 owner.removeSocket s
 owner.tell "socketRemoved"

end SocketId

def sequenceValue (ss : List SocketId) : Eval := list (ss.map .socket)
def ownersOf (ss : List SocketId) : Eval := do list (<- distinctValues ((<- ss.mapM SocketId.owner).map .node))
def textSet (texts : Texts) : Eval := newSet (texts.map .str)

def socketProperties : List (Property SocketId) := [
 words "text" "custom name" SocketId.textEdited, flag "removeable", flag "moveable", whole "moveGroup",
 flag "isUsed" true fun _ => codeChanged,
 flag "useIsUsedProperty", groupOf "display" "SocketDisplayProperties", groupOf "textProps" "SocketTextProperties",
 groupOf "subprogram" "SocketSubprogramProperties", groupOf "loop" "SocketLoopProperties",
 groupOf "execution" "SocketExecutionProperties",
 flag "dataIsModified" false fun _ => codeChanged,
 words "defaultDrawType" "TEXT_PROPERTY"]

def nodeOf (v : Value) : Run NodeId := do
 let .node n := v | fail .attr
 pure n

def socketOf (v : Value) : Run SocketId := do
 let .socket s := v | fail .attr
 pure s

/-- How a button looks is told between other parameters. -/
def withLook (sig : Signature) (after : List Parameter := []) : Signature :=
 .mk sig.name <| sig.params ++ [opt "text" "", opt "icon" "NONE", opt "description" "", opt "emboss" true] ++ after

def presses : List Parameter := [opt "confirm" false, opt "data" .none, opt "passEvent" false]

def buttonOf (b : Bound) (first : Nat) : Run Button := do
 return { text := <- text (b first), icon := <- text (b (first + 1)),
          description := <- text (b (first + 2)), emboss := b (first + 3) }

def socketMembers : Members SocketId := [
 idle "setProperty data", idle "getProperty",
 action "draw context layout node text" fun s b => do s.drawInNode (<- layoutOf (b 1)) (<- nodeOf (b 2)),
 action ⟨"drawSocket", ["layout", "text", "node", opt "drawType" "TEXT_PROPERTY"]⟩ fun s b => do
  s.drawAs (<- layoutOf (b 0)) (b 1) (<- nodeOf (b 2)) (b 3),
 fn0 "getDisplayedName" (·.displayedName),
 method "draw_color context node" fun s _ => do
  match (<- look (·.forest.socket s)).fields.get? "temporaryColor" with
  | some (.tuple c) => list c
  | _ => s "drawColor",
 act1 "copyDisplaySettingsFrom other" fun s other => do
  for name in ["text", "textInput", "moveOperators", "removeOperator"] do
   setPath s s!"display.{name}" (<- getPath other s!"display.{name}"),
 action (withLook "invokeFunction layout node functionName" presses) fun s b => do
  let look <- buttonOf b 3
  s.button (<- layoutOf (b 0)) (<- nodeOf (b 1)) (<- text (b 2))
   { look with confirm := b 7, data := b 8, passEvent := b 9 },
 action (withLook "invokeSelector layout selectorType node functionName") fun s b => do
  s.selector (<- layoutOf (b 0)) (<- text (b 1)) (<- nodeOf (b 2)) (<- text (b 3)) (<- buttonOf b 4),
 method "newCallback node functionName" fun s b => do s.callback (<- nodeOf (b 0)) (b 1),
 act0 "free" (·.free),
 action "setTemporarySocketTransparency transparency" fun s b => do s.setTransparency (<- toFloat (b 0)),
 action "setAttributes properties" fun s b => do
  for k in <- iter (b 0) do s.set (<- text k) (<- item (b 0) k),
 act0 "moveUp" fun s => do s.moveTo ((<- s.place : Int) - 1),
 act1 "moveTo index node?" fun s i => do s.moveTo (<- indexOf i),
 act0 "moveUpInGroup" (·.moveAmongPeers true),
 act0 "moveDownInGroup" (·.moveAmongPeers false),
 action ⟨"moveInGroup", [opt "moveUp" true]⟩ fun s b => do s.moveAmongPeers (<- truthy (b 0)),
 method "linkWith socket" fun s b => return .link (<- s.linkTo (<- socketOf (b 0))),
 act0 "remove" (·.remove),
 fn0 "removeLinks" (·.removeLinks),
 method "isLinkedToType dataType" fun s b => do
  (<- s.linkedSockets).anyM fun other => return (b 0).is (<- other.dataType),
 prop "isOutput" (·.isOutput),
 prop "isInput" fun s => return !(<- s.isOutput),
 prop "nodeTree" fun s => do (<- s.owner).tree,
 prop "sockets" fun s => return .sockets (<- s.owner) (<- s.side),
 prop "isLinked" (·.isLinked),
 prop "isUnlinked" fun s => return !(<- s.isLinked),
 prop "dataOrigin" fun s => return ((<- s.sourceOfData?).map Value.socket).getD .none,
 prop "directOrigin" fun s => return ((<- s.linkSource?).map Value.socket).getD .none,
 prop "dataTargets" fun s => do sequenceValue (<- s.linkedSockets),
 prop "directTargets" fun s => do sequenceValue (<- s.directlyLinked),
 prop "linkedNodes" fun s => do ownersOf (<- s.linkedSockets),
 prop "directlyLinkedNodes" fun s => do ownersOf (<- s.directlyLinked),
 prop "linkedDataTypes" fun s => do textSet (<- s.typesOfLinks),
 prop "linkedSockets" fun s => do sequenceValue (<- s.linkedSockets),
 prop "directlyLinkedSockets" fun s => do sequenceValue (<- s.directlyLinked)] ++
 SocketId.selectors.map fun (type, operator) => act1 ⟨s!"_selector_{type}", ["data"]⟩ fun s m => do
  openOperator operator [("callback", <- s.callback (<- s.owner) m)]

def keyOf? : Value -> Option NodeKey
 | .tuple [.str tree, .str name] => some ⟨tree, name⟩
 | _ => none

def keysOf : Value -> List NodeKey
 | .tuple xs => xs.filterMap keyOf?
 | _ => []

namespace Network

def toValue (n : Network) (analysis : Nat) : Eval :=
 let keys (ks : List NodeKey) : Value := .tuple (ks.map NodeKey.toValue)
 let parts :=
  [("groupInputIDs", "groupInAmount", n.groupInputs), ("groupOutputIDs", "groupOutAmount", n.groupOutputs),
  ("loopInputIDs", "loopInAmount", n.loopInputs), ("generatorOutputIDs", "generatorAmount", n.generators),
  ("reassignParameterIDs", "reassignParameterAmount", n.reassigns), ("breakIDs", "breakAmount", n.breaks),
  ("scriptIDs", "scriptAmount", n.scripts)]
 let named : Fields := [("type", n.type.label), ("name", n.name), ("description", n.description),
  ("identifier", (n.identifier.map .str).getD .none), ("nodeIDs", keys n.members)]
 let last : Fields := [("referencedSubprogramIDs", .tuple (n.references.map .str)), ("analysis", analysis)]
 newRecord "Network" (named ++ parts.map (fun (ids, _, ks) => (ids, keys ks))
  ++ ("joined", .bool n.joined) :: parts.map (fun (_, amount, ks) => (amount, .int ks.length)) ++ last)

def current (n : Network) : Eval := do n.toValue (<- look (·.analyses))

end Network

def nodesInField (c : CellId) (field : String) : Run (List NodeId) := do (keysOf (<- c.attr field)).mapM nodeAt
def treeNameOf (c : CellId) : Run String := return ((keysOf (<- c "nodeIDs")).head?.map (·.tree)).getD ""
def nodeList (ns : List NodeId) : Eval := list (ns.map .node)

def allIn (name field : String) : Feature CellId := fn1 s!"{name} nodeByID?" fun c _ => do
 nodeList (<- nodesInField c field)

def firstIn (name field : String) : Feature CellId := fn1 s!"{name} nodeByID?" fun c _ => do
 let some k := (keysOf (<- c.attr field)).head? | pure .none
 return ((<- look (·.nodeAt? k)).map .node).getD .none

def isAnimatedNode (n : NodeId) : Ask := look fun w => (w.forest.node n).isAnimated

def networkKind : RecordKind :=
 { name := "Network"
   members :=
    [allIn "getNodes" "nodeIDs",
    fn1 "getAnimationNodes nodeByID?" fun c _ => do nodeList (<- (<- nodesInField c "nodeIDs").filterM isAnimatedNode),
    prop "treeName" (treeNameOf ·),
    prop "nodeTree" fun c => do
     let name <- treeNameOf c
     need .key (<- look (·.forest.findTree? name)),
    prop "isSubnetwork" fun c => return (<- c "type").isOneOf ["Group", "Loop", "Script"],
    fn1 "getOwnerNode nodeByID?" fun c _ => do
     let .str identifier <- c "identifier" | fail .key
     nodeIdentifiedBy identifier] ++
    (["GroupInput", "GroupOutput", "LoopInput", "Script"].map fun k => firstIn s!"get{k}Node" s!"{k.decapitalize}IDs") ++
    ["GeneratorOutput", "ReassignParameter", "Break"].map fun k => allIn s!"get{k}Nodes" s!"{k.decapitalize}IDs" }

def networkList (nets : List Network) : Eval := do list (<- nets.mapM (·.current))
def subprogramList : Eval := do networkList (<- get).survey.subprograms

variable (identifier : Value)

def networkNamed : Eval := do
 let .str id := identifier | pure .none
 let some n <- look (·.survey.networkByIdentifier? id) | pure .none
 n.current

def nodesByKind (kind : String) : Eval := do nodeList (<- nodesOfKind kind)

def identifiedNode : Eval := do
 let .str id := identifier | fail .key
 nodeIdentifiedBy id

def identifiedNode? : Eval := tryCatch (identifiedNode identifier) fun _ => pure .none
def preferences : Eval := look (·.preferences)
def setting (path : String) : Eval := do (<- preferences).at path
def executionCodeType : Eval := setting "executionCode.type"

def Network.color (n : Network) : Eval := do
 let colors <- setting "nodeColors"
 match n.type with
 | .invalid => colors "invalidNetwork"
 | .main => colors "mainNetwork"
 | _ => do (<- n.ownerNode) "networkColor"

def Network.colorNodes (net : Network) (ns : List NodeId) : Act := do
 let mode <- (<- setting "nodeColors") "nodeColorMode"
 if mode.is "NETWORKS" then
  let c <- net.color
  for n in ns do
   if <- holds n "useNetworkColor" then
    n.set "use_custom_color" true
    let own <- if (<- n.kind) != callKind then pure none
     else look (·.survey.networkByIdentifier? (<- textAt n "subprogramIdentifier"))
    n.set "color" (<- match own with
     | some called => called.color
     | none => pure c)
 else if mode.is "NEEDED_COPIES" then
  for n in ns do
   n.set "use_custom_color" true
   let total <- (<- (<- n.outputs).mapM fun (s : SocketId) => getPath s "execution.neededCopies").foldlM add 0
   n.set "color" (.tuple (if <- equal total 0 then [0.7, 0.9, 0.7] else [1.0, 0.3, 0.3]))

def colorForest : Act := do for net in (<- get).survey.networks do net.colorNodes (<- net.animatedNodes)

namespace NodeId

def isAny (flags : Texts) (n : NodeId) : Ask := flags.anyM n.is
def word (name : String) (n : NodeId) : Run String := return (<- n.attr name).word
def textOf (name : String) (n : NodeId) : Run String := do text (<- n.attr name)

end NodeId

export NodeId (is isAny word textOf)

def linkFlags (t : List (String × Bool)) : Eval := newDict (t.map fun (k, linked) => (k, linked))

def nodeProperties : List Property := [
 words "identifier", flag "inInvalidNetwork",
 flag "useNetworkColor" true fun _ => colorForest,
 whole "activeInputIndex", whole "activeOutputIndex"]

variable (sockets : List SocketId) (n : NodeId)

def newSocketFrom (side : Side) (args : Args) : Eval := do
 let (type, name, id) <- match args.pos with
  | [type, name] => pure (type, name, name)
  | [type, name, id] => pure (type, name, id)
  | _ => failWith "invalid arguments"
 n.newOn (<- text type) side (<- text name) (<- text id) args.named

def tableOf : Eval := do newDict (<- sockets.mapM fun s => return (.str (<- s.identifier), .socket s))
def ownVariables : Eval := do tableValue (<- sockets.mapM fun s => return (<- s.identifier, <- s.identifier))

def activeSocket (i : Value) : Eval := do
 if sockets.isEmpty then return .none
 item (.tuple (sockets.map .socket)) i

def extensionsOf : Eval := do
 let measured <- if (<- executionCodeType).is "MEASURE" then do
  pure [<- newRecord "TextUIExtension" [("text", "Not Measured"), ("fontSize", 12), ("maxRows", 150)]]
  else pure []
 let mode <- n.call "getErrorHandlingType"
 let notes <- n.notes
 let messages <- if <- pure (mode.isOneOf ["MESSAGE", "EXCEPTION"] && notes.errorMessage.isSome) <&&>
   truthy notes.showErrorMessage then do pure [<- newRecord "ErrorUIExtension" [("text", notes.errorMessage)]]
  else pure []
 let own <- n.call "getUIExtensions"
 let more <- if own.isNone then pure [] else iter own
 list (measured ++ messages ++ more)

def labelOf : Eval := do
 let hide <- n.is "hide"
 if (<- register "nodeLabelMode").is "MEASURE" && hide then return "Not Measured"
 let mode <- n "dynamicLabelType"
 if mode.is "ALWAYS" || (mode.is "HIDDEN_ONLY" && hide) then n.call "drawLabel"
 else n "bl_label"

def ownMembers : Members := [
 idle "setup", idle "edit", idle "duplicate sourceNode", idle "delete", idle "save", idle "draw layout",
 labels (· "bl_label"),
 drawsMore fun _ layout => layout.write "Has no advanced settings",
 act0 "socketRemoved" (·.tell "socketChanged"), act0 "socketMoved" (·.tell "socketChanged"),
 act1 "customSocketNameChanged socket" fun n _ => n.tell "socketChanged",
 idle "socketChanged",
 fn0 "getExecutionFunctionName" fun _ => pure "execute",
 fn1 "getExecutionCode required" fun _ _ => list [],
 fn0 "getCodeEffects" fun _ => list [],
 fn0 "getBakeCode" fun _ => list [],
 fn0 "getUsedModules" fun _ => list [],
 fn0 "getUIExtensions" fun _ => pure .none,
 act2 "drawControlSocket layout socket" fun _ layout k => do
  let l <- layoutOf layout
  let s <- socketOf k
  l.set "alignment" (if <- s.isOutput then "RIGHT" else "LEFT")
  l.write (<- s.name),
 fn0 "getSearchTags" (· "searchTags"),
 fn1 "poll nodeTree" fun _ tree => return (<- tree "bl_idname").is treeKind,
 constant "ControlledExecutionException" (.kind "ControlledExecutionException"), constant "_isAnimationNode" true]

def lifeMembers : Members :=
 [act1 "init context" fun n _ => do
  n.set "width_hidden" 100
  n.set "identifier" (<- newIdentifier)
  n.tell "setup"
  if <- n.canBeMadeAnew then n.tell "refresh",
 idle "update",
 act1 "copy sourceNode" fun n src => do
  n.set "identifier" (<- newIdentifier)
  let notes <- (<- nodeOf src).notes
  n.modifyNotes fun _ => { inputs := notes.inputs, outputs := notes.outputs, effects := notes.effects }
  n.tell "duplicate" [src],
 act0 "free" fun n => do
  n.tell "delete"
  n.clear,
 act2 "draw_buttons context layout" fun n _ layout => do
  let l <- layoutOf layout
  if <- n.is "inInvalidNetwork" then l.sign "Invalid Network" "ERROR"
  if <- truthy (<- (Value.tree (<- n.tree)) "editNodeLabels") then l.prop n "label" bare
  n.tell "draw" [layout],
 fn0 "draw_label" labelOf,
 act0 "updateNode" (·.update),
 act1 "refresh context?" fun n _ => n.refresh,
 act0 "_refresh" (·.rebuild),
 act0 "_clear" (·.clear),
 prop "isRefreshable" (·.canBeMadeAnew),
 act0 "_applySocketTemplates" (·.applyTemplates)]

def wiringMembers : Members :=
 [fn0 "removeLinks" fun n => do
  return (<- ((<- n.inputs) ++ (<- n.outputs)).mapM fun s : SocketId => ask s "removeLinks").any id,
 act0 "remove" fun n => do (<- (Value.tree (<- n.tree)) "nodes").tell "remove" [n],
 ("newInput", .free fun n args => newSocketFrom n .input args),
 ("newOutput", .free fun n args => newSocketFrom n .output args),
 act0 "clearSockets" (·.dropSockets),
 act0 "clearInputs" fun n => n.clearSide .input,
 act0 "clearOutputs" fun n => n.clearSide .output,
 act1 "removeSocket socket" fun n s => do n.removeSocket (<- socketOf s)]

def opensFor (sel name : String) : Feature :=
 act1 s!"_selector_{sel} data" fun n m => do openOperator name [("callback", <- n.callback (<- text m))]

def buttonMembers : Members :=
 [action (withLook "invokeFunction layout functionName" presses) fun n b => do
  let look <- buttonOf b 2
  n.button (<- layoutOf (b 0)) (<- text (b 1)) { look with confirm := b 6, data := b 7, passEvent := b 8 },
 action (withLook "invokeSelector layout selectorType functionName" [opt "dataTypes" "ALL"]) fun n b => do
  n.selector (<- layoutOf (b 0)) (<- text (b 1)) (<- text (b 2)) (<- buttonOf b 3) (<- text (b 7)),
 action (withLook ⟨"invokePopup", ["layout", "drawFunctionName", opt "executeFunctionName" ""]⟩ [opt "width" 250]) fun n b => do
  n.popup (<- layoutOf (b 0)) (<- text (b 1)) (<- text (b 2)) (<- buttonOf b 3) (<- toInt (b 7)).toNat,
 fn3 "_getInvokeSelectorData selector function kwargs" fun _ sel m named => do
  let types <- named.call "get" ["dataTypes", "ALL"]
  let (data, executed) <- NodeId.selectorData (<- text sel) (<- text m) (<- text types)
  tuple [data, executed],
 act1 "_selector_DATA_TYPE data" fun n data => do
  match (<- text data).splitOn "," with
  | [m, g] => openOperator "choose_socket_type" [("socketGroup", g), ("callback", <- n.callback m)]
  | _ => fail .value,
 opensFor "PATH" "choose_path",
 opensFor "ID_KEY" "choose_id_key",
 opensFor "AREA" "select_area",
 act1 "_openNodePopup data" fun n data => do
  match (<- text data).splitOn "," with
  | [draw, execute, w] =>
   openOperator "node_popup" [("nodeIdentifier", <- n.identifier), ("drawFunctionName", draw),
    ("executeFunctionName", execute), ("width", <- toInt w)]
  | _ => fail .value,
 fn1 "newCallback functionName" fun n f => do n.callback (<- text f),
 fn0 "getAllUIExtensions" extensionsOf]

def questionMembers : Members := [
 fn0 "getErrorHandlingType" (· "errorHandlingType"),
 act0 "resetErrorMessage" fun n => n.modifyNotes ({ · with errorMessage := .none }),
 act2 ⟨"setErrorMessage", ["message", opt "show" true]⟩ fun n msg shown => n.showError msg shown,
 act2 ⟨"raiseErrorMessage", ["message", opt "show" true]⟩ fun n msg shown => n.halt msg shown,
 fn0 "getLinkedInputsDict" fun n => do linkFlags (<- n.linkedInputTable),
 fn0 "getLinkedOutputsDict" fun n => do linkFlags (<- n.linkedOutputTable),
 fn0 "iterInnerLinks" fun n => do list ((<- n.innerLinks).map fun (a, b) => .tuple [a, b]),
 fn1 "getAllIdentifiersOfSocket socket" fun _ s => do textSet (<- (<- socketOf s).identifiers),
 prop "nodeTree" (·.tree),
 prop "inputsByIdentifier" fun n => do tableOf (<- n.inputs),
 prop "outputsByIdentifier" fun n => do tableOf (<- n.outputs),
 prop "linkedOutputs" fun n => return .tuple ((<- n.linkedOutputs).map .socket),
 prop "unlinkedInputs" fun n => return .tuple ((<- n.freeInputs).map .socket),
 prop "activeInputSocket" fun n => do activeSocket (<- n.inputs) (<- n "activeInputIndex"),
 prop "activeOutputSocket" fun n => do activeSocket (<- n.outputs) (<- n "activeOutputIndex"),
 prop "originNodes" fun n => do nodeList (<- n.sourceNodes),
 prop "network" fun n => do (<- n.network).current,
 prop "sockets" fun n => do sequenceValue ((<- n.inputs) ++ (<- n.outputs)),
 fn0 "getInputSocketVariables" fun n => do ownVariables (<- n.inputs),
 fn0 "getOutputSocketVariables" fun n => do ownVariables (<- n.outputs),
 fn2 ⟨"getLocalExecutionCode", ["required", opt "bake" false]⟩ fun n req bake => do
  n.localCode (<- textsOf req) (<- truthy bake),
 prop "codeEffects" fun n => do list (if <- n.is "isVectorized" then [.kind "VectorizeCodeEffect"] else [])]

def nodeMembers : Members := ownMembers ++ lifeMembers ++ wiringMembers ++ buttonMembers ++ questionMembers

def NodeKind.described (k : NodeKind) : String -> Option Eval
 | "bl_idname" => some (pure k.id)
 | "bl_label" => some (pure k.label)
 | "dynamicLabelType" => some (pure k.labelMode)
 | "errorHandlingType" => some (pure k.errorMode)
 | "options" => some (textSet k.options)
 | "isVectorized" => some (pure k.vectorized)
 | "onlySearchTags" => some (pure k.onlySearchTags)
 | "searchTags" => some do
  list (<- k.searchTags.mapM fun (tag, opts) => do
   if opts.isEmpty then return tag
   tuple [tag, <- tableValue opts])
 | _ => none

/-- How a node chooses among its members by its properties. -/
inductive Plan where
 | run (member : String)
 | nothing
 | ifAny (flags : Texts) (yes no : Plan)
 | ifItem (choice item : String) (yes no : Plan)

instance : Coe String Plan := ⟨.run⟩

namespace Plan

def ifSet (flag : String) (yes no : Plan) : Plan := .ifAny [flag] yes no

def byItem (choice : String) (ways : List (String × Plan)) : Plan :=
 ways.foldr (fun (item, way) rest => .ifItem choice item way rest) .nothing

def member (n : NodeId) : Plan -> Eval
 | .run name => pure name
 | .nothing => pure .none
 | .ifAny flags yes no => do if <- n.isAny flags then yes.member n else no.member n
 | .ifItem choice item yes no => do if (<- n.attr choice).is item then yes.member n else no.member n

end Plan

def runsBy (plan : Plan) : Feature := fn0 "getExecutionFunctionName" plan.member

end AnimationGraph
