import AnimationGraph.Control.Choosers
import AnimationGraph.Execution.Update

/-! # Operators for functions, subprograms and triggers

A button of a node calls a function through an operator.
-/

namespace AnimationGraph

def invokeControl (num : String) : RecordKind :=
 control s!"an.invoke_function_{num}" s!"InvokeFunction_{num}" "Are you sure?" none
  [words "callback", flag "invokeWithData", flag "confirm", words "data", flag "passEvent"]
  [invoking fun c ctx ev => do
   c.set "_event" ev
   if <- holds c "confirm" then (<- windowManager ctx).call "invoke_confirm" [c, ev]
   else c.call "execute" [ctx],
  finishing fun c _ => do
   let data <- if <- holds c "invokeWithData" then do pure [<- c "data"] else pure []
   let ev <- if <- holds c "passEvent" then do pure [<- c "_event"] else pure []
   answerCallback c (data ++ ev)
   (<- here "area").tell "tag_redraw"]

def invokeControl? (name : String) : Run (Option RecordKind) := do
 for start in ["an.invoke_function_", "InvokeFunction_"] do
  if name.startsWith start then
   let num := (name.drop start.length).toString
   let some n := num.toNat? | pure ()
   if n < max 1 (<- get).describedOperators.length then return some (invokeControl num)
 pure none

def createOperator (description : String) : Act := do
 let num := toString (<- get).describedOperators.length
 change fun w => { w with describedOperators := w.describedOperators ++ [(description, s!"an.invoke_function_{num}")] }
 record "register_class" [<- newRecord s!"InvokeFunction_{num}" []]

def createDescribedOperators : Act := do
 (<- get).pendingDescriptions.forM createOperator
 change ({ · with pendingDescriptions := [] })

def subprogramItems : Evals := do
 return (<- get).survey.subprograms.map fun n =>
  .tuple [(n.identifier.map .str).getD .none, n.name, n.description]

def drawSubprogramSockets (l : LayoutId) (label : String) (ss : Value) : Act := do
 let col <- l.column
 col.write label
 let col <- col.stack
 for data in <- iter ss do
  let row <- col.row
  row.write (<- add "        " (<- data "text"))
  let id <- textAt data "idName"
  row.write ("<  " ++ ((socketTypes.find? id).map (·.name)).getD id ++ "  >")

def drawSubprogram (l : LayoutId) (net : Value) : Act := do
 l.write (<- add "Desription: " (<- net "description"))
 l.separator
 let m <- match <- textAt net "type" with
  | "Group" => pure "getGroupInputNode"
  | "Loop" => pure "getLoopInputNode"
  | "Script" => pure "getScriptNode"
  | _ => fail (.host "UnboundLocalError")
 let data <- (<- net.call m).call "getSocketData"
 drawSubprogramSockets l "Inputs:" (<- data "inputs")
 drawSubprogramSockets l "Outputs:" (<- data "outputs")

def changeSubprogramControl : RecordKind :=
 let expanded : Ask := return ((<- get).survey.subprograms.foldl (fun n s => n + s.name.length) 0) < 40
 titled "Change Subprogram" (some fun _ => return !(<- get).survey.subprograms.isEmpty)
  [words "nodeIdentifier", openChoice "subprogram" fun _ => do firstIdentifier (<- subprogramItems)]
  [fn1 "getSubprogramItems context" fun _ _ => do list (<- subprogramItems),
  invoking fun c ctx _ => do
   attempt do c.set "subprogram" (<- (<- dialogNode c) "subprogramIdentifier")
   openDialog c ctx 400,
  checking,
  drawn fun c l => do
   l.prop c "subprogram" [("expand", <- expanded)]
   let net <- networkNamed (<- c "subprogram")
   unless net.isNone do drawSubprogram l net,
  prop "expandSubprograms" fun _ => expanded,
  finishing fun c _ => do (<- dialogNode c).set "subprogramIdentifier" (<- c "subprogram")]

def showingTree (ctx : Value) : Eval := return (<- ctx.call "getActiveAnimationNodeTree").isSome

def triggerControl (label : String) (props : List (Property CellId))
  (body : CellId -> Value -> Value -> Act) : RecordKind :=
 titled label (some showingTree) props [finishing fun c ctx => do
  body c ctx (<- ctx.at "space_data.node_tree.autoExecution.customTriggers")]

def triggerControls : List RecordKind :=
 [triggerControl "Add Auto Execution Trigger" [] fun _ ctx triggers => do
   (<- triggers.call "new" ["MONITOR_PROPERTY"]).set "idType" "OBJECT"
   ctx.bid "area.tag_redraw",
 triggerControl "Remove Auto Execution Trigger"
  [whole "index"] fun c _ triggers => do (<- triggers "monitorPropertyTriggers").tell "remove" [<- c "index"],
 triggerControl "Assign Active Object to Auto Execution Trigger" [whole "index"] fun c ctx triggers => do
   let trigger <- item (<- triggers "monitorPropertyTriggers") (<- c "index")
   for (type, prop, src) in [("OBJECT", "object", "active_object"), ("COLLECTION", "collection", "collection"),
     ("SCENE", "scene", "scene")] do
    if <- fits trigger "idType" type then trigger.set prop (<- ctx.attr src)]

def showTree (ctx tree : Value) : Act := do (<- ctx "space_data").set "node_tree" tree
def allTrees : Eval := (Value.space "bpy.data") "node_groups"

def showNodes (ns : Values) (active : Value := .none) : Act := do
 match ns with
 | [] => pure ()
 | first :: _ =>
  let tree <- first "id_data"
  showTree (<- context) tree
  hostOperator "node.select_all" [] [("action", "DESELECT")]
  for n in ns do n.set "select" true
  hostOperator "node.view_selected"
  (<- tree "nodes").set "active" active

def showNetwork (net : Value) (active : Value := .none) : Act := do showNodes (<- iter (<- net.call "getNodes")) active

def treeOfNode : Value -> Run (Option TreeId)
 | .node n => look fun w => some (w.forest.node n).tree
 | _ => pure none

variable (c : CellId) (node : Value)

def jumpToCallers : Act := do
 match <- iter (<- node.call "getInvokeNodes") with
 | [] => pure ()
 | [caller] => showNodes [caller] caller
 | first :: others =>
  let callers := first :: others
  let tree <- treeOfNode node
  let near <- callers.filterM fun m => return (<- treeOfNode m) == tree
  let only <- treeOfNode first
  if let active :: _ := near then showNodes near active
  else if <- others.allM fun m => return (<- treeOfNode m) == only then showNodes callers
  else c.tell "report" [<- newSet ["INFO"], "Cannot decide which node to jump to (yet)."]

def navigateFrom : Act := do
 let net <- node "network"
 if (<- node "bl_idname").is callKind then
  let called <- networkNamed (<- node "subprogramIdentifier")
  showNetwork called (<- called.call "getOwnerNode")
 else if <- truthy (<- node.attrD "isSubprogramNode" false) then jumpToCallers c node
 else if <- holds net "isSubnetwork" then showNetwork net (<- net.call "getOwnerNode")
 else showNetwork net

def soughtNode : Eval := do
 let id <- c "nodeIdentifier"
 tryCatch
  (do
   if <- notEqual id "" then return <- nodeIdentifiedBy (<- text id)
   nodeOfKey (.tuple [<- c "treeName", <- c "nodeName"]))
  fun _ => pure .none

def createTree : Act := do showTree (<- context) (<- (<- allTrees).call "new" ["AN Tree", treeKind])

def treeControls : List RecordKind :=
 [control "an.create_node_tree" "an.create_node_tree" "Create Node Tree" none []
  [invoking fun c ctx _ => c.call "execute" [ctx],
  finishing fun _ _ => createTree],
 control "an.copy_node_tree" "CopyNodeTree" "Copy Animation Node Tree" (some showingTree) []
  [finishing fun _ ctx => do showTree ctx (<- ctx.use "space_data.node_tree.copy")],
 control "an.remove_node_tree" "RemoveNodeTree" "Remove Animation Node Tree" (some showingTree) []
  [invoking fun c ctx ev => do (<- windowManager ctx).call "invoke_confirm" [c, ev],
  finishing fun _ ctx => do
   let tree <- ctx.at "space_data.node_tree"
   tree.set "use_fake_user" false
   showTree ctx .none
   tree.tell "user_clear"
   (<- allTrees).tell "remove" [tree]],
 control "an.switch_tree" "SwitchTreeOperator" "Switch Tree"
  (some fun ctx => return (<- ctx.at "area.type").is "NODE_EDITOR") [words "treeName"]
  [executing fun c ctx => do
   let name <- c "treeName"
   let trees <- allTrees
   unless <- has trees name do return <- cancelled
   showTree ctx (<- item trees name)
   hostOperator "node.view_all"
   finished],
 control "an.execute_tree" "ExecuteNodeTree" "Execute Node Tree" (some fun _ => mayRun) [words "name"]
  [executing fun c _ => do
   let name <- c "name"
   let tree <- (<- allTrees).call "get" [name]
   if <- pure tree.isSome <&&> do return (<- tree "bl_idname").is treeKind then
    tree.tell "execute"
    redrawEverything
    return <- finished
   c.tell "report" [<- newSet ["ERROR"], (<- literal name) ++ " is no animation nodes tree"]
   cancelled],
 titled "Deactivate Auto Execution" none [] [finishing fun _ _ => do
   for t in (<- get).ownTrees do setPath t "autoExecution.enabled" false
   redrawAreas "NODE_EDITOR"],
 titled "Move View to Node" (some inTree) [words "nodeIdentifier", words "treeName", words "nodeName"]
  [executing fun c ctx => do
   let node <- soughtNode c
   if node.isNone then return <- cancelled
   let tree <- node "id_data"
   showTree ctx tree
   let ns <- tree "nodes"
   for n in <- iter ns do n.set "select" false
   node.set "select" true
   ns.set "active" node
   hostOperator "node.view_selected"
   finished, fn0 "getNode" soughtNode],
 control "an.network_navigation" "MoveViewToSubprogram" "Move View to Subprogram"
  (some fun ctx => do
   let node <- ctx.attrD "active_node" .none
   if node.isNone then return false
   unless <- holds node "select" do return false
   unless (<- ctx.at "area.type").is "NODE_EDITOR" do return false
   node "isAnimationNode") []
  [finishing fun c ctx => do navigateFrom c (<- ctx "active_node"),
  act2 "jumpToNetwork network activeNode?" fun _ net active => showNetwork net active,
  act1 "jumpToNode node" fun _ node => showNodes [node] node,
  act2 "jumpToNodes nodes activeNode?" fun _ ns active => do showNodes (<- iter ns) active],
 titled "Replace Nodes with Copies" (some inTree) [] [finishing fun _ _ => do
   hostOperator "node.select_all" [] [("action", "SELECT")]
   for name in ["clipboard_copy", "delete", "clipboard_paste"] do hostOperator s!"node.{name}"],
 titled "Tag retry execution" none [] [finishing fun _ _ => renewFile]]

def activeScripts : Run Texts := do
 return (<- (<- need .attr (<- unitOfNetwork? (<- here "active_node.network"))).read).scripts

def replaceTextBlock (name c : String) : Act := do
 let texts <- (Value.space "bpy.data") "texts"
 let block <- match <- texts.call "get" [name] with
  | .none => texts.call "new" [name]
  | block => pure block
 block.tell "clear"
 block.tell "write" [c]

def profiled (name : Value) : Act := do
 match name.word with
 | "EXECUTION" => (<- editedTree).tell "execute"
 | "TREE_ANALYSIS" => refreshSurvey
 | "UPDATE_EVERYTHING" => updateAll
 | "SCRIPT_GENERATION" => createUnits
 | _ => pure ()

def isProfileOrder (word : String) : Bool :=
 let starts (w : String) := (List.range w.length).reverse.map fun n => (w.take (n + 1)).toString
 let (known, doubtful) := ["calls", "ncalls", "cumtime", "cumulative", "filename", "line", "module", "name", "nfl",
  "pcalls", "stdname", "time", "tottime"].foldl
  (fun (known, doubtful) w =>
   let new := (starts w).takeWhile (!known.contains ·)
   (known ++ new, doubtful ++ ((starts w).drop new.length).take 1))
  (([] : Texts), ([] : Texts))
 known.contains word && !doubtful.contains word

def dataTypeTable : String :=
 "\n".intercalate <| (sortByKey (·.name) (socketTypes.types.filter (!socketTypes.isList ·.idName))).map fun t =>
  commaList [t.name, s!"\x60\x60{t.idName}\x60\x60", if socketTypes.isBase t.idName then "Yes" else "No"]

def codeControls : List RecordKind :=
 [control "an.print_current_execution_code" "PrintCurrentExecutionCode" "Print Execution Code" (some onActiveNode) []
  [finishing fun _ _ => discard activeScripts],
 control "an.write_current_execution_code" "WriteCurrentExecutionCode" "Write Execution Code" (some onActiveNode) []
  [finishing fun _ _ => do replaceTextBlock codeTextName ("\n\n\n".intercalate (<- activeScripts))],
 titled "Generate Socket Data CSV" none [] [finishing fun _ _ => replaceTextBlock "Socket Data.cvs" dataTypeTable],
 control "an.profile" "ProfileAnimationNodes" "Profile" none [words "function", words "output", words "sort"]
  [finishing fun c _ => do
   let name <- c "function"
   let isOrder := isProfileOrder (<- textAt c "sort")
   tryCatch (profiled name) fun f => if isOrder then throw f else fail .key
   unless isOrder do fail .key
   profiled name
   if <- fits c "output" "TEXT_BLOCK" then replaceTextBlock "Profiling" "",
  act0 "executeFunction" fun c => do profiled (<- c "function")],
 control "an.bake_to_keyframes" "BakeAnimation" "Bake to Keyframes" none [whole "startFrame" 1, whole "endFrame" 250]
  [invoking fun c ctx _ => do
   let manager <- windowManager ctx
   manager.tell "modal_handler_add" [c]
   c.set "timer" (<- manager.call "event_timer_add" [0.001] [("window", <- ctx "window")])
   setPath (<- preferences) "executionCode.type" "BAKE"
   let sc <- ctx "scene"
   c.set "scene" sc
   sc.tell "frame_set" [<- c "startFrame"]
   runningModal,
  fn2 "modal context event" fun c ctx ev => do
   let type <- ev "type"
   if <- among type ["RIGHTMOUSE", "ESC"] then return <- c.call "finish"
   let sc <- c "scene"
   let fr <- sc "frame_current"
   if <- equal type "TIMER" then
    sc.tell "frame_set" [<- add fr 1]
    ctx.bid "view_layer.update"
   if <- fits sc "frame_current" (<- c "endFrame") then return <- c.call "finish"
   runningModal,
  fn0 "finish" fun c => do
   setPath (<- preferences) "executionCode.type" "DEFAULT"
   (<- windowManager (<- context)).tell "event_timer_remove" [<- c "timer"]
   finished],
 control "an.reset_measurements" "an.reset_measurements" "Reset Measurements" none []
  [invoking fun c ctx _ => c.call "execute" [ctx], finishing fun _ _ => redrawEverything]]

end AnimationGraph
