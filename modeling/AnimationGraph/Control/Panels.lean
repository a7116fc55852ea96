import AnimationGraph.Control.Choosers
import AnimationGraph.Execution.Update
import AnimationGraph.Graphics.Drawing

/-! # Operators on networks and lists of sockets

Nodes are selected along their links, and networks are selected, coloured and framed as a whole. The sockets of a node
are listed beside each other: inputs and outputs.
-/

namespace AnimationGraph

def World.linkEnds (w : World) (n : NodeId) (side : Side) : List SocketKey :=
 (w.forest.side n side).toList.flatMap fun s => w.survey.tables.directlyLinked (w.socketKey s)

def nodesAlongLinks (start : NodeId) (sides : List Side) (pick : List NodeId -> Nat := fun _ => 0) : Run (List NodeId) := do
 let w <- get
 let ends (n : NodeId) := sides.flatMap (w.linkEnds n)
 let reached :=
  reachedFrom (fun n => (ends n).filterMap (w.nodeAt? ·.node)) pick (w.forest.allNodes.size + 2) [start] []
 let _ <- (reached.flatMap ends).mapM fun k => do
  let _ <- nodeAt k.node
  need .attr (w.socketOf? k)
 return reached.filter (· != start)

def selectAlongLinks (side : Side) (start : Value) : Act := do
 for n in <- nodesAlongLinks (<- nodeOf start) [side] do n.set "select" true

def activeNetworkNodes (ctx : Value) : Evals := do iter (<- ctx.use "active_node.network.getNodes")
def selectsNetwork : Feature CellId := finishing fun _ ctx => for n in <- activeNetworkNodes ctx do n.set "select" true

/-- The outermost one of what a node lies in, if there is an end to it. -/
def outermost : Nat -> NodeId -> Run NodeId
 | 0, _ => fail .exhausted
 | steps + 1, n => do
  match <- look (·.forest.parent? n) with
  | none => pure n
  | some p => outermost steps p

/-- Put the outermost one of what a node lies in into a frame. -/
def frameAround (fr n : NodeId) : Act := do
 let steps <- look (·.forest.nodes.size)
 setParent (<- outermost (steps + 1) n) fr

/-- Put the nodes of a network into a new frame. -/
def frameNetwork (ns : List NodeId) : Act := do
 let fr <- newNode (<- (<- need .attr ns.head?).tree) "NodeFrame"
 ns.forM (frameAround fr)

def networkControls : List RecordKind :=
 [titled "Select Dependent Nodes" (some withActiveNode) []
  [finishing fun _ ctx => do selectAlongLinks .output (<- ctx "active_node")],
 control "an.select_dependencies" "SelectDependenciesNodes" "Select Dependencies" (some withActiveNode) []
  [finishing fun _ ctx => do selectAlongLinks .input (<- ctx "active_node")],
 titled "Select Network" (some withActiveNode) [] [selectsNetwork],
 titled "Select Active Network" (some onActiveNode) [] [selectsNetwork],
 titled "Color Active Network" (some onActiveNode) [] [finishing fun _ ctx => do
   let src <- ctx "active_node"
   for n in <- activeNetworkNodes ctx do
    n.set "use_custom_color" true
    n.set "color" (<- src "color")],
 titled "Frame Active Network" (some onActiveNode) [] [finishing fun _ ctx => do
   frameNetwork (<- (<- activeNetworkNodes ctx).mapM nodeOf)]]

structure Inserted where
 /-- Nodes that are placed at the cursor and moved by the user. -/
 nodes : List NodeId := []
 active : Option NodeId := none

def putNode (kind : String) (x : Int := 0) : Run NodeId := do
 let .tree t <- editedTree | fail .attr
 let n <- newNode t kind
 n.set "location" (<- vector [x, 0])
 n.set "label" ""
 pure n

def deselectNodes : Act := do for n in <- iter (<- (<- editedTree) "nodes") do n.set "select" false

def Inserted.place (i : Inserted) : Act := do
 let marker <- addNodeAtCursor "an_DataInputNode"
 let off <- marker "location"
 let ns <- (<- editedTree) "nodes"
 ns.tell "remove" [marker]
 for n in i.nodes do n.set "location" (<- add (<- n "location") off)
 deselectNodes
 for n in i.nodes do n.set "select" true
 dragSelected
 let some n := i.active | pure ()
 deselectNodes
 n.set "select" true
 ns.set "active" n

structure Creator where
 label : String
 id : String := idOfLabel label
 kind : String := camelCase label
 props : List (Property CellId) := []
 insert : CellId -> Run Inserted
 /-- Asks for settings before anything is inserted. -/
 dialog : Option (CellId -> LayoutId -> Act) := none
 choices : Option (Run (List SocketId)) := none

namespace Creator

variable (c : Creator)

def drawChoices (choices : Run (List SocketId)) (l : LayoutId) : Act := do
 l.set "operator_context" "EXEC_DEFAULT"
 for s in <- choices do
  (<- l.operator c.id [("text", <- s.call "getDisplayedName")]).set "socketIndex" (<- s.call "getIndex")

def ask (self : CellId) (ctx : Value) : Eval := do
 if c.dialog.isSome then return <- ctx.use "window_manager.invoke_props_dialog" [self] [("width", 400)]
 let menu <- truthy (<- (Value.cell self).attrD "needsMenu" false)
 self.set "usedMenu" menu
 if menu then
  ctx.bid "window_manager.popup_menu" [.member self "drawPopupMenu"]
  finished
 else self.call "execute" [ctx]

def toControl : RecordKind :=
 control c.id c.kind c.label (some inTree) (flag "usedMenu" :: c.props) <|
  [invoking fun self ctx _ => c.ask self ctx,
  drawn fun self l => self.tell "drawDialog" [l],
  checking,
  finishing fun self _ => do (<- c.insert self).place,
  act0 "insert" fun self => discard (c.insert self)]
  ++ (c.dialog.map (drawing "drawDialog" ·)).toList
  ++ (match c.choices with
   | some choices =>
    [prop "needsMenu" fun _ => return .bool ((<- choices).length > 1),
    drawing "drawMenu" fun _ l => c.drawChoices choices l,
    act2 "drawPopupMenu menu context" fun self menu _ => do
     self.tell "drawMenu" [<- (<- layoutOf (<- menu "layout")).column]]
   | none => [])

end Creator

def activeNodeId : Run NodeId := do
 let .node n <- activeNodeOrNone | fail .attr
 pure n

variable (s : SocketId)

def SocketId.isShown : Ask := return !(<- holds s "hide")

def SocketId.isUsable : Ask := do
 unless <- s.isShown do return false
 pure !(<- need .key (typeTables.inputTypes? (<- textAt s "dataType"))).isEmpty

def usableSockets (ss : List SocketId) : Run (List SocketId) := ss.filterM (·.isUsable)

def usableInputs : Run (List SocketId) := do usableSockets (<- (<- activeNodeId).inputs)
def usableOutputs : Run (List SocketId) := do usableSockets (<- (<- activeNodeId).outputs)

/-- A node that is linked with a socket of the active node. -/
def besideSocket (label : String) (choices : Run (List SocketId)) (ss : NodeId -> Run (List SocketId))
  (at' : NodeId -> Int -> Run SocketId) (make : SocketId -> Run NodeId) (own : NodeId -> Run SocketId) : Creator where
 label
 props := [whole "socketIndex"]
 choices
 insert self := do
  let chosen <- if <- holds self "usedMenu" then some <$> do at' (<- activeNodeId) (<- indexOf (<- self "socketIndex"))
   else tryCatch (do (<- ss (<- activeNodeId)).findM? (·.isUsable)) fun _ => return none
  let some s := chosen | return {}
  let n <- make s
  discard <| s.linkTo (<- own n)
  return { nodes := [n], active := n }

def creationKinds : Pairs := [
 ("Interpolation", "an_ConstructInterpolationNode"), ("Particle System", "an_ParticleSystemsFromObjectNode"),
 ("BVHTree", "an_ConstructBVHTreeNode"), ("KDTree", "an_ConstructKDTreeNode"),
 ("Edge Indices", "an_CreateEdgeIndicesNode"), ("Polygon Indices", "an_CreatePolygonIndicesNode"),
 ("Vector", "an_CombineVectorNode"), ("Euler", "an_CombineEulerNode"), ("Struct", "an_SetStructElementsNode"),
 ("Quaternion", "an_CombineQuaternionNode"), ("Mesh", "an_MeshObjectInputNode"),
 ("Matrix", "an_ComposeMatrixNode")]

def insertCreationNode : Run NodeId := do
 let type <- s.dataType
 match creationKinds.lookup type with
 | some kind => putNode kind
 | none =>
  if <- isListType type then
   let n <- putNode "an_CreateListNode"
   n.set "assignedType" (<- baseType type)
   return n
  let n <- putNode "an_DataInputNode"
  n.set "assignedType" type
  (<- n.input 0).setProperty (<- s.getProperty)
  pure n

def dataCreator : Creator :=
 besideSocket "Insert Data Creation Node" usableInputs NodeId.inputs NodeId.input insertCreationNode (·.output 0)

def viewerCreator : Creator :=
 besideSocket "Insert Viewer Node" usableOutputs NodeId.outputs NodeId.output (fun s => do
  putNode (if (<- s.dataType) == "Interpolation" then "an_InterpolationViewerNode" else "an_ViewerNode")) (·.input 0)

def callCreator : Creator where
 id := "an.insert_invoke_subprogram_node"
 kind := "InsertSubprogramInvokeNode"
 label := "Insert Invoke Node"
 props := [words "subprogramIdentifier"]
 insert self := do
  let n <- putNode callKind
  n.set "subprogramIdentifier" (<- self "subprogramIdentifier")
  return { nodes := [n] }

def insertLoopOver (src : NodeId) (s : SocketId) : Run Inserted := do
 let loop <- putNode "an_LoopInputNode"
 loop.tell "newIterator" [(<- s.dataType)]
 let call <- putNode callKind
 call.set "location" (<- add (<- viewLocation src) (<- vector [250, 0]))
 call.set "subprogramIdentifier" (<- loop.identifier)
 refreshCallersIfNeeded
 discard <| s.linkTo (<- call.input 0)
 return { nodes := [loop] }

def loopCreator : Creator where
 label := "Insert Loop for Iterator"
 props := [words "nodeIdentifier", whole "socketIndex"]
 insert self := do
  let found : Option (NodeId × SocketId) <- tryCatch (do
    let n <- nodeIdentifiedBy (<- textAt self "nodeIdentifier")
    return some (n, <- n.output (<- indexOf (<- self "socketIndex"))))
   fun _ => pure none
  let some (n, s) := found | return {}
  if <- isListType (<- s.kind) then insertLoopOver n s else return {}

def insertSubprogram (type : Value) : Run (List NodeId) := do
 if type.is "GROUP" then
  let input <- putNode "an_GroupInputNode"
  let out <- putNode "an_GroupOutputNode" 500
  out.set "groupInputIdentifier" (<- input.identifier)
  return [input, out]
 if type.is "LOOP" then return [<- putNode "an_LoopInputNode"]
 if type.is "SCRIPT" then return [<- putNode "an_ScriptNode"]
 pure []

def subprogramCreator : Creator where
 label := "Insert Empty Subprogram"
 props := [choice "subprogramType" "GROUP", words "targetNodeIdentifier"]
 dialog := some fun self l => l.prop self "subprogramType"
 insert self := do
  let nodes <- insertSubprogram (<- self "subprogramType")
  match <- identifiedNode? (<- self "targetNodeIdentifier"), nodes.head? with
  | .none, _ => pure ()
  | t, some first => t.set "subprogramIdentifier" (<- first.identifier)
  | _, none => fail (.host "UnboundLocalError")
  interfaceChanged
  return { nodes }

def drawSocketList (row : LayoutId) (node : Value) (label oper collection active : String) (size : Nat) : Act := do
 let col <- row.column
 let header <- col.line
 header.write label
 (<- header.operator oper (badge "" "TRIA_UP")).set "moveUp" true
 (<- header.operator oper (badge "" "TRIA_DOWN")).set "moveUp" false
 col.put "template_list" ["AN_UL_SocketUiList_Normal", "", node, collection, node, active]
  [("rows", size), ("maxrows", size)]

variable (l : LayoutId) (node : Value) (side : Side)

def drawSocketSides : Act := do
 let row <- l.line
 let inputs <- count node "inputs"
 let outs <- count node "outputs"
 let size := max (max inputs outs) 1
 if inputs > 0 then drawSocketList row node "Inputs" "an.move_input" "inputs" "activeInputIndex" size
 if outs > 0 then drawSocketList row node "Outputs" "an.move_output" "outputs" "activeOutputIndex" size

def drawPlacement : Act := do
 l.prop node "width" "Width"
 let col <- l.stack
 col.prop node "location" [("text", "X"), ("index", 0)]
 col.prop node "location" [("text", "Y"), ("index", 1)]

def drawSettingsOf : Act := do
 drawSocketSides l node
 if <- truthy (<- setting "developer.debug") then
  l.separator
  drawPlacement l node
  l.write (<- add "Identifier: " (<- node "identifier"))

def drawActiveNodeSettings (panel : Value) : Act := do
 let node <- activeNodeOrNone
 unless <- truthy (<- node.attrD "isAnimationNode" false) do return
 let l <- layoutOf (<- panel "layout")
 l.separator
 drawSettingsOf l node

def activeSocketOn : Eval := do
 match <- activeNodeOrNone with
 | .none => pure .none
 | node => node.attr (if side == .output then "activeOutputSocket" else "activeInputSocket")

def moveActiveSocket (up : Value) : Eval := do
 let s <- activeSocketOn side
 s.tell "moveInGroup" [up]
 let node <- s "node"
 let (col, active) := if side == .output then ("outputs", "activeOutputIndex") else ("inputs", "activeInputIndex")
 node.set active (<- (<- list (<- iter (<- node.attr col))).call "index" [s])
 finished

def mover (id name label : String) (side : Side) : RecordKind :=
 control id name label
  (some fun _ => do (<- activeSocketOn side).attrD "moveable" false) [flag "moveUp"]
  [executing fun c _ => do moveActiveSocket side (<- c "moveUp")]

def drawListedSocket (k : Value) : Act := do
 let known <- match k with
  | .socket s => look fun w => (w.dataType? s).isSome
  | _ => pure false
 unless known do
  l.write "No Animation Node Socket"
  return
 if <- truthy (<- k.at "textProps.editable") then l.prop k "text" [("emboss", false), ("text", "")]
 else l.write (<- k.call "getDisplayedName")
 if <- holds k "removeable" then k.tell "invokeFunction" [l, node, "remove"] [("icon", "X"), ("emboss", false)]
 let icon := if <- holds k "hide" then "RESTRICT_VIEW_ON" else "RESTRICT_VIEW_OFF"
 l.prop k "hide" [("text", ""), ("icon_only", true), ("icon", icon), ("emboss", false)]

def socketListControls : List RecordKind :=
 [control "AN_UL_SocketUiList_Normal" "SocketUiList_Normal" "" none []
  [method "draw_item context layout node socket icon activeData activePropname" fun _ b => do
   drawListedSocket (<- layoutOf (b 1)) (b 2) (b 3)
   pure .none],
 mover "an.move_input" "MoveInputSocket" "Move Input" .input,
 mover "an.move_output" "MoveOutputSocket" "Move Output" .output,
 control "an.floating_node_settings_panel" "FloatingNodeSettingsPanel" "Node Settings" (some onNode)
  [words "nodeIdentifier", choice "mode" "ADVANCED_SETTINGS"]
  [checking,
  invoking fun c ctx _ => do
   c.set "nodeIdentifier" (<- ctx.at "active_node.identifier")
   openDialog c ctx 250,
  drawn fun c l => do
   match <- dialogNode? c with
   | none => l.sign "An error occured during drawing" "INFO"
   | some node =>
    l.prop c "mode" [("expand", true)]
    l.separator
    let mode <- c "mode"
    if <- equal mode "ADVANCED_SETTINGS" then node.tell "drawAdvanced" [l]
    else if <- equal mode "SOCKET_SETTINGS" then drawSocketSides l node,
  executing fun _ _ => newSet ["INTERFACE"]]]

def treePanel (id name label : String) (poll : Option (Value -> Eval)) (ms : Members CellId) : RecordKind :=
 control id name label poll [] (fn0 "getTree" (fun _ => editedTree) :: ms)

def whileEditing (_ : Value) : Eval := editingTree
def drawProblemHint : Act := do unless <- mayRun do l.sign "Look in the 'Problems' panel" "INFO"

def drawAutoExecution : Act := do
 let opts <- (<- editedTree) "autoExecution"
 let renders <- viewportRenders
 drawProblemHint l
 l.set "active" (<- opts "enabled")
 let col <- l.column
 col.set "active" (!renders)
 col.prop opts "always" [("text", if renders then "Always (deactivated)" else "Always")]
 let col <- l.column
 col.set "active" (!(<- holds opts "always") || renders)
 col.prop opts "sceneChanged" "Scene Changed"
 let col <- col.column
 col.set "active" (!(<- holds opts "sceneChanged"))
 col.prop opts "treeChanged" "Tree Changed"
 col.prop opts "frameChanged" "Frame Changed"
 col.prop opts "propertyChanged" "Property Changed"
 l.prop opts "minTimeDifference" [("slider", true)]
 for (t, i) in (<- iter (<- opts.at "customTriggers.monitorPropertyTriggers")).zipIdx do t.tell "draw" [l, i]
 l.press "an.add_auto_execution_trigger" (badge "New Trigger" "ADD")

def executionTimeText (tree : Value) : Eval := do durationText (<- tree.at "lastExecutionInfo.executionTime")

def drawTreeSettings : Act := do
 let tree <- editedTree
 let col <- l.column
 col.set "scale_y" 1.5
 (<- col.operator "an.execute_tree" [("icon", "PLAY")]).set "name" (<- tree "name")
 drawProblemHint l
 let row <- l.line
 row.sign (<- executionTimeText tree) "TIME"
 row.prop (<- setting "executionCode") "measureExecution" [("text", "Details"), ("emboss", false)]
 l.separator
 l.prop tree "globalScene" [("icon", "SCENE_DATA"), ("text", "Scene")]
 l.prop tree "editNodeLabels"

def drawOverview (ctx : Value) : Act := do
 let col <- (<- l.box).stack
 for t in (<- get).ownTrees do
  let tree := Value.tree t
  let name <- tree "name"
  let row <- col.line
  (<- row.operator "an.switch_tree" [("text", name), ("emboss", false)]).set "treeName" name
  row.sign (<- executionTimeText tree) "TIME"
  let opts <- tree "autoExecution"
  let icon := if <- holds opts "enabled" then "LAYER_ACTIVE" else "LAYER_USED"
  row.prop opts "enabled" [("icon", icon), ("text", ""), ("icon_only", true)]
 l.press "an.statistics_drawer" (badge "Statistics" "LINENUMBERS_ON")
 let bake <- l.operator "an.bake_to_keyframes" (badge "Bake to Keyframes" "DECORATE_KEYFRAME")
 let sc <- ctx "scene"
 bake.set "startFrame" (<- sc "frame_start")
 bake.set "endFrame" (<- sc "frame_end")

def drawProblemPanel : Act := do
 let col <- l.stack
 let retry <- col.stack
 retry.set "scale_y" 1.5
 retry.press "an.tag_retry_execution" (badge "Retry" "FILE_REFRESH")
 l.separator
 drawProblems l
 l.separator
 let col <- l.stack
 let last <- (<- editedTree) "lastExecutionInfo"
 col.write "Last successful execution using:"
 col.write (<- add "    Blender:   v" (<- last "blenderVersionString"))
 col.write (<- add "    Animation Nodes:   v" (<- last "animationNodesVersionString"))
 if <- holds last "isDefault" then
  col.writeFitted ("These versions are only guesses. This file has not been executed "
   ++ "in a version that supports storing of version information yet.")

def drawCodeSettings : Act := do
 let opts <- setting "executionCode"
 l.write "Execution Code:"
 let col <- l.stack
 let row <- col.line
 row.prop opts "type" bare
 if (<- opts "type").is "MEASURE" then row.press "an.reset_measurements" (badge "" "RECOVER_LAST")
 let row <- col.line
 row.press "an.print_current_execution_code" (badge "Print" "CONSOLE")
 row.press "an.write_current_execution_code" (badge "Write" "TEXT")
 let subrow <- row.line
 subrow.set "active" (<- has (<- (Value.space "bpy.data") "texts") codeTextName)
 (<- subrow.operator "an.select_area" (badge "" "ZOOM_SELECTED")).set "callback" (<- codeEditorCallback)

def drawProfiler : Act := do
 let opts <- setting "developer.profiling"
 let col <- l.column
 col.prop opts "function" "Function"
 col.prop opts "sort" "Sort Mode"
 col.prop opts "output" "Output"
 let profile <- col.operator "an.profile" (badge "Profile" "PREVIEW_RANGE")
 for name in ["function", "sort", "output"] do profile.set name (<- opts.attr name)

def drawDeveloperSettings : Act := do
 drawCodeSettings (<- l.column)
 l.separator
 drawProfiler (<- l.column)
 l.separator
 l.prop (<- setting "nodeColors") "nodeColorMode" "Color Mode"

def drawViewportInput : Act := do
 let ns <- nodesOfKind "an_ViewportInputNode"
 if ns.isEmpty then
  l.sign "No Viewport Input node." "INFO"
  return
 let weighted <- ns.mapM fun n => return (n, <- toFloat (<- n "orderWeight"))
 for (n, _) in weighted.mergeSort fun a b => a.2 ≤ b.2 do
  let box <- l.box
  let row <- box.row
  row.write (<- add (<- n "label") ":")
  let hide <- holds n "hidden"
  let toggle <- row.operator "an.toogle_viewport_input_box"
   [("text", ""), ("icon", if hide then "TRIA_RIGHT" else "TRIA_DOWN"), ("emboss", false)]
  toggle.set "identifier" (<- n "identifier")
  unless hide do
   for s in (<- n.outputs).dropLast do
    s.tell "drawSocket" [box] [("text", <- s "text"), ("node", n), ("drawType", "TEXT_PROPERTY_OR_NONE")]

def panels : List RecordKind :=
 [control "AN_PT_node_settings_panel" "NodeSettingsPanel" "Advanced Node Settings"
  (some fun ctx => do (<- ctx "active_node").attrD "isAnimationNode" false) []
  [drawn fun _ l => do (<- here "active_node").tell "drawAdvanced" [l]],
 treePanel "AN_PT_auto_execution_panel" "AutoExecutionPanel" "Auto Execution" (some whileEditing)
  [act1 "draw_header context" fun c _ => do (<- surface c).prop (<- (<- editedTree) "autoExecution") "enabled" bare,
  drawn fun _ => drawAutoExecution],
 treePanel "AN_PT_tree_panel" "TreePanel" "Animation Node Tree" (some whileEditing)
  [drawn fun _ => drawTreeSettings],
 treePanel "AN_PT_problems_panel" "ProblemsPanel" "Problems"
  (some fun _ => return (<- editingTree) && !(<- get).problems.isEmpty)
  [act1 "draw_header context" fun c _ => do (<- surface c).sign "" "ERROR",
  drawn fun _ => drawProblemPanel],
 control "AN_PT_overview_panel" "OverviewPanel" "Overview" (some inTree) []
  [act1 "draw context" fun c ctx => do drawOverview (<- surface c) ctx],
 control "AN_PT_developer_panel" "DeveloperPanel" "Developer" (some inTree) []
  [act1 "draw context" fun c ctx => do
   discard <| ctx.at "space_data.node_tree"
   drawDeveloperSettings (<- surface c)],
 control "AN_PT_viewport_input_panel" "ViewportInputPanel" "Viewport Input" none []
  [drawn fun _ => drawViewportInput],
 titled "Toogle Viewport Input Box" none [words "identifier"]
  [finishing fun c _ => do
   let node <- nodeIdentifiedBy (<- textAt c "identifier")
   node.set "hidden" (!(<- holds node "hidden"))]]

def pieSlots : Texts := ["Left", "Right", "Bottom", "Top", "TopLeft", "TopRight", "BottomLeft", "BottomRight"]
def drawEmptySlot (c : String := "") : Act := do (<- l.row).write c

def pie (id name label : String) (poll : Value -> Eval) (slots : List (String × (LayoutId -> Act))) :
  RecordKind :=
 control id name label (some poll) [] <|
  drawn (fun c l => do
   let pie <- l.call "menu_pie"
   for slot in pieSlots do c.tell ("draw" ++ slot) [pie])
  :: (pieSlots.map fun slot => drawing ("draw" ++ slot) fun _ => (slots.lookup slot).getD (drawEmptySlot ·))

def drawSubprogramSlot : Act := do
 let col <- l.column [("align", false)]
 let node <- here "active_node"
 let calls <- col.stack
 if <- truthy (<- node.attrD "isSubprogramNode" false) then
  let call <- calls.operator "an.insert_invoke_subprogram_node" (badge "Create Invoke Node" "GROUP_VERTEX")
  call.set "subprogramIdentifier" (<- node "identifier")
 let loops <- col.stack
 for s in <- each node "outputs" do
  if !(<- holds s "hide") && socketTypes.isList (<- textAt s "bl_idname") then
   let name <- literal (<- s.call "getDisplayedName")
   let loop <- loops.operator "an.insert_loop_for_iterator" (badge s!"Loop through {name}" "MOD_ARRAY")
   loop.set "nodeIdentifier" (<- node "identifier")
   loop.set "socketIndex" (<- s.call "getIndex")

def pies : List RecordKind :=
 [pie "AN_MT_context_pie" "ContextPie" "Context Pie" onNode
  [("Left", fun l => do
   if (<- usableInputs).isEmpty then drawEmptySlot l "Has no usable inputs"
   else l.press "an.insert_data_creation_node" "Data Input"),
  ("Bottom", fun l => do
   if (<- usableOutputs).isEmpty then drawEmptySlot l "Has no usable outputs"
   else l.press "an.insert_viewer_node" "Viewer"),
  ("Right", drawSubprogramSlot)],
 pie "AN_MT_selection_pie" "SelectionPie" "Selection Pie" withActiveNode
  [("Left", (·.press "an.select_dependencies")), ("Right", (·.press "an.select_dependent_nodes")),
  ("Bottom", (·.press "an.select_network")), ("Top", (·.press "an.frame_active_network"))]]

end AnimationGraph
