import AnimationGraph.Control.Areas
import AnimationGraph.Control.Trees
import AnimationGraph.Control.Menus
import AnimationGraph.Control.Panels
import AnimationGraph.IdKey.Controls
import AnimationGraph.Data.Motion

/-! # Questions by name

What the survey of the trees says about nodes, sockets and networks, and the nodes and sockets of the
trees themselves, as operations.
-/

namespace AnimationGraph

def controls : List RecordKind :=
 [dataCreator, viewerCreator, callCreator, loopCreator, subprogramCreator].map (·.toControl) ++ networkControls ++ menus.map (·.toControl) ++ choosers ++ treeControls ++ codeControls
  ++ areaControls ++ socketListControls ++ panels ++ pies ++ keyControls ++ invokeControl "0" :: changeSubprogramControl :: triggerControls
  ++ [statisticsControl]

def findControl? (name : String) : Option RecordKind :=
 controls.find? fun k => k.controlId? == some name || k.name == name

def newControl (kind : RecordKind) : Run CellId := do
 let v <- newCell (.record
  { kind := kind.name, origin := .block, recorded := ["report"], fields := [("name", ""), ("usedMenu", false)] })
 let .cell c := v | fail .type
 pure c

def takeReady {α : Type} [BEq α] (left : List (α × List α)) : List α × List (α × List α) :=
 let ready := (left.filter (·.2.isEmpty)).map (·.1)
 (ready, (left.filter (!·.2.isEmpty)).map fun (v, needs) => (v, needs.filter (!ready.contains ·)))

def inOrderOfNeeds? {α : Type} [BEq α] : Nat -> List (α × List α) -> Option (List α)
 | _, [] => some []
 | 0, _ :: _ => none
 | rounds + 1, left =>
  let (ready, rest) := takeReady left
  (inOrderOfNeeds? rounds rest).map (ready ++ ·)

def alone (par : String) (kinds : Pairs) (others : Texts := []) : List (String × Texts × Texts) := kinds.map fun (space, kind) => (par ++ space, [kind], others)

def spaceKinds : List (String × Texts × Texts) := [
 ("base_types.node_tree", ["LastTreeExecutionInfo", "AnimationNodeTree"], ["AutoExecutionProperties"]),
 ("base_types.sockets.base_socket", ["SocketTextProperties", "SocketDisplayProperties",
  "SocketSubprogramProperties", "SocketLoopProperties", "SocketExecutionProperties"], ["AnimationNodeSocket",
  "SortedSet"]),
 ("base_types.tree_auto_execution", ["AutoExecutionTrigger_MonitorProperty", "CustomAutoExecutionTriggers",
  "AutoExecutionProperties", "AddAutoExecutionTrigger", "RemoveAutoExecutionTrigger",
  "AssignActiveObjectToAutoExecutionTrigger"], []),
 ("extend_bpy_types", ["MeshProperties", "ObjectProperties", "IDProperties"], []),
 ("id_keys.copy_operator", ["CopyIDKeyMenuOpener"], []),
 ("id_keys.data_types.integer_type", ["IDKeysFromSortedObjects"], ["Vector", "SingleIDKeyDataType",
  "IntegerDataType"]),
 ("id_keys.id_keys_panel", ["IDKeyPanel"], ["IDKey", "SortedSet"]),
 ("id_keys.new_id_key", ["NewIDKey"], ["IDKey", "SortedSet"]),
 ("id_keys.object_extension", ["IDKeyProperties"], []),
 ("operators.network_separation", ["SelectActiveNetwork", "ColorActiveNetwork", "FrameActiveNetwork"],
  ["AnimationNodeOperator"]),
 ("operators.node_creators.insert_loop_for_iteration", ["InsertLoopForIterator"], ["Vector", "NodeCreator"]),
 ("operators.node_selection", ["SelectDependentNodes", "SelectDependenciesNodes", "SelectNetwork"],
  ["NodeOperator", "SortedSet"]),
 ("operators.output_execution_code", ["PrintCurrentExecutionCode", "WriteCurrentExecutionCode"],
  ["AnimationNodeOperator"]),
 ("operators.profiling", ["ProfileAnimationNodes"], ["StringIO"]),
 ("operators.select_area", ["SelectArea"], ["Vector", "SortedSet"]),
 ("preferences", ["NodeColorProperties", "ProfilingProperties", "DeveloperProperties",
  "ExecutionCodeProperties", "DrawMeshIndicesProperties", "DrawHandlerProperties",
  "AnimationNodesPreferences"], []),
 ("ui.data_input_panel", ["ViewportInputPanel", "ToogleViewportInputBox"], []),
 ("ui.node_menu", menus.map (·.toControl.name), []),
 ("ui.node_panel", ["SocketUiList_Normal", "MoveInputSocket", "MoveOutputSocket"], ["AnimationNodeSocket"]),
 ("ui.node_pie", ["ContextPie"], ["PieMenuHelper", "SubprogramBaseNode"]),
 ("ui.node_search", ["NodeSearch"], ["InsertItem", "SingleNodeInsertionItem"]),
 ("ui.problems_panel", ["ProblemsPanel"], ["Rectangle"]),
 ("ui.selection_pie", ["SelectionPie"], ["PieMenuHelper"]),
 ("ui.statistics", ["StatisticsDrawer"], ["Vector", "Table", "Rectangle", "NodeStatistics", "TreeStatistics"])] ++
 alone "operators.node_creators." [("insert_data_creation_node", "InsertDataCreationNode"), ("insert_invoke_node", "InsertSubprogramInvokeNode"),
  ("insert_subprogram", "InsertEmptySubprogram"), ("insert_viewer_node", "InsertViewerNode")] ["NodeCreator"] ++
 alone "operators." [("bake", "BakeAnimation"), ("choose_id_key", "IDKeySearch"),
  ("copy_nodetree", "CopyNodeTree"), ("deactivate_auto_execution", "DeactivateAutoExecution"),
  ("execute_tree", "ExecuteNodeTree"), ("generate_socket_data_csv", "GenerateSocketDataCSV"),
  ("move_view_to_node", "MoveViewToNode"), ("network_navigation", "MoveViewToSubprogram"),
  ("path_chooser", "ChoosePath"), ("remove_nodetree", "RemoveNodeTree"),
  ("rename_datablock", "RenameDatablockPopupOperator"),
  ("replace_node_with_copies", "ReplaceNodesWithCopies"), ("socket_type_chooser", "ChooseSocketType"),
  ("switch_tree", "SwitchTreeOperator"), ("tag_retry_execution", "TagRetryExecution"),
  ("update_selection_order", "RecordSelectionOrder")] ++
 alone "ui." [("advanced_node_settings_panel", "NodeSettingsPanel"),
  ("auto_execution_panel", "AutoExecutionPanel"), ("developer_panel", "DeveloperPanel"),
  ("node_popup", "NodePopup"), ("node_settings_floating", "FloatingNodeSettingsPanel"),
  ("overview_panel", "OverviewPanel"), ("tree_panel", "TreePanel")]

def kindsIn : Value -> Texts × Texts
 | .space path => (spaceKinds.lookup path).getD ([], [])
 | _ => ([], [])

def allKindsIn (space : Value) : Texts := (kindsIn space).1 ++ (kindsIn space).2

def groupsIn {σ : Type} (props : List (Property σ)) : Texts :=
 props.filterMap fun p => match p.storage with
  | .group kind | .groups kind => some kind
  | _ => none

variable (records : List RecordKind) (n : NodeId) (v : Value) (spaces : Values) (name : String) (s : SocketId) (kept : Value)
 (ns : Texts)

def needsOf (kind : String) : Texts :=
 if kind == "AnimationNodeTree" then groupsIn treeProperties
 else ((records.find? (·.name == kind)).map (groupsIn ·.props)).getD []

def kindValues : Run Fields := ns.eraseDups.mapM fun name => return (name, <- newRecord name [])
def kindSet : Eval := do newSet ((<- kindValues ns).map (·.2))

def hostKindsIn : Texts :=
 spaces.flatMap fun s =>
  let (own, other) := kindsIn s
  own ++ other.filter fun k => spaceKinds.any fun (_, registered, _) => registered.contains k

def needsTable : Eval := do
 let vs <- kindValues (hostKindsIn spaces)
 newDict (<- vs.mapM fun (name, v) => do
  return (v, <- newSet ((needsOf records name).eraseDups.filterMap (vs.lookup ·))))

def keysInOrder (needed : Value) : Eval := do
 let keys <- iter needed
 let place (v : Value) : Run Nat := do
  for (k, i) in keys.zipIdx do if <- equal k v then return i
  pure keys.length
 let needs <- keys.mapM fun k => do (<- iter (<- item needed k)).mapM place
 let some places := inOrderOfNeeds? keys.length ((List.range keys.length).zip needs) | fail .exhausted
 list (places.filterMap (keys[·]?))

def registryOperations : Operations := [
 op1 "toposort deps_dict" keysInOrder,
 op1 "get_ordered_classes_to_register modules" fun v => do keysInOrder (<- needsTable records (<- iter v)),
 op1 "iter_my_classes modules" fun v => do list ((<- kindValues (hostKindsIn (<- iter v))).map (·.2)),
 op1 "get_classes_in_modules modules" fun v => do kindSet ((<- iter v).flatMap allKindsIn),
 op1 "iter_classes_in_module module" fun v => do list ((<- kindValues (allKindsIn v)).map (·.2)),
 asking "get_register_base_types" (kindSet ["Panel", "Operator", "PropertyGroup", "AddonPreferences", "Header",
  "Menu", "Node", "NodeSocket", "NodeTree", "UIList", "RenderEngine"]),
 op1 "get_register_deps_dict modules" fun v => do needsTable records (<- iter v),
 asking "get_dependency_from_annotation value" (pure .none),
 asking "iter_my_deps_from_parent_id cls my_classes_by_idname" (list [])]

def surveyPath : String := "tree_info."
def askNode (answer : NodeId -> Eval) : Service := op s!"{name} node nodeByID?" fun b => do answer (<- nodeOf (b 0))

def askSocket (answer : SocketId -> Eval) : Service :=
 op s!"{name} socket node? nodeByID?" fun b => do answer (<- socketOf (b 0))

def askText (name p : String) (answer : String -> Eval) : Service :=
 op s!"{name} {p} nodeByID?" fun b => do answer (b 0).word

def socketList (ss : List SocketId) : Eval := list (ss.map .socket)

def renamedFlags (t : List (String × Bool)) (repls : Value) : Eval := do
 let flags <- newDict []
 for (k, linked) in t do
  let replaced <- has repls k
  setItem flags (<- if replaced then item repls k else pure k) linked
 pure flags

def inputsWithOrigins : Evals := do
 let found <- (<- n.inputs).mapM fun s => do
  let w <- get
  return match w.survey.tables.linkedSockets (w.socketKey s) with
   | [] => none
   | k :: _ => some (.tuple [s, w.survey.tables.dataType.getD k ""])
 return found.filterMap id

def Analysis.DataLink.toValue (l : Analysis.DataLink) : Value :=
 .tuple [l.origin.toValue, l.target.toValue, l.originType, l.targetType]

def networksWith (test : Network -> Bool) : Eval := do networkList ((<- get).survey.networks.filter test)

def surveyOperations : Operations := within surveyPath [
 doing "update" refreshSurvey, doing "updateIfNecessary" refreshIfStale,
 doing "treeChanged" (change fun w => { w with stale := true }),
 askText "getNodeByIdentifier" "identifier" (nodeIdentifiedBy ·),
 asking "getIdentifierAmount" do look (·.survey.tables.byIdentifier.size),
 askText "getNodesByType" "idName" nodesByKind,
 askText "nodeOfTypeExists" "idName" fun kind => return !(<- nodesOfKind kind).isEmpty,
 op "getUndefinedNodes nodeByID" fun _ => nodesByKind "NodeUndefined",
 askSocket "isSocketLinked" (·.isLinked),
 askSocket "getDirectlyLinkedSockets" fun s => do socketList (<- s.directlyLinked),
 askSocket "getDirectlyLinkedSocket" fun s => return ((<- s.linkSource?).map .socket).getD .none,
 askSocket "getDirectlyLinkedSocketsIDs" fun s => do
  list ((<- look fun w => w.survey.tables.directlyLinked (w.socketKey s)).map SocketKey.toValue),
 askSocket "getLinkedSockets" fun s => do socketList (<- s.linkedSockets),
 askSocket "iterLinkedSocketsWithInfo" fun s => do socketList (<- s.linkedSockets),
 askSocket "getLinkedDataTypes" fun s => do textSet (<- s.typesOfLinks),
 askNode "getOriginNodes" fun n => do nodeList (<- n.sourceNodes),
 asking "getAllDataLinkIDs" do newSet ((<- get).survey.tables.dataLinks.map Analysis.DataLink.toValue),
 askNode "getLinkedInputsDict" fun n => do linkFlags (<- n.linkedInputTable),
 askNode "getLinkedOutputsDict" fun n => do linkFlags (<- n.linkedOutputTable),
 op "getLinkedOutputsDict_ChangedIdentifiers node replacements" fun b => do
  renamedFlags (<- (<- nodeOf (b 0)).linkedOutputTable) (b 1),
 askNode "iterLinkedOutputSockets" fun n => do socketList (<- n.linkedOutputs),
 askNode "iterUnlinkedInputSockets" fun n => do socketList (<- n.freeInputs),
 askNode "iterLinkedInputSocketsWithOriginDataType" fun n => do list (<- inputsWithOrigins n),
 askNode "getNetworkWithNode" fun n => do (<- n.network).current,
 asking "getNetworks" do networkList (<- get).survey.networks,
 asking "getSubprogramNetworks" subprogramList,
 op ⟨"getNetworksByType", [opt "type" "Main"]⟩ fun b => networksWith ((b 0).is ·.type.label),
 op "getNetworkByIdentifier identifier" fun b => networkNamed (b 0),
 op "getNetworksByNodeTree nodeTree" fun b => do
  networksWith (·.nameOfTree == (<- text (<- (b 0) "name"))),
 op "getSubprogramNetworksByNodeTree nodeTree" fun b => do
  let name <- text (<- (b 0) "name")
  networksWith fun n => n.isSubprogram && n.nameOfTree == name]

def listingOperations : Operations :=
 [asking "createNodeByIdDict" do
  newDict (<- (<- get).ownNodes.mapM fun n => return ((<- n.key).toValue, .node n)),
 asking "iterAnimationNodes" do nodeList (<- animatedNodes),
 asking "iterNodesInAnimationNodeTrees" do nodeList (<- get).ownNodes,
 asking "iterAnimationNodesSockets" do
  socketList (<- (<- animatedNodes).flatMapM fun n => return (<- n.inputs) ++ (<- n.outputs)),
 op1 ⟨"getAnimationNodeTrees", [opt "skipLinkedTrees" true]⟩ fun v => do
  let all <- if <- truthy v then look (·.ownTrees) else look (·.forest.present.toList)
  list (all.map .tree)]

def frameEvent (ev : String) (evaluated : Value) : Act := do
 setRegister "evaluatedDepsgraph" evaluated
 handleEvents ((<- raisedEvents) ++ [ev])
 setRegister "evaluatedDepsgraph" .none

def showsScene (sc strip : Value) : Ask := do
 if <- notEqual (<- strip "type") "SCENE" then return false
 let fr <- sc "frame_current"
 if <- less fr (<- strip "frame_final_start") then return false
 return !(<- less (<- strip "frame_final_end") fr)

def beforeRendering (sc : Value) : Act := do
 unless <- truthy (<- sc.at "render.use_sequencer") do return
 let editor <- sc "sequence_editor"
 if editor.isNone then return
 for strip in <- each editor "sequences_all" do if <- showsScene sc strip then return
 handleEvents ((<- raisedEvents) ++ ["Frame"])

def setRendering (on : Bool) : Act := change fun w => { w with raised := { w.raised with rendering := on } }

/-- The functions of the library that react to events, in the order of their registration. -/
def ownHandlers : Fields :=
 [("ALWAYS", ["evaluateRaisedEvents", "createMissingIdentifiers", "updateSelectedScenes", "createMissingOperators",
  "nodes.subprogram.script.sceneUpdate", "updateAutoNodeTreeSelection"]), ("FILE_SAVE_PRE", ["callSaveMethods"]),
 ("FILE_LOAD_POST", ["fileLoaded", "updateIdKeysList"]), ("VERSION_UPDATE", ["versioningDone"]),
 ("ADDON_LOAD_POST", ["addonChanged", "updateIdKeysList"]), ("FRAME_CHANGE_POST", ["frameChanged"]),
 ("DEPSGRAPH_UPDATE_POST", ["sceneChanged"]), ("RENDER_INIT", ["renderInitialized"]), ("RENDER_PRE", ["renderPre"]),
 ("RENDER_CANCEL", ["renderEnd"]), ("RENDER_COMPLETE", ["renderEnd"])].flatMap fun (ev, names) =>
  names.map fun name => (ev, .operation name [])

def registered (registry : Fields) (ev : String) : Values := (registry.filter (·.1 == ev)).map (·.2)
def addHandler (ev : String) (f : Value) : Act := change fun w => { w with handlers := w.handlers ++ [(ev, f)] }

def callHandlers (ev : String) (args : Values := []) : Act := do
 (<- look fun w => registered (ownHandlers ++ w.handlers) ev).forM fun f => discard (f.apply args)

/-- The host calls back when something happens. -/
inductive HostCall where
 | save | load | version | frame | scene | renderInit | render | renderCancel | renderComplete

namespace HostCall

def all : List HostCall := [save, load, version, frame, scene, renderInit, render, renderCancel, renderComplete]

def signature : HostCall -> String
 | save => "savePre scene"
 | load => "loadPost scene"
 | version => "versionUpdate self"
 | frame => "frameChangedPost scene depsgraph"
 | scene => "depsgraphUpdatePost scene depsgraph"
 | renderInit => "renderInitialized scene"
 | render => "renderPre scene"
 | renderCancel => "renderCancelled scene"
 | renderComplete => "renderCompleted scene"

def served : HostCall -> String
 | save => "FILE_SAVE_PRE"
 | load => "FILE_LOAD_POST"
 | version => "VERSION_UPDATE"
 | frame => "FRAME_CHANGE_POST"
 | scene => "DEPSGRAPH_UPDATE_POST"
 | renderInit => "RENDER_INIT"
 | render => "RENDER_PRE"
 | renderCancel | renderComplete => "RENDER_CANCEL"

/-- Some handlers get the arguments of the call. -/
def passes : HostCall -> Bool
 | frame | scene | render => true
 | _ => false

def serve (c : HostCall) (args : Values) : Act := callHandlers c.served (if c.passes then args else [])

end HostCall

def tick : Act := do
 callHandlers "ALWAYS"
 if <- look (·.loaded) then
  change ({ · with loaded := false })
  callHandlers "ADDON_LOAD_POST"

def listenToHost (on : Bool) : Act := do
 let k <- look (·.listening)
 if !on && k == 0 then fail .value
 change fun w => { w with listening := if on then k + 1 else k - 1, loaded := on || w.loaded }
 record (if on then "timers.register" else "timers.unregister") [.operation "always" []]
  (if on then [("persistent", true)] else [])

def eventOperations : Operations :=
 let changing (name : String) := doing s!"{name} self? context?"
 let withFrame (name ev : String) : Service := proc s!"{name} scene depsgraph" fun b => frameEvent ev (b 1)
 HostCall.all.map (fun c => proc s!"utils.handlers.{c.signature}" fun b => c.serve b.toList) ++
 [op1 "eventHandler event" fun v => return .operation "eventHandlerDecorator" [v],
 op2 "eventHandlerDecorator event function" fun v f => do
  addHandler v.word f
  pure f,
 doing "evaluateRaisedEvents" handleRaisedEvents, withFrame "frameChanged" "Frame", withFrame "sceneChanged" "Scene",
 proc1 "renderPre scene" beforeRendering, doing "fileLoaded" renewOpenedFile,
 doing "callSaveMethods" (do for n in <- animatedNodes do n.tell "save"),
 doing "versioningDone" updateAutoExecution, doing "runVersioning" updateAutoExecution,
 doing "runVersioningSceneChanged" updateAutoExecution, doing "addonChanged" do
  change fun w => { w with raised.addon := true }
  structureChanged,
 doing "renderInitialized" (setRendering true), doing "renderEnd" (setRendering false),
 asksIf "isRendering" (look (·.raised.rendering)),
 asking "always" do
  tick
  pure 0,
 doing "utils.handlers.register" (listenToHost true),
 doing "utils.handlers.unregister" (listenToHost false), changing "propertyChanged" valueChanged,
 changing "treeChanged" structureChanged, changing "networkChanged" structureChanged,
 changing "executionCodeChanged" codeChanged,
 proc1 "event_handler.update events" fun v => do handleEvents (<- textsOf v),
 asksIf "failsToWriteToIDClasses" cannotWrite,
 asksIf "didNameChange" namesChanged,
 asking "getNamesHash" do textSet (<- allNames),
 doing "createMissingIdentifiers" do
  for n in <- animatedNodes do if <- fits n "identifier" "" then n.set "identifier" (<- newIdentifier),
 doing "updateSelectedScenes" do
  for t in (<- get).ownTrees do (Value.tree t).set "globalScene" (<- (Value.tree t) "scene"),
 doing "nodes.subprogram.script.sceneUpdate" do
  for n in <- nodesOfKind "an_ScriptNode" do if <- holds n "interactiveMode" then n.tell "interactiveUpdate"]

def treesIn : Run (List TreeId) := do
 (<- iter v).mapM fun
  | .tree t => pure t
  | _ => fail .attr

def nodesIn : Run (List NodeId) := do (<- iter v).mapM nodeOf

def updateOperations : Operations :=
 let ofNetwork (name : String) (body : Value -> List NodeId -> Act) : Service :=
  proc s!"{name} network nodes" fun b => do body (<- (b 0) "type") (<- nodesIn (b 1))
 [doing "updateEverything" updateAll, doing "enableUseFakeUser" protectTrees,
 doing "updateIndividualNodes" updateNodes,
 asking "checkNetworks nodeByID" do
  newDict (<- (<- examineNetworks).mapM fun (net, ns) => return (<- net.current, <- nodeList ns)),
 ofNetwork "markInvalidNodes" fun type ns => markNodes (type.is "Invalid") ns,
 ofNetwork "checkNodeOptions" fun type ns => checkOptions (type.isOneOf ["Group", "Loop"]) ns,
 doing "checkIdentifiers" checkDistinctIdentifiers, doing "checkIfNodeTreeIsLinked" checkLinkedTrees,
 doing "checkUndefinedNodes nodeByID" reportUndefinedNodes,
 doing "problems.reset" forgetProblems,
 asksIf "problems.canExecute" mayRun,
 asksIf "canExecute" mayRun,
 asksIf "canAutoExecute" mayRunAlone,
 asksIf "canCreateExecutionUnits" canCreateUnits,
 asking "problemsExist" do return !(<- get).problems.isEmpty,
 asksIf "isReportable" (look (·.problems.any (·.deservesReport))),
 asksIf "isPossiblyDisabledSafetyFeature" (look (·.problems.any (·.fromDisabledCheck))),
 proc1 "drawCurrentProblemInfo layout" fun v => do drawProblems (<- layoutOf v),
 proc1 "drawSafetyFeaturesMessage layout" fun v => do drawCheckAdvice (<- layoutOf v),
 proc1 "drawReportBugMessage layout" fun v => do drawReportAdvice (<- layoutOf v),
 doing "_updateSubprogramInvokerNodes" refreshCallers, doing "forceSubprogramUpdate" refreshCallers,
 doing "nodes.subprogram.subprogram_sockets.updateIfNecessary" refreshCallersIfNeeded,
 doing "subprogramInterfaceChanged" interfaceChanged]

def unitList (keys : List UnitKey) : Eval := do list (<- keys.mapM (·.toValue))

def neededSubprogramsOf (net : Value) : Eval := do
 let keys := keysOf (<- net "nodeIDs")
 match (<- get).survey.networks.find? (·.members == keys) with
 | none => textSet []
 | some n => textSet (<- neededSubprograms n)

def unitOperations : Operations :=
 let ofTrees (name : String) (body : List TreeId -> Act) : Service :=
  proc s!"{name} nodeTrees" fun b => do body (<- treesIn (b 0))
 [doing "createExecutionUnits nodeByID" createUnits,
 doing "execution.units.reset" forgetUnits,
 doing "createMainUnits nodeByID" do makeUnits (<- look (·.survey.ofType .main)),
 doing "createSubprogramUnits nodeByID" renewSubprograms,
 ofTrees "setupExecutionUnits" setUpUnits, ofTrees "finishExecutionUnits" finishUnits,
 ofTrees "executeNodeTrees" fun trees => trees.forM autoExecuteTree,
 op1 "iterAutoExecutionNodeTrees events" fun v => do list ((<- treesWaitingFor (<- textsOf v)).map .tree),
 doing "afterExecution" showResults, doing "clearExecutionCache" forgetCurves, doing "clearCache" forgetCurves,
 doing "resetMeasurements" (pure ()),
 asking "getMinExecutionTimeString node" (pure "Not Measured"),
 asking "getMeasurementResultString node" (pure "Not Measured"),
 op1 "getMainUnitsByNodeTree nodeTree" fun v => do
  let name <- textAt v "name"
  unitList (<- look (·.setting.mainUnits name)),
 op1 "getSubprogramUnitByIdentifier identifier" fun v => do
  let some key <- subprogramUnit? v.word | pure .none
  key.toValue,
 op1 "getSubprogramUnitsByName name" fun v => do
  unitList (<- look (·.setting.unitsWhere fun n => n.isSubprogram && v.is n.name)),
 op1 "getExecutionUnitByNetwork network" fun v => do
  let some key <- unitOfNetwork? v | pure .none
  key.toValue,
 op1 "getExecutionUnits nodeTrees" fun v => do unitList (<- unitsOf (<- treesIn v)),
 op1 "getNeededSubprogramIDs network" neededSubprogramsOf]

def linksAsValue : Eval := do
 let links <- look (·.keptLinks)
 newDict (<- (<- get).ownTrees.mapM fun t => do
  let own := links.filter (·.tree == t)
  return (.tree t, <- list (own.map fun l => .tuple [l.originNode, l.origin, l.targetNode, l.target])))

def linksOfValue : Run (List KeptLink) := do
 (<- iter v).flatMapM fun t => do
  let tree <- match t with
   | .tree id => pure id
   | _ => fail .attr
  (<- iter (<- item v t)).mapM fun l => do
   let [.node o, .str origin, .node d, .str target] <- iter l | fail .value
   pure ⟨tree, o, origin, d, target⟩

def fileOperations : Operations := [
 doing "updateFile" renewFile, doing "resetOutdatedInvokeNodes" resetOutdatedCallers,
 doing "removeUndefinedSockets" dropUntypedSockets,
 proc2 "removeSocket sockets socket" fun v w => v.tell "remove" [w],
 op1 "getSocketInfo socket" fun v => do keptSocket (<- socketOf v),
 proc2 "setSocketInfo socket data" fun v w => do restoreSocket (<- socketOf v) w,
 asking "getSocketProperties" do newDict (<- (<- animatedNodes).mapM fun n => return (.node n, <- keptNode n)),
 proc1 "setSocketProperties socketsByNode" fun v => do
  for n in <- iter v do restoreNode (<- nodeOf n) (<- item v n),
 asking "getLinks" linksAsValue, doing "removeLinks" removeAllLinks,
 proc1 "setLinks linksByTree" fun v => do (<- linksOfValue v).forM restoreLink,
 op2 "getSocketByIdentifier sockets identifier" fun v w => do
  return (<- (<- iter v).findM? (fits · "identifier" w)).getD .none]

end AnimationGraph
