import AnimationGraph.Control.Events
import AnimationGraph.Nodes.Sound
import AnimationGraph.Nodes.Viewer

/-! # Functions of the interface

What nodes, sockets, links and the containers of the host are asked or told one at a time, what the interface does
between updates and what it draws into panels of the host, by name.
-/

namespace AnimationGraph

variable (name : String) (sig : Signature)

def memberOperation (m : String) : Service :=
 op sig fun b => (b 0).call m ((List.range (sig.params.length - 1)).map fun i => b (i + 1))

def attributeOperation (path : String) : Service := op sig fun b => (b 0).at path

def colorNodesOf (net : Value) (ns : List NodeId) : Act := do
 (<- need .attr (<- look (·.survey.networks.find? (·.members == (keysOf (<- net "nodeIDs")))))).colorNodes ns

def nodeOperations : Operations :=
 [doing "updateNodeLabelMode" do
  setRegister "nodeLabelMode" (if (<- executionCodeType).is "MEASURE" then "MEASURE" else "DEFAULT"),
 asking "createIdentifier" do newIdentifier,
 op1 "toString code" (codeText ·),
 memberOperation "nodeToID node" "toID",
 op1 "isAnimationNode node" fun v => v.attrD "isAnimationNode" false,
 op1 "getNodeTree part" fun v => do
  match v with
  | .socket s => do (<- s.owner).tree
  | part => part "id_data",
 attributeOperation "getViewLocation node" "viewLocation",
 memberOperation "getRegionBottomLeft node region" "getRegionBottomLeft",
 memberOperation "getRegionBottomRight node region" "getRegionBottomRight",
 doing "base_types.nodes.base_node.register" (pure ()), doing "base_types.nodes.base_node.unregister" (pure ()),
 doing "base_types.sockets.base_socket.register" (pure ()),
 op "getDrawPositionAndWidth node region dpiFactor" fun b => do
  let (pos, right) <- lowerCorners (b 0) (b 1) (b 2)
  tuple [pos, <- sub (<- right "x") (<- pos "x")],
 proc "drawExtensionsForNode node extensions position width" fun b => drawExtensionsOf (b 0) (b 1) (b 2) (b 3),
 op ⟨"getNodesWhenFollowingLinks", ["startNode", opt "followInputs" false, opt "followOutputs" false]⟩ fun b => do
  let sides <- [(b 1, Side.input), (b 2, .output)].filterM (truthy ·.1)
  nodeList (<- nodesAlongLinks (<- nodeOf (b 0)) (sides.map (·.2))),
 proc "colorNetwork network nodesInNetwork nodeByID?" fun b => do colorNodesOf (b 0) (<- nodesIn (b 1)),
 proc2 "colorNetworks nodesByNetworkDict nodeByID?" fun v _ => do
  for net in <- iter v do colorNodesOf net (<- nodesIn (<- item v net)),
 doing "execute_TreeExecutiong" do (<- editedTree).tell "execute",
 doing "execute_TreeAnalysis" refreshSurvey, doing "execute_UpdateEverything" updateAll,
 doing "execute_ScriptGeneration" createUnits]

def socketOperations : Operations := [
 proc1 "updateText socket" fun v => do (<- socketOf v).textEdited,
 proc1 "correctText socket" fun v => do (<- socketOf v).tidyText,
 op2 "getNotUsedText node prefix" fun v w => do SocketId.freshText (<- nodeOf v) (<- textArg w),
 op2 "isTextUsed node name" fun v w => do
  let n <- nodeOf v
  ((<- n.inputs) ++ (<- n.outputs)).anyM fun s : SocketId => fits s "text" w,
 op1 "getSocketVisibility socket" fun v => return !(<- holds v "hide"),
 proc2 "setSocketVisibility socket value" fun v w => do v.set "hide" (!(<- truthy w)),
 memberOperation "toID socket" "toID",
 op2 "getSocketIndex socket node?" fun v w => v.call "getIndex" [w],
 op1 "isAnimationNodeSocket socket" fun v => v.attrD "isAnimationNodeSocket" false,
 attributeOperation "getValue self" "value",
 proc2 "setValue self value" fun v w => v.set "value" w,
 op1 "countUsableSockets sockets" fun ss => do
  return (<- usableSockets (<- (<- iter ss).mapM socketOf)).length]

def linkOperation (body : Bound -> SocketId -> SocketId -> Eval)
  (first : Nat := 0) : Service :=
 op sig fun b => do body b (<- socketOf (b first)) (<- socketOf (b (first + 1)))

def linkOperations : Operations :=
 let inserted := fun (b : Bound) (o t : SocketId) (insert : String -> SocketId -> SocketId -> Run NodeId) =>
  show Eval from do insert (<- textArg (b 1)) o t
 [doing "correctForbiddenNodeLinks" repairLinks,
 asksIf "correctNextForbiddenLink" repairNextLink,
 asking "getNextInvalidLink" do
  let some (o, t) <- forbiddenLink? | return .tuple [.none, .none]
  tuple [o, t],
 linkOperation "isConnectionValid origin target" fun _ o t => return admits (<- t.dataType) (<- o.dataType),
 op "tryToCorrectLink dataOrigin directOrigin target" fun b => do
  let src <- socketOf (b 0)
  let t <- socketOf (b 2)
  let some r := LinkRepair.choose (<- src.linkEnd) (<- t.linkEnd) | pure false
  r.perform src (<- socketOf (b 1)) t
  pure true,
 linkOperation "removeLink origin target" fun _ o t => do
  removeLinksBetween o t
  pure .none,
 linkOperation "insertLinkedNode nodeTree nodeType origin target"
  (fun b o t => inserted b o t LinkRepair.insertLinked) 2,
 linkOperation "node_link_conversion.insertNode nodeTree nodeType leftSocket rightSocket"
  (fun b o t => inserted b o t LinkRepair.placeOne) 2,
 linkOperation "insertNodes nodeTree nodeTypes leftSocket rightSocket"
  (fun b o t => do nodeList (<- LinkRepair.place (<- textsOf (b 1)) o t)) 2,
 proc "insertBasicLinking nodeTree originSocket node targetSocket" fun b => do
  LinkRepair.join (<- nodeOf (b 2)) (<- socketOf (b 1)) (<- socketOf (b 3)),
 linkOperation "getSocketCenter socket1 socket2" fun _ first second => do
  div (<- add (<- viewLocation (<- first.owner)) (<- viewLocation (<- second.owner))) 2]

def keyedCall (find : Value -> Eval) : Service :=
 proc s!"{name} id functionName args kwargs" fun b => do
  let named <- (<- iter (b 3)).mapM fun k => return (<- textArg k, <- item (b 3) k)
  callAtKey find (b 0) (b 1) (<- iter (b 2)) named

def keepCallback (name f : Value) : Eval := do
 setItem (<- table "callbacks") name f
 pure name

def keyedOperations : Operations := [
 op1 "newCallback function" fun v => do keepCallback (<- randomLetters 10) v,
 op2 "insertCallback identifier function" keepCallback, keyedCall "executeNodeCallback" nodeOfKey,
 keyedCall "executeSocketCallback" socketOfKey,
 op1 "getPopupDrawer text" fun v => return .operation "popupText" [v]]

def splineOperations : Operations := [
 op2 ⟨"createSplinesFromBlenderObject", ["bObject", opt "applyModifiers" false]⟩ fun v w => splinesOfObject v w,
 op1 "createSplineFromBlenderSpline bSpline" fun v => return (<- splineOf? v).getD .none,
 op1 "createBezierSpline bSpline" bezierSplineOf, op1 "createPolySpline bSpline" polySplineOf,
 op1 "joinPolySplines splines" (joinedSpline true), op1 "joinInBezierSpline splines" (joinedSpline false),
 op1 "allPolySplines splines" fun v => do (<- iter v).allM (isA · "PolySpline")]

def itemsOfTypes (ns : Texts) : Service := asking name do list (<- enumerated ns)

def hostDataOperations : Operations := [
 op1 "getMainObjectContainer scene" objectContainer, asking "getHelperMaterial" helperMaterial,
 asking "newHelperMaterial" makeHelperMaterial,
 op1 "enumItemsFromList itemData" fun v => do list (<- enumerated (<- textsOf v)),
 itemsOfTypes "getListDataTypeItems" socketTypes.listNames,
 itemsOfTypes "getBaseDataTypeItems" socketTypes.baseNames,
 itemsOfTypes "getDrawableDataTypeItems" socketTypes.drawnNames,
 op1 ⟨"getDataTypeItems", [opt "skipInternalTypes" false]⟩ fun v => do
  let skip <- truthy v
  list (<- enumerated (socketTypes.names.filter fun name => !(skip && name == "Node Control"))),
 op1 "isSlicable data" fun v =>
  tryCatch (do
   let _ <- item v (sliceValue .none 0 .none)
   pure true) fun _ => pure false,
 op "countHits bvhTree start direction" fun b => do hitsOnRay (b 0) (b 2) (<- mul (b 2) 0.0001) 10000 (b 1) 0,
 op2 "getFCurveWithIndex fCurves index" fun v w => do
  return (<- (<- iter v).findM? (fits · "array_index" w)).getD .none,
 op1 "filterRealIDKeys possibleKeys" fun v => do
  newSet ((IdKey.inOrder ((<- textsOf v).filterMap IdKey.ofProperty?)).map (·.toValue)),
 asking "getAllObjects" (blocks "objects"),
 op2 "_pathBelongsToArray object dataPath" fun v w => do
  return ((<- leadsToArray? v (<- textArg w)).map .bool).getD .none,
 op2 ⟨"getPossibleNodeName", ["nodeTree", opt "name" "node"]⟩ fun v w => do possibleName (<- v "nodes") (<- textArg w)]

def drawInHeader (name : String) (draw : LayoutId -> Act) : Service :=
 proc s!"{name} self context" fun b => do
  if <- equal (<- (b 1).at "space_data.tree_type") treeKind then draw (<- layoutOf (<- (b 0) "layout"))

def drawNetworkColor (panel : Value) : Act := do
 let node <- here "active_node"
 unless <- truthy (<- node.attrD "isAnimationNode" false) do return
 let col <- (<- layoutOf (<- panel "layout")).stack
 col.prop node "useNetworkColor"
 let calls := (<- node "bl_idname").is callKind
 let net <- node.attr (if calls then "subprogramNetwork" else "network")
 if <- truthy (<- net.attrD "isSubnetwork" false) then col.prop (<- net.call "getOwnerNode") "networkColor" bare
 else col.wrap "Only subprograms have a custom network color" 25

def drawIndexSettings (panel ctx : Value) : Act := do
 if <- notEqual (<- ctx "mode") "OBJECT" then return
 let opts <- setting "drawHandlers.meshIndices"
 let col <- (<- layoutOf (<- panel "layout")).stack
 col.write "Show Mesh Indices:"
 for (shown, c, label, icon) in [("drawVertices", "verticesColor", "Vertices", "VERTEXSEL"),
  ("drawEdges", "edgesColor", "Edges", "EDGESEL"), ("drawPolygons", "polygonsColor", "Polygons", "FACESEL")] do
  let row <- col.line
  row.prop opts shown (badge label icon)
  let part <- row.line
  part.set "active" (<- opts.attr shown)
  part.prop opts c bare

def drawWarning : Act := do
 if (<- get).problems.isEmpty then return
 let region <- here "region"
 (<- Rectangle.ofValues 0 0 (<- region "width") (<- region "height")).draw (.tuple [0, 0, 0, 0])
  (.tuple [0.9, 0.1, 0.1, 0.6]) (<- mul 4 (<- lineWidth))

def hostAdditions : List (String × Pairs) :=
 [("ui.header", [("NODE_MT_editor_menus", "subprograms_menu_callback"), ("NODE_HT_header", "copy_nodetree_callback"),
  ("NODE_HT_header", "remove_nodetree_callback")]),
 ("ui.node_colors", [("NODE_PT_active_node_color", "drawNodeColorPanel")]),
 ("ui.node_panel", [("NODE_PT_active_node_generic", "ui.node_panel.draw")]),
 ("ui.mesh_indices", [("VIEW3D_PT_overlay_geometry", "drawPanel")]),
 ("ui.node_menu", [("NODE_MT_add", "drawMenu")])]

def additionOperations : Operations :=
 hostAdditions.flatMap fun (path, ps) =>
  [("register", "append"), ("unregister", "remove")].map fun (name, change) =>
   proc s!"{path}.{name}" fun _ => ps.forM fun (kind, f) => discard <| changeHostKind kind change [.operation f []]

def drawHandlers : List (String × String × String) :=
 [("drawNodeUIExtensions", "SpaceNodeEditor", "POST_PIXEL"),
 ("nodes.viewer.viewer_3d.draw", "SpaceView3D", "POST_VIEW"),
 ("drawIndicesOfSelectedObjects", "SpaceView3D", "POST_PIXEL"), ("drawNodeEditorHud", "SpaceNodeEditor", "POST_PIXEL"),
 ("drawWarningOverlay", "SpaceNodeEditor", "POST_PIXEL")]

def countOfDrawHandlers : Eval := do
 let k <- register "drawHandlers"
 return if k.isNone then 0 else k

def addDrawHandlers : Act := do
 for (name, editor, type) in drawHandlers do
  discard <| changeHostKind editor "draw_handler_add" [.operation name [], .tuple [], "WINDOW", type]
 setRegister "drawHandlers" (<- add (<- countOfDrawHandlers) 1)

def removeDrawHandlers : Act := do
 let times <- indexOf (<- countOfDrawHandlers)
 for editor in ["SpaceNodeEditor", "SpaceView3D"] do
  for _ in List.range (times.toNat * (drawHandlers.filter (·.2.1 == editor)).length) do
   discard <| changeHostKind editor "draw_handler_remove" ["handler", "WINDOW"]
 setRegister "drawHandlers" 0

def keyBindings : List (String × Fields × Option String) :=
 let press (key : String) (more : Fields := []) : Fields := ("type", key) :: ("value", "PRESS") :: more
 [("an.node_search", press "A" [("ctrl", true)], none), ("wm.call_menu_pie", press "W", some "AN_MT_context_pie"),
 ("an.network_navigation", press "TAB", none), ("wm.call_menu_pie", press "E", some "AN_MT_selection_pie"),
 ("an.floating_node_settings_panel", press "U", none),
 ("an.deactivate_auto_execution", press "Q" [("ctrl", true), ("shift", true)], none)]

def registerKeys : Act := do
 let configs <- layoutOf (<- (<- windowManager (<- context)) "keyconfigs")
 let map <- configs.call "addon.keymaps.new" [] [("name", "Node Editor"), ("space_type", "NODE_EDITOR")]
 let es <- keyBindings.mapM fun (oper, key, menu) => do
  let e <- map.call "keymap_items.new" [oper] key
  if let some menu := menu then e.set "properties.name" menu
  return Value.tuple [map, e]
 setRegister "keyEntries" (.tuple es)

def unregisterKeys : Act := do
 let .tuple entries <- register "keyEntries" | pure ()
 for e in entries do discard <| (<- layoutOf (<- item e 0)).call "keymap_items.remove" [<- item e 1]
 setRegister "keyEntries" .none

def treeSpaces : Evals := do
 let areas <- iter (<- (<- here "screen").attrD "areas" (.tuple []))
 let editors <- areas.filterM fun a => return (<- a "type").is "NODE_EDITOR"
 (<- editors.mapM (·.at "spaces.active")).filterM fun s => return (<- s "tree_type").is treeKind

def fillEditors : Act := do
 match <- look (·.ownTrees) with
 | [] => pure ()
 | first :: rest =>
  let known <- table "treeNames"
  for (space, i) in (<- treeSpaces).zipIdx do
   let key : Value := match space with
    | .cell c => c.index
    | _ => i
   if (<- space "node_tree").isNone then
    let name <- known.call "get" [key, ""]
    let last <- if rest.isEmpty then pure .none else (<- allTrees).call "get" [name]
    space.set "node_tree" (if last.isNone then first else last)
   let name <- (<- space "node_tree").attrD "name" .none
   unless name.isNone do setItem known key name

variable (kinds : List NodeKind)

def searchItems : Run (List SearchItem) := do
 let ofKinds := kinds.flatMap fun k =>
  (if k.onlySearchTags then [] else [⟨k.id, k.label, []⟩]) ++ k.searchTags.map fun (tag, opts) => ⟨k.id, tag, opts⟩
 let nets <- (<- get).survey.subprograms.mapM fun n => do
  let ident <- literal ((n.identifier.map Value.str).getD .none)
  return (⟨callKind, n.name, [("subprogramIdentifier", ident)]⟩ : SearchItem)
 return ofKinds ++ nets

def searchOperations : Operations :=
 [asking "listSearchItems" do
  let xs <- searchItems kinds
  setRegister "searchItems" (<- textList (xs.map (·.identifier)))
  list (xs.map fun i => .tuple [i.identifier, i.tag, ""]),
 proc1 "insertSearchItem identifier" fun v => do
  let listed <- register "searchItems"
  let isListed <- if listed.isNone then pure false else has listed v
  let some i := (<- searchItems kinds).reverse.find? fun i => v.is i.identifier | fail .key
  if isListed then i.insert else fail .key]

def panelOperations : Operations :=
 additionOperations ++
 [drawInHeader "subprograms_menu_callback" fun l => l.menu "AN_MT_subprograms_menu" "Subprograms",
 drawInHeader "remove_nodetree_callback" fun l => l.press "an.remove_node_tree" (badge "Remove" "CANCEL"),
 drawInHeader "copy_nodetree_callback" fun l => l.press "an.copy_node_tree" (badge "Copy" "COPYDOWN"),
 proc2 "drawMenu self context" drawMainMenu,
 proc2 "drawNodeColorPanel self context" fun v _ => drawNetworkColor v,
 proc2 "drawPanel self context" drawIndexSettings,
 proc2 "ui.node_panel.draw self context" fun v _ => drawActiveNodeSettings v,
 proc2 "drawNodeSettings layout node" fun v w => do drawSettingsOf (<- layoutOf v) w,
 proc2 "drawGenericNodeProperties layout node" fun v w => do drawPlacement (<- layoutOf v) w,
 proc2 "drawSocketLists layout node" fun v w => do drawSocketSides (<- layoutOf v) w,
 op2 "moveSocket isOutput moveUp" fun v w => do moveActiveSocket (if <- truthy v then .output else .input) w,
 op1 "getActiveSocket isOutput" fun v => do activeSocketOn (if <- truthy v then .output else .input),
 doing "drawWarningOverlay" drawWarning, doing "nodes.viewer.viewer_3d.draw" do
  for node in <- iter (<- nodesByKind "an_Viewer3DNode") do
   if <- holds node "enabled" then if let some (data, draw) <- drawn? node then discard <| draw.apply [data],
 doing "colorAllNodes" colorForest,
 proc ⟨"showTextPopup", ["text", opt "title" "", opt "icon" "NONE"]⟩ fun b => popUpText (b 0) (b 1) (b 2),
 proc ⟨"writeText", ["layout", "text", opt "width" 30, opt "icon" "NONE", opt "autoWidth" false]⟩ fun b => do
  let layout <- layoutOf (b 0)
  if <- truthy (b 4) then layout.writeFitted (<- textArg (b 1)) (<- textArg (b 3))
  else layout.wrap (<- textArg (b 1)) (<- indexOf (b 2)) (<- textArg (b 3)),
 op1 "splitAlignment layout" fun v => do
  let (left, right) <- (<- layoutOf v).splitToSides
  tuple [left, right],
 doing "draw_handler.register" addDrawHandlers, doing "draw_handler.unregister" removeDrawHandlers,
 doing "keymap.register" registerKeys, doing "keymap.unregister" unregisterKeys,
 asking "canRegisterKeymaps" (pure true)]

def splitting (way : String) : Service :=
 op2 s!"splitArea{way} area factor" fun v w => do
  let (first, second) <- splitInOrder v (Letters.raised way) w
  tuple [first, second]

def areaOperations : Operations := [
 asking "iterActiveScreens" do list (<- activeScreens),
 asking "iterAreas" do list (<- areas),
 op1 "iterAreasByType type" fun v => do list (<- areasOfType (<- textArg v)),
 op1 "getAreaWithType type" fun v => return (<- areasOfType (<- textArg v)).headD .none,
 asking "iterActiveSpaces" do list (<- (<- areas).mapM (·.at "spaces.active")),
 op1 "iterActiveSpacesByType type" fun v => do list (<- activeSpacesOfType (<- textArg v)),
 splitting "Vertical", splitting "Horizontal",
 op ⟨"splitArea", ["area", "direction", opt "factor" 0.5]⟩ fun b => return (<- splitInOrder (b 0) (<- textArg (b 1)) 0).1,
 doing "redrawAll" redrawEverything,
 proc1 "redrawAreaType areaType" fun v => do redrawAreas (<- textArg v),
 asksIf "isViewportRendering" viewportRenders,
 asksIf "isInterfaceLocked" interfaceIsLocked,
 asksIf "isAnimationPlaying" animationPlays,
 op1 "executeInAreaType areaType" fun v => return .operation "changeAreaTypeDecorator" [v],
 op2 "changeAreaTypeDecorator areaType function" fun v w => return .operation "wrapper" [v, w],
 ("wrapper", fun args => do
  match args.pos with
  | type :: f :: rest =>
   let area <- here "area"
   let pre <- area "type"
   area.set "type" type
   let r <- f.apply rest args.named
   area.set "type" pre
   pure r
  | _ => fail .type),
 op2 "calcUserSelectionInArea area point" fun v w => do
  let (border, k) <- placeInArea v w
  tuple [border, k],
 op2 "isPointInArea area point" fun v w => isInArea v w,
 proc "drawSelection area xOffset yOffset border factor" fun b => do
  drawPlace (b 0) (b 1) (b 2) (<- textArg (b 3)) (b 4),
 doing "drawCallback" drawRecordingHint, doing "updateAutoNodeTreeSelection" fillEditors,
 asking "getAnimationNodeEditorSpaces" do list (<- treeSpaces),
 asking "getSortedSelectedObjects" sortedSelection, asking "getSortedSelectedObjectNames" sortedSelectionNames,
 proc1 "updateSelectionSorting viewLayer" updateSelectionOrder,
 op1 "getSelectedObjectNames viewLayer" selectedObjectNames,
 op1 "getSelectedObjects viewLayer" selectedObjects, op1 "getActiveObject viewLayer" activeObjectOf,
 doing "enterObjectMode" leaveEditMode,
 proc2 "removeNotUsedDataBlock data type" fun v w => do removeUnusedBlock v (<- textArg w)]

def callbackOperations : Operations :=
 [proc1 "setupTextEditor area" openCodeEditor,
 op1 ⟨"getCurrentExecutionCode", [opt "lineNumbers" false]⟩ fun v => do
  let scripts <- activeScripts
  return "\n\n\n".intercalate (if <- truthy v then scripts.map Edit.numberLines else scripts),
 ("executeCallback", takeCallback),
 op2 "newNodeCallback node functionName" fun v w => do callbackText "executeNodeCallback" [<- v.call "toID", w],
 op "newSocketCallback socket node functionName" fun b => do
  let key : Value := .tuple [<- (b 1).call "toID", <- (b 0) "isOutput", <- (b 0) "identifier"]
  callbackText "executeSocketCallback" [key, b 2],
 op1 "getInvokeFunctionOperator description" fun d => do operatorFor (<- textArg d),
 doing "createMissingOperators" createDescribedOperators, op1 "idToNode nodeID" nodeOfKey,
 op1 "idToSocket socketID" socketOfKey,
 op2 "utils.nodes.getNode treeName nodeName" fun v w => nodeOfKey (.tuple [v, w]),
 op "utils.nodes.getSocket treeName nodeName isOutput identifier" fun b =>
  socketOfKey (.tuple [.tuple [b 0, b 1], b 2, b 3]),
 op1 "newNodeAtCursor type" fun v => do addNodeAtCursor (<- textArg v),
 doing "invokeTranslation" dragSelected,
 op1 "getLabelFromIdName idName" fun v => return (<- (Value.kind (<- textArg v)).attr? "bl_label").getD "",
 doing "createNodeTree" createTree]

def settingOperations : Operations := [
 asking "getPreferences" preferences, asking "getExecutionCodeType" executionCodeType,
 asking "getBlenderVersion" (tuple [2, 93, 0]), asking "getAnimationNodesVersion" (tuple [2, 3, 0])] ++
 [("getDeveloperSettings", "developer"), ("getExecutionCodeSettings", "executionCode"),
 ("getColorSettings", "nodeColors"), ("getMeshIndicesSettings", "drawHandlers.meshIndices"),
 ("debuggingIsEnabled", "developer.debug"), ("testsAreEnabled", "developer.runTests")].map fun (name, path) =>
  asking name (setting path)

def curveOperations : Operations := [
 proc1 "deselectAllFCurves object" fun object => do for c in <- allCurves object do c.set "select" false,
 proc "newFCurveForCustomProperty object name default" fun b => do newCustomCurve (b 0) (<- textArg (b 1)) (b 2),
 proc2 "removeCustomProperty object name" fun v w => do dropCustomProperty v (<- textArg w),
 op3 "getSingleValueAtFrame object dataPath frame" singleAtFrame,
 op4 "getSingleValueOfArrayAtFrame object dataPath index frame" fun object path i fr => do
  componentAtFrame object path (<- curvesOf object path) i fr,
 op4 "getMultipleValuesOfArrayAtFrame object dataPath indices frame" fun object path is fr => do
  mapList is (componentAtFrame object path (<- curvesOf object path) · fr),
 op4 ⟨"getArrayValueAtMultipleFrames", ["object", "dataPath", "frames", opt "arraySize" 3]⟩ (arraysAtFrames · · · ·),
 proc2 "removeFCurveWithDataPath object dataPath" removeCurve,
 op2 "getFCurvesWithDataPath object dataPath" fun v w => do list (<- curvesOf v w),
 op2 "getSingleFCurveWithDataPath object dataPath" firstCurve,
 op1 "getAllFCurves object" fun v => do list (<- allCurves v),
 op1 "isAnimated idObject" fun v => isAnimated v]

def soundOperations : Operations := [
 op1 "findSceneWithSequence sequence" sceneOfStrip,
 op1 "iterSequencesInScene scene" fun v => do list (<- stripsOf v),
 op1 "iterSoundSequencesInScene scene" fun v => do list (<- (<- stripsOf v).filterM (fits · "type" "SOUND")),
 op1 "getEmptyChannel editor" (emptyChannel ·),
 op1 "getOrCreateSequencer scene" orCreateSequencer]

def interfaceOperations : Operations :=
 panelOperations ++ areaOperations ++ callbackOperations ++ settingOperations ++ curveOperations ++ soundOperations
  ++ searchOperations kinds ++ surveyOperations ++ listingOperations ++ eventOperations ++ updateOperations
  ++ unitOperations ++ fileOperations ++ nodeOperations ++ socketOperations ++ linkOperations ++ keyedOperations
  ++ splineOperations ++ hostDataOperations

end AnimationGraph
