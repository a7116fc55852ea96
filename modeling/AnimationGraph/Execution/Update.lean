import AnimationGraph.Execution.Units

/-! # Updates

A tree can be executed by hand, or automatically when something has changed. After a change of the trees everything that
follows from them is brought up to date: the survey, the sockets of the nodes, the links, the problems, the units and
the colours.
-/

namespace AnimationGraph

variable (c : CellId)

def watchedBlocks : Eval := do
 let type <- c "idType"
 if type.is "OBJECT" then
  let v <- c "object"
  list (if v.isNone then [] else [v])
 else if type.is "COLLECTION" then
  let v <- c "collection"
  if v.isNone then list [] else v "all_objects"
 else if type.is "SCENE" then
  let v <- c "scene"
  list (if v.isNone then [] else [v])
 else pure .none

def watchedPaths : Run Texts := return ((<- textAt c "dataPaths").toList.splitOn ',').map (Letters.trimmed <| .ofList ·)

def watchedValues : Evals := do
 c.set "hasError" false
 let bs <- watchedBlocks c
 if (<- length bs) == 0 || (Letters.trimmed (<- textAt c "dataPaths")).isEmpty then return []
 tryCatch
  (do
   let ps <- watchedPaths c
   return (<- (<- iter bs).mapM fun b => ps.mapM (b.call "path_resolve" [·])).flatten)
  (fun _ => do
   c.set "hasError" true
   pure [])

/-- The texts of each watched value, apart for the parts of one that has parts. -/
def watchedTexts : Run (List Texts) := do
 (<- watchedValues c).mapM fun v => do
  match v with
  | .tuple xs => xs.mapM text
  | .cell _ =>
   match <- look (·.elements? v) with
   | some xs => xs.mapM text
   | none => return [<- text v]
  | v => return [<- text v]

def formed (ts : List Texts) : String := .join (ts.map .join)
def watchedState : Run String := return formed (<- watchedTexts c)

def triggerFires : Ask := do
 let pre <- c "lastState"
 let now <- watchedState c
 if pre.is now then return false
 c.set "lastState" now
 return (<- holds c "enabled") && !pre.is ""

def drawTrigger (l : LayoutId) (i : Value) : Act := do
 let box <- l.box
 let header <- box.row
 let expanded <- holds c "expanded"
 header.prop c "expanded" [("icon", if expanded then "TRIA_DOWN" else "TRIA_RIGHT"), ("text", ""), ("emboss", false)]
 if <- holds c "hasError" then header.sign "" "ERROR"
 header.prop c "enabled" [("text", <- add "Enable " (<- c "dataPaths")), ("toggle", true)]
 (<- header.operator "an.remove_auto_execution_trigger" [("icon", "X"), ("text", ""), ("emboss", false)]).set "index" i
 if expanded then
  let col <- box.stack
  col.set "active" (<- c "enabled")
  col.prop c "idType" bare
  let row <- col.line
  let assign <- row.operator "an.assign_active_object_to_auto_execution_trigger" [("icon", "EYEDROPPER"), ("text", "")]
  assign.set "index" i
  let type <- c "idType"
  if type.is "OBJECT" then row.prop c "object" bare
  else if type.is "COLLECTION" then row.prop c "collection" bare
  else if type.is "SCENE" then row.prop c "scene" bare
  col.prop c "dataPaths" bare

def versionText (v : Value) : Run String := do
 match <- iter v with
 | a :: b :: c :: _ => return s!"{(<- text a)}.{(<- text b)}.{(<- text c)}"
 | _ => fail .index

def treeGroups : List RecordKind := [
 { name := "AutoExecutionTrigger_MonitorProperty"
   props :=
    [choice "idType" "OBJECT" fun c => do
     c.set "scene" .none
     c.set "collection" .none
     c.set "object" .none,
    block "object", block "collection", block "scene", words "dataPaths", words "lastState",
    flag "expanded" true, flag "enabled" true, flag "hasError"]
   members :=
    [fn0 "update" (triggerFires ·),
    fn0 "getPropertiesState" (watchedState ·),
    fn0 "getProperties" fun c => do list (<- watchedValues c),
    fn0 "getDataPaths" fun c => do textList (<- watchedPaths c),
    fn0 "getIDBlocks" watchedBlocks,
    act2 "draw layout index" fun c l i => do drawTrigger c (<- layoutOf l) i] },
 { name := "CustomAutoExecutionTriggers"
   props := [groupsOf "monitorPropertyTriggers" "AutoExecutionTrigger_MonitorProperty"]
   members :=
    [("new", .free fun c args => do
     let [type] := args.pos | fail .type
     unless type.is "MONITOR_PROPERTY" do fail (.host "UnboundLocalError")
     let trigger <- (<- c "monitorPropertyTriggers").call "add"
     for (k, v) in args.named do trigger.set k v
     pure trigger),
    fn0 "update" fun c => do
     let fired <- (<- each c "monitorPropertyTriggers").mapM fun t => do truthy (<- t.call "update")
     return fired.any id] },
 { name := "AutoExecutionProperties"
   props :=
    [groupOf "customTriggers" "CustomAutoExecutionTriggers", flag "enabled" true, flag "always",
    flag "sceneChanged" true, flag "frameChanged" true, flag "propertyChanged" true, flag "treeChanged" true,
    fraction "minTimeDifference", fraction "lastExecutionTimestamp", flag "sceneUpdate" true] },
 { name := "LastTreeExecutionInfo"
   props :=
    [flag "isDefault" true, fraction "executionTime", wholes "blenderVersion" [2, 93, 0],
    wholes "animationNodesVersion" [2, 3, 0]]
   members :=
    [act0 "updateVersions" fun c => do
     c.set "blenderVersion" (.tuple [2, 93, 0])
     c.set "animationNodesVersion" (.tuple [2, 3, 0])
     c.set "isDefault" false,
    prop "blenderVersionString" fun c => do versionText (<- c "blenderVersion"),
    prop "animationNodesVersionString" fun c => do versionText (<- c "animationNodesVersion"),
    fn1 "toVersionString intVector" fun _ v => versionText v] }]

def workTime : Float := 5.0

variable (t : TreeId)

def canAutoExecuteTree (events : Texts) : Ask := do
 let opts <- (Value.tree t) "autoExecution"
 let is (name : String) : Ask := do truthy (<- opts.attr name)
 let has (ev : String) : Bool := events.contains ev
 let triggered <- truthy (<- (<- opts "customTriggers").call "update")
 unless <- is "enabled" do return false
 if (<- mainUnitsOf t).isEmpty then return false
 let always <- is "always"
 if has "Scene" && (always || (<- is "sceneChanged")) then return true
 if has "Frame" && (always || (<- is "sceneChanged") || (<- is "frameChanged")) then return true
 unless (<- get).raised.rendering || (<- interfaceIsLocked) do
  let last <- toFloat (<- opts "lastExecutionTimestamp")
  if (workTime - last).abs < (<- toFloat (<- opts "minTimeDifference")) then return false
  if has "Property" && (<- is "propertyChanged") then return true
  if has "Tree" && (<- is "treeChanged") then return true
  if has "File" || has "Addon" then
   if always || (<- is "sceneChanged") || (<- is "frameChanged") || (<- is "propertyChanged") || (<- is "treeChanged") then
    return true
  if !(<- viewportRenders) || (<- animationPlays) then if always then return true
 pure triggered

def autoExecuteTree : Act := do
 runTree t
 (<- (Value.tree t) "autoExecution").set "lastExecutionTimestamp" workTime

def treeProperties : List (Property TreeId) := [
 groupOf "autoExecution" "AutoExecutionProperties", groupOf "lastExecutionInfo" "LastTreeExecutionInfo",
 block "globalScene", flag "editNodeLabels"]

def treeMembers : Members TreeId := [
 act0 "update" fun _ => structureChanged,
 fn1 "canAutoExecute events" fun t events => do canAutoExecuteTree t (<- textsOf events),
 act0 "autoExecute" autoExecuteTree, act0 "execute" fun t => withUnits [t] (runTree t), act0 "_execute" runTree,
 prop "hasMainExecutionUnits" fun t => return !(<- mainUnitsOf t).isEmpty,
 prop "mainUnits" fun t => do list (<- (<- mainUnitsOf t).mapM (·.toValue)),
 prop "scene" fun t => do
  let own <- (Value.tree t) "globalScene"
  if own.isNone then item (<- blocks "scenes") 0 else pure own,
 prop "timeSinceLastAutoExecution" fun t => do
  return (workTime - (<- toFloat (<- getPath t "autoExecution.lastExecutionTimestamp"))).abs,
 prop "networks" fun t => do
  let w <- get
  networkList (w.survey.networks.filter (·.nameOfTree == (w.forest.tree t).name)),
 prop "subprogramNetworks" fun t => do
  let w <- get
  networkList (w.survey.subprograms.filter (·.nameOfTree == (w.forest.tree t).name)),
 constant "bl_idname" treeKind, constant "bl_label" "Animation Nodes",
 constant "bl_icon" "ONIONSKIN_ON"]

structure LinkEnd where
 (dataType name : String)

inductive LinkRepair where
 /-- Put a node in between; it may have to be brought in line afterwards, and it may be folded up to a
 width. -/
 | insert (kind : String) (brought : Bool) (folded : Option (Option Int))
 /-- Put a node in between that converts rotations this way. -/
 | rotate (conversion : String)
 | makeList | takeElement
 | takeShapeKey
 | buildMesh
 | convertAny

namespace LinkRepair

def table : List ((String × String) × String) := [
 ("Text Block", "Text", "TextBlockReader"), ("Vector", "Float", "SeparateVector"),
 ("Float", "Vector", "CombineVector"), ("Integer", "Vector", "CombineVector"),
 ("Vector List", "Mesh", "CombineMesh"), ("Mesh", "BMesh", "CreateBMeshFromMesh"),
 ("Integer", "Euler", "CombineEuler"), ("Float", "Euler", "CombineEuler"), ("Euler", "Float", "SeparateEuler"),
 ("Object", "Vector", "ObjectTransformsInput"), ("Object", "Matrix", "ObjectMatrixInput"),
 ("Object", "Shape Key List", "ShapeKeysFromObject"), ("Text", "Float", "ParseNumber"),
 ("Text", "Integer", "ParseNumber"), ("Vector", "Euler", "DirectionToRotation"),
 ("Euler", "Vector", "RotationToDirection"), ("Float", "Falloff", "ConstantFalloff"),
 ("Vector List", "Spline", "SplineFromPoints"), ("Float List", "Falloff", "CustomFalloff"),
 ("Object", "Mesh", "MeshObjectInput"), ("Mesh", "Vector List", "MeshInfo"),
 ("Matrix List", "Vector List", "DecomposeMatrix"),
 ("Polygon Indices List", "Edge Indices List", "EdgesOfPolygons"), ("GPLayer", "GPFrame", "GPLayerInfo"),
 ("GPFrame", "GPStroke", "GPFrameInfo"), ("GPStroke", "GPFrame", "GPFrameFromStrokes"),
 ("GPStroke List", "GPFrame", "GPFrameFromStrokes"), ("GPFrame", "GPLayer", "GPLayerFromFrames"),
 ("GPFrame List", "GPLayer", "GPLayerFromFrames")].map
  fun (o, t, kind) => ((o, t), s!"an_{kind}Node")

def meshParts : Texts := ["Vector List", "Edge Indices List", "Polygon Indices List"]
def isElementOf (x list : String) : Bool := (socketTypes.elementOf? list).any (·.name == x)

def choose (origin dest : LinkEnd) : Option LinkRepair :=
 let o := origin.dataType
 let t := dest.dataType
 let lowered := Letters.lowered dest.name
 if o == "Mesh List" && t == "Mesh" then some (.insert "an_JoinMeshListNode" false none)
 else if o == "Vector" && origin.name == "Normal" && t == "Euler" then
  some (.insert "an_DirectionToRotationNode" false none)
 else if meshParts.contains o && t == "BMesh" then some .buildMesh
 else if o == "Euler" && t == "Quaternion" then some (.rotate "EULER_TO_QUATERNION")
 else if o == "Quaternion" && t == "Euler" then some (.rotate "QUATERNION_TO_EULER")
 else if (o == "Float" || o == "Integer") && t == "Vector" && (Edit.find? "scale" lowered).isSome then
  some (.insert "an_VectorFromValueNode" false none)
 else if isElementOf o t then some .makeList
 else if t != "Integer" && isElementOf t o then some .takeElement
 else if o == "Object" && t == "Shape Key" then some .takeShapeKey
 else if (Edit.find? "List" o).isSome && t == "Integer" then
  some (.insert "an_GetListLengthNode" false (some (some 60)))
 else match table.find? (·.1 == (o, t)) with
  | some (_, kind) => some (.insert kind true none)
  | none =>
   if t == "Text" then some (.insert "an_ConvertToTextNode" false (some none))
   else if o == "Generic List" && socketTypes.isList t then some (.insert "an_ConvertNode" false (some none))
   else if o == "Generic" then some .convertAny
   else none

def place (kinds : Texts) (o t : SocketId) : Run (List NodeId) := do
 let left <- o.owner
 let tree <- (<- t.owner).tree
 let center <- div (<- add (<- viewLocation left) (<- viewLocation (<- t.owner))) 2
 kinds.zipIdx.mapM fun (kind, i) => do
  let n <- newNode tree kind
  n.set "select" false
  let off := 180.0 * (Float.ofNat i - (Float.ofNat kinds.length - 1.0) / 2.0)
  n.set "location" (<- add center (<- vector [off, 0]))
  n.set "parent" (<- left "parent")
  pure n

def join (n : NodeId) (o t : SocketId) : Act := do
 let _ <- (<- n.input 0).linkTo o
 let _ <- t.linkTo (<- n.output 0)

def placeOne (kind : String) (o t : SocketId) : Run NodeId := do
 match <- place [kind] o t with
 | n :: _ => pure n
 | [] => fail .index

def insertLinked (kind : String) (o t : SocketId) : Run NodeId := do
 let n <- placeOne kind o t
 join n o t
 pure n

def perform (r : LinkRepair) (src o t : SocketId) : Act := do
 match r with
 | .insert kind brought folded =>
  let n <- insertLinked kind o t
  match folded with
  | some width =>
   n.set "hide" true
   if let some w := width then n.set "width_hidden" w
  | none => pure ()
  if brought then
   refreshIfStale
   n.update
 | .rotate conv =>
  let n <- insertLinked "an_ConvertRotationsNode" o t
  n.set "conversionType" conv
  let _ <- (<- n.input 0).linkTo o
  let _ <- (<- n.output 0).linkTo t
 | .makeList =>
  let n <- placeOne "an_CreateListNode" o t
  n.tell "assignBaseDataType" [(<- src.dataType)] [("inputAmount", 1)]
  join n o t
 | .takeElement =>
  let n <- placeOne "an_GetListElementNode" o t
  n.tell "assignListDataType" [(<- src.dataType)]
  join n o t
 | .takeShapeKey =>
  let [keys, element] <- place ["an_ShapeKeysFromObjectNode", "an_GetListElementNode"] o t | fail .value
  element.tell "assignType" ["Shape Key"]
  let _ <- o.linkTo (<- keys.input 0)
  let _ <- (<- keys.output 0).linkTo (<- element.input 0)
  let _ <- (<- element.output 0).linkTo t
 | .buildMesh =>
  let [_, mesh] <- place ["an_CombineMeshNode", "an_CreateBMeshFromMeshNode"] o t | fail .value
  let type <- o.dataType
  let _ <- (<- mesh.input (<- need .value (meshParts.findIdx? (· == type)))).linkTo o
  let _ <- (<- mesh.input 0).linkTo (<- mesh.output 0)
  let _ <- (<- mesh.output 0).linkTo t
 | .convertAny =>
  let n <- insertLinked "an_ConvertNode" o t
  n.set "hide" true
  refreshSurvey
  n.tell "assignOutputType" [(<- t.dataType)]

end LinkRepair

/-- The first link that its target does not take, leaving out links between types that have been approved before. -/
def forbiddenLink? : Run (Option (SocketId × SocketId)) := do
 for l in (<- get).survey.tables.dataLinks do
  unless (<- get).approved.contains (l.originType, l.targetType) do
   for k in [l.origin, l.target] do discard <| nodeAt k.node
   let some o <- look (·.socketOf? l.origin) | fail .attr
   let some t <- look (·.socketOf? l.target) | fail .attr
   unless admits (<- t.dataType) (<- o.dataType) do return some (o, t)
   change fun w => { w with approved := (l.originType, l.targetType) :: w.approved }
 pure none

def SocketId.linkEnd (s : SocketId) : Run LinkEnd := return ⟨<- s.dataType, <- s.name⟩

def removeLinksBetween (o t : SocketId) : Act := do
 let tree <- (<- o.owner).tree
 for l in <- look fun w => (w.forest.tree tree).links do
  let link <- look (·.forest.link l)
  if link.origin == o && link.target == t then
   changeForest (·.removeLink l)
   structureChanged

def repairNextLink : Ask := do
 let some (src, t) <- forbiddenLink? | pure true
 let some origin <- t.linkSource? | fail .attr
 match LinkRepair.choose (<- src.linkEnd) (<- t.linkEnd) with
 | some r => r.perform src origin t
 | none => removeLinksBetween origin t
 pure false

/-- No link needs more than a few repairs. -/
def repairLinks : Act := do
 let rec go : Nat -> Act
  | 0 => fail .exhausted
  | fuel + 1 => do
   let done <- repairNextLink
   refreshIfStale
   unless done do go fuel
 go (16 * (<- get).forest.links.size + 1)

/-- Which nodes are up to date, and which are being brought up to date. -/
structure Editing where
 (updated current : List NodeId := [])

def NodeId.renew (n : NodeId) : Act := do
 n.update
 refreshIfStale

/-- Bring a node up to date after the nodes that it takes its inputs from, which `follow` takes care of. -/
def bringAfter (follow : List NodeId -> Editing -> Run Editing) (e : Editing) (n : NodeId) : Run Editing := do
 if e.updated.contains n || e.current.contains n then return e
 let e <- follow (<- n.sourceNodes) { e with current := n :: e.current }
 n.renew
 return { updated := n :: e.updated, current := e.current.erase n }

def bringUpToDate : Nat -> List NodeId -> Editing -> Run Editing
 | 0 => fun _ _ => fail .recursion
 | fuel + 1 => fun ns e => ns.foldlM (bringAfter (bringUpToDate fuel)) e

def updateNodes : Act := do
 refreshIfStale
 let _ <- bringUpToDate ((<- look (·.forest.allNodes.size)) + 1) (<- animatedNodes) {}

def refreshCallers : Act := do
 refreshIfStale
 for n in <- nodesOfKind callKind do n.tell "refresh"
 refreshIfStale

def refreshCallersIfNeeded : Act := do
 if <- look (·.interfaceChanged) then refreshCallers
 change ({ · with interfaceChanged := false })

def checkLinkedTrees : Act := do
 let linked <- look fun w => w.forest.present.any fun t => ((w.forest.tree t).fields.get? "library").any Value.isSome
 if linked then report .linkedTree

def reportUndefinedNodes : Act := do
 let keys <- look fun w => w.survey.tables.nodes.filter fun k =>
  (w.survey.tables.outlineOf[k]?.map (·.role)) == some .undefined
 unless keys.isEmpty do report (.undefinedNodes keys)

/-- Problems that the options of nodes lead to, in a subprogram that can be called or elsewhere. -/
def checkOptions (subprogram : Bool) (ns : List NodeId) : Act := do
 for n in ns do
  let opts <- n "options"
  let id <- n.identifier
  if <- has opts "NO_EXECUTION" then report (.noExecution id)
  if (<- has opts "NOT_IN_SUBPROGRAM") && subprogram then report (.notInSubprogram id)
  if <- has opts "NO_AUTO_EXECUTION" then report (.notInAutoExecution id)

def markNodes (invalid : Bool) (ns : List NodeId) : Act := ns.forM (·.set "inInvalidNetwork" invalid)

/-- Check all networks; gives their nodes. -/
def examineNetworks : Run (List (Network × List NodeId)) := do
 let nets <- look (·.survey.networks)
 let found <- nets.mapM fun net => do
  let ns <- net.animatedNodes
  markNodes (net.type == .invalid) ns
  checkOptions (net.type == .group || net.type == .loop) ns
  pure (net, ns)
 if nets.any (·.type == .invalid) then report .invalidNetworks
 pure found

def checkDistinctIdentifiers : Act := do
 let ns <- animatedNodes
 if ns.length > (<- get).survey.tables.byIdentifier.size then report .identifierTwice

def forgetProblems : Act := change ({ · with problems := [] })

/-- Trees stay in the file also when nothing uses them. -/
def protectTrees : Act := do for t in (<- get).ownTrees do setTreeField t "use_fake_user" true

def updateAll : Act := do
 refreshSurvey
 forgetProblems
 protectTrees
 updateNodes
 repairLinks
 refreshCallersIfNeeded
 checkLinkedTrees
 reportUndefinedNodes
 let nets <- examineNetworks
 checkDistinctIdentifiers
 if <- canCreateUnits then createUnits
 for (net, ns) in nets do net.colorNodes ns

variable (s : SocketId) (n : NodeId) (kept : Value)

/-- The state of a socket that survives when its node is made anew. -/
def keptSocket : Eval := return .tuple [(<- s.dataType), <- s.getProperty, <- s "hide", <- s "isUsed"]

def restoreSocket : Act := do
 s.set "hide" (<- item kept 2)
 s.set "isUsed" (<- item kept 3)
 if <- equal (<- s.dataType) (<- item kept 0) then s.setProperty (<- item kept 1)

def keptNode : Eval := do
 let kept (ss : List SocketId) : Eval := do newDict (<- ss.mapM fun s => return ((<- s.identifier), <- keptSocket s))
 tuple [<- kept (<- n.inputs), <- kept (<- n.outputs)]

def restoreNode : Act := do
 for (i, x) in [(0, n.inputs), (1, n.outputs)] do
  let side <- item kept i
  for s in <- x do
   let id := .str (<- s.identifier)
   if <- has side id then restoreSocket s (<- item side id)

/-- Callers of subprograms that do not exist call nothing. -/
def resetOutdatedCallers : Act := do
 for n in <- nodesOfKind callKind do
  let id <- textAt n "subprogramIdentifier"
  if (<- look (·.survey.networkByIdentifier? id)).isNone then n.set "subprogramIdentifier" ""

def dropIfUntyped (s : SocketId) : Act := do
 if (<- look (·.dataType? s)).isNone then
  changeForest (·.removeSocket s)
  structureChanged

/-- Remove sockets without a data type from a side. The host finds the next socket before one is removed, so none is
passed over. -/
def dropUntyped (n : NodeId) (side : Side) : Act := do
 (<- look (·.forest.side n side)).toList.forM dropIfUntyped

def World.ownNodes (w : World) : List NodeId := w.ownTrees.flatMap fun t => (w.forest.tree t).nodes.toList

def dropUntypedSockets : Act := do
 (<- get).ownNodes.forM fun n => do unless (<- n.kind) == "NodeReroute" do [.input, .output].forM (dropUntyped n)

structure KeptLink where
 tree : TreeId
 originNode : NodeId
 origin : String
 targetNode : NodeId
 target : String

def World.keptLink (w : World) (t : TreeId) (l : Link) : KeptLink :=
 let o := w.forest.socket l.origin
 let dest := w.forest.socket l.target
 ⟨t, o.owner, o.identifier, dest.owner, dest.identifier⟩

def World.keptLinks (w : World) : List KeptLink :=
 w.ownTrees.flatMap fun t => (w.forest.tree t).links.toList.map fun l => w.keptLink t (w.forest.link l)

def KeptLink.ends? (f : Forest) (l : KeptLink) : Option (SocketId × SocketId) := do
 return (<- f.socketByIdentifier? (f.node l.originNode).outputs l.origin,
  <- f.socketByIdentifier? (f.node l.targetNode).inputs l.target)

def restoreLink (l : KeptLink) : Act := do
 let some (o, dest) <- look (l.ends? ·.forest) | return
 changeForest fun f => (f.addLink l.tree o dest).2
 structureChanged

/-- Clearing the links of a tree does not count as a change of the tree. -/
def removeAllLinks : Act := do
 (<- get).ownTrees.forM fun t => changeForest (·.modifyTree t fun x => { x with links := #[] })

/-- Make all nodes anew, and keep what can be kept of their sockets and links. -/
def renewFile : Act := do
 refreshIfStale
 resetOutdatedCallers
 dropUntypedSockets
 let kept <- (<- animatedNodes).mapM fun n => return (n, <- keptNode n)
 let links <- look (·.keptLinks)
 removeAllLinks
 refreshIfStale
 for n in <- animatedNodes do attempt do if <- n.canBeMadeAnew then n.tell "_refresh"
 for (n, k) in kept do restoreNode n k
 links.forM restoreLink
 refreshIfStale
 for n in <- animatedNodes do n.renew

/-- Trees of older files take over a setting that has got another name. -/
def updateAutoExecution : Act := do
 for t in (<- get).ownTrees do
  let opts <- (Value.tree t) "autoExecution"
  unless <- truthy (<- opts.call "is_property_set" ["always"]) do
   opts.set "always" (<- opts "sceneUpdate")
   opts.set "sceneChanged" (<- opts "sceneUpdate")

def allNames : Run Texts :=
 look fun w => sortedSet (w.ownTrees.flatMap fun t =>
  (w.forest.tree t).name :: (w.forest.tree t).nodes.toList.map fun n => (w.forest.node n).name)

def namesChanged : Ask := do
 let ns <- allNames
 if (<- look (·.knownNames)) == some ns then return false
 change ({ · with knownNames := some ns })
 pure true

/-- Trees that run by themselves when events happen. -/
def treesWaitingFor (events : Texts) : Run (List TreeId) := do
 (<- get).ownTrees.filterM (canAutoExecuteTree · events)

/-- Show what an execution has changed, except while images are rendered. -/
def showResults : Act := unless <- look (·.raised.rendering) do redrawEverything

def runWaiting (trees : List TreeId) : Act := do
 trees.forM autoExecuteTree
 showResults

def World.hasScene (w : World) : Bool :=
 w.collections.any fun e => e.1 == "scenes" && !((w.elements? e.2).getD []).isEmpty

def cannotWrite : Ask := look (!·.hasScene)

/-- React to events: bring everything up to date if needed, and run the trees that wait for them. -/
def handleEvents (events : Texts) : Act := guarded "handleEvents" do
 if <- cannotWrite then return
 if (<- namesChanged) || ["File", "Addon", "Tree"].any events.contains then updateAll
 unless <- mayRunAlone do return
 let trees <- treesWaitingFor events
 if trees.isEmpty then return
 withUnits trees (runWaiting trees)

def raisedEvents : Run Texts := do
 let r <- look (·.raised)
 return (if r.tree then ["Tree"] else []) ++ (if r.file then ["File"] else [])
  ++ (if r.addon then ["Addon"] else []) ++ (if r.property then ["Property"] else [])

/-- React to the events that were raised, and forget them. -/
def handleRaisedEvents : Act := do
 handleEvents (<- raisedEvents)
 change fun w => { w with raised := { rendering := w.raised.rendering } }

def renewOpenedFile : Act := do
 renewFile
 refreshIfStale
 refreshCallers
 change fun w => { w with raised := { w.raised with file := true } }
 structureChanged

end AnimationGraph
