import AnimationGraph.Node.Members

/-! # Node trees of the host

The host lets nodes be added to trees, copied and removed, and sockets be linked. What is wrong with the trees of a
session is kept as a list of problems.
-/

namespace AnimationGraph

variable (t : TreeId) (type : String) (n : NodeId) (name : String)

def context : Eval := look (·.context)
def here (path : String) : Eval := do (<- context).at path

def newTree : Run TreeId := do
 let (t, f) <- look (·.forest.addTree name)
 change ({ · with forest := f })
 match <- look (·.collections.lookup "node_groups") with
 | some id =>
  let .sequence s <- readCell id | pure ()
  writeCell id (.sequence { s with items := s.items.push t })
 | none => pure ()
 structureChanged
 pure t

def copyTree : Eval := do
 let tree <- look (·.forest.tree t)
 let copy <- newTree tree.name
 changeForest (·.modifyTree copy fun c => { c with fields := tree.fields, custom := tree.custom })
 pure copy

def treesMembers : Members CellId :=
 [fn2 "new name type" fun _ name type => do
  unless type.is treeKind do fail .key
  newTree (<- text name),
 act1 "remove tree" fun id tree => do
  match tree, <- readCell id with
  | .tree t, .sequence s =>
   unless s.items.any (identical · tree) do fail .value
   writeCell id (.sequence { s with items := s.items.filter (!identical · tree) })
   changeForest fun f => { f with present := f.present.filter (· != t) }
  | _, _ => fail .value]

def nodeDefaults : Fields := [
 ("width", 140.0), ("height", 100.0), ("width_hidden", 42.0), ("hide", false), ("select", false), ("mute", false),
 ("label", ""), ("parent", .none), ("use_custom_color", false), ("color", .tuple [0.608, 0.608, 0.608])]

def plainNodeLabel? : String -> Option String
 | "NodeReroute" => some "Reroute"
 | "NodeFrame" => some "Frame"
 | "NodeUndefined" => some "Undefined"
 | _ => none

variable (v : Value)

def setNodeField : Act := changeForest (·.modifyNode n fun x => { x with fields := x.fields.set name v })

/-- The frame that a node lies in. -/
def Forest.parent? (f : Forest) (n : NodeId) : Option NodeId :=
 match (f.node n).fields.get? "parent" with
 | some (.node p) => some p
 | _ => none

/-- Whether a node is another one or lies in it, directly or through its parents. -/
def Forest.liesIn (f : Forest) (outer : NodeId) : Nat -> NodeId -> Bool
 | 0, n => n == outer
 | steps + 1, n => n == outer || (f.parent? n).any (f.liesIn outer steps)

/-- A node is put into a frame, unless the frame is that node or lies in it: then the host leaves it where it is. -/
def setParent : Act := do
 if let .node p := v then
  if <- look fun w => (w.forest.node p).kind != "NodeFrame" || w.forest.liesIn n w.forest.nodes.size p then return
 setNodeField n "parent" v

def setSocketField (s : SocketId) (name : String) (v : Value) : Act :=
 changeForest (·.modifySocket s fun x => { x with fields := x.fields.set name v })

def setTreeField : Act := changeForest (·.modifyTree t fun x => { x with fields := x.fields.set name v })

def addBareNode (kind label : String) : Run NodeId := do
 let (n, f) <- look (·.forest.addNode t kind label)
 change ({ · with forest := f })
 setNodeField n "location" (<- vector [0, 0])
 setNodeField n "dimensions" (<- vector [0, 0])
 pure n

def newNode (kind : String) : Run NodeId := do
 match plainNodeLabel? kind with
 | some label =>
  let n <- addBareNode t kind label
  if kind == "NodeReroute" then
   let _ <- newSocket n .input "NodeSocket" "Input" "Input"
   let _ <- newSocket n .output "NodeSocket" "Output" "Output"
  structureChanged
  pure n
 | none =>
  let label <- match <- (Value.kind kind).attr? "bl_label" with
   | some label => text label
   | none => fail .key
  let n <- addBareNode t kind label
  n.tell "init" [<- context]
  structureChanged
  pure n

def removeNode (n : NodeId) : Act := do
 if <- isAnimatedNode n then n.tell "free"
 changeForest (·.removeNode n)
 structureChanged

def copyStored : Nat -> Value -> Eval
 | 0, v => pure v
 | fuel + 1, v => do
  match v with
  | .cell id =>
   match <- readCell id with
   | .record r =>
    if r.origin == .group then
     let fields <- r.fields.mapM fun (k, x) => return (k, <- copyStored fuel x)
     newCell (.record { r with fields })
    else pure v
   | .sequence s =>
    let .groups _ := s.kind | pure v
    newCell (.sequence { s with items := <- s.items.mapM (copyStored fuel) })
   | .numbers shape xs => newCell (.numbers shape xs)
   | _ => pure v
  | v => pure v

def copyFields (fs : Fields) (skipped : Texts) : Run Fields := do
 (fs.filter fun (k, _) => !skipped.contains k).mapM fun (k, v) => return (k, <- copyStored 16 v)

def copyNode (src : NodeId) : Run NodeId := do
 let node <- look (·.forest.node src)
 let n <- addBareNode node.tree node.kind (<- textAt src "bl_label")
 let fields <- copyFields node.fields
  ["dimensions", "height", "width_hidden", "select", "mute", "use_custom_color", "color"]
 for (k, v) in fields do setNodeField n k v
 changeForest (·.modifyNode n fun x => { x with custom := node.custom })
 for side in [.input, .output] do
  for s in <- look (·.forest.side src side) do
   let socket <- look (·.forest.socket s)
   let (new, f) <- look (·.forest.addSocket n side socket.kind socket.name socket.identifier)
   change ({ · with forest := f })
   let fields <- copyFields socket.fields ["temporaryColor"]
   changeForest (·.modifySocket new fun x => { x with fields, custom := socket.custom })
 if <- isAnimatedNode n then n.tell "copy" [src]
 structureChanged
 pure n

def treeNodes : Run (List NodeId) := look fun w => (w.forest.tree t).nodes.toList

def nodesMembers : Members TreeId := [
 fn1 "new type" fun t type => do newNode t (<- textArg type),
 act1 "remove node" fun _ n => do removeNode (<- nodeOf n),
 act0 "clear" fun t => for n in <- treeNodes t do removeNode n,
 fn2 "get key default?" fun t key d => do return ((<- look (·.forest.nodeOfTree? t (key.word))).map .node).getD d,
 fn0 "keys" fun t => do list (<- (<- treeNodes t).mapM (·.name)),
 prop "active" fun t => look fun w => ((w.forest.tree t).fields.get? "active").getD .none]

def linkOf : Run LinkId := do
 let .link l := v | fail .type
 pure l

def linksMembers : Members TreeId :=
 [fn2 "new input output" fun t a b => do return <- (<- socketOf a).linkIn t (<- socketOf b),
 act1 "remove link" fun _ l => do
  changeForest (·.removeLink (<- linkOf l))
  structureChanged,
 act0 "clear" fun t => do
  changeForest (·.modifyTree t fun x => { x with links := #[] })
  structureChanged]

def socketsMembers : Members (NodeId × Side) :=
 [fn3 "new type name identifier?" fun (n, side) type name id => do
  newSocket n side (<- text type) (<- text name) (<- text (if id.isNone then name else id)),
 act1 "remove socket" fun _ s => do
  changeForest (·.removeSocket (<- socketOf s))
  structureChanged,
 act0 "clear" fun (n, side) => do
  changeForest (·.clearSide n side)
  structureChanged,
 act2 "move source target" fun (n, side) source target => do
  let k := (<- look (·.forest.side n side)).size
  let some i := position? k (<- indexOf source) | fail .index
  changeForest (·.moveSocket n side i ((clampIndex (k - 1) (<- indexOf target) 0 (k - 1)).toNat))
  structureChanged,
 fn2 "get key default?" fun (n, side) key default => do
  let found <- look fun w => (w.forest.side n side).find? fun s => some (w.forest.socket s).name == key.text?
  return (found.map .socket).getD default,
 fn0 "keys" fun (n, side) => do list (<- (<- look (·.forest.side n side)).toList.mapM (·.name))]

def linkMembers : Members LinkId := [
 prop "from_socket" fun l => look fun w => .socket (w.forest.link l).origin,
 prop "to_socket" fun l => look fun w => .socket (w.forest.link l).target,
 prop "from_node" fun l => look fun w => .node (w.forest.socket (w.forest.link l).origin).owner,
 prop "to_node" fun l => look fun w => .node (w.forest.socket (w.forest.link l).target).owner,
 constant "is_valid" true]

def viewLocation : Eval := do
 let rec go : Nat -> Value -> Value -> Eval
  | 0, _, loc => pure loc
  | fuel + 1, node, loc => do
   let par <- node "parent"
   if <- truthy par then go fuel par (<- add loc (<- par "location"))
   else pure loc
 go 1000 n (<- vector (<- each n "location"))

def bottomCorners (region k : Value) : Run (Value × Value) := do
 let loc <- mul (<- viewLocation n) k
 let dimensions <- n "dimensions"
 let x <- loc "x"
 let y <- sub (<- loc "y") (<- dimensions "y")
 let view <- region "view2d"
 let left <- view.call "view_to_region" [x, y] [("clip", false)]
 let right <- view.call "view_to_region" [<- add x (<- dimensions "x"), y] [("clip", false)]
 return (<- vector (<- iter left), <- vector (<- iter right))

def dpiFactor : Eval := do div (<- here "preferences.system.dpi") 72

def hostNodeMembers : Members := [
 prop "name" (·.name),
 prop "inputs" fun n => return .sockets n .input,
 prop "outputs" fun n => return .sockets n .output,
 prop "id_data" (·.tree),
 prop "bl_idname" (·.kind),
 prop "bl_label" fun n => do need .attr (plainNodeLabel? (<- n.kind)),
 prop "isAnimationNode" (isAnimatedNode ·),
 prop "viewLocation" viewLocation,
 fn0 "toID" fun n => return (<- n.key).toValue,
 fn0 "getNodeTree" (·.tree),
 fn1 "getRegionBottomLeft region" fun n region => return (<- bottomCorners n region (<- dpiFactor)).1,
 fn1 "getRegionBottomRight region" fun n region => return (<- bottomCorners n region (<- dpiFactor)).2,
 idle "update"]

def hostSocketMembers : Members SocketId := [
 prop "name" (·.name),
 prop "identifier" (·.identifier),
 prop "node" (·.owner),
 prop "id_data" fun s => do (<- s.owner).tree,
 prop "is_output" (·.isOutput),
 prop "is_linked" (·.touched),
 prop "links" fun s => do list ((<- look (·.forest.linksOfSocket s)).toList.map .link),
 prop "bl_idname" fun s => do s.kind,
 fn0 "toID" fun s => return (<- s.key).toValue,
 fn1 "getIndex node?" fun s _ => s.place,
 fn0 "getNodeTree" fun s => do (<- s.owner).tree,
 prop "show" fun s => return !(<- holds s "hide"),
 prop "isAnimationNodeSocket" fun s => look fun w => .bool (w.dataType? s).isSome]

def hostTreeMembers : Members TreeId := [
 prop "name" fun t => look fun w => (w.forest.tree t).name,
 prop "nodes" fun t => return .nodesOf t,
 prop "links" fun t => return .linksOf t,
 constant "bl_idname" treeKind, constant "bl_label" "Animation Nodes", fn0 "copy" copyTree,
 act0 "user_clear" fun _ => record "user_clear" [],
 act0 "update_tag" fun _ => record "update_tag" []]

def activeScreens : Evals := do
 (<- iter (<- blocks "window_managers")).flatMapM fun m => do (<- each m "windows").mapM (· "screen")

def areas : Evals := do (<- activeScreens).flatMapM (each · "areas")
def areasOfType : Evals := do (<- areas).filterM fun a => return (<- a "type").is type

def activeSpacesOfType : Evals := do
 (<- (<- areas).mapM (·.at "spaces.active")).filterM fun s => return (<- s "type").is type

def redrawEverything : Act := do for a in <- areas do a.tell "tag_redraw"
def redrawAreas : Act := do for a in <- areasOfType type do a.tell "tag_redraw"

def viewportRenders : Ask := do
 return (<- (<- activeSpacesOfType "VIEW_3D").mapM (·.at "shading.type")).any (·.is "RENDERED")

def animationPlays : Ask := do return (<- (<- activeScreens).mapM fun s => do holds s "is_animation_playing").any id
def interfaceIsLocked : Ask := do truthy (<- (<- here "window_manager").attrD "is_interface_locked" false)

def activeTree (c : Value) : Eval := do
 if (<- c.at "area.type").is "NODE_EDITOR" then
  let tree <- c.at "space_data.node_tree"
  if (<- tree.attrD "bl_idname" "").is treeKind then return tree
 pure .none

def activeDepsgraph : Eval := do
 let g <- register "evaluatedDepsgraph"
 if <- truthy g then return g
 (<- context).call "evaluated_depsgraph_get"

def evaluated : Eval := do v.call "evaluated_get" [<- activeDepsgraph]

namespace LayoutId

variable (l : LayoutId) (c : String)

def splitToSides : Run (LayoutId × LayoutId) := do
 let row <- l.row
 let left <- row.row
 left.set "alignment" "LEFT"
 let right <- row.row
 right.set "alignment" "RIGHT"
 pure (left, right)

def wrap (w : Int := 30) (icon : String := "NONE") : Act := do
 let col <- l.stack
 col.set "scale_y" 0.85
 let mut margin := " "
 let mut icon := icon
 for paragraph in c.splitOn "\n" do
  if w ≤ 0 then fail .value
  let ls := Wrap.lines paragraph w.toNat
  if ls.isEmpty then
   let gap <- col.column
   gap.set "scale_y" 0.3
   gap.label bare
  for line in ls do
   col.sign (margin ++ line) icon
   if icon != "NONE" then margin := "     "
   icon := "NONE"

def regionWidth : Run Int := do
 let w <- tryCatch
  (do
   let region <- here "region"
   div (<- div (<- region "width") (<- dpiFactor)) 7)
  (fun _ => pure 30)
 toInt w

def writeFitted (icon : String := "NONE") : Act := do l.wrap c (<- regionWidth) icon

end LayoutId

namespace Problem

def label : Problem -> String
 | .linkRecursion => "NodeLinkRecursion"
 | .invalidNetworks => "InvalidNetworksExist"
 | .identifierTwice => "IdentifierExistsTwice"
 | .linkedTree => "LinkedAnimationNodeTreeExists"
 | .undefinedNodes _ => "UndefinedNodeExists"
 | .notInSubprogram _ => "NodeMustNotBeInSubprogram"
 | .notInAutoExecution _ => "NodeShouldNotBeUsedInAutoExecution"
 | .noExecution _ => "NodeDoesNotSupportExecution"
 | .codeCreation => "ExceptionDuringCodeCreation"
 | .nodeCode _ => "NodeFailesToCreateExecutionCode"
 | .malformedScript => "InvalidSyntax"
 | .unitSetup => "CouldNotSetupExecutionUnits"
 | .execution => "ExceptionDuringExecution"
 | .nodeExecution _ => "NodeRaisesExceptionDuringExecution"

def node? : Problem -> Option String
 | .notInSubprogram n | .notInAutoExecution n | .noExecution n | .nodeCode n | .nodeExecution n => some n
 | _ => none

def allowsUnits : Problem -> Bool
 | .invalidNetworks | .identifierTwice | .linkedTree | .undefinedNodes _ | .notInSubprogram _ | .noExecution _
 | .nodeCode _ => false
 | _ => true

def allowsExecution (p : Problem) : Bool :=
 p.allowsUnits && match p with
  | .linkRecursion | .codeCreation | .malformedScript | .unitSetup | .execution | .nodeExecution _ => false
  | _ => true

def allowsAutoExecution (p : Problem) : Bool :=
 p.allowsExecution && match p with
  | .notInAutoExecution _ => false
  | _ => true

def deservesReport : Problem -> Bool
 | .codeCreation | .nodeCode _ | .malformedScript | .unitSetup | .execution | .nodeExecution _ => true
 | _ => false

def fromDisabledCheck : Problem -> Bool
 | .nodeCode _ | .execution | .nodeExecution _ => true
 | _ => false

end Problem

def report (p : Problem) : Act := change fun w => { w with problems := w.problems ++ [p] }

def canCreateUnits : Ask := look (·.problems.all (·.allowsUnits))
def mayRun : Ask := look (·.problems.all (·.allowsExecution))
def mayRunAlone : Ask := look (·.problems.all (·.allowsAutoExecution))

namespace Problem

def shownNode (id : String) : Run String := return Quoted.literal (<- (<- nodeIdentifiedBy id).name)

def drawNodeButton (l : LayoutId) (id : String) : Act := do
 let props <- l.operator "an.move_view_to_node"
  [("icon", "VIEWZOOM"), ("text", ((<- shownNode id) ++ " does not work"))]
 props.set "nodeIdentifier" id

def draw (l : LayoutId) : Problem -> Act
 | .linkRecursion => l.writeFitted
   "There is a cycle in your node tree. You have to remove the cycle before you will be able to execute the tree again."
 | .invalidNetworks => l.writeFitted
   ("There is at least one invalid node network. Please make all networks valid again.\n\n"
    ++ "Reasons for invalid networks:\n\n"
    ++ "  - a 'Invoke Subprogram' is in the same network that it calls\n\n"
    ++ "  - a 'Group Output' node has no corresponding 'Group Input' node\n\n"
    ++ "  - there are more than one 'Group Input', 'Group Output' or 'Loop Input' nodes in the same network")
 | .identifierTwice => do
  let col <- l.column
  col.writeFitted
   ("At least one node identifier exists twice. This can happen when you append a node tree "
    ++ "that is already in this file. \nSolution: \n  1. Select the NEW node tree \n  2. Click on the button below")
  discard (col.operator "an.replace_nodes_with_copies")
 | .linkedTree => l.write "AN doesn't support linked node trees."
 | .undefinedNodes keys => do
  l.writeFitted
   ("There is at least one undefined node. This happens when you open a .blend file uses "
    ++ "nodes which don't exist in your version of AN.\n"
    ++ "To fix this you can either install the AN version this file has been created with or you try "
    ++ "to replace/remove the undefined nodes.")
  let col <- l.stack
  for k in keys do
   let name <- (<- nodeAt k).name
   let props <- col.operator "an.move_view_to_node"
    [("icon", "VIEWZOOM"), ("text", (Quoted.literal name ++ " is undefined"))]
   props.set "treeName" k.tree
   props.set "nodeName" k.name
 | .notInSubprogram n => do l.write ((<- shownNode n) ++ " must not be in a subprogram")
 | .notInAutoExecution n => do l.write ((<- shownNode n) ++ " should not be used with auto execution.")
 | .noExecution n => do l.write ((<- shownNode n) ++ " does not support excecution")
 | .codeCreation => l.writeFitted "An exception was raised during the creation of the execution code."
 | .nodeCode n => do
  l.writeFitted
   ("The node linked below is not able to create its execution code. If this can happen when the node tree "
    ++ "has been created in another version of the addon. If that is not the case it is most likely a bug in "
    ++ "the addon itself.\n\n"
    ++ "If the problem is that you use an incompatible AN version, you can also try to simply replace the "
    ++ "not-working node with the same node. Sometimes this error occures when the sockets of a node changes "
    ++ "between versions.")
  drawNodeButton l n
 | .malformedScript => l.writeFitted "The execution code has invalid syntax."
 | .unitSetup => l.writeFitted
   "The Animation Nodes addon is not able to setup the execution units for the node tree."
 | .execution => l.writeFitted
   ("An exception was raised during the execution of a node tree. Maybe you can get more details when you "
    ++ "choose 'Monitor Execution' as Execution Code Type in the Developer panel. Don't forget to "
    ++ "disable it afterwards for optimal performance.")
 | .nodeExecution n => drawNodeButton l n

end Problem

variable (l : LayoutId)

def drawCheckAdvice : Act := do
 l.writeFitted
  ("This problem can happen when you disabled certain problem-handling features in the advanced node settings "
   ++ "of some nodes (e.g. 'Expression'). If this is the case try to enable them again.")

def drawReportAdvice : Act := do
 l.writeFitted
  ("It is possible that this is a bug in the Animation Nodes addon itself. If you think that this is the case "
   ++ "make a bug report, please. Don't forget to give as much information as possible. "
   ++ "Beside that it would be helpful if you could share the .blend file and the content of the console/terminal.")
 let props <- l.operator "wm.url_open" (badge "New Bug Report" "RIGHTARROW_THIN")
 props.set "url" "https://github.com/JacquesLucke/animation_nodes/issues/new"

def drawProblems : Act := do
 let problems <- look (·.problems)
 for p in problems do p.draw l
 if problems.any Problem.fromDisabledCheck then
  l.separator
  drawCheckAdvice l
 if problems.any Problem.deservesReport then
  l.separator
  drawReportAdvice l

end AnimationGraph
