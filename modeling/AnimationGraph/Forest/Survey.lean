import AnimationGraph.Run.Operations

/-! # The survey of a session

A session keeps a survey of its forest: which sockets are linked and which networks there are. The
survey is made anew when it is needed and the forest has changed since.
-/

namespace AnimationGraph

def SocketKey.side (k : SocketKey) : Side := if k.isOutput then .output else .input
def structureChanged : Act := change fun w => { w with raised := { w.raised with tree := true }, stale := true }
def valueChanged : Act := change fun w => { w with raised := { w.raised with property := true } }

/-- The code that a tree stands for has changed. -/
def codeChanged : Act := do
 structureChanged
 valueChanged

/-- Subprograms have got other inputs or outputs, so their callers have to follow. -/
def interfaceChanged : Act := do
 change ({ · with interfaceChanged := true })
 structureChanged

def treeKind : String := "an_AnimationNodeTree"
def callKind : String := "an_InvokeSubprogramNode"

/-- The part that nodes of a kind play in networks. -/
def roleOfKind : String -> NodeRole
 | "an_GroupInputNode" => .groupInput
 | "an_GroupOutputNode" => .groupOutput
 | "an_LoopInputNode" => .loopInput
 | "an_LoopGeneratorOutputNode" => .generatorOutput
 | "an_ReassignLoopParameterNode" => .reassignParameter
 | "an_LoopBreakNode" => .loopBreak
 | "an_ScriptNode" => .script
 | "an_InvokeSubprogramNode" => .invoke
 | "NodeReroute" => .reroute
 | "NodeFrame" => .frame
 | "NodeUndefined" => .undefined
 | _ => .plain

/-- The property by which a node names the subprogram that it belongs to or calls. -/
def referenceProperty : NodeRole -> String
 | .groupOutput => "groupInputIdentifier"
 | .invoke => "subprogramIdentifier"
 | _ => "loopInputIdentifier"

namespace Node

def stored (n : Node) (name : String) (d : String := "") : String := ((n.fields.get? name).bind Value.text?).getD d
def identifier (n : Node) : String := n.stored "identifier"

def isAnimated (n : Node) : Bool :=
 match roleOfKind n.kind with
 | .reroute | .frame | .undefined => false
 | _ => true

end Node

namespace World

variable (w : World) (n : NodeId) (s : SocketId)

def nodeKey : NodeKey :=
 let node := w.forest.node n
 ⟨(w.forest.tree node.tree).name, node.name⟩

def socketKey : SocketKey :=
 let k := w.forest.socket s
 ⟨w.nodeKey k.owner, k.side == .output, k.identifier⟩

def dataType? : Option String := (socketTypes.types.find? (·.idName == (w.forest.socket s).kind)).map (·.name)

/-- Trees that take part: those that belong to the session itself. -/
def ownTrees : List TreeId :=
 w.forest.present.toList.filter fun t => ((w.forest.tree t).fields.get? "library").all Value.isNone

def nodeOutline : NodeOutline :=
 let node := w.forest.node n
 let role := roleOfKind node.kind
 let typed (s : SocketId) := ((w.forest.socket s).identifier, (w.dataType? s).getD "")
 { key := w.nodeKey n, kind := node.kind, role := role
   identifier := node.identifier
   reference := node.stored (referenceProperty role)
   title := node.stored "subprogramName" "Subprogram"
   description := node.stored "subprogramDescription"
   inputs := node.inputs.toList.map typed
   outputs := node.outputs.toList.map typed }

/-- A node that carries data has only sockets with data types. -/
def isTyped : Bool :=
 let node := w.forest.node n
 match roleOfKind node.kind with
 | .reroute | .frame => true
 | _ => (node.inputs ++ node.outputs).all fun s => (w.dataType? s).isSome

def linkOutlines (t : TreeId) : List (SocketKey × SocketKey) :=
 let touchesUndefined (l : Link) :=
  [l.origin, l.target].any fun s => (w.forest.node (w.forest.socket s).owner).kind == "NodeUndefined"
 let links := (w.forest.tree t).links.toList.map w.forest.link
 (links.filter (!touchesUndefined ·)).map fun l => (w.socketKey l.origin, w.socketKey l.target)

/-- The outline of the forest up to the first node with a socket that has no data type, and whether
that was all. -/
def outline : Outline × Bool :=
 let rec go : List TreeId -> Outline × Bool
  | [] => ([], true)
  | t :: rest =>
   let tree := w.forest.tree t
   let ns := tree.nodes.toList
   let good := ns.takeWhile w.isTyped
   if good.length == ns.length then
    let (more, complete) := go rest
    (⟨tree.name, ns.map w.nodeOutline, w.linkOutlines t⟩ :: more, complete)
   else ([⟨tree.name, (ns.take (good.length + 1)).map w.nodeOutline, []⟩], false)
 go w.ownTrees

def nodeAt? (k : NodeKey) : Option NodeId := do w.forest.nodeOfTree? (<- w.forest.findTree? k.tree) k.name

def socketOf? (k : SocketKey) : Option SocketId := do
 w.forest.socketByIdentifier? (w.forest.side (<- w.nodeAt? k.node) k.side) k.identifier

end World

def refreshSurvey : Act := do
 let w <- get
 let (outline, complete) := w.outline
 if complete then change fun w => { w with survey := .ofOutline outline, stale := false, analyses := w.analyses + 1 }
 else
  change fun w => { w with survey := { w.survey with tables := .ofOutline outline } }
  fail .attr

def refreshIfStale : Act := do if <- look (·.stale) then refreshSurvey
def nodeAt (k : NodeKey) : Run NodeId := do need .key (<- look (·.nodeAt? k))

def nodeIdentifiedBy (id : String) : Run NodeId := do
 nodeAt (<- need .key (<- look (·.survey.tables.byIdentifier[id]?)))

def nodesOfKind (kind : String) : Run (List NodeId) := do (<- look (·.survey.tables.nodesOfKind kind)).mapM nodeAt

def socketsAt (keys : List SocketKey) : Run (List SocketId) := do
 let found <- keys.mapM fun k => do
  let _ <- nodeAt k.node
  look (·.socketOf? k)
 return found.filterMap id

def animatedNodes : Run (List NodeId) :=
 look fun w => w.ownTrees.flatMap fun t => (w.forest.tree t).nodes.toList.filter fun n => (w.forest.node n).isAnimated

namespace SocketId

variable (s : SocketId)

def key : Run SocketKey := look (·.socketKey s)

variable (s : SocketId)

/-- Sockets linked with this one, with reroutes skipped. -/
def linkedSockets : Run (List SocketId) := do socketsAt (<- look fun w => w.survey.tables.linkedSockets (w.socketKey s))

def directlyLinked : Run (List SocketId) := do
 socketsAt (<- look fun w => w.survey.tables.directlyLinked (w.socketKey s))

def isLinked : Ask := look fun w => w.survey.tables.isLinked (w.socketKey s)
def typesOfLinks : Run Texts := look fun w => w.survey.tables.typesOfLinks (w.socketKey s)

/-- The socket where the data of an input comes from. -/
def sourceOfData? : Run (Option SocketId) := return (<- s.linkedSockets).head?

def linkSource? : Run (Option SocketId) := return (<- s.directlyLinked).head?

def owner : Run NodeId := look fun w => (w.forest.socket s).owner
def identifier : Run String := look fun w => (w.forest.socket s).identifier
def name : Run String := look fun w => (w.forest.socket s).name
def kind : Run String := look fun w => (w.forest.socket s).kind
def isOutput : Ask := look fun w => (w.forest.socket s).side == .output

def dataType : Run String := do need .attr (<- look (·.dataType? s))
def place : Run Nat := do need .value (<- look (·.forest.indexOf? s))

end SocketId

namespace NodeId

variable (n : NodeId)

def key : Run NodeKey := look (·.nodeKey n)
variable (n : NodeId)

def kind : Run String := look fun w => (w.forest.node n).kind
def name : Run String := look fun w => (w.forest.node n).name
def tree : Run TreeId := look fun w => (w.forest.node n).tree
def identifier : Run String := look fun w => (w.forest.node n).identifier

def inputs : Run (List SocketId) := look fun w => (w.forest.node n).inputs.toList
def outputs : Run (List SocketId) := look fun w => (w.forest.node n).outputs.toList

/-- The input at a position; negative positions count from the end. -/
def input (i : Int) : Run SocketId := do
 let ss <- n.inputs
 need .index ((position? ss.length i).bind (ss[·]?))

def output (i : Int) : Run SocketId := do
 let ss <- n.outputs
 need .index ((position? ss.length i).bind (ss[·]?))

def inputNamed (name : String) : Run SocketId := do
 need .key (<- look fun w => (w.forest.node n).inputs.find? fun s => (w.forest.socket s).name == name)

def outputNamed (name : String) : Run SocketId := do
 need .key (<- look fun w => (w.forest.node n).outputs.find? fun s => (w.forest.socket s).name == name)

def linkedOutputTable : Run (List (String × Bool)) :=
 look fun w =>
  let tables := w.survey.tables
  (tables.outputs (w.nodeKey n)).map fun k => (k.identifier, tables.isLinked k)

def linkedInputTable : Run (List (String × Bool)) :=
 look fun w =>
  let tables := w.survey.tables
  (tables.inputs (w.nodeKey n)).map fun k => (k.identifier, tables.isLinked k)

def linkedOutputs : Run (List SocketId) := do
 return ((<- n.outputs).zip (<- n.linkedOutputTable)).filterMap fun (s, _, linked) => if linked then some s else none

def freeInputs : Run (List SocketId) := do
 return ((<- n.inputs).zip (<- n.linkedInputTable)).filterMap fun (s, _, linked) => if linked then none else some s

def sourceNodes : Run (List NodeId) := do (<- look fun w => w.survey.tables.origins (w.nodeKey n)).mapM nodeAt
def network : Run Network := do need .key (<- look fun w => w.survey.networkOf? (w.nodeKey n))

end NodeId

namespace Network

variable (n : Network)

def nodes : Run (List NodeId) := n.members.mapM nodeAt
def animatedNodes : Run (List NodeId) := do (<- n.nodes).filterM fun m => look fun w => (w.forest.node m).isAnimated

def ownerNode : Run NodeId := do
 nodeIdentifiedBy (<- need .key n.identifier)

end Network
end AnimationGraph
