import Std.Data.TreeMap

/-! # Networks

The analysis of a forest looks at names only: which nodes there are, which sockets they have, which
links join them, and which subprogram a node refers to. An outline is that view of a forest. Nodes
and sockets are known by keys made of their names.

The nodes of a forest fall into networks: groups of nodes that are joined by links. A network is a
main program, or it is a subprogram that invoke nodes can call: a group, a loop or a script. The
parts of a subprogram need not be linked; they are joined by the identifier they name.
-/

namespace AnimationGraph

/-- A node, known by the names of its tree and of itself. -/
structure NodeKey where
 (tree name : String)
 deriving DecidableEq, Inhabited, Ord

/-- A socket, known by its node, its side and its identifier. -/
structure SocketKey where
 node : NodeKey
 isOutput : Bool
 identifier : String
 deriving DecidableEq, Inhabited, Ord

/-- The part a node plays in the structure of networks. -/
inductive NodeRole where
 | groupInput | groupOutput | loopInput | generatorOutput | reassignParameter | loopBreak | script
 | invoke | reroute | frame | undefined | plain
 deriving DecidableEq, Inhabited

/-- What the analysis sees of a node. -/
structure NodeOutline where
 key : NodeKey
 kind : String
 role : NodeRole
 (identifier reference : String)
 /-- Name and description, for the nodes that own a subprogram. -/
 title : String
 description : String
 /-- Identifier and data type of each input. -/
 inputs : List (String × String)
 outputs : List (String × String)
 deriving Inhabited

namespace NodeOutline

variable (n : NodeOutline)

def inputKeys : List SocketKey := n.inputs.map (⟨n.key, false, ·.1⟩)
def outputKeys : List SocketKey := n.outputs.map (⟨n.key, true, ·.1⟩)

def isAnimated : Bool :=
 match n.role with
 | .reroute | .frame | .undefined => false
 | _ => true

end NodeOutline

/-- What the analysis sees of a tree. Links that touch an undefined node are left out. -/
structure TreeOutline where
 name : String
 nodes : List NodeOutline
 links : List (SocketKey × SocketKey)

abbrev Outline := List TreeOutline

namespace Outline

def nodes (o : Outline) : List NodeOutline := o.flatMap (·.nodes)

end Outline

/-! ## Analysis of a forest

Which sockets are linked with which, directly and through reroutes. -/

/-- Insert into an ascending list without duplicates. -/
def insertSorted {α : Type} [Ord α] (a : α) : List α -> List α
 | [] => [a]
 | b :: rest =>
  match compare a b with
  | .lt => a :: b :: rest
  | .eq => b :: rest
  | .gt => b :: insertSorted a rest

/-- The ascending list of the elements of a list. -/
def sortedSet {α : Type} [Ord α] (xs : List α) : List α := xs.foldl (fun acc a => insertSorted a acc) []

/-- Nodes are looked at one after the other, and those that they lead to are looked at later. `pick` tells which node is next. -/
def reachedFrom [BEq α] (next : α -> List α) (pick : List α -> Nat) : Nat -> List α -> List α -> List α
 | fuel + 1, first :: rest, seen =>
  let work := first :: rest
  let n := work.getD (pick seen) first
  let seen := seen ++ [n]
  reachedFrom next pick fuel
   ((next n).foldl (fun work k => if seen.contains k || work.contains k then work else work ++ [k]) (work.erase n)) seen
 | _, _, seen => seen

structure Analysis where
 nodes : List NodeKey := []
 outlineOf : Std.TreeMap NodeKey NodeOutline := {}
 ofKind : Std.TreeMap String (List NodeKey) := {}
 byIdentifier : Std.TreeMap String NodeKey := {}
 /-- The other ends of the links at a socket, in link order. -/
 direct : Std.TreeMap SocketKey (List SocketKey) := {}
 /-- The same with reroutes skipped. -/
 linked : Std.TreeMap SocketKey (List SocketKey) := {}
 dataType : Std.TreeMap SocketKey String := {}

namespace Analysis

variable (a : Analysis)

def reroutes : List NodeKey := a.ofKind.getD "NodeReroute" []

variable (s : SocketKey) (n : NodeKey)

def isReroute : Bool := a.reroutes.contains n
def inputs : List SocketKey := (a.outlineOf[n]?.map (·.inputKeys)).getD []
def outputs : List SocketKey := (a.outlineOf[n]?.map (·.outputKeys)).getD []
def directlyLinked : List SocketKey := a.direct.getD s []
def linkedSockets : List SocketKey := a.linked.getD s []
def isLinked : Bool := !(a.linkedSockets s).isEmpty
def nodesOfKind (kind : String) : List NodeKey := a.ofKind.getD kind []
def isAnimated (a : Analysis) (n : NodeKey) : Bool := (a.outlineOf[n]?.map (·.isAnimated)).getD false
def roleOf : Option NodeRole := a.outlineOf[n]?.map (·.role)
def withRole (r : NodeRole) (ns : List NodeKey) : List NodeKey := ns.filter (a.roleOf · == some r)
def identifierOf : String := (a.outlineOf[n]?.map (·.identifier)).getD ""
def referenceOf : String := (a.outlineOf[n]?.map (·.reference)).getD ""

/-- The socket on the other side of a reroute. -/
def passedOn : SocketKey :=
 let others := if s.isOutput then a.inputs s.node else a.outputs s.node
 others.headD s

/-- The ends of the chains that start with the given sockets, where `follow` goes on behind a reroute. A
reroute that was visited before ends the list it occurs in. -/
def endsBy (a : Analysis) (follow : List SocketKey -> List NodeKey -> List SocketKey × List NodeKey) :
  List SocketKey -> List NodeKey -> List SocketKey × List NodeKey
 | [], seen => ([], seen)
 | s :: rest, seen =>
  if a.isReroute s.node then
   if seen.contains s.node then ([], seen)
   else
    let (found, seen) := follow (a.directlyLinked (a.passedOn s)) (s.node :: seen)
    let (more, seen) := endsBy a follow rest seen
    (found ++ more, seen)
  else
   let (more, seen) := endsBy a follow rest seen
   (s :: more, seen)

/-- The ends of chains that run through fewer reroutes than the bound. -/
def ends (a : Analysis) : Nat -> List SocketKey -> List NodeKey -> List SocketKey × List NodeKey
 | 0 => fun _ seen => ([], seen)
 | fuel + 1 => a.endsBy (a.ends fuel)

def followed : List SocketKey := (a.ends (a.reroutes.length + 1) (a.directlyLinked s) []).1

def putNode (n : NodeOutline) : Analysis :=
 let typed := n.role != .reroute && n.role != .frame
 { a with
   nodes := a.nodes ++ [n.key]
   outlineOf := a.outlineOf.insert n.key n
   ofKind := a.ofKind.insert n.kind (insertSorted n.key (a.nodesOfKind n.kind))
   byIdentifier := if n.isAnimated then a.byIdentifier.insert n.identifier n.key else a.byIdentifier
   dataType :=
    if typed then
     (n.inputKeys.zip n.inputs ++ n.outputKeys.zip n.outputs).foldl
      (fun t (k, s) => t.insert k s.2) a.dataType
    else a.dataType }

def insertLink (l : SocketKey × SocketKey) : Analysis :=
 let add (t : Std.TreeMap SocketKey (List SocketKey)) (x y : SocketKey) := t.insert x (t.getD x [] ++ [y])
 { a with direct := add (add a.direct l.1 l.2) l.2 l.1 }

def sockets : List SocketKey := (a.nodes.filter (!a.isReroute ·)).flatMap fun n => a.inputs n ++ a.outputs n
def resolve : Analysis := { a with linked := a.sockets.foldl (fun t s => t.insert s (a.followed s)) {} }
def putTree (t : TreeOutline) : Analysis := t.links.foldl insertLink (t.nodes.foldl putNode a)
def ofOutline (o : Outline) : Analysis := (o.foldl putTree {}).resolve

/-- The nodes that a node takes its inputs from, in link order. -/
def dependencies : List NodeKey := (a.inputs n).flatMap fun s => (a.linkedSockets s).map (·.node)

def origins : List NodeKey := sortedSet (a.dependencies n)
def typesOfLinks : List String := sortedSet ((a.linkedSockets s).filterMap (a.dataType[·]?))

/-- A link between data sockets with the data types of its ends. -/
structure DataLink where
 (origin target : SocketKey)
 (originType targetType : String)
 deriving DecidableEq, Ord

/-- All links with reroutes skipped, ascending. -/
def dataLinks : List DataLink :=
 let typeOf (s : SocketKey) := a.dataType.getD s ""
 sortedSet <| a.sockets.flatMap fun s => (a.linkedSockets s).map fun t =>
  if s.isOutput then ⟨s, t, typeOf s, typeOf t⟩ else ⟨t, s, typeOf t, typeOf s⟩

end Analysis

inductive NetworkType where
 | main | group | loop | script | invalid
 deriving DecidableEq

def NetworkType.label : NetworkType -> String
 | .main => "Main"
 | .group => "Group"
 | .loop => "Loop"
 | .script => "Script"
 | .invalid => "Invalid"

structure Network where
 type : NetworkType := .invalid
 (name description : String := "")
 identifier : Option String := none
 /-- Member nodes; a joined network lists the members of its parts one after the other. -/
 members : List NodeKey := []
 joined : Bool := false
 (groupInputs groupOutputs loopInputs generators reassigns breaks scripts : List NodeKey := [])
 /-- Identifiers of the subprograms that the network invokes, ascending. -/
 references : List String := []

namespace Network

variable (a : Analysis) (n : Network)

def isSubprogram : Bool :=
 match n.type with
 | .group | .loop | .script => true
 | _ => false

def nameOfTree : String := (n.members.head?.map (·.tree)).getD ""

/-- Distinct elements in order of first occurrence. -/
def distinct (xs : List String) : List String := xs.foldl (fun acc a => if acc.contains a then acc else acc ++ [a]) []

variable (members : List NodeKey) (joined : Bool)

/-- The members that play a part in the structure, sorted by the part. -/
def collect : Network :=
 { members
   joined
   groupInputs := a.withRole .groupInput members
   groupOutputs := a.withRole .groupOutput members
   loopInputs := a.withRole .loopInput members
   generators := a.withRole .generatorOutput members
   reassigns := a.withRole .reassignParameter members
   breaks := a.withRole .loopBreak members
   scripts := a.withRole .script members
   references := sortedSet ((a.withRole .invoke members).map a.referenceOf) }

/-- The members that belong to a loop, its input apart. -/
def parts : List NodeKey := n.generators ++ n.reassigns ++ n.breaks

/-- What a network is, and the identifier it names if its owner is elsewhere. -/
def classify : NetworkType × Option String :=
 let count := n.groupInputs.length + n.groupOutputs.length
 let loopCount := n.loopInputs.length + n.parts.length
 if count + loopCount + n.scripts.length == 0 then (.main, none)
 else if n.scripts.length == 1 then (.script, none)
 else if loopCount == 0 then
  match n.groupInputs, n.groupOutputs with
  | [], [out] =>
   let named := a.referenceOf out
   (.invalid, if named == "" then none else some named)
  | [_], [] => (.group, none)
  | [inp], [out] => (if a.identifierOf inp == a.referenceOf out then .group else .invalid, none)
  | _, _ => (.invalid, none)
 else if count == 0 then
  match n.loopInputs, distinct (n.parts.map a.referenceOf) with
  | [], [named] => (.invalid, some named)
  | [_], [] => (.loop, none)
  | [inp], [named] => (if a.identifierOf inp == named then .loop else .invalid, none)
  | _, _ => (.invalid, none)
 else (.invalid, none)

def owner? : Option NodeKey :=
 match n.type with
 | .script => n.scripts.head?
 | .group => n.groupInputs.head?
 | .loop => n.loopInputs.head?
 | _ => none

/-- A subprogram that invokes itself is invalid. -/
def ownedBy (owner : NodeOutline) : Network :=
 { n with
   identifier := some owner.identifier
   name := owner.title
   description := owner.description
   type := if n.references.contains owner.identifier then .invalid else n.type }

def draft : Network :=
 let n := collect a members joined
 { n with type := (n.classify a).1, identifier := (n.classify a).2 }

def ofMembers : Network :=
 let n := draft a members joined
 (n.owner?.bind (a.outlineOf[·]?)).elim n n.ownedBy

/-- The nodes that a node is directly linked with, reroutes included. -/
def neighbours (n : NodeKey) : List NodeKey :=
 (a.inputs n ++ a.outputs n).flatMap fun s => (a.directlyLinked s).map (·.node)

/-- Everything that links lead to from a node, ascending. -/
def closure (n : NodeKey) : List NodeKey := sortedSet (reachedFrom (neighbours a) (fun _ => 0) (a.nodes.length + 1) [n] [])

/-- Add the group of a node, unless the node is in one of the groups already. -/
def addComponent (state : List (List NodeKey) × List NodeKey) (n : NodeKey) :
  List (List NodeKey) × List NodeKey :=
 if state.2.contains n then state
 else
  let g := closure a n
  (state.1 ++ [g], state.2 ++ g)

/-- Groups of nodes that are joined by links, in the order of their first nodes. -/
def components : List (List NodeKey) := (a.nodes.foldl (addComponent a) ([], [])).1

/-- A group of frames and reroutes alone is no network. -/
def isRelevant (g : List NodeKey) : Bool :=
 g.any fun k => match (a.outlineOf[k]? : Option NodeOutline) with
  | some n => n.role != .frame && n.role != .reroute
  | none => true

def joinNetwork (gs : List (Option String × List Network)) (n : Network) : List (Option String × List Network) :=
 if gs.any (·.1 == n.identifier) then gs.map fun g => if g.1 == n.identifier then (g.1, g.2 ++ [n]) else g
 else gs ++ [(n.identifier, [n])]

/-- Put networks with the same identifier together, in the order of the first of each. -/
def byIdentifier (nets : List Network) : List (Option String × List Network) := nets.foldl joinNetwork []

/-- The groups of linked nodes, each as a network. -/
def fragments : List Network := ((components a).filter (isRelevant a)).map (ofMembers a · false)

/-- Networks that name the same subprogram make one network. -/
def merged : Option String × List Network -> List Network
 | (none, nets) => nets
 | (some _, nets) => [ofMembers a (nets.flatMap (·.members)) true]

def all : List Network := (byIdentifier (fragments a)).flatMap (merged a)

/-- The order in which a search visits the members: a joined network is taken from its end. -/
def searchOrder : List NodeKey := if n.joined then n.members.reverse else n.members

/-- Nodes finished so far, latest first. -/
abbrev Finished := List NodeKey

/-- Visit a node after everything it depends on; `none` when the path runs in a circle. -/
def visit (a : Analysis) : Nat -> List NodeKey -> NodeKey -> Finished -> Option Finished
 | 0, _, _, _ => none
 | fuel + 1, path, n, done =>
  if path.contains n then none
  else if done.contains n then some done
  else
   let pre := (a.dependencies n).foldl (fun state d => state.bind (visit a fuel (n :: path) d)) (some done)
   pre.map (n :: ·)

/-- The animated nodes of a network, each after the nodes it takes its inputs from; `none` when
links run in a circle. -/
def sorted? : Option (List NodeKey) :=
 let fuel := a.nodes.length + 1
 let finished := n.searchOrder.foldl (fun state k => state.bind (visit a fuel [] k)) (some [])
 finished.map (·.reverse.filter a.isAnimated)

end Network

structure Survey where
 tables : Analysis := {}
 networks : List Network := []

namespace Survey

def ofOutline (o : Outline) : Survey :=
 let a := .ofOutline o
 ⟨a, Network.all a⟩

variable (s : Survey) (n : Network)

def networkOf? (n : NodeKey) : Option Network := (s.networks.filter (·.members.contains n)).getLast?
def networkByIdentifier? (id : String) : Option Network := s.networks.find? (·.identifier == some id)
def subprograms : List Network := s.networks.filter (·.isSubprogram)
def ofType (t : NetworkType) : List Network := s.networks.filter (·.type == t)
def programs : List Network := s.ofType .main ++ s.subprograms
def invoked : List Network := n.references.filterMap s.networkByIdentifier?

/-- Identifiers of all subprograms that a network needs, directly or through others, ascending;
`none` when subprograms invoke each other without end. -/
def neededBy? (s : Survey) : Nat -> Network -> Option (List String)
 | 0, _ => none
 | fuel + 1, n => do
  let deeper <- (s.invoked n).mapM (neededBy? s fuel)
  return sortedSet ((s.invoked n).filterMap (·.identifier) ++ deeper.flatten)

def needed? : Option (List String) := s.neededBy? (s.networks.length + 1) n

end Survey

end AnimationGraph
