import AnimationGraph.Files.Store
import AnimationGraph.Forest.Network
import AnimationGraph.Script.Tree
import AnimationGraph.Code.Effect

/-! # The world that a session runs in

Forests of nodes, keys that are stored with data blocks under a type and a name, and all cells.
-/

namespace AnimationGraph

structure Socket where
 owner : NodeId
 side : Side
 kind : String
 (name identifier : String)
 /-- Stored properties and attributes. -/
 fields : Fields := []
 custom : Fields := []
 deriving Inhabited

structure Node where
 tree : TreeId
 kind : String
 name : String
 (inputs outputs : Array SocketId := #[])
 (fields custom : Fields := [])
 deriving Inhabited

structure Link where
 tree : TreeId
 (origin target : SocketId)
 deriving Inhabited

structure Tree where
 name : String
 nodes : Array NodeId := #[]
 links : Array LinkId := #[]
 (fields custom : Fields := [])
 deriving Inhabited

/-- All trees of a session, with everything they have ever contained. -/
structure Forest where
 /-- The trees that exist, in order. -/
 present : Array TreeId := #[]
 trees : Array Tree := #[]
 nodes : Array Node := #[]
 sockets : Array Socket := #[]
 links : Array Link := #[]

namespace Forest

variable (f : Forest)

def tree (id : TreeId) : Tree := f.trees[id.index]?.getD default
variable (id : NodeId) (name : String) (s : SocketId) (t : TreeId)

def node : Node := f.nodes[id.index]?.getD default
def socket (id : SocketId) : Socket := f.sockets[id.index]?.getD default
def link (id : LinkId) : Link := f.links[id.index]?.getD default

def modifyTree (id : TreeId) (g : Tree -> Tree) : Forest := { f with trees := f.trees.modify id.index g }
def modifyNode (g : Node -> Node) : Forest := { f with nodes := f.nodes.modify id.index g }
def modifySocket (id : SocketId) (g : Socket -> Socket) : Forest := { f with sockets := f.sockets.modify id.index g }

def side : Side -> Array SocketId
 | .input => (f.node id).inputs
 | .output => (f.node id).outputs

def Node.setSide (n : Node) (s : Side) (ss : Array SocketId) : Node :=
 match s with
 | .input => { n with inputs := ss }
 | .output => { n with outputs := ss }

def allNodes : Array NodeId := f.present.flatMap fun t => (f.tree t).nodes
def findTree? : Option TreeId := f.present.find? fun t => (f.tree t).name == name
def nodeOfTree? (name : String) : Option NodeId := (f.tree t).nodes.find? fun n => (f.node n).name == name

def socketByIdentifier? (ss : Array SocketId) (id : String) :
  Option SocketId :=
 ss.find? fun s => (f.socket s).identifier == id

def touches (l : LinkId) : Bool :=
 let link := f.link l
 link.origin == s || link.target == s

def linksOfSocket : Array LinkId :=
 let t := (f.node (f.socket s).owner).tree
 (f.tree t).links.filter (f.touches s)

def dropLinks (s : SocketId) : Forest :=
 f.modifyTree t fun tree => { tree with links := tree.links.filter (!f.touches s ·) }

/-- A text that none of the others equals: the text itself, or the text with a number of at least
three digits behind a point. -/
def freshName (taken : String -> Bool) (base : String) (bound : Nat) : String :=
 if !taken base then base
 else
  let numbered (i : Nat) :=
   let ds := toString i
   base ++ "." ++ .ofList (.replicate (3 - ds.length) '0') ++ ds
  let candidates := (List.range (bound + 1)).map fun i => numbered (i + 1)
  (candidates.find? (!taken ·)).getD base

end Forest

/-! ## Editing forests

Adding, removing and moving trees, nodes, sockets and links. -/

namespace Forest

variable (f : Forest)

def addTree (name : String) : TreeId × Forest :=
 let taken (s : String) := (f.findTree? s).isSome
 let id : TreeId := ⟨f.trees.size⟩
 let tree : Tree := { name := freshName taken name f.present.size }
 (id, { f with present := f.present.push id, trees := f.trees.push tree })

variable (t : TreeId)

def nodeName (label : String) : String := freshName (fun s => (f.nodeOfTree? t s).isSome) label (f.tree t).nodes.size

def addNode (kind label : String) : NodeId × Forest :=
 let id : NodeId := ⟨f.nodes.size⟩
 let node : Node := { tree := t, kind, name := f.nodeName t label }
 let f := { f with nodes := f.nodes.push node }
 (id, f.modifyTree t fun tree => { tree with nodes := tree.nodes.push id })

variable (n : NodeId)

def removeNode : Forest :=
 let node := f.node n
 let f := (node.inputs ++ node.outputs).foldl (fun f s => f.dropLinks node.tree s) f
 f.modifyTree node.tree fun tree => { tree with nodes := tree.nodes.filter (· != n) }

variable (side : Side) (s : SocketId)

/-- Add a socket at the end of a side, under an identifier that is new there. -/
def addSocket (kind name identifier : String) :
  SocketId × Forest :=
 let present := f.side n side
 let taken (s : String) := (f.socketByIdentifier? present s).isSome
 let id : SocketId := ⟨f.sockets.size⟩
 let k : Socket :=
  { owner := n, side, kind, name := name
    identifier := freshName taken identifier present.size }
 let f := { f with sockets := f.sockets.push k }
 (id, f.modifyNode n (Node.setSide · side (present.push id)))

/-- The sockets on the side of a socket, in their order. -/
def siblings : Array SocketId := f.side (f.socket s).owner (f.socket s).side

def arrange (ss : Array SocketId) : Forest := f.modifyNode (f.socket s).owner (Node.setSide · (f.socket s).side ss)

def removeSocket : Forest :=
 let f := f.dropLinks (f.node (f.socket s).owner).tree s
 f.arrange s ((f.siblings s).filter (· != s))

def clearSide : Forest := (f.side n side).foldl removeSocket f

def moved {α : Type} (xs : List α) (src t : Nat) : List α :=
 (xs[src]?.map ((xs.eraseIdx src).insertIdx t)).getD xs

def moveSocket (src t : Nat) : Forest :=
 let ss := (moved (f.side n side).toList src t).toArray
 f.modifyNode n (Node.setSide · side ss)

def linksInto (dest : SocketId) : Array LinkId := (f.tree t).links.filter fun l => (f.link l).target == dest

def removeLink (l : LinkId) : Forest :=
 f.modifyTree (f.link l).tree fun tree => { tree with links := tree.links.filter (· != l) }

/-- Link two sockets, in place of other links to the same input. -/
def addLink (origin target : SocketId) : LinkId × Forest :=
 let f := (f.linksInto t target).foldl removeLink f
 let id : LinkId := ⟨f.links.size⟩
 let f := { f with links := f.links.push { tree := t, origin, target } }
 (id, f.modifyTree t fun tree => { tree with links := tree.links.push id })

def indexOf? : Option Nat := (f.siblings s).findIdx? (· == s)

end Forest

structure IdKey where
 (type name : String)
 deriving DecidableEq

namespace IdKey

def types : Texts := ["Transforms", "Text", "Integer", "Float"]
def usual : List IdKey := [⟨"Transforms", "Initial Transforms"⟩, ⟨"Integer", "Index"⟩]
def property (key : IdKey) : String := s!"AN*{key.type}*{key.name}"

def ofProperty? (prop : String) : Option IdKey :=
 match (prop.toList.splitOn '*').map .ofList with
 | ["AN", type, name] | ["AN", type, _, name] => if types.contains type then some ⟨type, name⟩ else none
 | _ => none

def nameFault? (name : String) : Option String :=
 if name.contains '*' then some "'*' must not be in the property name"
 else if name.isEmpty then some "property name must not be empty"
 else none

def inOrder (keys : List IdKey) : List IdKey :=
 keys.eraseDups.mergeSort fun a b => a.type < b.type || (a.type == b.type && !(b.name < a.name))

end IdKey

structure KeyRegistry where
 (inFile fixed created hidden : List IdKey := [])
 /-- Whether data blocks give access to their keys. -/
 onBlocks : Bool := false

namespace KeyRegistry

variable (r : KeyRegistry)

def refresh (blocks ofNodes : List IdKey) : KeyRegistry :=
 let found := IdKey.inOrder (blocks ++ r.created ++ ofNodes)
 { r with
   inFile := IdKey.usual ++ found.filter (!IdKey.usual.contains ·)
   fixed := IdKey.inOrder (ofNodes ++ IdKey.usual) }

variable (key : IdKey)

def create : KeyRegistry := { r with created := if r.created.contains key then r.created else r.created ++ [key] }
def forget : KeyRegistry := { r with created := r.created.filter (· != key) }

def toggle : KeyRegistry :=
 { r with hidden := if r.hidden.contains key then r.hidden.filter (· != key) else r.hidden ++ [key] }

end KeyRegistry

/-- Short sequences of numbers with names for their components. -/
inductive Shape where
 | vector
 | euler (order : String)
 | quaternion | color
 deriving DecidableEq

inductive Origin where
 | block | group | inst | struct | host
 deriving DecidableEq

structure Record where
 kind : String
 origin : Origin
 (fields custom : Fields := [])
 customised : Bool := false
 recorded : Texts := []

inductive SequenceKind where
 | named | attributed
 | data (collection : String)
 | groups (kind : String)
 deriving DecidableEq

structure Sequence where
 kind : SequenceKind
 items : Array Value := #[]
 fields : Fields := []
 recorded : Texts := []

inductive Cell where
 | list (items : Array Value)
 | dict (entries : Array (Value × Value))
 | set (items : Array Value)
 | numbers (shape : Shape) (items : Array Value)
 /-- Named elements of several data types. -/
 | struct (entries : Array ((String × String) × Value))
 | record (r : Record)
 | sequence (s : Sequence)
 /-- Elements still to come, over and over again if it is cyclic. -/
 | iterator (items : Array Value) (next : Nat) (cyclic : Bool)
 | numeric (items : Array Value)
 /-- An operation that is recorded and answers one value after the other, the last repeatedly. -/
 | answers (name : String) (values : Array Value) (next : Nat)

inductive DrawEvent where
 | call (name : String) (args : Values) (named : Fields) (inner : LayoutId)
 | assign (name : String) (value : Value)

inductive LogEntry where
 | call (name : String) (args : List Json) (named : JsonFields)
 | kernel (name : String) (args : List Json) (named : JsonFields)
 | popup (layout : LayoutId) (named : JsonFields)

structure SocketNames where
 (name identifier : String)
 settings : Fields := []

instance : Coe (String × String) SocketNames := ⟨fun (name, identifier) => { name, identifier }⟩

/-- The words of a text in one, each with a capital letter. -/
def camelCase (s : String) : String := .join ((s.splitOn " ").map .capitalize)

instance : Coe String SocketNames where
 coe name := { name, identifier := (camelCase name).decapitalize }

def SocketNames.plural (s : SocketNames) : SocketNames := (s.name ++ "s", s.identifier ++ "s")

structure Vectorized where
 dataType : String
 props : Texts
 (base list : SocketNames)
 extends? : Bool := true
 default? : Option String := none

inductive TypeLevel where
 | base | list

inductive Template where
 | vectorized (v : Vectorized)
 | listType (socket : SocketNames) (level : TypeLevel) (property : String) (propertyLevel : TypeLevel)
 | dataType (name identifier property : String) (ignored : Texts)

/-- What is known of a socket for as long as it is not created anew. -/
structure SocketNote where
 identifiers : Texts := []
 template : Option Template := none

structure SocketMemory where
 (hide isUsed : Value)
 linkedWith : List SocketKey

/-- What is known of a node beside its properties; it is not saved. -/
structure NodeNotes where
 (inputs outputs : List (String × SocketNote) := [])
 effects : List CodeChange := []
 errorMessage : Value := .none
 showErrorMessage : Value := .bool true
 props : List ((Side × String × String) × Value) := []
 memories : List ((Side × String) × SocketMemory) := []

inductive Problem where
 | linkRecursion | invalidNetworks | identifierTwice | linkedTree
 | undefinedNodes (nodes : List NodeKey)
 | notInSubprogram (node : String)
 | notInAutoExecution (node : String)
 | noExecution (node : String)
 | codeCreation
 | nodeCode (node : String)
 | malformedScript | unitSetup | execution
 | nodeExecution (node : String)

inductive UnitState where
 | idle
 /-- Ready to run; subprograms hold the function to call. -/
 | ready (entry : Value)

structure ExecutionUnit where
 network : Network
 analysis : Nat := 0
 (setupScript executeScript : String := "")
 (setupCode executeCode : Option (List Script.Stmt) := none)
 data : Option CellId := none
 state : UnitState := .idle

structure Raised where
 (tree file addon property rendering : Bool := false)

structure World where
 cells : Array Cell := #[]
 forest : Forest := {}
 layouts : Array (Array DrawEvent) := #[]
 functions : Array Script.Function := #[]
 survey : Survey := {}
 stale : Bool := true
 analyses : Nat := 0
 /-- Types that may be linked, as far as links have been checked. -/
 approved : Pairs := []
 notes : List (String × NodeNotes) := []
 problems : List Problem := []
 units : List ExecutionUnit := []
 raised : Raised := {}
 /-- Functions that react to events, beside those of the library. -/
 handlers : Fields := []
 /-- How often callbacks of the host are registered. -/
 listening : Nat := 0
 /-- The library has been loaded, and nobody knows it yet. -/
 loaded : Bool := false
 /-- Subprograms have got other inputs or outputs. -/
 interfaceChanged : Bool := false
 knownNames : Option Texts := none
 random : Nat := 1
 log : Array LogEntry := #[]
 printed : Array String := #[]
 handedOut : Array LayoutId := #[]
 guarded : Texts := []
 /-- Viewer values in order of execution. -/
 shown : Array (String × Json) := #[]
 describedOperators : Pairs := []
 pendingDescriptions : Texts := []
 /-- Tables of single features, by name. -/
 registers : Fields := []
 keys : KeyRegistry := {}
 kernelFacts : Option JsonFields := none
 values : JsonFields := []
 labels : Fields := []
 files : FileStore := {}
 (context preferences : CellId := ⟨0⟩)
 collections : List (String × CellId) := []
 /-- Attributes that new data blocks of a class get, one list after the other. -/
 defaults : List (String × List JsonFields) := []

end AnimationGraph
