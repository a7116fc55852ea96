import AnimationGraph.Text.Letters

/-! # Failures

A step of a session can fail.
-/

namespace AnimationGraph

inductive Cause where
 /-- A failure reported by this library itself. -/
 | general
 | attr | key | index | type | value | name | zeroDivision | overflow | notImplemented
 | malformed | assertion | recursion | missingModule | missingFile | endOfIteration
 /-- The answer would have to come from a numeric kernel. -/
 | unavailable
 /-- There is no such node, socket, operation or kind. -/
 | lookup
 | truncated
 | notSetUp
 /-- A node stopped with an error message for its user. -/
 | controlled
 | host (name : String)
 | exhausted
 deriving DecidableEq

def Cause.label : Cause -> String
 | .general => "Exception"
 | .attr => "AttributeError"
 | .key => "KeyError"
 | .index => "IndexError"
 | .type => "TypeError"
 | .value => "ValueError"
 | .name => "NameError"
 | .zeroDivision => "ZeroDivisionError"
 | .overflow => "OverflowError"
 | .notImplemented => "NotImplementedError"
 | .malformed => "SyntaxError"
 | .assertion => "AssertionError"
 | .recursion => "RecursionError"
 | .missingModule => "ModuleNotFoundError"
 | .missingFile => "FileNotFoundError"
 | .endOfIteration => "StopIteration"
 | .unavailable => "Unavailable"
 | .lookup => "LookupError"
 | .truncated => "struct.error"
 | .notSetUp => "ExecutionUnitNotSetup"
 | .controlled => "ControlledExecutionException"
 | .host given => given
 | .exhausted => "RecursionError"

/-- A cause, with a message if this library words one. The detail is what a failure without a message
says about itself. -/
structure Failure where
 cause : Cause
 message : Option String := none
 detail : String := ""

def Failure.text (f : Failure) : String := f.message.getD f.detail

structure CellId where
 index : Nat
 deriving DecidableEq

structure TreeId where
 index : Nat
 deriving DecidableEq, Inhabited

/-- Name of a node, kept for as long as the session lasts. -/
structure NodeId where
 index : Nat
 deriving DecidableEq, Inhabited

/-- Name of a socket, kept for as long as the session lasts. -/
structure SocketId where
 index : Nat
 deriving DecidableEq, Inhabited

structure LinkId where
 index : Nat
 deriving DecidableEq

structure LayoutId where
 index : Nat
 deriving DecidableEq

inductive Side where
 | input | output
 deriving DecidableEq, Inhabited

inductive Value where
 | none
 | bool (b : Bool)
 | int (i : Int)
 | float (x : Float)
 | str (s : String)
 | bytes (data : List UInt8)
 | tuple (items : List Value)
 | cell (id : CellId)
 | tree (id : TreeId)
 | node (id : NodeId)
 | socket (id : SocketId)
 | link (id : LinkId)
 | sockets (owner : NodeId) (side : Side)
 | nodesOf (tree : TreeId)
 | linksOf (tree : TreeId)
 | layout (id : LayoutId)
 /-- A part of a drawing surface that is reached by attribute names, not by a call. -/
 | layoutPart (id : LayoutId) (path : String)
 /-- The result of a numeric kernel: what was called, with which arguments. Nothing else is known. -/
 | kernel (name : String) (args : List Value) (named : List (String × Value))
 | kind (name : String)
 /-- An operation known by name, with the arguments it holds already. -/
 | operation (name : String) (held : List Value)
 | member (owner : Value) (name : String)
 | space (path : String)

abbrev Values := List Value
abbrev Fields := List (String × Value)

namespace Fields

variable (fields : Fields) (name : String)

def get? : Option Value := (fields.find? (·.1 == name)).map (·.2)

def set : Fields -> String -> Value -> Fields
 | [], name, v => [(name, v)]
 | (n, old) :: rest, name, v => if n == name then (n, v) :: rest else (n, old) :: set rest name v

def setAll (us : Fields) : Fields := us.foldl (fun fs e => fs.set e.1 e.2) fields
def setEach (ns : List String) (v : Value) : Fields := ns.foldl (·.set · v) fields
def erase : Fields := fields.filter (·.1 != name)
def has : Bool := fields.any (·.1 == name)

end Fields

instance : Coe Bool Value := ⟨.bool⟩
instance : Coe Int Value := ⟨.int⟩
instance : Coe Nat Value := ⟨fun n => .int n⟩
instance : Coe Float Value := ⟨.float⟩
instance : Coe String Value := ⟨.str⟩
instance : Coe CellId Value := ⟨.cell⟩
instance : Coe TreeId Value := ⟨.tree⟩
instance : Coe NodeId Value := ⟨.node⟩
instance : Coe SocketId Value := ⟨.socket⟩
instance : Coe LinkId Value := ⟨.link⟩
instance : Coe LayoutId Value := ⟨.layout⟩
instance (n : Nat) : OfNat Value n := ⟨n⟩
instance : OfScientific Value := ⟨fun m s e => .float (Float.ofScientific m s e)⟩
instance : Neg Value := ⟨fun
 | .int i => .int (-i)
 | .float x => .float (-x)
 | v => v⟩

namespace Value

variable (v : Value)

def is (text : String) : Bool :=
 match v with
 | .str s => s == text
 | _ => false

def isOneOf (texts : Texts) : Bool :=
 match v with
 | .str s => texts.contains s
 | _ => false

def isNone : Value -> Bool
 | .none => true
 | _ => false

def isSome : Bool := !v.isNone

def text? : Value -> Option String
 | .str s => some s
 | _ => .none

def word : String := v.text?.getD ""

end Value

structure Args where
 pos : Values := []
 named : Fields := []

/-- How to reckon with numbers. A step may fail or have other effects of its own. -/
class Reckoning (m : Type -> Type) (α : Type) where
 refuse {β : Type} : Cause -> m β
 whole : Nat -> α
 nought : α
 (add sub mul div : α -> α -> m α)
 /-- What is left without the places behind the point. -/
 wholePart : α -> m Int
 (less atMost greater atLeast same : α -> α -> m Bool)

namespace Reckoning

variable {m : Type -> Type} {α : Type} [Monad m] [Reckoning m α]

def lesser (a b : α) : m α := do
 if <- less b a then return b
 pure a

def greatest (first : α) (rest : List α) : m α :=
 rest.foldlM (fun best x => return if <- greater x best then x else best) first

end Reckoning

/-- A text alone is a label. -/
instance : Coe String Fields := ⟨fun s => [("text", s)]⟩

def bare : Fields := [("text", "")]
def badge (text icon : Value) : Fields := [("text", text), ("icon", icon)]
def aligned : Fields := [("align", true)]

end AnimationGraph
