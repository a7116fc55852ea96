import AnimationGraph.Run.Operations

/-! # Drawing surfaces

Whatever is drawn is recorded: every call on a surface, with the surface that it hands out, and every
attribute that is set on it.
-/

namespace AnimationGraph

def addEvent (id : LayoutId) (e : DrawEvent) : Act :=
 change fun w => { w with layouts := w.layouts.modify id.index (·.push e) }

namespace LayoutId

def call (l : LayoutId) (name : String) (pos : Values := []) (named : Fields := []) : Run LayoutId := do
 let inner <- newLayout
 addEvent l (.call name pos named inner)
 pure inner

variable (l : LayoutId) (name : String)

def put (pos : Values := []) (named : Fields := []) : Act := do
 let _ <- l.call name pos named

def set (v : Value) : Act := addEvent l (.assign name v)

def row (named : Fields := []) : Run LayoutId := l.call "row" [] named
def column (named : Fields := []) : Run LayoutId := l.call "column" [] named
def line : Run LayoutId := l.row aligned
def stack : Run LayoutId := l.column aligned
def box : Run LayoutId := l.call "box"
def label (named : Fields) : Act := l.put "label" [] named
def write (text : Value) : Act := l.label [("text", text)]
def sign (text icon : Value) : Act := l.label (badge text icon)
def separator : Act := l.put "separator"
def prop (owner : Value) (name : String) (named : Fields := []) : Act := l.put "prop" [owner, name] named
def operator (id : String) (named : Fields := []) : Run LayoutId := l.call "operator" [id] named
def press (id : String) (named : Fields := []) : Act := l.put "operator" [id] named
def menu (id : String) (named : Fields := []) : Act := l.put "menu" [id] named

end LayoutId

def layoutOf (v : Value) : Run LayoutId := do
 let .layout l := v | fail .attr
 pure l

inductive Storage where
 | asGiven | fraction | fractions | items
 /-- A group of properties of this kind, made when it is first asked for. -/
 | group (kind : String)
 | groups (kind : String)
 deriving DecidableEq

structure Property (σ : Type := NodeId) where
 name : String
 storage : Storage := .asGiven
 default : Value := .none
 onUpdate : σ -> Act := fun _ => pure ()
 compute : Option (σ -> Eval) := none
 assign : Option (σ -> Value -> Act) := none
 choose : Option (σ -> Eval) := none

structure Parameter where
 name : String
 default : Option Value := none

instance : Coe String Parameter := ⟨fun s => ⟨s, none⟩⟩
def opt (name : String) (d : Value) : Parameter := ⟨name, some d⟩

/-- The name of a member and its parameters. In a text they are divided by blanks, and a mark follows a parameter that
need not be given. -/
structure Signature where
 name : String
 params : List Parameter

instance : Coe String Signature := ⟨fun s =>
 let ps := Letters.words s
 ⟨ps.headD s, ps.tail.map fun (p : String) => if p.toList.getLast? == some '?' then opt (.ofList p.toList.dropLast) .none else p⟩⟩

/-- The values of parameters, which are asked for by position. -/
structure Bound where
 toList : Values

instance : CoeFun Bound fun _ => Nat -> Value := ⟨fun b i => b.toList[i]?.getD .none⟩

def bindArgs (ps : List Parameter) (args : Args) : Run Bound := do
 if args.pos.length > ps.length then fail .type
 let ps := ps.drop args.pos.length
 unless args.named.all fun (name, _) => ps.any (·.name == name) do fail .type
 return ⟨args.pos ++ (<- ps.mapM fun p => need .type (args.named.get? p.name <|> p.default))⟩

inductive Member (σ : Type) where
 | method (params : List Parameter) (body : σ -> Bound -> Eval)
 /-- A method that takes its arguments as they come. -/
 | free (body : σ -> Args -> Eval)
 | prop (get : σ -> Eval)
 | constant (v : Value)

abbrev Feature (σ : Type := NodeId) := String × Member σ
abbrev Members (σ : Type := NodeId) := List (Feature σ)

def Members.lookup? {σ : Type} (ms : Members σ) (name : String) : Option (Member σ) :=
 (ms.find? (·.1 == name)).map (·.2)

section Builders
variable {σ : Type}

variable (sig : Signature)

def method (body : σ -> Bound -> Eval) : Feature σ := (sig.name, .method sig.params body)
def action (body : σ -> Bound -> Act) : Feature σ := method sig fun s b => do body s b; pure .none
def idle : Feature σ := action sig fun _ _ => pure ()
def fn0 (body : σ -> Eval) : Feature σ := method sig fun s _ => body s
def fn1 (body : σ -> Value -> Eval) : Feature σ := method sig fun s b => body s (b 0)
def fn2 (body : σ -> Value -> Value -> Eval) : Feature σ := method sig fun s b => body s (b 0) (b 1)
def fn3 (body : σ -> Value -> Value -> Value -> Eval) : Feature σ := method sig fun s b => body s (b 0) (b 1) (b 2)

def fn4 (body : σ -> Value -> Value -> Value -> Value -> Eval) : Feature σ :=
 method sig fun s b => body s (b 0) (b 1) (b 2) (b 3)

def act0 (body : σ -> Act) : Feature σ := action sig fun s _ => body s
def act1 (body : σ -> Value -> Act) : Feature σ := action sig fun s b => body s (b 0)
def act2 (body : σ -> Value -> Value -> Act) : Feature σ := action sig fun s b => body s (b 0) (b 1)
def act3 (body : σ -> Value -> Value -> Value -> Act) : Feature σ := action sig fun s b => body s (b 0) (b 1) (b 2)

def act4 (body : σ -> Value -> Value -> Value -> Value -> Act) : Feature σ :=
 action sig fun s b => body s (b 0) (b 1) (b 2) (b 3)

variable (name : String)

variable (body : σ -> LayoutId -> Act)

def drawing : Feature σ := act1 s!"{name} layout" fun s l => do body s (<- layoutOf l)
def draws : Feature σ := drawing "draw" body
def drawsMore : Feature σ := drawing "drawAdvanced" body
def drawsColumn : Feature σ := draws fun s l => do body s (<- l.column)
def drawsRow : Feature σ := draws fun s l => do body s (<- l.line)
def labels : (σ -> Eval) -> Feature σ := fn0 "drawLabel"
def code0 (body : σ -> Run (Array String)) : Feature σ := fn0 name fun s => do textList (<- body s).toList

def codeFor (body : σ -> Value -> Run (Array String)) : Feature σ :=
 fn1 s!"{name} required" fun s req => do textList (<- body s req).toList

def code : (σ -> Value -> Run (Array String)) -> Feature σ := codeFor "getExecutionCode"
abbrev Writing := StateT (Array String) Run
def emit (line : String) : Writing Unit := modify (·.push line)
def emits (ls : Array String) : Writing Unit := modify (· ++ ls)
def Writing.lines (w : Writing Unit) : Run (Array String) := return (<- w.run #[]).2
def writes0 (body : σ -> Writing Unit) : Feature σ := code0 name fun s => (body s).lines
def writesFor (body : σ -> Value -> Writing Unit) : Feature σ := codeFor name fun s req => Writing.lines (body s req)
def writes : (σ -> Value -> Writing Unit) -> Feature σ := writesFor "getExecutionCode"

def writes2 (body : σ -> Value -> Value -> Writing Unit) : Feature σ :=
 fn2 sig fun s v w => do textList (<- Writing.lines (body s v w)).toList

def prop (get : σ -> Eval) : Feature σ := (name, .prop get)
def constant (v : Value) : Feature σ := (name, .constant v)

end Builders

section Properties
variable {σ : Type}

def quiet (_ : σ) : Act := pure ()

variable (name kind : String)

def flag (default : Bool := false) (onUpdate : σ -> Act := quiet) : Property σ := { name, default, onUpdate }
def whole (default : Int := 0) (onUpdate : σ -> Act := quiet) : Property σ := { name, default, onUpdate }

def fraction (default : Float := 0.0) (onUpdate : σ -> Act := quiet) : Property σ :=
 { name, storage := .fraction, default, onUpdate }

def words (default : String := "") (onUpdate : σ -> Act := quiet) : Property σ := { name, default, onUpdate }
def choice (default : String) (onUpdate : σ -> Act := quiet) : Property σ := { name, default, onUpdate }

def openChoice (first : σ -> Eval) (onUpdate : σ -> Act := quiet) : Property σ :=
 { name, choose := some first, onUpdate }

def fractions (default : List Float) (onUpdate : σ -> Act := quiet) : Property σ :=
 { name, storage := .fractions, default := .tuple (default.map .float), onUpdate }

def flags (default : List Bool) (onUpdate : σ -> Act := quiet) : Property σ :=
 { name, storage := .items, default := .tuple (default.map .bool), onUpdate }

def wholes (default : List Int) (onUpdate : σ -> Act := quiet) : Property σ :=
 { name, storage := .items, default := .tuple (default.map .int), onUpdate }

def block (onUpdate : σ -> Act := quiet) : Property σ := { name, onUpdate }

def accessor (compute : σ -> Eval) (assign : σ -> Value -> Act) : Property σ :=
 { name, compute := some compute, assign := some assign }

def groupOf : Property σ := { name, storage := .group kind }
def groupsOf : Property σ := { name, storage := .groups kind }

end Properties

structure NodeKind where
 label : String
 id : String := "an_" ++ camelCase label ++ "Node"
 options : Texts := []
 labelMode : String := "NONE"
 /-- How errors reach the user: "CUSTOM", "MESSAGE" or "EXCEPTION". -/
 errorMode : String := "CUSTOM"
 vectorized : Bool := false
 searchTags : List (String × Pairs) := []
 onlySearchTags : Bool := false
 props : List Property := []
 create : NodeId -> Act := fun _ => pure ()
 /-- Whether `create` makes all sockets anew. -/
 remade : Bool := true
 members : Members := []

namespace NodeKind

variable (label : String) (props : List Property) (create : ReaderT NodeId Run Unit) (members : Members)

/-- A kind by its label, its properties, what makes its sockets, and what it can do. -/
def of : NodeKind := { label, props, create, members }

/-- A kind of which failures are shown as exceptions. -/
def risky : NodeKind := { of label props create members with errorMode := "EXCEPTION" }

/-- A kind that takes lists in the place of single values as well. -/
def lifted : NodeKind := { of label props create members with vectorized := true }

/-- A kind whose sockets users make. -/
def edited : NodeKind := { label, props, members, remade := false }

def called (name : String) (k : NodeKind) : NodeKind := { k with id := s!"an_{name}Node" }
def found (searchTags : List (String × Pairs)) (k : NodeKind) : NodeKind := { k with searchTags }

variable (k : NodeKind)

def onlyFound : NodeKind := { k with onlySearchTags := true }
def hiddenLabel : NodeKind := { k with labelMode := "HIDDEN_ONLY" }
def alwaysLabel : NodeKind := { k with labelMode := "ALWAYS" }
def telling : NodeKind := { k with errorMode := "MESSAGE" }

end NodeKind

structure SocketKind where
 dataType : String
 props : List (Property SocketId) := []
 members : Members SocketId := []
 default : Eval := fail .notImplemented
 /-- A value of this type for any value, with 0 if it was right, 1 if it could be made right, and 2
 if the default had to be taken. -/
 correct : Value -> Run (Value × Nat) := fun _ => fail .notImplemented

/-- A kind of property groups, data blocks or instances. -/
structure RecordKind where
 name : String
 /-- How instances are made, if scripts can make them. -/
 construct : Option (Args -> Eval) := none
 statics : Members Unit := []
 props : List (Property CellId) := []
 members : Members CellId := []

end AnimationGraph
