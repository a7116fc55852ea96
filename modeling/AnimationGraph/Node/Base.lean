import AnimationGraph.Forest.Survey
import AnimationGraph.Node.Kind

/-! # Socket templates

A socket that follows a template takes the type of what is linked to it.
-/

namespace AnimationGraph

structure Demand where
 /-- New values in the order in which they were first demanded. -/
 updates : Fields := []
 fixed : Texts := []

/-- Properties that are to get a value, for good or until something else is asked for. -/
structure Request where
 props : Texts
 value : Value
 fixes : Bool := true

namespace Demand

variable (d : Demand)

def isOn (name : String) : Bool :=
 match d.updates.get? name with
 | some (.bool b) => b
 | some (.str s) => !s.isEmpty
 | _ => false

/-- The property is fixed, and its value counts as true or as false. -/
def settled (on : Bool) (name : String) : Bool := d.fixed.contains name && d.isOn name == on

def add (r : Request) : Demand :=
 let new := r.props.filter (!d.fixed.contains ·)
 { updates := d.updates.setEach new r.value, fixed := if r.fixes then d.fixed ++ new else d.fixed }

end Demand

def admits (t o : String) : Bool := ((typeTables.inputTypes? t).getD []).contains o

namespace Vectorized

variable (v : Vectorized) (isInput : Bool) (type : String)

def listType : String := ((socketTypes.listOf? v.dataType).map (·.name)).getD ""

/-- Whether a type that is linked to the socket asks for lists, if the type fits. -/
def asList? : Option Bool :=
 let fits (own : String) := if isInput then admits own type else (typeTables.targetTypes own).contains type
 if fits v.listType then some true else if fits v.dataType then some false else none

/-- An input takes lists if all its properties are on, an output gives lists if one of them is. -/
def request? (d : Demand) : Option Request := do
 let on <- v.asList? isInput type
 if isInput == on then if v.props.any (d.settled !on) then none else some ⟨v.props, on, true⟩
 else
  (if on then (v.props.find? d.isOn).or (v.props.find? (!d.fixed.contains ·)) else v.props.find? (!d.settled true ·)).map
   (⟨[·], on, true⟩)

end Vectorized

namespace TypeLevel

def admits (level : TypeLevel) (type : String) : Bool :=
 match level with
 | .base => socketTypes.isBase type
 | .list => socketTypes.isList type

def convert? (src t : TypeLevel) (type : String) : Option String :=
 match src, t with
 | .list, .base => (socketTypes.elementOf? type).map (·.name)
 | .base, .list => (socketTypes.listOf? type).map (·.name)
 | _, _ => some type

end TypeLevel

namespace Template

def related : Template -> Texts
 | .vectorized v => v.props
 | .listType _ _ prop _ => [prop]
 | .dataType _ _ prop _ => [prop]

def identifiers : Template -> Texts
 | .vectorized v => if v.base.identifier == v.list.identifier then [v.base.identifier]
   else [v.base.identifier, v.list.identifier]
 | .listType s _ _ _ => [s.identifier]
 | .dataType _ id _ _ => [id]

/-- The type that a template goes by, among those of the sockets linked to it. -/
def type? (t : Template) (linked : Texts) : Option String :=
 linked.find? fun type => match t with
  | .vectorized _ => type != "Generic" && type != "Generic List"
  | .listType .. => type != "Generic"
  | .dataType _ _ _ ignored => type != "Node Control" && !ignored.contains type

/-- The type that the property of a selector gets for a linked type. -/
def own? : Template -> String -> Option String
 | .listType _ level _ own, type => if level.admits type then level.convert? own type else none
 | _, type => some type

def request? (t : Template) (isInput : Bool) (linked : Texts) (d : Demand) : Option Request :=
 match t, t.type? linked with
 | .vectorized v, none => some ⟨v.props, false, false⟩
 | .vectorized v, some type => v.request? isInput type d
 | t, some type => (t.own? type).map (⟨t.related, .str ·, true⟩)
 | _, none => none

end Template

/-- A socket that follows a template, with the types of what is linked to it. -/
structure Wish where
 template : Template
 isInput : Bool
 linked : Texts

def Wish.collect (d : Demand) (x : Wish) : Demand :=
 if x.template.related.all d.fixed.contains then d
 else match x.template.request? x.isInput x.linked d with
  | some r => d.add r
  | none => d

def demandOf (ws : List Wish) : Demand := ws.foldl Wish.collect {}

def guarded (name : String) (x : Act) : Act := do
 unless (<- look (·.guarded)).contains name do
  change fun w => { w with guarded := name :: w.guarded }
  x
  change fun w => { w with guarded := w.guarded.erase name }

inductive PathStep where
 | attr (name : String)
 | item (key : Value)

variable (v : Value) (path name : String)

def pathSteps : List PathStep :=
 let rec go : Nat -> Chars -> List PathStep
  | 0, _ => []
  | _, [] => []
  | fuel + 1, '[' :: rest =>
   let inner := rest.takeWhile (· != ']')
   let key : Value := match inner with
    | q :: cs => if q == '"' || q == '\'' then .str (String.ofList cs.dropLast)
     else (String.ofList inner).toInt?.elim (.str (String.ofList inner)) .int
    | [] => .none
   .item key :: go fuel ((rest.dropWhile (· != ']')).drop 1)
  | fuel + 1, '.' :: rest => go fuel rest
  | fuel + 1, cs =>
   let name := cs.takeWhile fun c => c != '.' && c != '['
   .attr (String.ofList name) :: go fuel (cs.drop name.length)
 go (path.length + 1) path.toList

def follow : PathStep -> Eval
 | .attr name => v.attr name
 | .item key => item v key

def getPath : Eval := (pathSteps path).foldlM follow v
def Value.at : Eval := getPath v path
def NodeId.at (n : NodeId) : Eval := getPath n path

def setPath (x : Value) : Act := do
 match (pathSteps path).reverse with
 | [] => fail .malformed
 | last :: pre =>
  let owner <- pre.reverse.foldlM follow v
  match last with
  | .attr name => owner.set name x
  | .item key => setItem owner key x

def callbackText (ps : List Value) : Run String := do return "#" ++ (<- literal (.tuple [name, .tuple ps]))
def openOperator (opts : Fields) : Act := record s!"ops.an.{name}" ["INVOKE_DEFAULT"] opts
def NodeKey.toValue (k : NodeKey) : Value := .tuple [k.tree, k.name]
def SocketKey.toValue (k : SocketKey) : Value := .tuple [k.node.toValue, k.isOutput, k.identifier]

def operatorFor (description : String) : Run String := do
 match <- look (·.describedOperators.lookup description) with
 | some id => return id
 | none =>
  change fun w => { w with pendingDescriptions := insertSorted description w.pendingDescriptions }
  return "an.invoke_function_0"

structure Button where
 text : String := ""
 icon : String := "NONE"
 description : String := ""
 emboss : Value := .bool true
 confirm : Value := .bool false
 data : Value := .none
 passEvent : Value := .bool false

def drawButton (l : LayoutId) (b : Button) (callback : String) : Act := do
 let props <- l.operator (<- operatorFor b.description) [("text", b.text), ("icon", b.icon), ("emboss", b.emboss)]
 props.set "callback" callback
 props.set "invokeWithData" b.data.isSome
 props.set "confirm" b.confirm
 props.set "data" (<- text b.data)
 props.set "passEvent" b.passEvent

def World.notesOf (w : World) (n : NodeId) : NodeNotes :=
 ((w.notes.find? (·.1 == (w.forest.node n).identifier)).map (·.2)).getD {}

namespace NodeId

def notes (n : NodeId) : Run NodeNotes := look (·.notesOf n)

def modifyNotes (n : NodeId) (f : NodeNotes -> NodeNotes) : Act :=
 change fun w =>
  let id := (w.forest.node n).identifier
  if w.notes.any (·.1 == id) then { w with notes := w.notes.map fun e => if e.1 == id then (id, f e.2) else e }
  else { w with notes := w.notes ++ [(id, f {})] }

end NodeId

namespace NodeNotes

variable (notes : NodeNotes) (side : Side) (id : String)

def sockets : Side -> List (String × SocketNote)
 | .input => notes.inputs
 | .output => notes.outputs

def socketNote : SocketNote := (((notes.sockets side).find? (·.1 == id)).map (·.2)).getD {}

def setSocketNote (note : SocketNote) : NodeNotes :=
 let ss := (notes.sockets side).filter (·.1 != id) ++ [(id, note)]
 match side with
 | .input => { notes with inputs := ss }
 | .output => { notes with outputs := ss }

def cleared : NodeNotes := { props := notes.props, memories := notes.memories }

end NodeNotes

def World.wishes (w : World) (n : NodeId) : List Wish :=
 ((w.forest.node n).inputs ++ (w.forest.node n).outputs).toList.filterMap fun s =>
  let k := w.socketKey s
  ((w.notesOf n).socketNote k.side k.identifier).template.map (⟨·, !k.isOutput, w.survey.tables.typesOfLinks k⟩)

def SocketId.identifiers (s : SocketId) : Run Texts := do
 let k <- look (·.forest.socket s)
 let note := (<- k.owner.notes).socketNote k.side k.identifier
 return if note.identifiers.contains k.identifier then note.identifiers
  else note.identifiers ++ [k.identifier]

def newSocket (n : NodeId) (side : Side) (kind name id : String) : Run SocketId := do
 let (s, f) <- look (·.forest.addSocket n side kind name id)
 change ({ · with forest := f })
 structureChanged
 return s

def socketKindOf (ty : String) : Run String := need .key (socketTypes.idNameOf? ty)

namespace SocketId

variable (s : SocketId)

def configure (opts : Fields) : Act := do for (name, v) in opts do s.set name v
def free : Act := changeForest (·.modifySocket s fun x => { x with fields := x.fields.erase "temporaryColor" })

def setTransparency (alpha : Float) : Act :=
 changeForest (·.modifySocket s fun x =>
  let c := ((socketTypes.types.find? (·.idName == x.kind)).map (·.color)).getD []
  { x with fields := x.fields.set "temporaryColor" (.tuple (c.take 3 ++ [.float alpha])) })

def linkIn (tree : TreeId) (other : SocketId) : Run LinkId := do
 let (o, t) := if <- s.isOutput then (s, other) else (other, s)
 let (l, f) <- look (·.forest.addLink tree o t)
 change ({ · with forest := f })
 structureChanged
 return l

def linkTo (other : SocketId) : Run LinkId := do s.linkIn (<- (<- s.owner).tree) other
def touched : Ask := look fun w => !(w.forest.linksOfSocket s).isEmpty

def removeLinks : Ask := do
 let links <- look (·.forest.linksOfSocket s)
 if links.isEmpty then return false
 changeForest (links.foldl Forest.removeLink ·)
 structureChanged
 return true

def getProperty : Eval := s.call "getProperty"
def setProperty (v : Value) : Act := s.tell "setProperty" [v]

end SocketId

namespace NodeId

def removeSocket (n : NodeId) (s : SocketId) : Act := do
 let prop := if <- s.isOutput then "activeOutputIndex" else "activeInputIndex"
 let active <- n.attr prop
 if <- less (<- s.place) active then n.set prop (<- sub active 1)
 changeForest (·.removeSocket s)
 structureChanged

def clearSide (n : NodeId) (side : Side) : Act := do
 for s in <- look (·.forest.side n side) do s.free
 changeForest (·.clearSide n side)
 structureChanged

def dropSockets (n : NodeId) : Act := do
 n.clearSide .input
 n.clearSide .output

variable (dataType : String) (s : SocketNames := dataType) (ss : List SocketNames) (opts : Fields := []) (n : NodeId)

section
variable (n : NodeId)

def newOn (side : Side) (name id : String) (opts : Fields) : Run SocketId := do
 let s <- newSocket n side (<- socketKindOf dataType) name id
 s.configure opts
 return s

def newInput (name id : String) (opts : Fields := []) : Run SocketId := n.newOn dataType .input name id opts
def newOutput (name id : String) (opts : Fields := []) : Run SocketId := n.newOn dataType .output name id opts

end

def takes : Act := do
 let _ <- n.newInput dataType s.name s.identifier opts

def gives : Act := do
 let _ <- n.newOutput dataType s.name s.identifier opts

def takesEach : Act := ss.forM (n.takes dataType · opts)
def givesEach : Act := ss.forM (n.gives dataType · opts)

variable (n : NodeId) (v : Vectorized) (t : Template) (side : Side)

def is (path : String) (n : NodeId) : Ask := do truthy (<- getPath n path)
def inputIsList : Ask := v.props.allM n.is
def outputIsList : Ask := v.props.anyM n.is
def newNamed (ns : SocketNames) : Run SocketId := n.newOn dataType side ns.name ns.identifier ns.settings

def newFromTemplate : Template -> Run SocketId
 | .vectorized v => do
  let isList <- if side == .input then n.inputIsList v else n.outputIsList v
  if isList then n.newNamed s!"{v.dataType} List" side v.list
  else
   let s <- n.newNamed v.dataType side v.base
   s.setTransparency 0.8
   return s
 | .listType ns level prop propertyLevel => do
  let .str type <- getPath n prop | fail .key
  n.newNamed (<- need .key (TypeLevel.convert? propertyLevel level type)) side ns
 | .dataType name id prop _ => do
  let .str type <- getPath n prop | fail .key
  newSocket n side (<- socketKindOf type) name id

def newTemplated (t : Template) (opts : Fields) : Run SocketId := do
 let s <- n.newFromTemplate side t
 n.modifyNotes (·.setSocketNote side (<- s.identifier) ⟨t.identifiers, some t⟩)
 s.configure opts
 return s

def followInput (opts : Fields := []) (n : NodeId) : Act := do
 let _ <- n.newTemplated .input t opts

def followOutput (opts : Fields := []) (n : NodeId) : Act := do
 let _ <- n.newTemplated .output t opts

end NodeId

export NodeId (takes gives takesEach givesEach followInput followOutput)

namespace NodeId

variable (n : NodeId)

def vectorEffect : Run CodeChange := do
 let notes <- n.notes
 let mut inputs : List VectorInput := []
 for (s, i) in (<- n.inputs).zipIdx do
  if let some (.vectorized v) := (notes.socketNote .input (<- s.identifier)).template then
   if <- n.inputIsList v then inputs := inputs ++ [⟨v.base.identifier, v.list.identifier, i, v.extends?, v.default?⟩]
 let mut outputs : List VectorOutput := []
 for (s, i) in (<- n.outputs).zipIdx do
  if let some (.vectorized v) := (notes.socketNote .output (<- s.identifier)).template then
   if <- n.outputIsList v then outputs := outputs ++ [⟨v.base.identifier, v.list.identifier, i⟩]
 return .vectorize inputs outputs

def canBeMadeAnew : Ask := (Value.node n).hasAttr "create"

def rememberState : Act := do
 for s in (<- n.inputs) ++ (<- n.outputs) do
  let key <- s.key
  let place := (key.side, key.identifier, <- s.dataType)
  let prop <- s.getProperty
  let linked <- look (·.survey.tables.directlyLinked key)
  let memory : SocketMemory := ⟨<- s "hide", <- s "isUsed", linked⟩
  let identifiers <- s.identifiers
  n.modifyNotes fun notes =>
   { notes with
     props := (notes.props.filter (·.1 != place)) ++ [(place, prop)]
     memories := identifiers.foldl
      (fun ms i => (ms.filter (·.1 != (key.side, i))) ++ [((key.side, i), memory)]) notes.memories }

def relink (s : SocketId) (k : SocketKey) : Act := attempt do
 let some other <- look (·.socketOf? k) | pure ()
 if k.isOutput || !(<- other.touched) then
  let _ <- s.linkTo other

def recallState : Act := do
 let notes <- n.notes
 for s in (<- n.inputs) ++ (<- n.outputs) do
  let key <- s.key
  if let some (_, v) := notes.props.find? (·.1 == (key.side, key.identifier, <- s.dataType)) then s.setProperty v
  if let some (_, memory) := notes.memories.find? (·.1 == (key.side, key.identifier)) then
   s.set "hide" memory.hide
   s.set "isUsed" memory.isUsed
   for k in memory.linkedWith do relink s k

def clear : Act := do
 n.dropSockets
 n.modifyNotes NodeNotes.cleared

def rebuild : Act := do
 n.clear
 n.tell "create"
 let vectorized <- n "isVectorized"
 let effects <- if <- truthy vectorized then pure [<- n.vectorEffect] else pure []
 n.modifyNotes ({ · with effects })

def refresh : Act := do
 unless <- n.canBeMadeAnew do failWith "node is not refreshable"
 n.rememberState
 n.rebuild
 n.recallState

/-- Give a property a new value; tells whether it or one before it had another one. -/
def put (changed : Bool) (e : String × Value) : Ask := do
 if <- notEqual (<- getPath n e.1) e.2 then
  setPath n e.1 e.2
  return true
 return changed

def assign (us : Fields) : Ask := us.foldlM n.put false
def applyTemplates : Act := do if <- n.assign (<- look fun w => (demandOf (w.wishes n)).updates) then n.refresh

def update : Act := do
 n.applyTemplates
 refreshIfStale
 n.tell "edit"

def callback (m : String) : Run String := do callbackText "executeNodeCallback" [(<- n.key).toValue, m]

variable (l : LayoutId)

def button (m : String) (b : Button := {}) : Act := do drawButton l b (<- n.callback m)

def selectorData (type m types : String) : Run (String × String) := do
 match type with
 | "DATA_TYPE" => return (s!"{m},{types}", "_selector_DATA_TYPE")
 | "PATH" | "ID_KEY" | "AREA" => return (m, "_selector_" ++ type)
 | _ => failWith "invalid selector type"

def selector (type m : String) (b : Button := {})
  (types : String := "ALL") : Act := do
 let (data, sel) <- selectorData type m types
 n.button l sel { b with data := .str data }

def popup (draw : String) (execute : String := "") (b : Button := {})
  (w : Nat := 250) : Act :=
 n.button l "_openNodePopup" { b with data := .str s!"{draw},{execute},{w}" }

def showError (msg : Value) (shown : Value := .bool true) : Act :=
 n.modifyNotes ({ · with errorMessage := msg, showErrorMessage := shown })

def halt {α : Type} (n : NodeId) (message : Value) (shown : Value := .bool true) : Run α := do
 n.showError message shown
 throw { cause := .controlled, message := some (<- text message) }

end NodeId

def variableTable : Run Pairs := do
 let .cell id := v | fail .type
 let .dict es <- readCell id | fail .type
 es.toList.mapM fun (k, x) => return (<- text k, <- text x)

def tableValue (es : Pairs) : Eval := newDict (es.map fun (k, v) => (k, v))

def codeText : Run String := do
 match v with
 | .str s => return s
 | .tuple _ | .cell _ => return joinLines (<- textsOf v)
 | _ => return ""

namespace NodeId

variable (n : NodeId)

def inputVariables : Run Pairs := do variableTable (<- n.call "getInputSocketVariables")
def outputVariables : Run Pairs := do variableTable (<- n.call "getOutputSocketVariables")

def innerLinks : Run Pairs := do
 let inputs <- n.inputVariables
 let outs <- n.outputVariables
 return outs.filterMap fun (id, name) => ((inputs.filter (·.2 == name)).getLast?).map fun i => (i.1, id)

def variablesOf (t : Pairs) (ss : List SocketId) : Run String := do
 return commaList (<- ss.mapM fun s => do need .key (t.lookup (<- s.identifier)))

def outputViews : Run (List OutputView) := do
 let t <- n.outputVariables
 (<- n.outputs).mapM fun s => do
  let id <- s.identifier
  let code <- match <- (Value.socket s).attr? "getDefaultValueCode" with
   | some f => do pure (some (<- text (<- f.apply)))
   | none => pure none
  return ⟨<- s.isLinked, id, (t.lookup id).getD "", code⟩

def effects (n : NodeId) : Run (List CodeChange) := do
 let own := (<- n.notes).effects
 let mode <- n.call "getErrorHandlingType"
 let reset := if mode.isOneOf ["MESSAGE", "EXCEPTION"] then [CodeChange.prepend "self.resetErrorMessage()"] else []
 let defaults := if mode.is "EXCEPTION" then [CodeChange.defaultsOn "self.ControlledExecutionException"] else []
 return own ++ reset ++ defaults

def localCode (req : Texts) (bake : Bool := false) : Run String := do
 let inputs <- n.inputVariables
 let outs <- n.outputVariables
 let f <- n.call "getExecutionFunctionName"
 let exists? <- match f with
  | .str name => (Value.node n).hasAttr name
  | _ => pure false
 let requiredSet <- newSet (req.map .str)
 let code <-
  if exists? then do
   let call := "self." ++ (<- text f) ++ "(" ++ (<- variablesOf inputs (<- n.inputs)) ++ ")"
   let results <- variablesOf outs (<- n.outputs)
   pure (if results.isEmpty then call else s!"{results} = {call}")
  else codeText (<- n.call "getExecutionCode" [requiredSet])
 let code <- if bake then do pure (code ++ "\n" ++ (<- codeText (<- n.call "getBakeCode"))) else pure code
 let effects <- n.effects
 if effects.isEmpty then return code
 let views <- n.outputViews
 effects.foldlM (fun code e => do
  match e.apply views req code with
  | .ok code => pure code
  | .error fault => fail fault.cause) code

end NodeId
end AnimationGraph
