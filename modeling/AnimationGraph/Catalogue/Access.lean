import AnimationGraph.Catalogue.Basic
import AnimationGraph.Execution.Update

/-! # Access to members

How the attributes of a value are read, set and called by name: properties of kinds first, then
members, then stored attributes.
-/

namespace AnimationGraph

def newGroup (kind : String) (home : Value) : Eval :=
 newCell (.record { kind, origin := .group, fields := [("id_data", home)] })

section Engine
variable {σ : Type} (p : Property σ) (s : σ)

def readProperty (home : Value) (stored : Option Value) (store : Value -> Act) : Eval := do
 match p.compute, stored with
 | some get, _ =>
  let v <- get s
  if p.storage == .fraction then return <- toFloat v
  pure v
 | none, some v => pure v
 | none, none =>
  match p.storage with
  | .group kind =>
   let v <- newGroup kind home
   store v
   pure v
  | .groups kind =>
   let v <- newCell (.sequence { kind := .groups kind, fields := [("id_data", home)] })
   store v
   pure v
  | _ =>
   let some choose := p.choose | pure p.default
   choose s

def Storage.convert (s : Storage) (v : Value) : Eval := do
 match s with
 | .fraction => toFloat v
 | .fractions => return .tuple (<- (<- iter v).mapM fun x => return .float (<- toFloat x))
 | .items => return .tuple (<- iter v)
 | _ => pure v

def writeProperty (v : Value) (store : Value -> Act) : Act := do
 match p.assign, p.compute with
 | some assign, _ => assign s v
 | none, some _ => fail .attr
 | none, none => store (<- p.storage.convert v)
 p.onUpdate s

def memberValue (owner : Value) (s : σ) (name : String) : Member σ -> Eval
 | .prop get => get s
 | .constant v => pure v
 | .method .. | .free _ => return .member owner name

def callMember (args : Args) : Member σ -> Eval
 | .method ps body => do body s (<- bindArgs ps args)
 | .free body => body s args
 | .prop get => do (<- get s).apply args.pos args.named
 | .constant v => v.apply args.pos args.named

def attrFrom (m : Option (Member σ)) (owner : Value) (s : σ) (name : String) : Eval := do
 memberValue owner s name (<- need .attr m)

def callFrom (m : Option (Member σ)) (s : σ) (args : Args) : Eval := do callMember s args (<- need .attr m)

def inBrackets? (name : String) : Option String :=
 if name.startsWith "[\"" && name.endsWith "\"]" then some ((name.drop 2).dropEnd 2).toString else none

/-- A value with what its kind declares, its members and its stored attributes. -/
structure Holder (σ : Type) where
 self : Value
 state : σ
 home : Value
 props : List (List (Property σ))
 members : List (Members σ)
 fields : Fields
 (defaults custom : Fields := [])
 store : String -> Value -> Act

namespace Holder

variable (h : Holder σ) (name : String)

def property? : Option (Property σ) := h.props.firstM fun ps => ps.find? (·.name == name)
def member? : Option (Member σ) := h.members.firstM (Members.lookup? · name)

def attr (described : Option Eval := none) : Eval :=
 match h.property? name, described, h.member? name with
 | some p, _, _ => readProperty p h.state h.home (h.fields.get? name) (h.store name)
 | none, some v, _ => v
 | none, none, some m => memberValue h.self h.state name m
 | none, none, none =>
  need .attr (h.fields.get? name <|> h.defaults.get? name <|> (inBrackets? name).bind h.custom.get?)

def set (v : Value) (special : Option Act := none) : Act :=
 match h.property? name, special, h.member? name with
 | some p, _, _ => writeProperty p h.state v (h.store name)
 | none, some act, _ => act
 | none, none, some (.prop _) => fail .attr
 | none, none, _ => h.store name v

def invoke (args : Args) (attr : Eval) : Eval := do
 match h.member? name with
 | some m => callMember h.state args m
 | none => do (<- attr).apply args.pos args.named

end Holder
end Engine

namespace Catalogue

variable (c : Catalogue) (n : NodeId)

def nodeKind? : Run (Option NodeKind) := look fun w => c.nodes[(w.forest.node n).kind]?

def nodeHolder : Run (Holder NodeId) := do
 let node <- look (·.forest.node n)
 let (props, members) := match <- c.nodeKind? n with
  | some k =>
   let create := if k.remade then [act0 "create" k.create] else []
   ([k.props, nodeProperties], [k.members, create, nodeMembers, hostNodeMembers])
  | none => ([], [hostNodeMembers])
 return { node with self := n, state := n, home := node.tree, props, members, defaults := nodeDefaults, store := setNodeField n }

variable (name : String)

def attrOfNode : Eval := do
 let described := (<- c.nodeKind? n).bind fun k => if k.members.any (·.1 == name) then none else k.described name
 (<- c.nodeHolder n).attr name described

def setAttrOfNode (v : Value) : Act := do
 (<- c.nodeHolder n).set name v (match name with
  | "name" => some do
   let new <- text v
   changeForest (·.modifyNode n fun x => { x with name := new })
  | "parent" => some (setParent n v)
  | _ => none)

end Catalogue

def typeMembers {σ : Type} (t : DataType) (k : SocketKind) : Members σ := [
 prop "bl_idname" fun _ => pure t.idName,
 constant "bl_label" s!"{t.name} Socket", constant "dataType" t.name, constant "storable" t.storable,
 constant "comparable" t.comparable, constant "drawColor" (.tuple t.color),
 fn0 "isCopyable" fun _ => pure t.copy.isSome,
 fn0 "hasProperty" fun _ => pure t.drawn,
 fn0 "getDefaultValue" fun _ => k.default,
 fn1 "correctValue value" fun _ v => do
  let (x, n) <- k.correct v
  tuple [x, n]]
  ++ (t.copy.map fun code => fn0 "getCopyExpression" fun _ => pure code).toList
  ++ (t.defaultCode.map fun code => fn0 "getDefaultValueCode" fun _ => pure code).toList
  ++ ((t.element.bind socketTypes.idNameOf?).elim [] fun id =>
   [constant "baseType" (.kind id), fn0 "getFromValuesCode" fun _ => pure t.fromValuesCode,
   fn0 "getJoinListsCode" fun _ => return t.listClass.elim "list(itertools.chain(value))" (· ++ ".join(value)")])
  ++ (t.listClass.map fun cls => constant "listClass" (.kind cls)).toList

namespace Catalogue

variable (c : Catalogue) (id : CellId) (r : Record) (path : String) (s : SocketId) (t : TreeId) (name : String) (args : Args)
 (v : Value) (kind : String)

def socketHolder : Run (Holder SocketId) := do
 let socket <- look (·.forest.socket s)
 let home <- look fun w => Value.tree (w.forest.node socket.owner).tree
 let (props, members) := match socketKindNamed? socket.kind with
  | some (t, k) => ([k.props, socketProperties], [k.members, typeMembers t k, socketMembers, hostSocketMembers])
  | none => ([], [hostSocketMembers])
 return { socket with self := s, state := s, home, props, members, defaults := [("hide", false), ("enabled", true)], store := setSocketField s }

def attrOfSocket : Eval := do (<- socketHolder s).attr name

def setAttrOfSocket : Act := do
 (<- socketHolder s).set name v (match name with
  | "name" => some do
   let new <- text v
   changeForest (·.modifySocket s fun x => { x with name := new })
  | "identifier" => some do
   let new <- text v
   changeForest (·.modifySocket s fun x => { x with identifier := new })
  | "show" => some do setSocketField s "hide" (!(<- truthy v))
  | _ => none)

def treeHolder : Run (Holder TreeId) := do
 return { (<- look (·.forest.tree t)) with
  self := t, state := t, home := t, props := [treeProperties], members := [treeMembers, hostTreeMembers]
  defaults := [("library", .none)], custom := [], store := setTreeField t }

def attrOfTree : Eval := do (<- treeHolder t).attr name

def setAttrOfTree : Act := do
 (<- treeHolder t).set name v (if name == "name" then some do
  let new <- text v
  changeForest (·.modifyTree t fun x => { x with name := new })
 else none)

def recordedOperation : Value := .operation "recorded" [name]

def groupMembers : Members CellId :=
 [fn1 "is_property_set name" fun c name => do
  let .record r <- readCell c | pure false
  return r.fields.has name.word]

def recordHolder : Holder CellId :=
 let kind := c.recordKind? r.kind
 let props := (kind.map (·.props)).toList
 let members := (kind.map (·.members)).toList
 let (props, members) := match r.origin with
  | .struct => ([], [])
  | .block => (props ++ [blockProperties r.kind], members ++ [blockMembers])
  | .group => (props, members ++ [groupMembers])
  | _ => (props, members)
 let home := if r.origin == .group then (r.fields.get? "id_data").getD .none else id
 { r with self := id, state := id, home, props, members, store := setField id }

def isOffered : String -> Ask
 | "id_keys" => look (·.keys.onBlocks)
 | "an" | "an_data" => hostIsExtended
 | _ => pure true

def attrOfRecord : Eval := do
 let h := c.recordHolder id r
 match h.property? name, h.member? name with
 | some _, _ =>
  unless r.fields.has name || (<- isOffered name) do fail .attr
  h.attr name
 | none, some (.constant v) => return (r.fields.get? name).getD v
 | none, some m => memberValue id id name m
 | none, none =>
  match r.fields.get? name, (if r.origin == .block then inBrackets? name else none).map r.custom.get? with
  | some v, _ | none, some (some v) => pure v
  | none, some none => fail .attr
  | none, none => if r.recorded.contains name then return recordedOperation name else fail .attr

def lookupMembers : Members CellId :=
 [fn2 "get key default?" fun id key d => do
  let s <- sequenceOf id
  return (<- look (namedItem? · s.items key.word)).getD d,
 fn0 "keys" fun id => do
  let s <- sequenceOf id
  list ((<- look fun w => s.items.toList.filterMap (nameOf w)).map .str),
 fn0 "values" fun id => do list (<- sequenceOf id).items.toList,
 fn0 "items" fun id => do
  let s <- sequenceOf id
  list (<- look fun w => s.items.toList.map fun v => .tuple [(nameOf w v).elim .none .str, v]),
 fn1 "find key" fun id key => do
  let s <- sequenceOf id
  return ((<- look fun w => s.items.findIdx? fun v => nameOf w v == key.text?).map Int.ofNat).getD (-1),
 fn1 "index value" fun id v => do need .value (<- placeOf? v (<- sequenceOf id).items.toList)]

def describedMembers : Members CellId :=
 [("new", .free fun id args => do
  record "new" args.pos args.named
  let s <- sequenceOf id
  let fields := match args.pos with
   | v :: _ => args.named.set "name" v
   | [] => args.named
  let v <- newStruct fields
  setElements id (s.items.push v)
  pure v),
 recorded "remove",
 prop "active" fun id => return ((<- sequenceOf id).items[0]?).getD .none]

def groupsMembers : Members CellId :=
 [fn0 "add" fun id => do
  let s <- sequenceOf id
  let v <- newGroup kind ((s.fields.get? "id_data").getD .none)
  setElements id (s.items.push v)
  pure v,
 act1 "remove index" fun id k => do
  let s <- sequenceOf id
  let some i := position? s.items.size (<- indexOf k) | pure ()
  setElements id (s.items.toList.eraseIdx i).toArray,
 act0 "clear" fun id => setElements id #[],
 act2 "move source target" fun id src t => do
  let s <- sequenceOf id
  let i := (<- indexOf src).toNat
  setElements id (Forest.moved s.items.toList i (<- indexOf t).toNat).toArray]

def membersOfSequence (s : Sequence) : Members CellId :=
 match s.kind with
 | .named => describedMembers ++ lookupMembers ++ listMembers
 | .attributed => listMembers
 | .data "node_groups" => treesMembers ++ lookupMembers
 | .data col => collectionMembers col ++ lookupMembers
 | .groups kind => groupsMembers kind ++ lookupMembers

def heldBySequence? (s : Sequence) (name : String) : Option Value :=
 s.fields.get? name <|> if s.recorded.contains name then some (recordedOperation name) else none

def attrOfSequence (s : Sequence) (name : String) : Eval :=
 match heldBySequence? s name with
 | some v => pure v
 | none => attrFrom ((membersOfSequence s).lookup? name) id id name

def invokeSequence (s : Sequence) (name : String) (args : Args) : Eval :=
 match heldBySequence? s name with
 | some v => v.apply args.pos args.named
 | none => callFrom ((membersOfSequence s).lookup? name) id args

def membersOfKind : Members CellId := (c.recordKind? kind).elim [] (·.members)

def membersOfBuiltin : Cell -> Members CellId
 | .struct _ => c.membersOfKind "ANStruct"
 | .numeric _ => c.membersOfKind "ndarray"
 | .iterator .. => c.membersOfKind "iterator"
 | .list _ => listMembers
 | .dict _ => dictMembers
 | .set _ => setMembers
 | .numbers .vector _ => vectorMembers
 | .numbers .color _ =>
  [fn0 "copy" fun c => do newColor (<- components c), prop "color" fun c => do list (<- components c)]
 | .numbers _ _ => rotationMembers
 | _ => []

def attrOfCell : Eval := do
 match <- readCell id with
 | .record r => c.attrOfRecord id r name
 | .sequence s => attrOfSequence id s name
 | cell =>
  let part := match cell with
   | .numbers shape xs => (componentIndex? shape name).map (xs[·]?)
   | _ => none
  match part with
  | some x => need .attr x
  | none => attrFrom ((c.membersOfBuiltin cell).lookup? name) id id name

def setAttrOfCell : Act := do
 match <- readCell id with
 | .record r => (c.recordHolder id r).set name v
 | .sequence s => writeCell id (.sequence { s with fields := s.fields.set name v })
 | .numbers shape xs =>
  match componentIndex? shape name with
  | some i => if i < xs.size then writeCell id (.numbers shape (xs.set! i v)) else fail .attr
  | none =>
   match shape, v with
   | .euler _, .str order => if name == "order" then writeCell id (.numbers (.euler order) xs) else fail .attr
   | _, _ => fail .attr
 | _ => fail .attr

def invokeCell : Eval := do
 match <- readCell id with
 | .record r => (c.recordHolder id r).invoke name args (c.attrOfRecord id r name)
 | .sequence s => invokeSequence id s name args
 | cell =>
  match (c.membersOfBuiltin cell).lookup? name with
  | some m => callMember id args m
  | none => do (<- c.attrOfCell id name).apply args.pos args.named

def applyCell : Eval := do
 match <- readCell id with
 | .answers name vs next =>
  record name args.pos args.named
  writeCell id (.answers name vs (next + 1))
  return (vs[min next (vs.size - 1)]?).getD .none
 | .record r => callMember id args (<- need .type ((c.membersOfKind r.kind).lookup? "__call__"))
 | _ => fail .type

def constantOf {σ : Type} (ms : Members σ) (attr : String) : Eval := do
 let some (.constant v) := ms.lookup? attr | fail .attr
 pure v

def attrOfKind (attr : String) : Eval := do
 match c.nodes[name]?, socketKindNamed? name, c.recordKind? name with
 | some k, _, _ => (k.described attr).getD (constantOf k.members attr)
 | none, some (t, k), _ =>
  match (typeMembers t k).lookup? attr with
  | some m => memberValue (.kind name) () attr m
  | none => constantOf k.members attr
 | none, none, some k =>
  match k.statics.lookup? attr, k.members.lookup? attr with
  | some m, _ => memberValue (.kind name) () attr m
  | none, some (.constant v) => pure v
  | none, some (.method ..) | none, some (.free _) => return .member (.kind name) attr
  | _, _ => if attr == "__name__" then pure name else fail .attr
 | none, none, none => if attr == "__name__" then pure name else return .member (.kind name) attr

def invokeKind (member : String) (args : Args) : Eval := do
 match c.recordKind? name, socketKindNamed? name with
 | some k, _ =>
  match k.statics.lookup? member, k.members.lookup? member, args.pos with
  | some m, _, _ => callMember () args m
  | none, some m, .cell id :: rest => callMember id ⟨rest, args.named⟩ m
  | none, some m, _ :: rest =>
   let .cell id <- newRecord "" [] | fail .type
   callMember id ⟨rest, args.named⟩ m
  | none, some _, [] => fail .type
  | none, none, _ => fail .attr
 | none, some (t, k) => callFrom ((typeMembers t k).lookup? member) () args
 | none, none => kernel s!"{name}.{member}" args.pos args.named

def applyKind : Eval := do
 match c.recordKind? name with
 | some k => (<- need .type k.construct) args
 | none =>
  if name == "Exception" || name.endsWith "Error" || name.endsWith "Exception" then newRecord name [("args", .tuple args.pos)]
  else kernel name args.pos args.named

def isOpenSpace : Bool := ["animation_nodes", "bmesh", "mathutils.kdtree", "mathutils.geometry"].any (path.startsWith ·)
def operationAt? : Option Operation := c.operations[path]? <|> c.operations[lastPart path]?

def applySpace : Eval := do
 match c.operationAt? path with
 | some op => op args
 | none => kernel (lastPart path) args.pos args.named

/-- Values whose members are all there is to know of them. -/
def plainHolder? : Value -> Option ((σ : Type) × σ × Members σ)
 | .sockets n side => some ⟨_, (n, side), socketsMembers⟩
 | .nodesOf t => some ⟨_, t, nodesMembers⟩
 | .linksOf t => some ⟨_, t, linksMembers⟩
 | .link l => some ⟨_, l, linkMembers⟩
 | .str s => some ⟨_, s, textMembers⟩
 | .tuple xs => some ⟨_, xs, searches pure⟩
 | _ => none

def attrOf (name : String) : Eval := do
 match v with
 | .node n => c.attrOfNode n name
 | .socket s => attrOfSocket s name
 | .tree t => attrOfTree t name
 | .cell id => c.attrOfCell id name
 | .kernel .. => return .kernel s!".{name}" [v] []
 | .kind k => c.attrOfKind k name
 | .layout l => return .layoutPart l name
 | .layoutPart l path => return .layoutPart l s!"{path}.{name}"
 | .space "bpy.data" => blocks name
 | .space path =>
  match (c.spaces[path]?).bind (·.get? name) with
  | some (.operation "computed" [.str op]) => (<- need .attr c.operations[op]?) {}
  | some x => pure x
  | none =>
   if isOpenSpace path && !c.spaces.contains path then
    return if name.front.isUpper then .kind name else .space s!"{path}.{name}"
   else fail .attr
 | .operation op _ => if name == "__name__" then pure op else fail .attr
 | _ =>
  match v, name, plainHolder? v with
  | .sockets _ side, "bl_rna", _ =>
   newStruct [("identifier", if side == .input then "NodeInputs" else "NodeOutputs")]
  | _, _, some ⟨_, s, ms⟩ => attrFrom (ms.lookup? name) v s name
  | _, _, none => fail .attr

def setAttrOf (name : String) (x : Value) : Act := do
 match v with
 | .node n => c.setAttrOfNode n name x
 | .socket s => setAttrOfSocket s name x
 | .tree t => setAttrOfTree t name x
 | .cell id => c.setAttrOfCell id name x
 | .kernel .. => record "set" [v, name, x]
 | .layout l => addEvent l (.assign name x)
 | .layoutPart l path => addEvent l (.assign s!"{path}.{name}" x)
 | .nodesOf t => if name == "active" then setTreeField t "active" x else fail .attr
 | _ => fail .attr

def applyOf (f : Value) (args : Args) : Eval := do
 match f with
 | .operation "function" held => Script.call held args
 | .operation "recorded" (.str name :: _) =>
  record name args.pos args.named
  pure .none
 | .operation name held =>
  (<- need .lookup (c.operationAt? name)) { args with pos := held ++ args.pos }
 | .member owner name => owner.call name args.pos args.named
 | .kind name => c.applyKind name args
 | .kernel name held _ => kernel s!"call {name}" (held ++ args.pos) args.named
 | .layoutPart l path => return <- l.call path args.pos args.named
 | .cell id => c.applyCell id args
 | .space path => if isOpenSpace path then c.applySpace path args else fail .type
 | _ => fail .type

def invokeOf (name : String) (args : Args) : Eval := do
 match v with
 | .node n => (<- c.nodeHolder n).invoke name args (c.attrOfNode n name)
 | .socket s => (<- socketHolder s).invoke name args (attrOfSocket s name)
 | .tree t => (<- treeHolder t).invoke name args (attrOfTree t name)
 | .cell id => c.invokeCell id name args
 | .kernel .. => kernel s!"call .{name}" (v :: args.pos) args.named
 | .kind k => c.invokeKind k name args
 | .layout l => return <- l.call name args.pos args.named
 | .layoutPart l path => return <- l.call s!"{path}.{name}" args.pos args.named
 | v =>
  match plainHolder? v with
  | some ⟨_, s, ms⟩ => callFrom (ms.lookup? name) s args
  | none => do (<- c.attrOf v name).apply args.pos args.named

def interface (c : Catalogue) : Nat -> Interface
 | 0 =>
  let stop {α : Type} : World -> Outcome α := .failed { cause := .recursion }
  { attr := fun _ _ => stop, setAttr := fun _ _ _ => stop, invoke := fun _ _ _ => stop, apply := fun _ _ => stop }
 | depth + 1 =>
  { attr := fun v name => c.attrOf v name (c.interface depth)
    setAttr := fun v name x => c.setAttrOf v name x (c.interface depth)
    invoke := fun v name args => c.invokeOf v name args (c.interface depth)
    apply := fun f args => c.applyOf f args (c.interface depth) }

def callDepth : Nat := 300
def perform {α : Type} (c : Catalogue) (x : Run α) (w : World) : Outcome α := x (c.interface callDepth) w

end Catalogue
end AnimationGraph
