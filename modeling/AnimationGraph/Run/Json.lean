import AnimationGraph.Run.Basic
import AnimationGraph.DataType

/-! # JSON forms of values

A session describes values as JSON documents, and its answers show them so.
-/

namespace AnimationGraph

def lastPart (path : String) : String := (path.splitOn ".").getLastD path
def tagged (tag : String) (j : Json) : Json := .obj [(tag, j)]

def encodeFloat (x : Float) : Json :=
 if x.isNaN then tagged "float" "nan"
 else if x == 1.0 / 0.0 then tagged "float" "inf"
 else if x == -1.0 / 0.0 then tagged "float" "-inf"
 else .float x

def setKey (w : World) : Value -> Nat × String
 | .str s => (0, s)
 | v => (1, (w.literal? World.textDepth v).toOption.getD "")

def sortByKey {α β : Type} [Ord β] (key : α -> β) (xs : List α) : List α :=
 let le (a b : β × α) : Bool := compare a.1 b.1 != .gt
 ((xs.map fun a => (key a, a)).mergeSort le).map (·.2)

instance keyOrder : Ord (Nat × String) := lexOrd

def ownKinds : Texts := [
 "object", "Color", "ANStruct", "GPStroke", "GPFrame", "GPLayer", "MIDINote", "MIDITrack", "Sound", "SingleSound",
 "SoundSequence", "EvenlySampledSound", "SoundData", "SoundStrip", "MixedSound"]

def Shape.kind : Shape -> String
 | .vector => "Vector"
 | .euler _ => "Euler"
 | .quaternion => "Quaternion"
 | .color => "Color"

namespace World

mutual

def encode (w : World) : Nat -> Value -> Json
 | 0, _ => .null
 | fuel + 1, v =>
  match v with
  | .none => .null
  | .bool b => .bool b
  | .int i => .int i
  | .float x => encodeFloat x
  | .str s => .str s
  | .bytes b => tagged "bytes" (String.ofList (b.flatMap (Quoted.hexDigits 2 ·.toNat)))
  | .tuple xs => .arr (xs.map (w.encode fuel))
  | .cell id => w.encodeCell fuel (w.cell id)
  | .tree t => tagged "tree" ((w.forest.tree t).name)
  | .node n => tagged "node" ((w.forest.node n).name)
  | .socket s =>
   let k := w.forest.socket s
   let side := if k.side == .output then "out" else "in"
   tagged "socket" (.arr [.str (w.forest.node k.owner).name, side, k.identifier])
  | .sockets n side => .arr ((w.forest.side n side).toList.map (w.encode fuel <| .socket ·))
  | .nodesOf t => .arr ((w.forest.tree t).nodes.toList.map (w.encode fuel <| .node ·))
  | .linksOf t => .arr ((w.forest.tree t).links.toList.map (w.encode fuel <| .link ·))
  | .link _ => tagged "object" (.str "NodeLink")
  | .kernel name args named =>
   let call := [.str name, .arr (args.map (w.encode fuel))]
   let named : JsonFields := named.map fun (k, x) => (k, w.encode fuel x)
   tagged "compiled" (.arr (if named.isEmpty then call else call ++ [.obj named]))
  | .kind name => tagged (if ownKinds.contains name then "object" else "compiled") name
  | .operation "slice" _ => tagged "object" "slice"
  | .operation "function" (.int i :: _) => tagged "function" ((w.functions.getD i.toNat default).name)
  | .operation name _ => tagged "function" (lastPart name)
  | .member (.kind k) name => tagged "compiled" s!"{k}.{name}"
  | .member .. => tagged "object" "method"
  | .space path => tagged "object" path
  | .layout _ | .layoutPart .. => tagged "object" "Layout"

def encodeCell (w : World) : Nat -> Cell -> Json
 | 0, _ => .null
 | fuel + 1, c =>
  let all (xs : Values) : Json := .arr (xs.map (w.encode fuel))
  match c with
  | .list xs => all xs.toList
  | .sequence s => all s.items.toList
  | .iterator xs next _ => all (xs.toList.drop next)
  | .dict es => tagged "dict" (.arr (es.toList.map fun (k, x) => .arr [w.encode fuel k, w.encode fuel x]))
  | .set xs => tagged "set" (all (sortByKey (setKey w) xs.toList))
  | .numbers shape xs => tagged shape.kind (all xs.toList)
  | .struct es => tagged "struct" (.arr (es.toList.map fun ((t, n), x) => .arr [t, n, w.encode fuel x]))
  | .numeric xs => tagged "numpy" (all xs.toList)
  | .answers name _ _ => tagged "function" name
  | .record r =>
   let named (n : String) := ((r.fields.get? n).map (w.encode fuel)).getD .null
   match r.origin with
   | .struct => tagged "ns" (named "name")
   | .block => tagged "data" (.arr [r.kind, named "name"])
   | .group => tagged "group" r.kind
   | .host => tagged "object" r.kind
   | .inst =>
    if r.kind == "Network" then tagged "network" (.arr [named "type", named "identifier"])
    else if plainRecords.contains r.kind then tagged r.kind (all (r.fields.map (·.2)))
    else tagged "object" r.kind

end

def json (w : World) (v : Value) : Json := w.encode textDepth v

def layoutJson (w : World) : Nat -> LayoutId -> Json
 | 0, _ => .null
 | fuel + 1, id =>
  .arr <| (w.layouts[id.index]?.getD #[]).toList.map fun
   | .assign name v => .arr [s!"={name}", w.json v]
   | .call name args named inner =>
    let named := sortByKey (·.1) named
    .arr [name, .arr (args.map w.json), .obj (named.map fun (k, v) => (k, w.json v)), w.layoutJson fuel inner]

end World

def record (name : String) (pos : Values) (named : Fields := []) : Act :=
 change fun w =>
  { w with log := w.log.push (.call name (pos.map w.json) ((sortByKey (·.1) named).map fun (k, v) => (k, w.json v))) }

def kernelRaw (name : String) (pos : Values) (named : Fields := []) : Eval := do
 unless <- look (·.kernelFacts.isSome) do fail .unavailable
 change fun w =>
  { w with log := w.log.push (.kernel name (pos.map w.json) (named.map fun (k, v) => (k, w.json v))) }
 return .kernel name pos named

def newLayout : Run LayoutId := fun _ w => .ok ⟨w.layouts.size⟩ { w with layouts := w.layouts.push #[] }

def handOutLayout : Eval := do
 let id <- newLayout
 change fun w => { w with handedOut := w.handedOut.push id }
 pure id

variable (name : String)

def nodeNamed : Run NodeId := do need .lookup (<- look fun w => w.forest.allNodes.find? fun n => (w.forest.node n).name == name)

def position? (length : Nat) (i : Int) : Option Nat :=
 if 0 ≤ i then (if i.natAbs < length then some i.natAbs else none)
 else if i.natAbs ≤ length then some (length - i.natAbs) else none

def socketAt (n : NodeId) (side : Side) (place : Json) : Run SocketId := do
 let f <- look (·.forest)
 let ss := f.side n side
 let found := match place with
  | .int i => (position? ss.size i).bind (ss[·]?)
  | .str s => f.socketByIdentifier? ss s
  | _ => none
 need .lookup found

def sideOf (j : Json) : Side := if j matches .str "out" then .output else .input
def dataCollection : Run CellId := do need .attr (<- look (·.collections.lookup name))
def blocks : Eval := dataCollection name

def nameOf (w : World) (v : Value) : Option String :=
 match v with
 | .cell _ => (w.fieldOf v "name").text?
 | .node n => some (w.forest.node n).name
 | .socket s => some (w.forest.socket s).name
 | .tree t => some (w.forest.tree t).name
 | _ => none

def namedItem? (w : World) (xs : Array Value) (name : String) : Option Value :=
 xs.find? fun v => nameOf w v == some name

def dataBlock (col name : String) : Eval := do
 let id <- dataCollection col
 let w <- get
 let .sequence s := w.cell id | fail .key
 need .key (namedItem? w s.items name)

mutual

def plainValue : Json -> Eval
 | .null => pure .none
 | .bool b => pure b
 | .int i => pure i
 | .float x => pure x
 | .str s => pure s
 | .arr xs => do list (<- plainValues xs)
 | .obj fs => do newDict (<- plainEntries fs)

def plainValues : List Json -> Evals
 | [] => pure []
 | x :: xs => return (<- plainValue x) :: (<- plainValues xs)

def plainEntries : JsonFields -> Run (List (Value × Value))
 | [] => pure []
 | (k, x) :: xs => return (k, <- plainValue x) :: (<- plainEntries xs)

end

def kindNameOf : String :=
 let marked := "an_" ++ name
 if socketTypes.types.any (·.idName == marked) || name.endsWith "Node" && name != "AnimationNode" then marked else name

def functionNamed (path : String) : Eval :=
 match path.splitOn ":" with
 | [_, inner] =>
  match inner.splitOn "." with
  | kind :: ms => ms.foldlM Value.attr (.kind (kindNameOf kind))
  | [] => fail .lookup
 | _ =>
  let name := lastPart path
  return if name.front.isUpper then .kind (kindNameOf name) else .operation path []

section

variable (decode : Json -> Eval) (es : JsonFields)

def decodeFields (fs : JsonFields) : Run Fields := fs.mapM fun (k, x) => return (k, <- decode x)
def recordedIn : Texts := (Json.obj es).words "!"

def identified (v : Value) : Eval := do
 if let some (.str label) := es.lookup "@" then change fun w => { w with labels := w.labels.set label v }
 pure v

def decodeStruct : Nat -> JsonFields -> Run Record
 | 0, _ => fail .exhausted
 | fuel + 1, es => do
  let base : Record <- match es.lookup "&" with
   | some (.str name) =>
    match <- look (·.values.lookup name) with
    | some (.obj [("ns", .obj inner)]) => decodeStruct fuel inner
    | _ => fail .key
   | _ => pure { kind := "ns", origin := .struct }
  let fields <- decodeFields decode (es.filter fun (k, _) => k ∉ ["@", "#", "!", "&"])
  let custom <- decodeFields decode ((Json.obj es).entries "#")
  let recorded := recordedIn es
  return { base with
   fields := Fields.setAll (base.fields.filter (!recorded.contains ·.1)) fields
   custom := base.custom.setAll custom
   recorded := base.recorded ++ recorded }

def decodeSequence (body : Json) (ops : Texts) : Eval := do
 match body with
 | .arr xs => newCell (.sequence { kind := .attributed, items := (<- xs.mapM decode).toArray, recorded := ops })
 | .obj es =>
  let items <- (body.listed "items").mapM decode
  let fields <- decodeFields decode (es.filter fun (k, _) => k != "items" && k != "!" && k != "@")
  identified es (<- newCell (.sequence
   { kind := .attributed, items := items.toArray, fields, recorded := ops ++ recordedIn es }))
 | _ => fail .value

def decodeTagged (tag : String) (body : Json) : Eval := do
 match tag, body with
 | "tuple", .arr xs => return .tuple (<- xs.mapM decode)
 | "set", .arr xs => newSet (<- xs.mapM decode)
 | "dict", .arr es => do
  newDict (<- es.mapM fun
   | .arr [k, x] => return (<- decode k, <- decode x)
   | _ => fail .value)
 | "float", .str "nan" => return .float (0.0 / 0.0)
 | "float", .str "inf" => return .float (1.0 / 0.0)
 | "float", .str "-inf" => return .float (-1.0 / 0.0)
 | "Color", .arr xs => rgba (<- xs.mapM plainValue)
 | "Vector", .arr xs => vector (<- xs.mapM plainValue)
 | "Euler", .arr xs => newEuler (<- xs.mapM plainValue)
 | "Quaternion", .arr xs => newQuaternion (<- xs.mapM plainValue)
 | "node", .str name => nodeNamed name
 | "socket", .arr [.str n, side, place] => do socketAt (<- nodeNamed n) (sideOf side) place
 | "object", .str name => dataBlock "objects" name
 | "scene", .str name => dataBlock "scenes" name
 | "struct", .arr es =>
  let mut entries : Array ((String × String) × Value) := #[]
  for e in es do
   let .arr [.str t, .str n, x] := e | fail .value
   entries := (entries.filter (·.1 != (t, n))).push ((t, n), <- decode x)
  newCell (.struct entries)
 | "note", .arr xs => make "MIDINote" (<- xs.mapM decode)
 | "track", .arr xs => make "MIDITrack" (<- xs.mapM decode)
 | "ns", .obj entries =>
  identified entries (<- newCell (.record (<- decodeStruct decode World.textDepth entries)))
 | "collection", .arr xs => newCell (.sequence { kind := .named, items := (<- xs.mapM decode).toArray })
 | "list", body => decodeSequence decode body []
 | "array", body => decodeSequence decode body ["foreach_set", "foreach_get", "asMemoryView", "asNumpyArray",
  "transform", "normalize", "fill"]
 | "returns", .arr [.str name, x] => newCell (.answers name #[<- decode x] 0)
 | "sequence", .arr [.str name, .arr xs] => newCell (.answers name (<- xs.mapM decode).toArray 0)
 | "numpy", .arr xs => newCell (.numeric (<- xs.mapM decode).toArray)
 | "compiled", .str name => return .kernel s!".{name}" [] []
 | "ref", .str label => need .key ((<- get).labels.get? label)
 | "value", .str name => decode (<- need .key (<- look (·.values.lookup name)))
 | "attr", .arr [x, .str name] => (<- decode x).attr name
 | "cls", .str name => return .kind name
 | "layout", _ => handOutLayout
 | "menu", _ => newStruct [("layout", <- handOutLayout)]
 | "context", _ => look (·.context)
 | "prefs", _ => look (·.preferences)
 | "data", .arr [.str col, .str name] => dataBlock col name
 | "tree", .str name => need .key (<- look (·.forest.findTree? name))
 | "id", .str name => (<- nodeNamed name) "identifier"
 | "module", .str path => return .space path
 | "fn", .str path => functionNamed path
 | "path", .str path => return "DIR/" ++ path
 | _, _ => fail .value

end

def decode : Nat -> Json -> Eval
 | 0, _ => fail .exhausted
 | fuel + 1, j => do
  match j with
  | .arr xs => list (<- xs.mapM (decode fuel))
  | .obj [(tag, body)] => decodeTagged (decode fuel) tag body
  | .obj _ => fail .value
  | j => plainValue j

def valueOf (j : Json) : Eval := decode World.textDepth j
def valuesOf (js : List Json) : Evals := js.mapM valueOf
def Json.get (j : Json) : Reply := need .key (j.field? name)

def Json.needText (j : Json) : Run String := do
 let .str t <- j.get name | fail .type
 pure t

def kernel (pos : Values := []) (named : Fields := []) : Eval := do
 let r <- kernelRaw name pos named
 let some j <- kernelFact? name | pure r
 valueOf j

def affect (pos : Values) (named : Fields := []) : Act := discard <| kernel name pos named
def sized (k : Value) : Eval := kernel name [] [("length", k)]

end AnimationGraph
