import AnimationGraph.Host.Blocks
import AnimationGraph.Script.Check

/-! # Vocabulary for kinds of nodes

Short words for what the kinds of nodes do again and again: templates for their sockets, properties
that tell the node when they change, and small questions about values.
-/

namespace AnimationGraph

def tagsFor (prop : String) (xs : Pairs) : List (String × Pairs) :=
 xs.map fun (tag, item) => (tag, [(prop, s!"'{item}'")])

/-- Found by the choices of a property. -/
def NodeKind.variants (prop : String) (xs : Pairs) (k : NodeKind) : NodeKind :=
 (k.found (tagsFor prop xs)).onlyFound.alwaysLabel

def named (s : SocketNames) (settings : Fields := []) : SocketNames := { s with settings }

def vectorized (dataType : String) (props : Texts) (base list : SocketNames)
  (grows : Bool := true) (d : Option String := none) : Template :=
 .vectorized { dataType, props, base, list, extends? := grows, default? := d }

variable (v : Value) (n : NodeId) (type : String) {σ : Type} (name dataType : String) (required : Value) (lines : Pairs) (props : Texts)
 (opts : Fields := []) (vs : Values) (sig : Signature) (ns : Texts)

section
variable (base : SocketNames := dataType) (list : SocketNames := base.plural) (opts : Fields := []) (grows : Bool := true)
 (d : Option String := none)

def NodeId.takesMany : NodeId -> Act := NodeId.followInput (vectorized dataType props base list grows d) opts
def NodeId.givesMany : NodeId -> Act := NodeId.followOutput (vectorized dataType props base list) opts
def NodeId.takesAny : NodeId -> Act := takesMany dataType ["useList"] base list
def NodeId.givesAny : NodeId -> Act := givesMany dataType ["useList"] base list

/-- Whether each of these is a list. -/
def listFlags (ns : Texts) : List Property := ns.map fun name => flag s!"use{name}List"

/-- The property that turns a socket into one for lists, by its name. -/
def ownFlag (s : SocketNames) : Texts := ["use" ++ camelCase s.name ++ "List"]

def NodeId.takesSome : NodeId -> Act := takesMany dataType (ownFlag base) base list opts grows d

def NodeId.givesSome : NodeId -> Act := givesMany dataType (ownFlag base) base list opts
end

/-! Settings of sockets. -/

def val : String × Value := ("value", v)
def atLeast : String × Value := ("minValue", v)
def atMost : String × Value := ("maxValue", v)

/-- A number and the bounds that the user may choose it from. -/
def dial (start : Value) (low : Value := 0) (high : Value := .none) : Fields :=
 [val start, atLeast low] ++ if high.isNone then [] else [atMost high]

def hide : String × Value := ("hide", true)
def hideAll (ss : List SocketId) : Act := ss.forM (·.set "hide" true)

/-- Users choose whether the input is used. -/
def optional (used : Bool) : Fields := [("useIsUsedProperty", true), ("isUsed", used)]

def modified : String × Value := ("dataIsModified", true)
def unnamed : String × Value := ("defaultDrawType", "PROPERTY_ONLY")
def textOnly : String × Value := ("defaultDrawType", "TEXT_ONLY")

section
variable (s : SocketNames) (opts : Fields := [])

/-! Inputs of the commonest types. -/

def NodeId.float : NodeId -> Act := takes "Float" s opts
def NodeId.int : NodeId -> Act := takes "Integer" s opts
def NodeId.bool : NodeId -> Act := takes "Boolean" s opts

def NodeId.str : NodeId -> Act := takes "Text" s opts
end

def NodeId.takesObject : NodeId -> Act := takes "Object" "Object" [unnamed]

def NodeId.takesObjects (grows : Bool := true) : NodeId -> Act :=
 takesSome "Object" (named "Object" [unnamed]) "Objects" opts grows

def menu (d : String) : Property := choice name d NodeId.refresh
def toggle (d : Bool := false) : Property := flag name d NodeId.refresh

def NodeId.keepingState (x : Act) : Act := do
 n.rememberState
 x
 n.recallState

def NodeId.usesInput : Ask := do holds (<- n.inputNamed name) "isUsed"
def NodeId.usesInputAt (i : Nat) : Ask := do holds (<- n.input i) "isUsed"

def NodeId.switchable (first : Nat := 1) (n : NodeId) : Act := do
 for s in (<- n.inputs).drop first do s.configure (optional false)

def calling (m : String) (n : NodeId) : Act := do n.tell m [<- context]
def checked : NodeId -> Act := calling "checkedPropertiesChanged"
def rebuilds (_ : σ) : Act := codeChanged
def reruns (_ : σ) : Act := valueChanged
def usesModules : Feature := fn0 "getUsedModules" fun _ => textList ns
def showsIn (property : String) (opts : Fields := []) : Feature := drawing name fun n l => l.prop n property opts
def shows : Feature := showsIn "draw" name opts
def showsMore : Feature := showsIn "drawAdvanced" name opts

/-- A method whose arguments go to a kernel. -/
def delegates (f : String) : Feature := method sig fun _ b => kernel f b.toList

def runs (code : Value) : Feature := fn1 "getExecutionCode required" fun _ _ => pure code
def runsCode (body : NodeId -> Eval) : Feature := fn1 "getExecutionCode required" fun n _ => body n
def runsLines (ls : Array String) : Feature := code fun _ _ => pure ls

def runsEither (flag : String) (yes no : Array String) : Feature :=
 code fun n _ => return if <- n.is flag then yes else no

def NodeId.lineBy (choice : String) (ls : Fields) : Eval := return (ls.lookup (<- n.word choice)).getD .none

def NodeId.emitBy (choice : String) (ls : Pairs) : Writing Unit := do
 if let some line := ls.lookup (<- n.word choice) then emit line

/-- Transforms one or many by one matrix or by many. -/
def transformsEach : String × String × String × String × String -> String × String × String -> String × String -> String ->
  Feature
 | (flag, one, many, list, d), (flag', by1, byMany), (out, outs), f => writes fun n _ => do
  if (<- n.is flag) || (<- n.is flag') then
   unless <- n.is flag do emit s!"{many} = {list}.fromValue({one})"
   unless <- n.is flag' do emit s!"{byMany} = Matrix4x4List.fromValue({by1})"
   emits #[s!"_{many} = Virtual{list}.create({many}, {d})",
    s!"_{byMany} = VirtualMatrix4x4List.create({byMany}, Matrix.Identity(4))",
    s!"amount = Virtual{list}.getMaxRealLength(_{many}, _{byMany})", s!"{outs} = {f}(amount, _{many}, _{byMany})"]
  else emit s!"{out} = {by1} @ {one}"

def emitWhen (x type first : String) : Writing Unit :=
 emits #[s!"if getattr({x}, 'type', '') == '{type}':", "    " ++ first]

/-- Assigns values to those of the outputs that are required. -/
def emitWanted (vs : Pairs) (indent : String := "") : Writing Unit := do
 for (out, v) in vs do if <- has required out then emit s!"{indent}{out} = {v}"

def NodeId.givesIndices (n : NodeId) : Act := do
 n.gives "Edge Indices List" "Edge Indices"
 n.gives "Polygon Indices List" "Polygon Indices"

def pairFlags : Texts := ["useListA", "useListB"]
def axisFlags : Texts := ["useListX", "useListY", "useListZ"]
def NodeId.takesAxes : Act := do for axis in ["X", "Y", "Z"] do n.takesMany "Float" ["useList" ++ axis] axis axis

def NodeId.givesAxes (axes : String) (n : NodeId) : Act := do
 for axis in axes.toList do n.givesAny "Float" axis.toString axis.toString

/-- One axis after the other is taken from a value, or from every element of a list. -/
def writesAxes (axes one : String) (more : NodeId -> String -> Writing Unit := fun _ _ => return) :
  Feature :=
 writes fun n req => do
  for (c, i) in axes.toList.zipIdx do
   let axis := c.toString
   if <- has req axis then
    if <- n.is "useList" then emit s!"{axis} = self.getAxisList({one}s, '{axis}')"
    else
     emit s!"{axis} = {one}[{i}]"
     more n axis

def ifWanted (more : Writing Unit) : Writing Unit := unless <- isEmpty required do more

def NodeId.linesOfUsed (indent : String := "    ") : Run (Array String) := do
 let kept <- lines.filterM fun (input, _) => n.usesInput input
 return (kept.map (indent ++ ·.2)).toArray

def NodeId.watch (ps : Value) : Act := do
 let e <- n.use "nodeTree.autoExecution.customTriggers.new" ["MONITOR_PROPERTY"]
 e.set "idType" "OBJECT"
 e.set "dataPaths" ps
 e.set "object" (<- (<- n.inputNamed "Object") "object")

def offersTrigger : Feature := drawsMore fun n l =>
 n.button l "createAutoExecutionTrigger" { text := "Create Execution Trigger" }

def rest0 (body : σ -> Values -> Eval) : Feature σ :=
 (name, .free fun s args => if args.named.isEmpty then body s args.pos else fail .type)

def rest1 (body : σ -> Value -> Values -> Eval) : Feature σ :=
 rest0 name fun
  | s, a :: rest => body s a rest
  | _, [] => fail .type

def rest2 (body : σ -> Value -> Value -> Values -> Eval) : Feature σ :=
 rest1 name fun
  | s, a, b :: rest => body s a b rest
  | _, _, [] => fail .type

def rest3 (body : σ -> Value -> Value -> Value -> Values -> Eval) : Feature σ :=
 rest2 name fun
  | s, a, b, c :: rest => body s a b c rest
  | _, _, _, [] => fail .type

def firstItem (xs : Value) : Eval := do
 match <- iter xs with
 | first :: _ => item first 0
 | [] => pure ""

def linesOf : Run (Array String) := return (<- textsOf v).toArray
def baseType : Run String := return (<- need .key (socketTypes.elementOf? type)).name
def listType : Run String := return (<- need .key (socketTypes.listOf? type)).name
def isBaseType : Ask := return socketTypes.isBase type
def isListType : Ask := return socketTypes.isList type
def isValidCode (code : String) : Ask := return (Script.parse code).toOption.isSome

def mixLine? (first second k r : String) : Option String :=
 match dataType with
 | "Float" | "Vector" => some s!"{r} = {first} * (1 - {k}) + {second} * {k}"
 | "Matrix" => some s!"{r} = {first}.lerp({second}, {k})"
 | "Color" => some s!"{r} = Color([v1 * (1 - {k}) + v2 * {k} for v1, v2 in zip({first}, {second})])"
 | "Euler" | "Quaternion" => some s!"{r} = animation_nodes.utils.math.mix{dataType}s({first}, {second}, {k})"
 | _ => none

def mixCode (first second k r : String) : Run String := need .type (mixLine? dataType first second k r)
def among (texts : Texts) : Ask := occursIn v (texts.map .str)
def anyOf : Ask := vs.anyM truthy
def allOf : Ask := vs.allM truthy
def bothOf (a b : Value) : Eval := do if <- truthy a then pure b else pure a
def eitherOf (a b : Value) : Eval := do if <- truthy a then pure a else pure b

def span (start : Value) (stop : Value := .none) (step : Value := .int 1) : Evals := do
 let (low, high) <- if stop.isNone then pure (0, <- indexOf start) else pure (<- indexOf start, <- indexOf stop)
 let step <- indexOf step
 if step == 0 then fail .value
 return (List.range (-(low - high).fdiv step).toNat).map fun i => .int (low + step * Int.ofNat i)

def mapSpan (k : Value) (f : Value -> Eval) : Eval := do list (<- (<- span k).mapM f)
def Value.attrs : Evals := ns.mapM v.attr
def Value.takeAttrs (src : Value) (ns : Pairs) : Act := do for (own, other) in ns do v.set own (<- src.attr other)
def Value.setAttrs (fs : Fields) : Act := do for (name, x) in fs do v.set name x

def exactly (k : Nat) (v : Value) : Evals := do
 let ps <- iter v
 if ps.length == k then return ps
 let (much, given) := if ps.length < k then ("not enough", s!", got {ps.length}") else ("too many", "")
 throw { cause := .value, detail := s!"{much} values to unpack (expected {k}{given})" }

def endless (v d : Value) : Eval := kernel s!"Virtual{type}List.create" [v, d]

/-- Numbers or lists of numbers, as endless lists. -/
def endlessNumbers (xs : Values) : Evals := do
 exactly xs.length (<- kernel "VirtualDoubleList.createMultiple" (xs.map (.tuple [·, 0])))

def longest (ls : Values) : Eval := kernel s!"Virtual{type}List.getMaxRealLength" ls
def filled (v d k : Value) : Eval := do (<- endless type v d).call "materialize" [k]

def invalidItem (shown name : String) (xs : Texts) : String :=
 let possible := commaList (xs.map fun item => s!"'{item}'")
 s!"The {shown} is invalid. \n\nPossible values for '{name}' are: {possible}"

def NodeId.requireItem (v : Value) (name : String) (xs : Texts) (shown : String := name) : Act := do
 unless <- among v xs do n.halt (invalidItem shown name xs)

def NodeId.assignItem (owner : Value) (path : String) (v : Value) (name : String) (xs : Texts) : Act := do
 if <- among v xs then owner.set path v else n.showError (invalidItem name.toLower name xs)

/-- An element of a collection of a mesh object that is not being edited. -/
def elementOfMesh (name path missing : String) : Feature :=
 fn2 s!"{name} object identifier" fun n o id => do
  if <- notEqual (<- o "type") "MESH" then n.halt "No mesh object."
  if <- fits o "mode" "EDIT" then n.halt "Object is not in object mode."
  try item (<- o.at path) id
  catch _ => n.halt missing

/-- A method whose numbers go to a kernel as endless lists, behind the length of the longest. -/
def combinesNumbers (f : String) (more : NodeId -> Evals := fun _ => pure []) : Feature := method sig fun n b => do
 let ls <- endlessNumbers b.toList
 kernel f ((<- longest "Double" ls) :: ls ++ (<- more n))

/-- A falloff is asked for its strength at places. -/
def evaluatesFalloff : Feature :=
 fn1 "getFalloffEvaluator falloff" fun n fo => do
  try fo.call "getEvaluator" ["LOCATION"]
  catch _ => n.halt "This falloff cannot be evaluated for vectors"

def NodeId.takesOffsetLocations : NodeId -> Act :=
 takesMany "Vector" ["useVectorList"] (named ("Location", "offsetLocations") [val (.tuple [0, 0, 1])])
  ("Locations", "offsetLocations")

def NodeId.requireMeshObject (o : Value) : Act := do
 if <- notEqual (<- o "type") "MESH" then n.halt "Object is not a mesh object."
 if <- notEqual (<- o "mode") "OBJECT" then n.halt "Object is not in object mode."

def splitLast (args : Values) : Run (Values × Value) := do
 let some last := args.getLast? | fail .value
 pure (args.dropLast, last)

def unpack2 : Run (Value × Value) := do
 let [a, b] <- exactly 2 v | fail .value
 pure (a, b)

def unpack3 : Run (Value × Value × Value) := do
 let [a, b, c] <- exactly 3 v | fail .value
 pure (a, b, c)

def table : Eval := do
 match <- register name with
 | .none =>
  let t <- newDict []
  setRegister name t
  pure t
 | t => pure t

def wholeOf : Eval := toInt v
def label? (xs : Pairs) (key : Value) : Option Value := (key.text?.bind (xs.lookup ·)).map .str
def labelled (missing : Cause) (xs : Pairs) (key : Value) : Eval := need missing (label? xs key)
def labelsBy (prop : String) (xs : Pairs) : Feature := labels fun n => do labelled .key xs (<- n.attr prop)

def NodeId.offerTypes (l : LayoutId) (m : String) (types : String := "ALL") : Act :=
 n.selector l "DATA_TYPE" m { text := "Change Type", icon := "TRIA_RIGHT" } types

def rounded (ps : Value := .none) : Eval := do
 match v.number?, ps with
 | some (.whole i), .none => pure i
 | some (.whole i), ps =>
  let n <- indexOf ps
  return if n < 0 then Decimal.roundZeros n.natAbs i else i
 | some (.real x), .none =>
  need (if x.isNaN then .value else .overflow) (Decimal.wholePart x (·.round))
 | some (.real x), ps =>
  let y := Decimal.roundTo (<- indexOf ps) x
  if y.isInf && !x.isInf then fail .overflow else pure y
 | none, _ => fail .type

def isClose (a b : Value) : Ask := do
 let x <- toFloat a
 let y <- toFloat b
 if x == y then return true
 if x.isInf || y.isInf then return false
 return (x - y).abs <= 1e-9 * max x.abs y.abs

def total : Eval := vs.foldlM add 0
def randomText (k : Value) : Eval := do randomLetters (<- natArg k)
def scaled (k : Float) (v : Value) : Eval := return (<- toFloat v) * k
def radians : Eval := scaled (3.141592653589793 / 180.0) v
def degrees : Eval := scaled (180.0 / 3.141592653589793) v
def randomSeed (limit : Nat) : Eval := return .int ((<- nextRandom) * limit / 32768)
def randomFraction : Eval := return .float ((<- nextRandom).toFloat / 32768.0)
def NodeId.reporting (x : Eval) : Eval := do try x catch f => n.halt f.text

def reseeds : Members := [act1 "duplicate sourceNode" fun n _ => n.tell "randomizeNodeSeed",
 act0 "randomizeNodeSeed" fun n => do n.set "nodeSeed" (<- randomSeed 100)]

def withSeed (ms : Members) : Members := act0 "setup" (·.tell "randomizeNodeSeed") :: reseeds ++ ms

def showsSeed : Feature :=
 draws fun n l => do
  let row <- l.line
  row.prop n "nodeSeed" "Node Seed"
  row.prop n "createList" (badge "" "LINENUMBERS_ON")

def runsSeeded (many : String) (one : Array String) : Feature :=
 code fun n _ => do
  let ls := if <- n.is "createList" then #[many] else one
  return #["_seed = AN.utils.math.cantorPair(max(seed, 0), self.nodeSeed)"] ++ ls

def seedProperties : List Property := [whole "nodeSeed" 0 reruns, toggle "createList"]

def NodeId.takesSeed (type : String := "Integer") (least : Nat := 0) (n : NodeId) : Act := do
 n.takes type "Seed"
 if <- n.is "createList" then n.int "Count" (dial 5 least)

def NodeId.givesSeeded (type : String) (one many : SocketNames) (n : NodeId) : Act := do
 if <- n.is "createList" then n.gives s!"{type} List" many else n.gives type one

/-- Nodes that wiggle numbers, vectors and rotations differ in the type and in how one value is made from noise. -/
def wiggleNode (type noun list : String) (amplitude : Eval) (single : String -> String)
  (seedType : String := "Float") : NodeKind := .called (type ++ "Wiggle") <| .of (noun ++ " Wiggle") seedProperties
  (fun n => do
 n.takesSeed seedType
 n.float "Evolution"
 n.float "Speed" (dial 1)
 n.takes type "Amplitude" [val (<- amplitude)]
 n.int "Octaves" (dial 2)
 n.float "Persistance" [val 0.3]
 n.givesSeeded type noun s!"{noun}s") <| withSeed [showsSeed,
 code fun n _ => do
  let name := Letters.lowered noun
  let noise := "algorithms.perlin_noise."
  if <- n.is "createList" then
   return #["_seed = seed * 23452 + self.nodeSeed * 643523",
    name ++ "s = " ++ noise ++ "wiggle" ++ list ++ "List(max(0, count), _seed + evolution * speed / 20, amplitude, octaves, persistance)"]
  else
   let opts := "ForNodes(seed, self.nodeSeed, evolution, speed, amplitude, octaves, persistance)"
   return #[name ++ " = " ++ single (noise ++ "perlinNoise" ++ (if type == "Float" then "" else "Vector") ++ opts)]]

def checks : Feature := act1 "checkedPropertiesChanged context" fun n _ => do
 n.tell "updateSocketVisibility"
 codeChanged

def NodeId.meshParts (possible : Bool) (ps : List (Eval)) : Eval := do
 let found <- ps.zipIdx.mapM fun (part, i) => do
  if possible && (<- holds (<- n.output i) "isLinked") then part else pure .none
 let kinds := ["Vector3DList", "EdgeIndicesList", "PolygonIndicesList"]
 tuple (<- (found.zip kinds).mapM fun (part, kind) => if part.isNone then kernel kind [] else pure part)

def invertedFalloff (fo : Value) : Eval := kernel "RemapFalloff" [fo, 0, 1, 1, 0]

def unanswered (message : Option String := none) : Feature σ :=
 method sig fun _ _ => throw { cause := .notImplemented, message }

def describedNames : Run (Value × Value) := return (<- item v 0, <- item v 1)

def newVectorizedRecord (args : Args) : Eval := do
 let b <- bindArgs ["dataType", "properties", "baseData", "listData", opt "codeProperties" .none] args
 let (_, base) <- describedNames (b 2)
 let (_, many) <- describedNames (b 3)
 if (socketTypes.listOf? (<- textArg (b 0))).isNone then fail .key
 let props <- match b 1 with
  | .str p => list [p]
  | v => pure v
 let opts <- if (b 4).isNone then pure [] else iter (b 4)
 let unknown <- opts.filterM fun k => return !(k.is "allowListExtension" || k.is "default")
 unless unknown.isEmpty do failWith ("invalid code properties: " ++ (<- literal (<- list unknown)))
 newRecord "VectorizedSocket" [("properties", props), ("baseIdentifier", base), ("listIdentifier", many)]

def numberedVariables (ss : List SocketId) (lead : String) : Eval := do
 newDict (<- ss.zipIdx.mapM fun (s, i) => return (<- s.identifier, lead ++ toString i))

def numbersInputs (lead : String) : Feature :=
 fn0 "getInputSocketVariables" fun n => do numberedVariables (<- n.inputs) lead

variable (n : NodeId)

/-- Copies are placed by matrices or by vectors. -/
def NodeId.takesPlaces : Act :=
 do n.takes (if (<- n "transformationType").is "MATRIX_LIST" then "Matrix List" else "Vector List") "Transformations"

def runsByPlaces (ms vs : Plan) : Members :=
 [shows "transformationType" bare, runsBy (.byItem "transformationType" [("MATRIX_LIST", ms), ("VECTOR_LIST", vs)])]

/-- Copies of one or several things of a kind at all places. -/
def copiesAt (kind : String) (xs ps : Value) (move : Value -> Value -> Act) : Eval := do
 let xs <- if <- isA xs kind then pure [xs] else iter xs
 let copies <- (<- iter ps).mapM fun place => xs.mapM fun x => do
  let copy <- x.call "copy"
  move copy place
  pure copy
 list copies.flatten

def NodeId.requireName (name : Value) (title : String) : Act := do
 if <- equal name "" then n.halt s!"{title} name can't be empty."

export NodeId (float int bool str takesAny givesAny takesMany givesMany takesSome givesSome takesObject takesObjects switchable givesIndices takesAxes givesAxes
 takesOffsetLocations takesSeed givesSeeded takesPlaces)

variable (m : String)

/-- A button beside the socket that stands for new ones. -/
def drawsNew : Feature :=
 act2 "drawControlSocket layout socket" fun n l s => do
  let (left, right) <- (<- layoutOf l).splitToSides
  left.write (<- s "name")
  n.selector right "DATA_TYPE" m { icon := "ADD", emboss := false }

/-- The targets of the socket that stands for new ones get sockets of their own. -/
def NodeId.makeFor (control : Value) (asked : Texts := ["getDisplayedName", "getProperty"]) : Act := do
 for t in <- each control "dataTargets" do
  if (<- t "dataType").is "Node Control" then continue
  (<- n.call m ((<- t "dataType") :: (<- asked.mapM (t.call ·)))).tell "linkWith" [t]

def setAll (s : Value) (ns : Texts) : Act := do for name in ns do s.set name true

def makeEditable (s name : Value) : Act := do
 s.set "text" name
 setAll s ["moveable", "removeable"]
 (<- s "textProps").set "editable" true
 setAll (<- s "display") ["text", "textInput", "removeOperator"]

/-- Puts the new socket before the one that makes new ones. -/
def NodeId.placeLast (s : Value) : Eval := do
 s.tell "moveUp"
 if (<- n.inputs).length > 2 then s.tell "copyDisplaySettingsFrom" [<- n.input 0]
 pure s

/-- A socket of some type that the user may name and move, in front of the one that stands for new ones. -/
def makeNamed (ty name : Value) (make : String -> String -> Run SocketId) (setUp : SocketId -> Act) : Eval := do
 let name := if name.isNone then ty else name
 let s <- make (<- text ty) (<- text name)
 setUp s
 makeEditable s name
 s.tell "moveUp"
 pure s

def makesModified (make : NodeId -> String -> String -> Run SocketId) : Feature :=
 fn2 s!"{m} dataType name?" fun n ty name => makeNamed ty name (make n) (·.set "dataIsModified" true)

def makesOutputs : Members := [
 act0 "edit" fun n => do
  n.makeFor m (<- n.output (-1))
  (<- n.output (-1)).tell "removeLinks",
 fn3 s!"{m} dataType name? defaultValue?" fun n ty name v => do
  makeNamed ty name (fun t s => do n.newOutput t s (<- text (<- randomText 10)))
   fun s => do if v.isSome then s.tell "setProperty" [v]]

def uncorrected : Feature Unit :=
 unanswered "correctValue value" (some "All sockets have to define a correctValue method")

def plainStatics : Members Unit :=
 [uncorrected, fn0 "isCopyable" fun _ => pure false, fn0 "hasProperty" fun _ => pure false]

/-- The name of a file is shown, and what is known of files can be cleared. -/
def remembersFiles (known : String) : Members :=
 [draws fun n l => do
  let s <- n.input 0
  if <- holds s "isUnlinked" then
   let name := fileName (<- textArg (<- s "value"))
   unless name == "" do l.sign name "FILE_TEXT",
 drawsMore fun n l => n.button l "clearCache" { text := "Clear Cache" },
 act0 "clearCache" fun _ => do (<- table known).tell "clear"]

def familyKinds : List RecordKind := [
 { name := "AnimationNode"
   statics := [fn1 "poll nodeTree" fun _ tree => do fits tree "bl_idname" treeKind] },
 { name := "AnimationNodeSocket"
   statics :=
    unanswered "getDefaultValue" (some "All sockets have to define a getDefaultValue method") :: plainStatics },
 { name := "ListSocket"
   statics :=
    unanswered "getDefaultValue" :: unanswered "getFromValuesCode" :: unanswered "getJoinListsCode" :: plainStatics },
 { name := "PythonListSocket"
   statics := [fn0 "getDefaultValue" fun _ => list [],
    fn0 "getFromValuesCode" fun _ => pure "value",
    fn0 "getJoinListsCode" fun _ => pure "list(itertools.chain(value))",
    uncorrected] },
 { name := "SocketTemplate"
   construct := some fun _ => newRecord "SocketTemplate" []
   members :=
    ["createInput node", "createOutput node", "create node sockets", "getSocketIdentifiers", "getRelatedPropertyNames",
    "applyWithContext node socket updatedProperties fixedProperties", "apply node socket"].map fun (m : String) => unanswered m },
 { name := "VectorizedSocket"
   construct := some newVectorizedRecord
   members :=
    [unanswered "create node sockets", unanswered "apply node socket",
    fn0 "getSocketIdentifiers" fun c => do textSet [<- textAt c "baseIdentifier", <- textAt c "listIdentifier"],
    fn0 "getRelatedPropertyNames" fun c => do textSet (<- textsOf (<- c "properties")),
    fn1 "inputShouldBeList node" fun c n => do (<- textsOf (<- c "properties")).allM fun p => do truthy (<- n.at p),
    fn1 "outputShouldBeList node" fun c n => do
     (<- textsOf (<- c "properties")).anyM fun p => do truthy (<- n.at p)] },
 { name := "SocketPropertyState"
   statics := [fn2 "fromSocket node socket" fun _ node s => do
    newRecord "SocketPropertyState"
     [("hide", <- s "hide"), ("isUsed", <- s "isUsed"), ("data", <- s.call "getProperty"),
     ("allIdentifiers", <- node.call "getAllIdentifiersOfSocket" [s])]] }]

end AnimationGraph
