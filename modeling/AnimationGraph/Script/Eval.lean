import AnimationGraph.Node.Vocabulary

/-! # Running scripts

A script runs in a table of variables. A path to a property is a chain of names, written like an expression.
-/

namespace AnimationGraph.Script

/-- The tables that names are looked up in, innermost first; the last one belongs to the script. -/
structure Scope where
 tables : List CellId
 /-- Names that the function has declared to belong to the script. -/
 shared : Texts := []

inductive Flow where
 | next | break | continue
 | return (v : Value)

namespace Scope

def script (s : Scope) : CellId := s.tables.getLast?.getD ⟨0⟩
def inner (s : Scope) : CellId := s.tables.head?.getD ⟨0⟩

end Scope

variable (table : CellId) (name : String) (s : Scope) (f : Failure) (op : Binary)

def held? : Run (Option Value) :=
 look fun w => match w.cell table with
  | .dict es => (es.find? (·.1.is name)).map (·.2)
  | _ => none

def withEntry (es : Array (Value × Value)) (name : String) (v : Value) : Array (Value × Value) :=
 match es.findIdx? (·.1.is name) with
 | some i => es.set! i (name, v)
 | none => es.push (name, v)

def setVariable (v : Value) : Act := do
 let .dict es <- readCell table | fail .type
 writeCell table (.dict (withEntry es name v))

def setVariables (vars : Fields) : Act := vars.forM fun (name, v) => setVariable table name v
def wholeImports : String := "*"

def lookup (name : String) : Eval := do
 for t in (if s.shared.contains name then [s.script] else s.tables) do if let some v <- held? t name then return v
 if let some (.tuple spaces) <- held? s.script wholeImports then
  for space in spaces do if let some v <- space.attr? name then return v
 if let some v <- (Value.space "builtins").attr? name then return v
 fail .name

def store (name : String) (v : Value) : Act := setVariable (if s.shared.contains name then s.script else s.inner) name v

def wording : String :=
 match f.message, f.cause with
 | some m, _ => m
 | none, .zeroDivision => "division by zero"
 | none, _ => ""

def covers (general special : String) : Bool :=
 [special, "Exception", "BaseException"].contains general ||
  [("LookupError", "KeyError"), ("LookupError", "IndexError"), ("ArithmeticError", "ZeroDivisionError"),
  ("ArithmeticError", "OverflowError"), ("OSError", "FileNotFoundError"),
  ("ImportError", "ModuleNotFoundError")].contains (general, special)

def namedCauses : List Cause := [
 .general, .attr, .key, .index, .type, .value, .name, .zeroDivision, .overflow, .notImplemented, .malformed,
 .assertion, .recursion, .missingModule, .missingFile, .endOfIteration, .unavailable, .lookup, .truncated, .notSetUp,
 .controlled]

def causeNamed (label : String) : Cause := (namedCauses.find? (·.label == label)).getD (.host label)

def failureOf : Value -> Run Failure
 | .kind label => return { cause := causeNamed label }
 | .cell id => do
  let .record r <- readCell id | return { cause := .type }
  let some (.tuple [m]) := r.fields.get? "args" | return { cause := causeNamed r.kind }
  return { cause := causeNamed r.kind, message := some (<- text m) }
 | _ => return { cause := .type }

def valuesOf : Value -> Values
 | .tuple xs => xs
 | x => [x]

def caughtBy (classes : Value) (label : String) : Bool :=
 (valuesOf classes).any fun
  | .kind gen => covers gen label
  | _ => false

def bitwise (f : Nat -> Nat -> Nat) (a b : Value) : Eval := do
 match a, b with
 | .bool x, .bool y => return f x.toNat y.toNat != 0
 | _, _ =>
  let x <- indexOf a
  let y <- indexOf b
  if x < 0 || y < 0 then fail .value
  return (f x.toNat y.toNat : Nat)

def applyBinary (a b : Value) : Eval :=
 match op with
 | .add => add a b
 | .sub => sub a b
 | .mul => mul a b
 | .div => div a b
 | .floorDiv => floorDiv a b
 | .mod => match a with
  | .str s => do percentText s (valuesOf b)
  | _ => mod a b
 | .pow => pow a b
 | .matMul => matMul a b
 | .shiftLeft => bitwise (· <<< ·) a b
 | .shiftRight => bitwise (· >>> ·) a b
 | .bitAnd => setOr (fun xs ys => xs.filterM (occursIn · ys)) (bitwise (· &&& ·)) a b
 | .bitOr => setOr union (bitwise (· ||| ·)) a b
 | .bitXor => bitwise (· ^^^ ·) a b
where
 percentText (s : String) (args : Values) : Run String := do
  let parts <- (s.splitOn "%s").zipIdx.mapM fun (part, i) => do
   if i == 0 then return part
   return (<- text (<- need .type args[i - 1]?)) ++ part
  return .join parts
 /-- Sets are joined element by element. -/
 setOr (f : Values -> Values -> Evals) (g : Value -> Value -> Eval) (a b : Value) : Eval := do
  match a, b with
  | .cell x, .cell y =>
   match <- readCell x, <- readCell y with
   | .set xs, .set ys => newSet (<- f xs.toList ys.toList)
   | _, _ => fail .type
  | _, _ => g a b

def applyUnary (op : Unary) (v : Value) : Eval := do
 match op with
 | .neg => negate v
 | .pos => return v
 | .not => return !(<- truthy v)
 | .invert => return .int (-(<- indexOf v) - 1)

def relate (r : Relation) (a b : Value) : Ask := do
 match r with
 | .eq => equal a b
 | .ne => notEqual a b
 | .lt => less a b
 | .le => lessEqual a b
 | .gt => greater a b
 | .ge => greaterEqual a b
 | .is => return identical a b
 | .isNot => return !identical a b
 | .isIn => has b a
 | .notIn => return !(<- has b a)

def applyAugment (a b : Value) : Eval :=
 match op with
 | .add => addTo a b
 | _ => applyBinary op a b

def importSpace (path : String) : Option String -> Act
 | some name => store s name (.space path)
 | none => do
  let first := (path.splitOn ".").headD path
  store s first (.space first)

section

variable (s : Scope) (eval : Expr -> Eval)

def evalBound (e : Option Expr) : Eval := (e.map eval).getD (return .none)

def evalItems (xs : List Expr) : Evals := do
 let found <- xs.mapM fun
  | .starred x => do iter (<- eval x)
  | x => return [<- eval x]
 return found.flatten

def evalArg : Arg -> Run Args
 | .mk passing e => do
  let v <- eval e
  match passing with
  | .plain => return ⟨[v], []⟩
  | .named n => return ⟨[], [(n, v)]⟩
  | .spread => return ⟨<- iter v, []⟩
  | .spreadNamed => return ⟨[], <- (<- iter v).mapM fun k => return (<- text k, <- item v k)⟩

def evalArgs (args : List Arg) : Run Args := do
 let given <- args.mapM (evalArg eval)
 return ⟨given.flatMap (·.pos), given.flatMap (·.named)⟩

def evalChain (left : Value) : List Comparison -> Eval
 | [] => return true
 | .mk r e :: rest => do
  let right <- eval e
  let holds <- relate r left right
  if holds && !rest.isEmpty then evalChain right rest else return holds

def evalPieces : Nat -> List Piece -> Run String
 | 0, _ => fail .exhausted
 | fuel + 1, ps => do
  let texts <- ps.mapM fun
   | .text t => return t
   | .value e conv layout => do
    let v <- eval e
    let l <- evalPieces fuel layout
    match conv with
    | some 'r' => literal v
    | _ => if l.isEmpty then text v else formatted l v
  return .join texts

def assignTo : Nat -> Expr -> Value -> Act
 | 0, _, _ => fail .exhausted
 | fuel + 1, dest, v => do
  match dest with
  | .name n => store s n v
  | .attr o n => (<- eval o).set n v
  | .item o i => setItem (<- eval o) (<- eval i) v
  | .tuple ts | .list ts =>
   let xs <- iter v
   let assignAll (ts : List Expr) (xs : Values) : Act := (ts.zip xs).forM fun (t, x) => assignTo fuel t x
   let pre := ts.takeWhile fun t => !(t matches .starred _)
   if pre.length == ts.length then
    unless xs.length == ts.length do fail .value
    assignAll ts xs
   else
    let after := ts.drop (pre.length + 1)
    if xs.length < pre.length + after.length then fail .value
    let middle := (xs.drop pre.length).take (xs.length - pre.length - after.length)
    assignAll pre xs
    if let some (.starred t) := ts[pre.length]? then assignTo fuel t (<- list middle)
    assignAll after (xs.drop (xs.length - after.length))
  | _ => fail .malformed

def collectAll (element : Expr) (value : Option Expr) : List Clause -> Run (List (Value × Value))
 | [] => return [((<- eval element), <- evalBound eval value)]
 | .mk t src conds :: rest => do
  let found <- (<- iter (<- eval src)).mapM fun v => do
   assignTo s eval depthLimit t v
   if <- conds.allM fun c => do truthy (<- eval c) then collectAll element value rest else return []
  return found.flatten

end

def addFunction (params : List Param) (body : List Stmt) (s : Scope) : Eval := do
 let i <- look (·.functions.size)
 change fun w => { w with functions := w.functions.push ⟨name, params, body⟩ }
 return .operation "function" (i :: s.tables.map .cell)

def evalExpr : Nat -> Scope -> Expr -> Eval
 | 0, _, _ => fail .exhausted
 | fuel + 1, s, e => do
  let eval := evalExpr fuel s
  match e with
  | .name n => lookup s n
  | .none | .ellipsis => return .none
  | .bool b => return b
  | .int i => return i
  | .float x => return x
  | .str t => return t
  | .bytes d => return .bytes d
  | .attr o n => (<- eval o).attr n
  | .item o i => item (<- eval o) (<- eval i)
  | .slice a b c => return sliceValue (<- evalBound eval a) (<- evalBound eval b) (<- evalBound eval c)
  | .call f args =>
   match f with
   | .attr o n =>
    let v <- eval o
    let given <- evalArgs eval args
    v.call n given.pos given.named
   | .name "globals" => return s.script
   | .name "locals" =>
    let .dict es <- readCell s.inner | fail .type
    newDict es.toList
   | _ =>
    let v <- eval f
    let given <- evalArgs eval args
    v.apply given.pos given.named
  | .unary op x => applyUnary op (<- eval x)
  | .binary op a b => applyBinary op (<- eval a) (<- eval b)
  | .both a b =>
   let x <- eval a
   if <- truthy x then eval b else return x
  | .either a b =>
   let x <- eval a
   if <- truthy x then return x else eval b
  | .compare first rest => evalChain eval (<- eval first) rest
  | .cond test yes no => if <- truthy (<- eval test) then eval yes else eval no
  | .tuple xs => return .tuple (<- evalItems eval xs)
  | .list xs => list (<- evalItems eval xs)
  | .set xs => newSet (<- distinctValues (<- evalItems eval xs))
  | .dict entries =>
   let d <- newDict []
   for .mk k v in entries do
    match k with
    | some k => setItem d (<- eval k) (<- eval v)
    | none => d.tell "update" [<- eval v]
   return d
  | .collect into element value clauses =>
   let .cell t <- newDict [] | fail .type
   let inner : Scope := { tables := t :: s.tables }
   let found <- collectAll inner (evalExpr fuel inner) element value clauses
   match into with
   | .list => list (found.map (·.1))
   | .set => newSet (<- distinctValues (found.map (·.1)))
   | .lazy => newCell (.iterator (found.map (·.1)).toArray 0 false)
   | .dict =>
    let d <- newDict []
    for (k, v) in found do setItem d k v
    return d
  | .lambda params body => addFunction "<lambda>" params [.mk 0 (.return (some body))] s
  | .starred _ => fail .malformed
  | .joined pieces => evalPieces eval depthLimit pieces
  | .named n v =>
   let x <- eval v
   store s n x
   return x
  | .imaginary _ | .yielding _ | .yieldingFrom _ | .awaiting _ => fail .notImplemented

def notingLine {α : Type} (line : Nat) (x : Run α) : Run α :=
 tryCatch x fun f => do
  setRegister "failedLine" line
  throw f

/-- A run, with its failure if it fails. -/
def outcome (x : Run Flow) : Run (Except Failure Flow) := tryCatch (return .ok (<- x)) fun f => return .error f

section

variable (s : Scope) (execAll : List Stmt -> Run Flow)

def valueIn (e : Expr) : Eval := evalExpr depthLimit s e
def assignIn (dest : Expr) (v : Value) : Act := assignTo s (valueIn s) depthLimit dest v

def execSimple (form : Form) : Run Flow := do
 let eval := valueIn s
 match form with
 | .expr e => discard <| eval e
 | .assign ts x =>
  let v <- eval x
  for t in ts do assignIn s t v
 | .augment dest op x =>
  let old <- eval dest
  assignIn s dest (<- applyAugment op old (<- eval x))
 | .annotate dest x => if let some e := x then assignIn s dest (<- eval e)
 | .delete ts =>
  for t in ts do
   let .item o i := t | fail .notImplemented
   delItem (<- eval o) (<- eval i)
 | .break => return .break
 | .continue => return .continue
 | .return x => return .return (<- evalBound eval x)
 | .raise x =>
  let v <- match x with
   | some e => eval e
   | none => register "handled"
  if x.isNone && v.isNone then fail .general
  throw (<- failureOf v)
 | .assert test _ => unless <- truthy (<- eval test) do fail .assertion
 | .importing ns => for (path, other) in ns do importSpace s path other
 | .importingFrom module ns =>
  for (n, other) in ns do
   if n == "*" then
    let pre := match <- held? s.script wholeImports with
     | some (.tuple spaces) => spaces
     | _ => []
    setVariable s.script wholeImports (.tuple (pre ++ [.space module]))
   else store s (other.getD n) (<- (Value.space module).attr n)
 | _ => pure ()
 return .next

def rounds (dest : Expr) (body : List Stmt) : Values -> Run Flow
 | [] => return .next
 | v :: rest => do
  assignIn s dest v
  match <- execAll body with
  | .next | .continue => rounds dest body rest
  | flow => return flow

def whileRounds (test : Expr) (body : List Stmt) : Nat -> Run Flow
 | 0 => fail .exhausted
 | fuel + 1 => do
  unless <- truthy (<- valueIn s test) do return .next
  match <- execAll body with
  | .next | .continue => whileRounds test body fuel
  | flow => return flow

def handle (f : Failure) : List Handler -> Run Flow
 | [] => throw f
 | .mk caught name body :: rest => do
  let fits <- match caught with
   | none => pure true
   | some e => do pure (caughtBy (<- valueIn s e) f.cause.label)
  unless fits do return <- handle f rest
  let v <- newRecord f.cause.label [("args", .tuple (if (wording f).isEmpty then [] else [wording f]))]
  if let some n := name then store s n v
  let pre <- register "handled"
  setRegister "handled" v
  let r <- outcome (execAll body)
  setRegister "handled" pre
  ofExcept r

def exec (line : Nat) (form : Form) : Run Flow := do
 let afterLoop (other : List Stmt) : Flow -> Run Flow
  | .next => execAll other
  | .break => return .next
  | flow => return flow
 match form with
 | .cond test yes no =>
  let holds <- notingLine line (do truthy (<- valueIn s test))
  execAll (if holds then yes else no)
 | .loop dest src body other =>
  let xs <- notingLine line (do iter (<- valueIn s src))
  afterLoop other (<- rounds s execAll dest body xs)
 | .while test body other => afterLoop other (<- whileRounds s execAll test body depthLimit)
 | .attempt body handlers other final =>
  let guarded : Run Flow := do
   match <- outcome (execAll body) with
   | .ok .next => execAll other
   | .ok flow => return flow
   | .error f => handle s execAll f handlers
  if final.isEmpty then return <- guarded
  let r <- outcome guarded
  match <- execAll final with
  | .next => ofExcept r
  | flow => return flow
 | .using xs body =>
  for (e, dest) in xs do
   let v <- notingLine line (valueIn s e)
   if let some t := dest then assignIn s t v
  execAll body
 | .define name params body =>
  store s name (<- addFunction name params body s)
  return .next
 | .classDef .. | .choose .. | .suspended _ => fail .notImplemented
 | form => notingLine line (execSimple s form)

end

def execAll : Nat -> Scope -> List Stmt -> Run Flow
 | 0, _, _ => fail .exhausted
 | _ + 1, _, [] => return .next
 | fuel + 1, s, .mk line form :: rest => do
  match form with
  | .global ns => execAll fuel { s with shared := s.shared ++ ns } rest
  | form =>
   match <- exec s (execAll fuel s) line form with
   | .next => execAll fuel s rest
   | flow => return flow

def run (body : List Stmt) : Act := do
 let _ <- execAll depthLimit { tables := [table] } body

def bindParams (scope : Scope) (ps : List Param) (args : Args) : Act := do
 let mut left := args.pos
 let mut named := args.named
 for p in ps do
  match p, left with
  | .plain n _, v :: rest =>
   setVariable table n v
   left := rest
  | .plain n d, [] | .namedOnly n d, _ =>
   match named.get? n, d with
   | some v, _ =>
    setVariable table n v
    named := named.erase n
   | none, some e => setVariable table n (<- evalExpr depthLimit scope e)
   | none, none => fail .type
  | .rest n, _ =>
   setVariable table n (.tuple left)
   left := []
  | .namedRest n, _ =>
   setVariable table n (<- newDict (named.map fun (k, v) => (k, v)))
   named := []
 unless left.isEmpty && named.isEmpty do fail .type

def call (held : Values) (args : Args) : Eval := do
 let .int index :: tables := held | fail .type
 let some f := (<- look (·.functions))[index.toNat]? | fail .type
 let outer := tables.filterMap fun
  | .cell id => some id
  | _ => none
 let .cell table <- newDict [] | fail .type
 bindParams table { tables := outer } f.params args
 let .return v <- execAll depthLimit { tables := table :: outer } f.body | return .none
 return v

def Expr.indexText? : Expr -> Option String
 | .attr (.str s) _ | .item (.str s) _ => some s
 | _ => Option.none

def Expr.steps : Expr -> Except Cause Texts
 | .name s => .ok [s]
 | .attr e m => return (<- e.steps) ++ [m]
 | .item e i => do
  let pre <- e.steps
  match i.indexText? with
  | some s => return pre ++ [s!"[\"{s}\"]"]
  | Option.none => .error .attr
 | _ => .error .notImplemented

def Form.value? : Form -> Except Cause (Option Expr)
 | .expr e | .assign _ e | .augment _ _ e => .ok (some e)
 | .annotate _ e | .return e => .ok e
 | _ => .error .attr

def joinIndices : Texts -> Texts
 | [] => []
 | s :: rest =>
  match joinIndices rest with
  | t :: more => if t.startsWith "[" then (s ++ t) :: more else s :: t :: more
  | [] => [s]

def pathBlocks (path : String) : Except Cause Texts := do
 match parse path with
 | .error _ => .error .malformed
 | .ok [] => .error .index
 | .ok (.mk _ form :: _) =>
  match <- form.value? with
  | some e => return joinIndices (<- e.steps)
  | Option.none => .error .notImplemented

def variableAfter (body : Option (List Stmt)) (fs : Fields) (r : String) : Eval := do
 match body, <- newDict (fs.map fun (name, v) => (name, v)) with
 | some body, .cell t =>
  run t body
  item t r
 | _, _ => fail .malformed

def resultOf (script : String) : Fields -> String -> Eval := variableAfter (compile? script)

def valueOfExpression (expression : String) (fs : Fields) : Eval :=
 variableAfter ((expression? expression).map fun e => [.mk 1 (.assign [.name "__result"] e)]) fs "__result"

end AnimationGraph.Script

namespace AnimationGraph

def nestedProperty (b path : Value) : Run (Value × Value) := do
 let bs <- match Script.pathBlocks (<- textArg path) with
  | .error c => fail c
  | .ok bs => pure bs
 for i in (List.range bs.length).reverse do
  let v <- (bs.take (i + 1)).foldlM (fun v (name : String) => v.attr name) b
  if <- isBlock v then return (v, (".".intercalate (bs.drop (i + 1))))
 return (b, path)

def hasReadableLiteral (v : Value) : Ask := do
 try equal (<- Script.valueOfExpression (<- literal v) []) v
 catch _ => return false

def textOfBytes (code : String) : Run String := do
 let .bytes data <- Script.valueOfExpression code [] | fail .attr
 need (.host "UnicodeDecodeError") (String.fromUTF8? (ByteArray.mk data.toArray))

def codePath (o prop : String) : String := if prop.startsWith "[" then o ++ prop else s!"{o}.{prop}"

def valueAt (owner : Value) (path : String) : Eval :=
 Script.valueOfExpression (codePath "owner" path) [("owner", owner)]

def setValueAt (owner : Value) (path : String) (v : Value) : Act := do
 discard <| Script.resultOf (codePath "owner" path ++ " = value") [("owner", owner), ("value", v)] "value"

variable (object : Value)

def leadsToArray? (path : String) : Run (Option Bool) := do
 try
  let data <- Script.valueOfExpression (if path.startsWith "." then "object" ++ path else codePath "object" path) [("object", object)]
  if <- isA data "str" then return some false
  return some ((<- length data) > 0)
 catch _ => return none

variable (path : Value)

def belongsToArray? : Run (Option Bool) := do
 let known <- table "arrayPaths"
 let key : Value := .tuple [object, path]
 if <- has known key then return some (<- truthy (<- item known key))
 let found <- leadsToArray? object (<- textArg path)
 if let some b := found then setItem known key b
 return found

def newSetter : Eval := do
 let some indexed <- belongsToArray? object path | return .none
 let name := if indexed then "setAttributeWithIndex" else "setAttributeWithoutIndex"
 let t := "object." ++ (<- textArg path) ++ (if indexed then "[index]" else "")
 Script.resultOf s!"\ndef {name}(object, index, value):\n    {t} = value\n" [] name

def setterFor : Eval := do
 let known <- table "setters"
 if <- has known path then return <- item known path
 let setter <- newSetter object path
 setItem known path setter
 return setter

end AnimationGraph
