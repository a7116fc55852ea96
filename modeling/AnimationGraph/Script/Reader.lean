import AnimationGraph.Script.Token
import AnimationGraph.Script.Tree

/-! # Reading expressions

Tokens are read into expressions.
-/

namespace AnimationGraph.Script

structure Fault where
 line : Nat
 final : Bool := false

def faultLine (ts : List Token) (opened : Option Nat) (f : Fault) : Nat :=
 if f.final then f.line
 else match ts.find? (·.lexeme == .broken true) with
  | some t => t.line
  | none => (opened.filter (· < f.line)).getD f.line

abbrev Reader := StateT (List Token) (Except Fault)

namespace Reader

def peek : Reader Token := return (<- get).headD ⟨0, .stop, 0⟩
def line : Reader Nat := return (<- peek).line

variable (s : String) {α : Type}

def fault : Reader α := do
 let t <- peek
 throw ⟨t.line, t.lexeme matches .indent | .dedent | .broken _⟩

def faultAt (line : Nat) : Reader α := throw { line }
def advance : Reader Unit := modify (·.drop 1)

variable (l : Lexeme) (s : String) (part : Reader α)

def isNext : Reader Bool := return (<- peek).lexeme == l

def passing (a : α) : Reader α := do
 advance
 pure a

def take : Reader Bool := do if <- isNext l then passing true else pure false

def isSign : Reader Bool := isNext (.sign s)
def isWord : Reader Bool := isNext (.word s)
def takeSign : Reader Bool := take (.sign s)
def takeWord : Reader Bool := take (.word s)

def expect : Reader Unit := unless <- take l do fault

def sign (s : String) : Reader Unit := expect (.sign s)
def word (s : String) : Reader Unit := expect (.word s)

def name : Reader String := do
 let .word s := (<- peek).lexeme | fault
 if Names.keywords.contains s then fault
 passing s

def closed (s : String) (part : Reader α) : Reader α := do
 let a <- part
 sign s
 pure a

def attempt? (r : Reader α) : Reader (Option α) := fun ts =>
 match r.run ts with
 | .ok (a, rest) => .ok (some a, rest)
 | .error _ => .ok (none, ts)

def firstOf (a b : Reader α) : Reader α := fun ts =>
 match a.run ts with
 | .ok r => .ok r
 | .error f =>
  match b.run ts with
  | .ok r => .ok r
  | .error g => .error (if f.line > g.line then f else g)

def within (inner : List Token × Option Nat) (r : Reader α) : Reader α := fun ts =>
 match r.run inner.1 with
 | .ok (a, _) => .ok (a, ts)
 | .error f => .error { line := faultLine inner.1 inner.2 f }

def isSecond : Reader Bool := return ((<- get).drop 1).head?.any (·.lexeme == l)
def isSecondSign : Reader Bool := isSecond (.sign s)

def takeFrom (signs : List (String × α)) : Reader (Option α) := do
 let .sign s := (<- peek).lexeme | pure none
 let some a := signs.lookup s | pure none
 passing (some a)

/-- Read parts as long as there is a next one. -/
def many (next : Reader (Option α)) : Reader (List α) := do
 let rec go : Nat -> Reader (List α)
  | 0 => fault
  | fuel + 1 => do
   let some a <- next | pure []
   return a :: (<- go fuel)
 go ((<- get).length + 1)

/-- The parts that a sign stands before. -/
def behind : Reader (List α) := many do
 unless <- takeSign s do return none
 part

/-- Further parts between commas; a comma may stand behind the last one. -/
def others (ends : Reader Bool) (part : Reader α) : Reader (List α) := many do
 unless <- takeSign "," do return none
 if <- ends then return none
 part

/-- What may stand behind a sign. -/
def option : Reader (Option α) := do
 if <- takeSign s then return some (<- part)
 pure none

end Reader

open Reader

def binarySigns : List (List (String × Binary)) := [
 [("|", .bitOr)], [("^", .bitXor)], [("&", .bitAnd)], [("<<", .shiftLeft), (">>", .shiftRight)],
 [("+", .add), ("-", .sub)], [("*", .mul), ("/", .div), ("//", .floorDiv), ("%", .mod), ("@", .matMul)]]

def relation? : Reader (Option Relation) := do
 if <- takeWord "in" then return some .isIn
 if <- takeWord "is" then return some (if <- takeWord "not" then .isNot else .is)
 if (<- isWord "not") && (<- isSecond (.word "in")) then
  modify (·.drop 2)
  return some .notIn
 takeFrom [("==", .eq), ("!=", .ne), ("<", .lt), ("<=", .le), (">", .gt), (">=", .ge)]

def isSingleTarget (e : Expr) : Bool := e matches .name _ | .attr _ _ | .item _ _

def isTarget : Nat -> Expr -> Bool
 | 0, _ => false
 | fuel + 1, e =>
  match e with
  | .tuple xs | .list xs => xs.all (isTarget fuel)
  | .starred y => isTarget fuel y
  | e => isSingleTarget e

def isDeletable : Nat -> Expr -> Bool
 | 0, _ => false
 | fuel + 1, e =>
  match e with
  | .tuple xs | .list xs => xs.all (isDeletable fuel)
  | .starred _ => false
  | _ => true

def targetDepth : Nat := 1000

/-- Where a text stands: the line it ends on, and the line of what follows it and the texts next to it. -/
structure Spot where
 (last after : Nat)

def orFault {α : Type} (s : Spot) : Option α -> Reader α
 | some a => pure a
 | none => faultAt s.after

/-- Whether a part of a text stands in the layout of an insertion, or even in the layout of one in a layout. -/
inductive Nesting where
 | outside | layout | innermost
 deriving DecidableEq

def Nesting.inner : Nesting -> Nesting
 | .outside => .layout
 | _ => .innermost

def insertionEnd : Nat -> Option (Char × Nat) -> Chars -> Chars -> Chars -> Option (Chars × Chars)
 | 0, _, _, _, _ => none
 | fuel + 1, quote, open_, acc, cs => do
  let c <- cs.head?
  let next quote open_ n := insertionEnd fuel quote open_ ((cs.take n).reverse ++ acc) (cs.drop n)
  if c == '\\' then none
  else if let some (q, n) := quote then if cs.take n == .replicate n q then next none open_ n else next quote open_ 1
  else if c == '\'' || c == '"' then
   let n := if cs.take 3 == [c, c, c] then 3 else 1
   next (some (c, n)) open_ n
  else if let some closing := Scanner.closings.lookup c then next none (closing :: open_) 1
  else if c == '#' then none
  else if open_.head? == some c then next none (open_.drop 1) 1
  else if open_.isEmpty && ['!', '=', '<', '>'].contains c && (cs.drop 1).head? == some '=' then next none [] 2
  else if open_.isEmpty && ['!', ':', '=', '\x7d'].contains c then some (acc.reverse, cs)
  else if [')', ']', '\x7d'].contains c then none
  else next none open_ 1

def insertion? (cs : Chars) : Option (Chars × Option Char × Chars) := do
 let (code, rest) <- insertionEnd (cs.length + 1) none [] [] cs
 if code.all ([' ', '\t', '\n', '\x0c'].contains ·) then none
 else
  let rest := match rest with
   | '=' :: r => r.dropWhile Letters.isSpace
   | r => r
  match rest with
  | '!' :: c :: r => if ['s', 'r', 'a'].contains c then some (code, some c, r) else none
  | r => some (code, none, r)

def plainPart (raw l : Bool) : Nat -> Chars -> Chars -> Option (Chars × Chars)
 | 0, _, _ => none
 | _, acc, [] => some (acc.reverse, [])
 | fuel + 1, acc, c :: rest =>
  let next := rest.headD ' '
  let isBracket (c : Char) := c == '\x7b' || c == '\x7d'
  let taken (n : Nat) := plainPart raw l fuel (((c :: rest).take n).reverse ++ acc) ((c :: rest).drop n)
  if !raw && c == '\\' then
   if next == 'N' && (rest.drop 1).head? == some '\x7b' then
    taken (((rest.drop 2).takeWhile (· != '\x7d')).length + 4)
   else taken (if isBracket next then 1 else 2)
  else if !isBracket c then taken 1
  else if !l && rest.head? == some c then plainPart raw l fuel (c :: acc) (rest.drop 1)
  else if !l && c == '\x7d' then none
  else some (acc.reverse, c :: rest)

def lineAfterTexts : Reader Nat := do
 return (((<- get).dropWhile (·.lexeme.isText)).headD ⟨0, .stop, 0⟩).line

def startsClause : Reader Bool := do return (<- isWord "for") || ((<- isWord "async") && (<- isSecond (.word "for")))

def startsExpr : Reader Bool := do
 match (<- peek).lexeme with
 | .word s => return !Names.keywords.contains s || ["None", "True", "False", "not", "lambda", "await"].contains s
 | .int _ | .float _ | .imaginary _ => return true
 | .sign s => return ["(", "[", "\x7b", "-", "+", "~", "*", "..."].contains s
 | l => return l.isText

def followsNamed (args : List Arg) : Passing -> Bool
 | .plain => args.any (· matches .mk (.named _) _ | .mk .spreadNamed _)
 | .spread => args.any (· matches .mk .spreadNamed _)
 | _ => false

def needsComma (pre tokens : List Token) : Bool :=
 tokens.getLast?.any (·.depth > 0) && match pre.map Token.lexeme with
  | .word s :: next :: _ => s ∉ ["match", "case", "_", "print", "exec"] && !next.isText
  | _ => true

inductive ParamZone where
 | start | slashed | named
 deriving DecidableEq

inductive Part where
 | expr | any | all | negation | sum | factor

section

variable (r : Part -> Reader Expr)

def namedExpr : Reader Expr := do
 if <- isSecondSign ":=" then
  let t <- name
  advance
  return .named t (<- r .expr)
 r .expr

def starred (other : Reader Expr) : Reader Expr := do
 if <- takeSign "*" then return .starred (<- r .sum)
 other

def starExpr : Reader Expr := starred r (r .expr)
def starNamed : Reader Expr := starred r (namedExpr r)

/-- One part, or several ones between commas. -/
def tupleOf (part : Reader Expr) : Reader Expr := do
 let first <- part
 if <- isSign "," then return .tuple (first :: (<- others (return !(<- startsExpr)) part))
 return first

def starExprs : Reader Expr := tupleOf (starExpr r)

def targets : Reader Expr := do
 let start <- line
 let e <- tupleOf (starred r (r .sum))
 unless isTarget targetDepth e do faultAt start
 return e

def yieldExpr : Reader Expr := do
 word "yield"
 if <- takeWord "from" then return .yieldingFrom (<- r .expr)
 if <- startsExpr then return .yielding (some (<- starExprs r))
 return .yielding none

def clauses : Reader (List Clause) := many do
 unless <- startsClause do return none
 let suspended <- takeWord "async"
 word "for"
 let pre <- get
 let t <- targets r
 unless <- takeWord "in" do
  let here <- get
  set pre
  let _ <- starExprs r
  set here
  fault
 let src <- r .any
 let conds <- many do
  unless <- takeWord "if" do return none
  return some (<- r .any)
 return some (.mk t (if suspended then .awaiting src else src) conds)

def params (annotated : Bool) (closing : String) : Reader (List Param) := do
 let rec go : Nat -> List Param -> ParamZone -> Reader (List Param)
  | 0, _, _ => fault
  | fuel + 1, pre, zone => do
   if <- isSign closing then return pre
   let annotation (e : Reader Expr) : Reader Unit := do if annotated then discard <| option ":" e
   let next (ps : List Param) (zone : ParamZone) : Reader (List Param) := do
    if <- takeSign "," then return <- go fuel ps zone
    unless <- isSign closing do fault
    return ps
   if <- takeSign "**" then
    let n <- name
    annotation (r .expr)
    let _ <- takeSign ","
    unless <- isSign closing do fault
    return pre ++ [.namedRest n]
   if <- takeSign "/" then
    if pre.isEmpty || zone != .start then fault
    next pre .slashed
   else if <- takeSign "*" then
    if zone == .named then fault
    if <- takeSign "," then
     if (<- isSign closing) || (<- isSign "**") then fault
     go fuel pre .named
    else
     let n <- name
     annotation (starExpr r)
     next (pre ++ [.rest n]) .named
   else
    let n <- name
    annotation (r .expr)
    let d <- option "=" (r .expr)
    if zone != .named && d.isNone && pre.any (· matches .plain _ (some _)) then fault
    next (pre ++ [if zone == .named then .namedOnly n d else .plain n d]) zone
 go ((<- get).length + 1) [] .start

def argument (first : Bool) : Reader Arg := do
 let start <- line
 if <- takeSign "*" then return .mk .spread (<- r .expr)
 if <- takeSign "**" then return .mk .spreadNamed (<- r .expr)
 if <- isSecondSign "=" then
  let key <- name
  advance
  return .mk (.named key) (<- r .expr)
 let e <- namedExpr r
 unless <- startsClause do return .mk .plain e
 let clauses <- clauses r
 unless first && (<- isSign ")") do faultAt start
 return .mk .plain (.collect .lazy e none clauses)

def arguments : Reader (List Arg) := do
 let rec go : Nat -> List Arg -> Reader (List Arg)
  | 0, _ => fault
  | fuel + 1, pre => do
   if <- takeSign ")" then return pre
   let start <- line
   let arg <- argument r pre.isEmpty
   let .mk passing _ := arg
   let next (args : List Arg) : Reader (List Arg) := do
    if <- takeSign "," then return <- go fuel args
    sign ")"
    return args
   unless followsNamed pre passing do return <- next (pre ++ [arg])
   let here <- get
   let _ <- next [arg]
   faultAt (((here.take (here.length - (<- get).length)).getLast?.map Token.line).getD start)
 go ((<- get).length + 1) []

def pieces (spot : Spot) (raw : Bool) : Nat -> Nesting -> Chars -> Reader (List Piece × Chars)
 | 0, _, _ => faultAt spot.after
 | fuel + 1, level, cs => do
  let (plain, rest) <- orFault spot (plainPart raw (level != .outside) (cs.length + 1) [] cs)
  let shown <- if raw then pure plain else orFault spot (Scanner.unescape false (plain.length + 1) plain)
  let mine := if shown.isEmpty then [] else [Piece.text (.ofList shown)]
  if rest.head? != some '\x7b' then return (mine, rest)
  if level == .innermost then faultAt spot.after
  let (code, conv, rest) <- orFault spot (insertion? (rest.drop 1))
  let e <- within (tokens ("(" ++ .ofList code ++ ")") (spot.last - rest.count '\n')) do
   let e <- r .expr
   unless <- isNext .newline do fault
   return e
  let (l, rest) <- if rest.head? == some ':' then pieces spot raw fuel level.inner (rest.drop 1)
   else pure ([], rest)
  if rest.head? != some '\x7d' then faultAt spot.after
  let (more, rest) <- pieces spot raw fuel level (rest.drop 1)
  return (mine ++ [.value e conv l] ++ more, rest)

def textPieces : Reader (List Piece) := do
 let found <- many do
  let t <- peek
  match t.lexeme with
  | .text s => passing (some (.inl s))
  | .joined raw body =>
   let after <- lineAfterTexts
   advance
   let (mine, _) <- pieces r ⟨t.line + body.toList.count '\n', after⟩ raw (body.length + 1) .outside body.toList
   return some (.inr mine)
  | .bytes _ | .misspelt => faultAt (<- lineAfterTexts)
  | _ => return none
 let join (p : String ⊕ List Piece) (rest : List Piece) : List Piece :=
  match p, rest with
  | .inl s, .text t :: rest => .text (s ++ t) :: rest
  | .inl s, rest => .text s :: rest
  | .inr mine, rest => mine ++ rest
 return found.foldr join []

def bytesRest : Reader (List UInt8) := do
 let found <- many do
  match (<- peek).lexeme with
  | .bytes data => passing (some data)
  | .text _ | .joined _ _ | .misspelt => faultAt (<- lineAfterTexts)
  | _ => return none
 return found.flatten

/-- What stands between brackets: items, or a collection. -/
def contents (into : Collector) (closing : String) (items : List Expr -> Bool -> Reader Expr) : Reader Expr := do
 let first <- starNamed r
 if <- startsClause then return .collect into first none (<- closed closing (clauses r))
 let comma <- isSign ","
 items (first :: (<- closed closing (others (isSign closing) (starNamed r)))) comma

def entry : Reader Entry := do
 if <- takeSign "**" then return .mk none (<- r .sum)
 let k <- r .expr
 sign ":"
 return .mk (some k) (<- r .expr)

def table : Reader Expr := do
 let more := others (isSign "\x7d") (entry r)
 if <- isSign "**" then return .dict ((<- entry r) :: (<- more))
 let first <- starNamed r
 if <- takeSign ":" then
  let v <- r .expr
  if <- startsClause then return .collect .dict first (some v) (<- clauses r)
  return .dict (.mk (some first) v :: (<- more))
 if <- startsClause then return .collect .set first none (<- clauses r)
 return .set (first :: (<- others (isSign "\x7d") (starNamed r)))

def atom : Reader Expr := do
 match (<- peek).lexeme with
 | .word "None" => passing .none
 | .word "True" => passing (.bool true)
 | .word "False" => passing (.bool false)
 | .word _ => return .name (<- name)
 | .int i => passing (.int i)
 | .float x => passing (.float x)
 | .imaginary x => passing (.imaginary x)
 | .bytes _ => return .bytes (<- bytesRest)
 | .text _ | .joined _ _ | .misspelt =>
  match <- textPieces r with
  | [] => return .str ""
  | [.text s] => return .str s
  | pieces => return .joined pieces
 | .sign "..." => passing .ellipsis
 | .sign "(" =>
  advance
  if <- takeSign ")" then return .tuple []
  if <- isWord "yield" then return <- closed ")" (yieldExpr r)
  let start <- line
  contents r .lazy ")" fun
   | [.starred _], false => faultAt start
   | [e], false => return e
   | xs, _ => return .tuple xs
 | .sign "[" =>
  advance
  if <- takeSign "]" then return .list []
  contents r .list "]" fun xs _ => return .list xs
 | .sign "\x7b" =>
  advance
  if <- takeSign "\x7d" then return .dict []
  closed "\x7d" (table r)
 | _ => fault

def slice : Reader Expr := do
 if <- takeSign "*" then return .starred (<- r .expr)
 let bound : Reader (Option Expr) := do
  if <- [":", "]", ","].anyM isSign then return none
  r .expr
 let rest (start : Option Expr) : Reader Expr := do
  return .slice start (<- bound) (<- if <- takeSign ":" then bound else pure none)
 if <- takeSign ":" then return <- rest none
 let named <- isSecondSign ":="
 let e <- namedExpr r
 if named || !(<- isSign ":") then return e
 advance
 rest (some e)

def primary : Reader Expr := do
 let e <- atom r
 let steps <- many do
  if <- takeSign "." then
   return some (Expr.attr · (<- name))
  if <- takeSign "(" then
   return some (.call · (<- arguments r))
  unless <- takeSign "[" do return none
  let i <- closed "]" do
   let first <- slice r
   if <- isSign "," then return .tuple (first :: (<- others (isSign "]") (slice r)))
   return first
  return some (.item · i)
 return steps.foldl (fun e step => step e) e

def factor : Reader Expr := do
 if let some op <- takeFrom [("-", .neg), ("+", .pos), ("~", .invert)] then return .unary op (<- r .factor)
 let e <- if <- takeWord "await" then do pure (.awaiting (<- primary r)) else primary r
 if <- takeSign "**" then return .binary .pow e (<- r .factor)
 return e

def binary : List (List (String × Binary)) -> Reader Expr
 | [] => factor r
 | signs :: tighter => do
  let first <- binary tighter
  let rest <- many do
   let some op <- takeFrom signs | return none
   return some (op, <- binary tighter)
  return rest.foldl (fun left (op, right) => .binary op left right) first

def comparison : Reader Expr := do
 let e <- r .sum
 let cs <- many do
  let some relation <- relation? | return none
  return some (.mk relation (<- r .sum))
 return if cs.isEmpty then e else .compare e cs

def anyExpr : Reader Expr := do
 if <- takeWord "lambda" then return .lambda (<- closed ":" (params r false ":")) (<- r .expr)
 let pre <- get
 let start <- line
 let e <- r .any
 if <- takeWord "if" then
  let test <- r .any
  unless <- takeWord "else" do
   if <- isSign ":" then fault
   faultAt start
  return .cond test e (<- r .expr)
 if <- startsExpr then
  let here <- get
  let next <- attempt? (r (if <- isWord "lambda" then .expr else .any))
  if next.isSome && needsComma pre (here.take (here.length - (<- get).length)) then faultAt start
  set here
 return e

end

def reader : Nat -> Part -> Reader Expr
 | 0, _ => fault
 | fuel + 1, p => do
  let r := reader fuel
  match p with
  | .expr => anyExpr r
  | .any =>
   let e <- r .all
   if <- takeWord "or" then return .either e (<- r .any)
   return e
  | .all =>
   let e <- r .negation
   if <- takeWord "and" then return .both e (<- r .all)
   return e
  | .negation =>
   if <- takeWord "not" then return .unary .not (<- r .negation)
   comparison r
  | .sum => binary r binarySigns
  | .factor => factor r

end AnimationGraph.Script
