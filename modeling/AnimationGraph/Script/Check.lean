import AnimationGraph.Script.Reader

/-! # Statements, and what scripts may not do

A case of a choice says what a value must look like and gives names to parts of it. Some scripts can be read and still
cannot be run: they return or leave a loop where there is none, or use names in two ways.
-/

namespace AnimationGraph.Script

open Reader

namespace Captures

def all (ps : List Captures) : Captures :=
 let names := ps.flatMap (·.names)
 { names, always := false, sound := names.Nodup && ps.all (·.sound) }

def any (ps : List Captures) : Captures :=
 let first := (ps.map (·.names)).headD []
 { names := first
   always := ps.any (·.always)
   sound := ps.all (fun p => p.sound && p.names.all first.contains && first.all p.names.contains)
    && !ps.dropLast.any (·.always) }

def sequence (xs : List (Captures × Bool)) : Captures :=
 let whole := all (xs.map (·.1))
 { whole with sound := whole.sound && (xs.filter (·.2)).length ≤ 1 }

end Captures

variable (r : Part -> Reader Expr)

def captured : Reader String := do
 if <- isWord "_" then fault
 let n <- name
 if <- [".", "(", "="].anyM isSign then fault
 pure n

def numberPattern : Reader Unit := do
 let _ <- takeSign "-"
 match (<- peek).lexeme with
 | .imaginary _ => advance
 | .int _ | .float _ =>
  advance
  if (<- takeSign "+") || (<- takeSign "-") then
   let .imaginary _ := (<- peek).lexeme | fault
   advance
 | _ => fault

def literalPattern? : Reader (Option Bool) := do
 match (<- peek).lexeme with
 | .word "None" | .word "True" | .word "False" => passing (some true)
 | .int _ | .float _ | .imaginary _ | .sign "-" =>
  numberPattern
  return some true
 | .text _ | .bytes _ | .joined .. | .misspelt =>
  let .joined _ <- atom r | return some true
  return some false
 | _ => pure none

section

variable (inner : Reader Captures)

/-- Patterns between commas, each with whether it takes the rest, and whether there is a comma. -/
def sequenceItems (closing : String) : Reader (List (Captures × Bool) × Bool) := do
 let ends : Reader Bool := return (<- isSign closing) || closing == ":" && (<- isWord "if")
 let item : Reader (Captures × Bool) := do
  unless <- takeSign "*" do return (<- inner, false)
  if <- takeWord "_" then return ({}, true)
  return ({ names := [<- captured] }, true)
 if <- ends then return ([], true)
 let first <- item
 let comma <- isSign ","
 return (first :: (<- others ends item), comma)

/-- A pattern in brackets is just that pattern, unless a comma makes a sequence of it. -/
def sequencePattern : List (Captures × Bool) × Bool -> Reader Captures
 | ([(p, false)], false) => pure p
 | ([(_, true)], false) => fault
 | (ps, _) => return .sequence ps

def entryPatterns : Nat -> Reader (List Captures)
 | 0 => fault
 | fuel + 1 => do
  if <- isSign "\x7d" then return []
  if <- takeSign "**" then
   let n <- captured
   let _ <- takeSign ","
   return [{ names := [n] }]
  let known <- match <- literalPattern? r with
   | some known => pure known
   | none => do
    let _ <- name
    unless <- isSign "." do fault
    let _ <- behind "." name
    pure true
  sign ":"
  let p <- inner
  let p := { p with sound := p.sound && known }
  if <- takeSign "," then return p :: (<- entryPatterns fuel)
  pure [p]

def argumentPatterns : Nat -> List (Option String × Captures) -> Reader (List (Option String × Captures))
 | 0, _ => fault
 | fuel + 1, pre => do
  if <- takeSign ")" then return pre
  let start <- line
  let key <- if <- isSecondSign "=" then do pure (some (<- closed "=" name)) else pure none
  let p <- inner
  if key.isNone && pre.any (·.1.isSome) then faultAt start
  let ps := pre ++ [(key, p)]
  if <- takeSign "," then return <- argumentPatterns fuel ps
  sign ")"
  pure ps

def closedPattern : Reader Captures := do
 if let some known <- literalPattern? r then return { sound := known }
 let fuel := (<- get).length
 match (<- peek).lexeme with
 | .word "_" => passing { always := true }
 | .sign "(" =>
  advance
  sequencePattern (<- closed ")" (sequenceItems inner ")"))
 | .sign "[" =>
  advance
  return .sequence (<- closed "]" (sequenceItems inner "]")).1
 | .sign "\x7b" =>
  advance
  return .all (<- closed "\x7d" (entryPatterns r inner fuel))
 | _ =>
  let n <- name
  let path <- behind "." name
  if <- takeSign "(" then
   let ps <- argumentPatterns inner fuel []
   let whole := Captures.all (ps.map (·.2))
   return { whole with sound := whole.sound && (ps.filterMap (·.1)).Nodup }
  if <- isSign "=" then fault
  return if path.isEmpty then { names := [n], always := true } else {}

end

def casePattern : Nat -> Reader Captures
 | 0 => fault
 | fuel + 1 => do
  let closed := closedPattern r (casePattern fuel)
  let first <- closed
  let more <- behind "|" closed
  let p := if more.isEmpty then first else .any (first :: more)
  unless <- takeWord "as" do return p
  let n <- captured
  return { p with names := p.names ++ [n], sound := p.sound && !p.always && !p.names.contains n }

def casePatterns : Reader Captures := do
 if <- isSign ":" then fault
 sequencePattern (<- sequenceItems (casePattern r (<- get).length) ":")

def dottedName : Reader String := return ".".intercalate ((<- name) :: (<- behind "." name))

def asName : Reader (Option String) := do
 if <- takeWord "as" then return some (<- name)
 pure none

def listOf {α : Type} (part : Reader α) (ends : Reader Bool := pure false) : Reader (List α) := do
 return (<- part) :: (<- others ends part)

def importedName : Reader (String × Option String) := return (<- name, <- asName)

def importStatement : Reader Form := do
 if <- takeWord "import" then return .importing (<- listOf (return (<- dottedName, <- asName)))
 word "from"
 let points <- many do
  if <- takeSign "." then return some "."
  if <- takeSign "..." then return some "..."
  pure none
 let ps := .join points
 let module <- if !ps.isEmpty && (<- isWord "import") then pure ps else do pure (ps ++ (<- dottedName))
 word "import"
 if <- takeSign "*" then return .importingFrom module [("*", none)]
 if <- takeSign "(" then return .importingFrom module (<- closed ")" (listOf importedName (isSign ")")))
 return .importingFrom module (<- listOf importedName)

def assigned : Reader Expr := do if <- isWord "yield" then yieldExpr r else starExprs r

def bracketedTarget? : Reader (Option Bool) := do
 let here <- get
 let t <- attempt? do
  sign "("
  unless isSingleTarget (<- primary r) do fault
  sign ")"
 let annotated <- isSign ":"
 set here
 return t.map fun _ => annotated

def exprStatement : Reader Form := do
 let start <- line
 let bracketed <- bracketedTarget? r
 let first <- assigned r
 match (<- peek).lexeme with
 | .sign "=" =>
  let vs := first :: (<- behind "=" (assigned r))
  let ts := vs.dropLast
  unless ts.all (isTarget targetDepth) do faultAt start
  return .assign ts (vs.getLast?.getD .none)
 | .sign ":" =>
  unless isSingleTarget first && bracketed != some false do fault
  advance
  let _ <- r .expr
  return .annotate first (<- option "=" (assigned r))
 | _ =>
  let some op <- takeFrom ((("**", .pow) :: binarySigns.flatten).map fun (s, op) => (s ++ "=", op)) | return .expr first
  unless isSingleTarget first do faultAt start
  return .augment first op (<- assigned r)

def simpleStatement : Reader Form := do
 if <- takeWord "pass" then return .pass
 if <- takeWord "break" then return .break
 if <- takeWord "continue" then return .continue
 if <- takeWord "return" then
  if <- startsExpr then return .return (some (<- starExprs r))
  return .return none
 if <- takeWord "raise" then
  unless <- startsExpr do return .raise none
  let e <- r .expr
  if <- takeWord "from" then
   let _ <- r .expr
  return .raise (some e)
 if <- takeWord "global" then return .global (<- listOf name)
 if <- takeWord "nonlocal" then return .nonlocal (<- listOf name)
 if <- takeWord "del" then
  let start <- line
  let e <- targets r
  let xs := match e with
   | .tuple xs => xs
   | e => [e]
  unless isDeletable targetDepth e do faultAt start
  return .delete xs
 if <- takeWord "assert" then return .assert (<- r .expr) (<- option "," (r .expr))
 if (<- isWord "import") || (<- isWord "from") then return <- importStatement
 exprStatement r

def simpleLine : Nat -> Reader (List Stmt)
 | 0 => fault
 | fuel + 1 => do
  let s := .mk (<- line) (<- simpleStatement r)
  if <- takeSign ";" then
   if <- take .newline then return [s]
   return s :: (<- simpleLine fuel)
  expect .newline
  pure [s]

def usedItem : Reader (Expr × Option Expr) := do
 let e <- r .expr
 unless <- takeWord "as" do return (e, none)
 let t <- starExpr r
 unless isTarget targetDepth t do fault
 pure (e, some t)

def usedItems : Reader (List (Expr × Option Expr)) :=
 let inBrackets : Reader (List (Expr × Option Expr)) := do
  sign "("
  let xs <- closed ")" (listOf (usedItem r) (isSign ")"))
  unless <- isSign ":" do fault
  pure xs
 firstOf inBrackets (listOf (usedItem r))

def chosenSubject : Reader Expr := do
 word "match"
 let first <- starNamed r
 let comma <- isSign ","
 let more <- others (isSign ":") (starNamed r)
 if !comma && first matches .starred _ then fault
 sign ":"
 expect .newline
 return if comma then .tuple (first :: more) else first

def bases : Reader (List Arg) := do
 let here <- get
 if (<- attempt? (namedExpr r)).isSome && (<- startsClause) then fault
 set here
 arguments r

section

variable (block : Reader (List Stmt))

def otherwise : Reader (List Stmt) := do if <- takeWord "else" then block else pure []

def condition : Reader Form := do
 let test <- namedExpr r
 let yes <- block
 let more <- many do
  let start <- line
  unless <- takeWord "elif" do return none
  return some (start, <- namedExpr r, <- block)
 return .cond test yes (more.foldr (fun (start, test, yes) no => [.mk start (.cond test yes no)]) (<- otherwise block))

def handlers : Reader (List Handler) := do
 let grouped <- isSecondSign "*"
 many do
  unless <- takeWord "except" do return none
  let starred <- isSign "*"
  if starred != grouped then fault
  let _ <- takeSign "*"
  let caught <- if !starred && (<- isSign ":") then pure none else do pure (some (<- r .expr))
  let n <- if caught.isSome then asName else pure none
  return some (.mk caught n (<- block))

def cases : Reader (List Case) := do
 let one : Reader Case := do
  word "case"
  let pattern <- casePatterns r
  let cond <- if <- takeWord "if" then do pure (some (<- namedExpr r)) else pure none
  return .mk pattern cond (<- block)
 return (<- one) :: (<- many do
  if <- isNext .dedent then return none
  return some (<- one))

def statement : Reader (List Stmt) := do
 let _ <- many do
  unless <- takeSign "@" do return none
  let _ <- namedExpr r
  expect .newline
  unless (<- ["def", "class", "async"].anyM isWord) || (<- isSign "@") do fault
  return some ()
 let start <- line
 let suspended <- takeWord "async"
 if suspended then unless <- ["def", "for", "with"].anyM isWord do fault
 let one (f : Form) : List Stmt := [.mk start (if suspended then .suspended f else f)]
 if <- takeWord "if" then return one (<- condition r block)
 if <- takeWord "while" then
  return one (.while (<- namedExpr r) (<- block) (<- otherwise block))
 if <- takeWord "for" then
  let t <- targets r
  word "in"
  return one (.loop t (<- starExprs r) (<- block) (<- otherwise block))
 if <- takeWord "try" then
  let body <- block
  let handlers <- handlers r block
  let other <- if handlers.isEmpty then pure [] else otherwise block
  let final <- if <- takeWord "finally" then block else do
   if handlers.isEmpty then fault
   pure []
  return one (.attempt body handlers other final)
 if <- takeWord "with" then return one (.using (<- usedItems r) (<- block))
 if <- isWord "match" then
  if let some subject <- attempt? (chosenSubject r) then
   unless <- take .indent do faultAt (<- line)
   let cases <- cases r block
   expect .dedent
   return one (.choose subject cases)
 if <- takeWord "def" then
  let n <- name
  sign "("
  let ps <- closed ")" (params r true ")")
  let _ <- option "->" (r .expr)
  return one (.define n ps (<- block))
 if <- takeWord "class" then
  let n <- name
  let bases <- if <- takeSign "(" then bases r else pure []
  return one (.classDef n bases (<- block))
 simpleLine r (<- get).length

def statements : Reader (List Stmt) := do
 return (<- many do
  if (<- isNext .dedent) || (<- isNext .stop) then return none
  return some (<- statement r block)).flatten

end

def block : Nat -> Reader (List Stmt)
 | 0 => fault
 | fuel + 1 => do
  sign ":"
  unless <- take .newline do return <- simpleLine r (<- get).length
  unless <- take .indent do faultAt (<- line)
  let body <- statements r (block fuel)
  expect .dedent
  pure body

def parse (script : String) : Except Nat (List Stmt) :=
 let (ts, opened) := tokens script
 let r := reader (60 * ts.length + 100)
 let whole : Reader (List Stmt) := do
  let body <- statements r (block r ts.length)
  unless <- isNext .stop do fault
  pure body
 match whole.run ts with
 | .ok (body, _) => match opened with
  | some o => .error o
  | none => .ok body
 | .error f => .error (faultLine ts opened f)

structure Place where
 (inFunction suspends inLoop inClass collects : Bool := false)
 (outer own : Texts := [])

def Param.name : Param -> String
 | .plain n _ | .rest n | .namedOnly n _ | .namedRest n => n

def Param.default? : Param -> Option Expr
 | .plain _ d | .namedOnly _ d => d
 | _ => none

def Arg.keyword? : Arg -> Option String
 | .mk (.named n) _ => some n
 | _ => none

def parts : Expr -> List Expr
 | .attr e _ | .unary _ e | .starred e | .named _ e | .yieldingFrom e | .awaiting e => [e]
 | .item a b | .binary _ a b | .both a b | .either a b => [a, b]
 | .slice a b c => a.toList ++ b.toList ++ c.toList
 | .call f args => f :: args.map fun | .mk _ e => e
 | .compare e rest => e :: rest.map fun | .mk _ x => x
 | .cond a b c => [a, b, c]
 | .tuple xs | .list xs | .set xs => xs
 | .dict es => es.flatMap fun | .mk k v => k.toList ++ [v]
 | .collect _ e v cs => e :: v.toList ++ cs.flatMap fun | .mk t s conds => t :: s :: conds
 | .lambda ps body => body :: ps.filterMap Param.default?
 | .joined pieces => pieces.filterMap fun
  | .value e _ _ => some e
  | .text _ => none
 | .yielding v => v.toList
 | _ => []

def unstarred (xs : List Expr) : List Expr :=
 xs.map fun
  | .starred e => e
  | e => e

def soundExpr : Nat -> Place -> Expr -> Bool
 | 0, _, _ => false
 | fuel + 1, p, e =>
  let all (p : Place) (xs : List Expr) : Bool := xs.all (soundExpr fuel p)
  match e with
  | .starred _ => false
  | .tuple xs | .list xs | .set xs => all p (unstarred xs)
  | .lambda ps body =>
   (ps.map Param.name).Nodup && all p (ps.filterMap Param.default?)
    && soundExpr fuel { inFunction := true } body
  | .collect _ x v (.mk t src conds :: rest) =>
   let inner := { p with collects := true }
   soundExpr fuel p src && all inner (x :: v.toList ++ t :: conds)
    && rest.all fun | .mk t src conds => all inner (t :: src :: conds)
  | .call f args =>
   (args.filterMap Arg.keyword?).Nodup && soundExpr fuel p f && args.all fun | .mk _ x => soundExpr fuel p x
  | .yielding v => p.inFunction && !p.collects && all p v.toList
  | .yieldingFrom v => p.inFunction && !p.collects && !p.suspends && soundExpr fuel p v
  | .awaiting v => p.suspends && soundExpr fuel p v
  | .item x (.tuple xs) => soundExpr fuel p x && all p (unstarred xs)
  | e => all p (parts e)

/-- The names that an expression gives to values, or that it uses as well. -/
def namesIn (used : Bool) : Nat -> Expr -> Texts
 | 0, _ => []
 | fuel + 1, e =>
  match e with
  | .name n => if used then [n] else []
  | .named n v => n :: namesIn used fuel v
  | e => (parts e).flatMap (namesIn used fuel)

def depthLimit : Nat := 100000

def storedNames : Nat -> Expr -> Texts
 | 0, _ => []
 | fuel + 1, e =>
  match e with
  | .name n => [n]
  | .tuple xs | .list xs => xs.flatMap (storedNames fuel)
  | .starred e => storedNames fuel e
  | _ => []

def Form.expressions : Form -> List Expr
 | .expr e | .cond e _ _ | .while e _ _ => [e]
 | .assign ts v => ts ++ [v]
 | .augment t _ v | .loop t v _ _ => [t, v]
 | .annotate t v | .assert t v => t :: v.toList
 | .delete ts => ts
 | .return v | .raise v => v.toList
 | .using xs _ => xs.flatMap fun (e, t) => e :: t.toList
 | .choose subject cases => subject :: cases.filterMap fun | .mk _ condition _ => condition
 | .define _ ps _ => ps.filterMap Param.default?
 | .classDef _ bases _ => bases.map fun | .mk _ e => e
 | .suspended form => form.expressions
 | _ => []

def Form.blocks : Form -> List (List Stmt)
 | .cond _ a b | .loop _ _ a b | .while _ a b => [a, b]
 | .attempt a hs b c => a :: (hs.map fun | .mk _ _ body => body) ++ [b, c]
 | .using _ a => [a]
 | .choose _ cases => cases.map fun | .mk _ _ body => body
 | .suspended form => form.blocks
 | _ => []

def Form.ownNames : Form -> Texts
 | .assign ts _ | .delete ts => ts.flatMap (storedNames depthLimit)
 | .augment dest _ _ | .annotate dest _ | .loop dest _ _ _ => storedNames depthLimit dest
 | .using xs _ => xs.flatMap fun (_, t) => t.toList.flatMap (storedNames depthLimit)
 | .attempt _ handlers _ _ => handlers.filterMap fun | .mk _ n _ => n
 | .choose _ cases => cases.flatMap fun | .mk p _ _ => p.names
 | .define n _ _ | .classDef n _ _ => [n]
 | .importing ns => ns.map fun (n, other) => other.getD ((n.splitOn ".").headD n)
 | .importingFrom _ ns => ns.map fun (n, other) => other.getD n
 | .suspended form => form.ownNames
 | _ => []

def boundNames : Nat -> List Stmt -> Texts
 | 0, _ => []
 | fuel + 1, body =>
  body.flatMap fun
   | .mk _ form =>
    form.ownNames ++ form.expressions.flatMap (namesIn false depthLimit) ++ form.blocks.flatMap (boundNames fuel)

def sharedNames : Nat -> List Stmt -> Texts
 | 0, _ => []
 | fuel + 1, body =>
  body.flatMap fun
   | .mk _ (.global ns) | .mk _ (.nonlocal ns) => ns
   | .mk _ form => form.blocks.flatMap (sharedNames fuel)

def declaredLate : Nat -> Texts -> List Stmt -> Option Texts
 | 0, _, _ => none
 | _ + 1, seen, [] => some seen
 | fuel + 1, seen, .mk _ form :: rest => do
  match form with
  | .global ns | .nonlocal ns => if ns.any seen.contains then none else declaredLate fuel seen rest
  | form =>
   let own := form.expressions.flatMap (namesIn true depthLimit)
   declaredLate fuel (<- form.blocks.foldlM (fun seen b => declaredLate fuel seen b) (seen ++ own)) rest

def soundCases (cases : List Case) : Bool :=
 cases.all (fun | .mk p _ _ => p.sound) && cases.dropLast.all fun | .mk p cond _ => !p.always || cond.isSome

def soundTarget : Nat -> Place -> Expr -> Bool
 | 0, _, _ => false
 | fuel + 1, p, e =>
  match e with
  | .tuple xs | .list xs => (xs.filter (· matches .starred _)).length ≤ 1 && (unstarred xs).all (soundTarget fuel p)
  | e => soundExpr depthLimit p e

mutual

def soundStmt : Nat -> Place -> Stmt -> Bool
 | 0, _, _ => false
 | fuel + 1, p, .mk _ form =>
  let exprs : Bool := match form with
   | .assign ts v => ts.all (soundTarget fuel p) && soundExpr depthLimit p v
   | .loop t s _ _ => soundTarget fuel p t && soundExpr depthLimit p s
   | form => form.expressions.all (soundExpr depthLimit p)
  exprs && match form with
   | .return _ => p.inFunction
   | .break | .continue => p.inLoop
   | .importingFrom module ns =>
    module.dropWhile (· == '.') != "__future__" && (p.inFunction || p.inClass -> ns.all (·.1 != "*"))
   | .nonlocal ns => ns.all p.outer.contains
   | .loop _ _ body other | .while _ body other =>
    soundAll fuel { p with inLoop := true } body && soundAll fuel p other
   | .attempt _ hs _ _ => hs.dropLast.all (fun | .mk caught _ _ => caught.isSome) && form.blocks.all (soundAll fuel p)
   | .choose _ cases => soundCases cases && form.blocks.all (soundAll fuel p)
   | .define _ ps body => soundFunction fuel p false ps body
   | .suspended (.define _ ps body) => soundFunction fuel p true ps body
   | .suspended inner => p.suspends && soundStmt fuel p (.mk 0 inner)
   | .classDef _ _ body => soundAll fuel { inClass := true, outer := p.outer ++ p.own } body
   | form => form.blocks.all (soundAll fuel p)

def soundFunction : Nat -> Place -> Bool -> List Param -> List Stmt -> Bool
 | 0, _, _, _, _ => false
 | fuel + 1, p, suspends, ps, body =>
  let ns := ps.map Param.name
  let own := ns ++ (boundNames depthLimit body).filter (!(sharedNames depthLimit body).contains ·)
  ns.Nodup && (declaredLate depthLimit ns body).isSome
   && soundAll fuel { inFunction := true, suspends, outer := p.outer ++ p.own, own } body

def soundAll : Nat -> Place -> List Stmt -> Bool
 | 0, _, _ => false
 | fuel + 1, p, body => body.all (soundStmt fuel p)

end

def compile? (script : String) : Option (List Stmt) :=
 match parse script with
 | .error _ => none
 | .ok body => if soundAll depthLimit {} body && (declaredLate depthLimit [] body).isSome then some body else none

def expression? (code : String) : Option Expr :=
 let text := (code.dropWhile fun c => c == ' ' || c == '\t').toString
 if (tokens text).1.any (·.lexeme == .sign ";") then none
 else match compile? text with
  | some [.mk _ (.expr e)] => some e
  | _ => none

end AnimationGraph.Script
