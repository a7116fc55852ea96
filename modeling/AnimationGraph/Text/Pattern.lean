import AnimationGraph.Text.Edit
import AnimationGraph.Value.Basic
import AnimationGraph.Text.Json

/-! # Patterns of texts

Regular expressions as data: which characters a class admits, the parts of a pattern, and how many characters a
pattern takes.
-/

namespace AnimationGraph

/-- How letters are compared: as they are, or without regard to case for the first 128 characters or for all. -/
inductive Folding where
 | exact | plain | full

namespace Folding

def siblings : List (List Nat) := (Letters.spellings "cC1h4:1iWbG1w:p;2w7hgZbP1hhDP1hhT21wN31xH31wO21xC61wT11xD11
  wA41wScF1gnM21gnN:1gnO31gnP12gnQgnR81gnSI1gnTfnP1bmc1l01ha9bynI1cfmD").toList.map fun (c, cs) => c :: cs.map (·.toNat)

def fold : Folding -> Char -> Char
 | .exact, c => c
 | .plain, c => c.toLower
 | .full, c => (Letters.small c).headD c

def forms : Folding -> Char -> List Nat
 | .exact, c => [c.toNat]
 | .plain, c => if c.isAlpha then [c.toLower.toNat, c.toUpper.toNat] else [c.toNat]
 | .full, c =>
  let code := (fold .full c).toNat
  let smalls := (siblings.find? (·.contains code)).getD [code]
  smalls ++ smalls.flatMap Letters.capitalsOf

end Folding

inductive Category where
 | digit | blank | word

def Category.admits (k : Category) (plain : Bool) (c : Char) : Bool :=
 (!plain || c.toNat < 128) && match k with
  | .digit => Letters.isDecimal c
  | .blank => Letters.isBlank c && !(plain && 28 ≤ c.toNat && c.toNat ≤ 31)
  | .word => Letters.isWord c

/-- Characters that a class admits: the code points of a range, or those that are or are not of a kind. -/
inductive ClassItem where
 | range (low high : Nat)
 | category (kind : Category) (plain negated : Bool)

def ClassItem.admits (f : Folding) (c : Char) : ClassItem -> Bool
 | .range low high => (f.forms c).any fun code => low ≤ code && code ≤ high
 | .category kind plain negated => kind.admits plain c != negated

inductive Place where
 | start | lineStart | finish | lastLine | lineEnd
 | wordEdge (plain negated : Bool)

inductive Pattern where
 | empty
 | one (folding : Folding) (negated : Bool) (items : List ClassItem)
 | both (first second : Pattern)
 | either (first second : Pattern)
 | times (min : Nat) (max : Option Nat) (greedy : Bool) (p : Pattern)
 /-- As often as possible, where of each time only the first way to match counts. -/
 | firm (min : Nat) (max : Option Nat) (p : Pattern)
 | group (index : Nat) (p : Pattern)
 | again (folding : Folding) (index : Nat)
 | once (p : Pattern)
 /-- Something that does, or does not, stand here or so many characters further back. -/
 | look (back : Nat) (negated : Bool) (p : Pattern)
 /-- The first part if a group has matched, the second if not. -/
 | given (index : Nat) (yes no : Pattern)
 | place (at_ : Place)

/-- Least and greatest number of characters; nothing if there is no greatest one. -/
structure Width where
 low : Nat
 high : Option Nat
 deriving DecidableEq, Inhabited

namespace Width

def exactly (n : Nat) : Width := ⟨n, some n⟩
def add (a b : Width) : Width := ⟨a.low + b.low, do return (<- a.high) + (<- b.high)⟩
def join (a b : Width) : Width := ⟨min a.low b.low, do return max (<- a.high) (<- b.high)⟩

def times (min : Nat) (max : Option Nat) (w : Width) : Width :=
 ⟨w.low * min, if w.high == some 0 then some 0 else do return (<- w.high) * (<- max)⟩

def fixed? (w : Width) : Option Nat := if w.high == some w.low then some w.low else none

end Width

namespace Pattern

def literal (c : Char) : Pattern := .one .exact false [.range c.toNat c.toNat]

def width (gs : Nat -> Width) : Pattern -> Width
 | one .. => .exactly 1
 | both a b => (a.width gs).add (b.width gs)
 | either a b | given _ a b => (a.width gs).join (b.width gs)
 | times min max _ p | firm min max p => .times min max (p.width gs)
 | group _ p | once p => p.width gs
 | again _ i => gs i
 | empty | look .. | place _ => .exactly 0

def weight : Pattern -> Nat
 | both a b | either a b | given _ a b => weight a + weight b + 1
 | times min _ _ p | firm min _ p => (weight p + 1) * (min + 2) + 1
 | group _ p | once p | look _ _ p => weight p + 2
 | _ => 1

end Pattern

def Place.isAt (text : Array Char) (i : Nat) : Place -> Bool
 | .start => i == 0
 | .lineStart => i == 0 || text[i - 1]? == some '\n'
 | .finish => i == text.size
 | .lastLine => i == text.size || (i + 1 == text.size && text[i]? == some '\n')
 | .lineEnd => i == text.size || text[i]? == some '\n'
 | .wordEdge plain negated =>
  let isWord (c : Option Char) := c.any (Category.word.admits plain)
  !text.isEmpty && ((isWord (if i == 0 then none else text[i - 1]?) != isWord text[i]?) != negated)

namespace Pattern

structure Groups where
 (begun ended : List (Nat × Nat) := [])

def Groups.span? (gs : Groups) (i : Nat) : Option (Nat × Nat) := do
 let a <- gs.begun.lookup i
 let b <- gs.ended.lookup i
 if a ≤ b then some (a, b) else none

inductive Goal where
 | match (p : Pattern)
 | close (index : Nat)
 | more (max : Option Nat) (greedy : Bool) (p : Pattern) (since : Nat)

def reach (text : Array Char) (accept : Nat -> Bool) : Nat -> List Goal -> Nat -> Groups -> Option (Nat × Groups)
 | 0, _, _, _ => none
 | _, [], i, gs => if accept i then some (i, gs) else none
 | fuel + 1, goal :: goals, i, gs =>
  let go := reach text accept fuel
  let firstWay (p : Pattern) (i : Nat) := reach text (fun _ => true) fuel [.match p] i gs
  let repeated (max : Option Nat) (greedy : Bool) (p : Pattern) (stuck : Bool) :=
   let further := if max == some 0 || stuck then none
    else go (.match p :: .more (max.map (· - 1)) greedy p i :: goals) i gs
   if greedy then further <|> go goals i gs else go goals i gs <|> further
  match goal with
  | .close k => go goals i { gs with ended := (k, i) :: gs.ended }
  | .more max greedy p since => repeated max greedy p (i == since)
  | .match .empty => go goals i gs
  | .match (.one folding negated xs) => do
   if xs.any (·.admits folding (<- text[i]?)) != negated then go goals (i + 1) gs else none
  | .match (.both a b) => go (.match a :: .match b :: goals) i gs
  | .match (.either a b) => go (.match a :: goals) i gs <|> go (.match b :: goals) i gs
  | .match (.times (min + 1) max greedy p) =>
   go (.match p :: .match (.times min (max.map (· - 1)) greedy p) :: goals) i gs
  | .match (.times 0 max greedy p) => repeated max greedy p false
  | .match (.firm (min + 1) max p) => do
   let (j, gs) <- firstWay p i
   go (.match (.firm min (max.map (· - 1)) p) :: goals) j gs
  | .match (.firm 0 max p) =>
   match if max == some 0 then none else firstWay p i with
   | some (j, gs) => go (if j == i then goals else .match (.firm 0 (max.map (· - 1)) p) :: goals) j gs
   | none => go goals i gs
  | .match (.group k p) => go (.match p :: .close k :: goals) i { gs with begun := (k, i) :: gs.begun }
  | .match (.again folding k) => do
   let (a, b) <- gs.span? k
   let same := (text.extract a b).map folding.fold == (text.extract i (i + (b - a))).map folding.fold
   if same then go goals (i + (b - a)) gs else none
  | .match (.once p) => do
   let (j, gs) <- firstWay p i
   go goals j gs
  | .match (.look back negated p) =>
   match if i < back then none else firstWay p (i - back), negated with
   | some (_, gs), false => go goals i gs
   | none, true => go goals i gs
   | _, _ => none
  | .match (.given k yes no) => go (.match (if (gs.span? k).isSome then yes else no) :: goals) i gs
  | .match (.place at_) => if at_.isAt text i then go goals i gs else none

variable (p : Pattern) (text : Array Char)

def steps : Nat := (text.size + 2) * (p.weight + 2) + 2

def matchAt? (i : Nat) (accept : Nat -> Bool := fun _ => true) : Option (Nat × Groups) :=
 reach text accept (p.steps text) [.match p] i {}

def search? (start : Nat) (advance : Bool) : Option (Nat × Nat × Groups) :=
 (List.range (text.size + 1 - start)).findSome? fun k =>
  let i := start + k
  (p.matchAt? text i fun j => !(advance && i == start && j == start)).map fun (j, gs) => (i, j, gs)

def part (span : Nat × Nat) : String := .ofList (text.extract span.1 span.2).toList

/-- All matches from left to right; an empty match does not follow where it stands. -/
def allMatches : List (Nat × Nat × Groups) :=
 let rec go : Nat -> Nat -> Bool -> List (Nat × Nat × Groups)
  | 0, _, _ => []
  | fuel + 1, last, advance =>
   match p.search? text last advance with
   | none => []
   | some (i, j, gs) => (i, j, gs) :: go fuel j (i == j)
 go (2 * text.size + 3) 0 false

def split (groups : Nat) (s : String) : List (Option String) :=
 let text := s.toList.toArray
 let rec go (last : Nat) : List (Nat × Nat × Groups) -> List (Option String)
  | [] => [some (part text (last, text.size))]
  | (i, j, gs) :: more =>
   some (part text (last, i)) :: (List.range groups).map (fun g => (gs.span? (g + 1)).map (part text)) ++ go j more
 go 0 (p.allMatches text)

/-- A character of a written pattern, alone or behind a backslash. -/
inductive Token where
 | plain (c : Char)
 | escaped (c : Char)
 deriving DecidableEq

inductive Fault where
 | malformed | countTooLarge | optionsClash

def tokens? : Chars -> Option (List Token)
 | [] => some []
 | ['\\'] => none
 | '\\' :: c :: rest => (tokens? rest).map (.escaped c :: ·)
 | c :: rest => (tokens? rest).map (.plain c :: ·)

/-- Letters of options that are set.  Categories and case mean only the first 128 characters with `a`, and expressly all
characters with `u`. -/
abbrev Options := Chars

namespace Options

variable (o : Options)

def letters : Chars := "iLmsxatu".toList
def within (on off : Chars) : Options := (on ++ o).filter fun c => !off.contains c && !(c == 'a' && on.contains 'u')
def plain : Bool := o.contains 'a'
def folding : Folding := if !o.contains 'i' then .exact else if o.plain then .plain else .full

end Options

structure Progress where
 rest : List Token
 options : Options := []
 opened : Nat := 0
 closed : List (Nat × Width) := []
 names : List (String × Nat) := []
 /-- Inside of a part that looks back, how many groups there were before it. -/
 barrier : Option Nat := none
 awaited : List Nat := []

abbrev Reader := StateT Progress (Except Fault)

namespace Reader

open Letters (isDigitOf valueIn escapes)

def malformed {α : Type} : Reader α := throw .malformed

def demand {α : Type} : Option α -> Reader α
 | some a => pure a
 | none => malformed

def check (b : Bool) : Reader Unit := if b then return else malformed
def peek : Reader (Option Token) := return (<- get).rest.head?
def skip : Reader Unit := modify fun s => { s with rest := s.rest.drop 1 }

def next : Reader Token := do
 let t <- demand (<- peek)
 skip
 pure t

variable (c terminator : Char)

def accept : Reader Bool := do
 let here := (<- peek) == some (.plain c)
 if here then skip
 pure here

def expect : Reader Unit := do check (<- accept c)

def takeWhile (limit : Nat) (test : Char -> Bool) : Reader Chars := do
 let rec go : Nat -> List Token -> Chars
  | n + 1, .plain c :: rest => if test c then c :: go n rest else []
  | _, _ => []
 let cs := go limit (<- get).rest
 modify fun s => { s with rest := s.rest.drop cs.length }
 pure cs

def takeAll (test : Char -> Bool) : Reader Chars := do takeWhile (<- get).rest.length test

def name : Reader String := do
 let cs <- takeAll (· != terminator)
 expect terminator
 check !cs.isEmpty
 return .ofList cs

def within {α : Type} (o : Options) (part : Reader α) : Reader α := do
 let pre := (<- get).options
 modify ({ · with options := o })
 let a <- part
 modify ({ · with options := pre })
 pure a

def widthOf (p : Pattern) : Reader Width := do
 let closed := (<- get).closed
 return p.width fun i => (closed.lookup i).getD default

def checkVisible (i : Nat) : Reader Unit := do
 let s <- get
 let some before := s.barrier | return
 check ((s.closed.lookup i).isSome && i ≤ before)

def reference (i : Nat) : Reader Pattern := do
 let s <- get
 check (s.closed.lookup i).isSome
 checkVisible i
 return .again s.options.folding i

def hexadecimal (k : Nat) : Reader Nat := do
 let ds <- takeWhile k (isDigitOf 16)
 check (ds.length == k)
 return valueIn 16 ds

def octal (first : Char) : Reader Nat := do
 let code := valueIn 8 (first :: (<- takeWhile 2 (isDigitOf 8)))
 check (code ≤ 255)
 pure code

def category? (o : Options) (c : Char) : Option ClassItem := do
 return .category (<- [('d', Category.digit), ('s', .blank), ('w', .word)].lookup c.toLower) o.plain c.isUpper

def escapedCode : Reader Nat := do
 if let some code := escapes.lookup c then return code
 match c with
 | 'x' => hexadecimal 2
 | 'u' => hexadecimal 4
 | 'U' => do
  let code <- hexadecimal 8
  check (code ≤ 0x10ffff)
  pure code
 | 'N' => do
  expect '\x7b'
  demand (Letters.named? (<- name '\x7d'))
 | c =>
  check !c.isAlphanum
  pure c.toNat

def oneOf (xs : List ClassItem) (negated : Bool := false) : Reader Pattern := do
 return .one (<- get).options.folding negated xs

def single (code : Nat) : Reader Pattern := oneOf [.range code code]

def escape : Reader (Pattern × Bool) := do
 let o := (<- get).options
 let place (p : Place) : Pattern × Bool := (.place p, false)
 match c with
 | 'A' => return place .start
 | 'Z' => return place .finish
 | 'b' => return place (.wordEdge o.plain false)
 | 'B' => return place (.wordEdge o.plain true)
 | '0' => return (<- single (valueIn 8 (<- takeWhile 2 (isDigitOf 8))), true)
 | c =>
  match category? o c with
  | some item => return (<- oneOf [item], true)
  | none =>
   if !c.isDigit then return (<- single (<- escapedCode c), true)
   match isDigitOf 8 c, (<- get).rest with
   | true, .plain d :: .plain e :: _ => if isDigitOf 8 d && isDigitOf 8 e then return (<- single (<- octal c), true)
   | _, _ => pure ()
   return (<- reference (valueIn 10 (c :: (<- takeWhile 1 Char.isDigit))), true)

def item : Token -> Reader (ClassItem × Option Nat)
 | .plain c => pure (.range c.toNat c.toNat, some c.toNat)
 | .escaped c => do
  match category? (<- get).options c with
  | some item => pure (item, none)
  | none =>
   let code <- if isDigitOf 8 c then octal c else escapedCode c
   pure (.range code code, some code)

def items : Nat -> List ClassItem -> Reader (List ClassItem)
 | 0, _ => malformed
 | fuel + 1, found => do
  let t <- next
  if t == .plain ']' && !found.isEmpty then return found
  let (this, low) <- item t
  if !(<- accept '-') then items fuel (this :: found)
  else
   let t <- next
   if t == .plain ']' then return .range 45 45 :: this :: found
   match low, (<- item t).2 with
   | some low, some high =>
    check (low ≤ high)
    items fuel (.range low high :: found)
   | _, _ => malformed

def countLimit : Nat := 4294967295

def count (ds : Chars) : Reader Nat := do
 let n := valueIn 10 ds
 if n ≥ countLimit then throw .countTooLarge
 pure n

def counts : Char -> Reader (Option (Nat × Option Nat))
 | '*' => return some (0, none)
 | '+' => return some (1, none)
 | '?' => return some (0, some 1)
 | _ => do
  let pre <- get
  let low <- takeAll Char.isDigit
  let high <- if <- accept ',' then takeAll Char.isDigit else pure low
  if pre.rest.head? == some (.plain '\x7d') || !(<- accept '\x7d') then
   set pre
   return none
  let min <- count low
  if high.isEmpty then return some (min, none)
  let max <- count high
  check (min ≤ max)
  return some (min, some max)

def repeated (min : Nat) (max : Option Nat) : List (Pattern × Bool) -> Reader (List (Pattern × Bool))
 | (p, true) :: pre => do
  check !(<- get).options.contains 't'
  if <- accept '?' then return (.times min max false p, false) :: pre
  if <- accept '+' then return (.firm min max p, false) :: pre
  return (.times min max true p, false) :: pre
 | _ => malformed

def openGroup (called : Option String) : Reader Nat := do
 let s <- get
 let i := s.opened + 1
 check !(called.any fun n => (s.names.lookup n).isSome)
 set { s with opened := i, names := called.toList.map (·, i) ++ s.names }
 pure i

def condition : Reader Nat := do
 let called <- name ')'
 let i <-
  if Letters.isName called then demand ((<- get).names.lookup called)
  else do
   let n <- demand (Numerals.whole? called)
   check (n > 0)
   modify fun s => { s with awaited := n.toNat :: s.awaited }
   pure n.toNat
 checkVisible i
 pure i

def optionsFor : Reader (Option Options) := do
 let on <- takeAll Options.letters.contains
 check (!on.contains 'L' && !(on.contains 'a' && on.contains 'u'))
 let o := (<- get).options
 match <- next with
 | .plain ')' =>
  check !on.isEmpty
  set { <- get with options := on ++ o }
  pure none
 | .plain ':' =>
  check !on.contains 't'
  return some (o.within on [])
 | .plain '-' =>
  let off <- takeAll Options.letters.contains
  expect ':'
  check (!off.isEmpty && !on.contains 't' && !off.any fun c => ['a', 'u', 'L', 't'].contains c || on.contains c)
  return some (o.within on off)
 | _ => malformed

def dropComment : Reader Unit := do
 modify fun s => { s with rest := (s.rest.dropWhile (· != .plain terminator)).drop 1 }

def sequence (ps : List (Pattern × Bool)) : Pattern :=
 match ps with
 | [] => .empty
 | (last, _) :: pre => pre.foldl (fun q (p, _) => .both p q) last

mutual

def alternatives : Nat -> Bool -> Reader Pattern
 | 0, _ => malformed
 | fuel + 1, start => do
  let p <- parts fuel start []
  if <- accept '|' then return .either p (<- alternatives fuel false)
  pure p

def parts : Nat -> Bool -> List (Pattern × Bool) -> Reader Pattern
 | 0, _, _ => malformed
 | fuel + 1, start, found => do
  let o := (<- get).options
  let go := parts fuel start
  let add (p : Pattern) (repeats : Bool := true) : Reader Pattern := go ((p, repeats) :: found)
  match <- peek with
  | none | some (.plain '|') | some (.plain ')') => return sequence found
  | some (.escaped c) => do
   skip
   go ((<- escape c) :: found)
  | some (.plain c) => do
   skip
   if o.contains 'x' && [' ', '\t', '\n', '\r', '\x0b', '\x0c'].contains c then return <- go found
   match c with
   | '#' =>
    if o.contains 'x' then
     dropComment '\n'
     go found
    else add (<- single 35)
   | '[' =>
    let negated <- accept '^'
    add (<- oneOf (<- items (<- get).rest.length []) negated)
   | '*' | '+' | '?' | '\x7b' =>
    match <- counts c with
    | some (min, max) => go (<- repeated min max found)
    | none => add (<- single c.toNat)
   | '.' => add (.one .exact true (if o.contains 's' then [] else [.range 10 10]))
   | '^' => add (.place (if o.contains 'm' then .lineStart else .start)) false
   | '$' => add (.place (if o.contains 'm' then .lineEnd else .lastLine)) false
   | '(' => go ((<- parenthesis fuel (start && found.isEmpty)).toList.map (·, true) ++ found)
   | c => add (<- single c.toNat)

def parenthesis : Nat -> Bool -> Reader (Option Pattern)
 | 0, _ => malformed
 | fuel + 1, start => do
  let inside : Reader Pattern := do
   let p <- alternatives fuel false
   expect ')'
   pure p
  let group (called : Option String) : Reader (Option Pattern) := do
   let i <- openGroup called
   let p <- inside
   let w <- widthOf p
   modify fun s => { s with closed := (i, w) :: s.closed }
   return some (.group i p)
  if !(<- accept '?') then return <- group none
  match <- next with
  | .plain 'P' =>
   if <- accept '<' then
    let called <- name '>'
    check (Letters.isName called)
    group (some called)
   else
    expect '='
    let called <- name ')'
    reference (<- demand ((<- get).names.lookup called))
  | .plain ':' => inside
  | .plain '>' => return some (.once (<- inside))
  | .plain '#' =>
   check ((<- get).rest.contains (.plain ')'))
   dropComment ')'
   pure none
  | .plain '=' => return some (.look 0 false (<- inside))
  | .plain '!' => return some (.look 0 true (<- inside))
  | .plain '<' =>
   let negated <- accept '!'
   unless negated do expect '='
   let pre := (<- get).barrier
   modify fun s => { s with barrier := pre <|> some s.opened }
   let p <- alternatives fuel false
   modify ({ · with barrier := pre })
   expect ')'
   let back <- demand (<- widthOf p).fixed?
   check (back ≤ countLimit)
   return some (.look back negated p)
  | .plain '(' =>
   let i <- condition
   let yes <- parts fuel false []
   let no <- if <- accept '|' then parts fuel false [] else pure .empty
   expect ')'
   return some (.given i yes no)
  | .plain c =>
   check (c == '-' || Options.letters.contains c)
   modify fun s => { s with rest := .plain c :: s.rest }
   match <- optionsFor with
   | some o => within o inside
   | none =>
    check start
    pure none
  | .escaped _ => malformed

end

end Reader

structure Expression where
 pattern : Pattern
 groups : Nat
 names : List (String × Nat)

def read (s : String) : Except Fault Expression := do
 let some tokens := tokens? s.toList | throw .malformed
 let (p, s) <- (Reader.alternatives (4 * tokens.length + 8) true).run { rest := tokens }
 if s.options.plain && s.options.contains 'u' then throw .optionsClash
 if !s.rest.isEmpty || s.awaited.any (· > s.opened) then throw .malformed
 pure ⟨p, s.opened, s.names⟩

def splitText? (pattern s : String) : Option (List (Option String)) :=
 (read pattern).toOption.map fun e => e.pattern.split e.groups s

def ofText (s : String) : Pattern := s.toList.foldr (fun c p => .both (literal c) p) .empty

/-- The pattern of one of several texts; the first one that fits counts. -/
def ofTexts : Texts -> Pattern
 | [] => .empty
 | [s] => ofText s
 | s :: rest => .either (ofText s) (ofTexts rest)

def replaced {m : Type -> Type} [Monad m] (p : Pattern) (s : String)
  (new : (Nat -> Option String) -> m String) : m String := do
 let text := s.toList.toArray
 let step := fun (done, last) (i, j, gs) => do
  let group (n : Nat) := if n == 0 then some (part text (i, j)) else (Groups.span? gs n).map (part text)
  return (done ++ part text (last, i) ++ (<- new group), j)
 let (done, last) <- (p.allMatches text).foldlM step ("", 0)
 return done ++ part text (last, text.size)

end Pattern

inductive ReplacementPart where
 | text (s : String)
 | group (index : Nat)

inductive ReplacementFault where
 | pattern (fault : Pattern.Fault)
 | malformed | unknownGroup

def ReplacementFault.cause : ReplacementFault -> Cause
 | .pattern .malformed | .malformed => .host "error"
 | .pattern .countTooLarge => .overflow
 | .pattern .optionsClash => .value
 | .unknownGroup => .index

namespace ReplacementPart

open Pattern (Expression Token)
open Letters (isDigitOf valueIn escapes)

def ofCode (code : Nat) : ReplacementPart := .text (.singleton (.ofNat code))

variable (e : Expression)

def reference (i : Nat) : Except ReplacementFault ReplacementPart :=
 if i ≤ e.groups then .ok (.group i) else .error .malformed

def namedReference (name : String) : Except ReplacementFault ReplacementPart := do
 if Letters.isName name then
  let some i := e.names.lookup name | throw .unknownGroup
  return .group i
 let some i := Numerals.whole? name | throw .malformed
 if i < 0 then throw .malformed else reference e i.toNat

/-- What a backslash with a character and the text behind it stand for, and what follows. -/
def readEscaped (c : Char) (rest : List Token) :
  Except ReplacementFault (ReplacementPart × List Token) := do
 let digits (n : Nat) (test : Char -> Bool) : Chars := Pattern.Reader.takeWhile.go test n rest
 if c == 'g' then
  let .plain '<' :: rest := rest | throw .malformed
  let name := Pattern.Reader.takeWhile.go (· != '>') rest.length rest
  let .plain '>' :: after := rest.drop name.length | throw .malformed
  if name.isEmpty then throw .malformed
  return (<- namedReference e (.ofList name), after)
 else if c == '0' then
  let more := digits 2 (isDigitOf 8)
  return (ofCode (valueIn 8 more), rest.drop more.length)
 else if c.isDigit then
  let three := c :: digits 2 (isDigitOf 8)
  if isDigitOf 8 c && three.length == 3 then
   if valueIn 8 three > 255 then throw .malformed
   return (ofCode (valueIn 8 three), rest.drop 2)
  let two := c :: digits 1 Char.isDigit
  return (<- reference e (valueIn 10 two), rest.drop (two.length - 1))
 else match escapes.lookup c with
  | some code => pure (ofCode code, rest)
  | none => if c.isAlpha then throw .malformed else return (.text (.ofList ['\\', c]), rest)

def read (e : Expression) : Nat -> List Token -> Except ReplacementFault (List ReplacementPart)
 | 0, _ => throw .malformed
 | _, [] => pure []
 | fuel + 1, .escaped c :: rest => do
  let (part, rest) <- readEscaped e c rest
  return part :: (<- read e fuel rest)
 | fuel + 1, .plain c :: rest => return .text (.singleton c) :: (<- read e fuel rest)

end ReplacementPart

/-- Replace each match of a pattern by a text with references to the groups. -/
def replacedBy (pattern new s : String) : Except ReplacementFault String := do
 let e <- (Pattern.read pattern).mapError .pattern
 let some tokens := Pattern.tokens? new.toList | throw .malformed
 let ps <- ReplacementPart.read e (tokens.length + 1) tokens
 e.pattern.replaced s fun g => return .join <| ps.map fun
  | .text s => s
  | .group n => (g n).getD ""

/-- Replace every occurrence of a variable in code. A name that is not made of letters and digits is a pattern, and the
new name may refer to its groups. -/
def Names.renameAny (code name new : String) : Except ReplacementFault String :=
 let isWord := !name.isEmpty && name.all Letters.isWord
 if isWord && !new.contains '\\' && !(new.toList.head?.any Char.isDigit) then .ok (Names.rename code name new)
 else replacedBy ("([^\\.\"']|^)\\b" ++ name ++ "\\b") ("\\1" ++ new) code

/-- Replace several texts at once. Of the texts that fit at a place the first one counts. -/
def replacedAtOnce (repls : Pairs) (s : String) : String :=
 Id.run <| (Pattern.ofTexts (repls.map (·.1))).replaced s fun g =>
  let found := (g 0).getD ""
  pure ((repls.lookup found).getD found)

end AnimationGraph
