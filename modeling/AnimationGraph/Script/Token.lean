import AnimationGraph.Text.Edit
import AnimationGraph.Text.Json

/-! # Words of scripts

A script is first divided into tokens: words, numbers, texts, signs, and marks for the ends of lines
and for lines that stand further in or further out than the one before.
-/

namespace AnimationGraph.Script

inductive Lexeme where
 | word (s : String)
 | int (i : Int)
 | float (x : Float)
 | imaginary (x : Float)
 | text (s : String)
 | bytes (data : List UInt8)
 | joined (raw : Bool) (body : String)
 /-- A text with an escape that is not well formed. -/
 | misspelt
 | sign (s : String)
 | newline | indent | dedent
 /-- The script cannot be divided from here on; if that is grave, it counts even if something before does not fit. -/
 | broken (grave : Bool)
 | stop
 deriving BEq

def Lexeme.isText (l : Lexeme) : Bool := l matches .text _ | .joined .. | .bytes _ | .misspelt

structure Token where
 line : Nat
 lexeme : Lexeme
 /-- How many brackets are open behind it. -/
 depth : Nat := 0

structure Scanner where
 line : Nat := 1
 brackets : List (Char × Nat) := []
 /-- Widths of the lines that stand further and further in, innermost first; a tab counts up to the
 next eighth place, and in the second measure as one. -/
 widths : List (Nat × Nat) := [(0, 0)]
 tokens : Array Token := #[]

namespace Scanner

open Letters

variable (cs : Chars) (s : Scanner)

def emit (l : Lexeme) : Scanner := { s with tokens := s.tokens.push ⟨s.line, l, s.brackets.length⟩ }

def signs : Texts := [
 "**=", "//=", ">>=", "<<=", "...", "!=", "==", "<=", ">=", "->", "+=", "-=", "*=", "/=", "%=", "&=",
 "|=", "^=", "@=", "**", "//", "<<", ">>", ":=", "+", "-", "*", "/", "%", "@", "&", "|", "^", "~",
 "<", ">", "(", ")", "[", "]", "\x7b", "\x7d", ",", ":", ".", ";", "=", "!", "?", "$", "\x60"]

def closings : List (Char × Char) := [('(', ')'), ('[', ']'), ('\x7b', '\x7d')]

def bracket? (sign : String) : Option Scanner := do
 let [c] := sign.toList | s
 if (closings.lookup c).isSome then
  guard (s.brackets.length < 200)
  return { s with brackets := (c, s.line) :: s.brackets }
 unless [')', ']', '\x7d'].contains c do return s
 let (o, _) :: brackets := s.brackets | none
 guard (closings.contains (o, c))
 return { s with brackets }

def digits (base : Nat) : Nat -> Chars -> Chars × Chars
 | fuel + 1, c :: rest =>
  if isDigitOf base c then
   let parted := rest.head? == some '_' && (rest.drop 1).head?.any (isDigitOf base)
   let (more, left) := digits base fuel (if parted then rest.drop 1 else rest)
   (c :: more, left)
  else ([], c :: rest)
 | _, cs => ([], cs)

def numberEnds : Bool :=
 match cs with
 | [] => true
 | c :: _ => !continuesName c ||
  ["and", "else", "for", "if", "in", "is", "not", "or"].any (·.toList.isPrefixOf cs)

def number : Option (Lexeme × Chars) :=
 let ended (l : Lexeme) (left : Chars) := if numberEnds left then some (l, left) else none
 let based (base : Nat) (rest : Chars) : Option (Lexeme × Chars) :=
  let rest := if rest.head? == some '_' then rest.drop 1 else rest
  match digits base rest.length rest with
  | ([], _) => none
  | (ds, left) => ended (.int (valueIn base ds)) left
 match cs with
 | '0' :: 'x' :: rest | '0' :: 'X' :: rest => based 16 rest
 | '0' :: 'o' :: rest | '0' :: 'O' :: rest => based 8 rest
 | '0' :: 'b' :: rest | '0' :: 'B' :: rest => based 2 rest
 | _ =>
  let (whole, rest) := digits 10 cs.length cs
  let (p, frac, rest) := match rest with
   | '.' :: r =>
    let (ds, left) := digits 10 r.length r
    (true, ds, left)
   | r => (false, [], r)
  let (power, rest) := Json.readPower (fun cs => digits 10 cs.length cs) rest
  let x := Json.decimalNumber whole frac (power.getD 0)
  match rest with
  | 'j' :: left | 'J' :: left => ended (.imaginary x) left
  | _ =>
   if p || power.isSome then ended (.float x) rest
   else if (whole.head? == some '0' && whole.any (· != '0')) || whole.length > Numerals.maxDigits then none
   else ended (.int (valueIn 10 whole)) rest

def quoted (quote : Char) (long : Bool) : Nat -> Chars -> Option (Chars × Chars)
 | 0, _ => none
 | _ + 1, [] => none
 | fuel + 1, '\\' :: c :: rest => do
  let (body, left) <- quoted quote long fuel rest
  pure ('\\' :: c :: body, left)
 | fuel + 1, c :: rest =>
  if c == quote && (!long || (rest.take 2 == [quote, quote])) then some ([], if long then rest.drop 2 else rest)
  else if c == '\n' && !long then none
  else do
   let (body, left) <- quoted quote long fuel rest
   pure (c :: body, left)

def unescape (bs : Bool) : Nat -> Chars -> Option Chars
 | 0, _ => none
 | _ + 1, [] => some []
 | fuel + 1, '\\' :: c :: rest => do
  let as (n k : Nat) : Option Chars := return .ofNat n :: (<- unescape bs fuel (rest.drop k))
  let coded (k : Nat) : Option Chars :=
   let ds := rest.take k
   if ds.length < k || !ds.all (isDigitOf 16) || valueIn 16 ds > 0x10FFFF then none else as (valueIn 16 ds) k
  if let some code := escapes.lookup c then return <- as code 0
  if bs && ['u', 'U', 'N'].contains c then return '\\' :: c :: (<- unescape bs fuel rest)
  match c with
  | '\n' => unescape bs fuel rest
  | '\'' | '"' => as c.toNat 0
  | 'x' => coded 2
  | 'u' => coded 4
  | 'U' => coded 8
  | 'N' =>
   let name := (rest.drop 1).takeWhile (· != '\x7d')
   let isName := name.length > 1 && name.all fun c => c.isAlphanum || c == ' ' || c == '-'
   if rest.head? != some '\x7b' || !isName || rest.length < name.length + 2 then none
   else as ((named? (.ofList name)).getD 0xFFFD) (name.length + 2)
  | _ =>
   let ds := ((c :: rest).take 3).takeWhile (isDigitOf 8)
   if ds.isEmpty then return '\\' :: c :: (<- unescape bs fuel rest) else as (valueIn 8 ds) (ds.length - 1)
 | fuel + 1, c :: rest => return c :: (<- unescape bs fuel rest)

def textMarks : Texts := ["", "r", "u", "b", "f", "rb", "br", "fr", "rf"]

def textStart? : Option (String × Char × Bool × Chars) := do
 let letters := cs.takeWhile Char.isAlpha
 let mark := .ofList (letters.map .toLower)
 let c :: r := cs.drop letters.length | none
 guard (textMarks.contains mark && ['"', '\''].contains c)
 let long := r.take 2 == [c, c]
 pure (mark, c, long, if long then r.drop 2 else r)

def textLexeme (mark : String) (body : Chars) : Lexeme :=
 let raw := mark.contains 'r'
 let bs := mark.contains 'b'
 if mark.contains 'f' then .joined raw (.ofList body)
 else if bs && body.any (·.toNat ≥ 128) then .misspelt
 else match if raw then some body else unescape bs (body.length + 1) body with
  | some cs => if bs then .bytes (cs.map (·.toNat.toUInt8)) else .text (.ofList cs)
  | none => .misspelt

def width : Chars -> Nat × Nat -> (Nat × Nat) × Chars
 | ' ' :: rest, (a, b) => width rest (a + 1, b + 1)
 | '\t' :: rest, (a, b) => width rest ((a / 8 + 1) * 8, b + 1)
 | c :: rest, (a, b) => if c.toNat == 12 then width rest (0, 0) else ((a, b), c :: rest)
 | [], w => (w, [])

def leave? (w : Nat × Nat) : Nat -> Scanner -> Option Scanner
 | 0, _ => none
 | fuel + 1, s => do
  let top :: rest := s.widths | none
  if w == top then s
  else if w.1 ≥ top.1 then none
  else leave? w fuel { s.emit .dedent with widths := rest }

def place? (w : Nat × Nat) : Option Scanner := do
 let top <- s.widths.head?
 if w.1 ≤ top.1 then leave? w (s.widths.length + 1) s
 else if w.2 > top.2 && s.widths.length < 100 then some { s.emit .indent with widths := w :: s.widths }
 else none

def finish : Scanner :=
 if !s.brackets.isEmpty then s.emit .stop
 else
  let s := { s with line := s.line - 1 }
  ((List.range (s.widths.length - 1)).foldl (fun s _ => s.emit .dedent) s).emit .stop

def below : Scanner := { s with line := s.line + 1 }
def stuck (grave : Bool := true) : Scanner := s.emit (.broken grave)
def cutOff : Scanner := if s.brackets.isEmpty then s.stuck false else s.emit .stop

def scan : Nat -> Scanner -> Bool -> Chars -> Scanner
 | 0, s, _, _ => s.stuck
 | _ + 1, s, _, [] => s.finish
 | fuel + 1, s, true, cs =>
  let (w, rest) := width cs (0, 0)
  match rest with
  | [] => s.finish
  | '\n' :: left => scan fuel s.below true left
  | '#' :: left => scan fuel s true (left.dropWhile (· != '\n'))
  | '\\' :: '\n' :: left => if left.isEmpty then s.cutOff else scan fuel s.below true left
  | _ =>
   match s.place? w with
   | some s => scan fuel s false rest
   | none => s.stuck false
 | fuel + 1, s, false, c :: rest =>
  if c == ' ' || c == '\t' || c.toNat == 12 then scan fuel s false rest
  else if c == '#' then scan fuel s false (rest.dropWhile (· != '\n'))
  else if c == '\n' then
   if s.brackets.isEmpty then scan fuel (s.emit .newline).below true rest else scan fuel s.below false rest
  else if c == '\\' then
   match rest with
   | '\n' :: left => if left.isEmpty then s.cutOff else scan fuel s.below false left
   | _ => s.stuck false
  else match textStart? (c :: rest) with
   | some (mark, quote, long, body) =>
    match quoted quote long (body.length + 1) body with
    | none => s.stuck
    | some (inner, left) =>
     let s := s.emit (textLexeme mark inner)
     scan fuel { s with line := s.line + inner.count '\n' } false left
   | none =>
    if startsName c then
     let name := (c :: rest).takeWhile continuesName
     scan fuel (s.emit (.word (.ofList name))) false ((c :: rest).drop name.length)
    else if c.isDigit || (c == '.' && rest.head?.any Char.isDigit) then
     match number (c :: rest) with
     | some (l, left) => scan fuel (s.emit l) false left
     | none => s.stuck
    else match signs.find? (·.toList.isPrefixOf (c :: rest)) with
     | some sign =>
      match s.bracket? sign with
      | some s => scan fuel (s.emit (.sign sign)) false ((c :: rest).drop sign.length)
      | none => s.stuck
     | none => s.stuck

end Scanner

def lineEnds : Chars -> Chars
 | '\r' :: '\n' :: rest | '\r' :: rest => '\n' :: lineEnds rest
 | c :: rest => c :: lineEnds rest
 | [] => []

def tokens (script : String) (line : Nat := 1) : List Token × Option Nat :=
 let cs := lineEnds script.toList
 let cs := if cs.getLast? == some '\n' then cs else cs ++ ['\n']
 let start : Scanner := { line }
 let s := if cs.contains (.ofNat 0) then start.stuck else .scan (2 * cs.length + 2) start true cs
 (s.tokens.toList, s.brackets.head?.map (·.2))

end AnimationGraph.Script
