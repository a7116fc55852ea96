import AnimationGraph.Text.Letters

/-! # Names in scripts and interfaces

Scripts are made by putting names into pieces of code, so names have to be renamed in code and made
from any text.
-/

namespace AnimationGraph
namespace Names

open Letters

def keywords : Texts := [
 "False", "None", "True", "and", "as", "assert", "async", "await", "break", "class", "continue",
 "def", "del", "elif", "else", "except", "finally", "for", "from", "global", "if", "import", "in",
 "is", "lambda", "nonlocal", "not", "or", "pass", "raise", "return", "try", "while", "with", "yield"]

def isBoundary (pre after : Option Char) : Bool := (pre.map isWord).getD false != (after.map isWord).getD false

def fits : Chars -> Chars -> Bool
 | [], _ => true
 | _, [] => false
 | p :: ps, c :: cs => (p == c || (p == '.' && c != '\n')) && fits ps cs

def standsAt (name : Chars) (pre : Option Char) (text : Chars) : Bool :=
 let last := match name.length with
  | 0 => pre
  | n + 1 => text[n]?
 isBoundary pre text.head? && fits name text && isBoundary last text[name.length]?

def bars (c : Char) : Bool := c == '.' || c == '"' || c == '\''

def renameFrom (name new : Chars) : Bool -> Nat -> Chars -> Chars
 | _, _, [] => []
 | _, skip + 1, _ :: rest => renameFrom name new false skip rest
 | start, 0, c :: rest =>
  if !bars c && standsAt name (some c) rest then c :: new ++ renameFrom name new false name.length rest
  else if start && standsAt name none (c :: rest) then new ++ renameFrom name new false (name.length - 1) rest
  else c :: renameFrom name new false 0 rest

def rename (code name new : String) : String := String.ofList (renameFrom name.toList new.toList true 0 code.toList)
def renameAll (code : String) (t : Pairs) : String := t.foldl (fun code (name, new) => rename code name new) code

variable (text : String)

def kept : String := String.ofList (text.toList.filter isWord)

def ofText : String :=
 let name := kept text
 if name.isEmpty then "_" else if keywords.contains name then name ++ "_" else name

def bindingWords : Texts := ["and", "of", "to", "from"]

def titleStep (last c : Char) : Chars :=
 if last == ' ' then capital c
 else if isLetter last && isNumeric c || isNumeric last && isLetter c || isSmall last && isCapital c then
  ' ' :: capital c
 else if c == '_' then [' ']
 else [c]

def title (name : String) : String :=
 let spread := match name.toList with
  | [] => []
  | first :: rest => rest.foldl (fun acc c => acc ++ titleStep (acc.getLast?.getD ' ') c) (capital first)
 let word (s : String) :=
  let low := lowered s
  " " ++ (if bindingWords.contains low then low else s)
 String.join ((words (String.ofList spread)).map word)

def splitDigits (text : Chars) : List Chars :=
 let rec go (ds : Bool) (cur : Chars) : Chars -> List Chars
  | [] => if ds then [cur.reverse, []] else [cur.reverse]
  | c :: rest =>
   if c.isDigit == ds then go ds (c :: cur) rest
   else cur.reverse :: go c.isDigit [c] rest
 go false [] text

def naturalKey : Texts :=
 (splitDigits text.toList).map fun part =>
  if !part.isEmpty && part.all isDigit then String.ofList (List.replicate (10 - part.length) '0' ++ part)
  else lowered (String.ofList part)

def importsAll (code : String) : Bool :=
 let rec go : Chars -> Bool
  | [] => false
  | c :: rest =>
   (("import".toList.isPrefixOf (c :: rest)) &&
    (((c :: rest).drop 6).dropWhile isBlank).head? == some '*') || go rest
 go code.toList

end Names

namespace Edit

open Letters

def occurrences (needle hay : Chars) : List Nat :=
 let rec go : Nat -> Nat -> Chars -> List Nat
  | _, i, [] => if needle.isEmpty then [i] else []
  | skip, i, c :: cs =>
   if skip > 0 then go (skip - 1) (i + 1) cs
   else if needle.isPrefixOf (c :: cs) then i :: go (needle.length - 1) (i + 1) cs
   else go 0 (i + 1) cs
 go 0 0 hay

def places (needle : Chars) (i : Nat) : Chars -> List Nat
 | [] => if needle.isEmpty then [i] else []
 | c :: cs => (if needle.isPrefixOf (c :: cs) then [i] else []) ++ places needle (i + 1) cs

def find? (needle hay : String) (start : Nat := 0) : Option Nat :=
 if start > hay.length then none else (places needle.toList start (hay.toList.drop start)).head?

def findLast? (needle hay : String) : Option Nat := (places needle.toList 0 hay.toList).getLast?

variable (s sep : String)

def replace (old new : String) (limit : Option Nat := none) : String :=
 let o := old.toList
 let n := new.toList
 let rec go : Nat -> Nat -> Chars -> Chars
  | left, _, [] => if o.isEmpty && left > 0 then n else []
  | left, skip, c :: cs =>
   if skip > 0 then go left (skip - 1) cs
   else if left > 0 && o.isPrefixOf (c :: cs) then
    if o.isEmpty then n ++ c :: go (left - 1) 0 cs else n ++ go (left - 1) (o.length - 1) cs
   else c :: go left 0 cs
 .ofList (go (limit.getD (s.length + 1)) 0 s.toList)

def split (limit : Option Nat := none) : Texts :=
 let ps := s.splitOn sep
 match limit with
 | none => ps
 | some n => if ps.length ≤ n + 1 then ps else ps.take n ++ [sep.intercalate (ps.drop n)]

def splitRight (limit : Nat) : Texts :=
 let ps := s.splitOn sep
 if ps.length ≤ limit + 1 then ps
 else sep.intercalate (ps.take (ps.length - limit)) :: ps.drop (ps.length - limit)

def strip (drop : Char -> Bool) (left right : Bool := true) : String :=
 let cs := s.toList
 let cs := if left then cs.dropWhile drop else cs
 .ofList (if right then dropEnd drop cs else cs)

variable (width : Nat) (s : String) (c : Char := ' ')

def fill (c : Char) : String := .ofList (.replicate (width - s.length) c)
def padLeft : String := fill width s c ++ s

def numberLines : String :=
 "\n".intercalate <| (s.splitOn "\n").zipIdx.map fun (line, i) => padLeft 3 (toString (i + 1)) ++ ".  " ++ line
def padRight : String := s ++ fill width s c

def zeros : String :=
 let sign := (s.take 1).toString
 if sign == "+" || sign == "-" then sign ++ fill width s '0' ++ s.drop 1 else padLeft width s '0'

def titles : Array (Nat × Chars) := spellings <|
 "f82bXcMf>1kG11kG11kG11kJ11kJ11kJ11kM11kM11kMU1lI11lI11lIv=2bf0bgRfzR2hgVtD11hgX12uZtD33v:tAtD51hgX62hh;tD11hh=12v
  2tD33v@tAtD51hh=V2hi@tD11hiB12v8tD33vRtAtD51hiBbydW2bKc@12bKcC12bKcF13bKc@cC13bKc@cF12bXcN12bXcN=2bf?bgF12bf?bg
  512bf?bg;12bfIbgF12bf?bg="

def title (c : Char) : Chars :=
 let n := c.toNat
 if n < 128 then [c.toUpper]
 else if (4304 ≤ n && n ≤ 4346) || (4349 ≤ n && n ≤ 4351) then [c]
 else if 8064 ≤ n && n ≤ 8111 then [.ofNat (n ||| 8)]
 else spelling c titles (capital c)

def capitalized : String :=
 match s.toList with
 | [] => ""
 | c :: rest =>
  let low := (lowered s).toList
  .ofList (title c ++ low.drop (low.length - (lowered (.ofList rest)).length))

def titled : String :=
 let rec go (pre : Chars) : Chars -> Chars
  | [] => []
  | c :: rest => (if pre.head?.any isCased then smallBetween pre c rest else title c) ++ go (c :: pre) rest
 .ofList (go [] s.toList)

def capitalizedWords : String := " ".intercalate ((words s).map capitalized)

def swapped : String :=
 .ofList (s.toList.flatMap fun c => if isCapital c then small c else if isSmall c then capital c else [c])

def allOf (test : Char -> Bool) : Bool := !s.isEmpty && s.all test

end Edit

namespace Wrap

def expandTabs : Nat -> Chars -> Chars
 | _, [] => []
 | column, '\t' :: rest =>
  let w := 8 - column % 8
  .replicate w ' ' ++ expandTabs (column + w) rest
 | column, c :: rest => c :: expandTabs (if c == '\n' || c == '\r' then 0 else column + 1) rest

def plain (text : Chars) : Chars := (expandTabs 0 text).map fun c => if Letters.isSpace c then ' ' else c
def isLetter (c : Char) : Bool := Letters.isWord c && !Letters.isDecimal c
def endsWord (c : Char) : Bool := Letters.isWord c || "!\"'&.,?".contains c

def startsDash (rest : Chars) : Bool :=
 let hyphens := rest.takeWhile (· == '-')
 2 ≤ hyphens.length && (rest.drop hyphens.length).head?.any Letters.isWord

def dividesAfter (pre after : Chars) : Bool :=
 let joins : Chars -> Bool
  | a :: b :: rest => isLetter a && (isLetter b || (b == '-' && rest.head?.any isLetter))
  | _ => false
 joins pre && joins after

def wordEnd (pre : Chars) : Chars -> Chars × Chars
 | [] => ([], [])
 | c :: rest =>
  if c == '-' && dividesAfter pre rest then ([c], rest)
  else if c == ' ' then ([], c :: rest)
  else if pre.head?.any endsWord && startsDash (c :: rest) then ([], c :: rest)
  else
   let (more, left) := wordEnd (c :: pre) rest
   (c :: more, left)

def chunks : Nat -> Chars -> Chars -> List Chars
 | 0, _, _ => []
 | _ + 1, _, [] => []
 | fuel + 1, pre, c :: rest =>
  let (ch, left) :=
   if c == ' ' then (c :: rest).span (· == ' ')
   else if pre.head?.any endsWord && startsDash (c :: rest) then (c :: rest).span (· == '-')
   else
    let (more, left) := wordEnd (c :: pre) rest
    (c :: more, left)
  ch :: chunks fuel (ch.reverse ++ pre) left

def isBlankChunk (ch : Chars) : Bool := ch.all Letters.isBlank

def fitting (w : Nat) : Nat -> List Chars -> List Chars × List Chars
 | _, [] => ([], [])
 | used, ch :: rest =>
  if used + ch.length ≤ w then
   let (more, left) := fitting w (used + ch.length) rest
   (ch :: more, left)
  else ([], ch :: rest)

def cutPlace (ch : Chars) (space : Nat) : Nat :=
 if ch.length ≤ space then space
 else
  match (ch.take space).reverse.findIdx? (· == '-') with
  | none => space
  | some back =>
   let hyphen := (min space ch.length) - 1 - back
   if hyphen > 0 && (ch.take hyphen).any (· != '-') then hyphen + 1 else space

def wrapChunks (w : Nat) : Nat -> Bool -> List Chars -> Texts
 | 0, _, _ => []
 | _ + 1, _, [] => []
 | fuel + 1, first, ch :: rest =>
  let (line, left) := fitting w 0 (if !first && isBlankChunk ch then rest else ch :: rest)
  let (line, left) := match left with
   | long :: more =>
    if long.length > w then
     let cut := cutPlace long (w - line.flatten.length)
     (line ++ [long.take cut], long.drop cut :: more)
    else (line, left)
   | [] => (line, left)
  let line := if line.getLast?.any isBlankChunk then line.dropLast else line
  if line.isEmpty then wrapChunks w fuel first left
  else .ofList line.flatten :: wrapChunks w fuel false left

def lines (text : String) (w : Nat) : Texts :=
 let cs := plain text.toList
 wrapChunks w (2 * cs.length + 2) true (chunks (cs.length + 1) [] cs)

end Wrap
end AnimationGraph
