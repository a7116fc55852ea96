import AnimationGraph.Text.Letters

/-! # JSON documents

A finite number is a signed fraction `mantissa * 2 ^ exponent`. Documents keep the difference between whole numbers and
fractions: a number is a fraction when it is written with a point or an exponent.
-/

namespace AnimationGraph.Decimal

structure Binary where
 negative : Bool
 mantissa : Nat
 exponent : Int
 /-- The gap to the next smaller number is half the gap to the next larger one. -/
 narrow : Bool

inductive Class where
 | nan
 | infinite (negative : Bool)
 | finite (parts : Binary)

variable (x : Float) (r : Ratio)

def classify : Class :=
 let bits := x.toBits.toNat
 let neg := bits / Nat.pow 2 63 == 1
 let biased : Nat := bits / Nat.pow 2 52 % 2048
 let frac : Nat := bits % Nat.pow 2 52
 if biased == 2047 then
  if frac == 0 then .infinite neg else .nan
 else if biased == 0 then .finite ⟨neg, frac, -1074, false⟩
 else .finite ⟨neg, frac + Nat.pow 2 52, Int.ofNat biased - 1075, frac == 0 && biased > 1⟩

/-- A nonnegative fraction as numerator and positive denominator. -/
structure Ratio where
 (num den : Nat)

def Ratio.scaled (m : Nat) (e : Int) : Ratio := if e < 0 then ⟨m, Nat.pow 2 e.natAbs⟩ else ⟨m * Nat.pow 2 e.natAbs, 1⟩
def Binary.ratio (b : Binary) : Ratio := .scaled b.mantissa b.exponent
def signedBy {α : Type} [Neg α] (negative : Bool) (x : α) : α := if negative then -x else x

def Ratio.shift (e : Int) : Ratio :=
 if e < 0 then ⟨r.num * Nat.pow 10 e.natAbs, r.den⟩ else ⟨r.num, r.den * Nat.pow 10 e.natAbs⟩

def digitsOf (n : Nat) : Chars := Nat.toDigits 10 n

def Ratio.magnitude : Int :=
 let guess : Int := (digitsOf r.num).length - (digitsOf r.den).length
 let s := r.shift guess
 if s.num < s.den then guess - 1 else guess

/-- A value that lies exactly between two decimals goes to the even one. -/
def Ratio.round : Nat :=
 let q := r.num / r.den
 let rest := 2 * (r.num % r.den)
 if rest < r.den || (rest == r.den && q % 2 == 0) then q else q + 1

/-- A positive decimal: the whole number `digits` times `10 ^ scale`. -/
structure Scaled where
 digits : Nat
 scale : Int

def Scaled.trim : Nat -> Scaled -> Scaled
 | 0, d => d
 | fuel + 1, d => if d.digits != 0 && d.digits % 10 == 0 then Scaled.trim fuel ⟨d.digits / 10, d.scale + 1⟩ else d

variable (b : Binary) (ds : Chars)

def Binary.bounds : Ratio × Ratio :=
 let low := if b.narrow then 4 * b.mantissa - 1 else 4 * b.mantissa - 2
 (.scaled low (b.exponent - 2), .scaled (4 * b.mantissa + 2) (b.exponent - 2))

def Binary.readsBack (d : Nat) (e : Int) : Bool :=
 let (low, high) := b.bounds
 let low := low.shift e
 let high := high.shift e
 if b.mantissa % 2 == 0 then low.num ≤ d * low.den && d * high.den ≤ high.num
 else low.num < d * low.den && d * high.den < high.num

def Binary.search (b : Binary) (x : Ratio) (mag : Int) : Nat -> Nat -> Scaled
 | 0, k => ⟨(x.shift (mag - k + 1)).round, mag - k + 1⟩
 | fuel + 1, k =>
  let e := mag - k + 1
  let v := x.shift e
  let near := v.round
  let below := v.num / v.den
  let other := if near == below then below + 1 else below
  if b.readsBack near e then ⟨near, e⟩
  else if b.readsBack other e then ⟨other, e⟩
  else b.search x mag fuel (k + 1)

def Binary.shortest : Scaled := (b.search b.ratio b.ratio.magnitude 17 1).trim 400
def padLeft (w : Nat) (cs : Chars) : Chars := .replicate (w - cs.length) '0' ++ cs
def signed (neg : Bool) (text : String) : String := if neg then "-" ++ text else text

def scientific (mag : Int) : String :=
 let body := match ds with
  | [] => ['0']
  | [d] => [d]
  | d :: rest => d :: '.' :: rest
 .ofList body ++ (if mag < 0 then "e-" else "e+") ++ .ofList (padLeft 2 (digitsOf mag.natAbs))

def positional (keepPoint : Bool) (mag : Int) : String :=
 if mag < 0 then "0." ++ .ofList (.replicate (mag.natAbs - 1) '0' ++ ds)
 else
  let whole := mag.natAbs + 1
  if ds.length ≤ whole then
   .ofList (ds ++ .replicate (whole - ds.length) '0') ++ (if keepPoint then ".0" else "")
  else .ofList (ds.take whole ++ '.' :: ds.drop whole)

def spelled (finite : Binary -> String) : String :=
 match classify x with
 | .nan => "nan"
 | .infinite neg => signed neg "inf"
 | .finite b => signed b.negative (finite b)

def text : String := spelled x fun b =>
 if b.mantissa == 0 then "0.0"
 else
  let d := b.shortest
  let ds := digitsOf d.digits
  let mag := d.scale + ds.length - 1
  if -4 ≤ mag && mag < 16 then positional ds true mag else scientific ds mag

def fixedPlaces (ps : Nat) (x : Float) : String := spelled x fun b =>
 let cs := padLeft (ps + 1) (digitsOf (b.ratio.shift (-(ps : Int))).round)
 let whole := cs.length - ps
 .ofList (if ps == 0 then cs else cs.take whole ++ '.' :: cs.drop whole)

def Binary.significant (k : Nat) : Chars × Int :=
 let m := b.ratio.magnitude
 let cs := digitsOf (b.ratio.shift (m - k + 1)).round
 if cs.length > k then (cs.take k, m + 1) else (cs, m)

def significantDigits (count : Nat) (x : Float) : String := spelled x fun b =>
 let count := max count 1
 if b.mantissa == 0 then "0"
 else
  let (digits, mag) := b.significant count
  let digits := Letters.dropEnd (· == '0') digits
  if -4 ≤ mag && mag < count then positional digits false mag else scientific digits mag

def roundTo (ps : Int) (x : Float) : Float :=
 match classify x with
 | .finite b =>
  if ps > 323 then x
  else if ps < -308 then 0.0 * x
  else signedBy b.negative (.ofScientific ((b.ratio.shift (-ps)).round) (ps ≥ 0) ps.natAbs)
 | _ => x

def roundZeros (zeros : Nat) (i : Int) : Int :=
 if zeros > (digitsOf i.natAbs).length then 0
 else signedBy (i < 0) (((⟨i.natAbs, Nat.pow 10 zeros⟩ : Ratio).round : Nat) * Nat.pow 10 zeros)

def wholePart (part : Ratio -> Nat) : Option Int :=
 match classify x with
 | .finite b => some (signedBy b.negative (part b.ratio))
 | _ => none

def truncate : Option Int := wholePart x fun r => r.num / r.den

end AnimationGraph.Decimal

namespace AnimationGraph

namespace Quoted

def hiddenRuns : Letters.Runs := Letters.runs "cYR<1bfM6F1eD1b61dnW1j:1bv<@H8b4AdoL1bmm7hoDbjN1fI<22bdib9gtw<"
def hexDigits (w n : Nat) : Chars := Decimal.padLeft w (Nat.toDigits 16 n)

def escape (quote c : Char) : Chars :=
 let n := c.toNat
 if c == quote || c == '\\' then ['\\', c]
 else if c == '\n' then ['\\', 'n']
 else if c == '\r' then ['\\', 'r']
 else if c == '\t' then ['\\', 't']
 else if n < 32 || n == 127 then '\\' :: 'x' :: hexDigits 2 n
 else if n < 127 then [c]
 else if Letters.within hiddenRuns n then
  if n < 256 then '\\' :: 'x' :: hexDigits 2 n
  else if n < 65536 then '\\' :: 'u' :: hexDigits 4 n
  else '\\' :: 'U' :: hexDigits 8 n
 else [c]

def chooseQuote (cs : Chars) : Char := if cs.contains '\'' && !cs.contains '"' then '"' else '\''

def literal (s : String) : String :=
 let cs := s.toList
 let q := chooseQuote cs
 .ofList (q :: cs.flatMap (escape q) ++ [q])

def escapeByte (quote : Char) (b : UInt8) : Chars :=
 let n := b.toNat
 if n < 127 then escape quote (.ofNat n) else '\\' :: 'x' :: hexDigits 2 n

def bytesLiteral (data : List UInt8) : String :=
 let q := chooseQuote (data.map (.ofNat ·.toNat))
 .ofList ('b' :: q :: data.flatMap (escapeByte q) ++ [q])

end Quoted

inductive Json where
 | null
 | bool (b : Bool)
 | int (i : Int)
 | float (x : Float)
 | str (s : String)
 | arr (items : List Json)
 | obj (fields : List (String × Json))

abbrev JsonFields := List (String × Json)

instance : Coe String Json := ⟨.str⟩
instance : Coe Bool Json := ⟨.bool⟩
instance : Coe Int Json := ⟨.int⟩
instance : Coe Nat Json := ⟨(.int ·)⟩

namespace Json

open Letters (isDigitOf valueIn escapes)
open Decimal (signedBy)

def field? (j : Json) (name : String) : Option Json :=
 match j with
 | .obj fs => fs.lookup name
 | _ => none

def text? : Json -> Option String
 | .str s => some s
 | _ => none

def items : Json -> List Json
 | .arr xs => xs
 | _ => []

def fields : Json -> JsonFields
 | .obj fs => fs
 | _ => []

section

variable (j : Json) (name : String)

def listed : List Json := ((j.field? name).map items).getD []
def entries : JsonFields := ((j.field? name).map fields).getD []
def word? : Option String := (j.field? name).bind text?
def words : Texts := (j.listed name).filterMap text?
def isOn : Bool := j.field? name matches some (.bool true)

end

def escapeChar (c : Char) : Chars :=
 let n := c.toNat
 let coded (n : Nat) : Chars := '\\' :: 'u' :: Quoted.hexDigits 4 n
 if (32 ≤ n && n < 127) || ['\n', '\r', '\t'].contains c then Quoted.escape '"' c
 else if n < 65536 then coded n
 else coded (55296 + (n - 65536) / 1024) ++ coded (56320 + n % 1024)

def quote (s : String) : String := .ofList ('"' :: s.toList.flatMap escapeChar ++ ['"'])

mutual

def writeTo (acc : String) : Json -> String
 | .null => acc ++ "null"
 | .bool b => acc ++ (if b then "true" else "false")
 | .int i => acc ++ toString i
 | .float x => acc ++ Decimal.text x
 | .str s => acc ++ quote s
 | .arr xs => writeItems (acc ++ "[") xs ++ "]"
 | .obj fs => writeFields (acc ++ "\x7b") fs ++ "\x7d"

def writeItems (acc : String) : List Json -> String
 | [] => acc
 | [x] => writeTo acc x
 | x :: xs => writeItems (writeTo acc x ++ ", ") xs

def writeFields (acc : String) : JsonFields -> String
 | [] => acc
 | [(k, v)] => writeTo (acc ++ quote k ++ ": ") v
 | (k, v) :: fs => writeFields (writeTo (acc ++ quote k ++ ": ") v ++ ", ") fs

end

def write (j : Json) : String := writeTo "" j
def newLine (depth : Nat) : String := "\n" ++ .ofList (.replicate (2 * depth) ' ')
def isBlank (c : Char) : Bool := c == ' ' || c == '\n' || c == '\r' || c == '\t'
def skipBlank (cs : Chars) : Chars := cs.dropWhile isBlank

def readHex4 (cs : Chars) : Option (Nat × Chars) :=
 let ds := cs.take 4
 if ds.length == 4 && ds.all (isDigitOf 16) then some (valueIn 16 ds, cs.drop 4) else none

def readText : Nat -> Chars -> Chars -> Option (String × Chars)
 | 0, _, _ => none
 | _, [], _ => none
 | _ + 1, '"' :: rest, acc => some (.ofList acc.reverse, rest)
 | fuel + 1, '\\' :: c :: rest, acc =>
  match c with
  | '"' | '/' => readText fuel rest (c :: acc)
  | 'u' => do
   let (n, left) <- readHex4 rest
   if let '\\' :: 'u' :: more := left then
    let (low, after) <- readHex4 more
    if 55296 ≤ n && n < 56320 && 56320 ≤ low && low < 57344 then
     return <- readText fuel after (.ofNat (65536 + (n - 55296) * 1024 + (low - 56320)) :: acc)
   readText fuel left (.ofNat n :: acc)
  | 'a' | 'v' => none
  | c => do readText fuel rest (.ofNat (<- escapes.lookup c) :: acc)
 | fuel + 1, c :: rest, acc => if c.toNat < 32 then none else readText fuel rest (c :: acc)

def decimalNumber (whole frac : Chars) (exponent : Int) : Float :=
 let ds := whole ++ frac
 let m := valueIn 10 ds
 let e := exponent - frac.length
 if m == 0 || e + ds.length < -400 then 0.0
 else if e > 400 then 1.0 / 0.0
 else .ofScientific m (e < 0) e.natAbs

def readFraction : Chars -> Chars × Chars
 | '.' :: rest => match rest.span Char.isDigit with
  | ([], _) => ([], '.' :: rest)
  | found => found
 | rest => ([], rest)

def signed : Chars -> Bool × Chars
 | '-' :: rest => (true, rest)
 | '+' :: rest | rest => (false, rest)

def readPower (digits : Chars -> Chars × Chars) : Chars -> Option Int × Chars
 | e :: rest =>
  let (neg, left) := signed rest
  let (ds, left) := digits left
  if ds.isEmpty || e.toLower != 'e' then (none, e :: rest) else (some (signedBy neg (valueIn 10 ds)), left)
 | [] => (none, [])

def readNumber? (cs : Chars) : Option (Json × Chars) :=
 let neg := cs.head? == some '-'
 let body := if neg then cs.drop 1 else cs
 let whole := if body.head? == some '0' then ['0'] else body.takeWhile Char.isDigit
 if whole.isEmpty then none
 else
  let (frac, rest) := readFraction (body.drop whole.length)
  let (power, rest) := readPower (·.span Char.isDigit) rest
  if frac.isEmpty && power.isNone then some (.int (signedBy neg (valueIn 10 whole)), rest)
  else some (.float (signedBy neg (decimalNumber whole frac (power.getD 0))), rest)

def fixedWords : JsonFields := [("true", true), ("false", false), ("null", .null), ("NaN", .float (0.0 / 0.0)),
 ("Infinity", .float (1.0 / 0.0)), ("-Infinity", .float (-1.0 / 0.0))]

mutual

def read : Nat -> Chars -> Option (Json × Chars)
 | 0, _ => none
 | fuel + 1, cs =>
  match skipBlank cs with
  | '"' :: rest => do
   let (s, rest) <- readText (fuel + 1) rest []
   pure (s, rest)
  | '[' :: rest =>
   match skipBlank rest with
   | ']' :: rest => some (.arr [], rest)
   | rest => do
    let (xs, rest) <- readItems fuel rest []
    pure (.arr xs, rest)
  | '\x7b' :: rest =>
   match skipBlank rest with
   | '\x7d' :: rest => some (.obj [], rest)
   | rest => do
    let (fs, rest) <- readFields fuel rest []
    pure (.obj fs, rest)
  | rest => readNumber? rest <|> fixedWords.findSome? fun (s, j) =>
   if s.toList.isPrefixOf rest then some (j, rest.drop s.length) else none

def readItems : Nat -> Chars -> List Json -> Option (List Json × Chars)
 | 0, _, _ => none
 | fuel + 1, cs, acc => do
  let (x, rest) <- read fuel cs
  match skipBlank rest with
  | ',' :: rest => readItems fuel rest (x :: acc)
  | ']' :: rest => return ((x :: acc).reverse, rest)
  | _ => none

def readFields : Nat -> Chars -> JsonFields -> Option (JsonFields × Chars)
 | 0, _, _ => none
 | fuel + 1, cs, acc => do
  let (.str key, rest) <- read fuel (skipBlank cs) | none
  let ':' :: rest := skipBlank rest | none
  let (x, rest) <- read fuel rest
  match skipBlank rest with
  | ',' :: rest => readFields fuel rest ((key, x) :: acc)
  | '\x7d' :: rest => return (((key, x) :: acc).reverse, rest)
  | _ => none

end

def ofText? (s : String) : Option Json := do
 let cs := s.toList
 let (j, rest) <- read (cs.length + 1) cs
 if rest.all isBlank then some j else none

mutual

def layOut (depth : Nat) : Json -> String
 | .arr [] => "[]"
 | .arr xs => "[" ++ layOutItems (depth + 1) "" xs ++ newLine depth ++ "]"
 | .obj [] => "\x7b\x7d"
 | .obj fs =>
  let texts := (layOutFields (depth + 1) fs).mergeSort fun a b => a.1 ≤ b.1
  "\x7b" ++ ",".intercalate (texts.map (·.2)) ++ newLine depth ++ "\x7d"
 | j => write j

def layOutItems (depth : Nat) (divider : String) : List Json -> String
 | [] => ""
 | x :: xs => divider ++ newLine depth ++ layOut depth x ++ layOutItems depth "," xs

def layOutFields (depth : Nat) : JsonFields -> Pairs
 | [] => []
 | (k, v) :: fs => (k, newLine depth ++ quote k ++ ": " ++ layOut depth v) :: layOutFields depth fs

end

end Json

namespace Numerals

open Letters Decimal

def plainForm (c : Char) : Char :=
 if c.toNat < 128 then c
 else match decimalValue? c with
  | some d => .ofNat (48 + d)
  | none => if isBlank c then ' ' else c

variable (s : String) (cs : Chars)

def body : Chars := dropEnd isSpace ((s.toList.map plainForm).dropWhile isSpace)

def joined? : Option Chars :=
 let rec go (pre : Bool) : Chars -> Option Chars
  | [] => some []
  | '_' :: d :: rest => if pre && d.isDigit then (go true rest).map (d :: ·) else none
  | ['_'] => none
  | c :: rest => (go c.isDigit rest).map (c :: ·)
 go false cs

def maxDigits : Nat := 4300

def whole? : Option Int := do
 let (neg, digits) := Json.signed (body s)
 let digits <- joined? digits
 if digits.isEmpty || !digits.all Char.isDigit || digits.length > maxDigits then none
 else return signedBy neg (valueIn 10 digits)

def magnitude? : Option Float :=
 let word := String.ofList (cs.map Char.toLower)
 if word == "nan" then some (0.0 / 0.0)
 else if word == "inf" || word == "infinity" then some (1.0 / 0.0)
 else
  let (whole, rest) := cs.span Char.isDigit
  let (frac, rest) := match rest with
   | '.' :: r => r.span Char.isDigit
   | r => ([], r)
  if whole.isEmpty && frac.isEmpty then none
  else match Json.readPower (·.span Char.isDigit) rest with
   | (power, []) => some (Json.decimalNumber whole frac (power.getD 0))
   | _ => none

def fraction? : Option Float := do
 let (neg, rest) := Json.signed (<- joined? (body s))
 return signedBy neg (<- magnitude? rest)

end Numerals

end AnimationGraph
