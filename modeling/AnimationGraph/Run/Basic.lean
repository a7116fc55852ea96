import AnimationGraph.Value.World

/-! # Steps of a session

A step reads and changes the state of the session and ends with a result or a failure; changes made
before a failure stay. Every value has a text, and a literal in which texts inside it are quoted.
-/

namespace AnimationGraph

inductive Outcome (α : Type) where
 | ok (a : α) (w : World)
 | failed (f : Failure) (w : World)

abbrev Raw (α : Type) := World -> Outcome α

structure Interface where
 attr : Value -> String -> Raw Value
 setAttr : Value -> String -> Value -> Raw Unit
 invoke : Value -> String -> Args -> Raw Value
 apply : Value -> Args -> Raw Value

def Run (α : Type) := Interface -> Raw α
abbrev Act := Run Unit
abbrev Eval := Run Value
abbrev Ask := Run Bool
abbrev Evals := Run Values
abbrev Reply := Run Json

namespace Run

@[noinline] def pure {α : Type} (a : α) : Run α := fun _ w => .ok a w

@[noinline] def bind {α β : Type} (x : Run α) (f : α -> Run β) : Run β := fun i w =>
 match x i w with
 | .ok a w => f a i w
 | .failed e w => .failed e w

@[noinline] def throw {α : Type} (f : Failure) : Run α := fun _ w => .failed f w

@[noinline] def tryCatch {α : Type} (x : Run α) (h : Failure -> Run α) : Run α := fun i w =>
 match x i w with
 | .ok a w => .ok a w
 | .failed e w => h e i w

instance : Monad Run where
 pure := Run.pure
 bind := Run.bind

instance : MonadExceptOf Failure Run where
 throw := Run.throw
 tryCatch := Run.tryCatch

instance : MonadStateOf World Run where
 get := fun _ w => .ok w w
 set w := fun _ _ => .ok () w
 modifyGet f := fun _ w => let (a, w) := f w; .ok a w

instance {α : Type} : Inhabited (Run α) := ⟨Run.throw { cause := .exhausted }⟩

end Run

variable {α : Type}

def fail (c : Cause) : Run α := throw { cause := c }

/-- What there is, or else a failure. -/
def need (c : Cause) : Option α -> Run α
 | some a => pure a
 | none => fail c

def outcome : Except Cause α -> Run α
 | .ok a => pure a
 | .error c => fail c

def failWith (message : String) : Run α := throw { cause := .general, message := some message }
def look (f : World -> α) : Run α := fun _ w => .ok (f w) w
def change (f : World -> World) : Act := fun _ w => .ok () (f w)
def changeForest (f : Forest -> Forest) : Act := change fun w => { w with forest := f w.forest }
def say (line : String) : Act := change fun w => { w with printed := w.printed.push line }
def attempt (x : Act) : Act := tryCatch x fun _ => pure ()

namespace Value

def attr (v : Value) (name : String) : Eval := fun i w => i.attr v name w
instance : CoeFun Value fun _ => String -> Eval := ⟨attr⟩

variable (v : Value) (name : String)

def set (x : Value) : Act := fun i w => i.setAttr v name x w

variable (pos : Values := []) (named : Fields := [])

def call : Eval := fun i w => i.invoke v name ⟨pos, named⟩ w

def tell : Act :=
 fun i w => match i.invoke v name ⟨pos, named⟩ w with
  | .ok _ w => .ok () w
  | .failed f w => .failed f w

def apply : Eval := fun i w => i.apply v ⟨pos, named⟩ w

def use : Eval := do
 let steps := name.splitOn "."
 (<- steps.dropLast.foldlM attr v).call (steps.getLastD "") pos named

def bid : Act := discard <| v.use name pos named

def attr? : Run (Option Value) := fun i w =>
 match i.attr v name w with
 | .ok a w => .ok (some a) w
 | .failed { cause := .attr, .. } w => .ok Option.none w
 | .failed f w => .failed f w

def hasAttr : Ask := return (<- v.attr? name).isSome
def attrD (other : Value) : Eval := return (<- v.attr? name).getD other

/-! All elements of a collection hand a property over, or take it. -/

variable (prop list : Value) (view : String := "asMemoryView")

def readAll : Act := do v.tell "foreach_get" [prop, <- list.call view]
def writeAll : Act := do v.tell "foreach_set" [prop, <- list.call view]

end Value

def make (kind : String) (args : Values := []) (named : Fields := []) : Eval := (Value.kind kind).apply args named
def rgba (xs : Values) : Eval := make "Color" [.tuple xs]

namespace NodeId

variable (n : NodeId) (name : String)

def attr : Eval := Value.attr n name
instance : CoeFun NodeId fun _ => String -> Eval := ⟨attr⟩
def set (x : Value) : Act := Value.set n name x
variable (pos : Values := []) (named : Fields := [])
def call : Eval := Value.call n name pos named
def tell : Act := Value.tell n name pos named
def use : Eval := Value.use n name pos named
def bid : Act := Value.bid n name pos named

end NodeId

namespace SocketId

variable (s : SocketId) (name : String)

def attr : Eval := Value.attr s name
instance : CoeFun SocketId fun _ => String -> Eval := ⟨attr⟩
def set (x : Value) : Act := Value.set s name x
variable (pos : Values := []) (named : Fields := [])
def call : Eval := Value.call s name pos named
def tell : Act := Value.tell s name pos named

end SocketId

namespace CellId

variable (c : CellId) (name : String)

def attr : Eval := Value.attr c name
instance : CoeFun CellId fun _ => String -> Eval := ⟨attr⟩
def set (x : Value) : Act := Value.set c name x
variable (pos : Values := []) (named : Fields := [])
def call : Eval := Value.call c name pos named
def tell : Act := Value.tell c name pos named

end CellId

def newCell (c : Cell) : Eval := fun _ w => .ok (.cell ⟨w.cells.size⟩) { w with cells := w.cells.push c }

variable (items : Values) (id : CellId)

def readCell : Run Cell := fun _ w => .ok (w.cells[id.index]?.getD (.list #[])) w
def writeCell (c : Cell) : Act := fun _ w => .ok () { w with cells := w.cells.set! id.index c }
def list : Eval := newCell (.list items.toArray)
def newDict (es : List (Value × Value)) : Eval := newCell (.dict es.toArray)
def newSet : Eval := newCell (.set items.toArray)
def vector : Eval := newCell (.numbers .vector items.toArray)
def newEuler (order : String := "XYZ") : Eval := newCell (.numbers (.euler order) items.toArray)
def newQuaternion : Eval := newCell (.numbers .quaternion items.toArray)
def newColor : Eval := newCell (.numbers .color items.toArray)

def newStruct (fields : Fields) (recorded : Texts := []) : Eval :=
 newCell (.record { kind := "ns", origin := .struct, fields, recorded })

def newRecord (kind : String) (fields : Fields) : Eval := newCell (.record { kind, origin := .inst, fields })

variable (name : String)

def setField (x : Value) : Act := do
 let .record r <- readCell id | fail .attr
 writeCell id (.record { r with fields := r.fields.set name x })

def register : Eval := look fun w => (w.registers.get? name).getD .none
def setRegister (v : Value) : Act := change fun w => { w with registers := w.registers.set name v }
def hostIsExtended : Ask := return (<- register "hostExtended") matches .bool true

def nextRandom : Run Nat := fun _ w =>
 let state := (w.random * 1103515245 + 12345) % Nat.pow 2 31
 .ok (state / Nat.pow 2 16) { w with random := state }

def chooseChars (chars : Chars) : Nat -> Run Chars
 | 0 => pure []
 | length + 1 => return chars[(<- nextRandom) % chars.length]?.getD ' ' :: (<- chooseChars chars length)

def randomLetters (len : Nat) : Run String := do
 return String.ofList (<- chooseChars "abcdefghijklmnopqrstuvwxyz".toList len)

def identifierLetters : Chars := "abcdefghijklmnopqrstuvwxyz0123456789".toList
def newIdentifier : Run String := return "_" ++ String.ofList (<- chooseChars identifierLetters 15)

inductive Number where
 | whole (i : Int)
 | real (x : Float)

def Value.number? : Value -> Option Number
 | .bool b => some (.whole (if b then 1 else 0))
 | .int i => some (.whole i)
 | .float x => some (.real x)
 | _ => .none

namespace Number

def toValue : Number -> Value
 | .whole i => i
 | .real x => x

def floatOfInt (i : Int) : Float := Decimal.signedBy (i < 0) (.ofScientific i.natAbs false 0)

def toFloat : Number -> Float
 | .whole i => floatOfInt i
 | .real x => x

def toFloat? : Number -> Except Cause Float
 | .whole i => if (floatOfInt i).isInf then .error .overflow else .ok (floatOfInt i)
 | .real x => .ok x

def isBeyond : Number -> Number -> Bool
 | .whole i, .real _ | .real _, .whole i => (floatOfInt i).isInf
 | _, _ => false

def isZero : Number -> Bool
 | .whole i => i == 0
 | .real x => x == 0.0

def add : Number -> Number -> Number
 | .whole a, .whole b => .whole (a + b)
 | a, b => .real (a.toFloat + b.toFloat)

def sub : Number -> Number -> Number
 | .whole a, .whole b => .whole (a - b)
 | a, b => .real (a.toFloat - b.toFloat)

def mul : Number -> Number -> Number
 | .whole a, .whole b => .whole (a * b)
 | a, b => .real (a.toFloat * b.toFloat)

def quotient (a b : Int) : Float :=
 let n := a.natAbs
 let d := b.natAbs
 let q := if n < .pow 2 53 && d < .pow 2 53 then floatOfInt n / floatOfInt d else
  -- sixty-four significant bits and a sticky bit decide the rounding
  let shift := (d.log2 + 66) - n.log2
  let m := n * .pow 2 shift / d
  let back := n.log2 - (d.log2 + 66)
  if shift > 0 then .scaleB (floatOfInt (2 * m + (if n * .pow 2 shift % d == 0 then 0 else 1))) (-(shift : Int) - 1)
  else .scaleB (floatOfInt (2 * (n / (d * .pow 2 back)) + 1)) (back - 1)
 Decimal.signedBy ((a < 0) != (b < 0)) q

def divided (d r : Number) : Except Cause Number := if d.isZero then .error .zeroDivision else .ok r

def div (a b : Number) : Except Cause Number :=
 match a, b with
 | .whole m, .whole n =>
  let q := quotient m n
  if n != 0 && q.isInf then .error .overflow else divided b (.real q)
 | _, _ => divided b (.real (a.toFloat / b.toFloat))

def floatMod (a b : Float) : Float :=
 match Decimal.classify a, Decimal.classify b with
 | .finite x, .finite y =>
  let e := min x.exponent y.exponent
  let scaled (z : Decimal.Binary) : Int := Decimal.signedBy z.negative (z.mantissa * .pow 2 (z.exponent - e).natAbs)
  let r := (scaled x).fmod (scaled y)
  if r == 0 then Decimal.signedBy y.negative 0.0 else .scaleB (floatOfInt r) e
 | .finite x, .infinite neg => if x.negative == neg || x.mantissa == 0 then a else b
 | _, _ => 0.0 / 0.0

def floorDiv (a b : Number) : Except Cause Number := divided b <| match a, b with
 | .whole a, .whole b => .whole (.fdiv a b)
 | a, b =>
  let x := a.toFloat
  let y := b.toFloat
  let r := floatMod x y
  .real (if r.isInf then -1.0 else ((x - r) / y).round)

def mod (a b : Number) : Except Cause Number := divided b <| match a, b with
 | .whole a, .whole b => .whole (.fmod a b)
 | a, b => .real (floatMod a.toFloat b.toFloat)

def pow : Number -> Number -> Except Cause Number
 | .whole a, .whole b =>
  if 0 ≤ b then .ok (.whole (.pow a b.natAbs))
  else if a == 0 then .error .zeroDivision
  else .ok (.real (.pow (floatOfInt a) (floatOfInt b)))
 | a, b =>
  if a.isZero && b.toFloat < 0.0 then .error .zeroDivision
  else
   let x := .pow a.toFloat b.toFloat
   if x.isInf && a.toFloat.isFinite && b.toFloat.isFinite then .error .overflow else .ok (.real x)

def neg : Number -> Number
 | .whole i => .whole (-i)
 | .real x => .real (-x)

def abs : Number -> Number
 | .whole i => .whole i.natAbs
 | .real x => .real x.abs

def compareReal? (i : Int) (x : Float) : Option Ordering :=
 match Decimal.classify x with
 | .nan => none
 | .infinite neg => some (if neg then .gt else .lt)
 | .finite b => some (compare (i * b.ratio.den) (Decimal.signedBy b.negative b.ratio.num))

def compare? : Number -> Number -> Option Ordering
 | .whole a, .whole b => some (compare a b)
 | .real x, .real y => if x < y then some .lt else if x == y then some .eq else if x > y then some .gt else none
 | .whole a, .real y => compareReal? a y
 | .real x, .whole b => (compareReal? b x).map .swap

def eq (a b : Number) : Bool := compare? a b == some .eq
def lt (a b : Number) : Bool := compare? a b == some .lt
def le (a b : Number) : Bool := a.lt b || a.eq b

end Number

def tuple (xs : Values) : Eval := return .tuple xs
def zero3 : Value := .tuple [0, 0, 0]
def one3 : Value := .tuple [1, 1, 1]
def commaList (ps : Texts) : String := ", ".intercalate ps

def placesText (ps : Nat) (v : Value) : Except Cause String :=
 match v.number?, v with
 | some n, _ => return Decimal.fixedPlaces ps (<- n.toFloat?)
 | none, .str _ => .error .value
 | none, _ => .error .type

def plainRecords : Texts := ["MIDINote", "MIDITrack"]

/-- How records of some kinds are listed: the title, the margin and the fields. -/
def listings : List (String × String × Nat × Pairs) := [
 ("GPFrame", "AN Frame Object:", 8, [("Strokes", "strokes"), ("Frame Number", "frameNumber")]),
 ("GPLayer", "AN Layer Object:", 8, [("Layer Name", "layerName"), ("Frames", "frames"), ("Blend Mode", "blendMode"),
  ("Opacity", "opacity"), ("Use Lights", "useLights"), ("Tint Color", "tintColor"), ("Tint Factor", "tintFactor"),
  ("Stroke Thickness", "lineChange"), ("Pass Index", "passIndex"), ("Mask Layers", "maskLayers")]),
 ("GPStroke", "AN Stroke Object:", 12, [("Points", "vertices"), ("Line Width", "lineWidth"), ("Hardeness", "hardness"),
  ("Cyclic", "useCyclic"), ("Start Cap Mode", "startCapMode"), ("End Cap Mode", "endCapMode"),
  ("Vertex Color Fill", "vertexColorFill"), ("Material Index", "materialIndex"), ("Display Mode", "displayMode")])]

def listing (title : String) (margin : Nat) (ps : Pairs) : String :=
 let ls := title :: ps.map fun (name, v) => .ofList (.replicate margin ' ') ++ name ++ ": " ++ v
 let tidy (l : String) := if l.all fun c => c == ' ' || c == '\t' then "" else l
 "\n".intercalate ((("\n".intercalate ls).splitOn "\n").map tidy)

namespace World

variable (w : World) (v : Value) (name : String)

def cell (id : CellId) : Cell := w.cells[id.index]?.getD (.list #[])
def kernelFact? : Option Json := w.kernelFacts.bind (·.lookup name)

def size? : Value -> Except Cause Nat
 | .tuple xs => .ok xs.length
 | .cell id =>
  match w.cell id with
  | .list xs => .ok xs.size
  | .sequence s => .ok s.items.size
  | _ => .error .type
 | .kernel .. =>
  match w.kernelFact? "len" with
  | some (.int i) => .ok i.toNat
  | _ => .error .unavailable
 | _ => .error .type

def record? : Value -> Option Record
 | .cell id =>
  match w.cell id with
  | .record r => some r
  | _ => none
 | _ => none

def fieldOf : Value := ((w.record? v).bind (·.fields.get? name)).getD .none

def listed : Value -> Values
 | .cell id =>
  match w.cell id with
  | .list xs => xs.toList
  | _ => []
 | _ => []

mutual

def literal? (w : World) : Nat -> Value -> Except Cause String
 | 0, _ => .error .recursion
 | fuel + 1, v =>
  match v with
  | .none => .ok "None"
  | .bool b => .ok (if b then "True" else "False")
  | .int i => .ok (toString i)
  | .float x => .ok (Decimal.text x)
  | .str s => .ok (Quoted.literal s)
  | .bytes b => .ok (Quoted.bytesLiteral b)
  | .tuple [x] => return "(" ++ (<- w.literal? fuel x) ++ ",)"
  | .tuple xs => return "(" ++ commaList (<- xs.mapM (w.literal? fuel)) ++ ")"
  | .cell id => w.cellLiteral? fuel (w.cell id)
  | .tree t => .ok ("<AnimationNodeTree \"" ++ (w.forest.tree t).name ++ "\">")
  | .node n => .ok ("<Node \"" ++ (w.forest.node n).name ++ "\">")
  | .socket s => .ok ("<NodeSocket \"" ++ (w.forest.socket s).name ++ "\">")
  | .kind name => .ok s!"<class '{name}'>"
  | .operation "slice" bounds => return "slice(" ++ commaList (<- bounds.mapM (w.literal? fuel)) ++ ")"
  | .operation name _ => .ok s!"<function {name}>"
  | .kernel .. =>
   match w.kernelFact? "str" with
   | some (.str s) => .ok s
   | _ => .error .unavailable
  | _ => .error .unavailable

def text? (w : World) : Nat -> Value -> Except Cause String
 | 0, _ => .error .recursion
 | fuel + 1, v =>
  match v with
  | .str s => .ok s
  | v => w.literal? fuel v

def cellLiteral? (w : World) : Nat -> Cell -> Except Cause String
 | 0, _ => .error .recursion
 | fuel + 1, c =>
  let literals (xs : Array Value) : Except Cause Texts := xs.toList.mapM (w.literal? fuel)
  match c with
  | .list xs | .sequence { items := xs, .. } => return "[" ++ commaList (<- literals xs) ++ "]"
  | .set xs => if xs.isEmpty then .ok "set()" else do return "\x7b" ++ commaList (<- literals xs) ++ "\x7d"
  | .dict es => do
   let ps <- es.toList.mapM fun (k, v) => return (<- w.literal? fuel k) ++ ": " ++ (<- w.literal? fuel v)
   return "\x7b" ++ commaList ps ++ "\x7d"
  | .numbers .color xs => do
   let ps <- xs.toList.mapM (placesText 2)
   return "Color(" ++ commaList (["R: ", "G: ", "B: ", "A: "].zipWith (· ++ ·) ps) ++ ")"
  | .numbers shape xs => do
   let ps := commaList (<- literals xs)
   match shape with
   | .euler order => return s!"Euler(({ps}), '{order}')"
   | .quaternion => return s!"Quaternion(({ps}))"
   | _ => return s!"Vector(({ps}))"
  | .struct es => do
   let ps <- es.toList.mapM fun e => return Quoted.literal e.1.2 ++ ": " ++ (<- w.text? fuel e.2)
   return "<AN Struct: " ++ commaList ps ++ " >"
  | .numeric xs => return "[" ++ " ".intercalate (<- literals xs) ++ "]"
  | .record r => w.recordLiteral? fuel r
  | _ => .error .unavailable

def recordLiteral? (w : World) : Nat -> Record -> Except Cause String
 | 0, _ => .error .recursion
 | fuel + 1, r => do
  let field (name : String) : Value := (r.fields.get? name).getD .none
  let shown (name : String) : Except Cause String := do
   if ["strokes", "frames", "vertices"].contains name then return toString (<- w.size? (field name))
   else if name == "maskLayers" then
    let masks <- (w.listed (field name)).mapM fun m => w.literal? fuel (w.fieldOf m "layerName")
    return "[" ++ commaList masks ++ "]"
   else w.text? fuel (field name)
  let name := (field "name").text?.getD ""
  match r.origin with
  | .struct => return s!"<ns \"{name}\">"
  | .block => return s!"<{r.kind} \"{name}\">"
  | .inst =>
   if plainRecords.contains r.kind then
    let ps <- r.fields.mapM fun (name, v) => return name ++ "=" ++ (<- w.literal? fuel v)
    return r.kind ++ "(" ++ commaList ps ++ ")"
   else if let some (title, margin, fs) := listings.lookup r.kind then
    return listing title margin (<- fs.mapM fun (label, name) => return (label, <- shown name))
   else return s!"<{r.kind}>"
  | _ => return s!"<{r.kind}>"

end

def textDepth : Nat := 100000

end World

def record? (v : Value) : Run (Option Record) := look (·.record? v)
def kernelFact? (name : String) : Run (Option Json) := look (·.kernelFact? name)
def literal (v : Value) : Run String := do outcome (<- look (·.literal? World.textDepth v))

def text : Value -> Run String
 | .str s => pure s
 | v => literal v

end AnimationGraph
