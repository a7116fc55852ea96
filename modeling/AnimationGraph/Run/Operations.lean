import AnimationGraph.Run.Json

/-! # Operations on values

Truth, length, elements, positions, equality, order and arithmetic.
-/

namespace AnimationGraph

variable (v a b : Value) (items : Values) (key : Value) (entries : Array (Value × Value)) (name : String)

def statedBool : Ask := do
 match <- kernelFact? name with
 | some (.bool b) => pure b
 | some (.int i) => return i != 0
 | _ => fail .unavailable

def statedLength : Run Nat := do
 let some (.int i) <- kernelFact? "len" | fail .unavailable
 pure i.toNat

def singles (s : String) : Values := s.toList.map fun c => (String.singleton c)

namespace World

/-- What a value has, where that can be counted. -/
def held? (w : World) : Value -> Option Values
 | .tuple xs => some xs
 | .str s => some (singles s)
 | .bytes b => some (b.map (·.toNat))
 | .sockets n side => some ((w.forest.side n side).toList.map .socket)
 | .nodesOf t => some ((w.forest.tree t).nodes.toList.map .node)
 | .linksOf t => some ((w.forest.tree t).links.toList.map .link)
 | .cell id =>
  match w.cell id with
  | .list xs | .set xs | .numbers _ xs | .numeric xs => some xs.toList
  | .sequence s => some s.items.toList
  | .dict es => some (es.toList.map (·.1))
  | .struct es => some (es.toList.map fun e => .tuple [e.1.1, e.1.2])
  | _ => none
 | _ => none

def elements? (w : World) (v : Value) : Option Values :=
 if let .cell id := v then
  if let .iterator xs next cyclic := w.cell id then if cyclic then none else some (xs.toList.drop next)
  else w.held? v
 else w.held? v

end World

def iter (v : Value) : Evals := do
 match v with
 | .kernel .. => return (List.range (<- statedLength)).map fun (i : Nat) => .kernel ".[]" [v, i] []
 | _ =>
  let some xs <- look (·.elements? v) | fail .type
  if let .cell id := v then
   if let .iterator items _ false <- readCell id then writeCell id (.iterator items items.size false)
  pure xs

def elementsUpTo (k : Nat) : Evals := do
 if let .cell id := v then
  if let .iterator items next true <- readCell id then
   if items.isEmpty then return []
   return (List.range k).map fun i => items[(next + i) % items.size]?.getD .none
 return (<- iter v).take k

def mapList (f : Value -> Eval) : Eval := do list (<- (<- iter v).mapM f)
def textsOf : Run Texts := do (<- iter v).mapM text
def textList (texts : Texts) : Eval := list (texts.map .str)

def truthy : Value -> Ask
 | .none => pure false
 | .bool b => pure b
 | .int i => return i != 0
 | .float x => return !(x == 0.0)
 | .str s => pure !s.isEmpty
 | .kernel .. => statedBool "bool"
 | v => return !((<- look (·.held? v)).getD [.none]).isEmpty

def textAt : Run String := do text (<- v name)
def each : Evals := do iter (<- v name)
def holds : Ask := do truthy (<- v name)
def ask (pos : Values := []) : Ask := do truthy (<- v.call name pos)
def heldBy (v : Value) : Evals := do need .type (<- look (·.held? v))

def length : Value -> Run Nat
 | .kernel .. => statedLength
 | v => return (<- heldBy v).length

def count (name : String) : Run Nat := do length (<- v name)
def isEmpty : Ask := return (<- length v) == 0

def identical : Value -> Value -> Bool
 | .none, .none => true
 | .bool a, .bool b => a == b
 | .int a, .int b => a == b
 | .float a, .float b => a.toBits == b.toBits
 | .str a, .str b => a == b
 | .cell a, .cell b => a == b
 | .tree a, .tree b => a == b
 | .node a, .node b => a == b
 | .socket a, .socket b => a == b
 | .link a, .link b => a == b
 | .layout a, .layout b => a == b
 | .sockets a s, .sockets b t => a == b && s == t
 | .kind a, .kind b => a == b
 | .operation a _, .operation b _ => a == b
 | .space a, .space b => a == b
 | _, _ => false

namespace World

mutual

def equal? (w : World) : Nat -> Value -> Value -> Option Bool
 | 0, _, _ => some false
 | fuel + 1, a, b =>
  match a, b with
  | .kernel .., _ => none
  | _, .kernel .. => none
  | .tuple xs, .tuple ys => w.equalAll? fuel xs ys
  | .bytes x, .bytes y => some (x == y)
  | .cell i, .cell j => if i == j then some true else w.equalCells? fuel (w.cell i) (w.cell j)
  | a, b =>
   match a.number?, b.number? with
   | some x, some y => some (x.eq y)
   | _, _ => some (identical a b)

def equalAll? (w : World) : Nat -> Values -> Values -> Option Bool
 | 0, _, _ => some false
 | _, [], [] => some true
 | fuel + 1, x :: xs, y :: ys => do if <- w.equal? fuel x y then w.equalAll? fuel xs ys else some false
 | _, _, _ => some false

def equalCells? (w : World) : Nat -> Cell -> Cell -> Option Bool
 | 0, _, _ => some false
 | fuel + 1, a, b =>
  let all (alike : Bool) (xs ys : Values) := if alike then w.equalAll? fuel xs ys else some false
  match a, b with
  | .list xs, .list ys => all true xs.toList ys.toList
  | .numbers s xs, .numbers t ys => all ((s == .color) == (t == .color)) xs.toList ys.toList
  | .dict xs, .dict ys =>
   let parts (es : Array (Value × Value)) := (es.map (·.1) ++ es.map (·.2)).toList
   all (xs.size == ys.size) (parts xs) (parts ys)
  | .set xs, .set ys => all (xs.size == ys.size) (sortByKey (setKey w) xs.toList) (sortByKey (setKey w) ys.toList)
  | .struct xs, .struct ys => all (xs.map (·.1) == ys.map (·.1)) (xs.toList.map (·.2)) (ys.toList.map (·.2))
  | .record r, .record s =>
   all (plainRecords.contains r.kind && r.kind == s.kind) (r.fields.map (·.2)) (s.fields.map (·.2))
  | _, _ => some false

end
end World

def equal (a b : Value) : Ask := do
 match <- look fun w => w.equal? World.textDepth a b with
 | some r => pure r
 | none => statedBool "=="

def fits (x : Value) : Ask := do equal (<- v name) x

def notEqual : Ask := do
 match <- look fun w => w.equal? World.textDepth a b with
 | some r => pure !r
 | none => statedBool "!="

def World.order? (w : World) : Nat -> Value -> Value -> Option Ordering
 | 0, _, _ => none
 | fuel + 1, a, b =>
  match a.number?, b.number? with
  | some x, some y => x.compare? y
  | _, _ =>
   match a, b with
   | .str x, .str y => some (compare x y)
   | a, b => do
    let rec go : Values -> Values -> Option Ordering
     | [], [] => some .eq
     | [], _ => some .lt
     | _, [] => some .gt
     | x :: xs, y :: ys =>
      match w.equal? World.textDepth x y with
      | some true => go xs ys
      | _ => w.order? fuel x y
    match a, b with
    | .tuple xs, .tuple ys => go xs ys
    | .cell i, .cell j =>
     match w.cell i, w.cell j with
     | .list xs, .list ys => go xs.toList ys.toList
     | _, _ => none
    | _, _ => none

def related (relation : String) (accept : Ordering -> Bool) (a b : Value) : Ask := do
 match a, b with
 | .kernel .., _ | _, .kernel .. => statedBool relation
 | a, b =>
  match a.number?, b.number? with
  | some x, some y => return ((x.compare? y).map accept).getD false
  | _, _ => return accept (<- need .type (<- look (·.order? World.textDepth a b)))

def less : Ask := related "<" (· == .lt) a b
def lessEqual : Ask := related "<=" (· != .gt) a b
def greater : Ask := related ">" (· == .gt) a b
def greaterEqual : Ask := related ">=" (· != .lt) a b

def isSame : Ask := if identical a b then pure true else equal a b
def occursIn (xs : Values) : Ask := xs.anyM (isSame v)

def has (box v : Value) : Ask := do
 match box, v with
 | .kernel .., _ => statedBool "in"
 | .str s, .str t => return (Edit.find? t s).isSome
 | .str _, _ => fail .type
 | .sockets n side, .str name => look fun w => (w.forest.side n side).any fun s => (w.forest.socket s).name == name
 | .nodesOf t, .str name => look fun w => (w.forest.nodeOfTree? t name).isSome
 | .cell id, v =>
  match <- readCell id, v with
  | .sequence s, .str name =>
   if s.kind == .attributed then occursIn v s.items.toList
   else look fun w => (namedItem? w s.items name).isSome
  | .record r, .str name => return r.custom.has name
  | .record _, _ => fail .type
  | _, _ => occursIn v (<- iter box)
 | box, v => occursIn v (<- iter box)

def sliceValue (start stop step : Value) : Value := .operation "slice" [start, stop, step]

variable (length : Nat) (xs : Array Value)

def clampIndex (i low high : Int) : Int :=
 max low (min high (if i < 0 then i + length else i))

def slicePositions (start stop : Option Int) (step : Int) : List Nat :=
 let low : Int := if 0 < step then 0 else -1
 let high := length + low
 let (first, last) := if 0 < step then (low, high) else (high, low)
 let a := (start.map (clampIndex length · low high)).getD first
 let b := (stop.map (clampIndex length · low high)).getD last
 (List.range (-(a - b).fdiv step).toNat).map fun (k : Nat) => (a + k * step).toNat

def textArg : Run String := do
 let .str s := v | fail .type
 pure s

def textArgs : Run Texts := do (<- iter v).mapM textArg

def indexOf : Value -> Run Int
 | .int i => pure i
 | .bool b => return if b then 1 else 0
 | _ => fail .type

def bound? : Value -> Run (Option Int)
 | .none => pure none
 | v => indexOf v

def sliceOf (start stop step : Value) : Evals := do
 let st := (<- bound? step).getD 1
 if st == 0 then fail .value
 let xs := items.toArray
 return (slicePositions xs.size (<- bound? start) (<- bound? stop) st).filterMap (xs[·]?)

def textOfItems : String :=
 .join (items.map fun
  | .str s => s
  | _ => "")

def isKey : Ask := do
 let .cell id := v | pure true
 match <- readCell id with
 | .list _ | .dict _ | .set _ | .struct _ => pure false
 | _ => pure true

def placeOf? (v : Value) : Values -> Run (Option Nat)
 | [] => pure none
 | x :: rest => do
  if <- isSame x v then return some 0
  return (<- placeOf? v rest).map (· + 1)

def keyPlace? (key : Value) : Run (Option Nat) := placeOf? key (entries.toList.map (·.1))

def entryOf? (key : Value) : Run (Option Value) := do
 return (<- keyPlace? entries key).bind fun i => entries[i]?.map (·.2)

def World.custom? (w : World) : Value -> Option Fields
 | .node n => some (w.forest.node n).custom
 | .socket s => some (w.forest.socket s).custom
 | .tree t => some (w.forest.tree t).custom
 | v => (w.record? v).bind fun r => if r.origin == .inst then none else some r.custom

def setCustom (f : Fields -> Fields) : Act := do
 match v with
 | .node n => changeForest (·.modifyNode n fun x => { x with custom := f x.custom })
 | .socket s => changeForest (·.modifySocket s fun x => { x with custom := f x.custom })
 | .tree t => changeForest (·.modifyTree t fun x => { x with custom := f x.custom })
 | .cell id =>
  let .record r <- readCell id | fail .type
  writeCell id (.record { r with custom := f r.custom, customised := true })
 | _ => fail .type

def customProperties : Run Fields := do
 setCustom v id
 return (<- look (·.custom? v)).getD []

def listItem : Eval := do
 need .index ((position? items.length (<- indexOf key)).bind (items[·]?))

def item : Eval := do
 match v, key with
 | .kernel .., _ =>
  if let .int i := key then
   if let some (.int n) <- kernelFact? "len" then if i ≥ n || i < -n then fail .index
  return .kernel ".[]" [v, key] []
 | .tuple xs, .operation "slice" [a, b, c] => return .tuple (<- sliceOf xs a b c)
 | .str s, .operation "slice" [a, b, c] => return textOfItems (<- sliceOf (singles s) a b c)
 | .bytes b, k => listItem (b.map (·.toNat)) k
 | .sockets n side, .str name =>
  need .key (<- look fun w => (w.forest.side n side).find? fun s => (w.forest.socket s).name == name)
 | .nodesOf t, .str name => need .key (<- look (·.forest.nodeOfTree? t name))
 | .kind name, k => return .kind (name ++ "[" ++ (<- text k) ++ "]")
 | .cell id, k =>
  match <- readCell id, k with
  | .sequence s, .str name => need .key (<- look (namedItem? · s.items name))
  | .dict es, k =>
   unless <- isKey k do fail .type
   need .key (<- entryOf? es k)
  | .struct es, .tuple [.str t, .str n] => need .key ((es.find? (·.1 == (t, n))).map (·.2))
  | .struct _, _ => fail .key
  | .record r, .str name =>
   if r.origin == .inst then fail .type
   need .key (r.custom.get? name)
  | .set _, _ => fail .type
  | c, k =>
   let xs <- heldBy v
   let .operation "slice" [a, b, step] := k | listItem xs k
   let part <- sliceOf xs a b step
   match c with
   | .numbers .vector _ => vector part
   | .numbers .. => return .tuple part
   | .numeric _ => newCell (.numeric part.toArray)
   | _ => list part
 | v, .str name =>
  let some fs <- look (·.custom? v) | fail .type
  need .key (fs.get? name)
 | v, .operation "slice" [a, b, c] => list (<- sliceOf (<- heldBy v) a b c)
 | v, k => listItem (<- heldBy v) k

def placeIn : Run Nat := do need .index (position? xs.size (<- indexOf key))
def replaceAt (key x : Value) : Run (Array Value) := return xs.set! (<- placeIn key xs) x

def setEntry (key x : Value) : Run (Array (Value × Value)) := do
 match <- keyPlace? entries key with
 | some i => return entries.modify i fun e => (e.1, x)
 | none => return entries.push (key, x)

def replaceSlice (start stop : Value) (new : Values) : Run (Array Value) := do
 let from? <- bound? start
 let ps := slicePositions xs.size from? (<- bound? stop) 1
 let first := ((from?.map (clampIndex xs.size · 0 xs.size)).getD 0).toNat
 return xs.extract 0 first ++ new.toArray ++ xs.extract (first + ps.length) xs.size

/-- The elements of a list, and the list with others. -/
def Cell.list? : Cell -> Option (Array Value × (Array Value -> Cell))
 | .list xs => some (xs, .list)
 | .sequence s => some (s.items, fun items => .sequence { s with items })
 | _ => none

def setItem (x : Value) : Act := do
 match v with
 | .kernel .. => record "set" [v, key, x]
 | .cell id =>
  let c <- readCell id
  if let some (xs, made) := c.list? then
   if let .operation "slice" [a, b, .none] := key then
    return <- writeCell id (made (<- replaceSlice xs a b (<- iter x)))
   return <- writeCell id (made (<- replaceAt xs key x))
  match c, key with
  | .numbers .vector xs, k => writeCell id (.numbers .vector (<- replaceAt xs k x))
  | .numeric xs, k => writeCell id (.numeric (<- replaceAt xs k x))
  | .dict es, k =>
   unless <- isKey k do fail .type
   writeCell id (.dict (<- setEntry es k x))
  | .struct es, .tuple [.str t, .str n] =>
   let key := (t, n)
   let es := if es.any (·.1 == key) then es.map fun e => if e.1 == key then (key, x) else e
    else es.push (key, x)
   writeCell id (.struct es)
  | .record r, .str name =>
   if r.origin == .inst then fail .type
   setCustom v (·.set name x)
  | _, _ => fail .type
 | v =>
  let .str name := key | fail .type
  setCustom v (·.set name x)

def delItem : Act := do
 match v with
 | .kernel .. => record "del" [v, (<- text key)]
 | .cell id =>
  let c <- readCell id
  if let some (xs, made) := c.list? then
   if let .operation "slice" [a, b, .none] := key then return <- writeCell id (made (<- replaceSlice xs a b []))
   return <- writeCell id (made (xs.eraseIdxIfInBounds (<- placeIn key xs)))
  match c, key with
  | .dict es, k =>
   let some _ <- entryOf? es k | fail .key
   writeCell id (.dict (<- es.filterM fun e => return !(<- equal e.1 k)))
  | .struct es, .tuple [.str t, .str n] =>
   if es.any (·.1 == (t, n)) then writeCell id (.struct (es.filter (·.1 != (t, n)))) else fail .key
  | .record r, .str name => if r.custom.has name then setCustom v (·.erase name) else fail .key
  | _, _ => fail .type
 | v =>
  match key, <- look (·.custom? v) with
  | .str name, some fs => if fs.has name then setCustom v (·.erase name) else fail .key
  | _, _ => fail .type

def ofNumber (r : Except Cause Number) : Eval := return (<- outcome r).toValue

def mapNumbers (f : Number -> Except Cause Number) (xs : Array Value) : Evals :=
 xs.toList.mapM fun x => do ofNumber (f (<- need .type x.number?))

def zipNumbers (f : Number -> Number -> Number) (xs ys : Array Value) : Evals :=
 (xs.toList.zip ys.toList).mapM fun (x, y) => return (f (<- need .type x.number?) (<- need .type y.number?)).toValue

def arithmetic (symbol : String) (f : Number -> Number -> Except Cause Number)
  (others : Value -> Value -> Eval) (a b : Value) : Eval := do
 match a, b with
 | .kernel .., _ | _, .kernel .. => kernel symbol [a, b]
 | a, b =>
  match a.number?, b.number? with
  | some x, some y => if x.isBeyond y then fail .overflow else ofNumber (f x y)
  | _, _ => others a b

def unsupported (_ _ : Value) : Eval := fail .type

def add : Value -> Value -> Eval :=
 arithmetic "+" (fun x y => .ok (x.add y)) fun a b => do
  match a, b with
  | .str s, .str t => return s ++ t
  | .bytes s, .bytes t => return .bytes (s ++ t)
  | .tuple xs, .tuple ys => return .tuple (xs ++ ys)
  | .cell i, .cell j =>
   match <- readCell i, <- readCell j with
   | .numbers .vector xs, .numbers .vector ys => vector (<- zipNumbers .add xs ys)
   | c, d =>
    let some (xs, _) := c.list? | fail .type
    let some (ys, _) := d.list? | fail .type
    list (xs ++ ys).toList
  | _, _ => fail .type

def addTo : Eval := do
 if let .cell id := a then
  if let some (xs, made) := (<- readCell id).list? then
   writeCell id (made (xs ++ (<- iter b).toArray))
   return a
 add a b

def sub : Value -> Value -> Eval :=
 arithmetic "-" (fun x y => .ok (x.sub y)) fun a b => do
  match a, b with
  | .cell i, .cell j =>
   match <- readCell i, <- readCell j with
   | .numbers .vector xs, .numbers .vector ys => vector (<- zipNumbers .sub xs ys)
   | .set xs, .set ys => newSet (<- xs.toList.filterM fun x => return !(<- occursIn x ys.toList))
   | _, _ => fail .type
  | _, _ => fail .type

def repeated {α : Type} (xs : List α) (n : Int) : List α := (List.replicate n.toNat xs).flatten

def mul : Value -> Value -> Eval :=
 arithmetic "*" (fun x y => .ok (x.mul y)) fun a b => do
  match a, b with
  | .str s, .int n | .int n, .str s => return String.join (List.replicate n.toNat s)
  | .tuple xs, .int n => return .tuple (repeated xs n)
  | .cell i, k | k, .cell i =>
   match <- readCell i, k with
   | .list xs, .int n => list (repeated xs.toList n)
   | .numbers .vector xs, k =>
    let y <- need .type k.number?
    vector (<- mapNumbers (fun x => .ok (x.mul y)) xs)
   | _, _ => fail .type
  | _, _ => fail .type

def div : Value -> Value -> Eval :=
 arithmetic "/" Number.div fun a b => do
  let .cell i := a | fail .type
  match <- readCell i, b.number? with
  | .numbers .vector xs, some y => vector (<- mapNumbers (·.div y) xs)
  | _, _ => fail .type

def floorDiv : Value -> Value -> Eval := arithmetic "//" Number.floorDiv unsupported
def mod : Value -> Value -> Eval := arithmetic "%" Number.mod unsupported
def pow : Value -> Value -> Eval := arithmetic "**" Number.pow unsupported

def matMul : Eval := do
 match a, b with
 | .kernel .., _ | _, .kernel .. => kernel "@" [a, b]
 | _, _ => fail .type

def negate : Eval := do
 match a with
 | .kernel .. => kernel "-" [a]
 | a =>
  match a.number? with
  | some x => pure x.neg.toValue
  | none =>
   let .cell i := a | fail .type
   let .numbers .vector xs <- readCell i | fail .type
   vector (<- mapNumbers (.ok ·.neg) xs)

def absolute : Eval := do
 match a with
 | .kernel .. => kernel "abs" [a]
 | a => return (<- need .type a.number?).abs.toValue

def best (better : Value -> Value -> Ask) : Value -> Values -> Eval :=
 List.foldlM fun x v => do if <- better v x then pure v else pure x

def maxOf : Eval := best greater a [b]
def minOf : Eval := best less a [b]

def distinctValues (xs : Values) : Evals := do
 let mut out : Values := []
 for x in xs do unless <- occursIn x out do out := x :: out
 pure out.reverse

def toFloat : Value -> Run Float
 | .kernel .. => do
  match <- kernelFact? "float" with
  | some (.float x) => pure x
  | some (.int i) => return Number.floatOfInt i
  | _ => fail .unavailable
 | v => do
  if let some n := v.number? then return <- outcome n.toFloat?
  let .str s := v | fail .type
  need .value (Numerals.fraction? s)

def toInt : Value -> Run Int
 | .kernel .. => do
  let some (.int i) <- kernelFact? "int" | fail .unavailable
  pure i
 | .bool b => return if b then 1 else 0
 | .int i => pure i
 | .float x => need (if x.isNaN then .value else .overflow) (Decimal.truncate x)
 | .str s => need .value (Numerals.whole? s)
 | _ => fail .type

def World.kindsOf (w : World) : Value -> Texts
 | .none => ["None"]
 | .bool _ => ["bool", "int"]
 | .int _ => ["int"]
 | .float _ => ["float"]
 | .str _ => ["str"]
 | .bytes _ => ["bytes"]
 | .tuple _ => ["tuple"]
 | .kernel name _ _ => [.ofList ((name.toList.dropWhile (· == '.')).takeWhile fun c => c != '.' && c != ':')]
 | .node _ => ["Node"]
 | .socket _ => ["NodeSocket"]
 | .cell id =>
  match w.cell id with
  | .list _ | .sequence _ => ["list"]
  | .dict _ => ["dict"]
  | .set _ => ["set"]
  | .numbers shape _ => [shape.kind]
  | .struct _ => ["ANStruct", "dict"]
  | .numeric _ => ["ndarray"]
  | .record r => [r.kind]
  | .iterator .. => ["iterator"]
  | .answers .. => ["function"]
 | _ => []

def kindOf : Eval := return .kind ((<- look (·.kindsOf v)).headD "object")
def isA (kind : String) : Ask := look fun w => (w.kindsOf v).contains kind

def isBlock : Ask :=
 look fun w => match v with
  | .tree _ => true
  | v => (w.record? v).any (·.origin == .block)

def isAnyOf (kinds : Texts) : Ask := look fun w => (w.kindsOf v).any kinds.contains
def isListOf (test : Value -> Ask) : Ask := do if <- isA v "list" then (<- iter v).allM test else pure false

instance : Reckoning Run Value where
 refuse := fail
 whole n := n
 nought := 0.0
 add
 sub
 mul
 div
 wholePart := toInt
 less
 atMost := lessEqual
 greater
 atLeast := greaterEqual
 same := equal

end AnimationGraph
