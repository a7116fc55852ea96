import AnimationGraph.Node.Kind

/-! # Members of plain values

Texts, lists, tables, sets and short sequences of numbers have members that scripts call by name.
-/

namespace AnimationGraph

open Letters Edit

variable (c : CellId) (v : Value) (xs : Array Value) (name : String)

def natArg : Run Nat := return (<- indexOf v).toNat
def numberField (w : Chars) (s : String) : String := (if w.head? == some '0' then zeros else padLeft) (valueIn 10 w) s
def withSign (signed : Bool) (s : String) : String := if signed && !s.startsWith "-" then "+" ++ s else s

def fixedField (w : Chars) (ps : Nat) (v : Value) (signed : Bool := false) : Run String := do
 return numberField w (withSign signed (<- outcome (placesText ps v)))

def formatted (l : String) (v : Value) : Run String := do
 if l.isEmpty then return <- text v
 let cs := l.toList
 let right := cs.head? == some '>'
 let cs := if right then cs.drop 1 else cs
 let signed := cs.head? == some '+'
 let cs := if signed then cs.drop 1 else cs
 let w := cs.takeWhile Char.isDigit
 match cs.drop w.length with
 | '.' :: rest =>
  let ps := rest.takeWhile Char.isDigit
  if rest.drop ps.length == ['f'] then fixedField w (valueIn 10 ps) v signed
  else fail .value
 | [] => do
  let s <- text v
  return (if right || v.number?.isSome then padLeft else padRight) (valueIn 10 w) s
 | ['d'] => return numberField w (withSign signed (toString (<- indexOf v)))
 | _ => fail .value

def insertValues (pattern : String) (args : Args) : Run String := do
 let rec go : Nat -> Nat -> Chars -> Run Texts
  | 0, _, _ | _, _, [] => pure []
  | fuel + 1, next, '\x7b' :: '\x7b' :: rest => return "\x7b" :: (<- go fuel next rest)
  | fuel + 1, next, '\x7d' :: '\x7d' :: rest => return "\x7d" :: (<- go fuel next rest)
  | _, _, '\x7d' :: _ => fail .value
  | fuel + 1, next, '\x7b' :: rest => do
   let body := rest.takeWhile (· != '\x7d')
   if body.length == rest.length then fail .value
   let field := body.takeWhile fun c => c != '!' && c != ':'
   let after := body.drop field.length
   let conv := match after with
    | '!' :: c :: _ => some c
    | _ => none
   let l := .ofList (((if conv.isSome then after.drop 2 else after)).drop 1)
   let name := field.takeWhile fun c => c != '.' && c != '['
   let path := String.ofList (field.drop name.length)
   let v <- if name.all Char.isDigit then need .index args.pos[if name.isEmpty then next else valueIn 10 name]?
    else need .key (args.named.get? (.ofList name))
   let v <- ((path.splitOn ".").filter (!·.isEmpty)).foldlM Value.attr v
   let v <- match conv with
    | some 'r' => .str <$> literal v
    | some _ => .str <$> text v
    | none => pure v
   return (<- formatted l v) :: (<- go fuel (if name.isEmpty then next + 1 else next) (rest.drop (body.length + 1)))
  | fuel + 1, next, c :: rest => return .singleton c :: (<- go fuel next rest)
 return .join (<- go (pattern.length + 1) 0 pattern.toList)

def stripSet : Value -> Run (Char -> Bool)
 | .none => pure isBlank
 | v =>
  return (<- textArg v).toList.contains

def limitOf (i : Int) : Option Nat := if i < 0 then none else some i.toNat

def splitText (s : String) (separator limit : Value) : Run Texts := do
 let .int i := limit | fail .type
 let limit := limitOf i
 match separator with
 | .none =>
  let ps := Letters.words s
  let some n := limit | pure ps
  if ps.length ≤ n then return ps
  let rec rest : Nat -> Chars -> Chars
   | 0, cs => cs.dropWhile isBlank
   | k + 1, cs => rest k ((cs.dropWhile isBlank).dropWhile (!isBlank ·))
  return ps.take n ++ [strip (String.ofList (rest n s.toList)) isBlank false]
 | v =>
  let sep <- textArg v
  if sep.isEmpty then fail .value
  return split s sep limit

def anyText (test : String -> Bool) : Ask := do
 match v with
 | .tuple xs => return (<- xs.mapM textArg).any test
 | v => return test (<- textArg v)

def textTest (test : Char -> Bool) : Feature String := fn0 name fun s => return allOf s test
def textForm (form : String -> String) : Feature String := fn0 name fun s => return form s
def placeOf (p : Option Nat) : Value := .int ((p.map .ofNat).getD (-1))

def padding (pad : Nat -> String -> Char -> String) : Feature String :=
 fn2 ⟨name, ["width", opt "fill" " "]⟩ fun s w fill => do
  return pad (<- natArg w) s ((<- textArg fill).toList.headD ' ')

def textMembers : Members String := [
 ("format", .free fun s args => insertValues s args),
 fn1 "join items" fun s xs => return s.intercalate (<- textArgs xs),
 fn3 ⟨"replace", ["old", "new", opt "count" (-1)]⟩ fun s old new k => do
  let limit := match k with
   | .int i => limitOf i
   | _ => none
  return replace s (<- textArg old) (<- textArg new) limit,
 fn2 ⟨"split", [opt "sep" .none, opt "maxsplit" (-1)]⟩ fun s sep limit => do textList (<- splitText s sep limit),
 fn2 ⟨"rsplit", [opt "sep" .none, opt "maxsplit" (-1)]⟩ fun s sep limit => do
  match sep, limit with
  | .str sep, .int i =>
   if sep.isEmpty then fail .value
   textList (if i < 0 then split s sep else splitRight s sep i.toNat)
  | _, _ => textList (<- splitText s sep limit),
 fn1 ⟨"splitlines", [opt "keepends" false]⟩ fun s _ => textList (lines s),
 fn1 "strip chars?" fun s chars => return strip s (<- stripSet chars),
 fn1 "lstrip chars?" fun s chars => return strip s (<- stripSet chars) true false,
 fn1 "rstrip chars?" fun s chars => return strip s (<- stripSet chars) false true,
 textForm "lower" lowered, textForm "upper" raised, textForm "capitalize" capitalized,
 textForm "title" titled, textForm "swapcase" swapped,
 textTest "isalpha" isLetter, textTest "isnumeric" isNumeric, textTest "isdigit" isDigit,
 textTest "isdecimal" isDecimal, textTest "isspace" isBlank,
 textTest "isalnum" fun c => isLetter c || isNumeric c,
 fn0 "isidentifier" fun s => return isName s,
 fn1 "startswith prefix" fun s p => anyText p (s.startsWith ·),
 fn1 "endswith suffix" fun s p => anyText p (s.endsWith ·),
 fn2 ⟨"find", ["sub", opt "start" 0]⟩ fun s sub start => do
  return placeOf (find? (<- textArg sub) s (clampIndex s.length (<- indexOf start) 0 (s.length + 1)).toNat),
 fn1 "rfind sub" fun s sub => return placeOf (findLast? (<- textArg sub) s),
 fn1 "index sub" fun s sub => do need .value (find? (<- textArg sub) s),
 fn1 "count sub" fun s sub => return (occurrences (<- textArg sub).toList s.toList).length,
 padding "rjust" (padLeft · · ·), padding "ljust" (padRight · · ·),
 fn1 "zfill width" fun s w => return (zeros (<- natArg w) s)]

def asList : Run (Array Value × (Array Value -> Cell)) := return (<- readCell c).list?.getD (#[], .list)
def listItems : Run (Array Value) := return (<- asList c).1
def setListItems : Act := do writeCell c ((<- asList c).2 xs)

def insertByKey (pre : Value -> Value -> Ask) (k x : Value) : List (Value × Value) -> Run (List (Value × Value))
 | [] => pure [(k, x)]
 | e :: rest => do
  if <- pre k e.1 then return (k, x) :: e :: rest
  return e :: (<- insertByKey pre k x rest)

def sortBy (key : Value -> Eval) (descending : Bool) (xs : Values) : Evals := do
 let keyed <- xs.mapM fun x => return (<- key x, x)
 let before (a b : Value) : Ask := if descending then less b a else less a b
 let sorted <- keyed.foldlM (fun done (k, x) => insertByKey before k x done) []
 return sorted.map (·.2)

def keyWith (f x : Value) : Eval := if f.isNone then pure x else f.apply [x]

def searches {α : Type} (items : α -> Evals) : Members α := [
 fn1 "index x" fun a x => do need .value (<- placeOf? x (<- items a)),
 fn1 "count x" fun a x => return (<- (<- items a).filterM (isSame x)).length]

def listMembers : Members CellId := searches (fun c => return (<- listItems c).toList) ++ [
 act1 "append x" fun c x => do setListItems c ((<- listItems c).push x),
 act1 "extend items" fun c xs => do
  let new <- iter xs
  setListItems c ((<- listItems c) ++ new.toArray),
 act2 "insert index x" fun c i x => do
  let xs <- listItems c
  let p := (clampIndex xs.size (<- indexOf i) 0 xs.size).toNat
  setListItems c (xs.extract 0 p ++ #[x] ++ xs.extract p xs.size),
 act1 "remove x" fun c x => do
  let xs <- listItems c
  setListItems c (xs.eraseIdxIfInBounds (<- need .value (<- placeOf? x xs.toList))),
 fn1 ⟨"pop", [opt "index" (-1)]⟩ fun c i => do
  let xs <- listItems c
  let some p := position? xs.size (<- indexOf i) | fail .index
  setListItems c (xs.eraseIdxIfInBounds p)
  return xs[p]?.getD .none,
 act0 "clear" fun c => setListItems c #[],
 fn0 "copy" fun c => do list (<- listItems c).toList,
 act0 "reverse" fun c => do setListItems c (<- listItems c).reverse,
 act2 ⟨"sort", [opt "key" .none, opt "reverse" false]⟩ fun c key descending => do
  setListItems c (<- sortBy (keyWith key) (<- truthy descending) (<- listItems c).toList).toArray]

def dictEntries : Run (Array (Value × Value)) := do
 match <- readCell c with
 | .dict es => pure es
 | .struct es => return es.map fun e => (.tuple [e.1.1, e.1.2], e.2)
 | _ => return #[]

def dictMembers : Members CellId :=
 [fn2 "get key default?" fun c k d => do
  unless <- isKey k do fail .type
  return (<- entryOf? (<- dictEntries c) k).getD d,
 fn0 "keys" fun c => do list ((<- dictEntries c).toList.map (·.1)),
 fn0 "values" fun c => do list ((<- dictEntries c).toList.map (·.2)),
 fn0 "items" fun c => do list ((<- dictEntries c).toList.map fun (k, v) => .tuple [k, v]),
 ("update", .free fun c args => do
  for other in args.pos do for k in <- iter other do setItem c k (<- item other k)
  for (k, v) in args.named do setItem c k v
  pure .none),
 fn2 "setdefault key default?" fun c k d => do
  match <- entryOf? (<- dictEntries c) k with
  | some v => pure v
  | none =>
   setItem c k d
   pure d,
 ("pop", .free fun c args => do
  match args.pos with
  | k :: rest =>
   match <- entryOf? (<- dictEntries c) k, rest with
   | some v, _ =>
    delItem c k
    pure v
   | none, d :: _ => pure d
   | none, [] => fail .key
  | [] => fail .type),
 act0 "clear" fun c => do writeCell c (if (<- readCell c) matches .struct _ then .struct #[] else .dict #[]),
 fn0 "copy" fun c => do newCell (.dict (<- dictEntries c))]

def setItems : Evals := do
 let .set xs <- readCell c | pure []
 pure xs.toList

def withElement (xs : Values) (x : Value) : Evals := do
 if <- occursIn x xs then return xs
 return xs ++ [x]

def union (xs ys : Values) : Evals := ys.foldlM withElement xs
def leaveOut : Act := do writeCell c (.set (<- (<- setItems c).filterM fun y => return !(<- equal v y)).toArray)

def setMembers : Members CellId :=
 [act1 "add x" fun c x => do
  unless <- isKey x do fail .type
  writeCell c (.set (<- withElement (<- setItems c) x).toArray),
 act1 "discard x" leaveOut,
 act1 "remove x" fun c x => do
  unless <- occursIn x (<- setItems c) do fail .key
  leaveOut c x,
 ("update", .free fun c args => do
  for other in args.pos do writeCell c (.set (<- union (<- setItems c) (<- iter other)).toArray)
  pure .none),
 ("union", .free fun c args => do
  newSet (<- args.pos.foldlM (fun xs other => do union xs (<- iter other)) (<- setItems c))),
 fn1 "intersection other" fun c other => do
  let ys <- iter other
  newSet (<- (<- setItems c).filterM (occursIn · ys)),
 fn1 "difference other" fun c other => do
  let ys <- iter other
  newSet (<- (<- setItems c).filterM fun x => return !(<- occursIn x ys)),
 fn1 "issubset other" fun c other => do
  let ys <- iter other
  (<- setItems c).allM (occursIn · ys),
 fn0 "pop" fun c => do
  match <- setItems c with
  | x :: rest =>
   writeCell c (.set rest.toArray)
   pure x
  | [] => fail .key,
 act0 "clear" fun c => writeCell c (.set #[]),
 fn0 "copy" fun c => do newSet (<- setItems c)]

def components : Evals := do
 match <- readCell c with
 | .numbers _ xs | .numeric xs => pure xs.toList
 | _ => pure []

def floats : Run (List Float) := do (<- components c).mapM toFloat
def magnitude (xs : List Float) : Float := (xs.foldl (fun s x => s + x * x) 0.0).sqrt

def vectorMembers : Members CellId := [
 prop "length" fun c => return magnitude (<- floats c),
 fn0 "copy" fun c => do vector (<- components c),
 fn0 "normalized" fun c => do
  let xs <- floats c
  let len := magnitude xs
  if len == 0.0 then vector (<- components c) else vector (xs.map fun x => .float (x / len))]

def rotationMembers : Members CellId := [
 fn0 "copy" fun c => do newCell (<- readCell c),
 prop "order" fun c => do
  let .numbers (.euler order) _ <- readCell c | fail .attr
  pure order]

def componentIndex? (shape : Shape) (name : String) : Option Nat :=
 let ns := match shape with
  | .vector | .euler _ => ["x", "y", "z", "w"]
  | .quaternion => ["w", "x", "y", "z"]
  | .color => ["r", "g", "b", "a"]
 ns.findIdx? (· == name)

end AnimationGraph
