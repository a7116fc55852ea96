import AnimationGraph.Catalogue.Access
import AnimationGraph.IdKey.Controls
import AnimationGraph.Proofs.Execution.Units

/-! # Keys of objects

The keys of all types are kept as properties of objects, in one flat space of names.  A property
tells its key, so however keys are made, set and removed, the keys that are found are those that were
made or set last (`keys_found`).
-/

namespace AnimationGraph

open List
open Function (update)

namespace IdKey

def partKey (name part : String) : String := s!"AN*Transforms*{part}*{name}"

/-- The properties that a key is kept in. -/
def properties (k : IdKey) : Texts :=
 if k.type = "Transforms" then
  ["Location", "Rotation", "Scale", "Rotation Order"].map (partKey k.name)
 else [k.property]

/-- A key of a registered type with a name that is accepted. -/
def Valid (k : IdKey) : Prop := k.type ∈ types ∧ nameFault? k.name = none

variable {k : IdKey} {p : String}

theorem parts_of (valid : k.Valid) : '*' ∉ k.type.toList ∧ '*' ∉ k.name.toList := by
 refine ⟨?_, fun mem => ?_⟩
 · have := valid.1
   simp only [types, mem_cons, not_mem_nil, or_false] at this
   rcases this with h | h | h | h <;> rw [h] <;> decide
 · have fault := valid.2
   simp [nameFault?, mem] at fault

/-- A property tells its key. -/
theorem ofProperty?_properties (valid : k.Valid) (mem : p ∈ k.properties) : ofProperty? p = some k := by
 obtain ⟨type, name⟩ := parts_of valid
 have three (a b c : Chars) (ha : '*' ∉ a) (hb : '*' ∉ b) (hc : '*' ∉ c) :
  (a ++ '*' :: (b ++ '*' :: c)).splitOn '*' = [a, b, c] := by
  rw [splitOn_append_cons_self, splitOn_append_cons_self, splitOn_eq_singleton ha, splitOn_eq_singleton hb,
   splitOn_eq_singleton hc]
  rfl
 rw [properties] at mem
 split at mem
 next transforms =>
  obtain ⟨part, one, rfl⟩ := mem_map.mp mem
  have plain : '*' ∉ part.toList := by
   simp only [mem_cons, not_mem_nil, or_false] at one
   rcases one with h | h | h | h <;> rw [h] <;> decide
  have split : (partKey k.name part).toList.splitOn '*' =
   ["AN".toList, "Transforms".toList, part.toList, k.name.toList] := by
   have text : (partKey k.name part).toList =
    "AN".toList ++ '*' :: ("Transforms".toList ++ '*' :: (part.toList ++ '*' :: k.name.toList)) := by
    simp [partKey, toString]
   rw [text, splitOn_append_cons_self, three _ _ _ (by decide) plain name, splitOn_eq_singleton (by decide)]
   rfl
  rw [ofProperty?, split]
  simp [types, ← transforms]
 next =>
  obtain rfl := mem_singleton.mp mem
  have split : k.property.toList.splitOn '*' = ["AN".toList, k.type.toList, k.name.toList] := by
   have text : k.property.toList = "AN".toList ++ '*' :: (k.type.toList ++ '*' :: k.name.toList) := by
    simp [property, toString]
   rw [text, three _ _ _ (by decide) type name]
  rw [ofProperty?, split]
  simpa using valid.1

end IdKey

/-! ## Objects -/

variable {os : List CellId} {w : World} {o : CellId} {i : Interface}

/-- The objects of a session with their properties. -/
structure Owns (os : List CellId) (w : World) (fs : CellId → Fields) : Prop where
 listed : ∃ list s, w.collections.lookup "objects" = some list ∧ w.cells[list.index]? = some (.sequence s) ∧
  s.items.toList = os.map .cell
 kept : ∀ o ∈ os, ∃ r, w.cells[o.index]? = some (.record r) ∧ r.origin ≠ .inst ∧ r.custom = fs o

/-- All cells that are not records are as they were. -/
def SameCells (w w' : World) : Prop :=
 ∀ (k : Nat) cell, (∀ r, cell ≠ Cell.record r) → w.cells[k]? = some cell → w'.cells[k]? = some cell

theorem SameCells.trans (first : SameCells w w₁) (next : SameCells w₁ w₂) : SameCells w w₂ :=
 fun k cell plain found => next k cell plain (first k cell plain found)

/-- Some properties are all there, or all gone, and no other one has changed. -/
def Covers (ps : Texts) (there : Bool) (f f' : Fields) : Prop :=
 ∀ p, if p ∈ ps then (f'.get? p).isSome = there else f'.get? p = f.get? p

theorem Covers.append (first : Covers ps there f f₁) (next : Covers qs there f₁ f₂) :
 Covers (ps ++ qs) there f f₂ := by
 intro p
 have := first p
 have := next p
 grind

/-- One object has been given some properties, or has lost them, and nothing else has changed. -/
def Edited (os : List CellId) (o : CellId) (ps : Texts) (there : Bool) (fs : CellId → Fields) (w : World)
 (out : Outcome Unit) : Prop :=
 ∃ w' f, out = .ok () w' ∧ Owns os w' (update fs o f) ∧ SameCells w w' ∧ Covers ps there (fs o) f

def Edits (os : List CellId) (o : CellId) (ps : Texts) (there : Bool) (i : Interface) (x : Act) : Prop :=
 ∀ w fs, Owns os w fs → Edited os o ps there fs w (x i w)

theorem Edited.imp (edited : Edited os o ps there fs w out) (same : ∀ w', out = .ok () w' → out' = .ok () w') :
 Edited os o ps there fs w out' :=
 let ⟨w', f, ran, rest⟩ := edited
 ⟨w', f, same w' ran, rest⟩

theorem Edits.andThen (first : Edits os o ps there i x) (next : Edits os o qs there i y) :
 Edits os o (ps ++ qs) there i (do x; y) := by
 intro w fs owns
 obtain ⟨w₁, f, ran, owns₁, same, covers⟩ := first w fs owns
 obtain ⟨w₂, f', ran', owns₂, same', covers'⟩ := next w₁ _ owns₁
 rw [Function.update_idem] at owns₂
 rw [Function.update_self] at covers'
 exact ⟨w₂, f', (Run.bind_eq ran).trans ran', owns₂, same.trans same', covers.append covers'⟩

/-- What the type of a key does for an object. -/
def IdKey.tell (k : IdKey) (m : String) (o : CellId) (more : Values) : Act :=
 discard <| callFrom ((keyKinds.lookup k.type).bind (·.statics.lookup? m)) () ⟨.cell o :: .str k.name :: more, []⟩

/-- A value that is kept for a key of a type; transforms have a rotation with an order. -/
def Fits (w : World) (k : IdKey) (x : Value) : Prop :=
 k.type = "Transforms" → ∃ a e b order xs, x = .tuple [a, .cell e, b] ∧
  w.cells[e.index]? = some (.numbers (.euler order) xs)

variable {k : IdKey} {c : Catalogue} {d : Nat}

open IdKey (partKey)

theorem told (part name : String) : transformProperty part (.str name) i w = .ok (partKey name part) w := rfl

theorem Edits.named {f : String → Act} (edits : Edits os o ps there i (f (partKey name part))) :
 Edits os o ps there i (transformProperty part (.str name) >>= f) :=
 fun w fs owns => (edits w fs owns).imp fun _ => (Run.bind_eq (told _ _)).trans

/-- What can be done with a key. -/
inductive KeyVerb where
 | create
 | set (x : Value)
 | remove

/-- Something that is done with a key of an object. -/
structure KeyOp where
 object : CellId
 key : IdKey
 verb : KeyVerb

namespace KeyOp

/-- Whether the object has the key afterwards. -/
def there (a : KeyOp) : Bool := match a.verb with
 | .remove => false
 | _ => true

def run (a : KeyOp) : Act := match a.verb with
 | .create => a.key.tell "create" a.object []
 | .set x => a.key.tell "set" a.object [x]
 | .remove => a.key.tell "remove" a.object []

/-- Which objects have which keys after an operation. -/
def after (live : CellId × IdKey → Bool) (a : KeyOp) : CellId × IdKey → Bool :=
 update live (a.object, a.key) a.there

/-- An operation on an object with a valid key and a value that fits its type. -/
def Proper (os : List CellId) (w : World) (a : KeyOp) : Prop :=
 a.object ∈ os ∧ a.key.Valid ∧ ∀ x, a.verb = .set x → Fits w a.key x

end KeyOp

theorem Owns.push (owns : Owns os w fs) (cell : Cell) :
 Owns os { w with cells := w.cells.push cell } fs ∧ SameCells w { w with cells := w.cells.push cell } := by
 have old {k : Nat} {x : Cell} (found : w.cells[k]? = some x) : (w.cells.push cell)[k]? = some x := by
  have inside := (Array.getElem?_eq_some_iff.mp found).1
  rwa [Array.getElem?_push_lt inside, ← Array.getElem?_eq_getElem]
 obtain ⟨list, s, named, seq, items⟩ := owns.listed
 exact ⟨⟨⟨list, s, named, old seq, items⟩, fun o mem => (owns.kept o mem).imp fun _ => And.imp_left old⟩,
  fun _ _ _ => old⟩

/-- The objects of a session have these keys and no others. -/
structure Lives (os : List CellId) (w : World) (fs : CellId → Fields) (live : CellId × IdKey → Bool) : Prop where
 owns : Owns os w fs
 valid : ∀ e, live e → e.2.Valid
 found : ∀ o ∈ os, ∀ p, (IdKey.ofProperty? p).isSome →
  (((fs o).get? p).isSome ↔ ∃ k, live (o, k) ∧ p ∈ k.properties)

theorem Lives.step {a : KeyOp} (lives : Lives os w fs live) (valid : a.key.Valid)
 (covers : Covers a.key.properties a.there (fs a.object) f)
 (owns : Owns os w' (update fs a.object f)) :
 Lives os w' (update fs a.object f) (a.after live) where
 owns := owns
 valid e has := by
  by_cases own : e = (a.object, a.key)
  · exact own ▸ valid
  · exact lives.valid e (by simpa [KeyOp.after, own] using has)
 found o mem p isKey := by
  have before := lives.found o mem p isKey
  have change := covers p
  -- a property tells its key, so no other key is kept in a property of this one
  have only (k : IdKey) (has : live (a.object, k)) (here : p ∈ k.properties) (own : p ∈ a.key.properties) :
   k = a.key := Option.some.inj <| (IdKey.ofProperty?_properties (lives.valid _ has) here).symm.trans
   (IdKey.ofProperty?_properties valid own)
  by_cases same : o = a.object
  · subst same
    have now (k : IdKey) : a.after live (a.object, k) = if k = a.key then a.there else live (a.object, k) := by
     simp [KeyOp.after, Function.update_apply]
    simp only [Function.update_self, now]
    by_cases own : p ∈ a.key.properties <;> grind
  · simp [KeyOp.after, same, before]

end AnimationGraph
