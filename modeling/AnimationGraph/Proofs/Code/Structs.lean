import AnimationGraph.Nodes.Data
import AnimationGraph.Proofs.Text.Words
import Mathlib.Logic.Function.Basic

/-! # Elements of structs

Nodes that set and get elements of structs have the keys in their code.  There the words of a key are renamed with all
others, unless they stand directly behind a quote, and each node renames by a table of its own.  What is set is found
again if both nodes come to the same keys.
-/

namespace AnimationGraph

open List

namespace Names

variable {table : Pairs}

theorem rewrite_reading (same : p.last.all (!bars ·) = q.last.all (!bars ·)) (word : Chars)
  (next next' : Option Char) :
  rewrite (·.renamed table) (reading p word next) = rewrite (·.renamed table) (reading q word next') := by
 unfold reading
 split
 · rfl
 · grind [rewrite, Occurrence.renamed, Occurrence.bare]

/-- What becomes of words depends on the characters before them only. -/
theorem rewrite_renamed (same : p.last.all (!bars ·) = q.last.all (!bars ·)) (word text : Chars) :
  rewrite (·.renamed table) (parts p word text) = rewrite (·.renamed table) (parts q word text) := by
 induction text generalizing word p q with
 | nil => exact rewrite_reading same word none none
 | cons c rest ih =>
  simp only [parts]
  split
  · exact ih same _
  · simp only [rewrite, flatMap_append, flatMap_cons]
    exact congrArg₂ (· ++ ·) (rewrite_reading same word _ _)
     (congrArg (c :: ·) (ih (p := p.behind _ c) (q := q.behind _ c) rfl []))

theorem rewrite_append (other : Letters.isWord c = false) (p : Place) (word text rest : Chars) :
  rewrite (·.renamed table) (parts p word (text ++ c :: rest)) = rewrite (·.renamed table) (parts p word text) ++
   c :: rewrite (·.renamed table) (parts ⟨.plain, some c, false⟩ [] rest) := by
 induction text generalizing word p with
 | nil =>
  simp only [nil_append, parts, other, Bool.false_eq_true, if_false, rewrite, flatMap_append, flatMap_cons]
  exact congrArg₂ (· ++ ·) (rewrite_reading rfl _ _ _) (congrArg (c :: ·) (rewrite_renamed (by rfl) [] rest))
 | cons d text ih =>
  simp only [cons_append, parts]
  split
  · exact ih ..
  · have later := ih (p.behind (!word.isEmpty) d) []
    simp only [rewrite] at later
    simp [rewrite, later]

/-- A text and what follows it are renamed by themselves, unless a word goes on. -/
theorem renameAll_append (worded : Worded table) (text : String)
  (stop : rest.toList = c :: t) (other : Letters.isWord c = false) :
  renameAll (text ++ rest) table = renameAll text table ++ renameAll rest table := by
 refine String.toList_inj.mp ?_
 simp only [String.toList_append, renameAll_toList worded, stop]
 rw [rewrite_append other, ← nil_append (c :: t), rewrite_append other]
 rfl

end Names

namespace Code

variable (table : Pairs)

def keyText (e : String × String) : String := Names.renameAll (subscript e.1 e.2) table

theorem renameAll_structElement {table : Pairs} (worded : Names.Worded table) (e : String × String) :
  Names.renameAll (structElement e.1 e.2) table = Names.renameAll "struct" table ++ keyText table e :=
 Names.renameAll_append worded "struct" (c := '[') (t := (subscript e.1 e.2).toList.tail)
  (by simp [subscript]) (by decide)

variable {V : Type}

def setElements (value : String × String → V) (s : String → Option V) :
  Pairs → String → Option V :=
 List.foldl (fun s e => Function.update s (keyText table e) (some (value e))) s

theorem setElements_cases (value : String × String → V) (s : String → Option V)
  (es : Pairs) (k : String) :
  (∃ e ∈ es, keyText table e = k ∧ setElements table value s es k = some (value e)) ∨
   k ∉ es.map (keyText table) ∧ setElements table value s es k = s k := by
 induction es generalizing s with
 | nil => exact .inr ⟨by simp, rfl⟩
 | cons e es ih =>
  rcases ih (Function.update s (keyText table e) (some (value e))) with ⟨f, mem, isKey, found⟩ | ⟨other, kept⟩
  · exact .inl ⟨f, by simp [mem], isKey, found⟩
  · by_cases here : keyText table e = k
    · subst here
      exact .inl ⟨e, by simp, rfl, kept.trans (Function.update_self ..)⟩
    · exact .inr ⟨by simp [Ne.symm here] at other ⊢; exact other, kept.trans (Function.update_of_ne (Ne.symm here) ..)⟩

/-- What one node has set, another gets again, and all else is as before, exactly if both nodes have the same keys for
these elements, and no other element has one of them. -/
theorem struct_round_trip_iff {setter getter : List (String × String)} (worded : Names.Worded setter)
  (worded' : Names.Worded getter) (es others : List (String × String)) :
  (∀ e : String × String, Names.renameAll (structElement e.1 e.2) setter = Names.renameAll "struct" setter ++ keyText setter e ∧
   Names.renameAll (structElement e.1 e.2) getter = Names.renameAll "struct" getter ++ keyText getter e) ∧
  ((∀ (V : Type) (value : String × String → V) (s : String → Option V), ∀ f ∈ es ++ others,
    setElements setter value s es (keyText getter f) = if f ∈ es then some (value f) else s (keyText getter f)) ↔
   ∀ f ∈ es ++ others, (f ∈ es → keyText setter f = keyText getter f) ∧
    ∀ e ∈ es, keyText setter e = keyText getter f → e = f) := by
 refine ⟨fun e => ⟨renameAll_structElement worded e, renameAll_structElement worded' e⟩, fun trip => ?_, ?_⟩
 · have found := trip (String × String) id fun _ => none
   have same : ∀ e ∈ es, keyText setter e = keyText getter e := fun e mem => by
    have := found e (by simp [mem])
    rcases setElements_cases setter id (fun _ => none) es (keyText getter e) with ⟨f, _, isKey, value⟩ | ⟨_, none⟩
    · grind
    · grind
   refine fun f isRead => ⟨same f, fun e mem isKey => ?_⟩
   have first := found e (by simp [mem])
   rw [← same e mem, isKey, found f isRead] at first
   grind
 · intro keys V value s f isRead
   obtain ⟨same, apart⟩ := keys f isRead
   rcases setElements_cases setter value s es (keyText getter f) with ⟨e, mem, isKey, found⟩ | ⟨other, kept⟩
   · grind
   · grind

theorem spaced_round_trip :
  (Names.Worded [("self", "_set")] ∧ Names.Worded [("self", "_get")]) ∧ ∀ (value : String × String → Nat)
   (s : String → Option Nat), ∀ f ∈ [("Text", "my a"), ("Float", "my a"), ("Text", "self")],
    setElements [("self", "_set")] value s [("Text", "my a"), ("Float", "my a")] (keyText [("self", "_get")] f) =
     if f ∈ [("Text", "my a"), ("Float", "my a")] then some (value f) else s (keyText [("self", "_get")] f) := by
 have worded : Names.Worded [("self", "_set")] ∧ Names.Worded [("self", "_get")] := by decide
 exact ⟨worded, (struct_round_trip_iff worded.1 worded.2 [("Text", "my a"), ("Float", "my a")] [("Text", "self")]).2.mpr
  (by decide +kernel) Nat⟩

/-- A word of a key that is also a name in the code comes to another text in each node. -/
theorem own_name_not_found :
  keyText [("self", "_set")] ("Text", "my self") = "[('Text', 'my _set')]" ∧
   keyText [("self", "_get")] ("Text", "my self") = "[('Text', 'my _get')]" ∧
   setElements [("self", "_set")] (fun _ => 1) (fun _ => none) [("Text", "my self")]
    (keyText [("self", "_get")] ("Text", "my self")) = none := by
 decide +kernel

end Code
end AnimationGraph
