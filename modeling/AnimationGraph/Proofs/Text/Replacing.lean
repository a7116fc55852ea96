import AnimationGraph.Proofs.Text.Words
import AnimationGraph.Text.Pattern

/-! # One name replaced in code

Replacing a name by another one changes the words that are that name, except behind a dot or a quote, and can be taken
back if the new name was no word of the code (`renameAny_exact`).  That needs names made of letters: the pattern that
finds a name looks for the edges of words, and there are identifiers that end in a mark (`accent_remains`).
-/

namespace AnimationGraph.Names

open List Letters

/-- The name is a word of the code that no letter continues on either side. -/
def Occurs (name code : Chars) : Prop :=
 ∃ front back, code = front ++ name ++ back ∧ front.getLast?.all (!isWord ·) ∧ back.head?.all (!isWord ·)

/-- One text is the other with a name replaced, read behind the given character. -/
inductive Replaced (old new : Chars) : Option Char → Chars → Chars → Prop where
 | done : Replaced old new before [] []
 | word (proper : IsWord w) (start : before.all (!isWord ·)) (stop : rest.head?.all (!isWord ·))
   (more : Replaced old new w.getLast? rest out) :
   Replaced old new before (w ++ rest) ((if w = old ∧ before.all (!bars ·) then new else w) ++ out)
 | other (nonword : isWord c = false) (more : Replaced old new (some c) rest out) :
   Replaced old new before (c :: rest) (c :: out)

def replacing (old new : Chars) (o : Occurrence) : Chars := if o.bare && o.word == old then new else o.word

/-- What is read behind a place is replaced word by word. -/
theorem replaced_rewrite {word : Chars} (start : p.last.all (!isWord ·)) (letters : ∀ c ∈ word, isWord c)
  (text : Chars) : Replaced old new p.last (word ++ text) (rewrite (replacing old new) (parts p word text)) := by
 have read (p : Place) (word : Chars) (filled : word ≠ []) (next : Option Char) :
   rewrite (replacing old new) (reading p word next) = if word = old ∧ p.last.all (!bars ·) then new else word := by
  simp [reading, filled, rewrite, replacing, Occurrence.bare, and_comm]
 induction text generalizing p word with
 | nil =>
  by_cases empty : word = []
  · subst empty
    exact .done
  · have last : Replaced old new p.last (word ++ []) ((if word = old ∧ p.last.all (!bars ·) then new else word) ++ []) :=
     .word ⟨empty, letters⟩ start (by simp) .done
    simpa [parts, read p word empty] using last
 | cons c rest ih =>
  by_cases letter : isWord c
  · rw [parts, if_pos letter, ← singleton_append, ← append_assoc]
    exact ih start (by grind)
  · have nonword : isWord c = false := by simpa using letter
    have behind (before : Option Char) : Replaced old new before (c :: rest)
      (c :: rewrite (replacing old new) (parts (p.behind (!word.isEmpty) c) [] rest)) :=
     .other nonword (@ih (p.behind (!word.isEmpty) c) [] (by simp [Place.behind, nonword]) (by simp))
    rw [parts, if_neg letter, rewrite, flatMap_append, ← rewrite]
    by_cases empty : word = []
    · subst empty
      exact behind _
    · rw [read p word empty]
      exact .word ⟨empty, letters⟩ start (by simp [nonword]) (behind _)

theorem occurs_of_mem (front : Chars) {word : Chars} (start : front.getLast?.all (!isWord ·)) (text : Chars)
  (mem : .inl o ∈ parts p word text) : Occurs o.word (front ++ word ++ text) := by
 induction text generalizing p word front with
 | nil =>
  obtain ⟨_, rfl⟩ : word ≠ [] ∧ o = ⟨p, word, none⟩ := by simpa [parts, reading] using mem
  exact ⟨front, [], by simp, start, by simp⟩
 | cons c rest ih =>
  by_cases letter : isWord c
  · rw [parts, if_pos letter] at mem
    simpa using ih front start mem
  · rw [parts, if_neg letter, mem_append, mem_cons] at mem
    rcases mem with here | here | later
    · obtain ⟨_, rfl⟩ : word ≠ [] ∧ o = ⟨p, word, some c⟩ := by simpa [reading] using here
      exact ⟨front, c :: rest, rfl, start, by simpa using letter⟩
    · cases here
    · simpa using ih (front ++ word ++ [c]) (by simpa using letter) later

variable {old new : String}

theorem plain_of_isName (named : isName new) : (new.contains '\\' || new.toList.head?.any Char.isDigit) = false := by
 unfold isName at named
 rw [String.contains_char_eq]
 cases chars : new.toList with
 | nil => simp [chars] at named
 | cons c rest =>
  simp only [chars, Bool.and_eq_true, all_eq_true] at named
  have noDigit : c.isDigit = false := by
   refine Bool.eq_false_iff.mpr fun digit => ?_
   have few : ∀ k < 58, (Char.ofNat k).isDigit → startsName (Char.ofNat k) = false := by decide +kernel
   have small : c.toNat ≤ 57 := by
    simp only [Char.isDigit, Bool.and_eq_true, decide_eq_true_eq, UInt32.le_iff_toNat_le] at digit
    exact digit.2
   have other := few c.toNat (by omega)
   rw [Char.ofNat_toNat, named.1] at other
   cases other digit
  have unescaped : '\\' ∉ c :: rest := fun mem => by
   rcases mem_cons.mp mem with rfl | mem
   · exact absurd named.1 (by decide)
   · exact absurd (named.2 _ mem) (by decide)
  simp [unescaped, noDigit]

theorem renameAny_eq (proper : IsWord old.toList) (named : isName new) (code : String) :
  renameAny code old new = .ok (rename code old new) := by
 have plain := plain_of_isName named
 have filled : old ≠ "" := fun empty => proper.1 (by simp [empty])
 simp_all [renameAny, IsWord]

theorem rename_back (proper : IsWord old.toList) (proper' : IsWord new.toList)
  (absent : ¬Occurs new.toList code.toList) : rename (rename code old new) new old = code := by
 have once := @rename_toList _ proper new.toList code
 have back := @rename_toList _ proper' old.toList (rename code old new)
 simp only [String.ofList_toList] at once back
 have words (o : Occurrence) (w : IsWord o.word) :
   IsWord (if o.bare && o.word == old.toList then new.toList else o.word) := by
  split <;> assumption
 refine String.toList_inj.mp (back.trans ?_)
 rw [once, parts_rewrite words (by simp), rewrite, flatMap_map]
 refine Eq.trans (flatMap_congr fun part isPart => ?_) (@rewrite_word [] {} code.toList)
 cases part with
 | inl o =>
  have other : o.word ≠ new.toList := fun same => absent (same ▸ occurs_of_mem [] (by simp) _ isPart)
  by_cases bare : o.bare <;> by_cases same : o.word = old.toList <;> simp_all [Occurrence.bare]
 | inr c => rfl

/-- Exactly the words that are the old name and stand at the start or behind something other than a dot or a quote are
replaced, and the old name can be put back where the new one was no word. -/
theorem renameAny_exact (named : isName old ∧ isName new) (letters : IsWord old.toList ∧ IsWord new.toList)
  (code : String) : ∃ s, renameAny code old new = .ok s ∧ Replaced old.toList new.toList none code.toList s.toList ∧
   (¬Occurs new.toList code.toList → renameAny s new old = .ok code) := by
 refine ⟨_, renameAny_eq letters.1 named.2 code, ?_, fun absent => ?_⟩
 · have text := @rename_toList _ letters.1 new.toList code
   rw [String.ofList_toList, String.ofList_toList] at text
   rw [text]
   exact @replaced_rewrite _ _ {} [] rfl (by simp) code.toList
 · rw [renameAny_eq letters.2 named.1, rename_back letters.1 letters.2 absent]

theorem sum_replaced : ∃ s, renameAny "x + a.x" "x" "y" = .ok s ∧
  Replaced ['x'] ['y'] none "x + a.x".toList s.toList ∧
   (¬Occurs ['y'] "x + a.x".toList → renameAny s "y" "x" = .ok "x + a.x") :=
 renameAny_exact (by decide) (by decide) _

/-! ## Names with marks -/

theorem within_runs (l : Chars) (code : Nat) :
  within (runs (String.ofList l)) code = within (runs.go 0 (numbers.go 0 l)) code := by
 rw [runs, numbers, String.toList_ofList]

set_option maxRecDepth 10000 in
theorem isWord_mark : isWord '\u0301' = false := by
 have letter : within letterRuns 769 = false := (within_runs _ _).trans (by decide +kernel)
 have decimal : within decimalRuns 769 = false := (within_runs _ _).trans (by decide +kernel)
 have digit : within digitRuns 769 = false := (within_runs _ _).trans (by decide +kernel)
 have numeric : within numericRuns 769 = false := (within_runs _ _).trans (by decide +kernel)
 simp [isWord, isLetter, isNumeric, isDigit, isDecimal, letter, decimal, digit, numeric]

set_option maxRecDepth 10000 in
theorem isName_accent : isName "b\u0301" := by
 have mark : within markRuns 769 = true := (within_runs _ _).trans (by decide +kernel)
 have text : "b\u0301".toList = ['b', '\u0301'] := by decide
 rw [isName, text]
 simp [show startsName 'b' = true by decide, continuesName, mark]

end Names

namespace Pattern

open List Letters

deriving instance DecidableEq for Folding, Category, ClassItem, Place, Pattern, Expression

section

variable {text : Array Char} {accept : Nat → Bool} {n i k : Nat} {goals : List Goal} {gs : Groups} {p q : Pattern}

theorem reach_one : reach text accept (n + 1) (.match (.one f negated xs) :: goals) i gs =
  text[i]?.bind fun c => if xs.any (·.admits f c) != negated then reach text accept n goals (i + 1) gs else none := rfl

theorem reach_both : reach text accept (n + 1) (.match (.both p q) :: goals) i gs =
  reach text accept n (.match p :: .match q :: goals) i gs := rfl

theorem reach_either : reach text accept (n + 1) (.match (.either p q) :: goals) i gs =
  (reach text accept n (.match p :: goals) i gs <|> reach text accept n (.match q :: goals) i gs) := rfl

theorem reach_group : reach text accept (n + 1) (.match (.group k p) :: goals) i gs =
  reach text accept n (.match p :: .close k :: goals) i { gs with begun := (k, i) :: gs.begun } := rfl

theorem reach_close : reach text accept (n + 1) (.close k :: goals) i gs =
  reach text accept n goals i { gs with ended := (k, i) :: gs.ended } := rfl

theorem reach_place : reach text accept (n + 1) (.match (.place at_) :: goals) i gs =
  if at_.isAt text i then reach text accept n goals i gs else none := rfl

end

theorem isAt_wordEdge (text : Array Char) (k : Nat) (same : ∀ c, Category.word.admits false c = f c) :
  Place.isAt text k (.wordEdge false false) =
   (!text.isEmpty && (if k = 0 then none else text[k - 1]?).any f != text[k]?.any f) := by
 obtain rfl := funext same
 simp [Place.isAt]

/-- The pattern that finds a letter with an accent as a name. -/
def accented : Pattern :=
 .both (.group 1 (.either (.one .exact true [.range 39 39, .range 34 34, .range 46 46]) (.place .start)))
  (.both (.place (.wordEdge false false))
   (.both (.literal 'b') (.both (.literal '\u0301') (.place (.wordEdge false false)))))

theorem read_accented : read ("([^\\.\"']|^)\\b" ++ "b\u0301" ++ "\\b") = .ok ⟨accented, 1, []⟩ := by
 have known : (read ("([^\\.\"']|^)\\b" ++ "b\u0301" ++ "\\b")).toOption = some ⟨accented, 1, []⟩ := by decide +kernel
 revert known
 generalize read ("([^\\.\"']|^)\\b" ++ "b\u0301" ++ "\\b") = r
 cases r <;> simp [Except.toOption]

/-- There is no edge of a word behind the mark. -/
theorem edge_accented (k : Nat) : Place.isAt #['b', '\u0301'] k (.wordEdge false false) = decide (k < 2) := by
 have mark : Category.word.admits false '\u0301' = false := by
  simp only [Category.admits, Names.isWord_mark, Bool.and_false]
 have letter : Category.word.admits false 'b' = true := by decide
 -- the table of letters is too large to be opened by the tactics below
 obtain ⟨isLetter, same⟩ : ∃ f : Char → Bool, ∀ c, Category.word.admits false c = f c := ⟨_, fun _ => rfl⟩
 rw [isAt_wordEdge _ _ same]
 rw [same] at mark letter
 rcases k with _ | _ | _ | k <;> simp [mark, letter]

theorem allMatches_accented : accented.allMatches "b\u0301".toList.toArray = [] := by
 have nowhere : accented.search? #['b', '\u0301'] 0 false = none := by
  refine findSome?_eq_none_iff.mpr fun k mem => ?_
  have place : k = 0 ∨ k = 1 ∨ k = 2 := by
   have := mem_range.mp mem
   simp at this
   omega
  have fuel : accented.steps #['b', '\u0301'] = 62 := by decide
  simp only [matchAt?, fuel]
  rcases place with rfl | rfl | rfl <;>
   simp [accented, literal, reach_one, reach_both, reach_either, reach_group, reach_close, reach_place, edge_accented,
    ClassItem.admits, Folding.forms]
 have text : "b\u0301".toList = ['b', '\u0301'] := by decide
 rw [text, allMatches]
 change allMatches.go _ _ 7 0 false = []
 rw [allMatches.go, nowhere]

/-- A text without a match is left as it is. -/
theorem replacedBy_unmatched (found : read pattern = .ok e) (split : tokens? new.toList = some t)
  (known : ReplacementPart.read e (t.length + 1) t = .ok p) (none : e.pattern.allMatches s.toList.toArray = []) :
  replacedBy pattern new s = .ok s := by
 simp [replacedBy, found, split, known, replaced, none, part, Except.mapError, bind, Except.bind, pure, Except.pure]

end Pattern

namespace Names

/-- A new name that ends in a mark is not found again. -/
theorem accent_remains : (Letters.isName "a" ∧ Letters.isName "b\u0301" ∧ ¬Occurs "b\u0301".toList "a".toList) ∧
  renameAny "a" "a" "b\u0301" = .ok "b\u0301" ∧ renameAny "b\u0301" "b\u0301" "a" = .ok "b\u0301" := by
 refine ⟨⟨by decide, isName_accent, ?_⟩, ?_, ?_⟩
 · rintro ⟨front, back, split, _⟩
   have := congrArg List.length split
   simp at this
   omega
 · rw [renameAny_eq (by decide) isName_accent]
   exact congrArg _ (by decide +kernel)
 · have unlettered : ("b\u0301".all Letters.isWord) = false := by
    have text : "b\u0301".toList = ['b', '\u0301'] := by decide
    rw [String.all_bool_eq, text]
    simp only [List.all_cons, isWord_mark, Bool.and_false, Bool.false_and]
   rw [renameAny, unlettered, Bool.and_false, Bool.false_and, Bool.false_and, if_neg Bool.false_ne_true]
   exact Pattern.replacedBy_unmatched Pattern.read_accented (t := [.escaped '1', .plain 'a']) (p := [.group 1, .text "a"])
    (by decide +kernel) rfl Pattern.allMatches_accented

end AnimationGraph.Names
