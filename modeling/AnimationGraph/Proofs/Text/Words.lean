import AnimationGraph.Text.Edit
import Mathlib.Data.List.Basic
import Mathlib.Data.List.TakeWhile

/-! # Renaming words in code

Code is read as words and other characters.  A word that is replaced by a word leaves the reading of all else as it
is, so replacements that are made one after the other act on every word by itself.
-/

namespace AnimationGraph.Names

open List Letters

variable {word : Chars}

/-- A name that is read as one word. -/
def IsWord (name : Chars) : Prop := name ≠ [] ∧ ∀ c ∈ name, isWord c

instance (name : Chars) : Decidable (IsWord name) := @instDecidableAnd _ _ _ (decidableBAll _ _)

/-- What a character means for the literals and comments around it. -/
inductive Sign where
 | quote (double : Bool)
 | escape | hash | newline | other
 deriving DecidableEq

def signOf : Char → Sign
 | '\'' => .quote false
 | '"' => .quote true
 | '\\' => .escape
 | '#' => .hash
 | '\n' => .newline
 | _ => .other

inductive Region where
 | plain | comment
 /-- Behind the first quote of a literal. -/
 | opened (double : Bool)
 /-- Behind two quotes: the literal was empty, unless a third one follows. -/
 | closed (double : Bool)
 | short (double escaped : Bool)
 /-- In a literal with three quotes at each end, some of which may have been read. -/
 | long (double escaped : Bool) (quotes : Nat)
 deriving DecidableEq

namespace Region

def outside : Sign → Region
 | .hash => comment
 | .quote d => opened d
 | _ => plain

def inside (double : Bool) (s : Sign) : Region :=
 if s = .quote double ∨ s = .newline then plain else short double (s = .escape)

def next : Region → Sign → Region
 | plain, s => outside s
 | comment, s => if s = .newline then plain else comment
 | opened d, s => if s = .quote d then closed d else inside d s
 | closed d, s => if s = .quote d then long d false 0 else outside s
 | short d true, _ => short d false
 | short d false, s => inside d s
 | long d true _, _ => long d false 0
 | long d false k, s =>
  if s = .quote d then if k = 2 then plain else long d false (k + 1) else long d (s = .escape) 0

def isCode : Region → Bool
 | plain | closed _ => true
 | _ => false

end Region

structure Place where
 region : Region := .plain
 last : Option Char := none
 dot : Bool := false

def Place.behind (p : Place) (word : Bool) (c : Char) : Place :=
 let within := if word then p.region.next .other else p.region
 let region := within.next (signOf c)
 let dot := if word && within != .comment then false else p.dot
 ⟨region, some c, if isBlank c || region == .comment then dot else c == '.'⟩

/-- A word in code, and the character behind it. -/
structure Occurrence where
 place : Place
 word : Chars
 next : Option Char

/-- Words are renamed unless they follow a dot or a quote directly. -/
def Occurrence.bare (o : Occurrence) : Bool := o.place.last.all (!bars ·)

/-- The word is an identifier: it stands in code, is not the name of an attribute and opens no literal. -/
def Occurrence.isIdentifier (o : Occurrence) : Bool :=
 o.place.region.isCode && !o.place.dot && isName (String.ofList o.word)
  && !o.next.any fun c => c == '"' || c == '\''

def reading (p : Place) (word : Chars) (next : Option Char) : List (Occurrence ⊕ Char) :=
 if word.isEmpty then [] else [.inl ⟨p, word, next⟩]

/-- The words and the other characters of code; some letters of the first word are known. -/
def parts (p : Place) (word : Chars) : Chars → List (Occurrence ⊕ Char)
 | [] => reading p word none
 | c :: rest =>
  if isWord c then parts p (word ++ [c]) rest
  else reading p word (some c) ++ .inr c :: parts (p.behind (!word.isEmpty) c) [] rest

def occurrences (code : String) : List Occurrence :=
 (parts {} [] code.toList).filterMap Sum.getLeft?

/-- Each word is replaced by another text. -/
def rewrite (f : Occurrence → Chars) (read : List (Occurrence ⊕ Char)) : Chars :=
 read.flatMap (Sum.elim f fun c => [c])

theorem parts_append {p : Place} {word more : Chars} (letters : ∀ c ∈ more, isWord c) (rest : Chars) :
  parts p word (more ++ rest) = parts p (word ++ more) rest := by
 induction more generalizing word with
 | nil => simp
 | cons c more ih =>
  rw [cons_append, parts, if_pos (letters c (by simp)), ih fun d mem => letters d (by simp [mem])]
  simp

/-- When words are replaced by words, everything else is read as before. -/
theorem parts_rewrite (words : ∀ o, IsWord o.word → IsWord (f o))
  (letters : ∀ c ∈ word, isWord c) (text : Chars) : parts p [] (rewrite f (parts p word text)) =
   (parts p word text).map (Sum.map (fun o => { o with word := f o }) id) := by
 induction text generalizing p word with
 | nil =>
  by_cases empty : word = []
  · simp [empty, parts, reading, rewrite]
  · obtain ⟨filled, more⟩ := words ⟨p, word, none⟩ ⟨empty, letters⟩
    have read := @parts_append p [] _ more []
    simp only [append_nil, nil_append] at read
    simp [empty, parts, reading, rewrite, read, filled]
 | cons c rest ih =>
  by_cases letter : isWord c
  · simp only [parts, letter, if_true]
    exact ih (by grind)
  · have behind := @ih [] (p.behind (!word.isEmpty) c) (by simp)
    simp only [rewrite] at behind
    by_cases empty : word = []
    · simp_all [parts, reading, rewrite]
    · obtain ⟨filled, more⟩ := words ⟨p, word, some c⟩ ⟨empty, letters⟩
      have same : (f ⟨p, word, some c⟩).isEmpty = word.isEmpty := by
       rw [isEmpty_eq_false_iff.mpr empty, isEmpty_eq_false_iff.mpr filled]
      have read := @parts_append p [] _ more
      simp only [nil_append] at read
      simpa [parts, reading, rewrite, letter, empty, filled, read, same] using behind

/-- Two ways to replace words by words agree on a text exactly if they agree on each of its words. -/
theorem rewrite_eq_iff {f g : Occurrence → Chars} (wordsF : ∀ o, IsWord o.word → IsWord (f o))
  (wordsG : ∀ o, IsWord o.word → IsWord (g o)) (code : String) :
  rewrite f (parts {} [] code.toList) = rewrite g (parts {} [] code.toList) ↔
   ∀ o ∈ occurrences code, f o = g o := by
 constructor
 · intro same o mem
   obtain ⟨part, isPart, found⟩ := mem_filterMap.mp mem
   obtain rfl : part = .inl o := by simpa [Sum.getLeft?_eq_some_iff] using found
   have read := congrArg (parts {} []) same
   rw [parts_rewrite wordsF (by simp), parts_rewrite wordsG (by simp)] at read
   have each := map_inj_left.mp read _ isPart
   simpa using each
 · intro agree
   refine flatMap_congr fun part isPart => ?_
   cases part with
   | inl o => exact agree o (mem_filterMap.mpr ⟨_, isPart, rfl⟩)
   | inr c => rfl

section

variable {name : Chars} (proper : IsWord name)

include proper

theorem fits_iff {text : Chars} : fits name text = true ↔ name <+: text := by
 have plain : ∀ c ∈ name, (c == '.') = false := fun c mem => by
  have := proper.2 c mem
  rw [beq_eq_false_iff_ne]
  rintro rfl
  exact absurd this (by decide)
 clear proper
 induction name generalizing text with
 | nil => simp [fits]
 | cons d name ih =>
  cases text with
  | nil => simp [fits]
  | cons c text =>
   simp [fits, plain d (by simp), ih fun e mem => plain e (by simp [mem]), cons_prefix_cons]

theorem standsAt_append (apart : before.all (!isWord ·)) (rest : Chars) :
  standsAt name before (name ++ rest) = !(rest.head?.map isWord).getD false := by
 obtain ⟨d, init, rfl⟩ := exists_cons_of_ne_nil proper.1
 have start : (before.map isWord).getD false = false := by cases before <;> simp_all
 have last : ((d :: init) ++ rest)[init.length]? = some ((d :: init).getLast (by simp)) := by
  rw [getElem?_append_left (by simp), getLast_eq_getElem]
  simp
 have next : ((d :: init) ++ rest)[init.length + 1]? = rest.head? := by
  rw [getElem?_append_right (by simp), head?_eq_getElem?]
  simp
 have isLetter := proper.2 _ (getLast_mem (cons_ne_nil d init))
 simp only [standsAt, length_cons, (fits_iff proper).mpr (prefix_append _ _), isBoundary, start, last, next]
 simp [isLetter, proper.2 d (by simp)]

/-- A name stands behind a character that is no letter where it is the whole word that begins there. -/
theorem standsAt_iff (apart : before.all (!isWord ·)) {text : Chars} :
  standsAt name before text = true ↔ text.takeWhile isWord = name := by
 constructor
 · intro stands
   have fit : fits name text = true := by grind [standsAt]
   obtain ⟨rest, rfl⟩ := (fits_iff proper).mp fit
   rw [standsAt_append proper apart] at stands
   rw [takeWhile_append_of_pos proper.2]
   cases rest <;> simp_all
 · intro word
   have split := takeWhile_append_dropWhile (p := isWord) (l := text)
   rw [← split, word, standsAt_append proper apart]
   have stop := head?_dropWhile_not isWord text
   cases head : (text.dropWhile isWord).head? <;> simp_all

/-- No name stands inside of a word. -/
theorem not_standsAt {c : Char} (letter : isWord c) (rest : Chars) : standsAt name (some c) rest = false := by
 obtain ⟨d, init, rfl⟩ := exists_cons_of_ne_nil proper.1
 cases rest with
 | nil => simp [standsAt, fits]
 | cons e rest =>
  by_cases same : isWord e
  · simp [standsAt, isBoundary, letter, same]
  · refine Bool.eq_false_iff.mpr fun stands => same ?_
    have fit : fits (d :: init) (e :: rest) = true := by grind [standsAt]
    obtain ⟨more, joined⟩ := (fits_iff proper).mp fit
    cases joined
    exact proper.2 _ (by simp)

omit proper in
theorem renameFrom_skip (k : Nat) (text : Chars) :
  renameFrom name new false k text = renameFrom name new false 0 (text.drop k) := by
 induction k generalizing text with
 | zero => rfl
 | succ k ih =>
  cases text with
  | nil => rfl
  | cons c text => exact ih text

theorem renameFrom_letters (letters : ∀ c ∈ word, isWord c) (rest : Chars) :
  renameFrom name new false 0 (word ++ rest) = word ++ renameFrom name new false 0 rest := by
 induction word with
 | nil => rfl
 | cons c word ih =>
  rw [cons_append, renameFrom, not_standsAt proper (letters c (by simp))]
  simp [ih fun d mem => letters d (by simp [mem])]

def renameBehind (name new : Chars) (before : Option Char) (text : Chars) : Chars :=
 if before.all (!bars ·) && text.takeWhile isWord == name then
  new ++ renameFrom name new false 0 (text.drop name.length)
 else renameFrom name new false 0 text

theorem renameFrom_cons {c : Char} (other : isWord c = false) (rest : Chars) :
  renameFrom name new false 0 (c :: rest) = c :: renameBehind name new (some c) rest := by
 have stands : standsAt name (some c) rest = (rest.takeWhile isWord == name) := by
  rw [Bool.eq_iff_iff, standsAt_iff proper (by simp [other]), beq_iff_eq]
 rw [renameFrom, stands, renameBehind, renameFrom_skip name.length]
 by_cases found : (!bars c && rest.takeWhile isWord == name) = true
 · rw [if_pos found, Option.all_some, if_pos found, cons_append]
 · rw [if_neg found, Option.all_some, if_neg found]
   simp

theorem renameFrom_start (text : Chars) : renameFrom name new true 0 text = renameBehind name new none text := by
 cases text with
 | nil =>
  obtain ⟨d, init, rfl⟩ := exists_cons_of_ne_nil proper.1
  simp [renameFrom, renameBehind]
 | cons c rest =>
  have stands : standsAt name none (c :: rest) = ((c :: rest).takeWhile isWord == name) := by
   rw [Bool.eq_iff_iff, standsAt_iff proper (by simp), beq_iff_eq]
  obtain ⟨d, init, rfl⟩ := exists_cons_of_ne_nil proper.1
  by_cases letter : isWord c
  · have passed := @renameFrom_letters [c] _ proper new (by simpa using letter) rest
    have skipped := @renameFrom_skip (d :: init) new init.length rest
    rw [renameFrom, not_standsAt proper letter, stands, renameBehind]
    simp_all
  · have unfound : renameFrom (d :: init) new true 0 (c :: rest) = renameFrom (d :: init) new false 0 (c :: rest) := by
     rw [renameFrom, renameFrom, stands]
     simp [letter]
    simp [unfound, renameBehind, letter]

theorem renameBehind_word (letters : ∀ c ∈ word, isWord c)
  {rest : Chars} (stop : rest.head?.all (!isWord ·)) : renameBehind name new before (word ++ rest) =
   (if before.all (!bars ·) && word == name then new else word) ++ renameFrom name new false 0 rest := by
 have whole : (word ++ rest).takeWhile isWord = word := by
  rw [takeWhile_append_of_pos letters]
  cases rest <;> simp_all
 rw [renameBehind, whole]
 split
 · obtain rfl : word = name := by simp_all
   rw [drop_left]
 · exact renameFrom_letters proper letters rest

/-- A name is renamed where it stands as a whole word, and not directly behind a dot or a quote. -/
theorem renameBehind_eq {p : Place} (letters : ∀ c ∈ word, isWord c) (text : Chars) :
  renameBehind name new p.last (word ++ text) =
   rewrite (fun o => if o.bare && o.word == name then new else o.word) (parts p word text) := by
 have read (p : Place) (word : Chars) (next : Option Char) :
   rewrite (fun o => if o.bare && o.word == name then new else o.word) (reading p word next) =
    if p.last.all (!bars ·) && word == name then new else word := by
  cases word with
  | nil => simp [reading, rewrite, proper.1]
  | cons c word => simp [reading, rewrite, Occurrence.bare]
 induction text generalizing p word with
 | nil =>
  rw [renameBehind_word proper letters (by simp), parts, read]
  simp [renameFrom]
 | cons c rest ih =>
  by_cases letter : isWord c
  · rw [parts, if_pos letter, ← ih (by grind), append_assoc, singleton_append]
  · have behind := @ih [] (p.behind (!word.isEmpty) c) (by simp)
    rw [renameBehind_word proper letters (by simpa using letter), renameFrom_cons proper (by simpa using letter), parts,
     if_neg letter, rewrite, flatMap_append, ← rewrite, read]
    exact congrArg (_ ++ c :: ·) behind

/-- Renaming replaces the word at each place where it is bare. -/
theorem rename_toList (code : String) : (rename code (String.ofList name) (String.ofList new)).toList =
  rewrite (fun o => if o.bare && o.word == name then new else o.word) (parts {} [] code.toList) := by
 rw [rename, String.toList_ofList, String.toList_ofList, String.toList_ofList, renameFrom_start proper]
 exact @renameBehind_eq [] _ proper new {} (by simp) code.toList

end

theorem rewrite_word {p : Place} (text : Chars) : rewrite (·.word) (parts p word text) = word ++ text := by
 have read (p : Place) (word : Chars) (next : Option Char) : rewrite (·.word) (reading p word next) = word := by
  cases word <;> simp [reading, rewrite]
 induction text generalizing p word with
 | nil => rw [parts, read, append_nil]
 | cons c rest ih =>
  rw [parts]
  split
  · rw [ih, append_assoc, singleton_append]
  · rw [rewrite, flatMap_append, ← rewrite, read]
    exact congrArg (word ++ c :: ·) ih

def replaced : Pairs → Chars → Chars
 | [], word => word
 | e :: table, word => replaced table (if word = e.1.toList then e.2.toList else word)

def lookup? : Pairs → Chars → Option Chars
 | [], _ => none
 | e :: table, word => if word = e.1.toList then some e.2.toList else lookup? table word

namespace Occurrence

def renamed (table : Pairs) (o : Occurrence) : Chars :=
 if o.bare then replaced table o.word else o.word

/-- The word after all replacements at once, if identifiers are replaced and nothing else. -/
def meant (table : Pairs) (o : Occurrence) : Chars :=
 if o.isIdentifier then (lookup? table o.word).getD o.word else o.word

end Occurrence

def substitute (table : Pairs) (code : String) : String :=
 String.ofList (rewrite (·.meant table) (parts {} [] code.toList))

def Worded (table : Pairs) : Prop := ∀ e ∈ table, IsWord e.1.toList ∧ IsWord e.2.toList

instance (table : Pairs) : Decidable (Worded table) := decidableBAll _ _

/-- No name is replaced twice, and no name has two replacements. -/
structure Separate (table : Pairs) : Prop where
 apart : ∀ e ∈ table, ∀ f ∈ table, e.2 ≠ f.1
 one : ∀ e ∈ table, ∀ f ∈ table, e.1 = f.1 → e.2 = f.2

theorem isWord_replaced (worded : Worded table) (proper : IsWord word) : IsWord (replaced table word) := by
 induction table generalizing word with
 | nil => exact proper
 | cons e table ih =>
  refine ih (fun f mem => worded f (by simp [mem])) ?_
  split
  · exact (worded e (by simp)).2
  · exact proper

theorem lookup_cases (table : Pairs) (word : Chars) :
  (∃ e ∈ table, e.1.toList = word ∧ lookup? table word = some e.2.toList) ∨
   (∀ e ∈ table, e.1.toList ≠ word) ∧ lookup? table word = none := by
 induction table with
 | nil => exact .inr ⟨nofun, rfl⟩
 | cons e table ih =>
  by_cases same : word = e.1.toList
  · exact .inl ⟨e, by simp, same.symm, if_pos same⟩
  · rw [lookup?, if_neg same]
    rcases ih with ⟨f, mem, found⟩ | ⟨unknown, missing⟩
    · exact .inl ⟨f, by simp [mem], found⟩
    · exact .inr ⟨forall_mem_cons.mpr ⟨Ne.symm same, unknown⟩, missing⟩

theorem isWord_lookup (worded : Worded table) (proper : IsWord word) : IsWord ((lookup? table word).getD word) := by
 rcases lookup_cases table word with ⟨e, mem, _, found⟩ | ⟨_, found⟩
 · exact found ▸ (worded e mem).2
 · exact found ▸ proper

/-- Replacements that follow each other act on every word by itself. -/
theorem renameAll_toList (worded : Worded table) (code : String) :
  (renameAll code table).toList = rewrite (·.renamed table) (parts {} [] code.toList) := by
 induction table generalizing code with
 | nil =>
  have same : (Occurrence.renamed []) = (·.word) := by
   funext o
   simp [Occurrence.renamed, replaced]
  exact (same ▸ @rewrite_word [] {} code.toList).symm
 | cons e table ih =>
  obtain ⟨old, new⟩ := worded e (by simp)
  have one := @rename_toList e.1.toList old e.2.toList code
  rw [String.ofList_toList, String.ofList_toList] at one
  have words : ∀ o : Occurrence, IsWord o.word → IsWord (if o.bare && o.word == e.1.toList then e.2.toList else o.word) := by
   intro o proper
   split <;> assumption
  change (renameAll (rename code e.1 e.2) table).toList = _
  rw [ih fun f mem => worded f (by simp [mem]), one, parts_rewrite words (by simp), rewrite, flatMap_map]
  refine flatMap_congr fun part _ => ?_
  cases part with
  | inl o =>
   by_cases bare : o.bare <;> simp_all [Occurrence.renamed, replaced, Occurrence.bare]
  | inr c => rfl

theorem renameAll_eq_substitute_iff (worded : Worded table) (code : String) :
  renameAll code table = substitute table code ↔ ∀ o ∈ occurrences code, o.renamed table = o.meant table := by
 rw [← rewrite_eq_iff, ← renameAll_toList worded, substitute]
 · constructor
   · exact fun same => same ▸ String.toList_ofList ..
   · exact fun same => same ▸ (String.ofList_toList ..).symm
 · intro o proper
   unfold Occurrence.renamed
   split
   · exact isWord_replaced worded proper
   · exact proper
 · intro o proper
   unfold Occurrence.meant
   split
   · exact isWord_lookup worded proper
   · exact proper

theorem replaced_of_unknown (unknown : ∀ e ∈ table, e.1.toList ≠ word) : replaced table word = word := by
 induction table with
 | nil => rfl
 | cons e table ih =>
  obtain ⟨other, unknown⟩ := forall_mem_cons.mp unknown
  rw [replaced, if_neg other.symm, ih unknown]

theorem replaced_eq_lookup (apart : ∀ e ∈ table, ∀ f ∈ table, e.2 ≠ f.1) (word : Chars) :
  replaced table word = (lookup? table word).getD word := by
 induction table with
 | nil => rfl
 | cons e table ih =>
  rw [replaced, lookup?]
  by_cases same : word = e.1.toList
  · rw [if_pos same, if_pos same]
    exact replaced_of_unknown fun f mem equal =>
     apart e (by simp) f (by simp [mem]) (String.toList_inj.mp equal).symm
  · rw [if_neg same, if_neg same]
    exact ih fun f mem g mem' => apart f (by simp [mem]) g (by simp [mem'])

theorem lookup_perm {table table' : Pairs} (one : ∀ e ∈ table, ∀ f ∈ table, e.1 = f.1 → e.2 = f.2)
  (perm : table'.Perm table) (word : Chars) : lookup? table' word = lookup? table word := by
 rcases lookup_cases table word with ⟨e, mem, itself, found⟩ | ⟨unknown, missing⟩ <;>
  rcases lookup_cases table' word with ⟨f, mem', itself', found'⟩ | ⟨unknown', missing'⟩
 · have same := one f (perm.mem_iff.mp mem') e mem (String.toList_inj.mp (itself'.trans itself.symm))
   rw [found, found', same]
 · exact absurd itself (unknown' e (perm.mem_iff.mpr mem))
 · exact absurd itself' (unknown f (perm.mem_iff.mp mem'))
 · rw [missing, missing']

/-- Where no name is replaced twice, the order of a table does not matter. -/
theorem renameAll_perm {table table' : Pairs} (worded : Worded table) (separate : Separate table)
  (perm : table'.Perm table) (code : String) : renameAll code table' = renameAll code table := by
 refine String.toList_inj.mp ?_
 have apart : ∀ e ∈ table', ∀ f ∈ table', e.2 ≠ f.1 := fun e mem f mem' =>
  separate.apart e (perm.mem_iff.mp mem) f (perm.mem_iff.mp mem')
 rw [renameAll_toList fun e mem => worded e (perm.mem_iff.mp mem), renameAll_toList worded]
 refine congrArg (rewrite · _) (funext fun o => ?_)
 simp only [Occurrence.renamed, replaced_eq_lookup apart, replaced_eq_lookup separate.apart, lookup_perm separate.one perm]

/-- Where no name is replaced twice, a word is replaced as it is meant unless it is a name of the table that is bare and
no identifier, or the other way round. -/
theorem renamed_eq_meant_iff (separate : Separate table) (o : Occurrence) :
  o.renamed table = o.meant table ↔ ((∃ e ∈ table, e.1.toList = o.word) → (o.bare ↔ o.isIdentifier)) := by
 rw [Occurrence.renamed, Occurrence.meant, replaced_eq_lookup separate.apart]
 rcases lookup_cases table o.word with ⟨e, mem, itself, found⟩ | ⟨unknown, missing⟩
 · have other : e.2.toList ≠ o.word := fun same =>
    separate.apart e mem e mem (String.toList_inj.mp (same.trans itself.symm))
   have known : ∃ e ∈ table, e.1.toList = o.word := ⟨e, mem, itself⟩
   rw [found]
   by_cases bare : o.bare <;> by_cases identifier : o.isIdentifier <;> simp_all [Ne.symm]
 · simp [missing]
   grind

end AnimationGraph.Names
