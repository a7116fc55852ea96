import AnimationGraph.Proofs.Code.Names

/-! # Line numbers of user code

A script tells where the code of the user starts, so that errors can be reported with the lines that the user sees.  The
number is found by a mark in the lines, so a line in front of the code must not hold the mark by chance, and must not
break.  Quoted names never break, but a tree or a node can be named like the mark.
-/

namespace AnimationGraph
open List

theorem find?_isSome : (Edit.find? part text).isSome ↔ part.toList <:+: text.toList := by
 have places (i : Nat) (cs : Chars) : (Edit.places part.toList i cs).head?.isSome ↔ part.toList <:+: cs := by
  induction cs generalizing i with
  | nil => cases h : part.toList <;> simp [Edit.places]
  | cons c cs ih =>
   simp only [Edit.places, infix_cons_iff, ← isPrefixOf_iff_prefix, ← ih (i + 1)]
   split <;> simp_all
 simp [Edit.find?, places]

theorem splitLines_break (a b : String) : splitLines (a ++ "\n" ++ b) = splitLines a ++ splitLines b := by
 simp [splitLines, splitOn_append_cons_self]

theorem splitLines_joinLines (some : ls ≠ []) : splitLines (joinLines ls) = ls.flatMap splitLines := by
 induction ls with
 | nil => contradiction
 | cons l ls ih =>
  cases ls with
  | nil => simp [joinLines]
  | cons m ls =>
   rw [flatMap_cons, ← ih (by simp), ← splitLines_break]
   simp [joinLines]

theorem flatMap_splitLines (ls : Texts) (whole : ∀ l ∈ ls, '\n' ∉ l.toList) : ls.flatMap splitLines = ls := by
 induction ls with
 | nil => rfl
 | cons l ls ih =>
  rw [flatMap_cons, ih fun m mem => whole m (by simp [mem]), splitLines, splitOn_eq_singleton (whole l (by simp))]
  simp

theorem length_splitOn (cs : Chars) : (cs.splitOn '\n').length = cs.count '\n' + 1 := by
 induction cs with
 | nil => rfl
 | cons c cs ih => grind [splitOn_cons_eq_if_modifyHead]

theorem length_splitLines (ls : Texts) : ls.length ≤ (ls.flatMap splitLines).length ∧
  ((ls.flatMap splitLines).length = ls.length ↔ ∀ l ∈ ls, '\n' ∉ l.toList) := by
 induction ls with
 | nil => simp
 | cons l ls ih =>
  have many : (splitLines l).length = l.toList.count '\n' + 1 := by simp [splitLines, length_splitOn]
  grind

theorem unbroken_of_mem (mem : l ∈ splitLines code) : '\n' ∉ l.toList := by
 have unbroken (cs : Chars) : ∀ l ∈ cs.splitOn '\n', '\n' ∉ l := by
  induction cs with
  | nil => simp
  | cons c cs ih =>
   rw [splitOn_cons_eq_if_modifyHead]
   cases h : cs.splitOn '\n' <;> grind [modifyHead_nil, modifyHead_cons]
 obtain ⟨cs, part, rfl⟩ := mem_map.mp mem
 simpa using unbroken _ cs part

theorem infix_behind (c : Char) (part front text : Chars) (apart : c ∉ front) :
  c :: part <:+: front ++ text ↔ c :: part <:+: text := by
 induction front with
 | nil => rfl
 | cons a front ih => simp_all [infix_cons_iff]

namespace Quoted

theorem ne_of_mem_hexDigits (mem : c ∈ hexDigits w n) : c ≠ '#' ∧ c ≠ '\n' := by
 have core (fuel n : Nat) (cs : Chars) (apart : ∀ c ∈ cs, c ≠ '#' ∧ c ≠ '\n') :
   ∀ c ∈ Nat.toDigitsCore 16 fuel n cs, c ≠ '#' ∧ c ≠ '\n' := by
  induction fuel generalizing n cs with
  | zero => exact apart
  | succ fuel ih =>
   have more : ∀ c ∈ Nat.digitChar (n % 16) :: cs, c ≠ '#' ∧ c ≠ '\n' := by simpa using apart
   rw [Nat.toDigitsCore]
   split
   · exact more
   · exact ih _ _ more
 rcases mem_append.mp mem with fill | digit
 · simp [eq_of_mem_replicate fill]
 · exact core _ _ _ (by simp) c digit

theorem escape_cases (quote : q = '\'' ∨ q = '"') (c : Char) : escape q c = [c] ∧ c ≠ '\n' ∧ c ≠ q ∨
  ∃ more, escape q c = '\\' :: more ∧ '#' ∉ more ∧ '\n' ∉ more := by
 have digits (w n : Nat) := @ne_of_mem_hexDigits w n
 unfold escape
 grind

variable (quote : q = '\'' ∨ q = '"')

include quote

theorem prefix_escaped (ordinary : ∀ c ∈ part, escape q c = [c] ∧ c ≠ '\\' ∧ c ≠ q) (cs back : Chars) :
  part <+: cs.flatMap (escape q) ++ q :: back ↔ part <+: cs := by
 induction part generalizing cs with
 | nil => simp
 | cons a part ih =>
  have here := ordinary a (by simp)
  have rest := ih fun c mem => ordinary c (by simp [mem])
  cases cs with
  | nil => simp [here]
  | cons c cs =>
   rcases escape_cases quote c with ⟨own, _⟩ | ⟨more, escaped, _⟩
   · simp [own, rest]
   · grind

theorem infix_escaped (ordinary : ∀ c ∈ '#' :: part, escape q c = [c] ∧ c ≠ '\\' ∧ c ≠ q) (cs : Chars) (apart : '#' ∉ back) :
  '#' :: part <:+: cs.flatMap (escape q) ++ q :: back ↔ '#' :: part <:+: cs := by
 induction cs with
 | nil => simpa using infix_behind '#' part (q :: back) [] (by grind)
 | cons c cs ih =>
  have front := prefix_escaped quote ordinary (c :: cs) back
  rcases escape_cases quote c with ⟨own, _⟩ | ⟨more, escaped, _⟩
  · grind [infix_cons_iff]
  · have outside := infix_behind '#' part ('\\' :: more) (cs.flatMap (escape q) ++ q :: back) (by grind)
    grind [infix_cons_iff]

end Quoted

namespace Code.ScriptView
open Quoted Letters

theorem lineWith_append (ls rest : Texts) (part l : String) (holds : part.toList <:+: l.toList) :
  lineWith (ls ++ l :: rest) part ≤ ls.length + 1 ∧
   (lineWith (ls ++ l :: rest) part = ls.length + 1 ↔ ∀ m ∈ ls, ¬ part.toList <:+: m.toList) := by
 induction ls with
 | nil => simp [lineWith, findIdx?_cons, find?_isSome, holds]
 | cons m ls ih =>
  simp only [lineWith, cons_append, findIdx?_cons, find?_isSome] at ih ⊢
  split <;> grind

/-- A text that does not break and holds no part of the mark. -/
def Clean (l : String) : Prop := '#' ∉ l.toList ∧ '\n' ∉ l.toList

def Harmless (l : String) : Prop := ¬ userCodeStart.toList <:+: l.toList ∧ '\n' ∉ l.toList

theorem Clean.harmless (clean : Clean l) : Harmless l :=
 ⟨fun mark => clean.1 (mark.subset (by simp [userCodeStart])), clean.2⟩

@[simp] theorem clean_append : Clean (a ++ b) ↔ Clean a ∧ Clean b := by
 simp [Clean]
 tauto

theorem clean_intercalate (clean : ∀ l ∈ ls, Clean l) : Clean (", ".intercalate ls) := by
 induction ls with
 | nil => simp [Clean]
 | cons l ls ih => cases ls <;> simp_all [String.intercalate_cons_cons, Clean]

theorem clean_number (n : Nat) : Clean n.repr := by
 have digit (c : Char) (mem : c ∈ n.repr.toList) : c.isDigit :=
  Nat.isDigit_of_mem_toDigits (b := 10) (by decide) (by decide) (by simpa using mem)
 exact ⟨fun mem => absurd (digit _ mem) (by decide), fun mem => absurd (digit _ mem) (by decide)⟩

theorem clean_name (isName : isName name) : Clean name := by
 unfold Letters.isName at isName
 split at isName
 · contradiction
 next c rest shape =>
  have apart (d : Char) (other : continuesName d = false) : d ∉ name.toList := by
   have first : d ≠ c := fun same => by simp_all [continuesName]
   have later : d ∉ rest := fun mem => by simp_all
   simp [shape, first, later]
  exact ⟨apart _ (by simp [continuesName, startsName]),
   apart _ (by simp [continuesName, startsName])⟩

theorem clean_firstName {node : String} (clean : Clean node) (k : Nat) (s : SocketView) :
  Clean (Variables.firstName node k s) := by
 have front : Clean (.ofList (node.toList.take 4)) := by
  simpa [Clean] using ⟨fun mem => clean.1 (mem_of_mem_take mem), fun mem => clean.2 (mem_of_mem_take mem)⟩
 have const (l : String) (plain : '#' ∉ l.toList ∧ '\n' ∉ l.toList) : Clean l := plain
 unfold Variables.firstName
 split
 next name => simp [clean_name name, front, clean_number, const "_"]
 next => cases s.isOutput <;> simp [front, clean_number, const]

/-- Quoted names do not break, and hold the mark as they do unquoted. -/
theorem quoted_iff (front back : String) (clean : Clean front) (clean' : Clean back) (name : String) :
  Harmless (front ++ literal name ++ back) ↔ ¬ userCodeStart.toList <:+: name.toList := by
 obtain ⟨q, quote, shape⟩ : ∃ q, (q = '\'' ∨ q = '"') ∧ (literal name).toList =
   q :: name.toList.flatMap (escape q) ++ [q] :=
  ⟨chooseQuote name.toList, by grind [chooseQuote], by simp [literal]⟩
 have mark : ∃ part, userCodeStart.toList = '#' :: part ∧
   ∀ c ∈ '#' :: part, escape q c = [c] ∧ c ≠ '\\' ∧ c ≠ q := by
  rcases quote with rfl | rfl <;> simp [userCodeStart, escape]
 obtain ⟨part, mark, ordinary⟩ := mark
 have inside := infix_escaped quote ordinary name.toList clean'.1
 have outside := infix_behind '#' part (front.toList ++ [q])
  (name.toList.flatMap (escape q) ++ q :: back.toList) (by grind [clean.1])
 have unbroken : '\n' ∉ name.toList.flatMap (escape q) := fun mem => by
  obtain ⟨c, _, here⟩ := mem_flatMap.mp mem
  grind [escape_cases quote c]
 have whole : (front ++ literal name ++ back).toList =
   front.toList ++ [q] ++ (name.toList.flatMap (escape q) ++ q :: back.toList) := by simp [shape]
 have breaks : '\n' ≠ q := by grind
 rw [Harmless, whole, mark, outside, inside]
 simp [clean.2, clean'.2, unbroken, breaks]

variable (s : ScriptView)

def depth : Nat := if s.debug? then 2 else 1

def opening : Texts :=
 setupLines [s.node] (Variables.initial [s.node]) ++ ["def main(" ++ ", ".intercalate s.parameters ++ "):"]
  ++ if s.debug? then ["    try:", "        " ++ s.node.identifier ++ ".errorMessage = ''"] else []

theorem lines_eq (valid : s.verdict = .valid) : ∃ rest, s.lines = s.opening ++ [indentation s.depth ++ "\n"]
  ++ (indentation s.depth ++ userCodeStart) :: (indented s.depth (splitLines s.code) ++ rest) := by
 have twice (l : String) : "    " ++ ("    " ++ l) = "        " ++ l := by rw [← String.append_assoc]; rfl
 have quotes : ".errorMessage = '" ++ "'" = ".errorMessage = ''" := rfl
 cases debug : s.debug? <;>
  simp [lines, main, valid, debug, body, Block.lines, opening, depth, indented, indentation, Function.comp_def, twice,
   String.append_assoc, quotes]

def parts : Texts :=
 s.node.identifier :: s.parameters ++ s.node.modules ++ s.node.inputs.filterMap (·.type.defaultCode)

theorem clean_loadLine (clean : ∀ l ∈ s.parts, Clean l) {i : SocketView} (isInput : i ∈ s.node.inputs) :
  Clean (loadLine s.node.identifier i (Variables.initial [s.node])) := by
 have node : Clean s.node.identifier := clean _ (by simp [parts])
 have name : Clean ((Variables.initial [s.node]).of i.id) := by
  refine Variables.rename_induction {} (fun _ => by simp [Variables.of, Clean]) (fun p mem => ?_) i.id
  obtain ⟨q, _, rfl⟩ := mem_map.mp (show p ∈ Variables.firstNames s.node by simpa using mem)
  exact clean_firstName node _ _
 have place : Clean (s.node.identifier ++ (if i.isOutput then ".outputs[" else ".inputs[") ++ toString i.place ++ "]") := by
  cases i.isOutput <;> simp [node, clean_number] <;> simp [Clean]
 have value : Clean (valueExpression s.node.identifier i) := by
  unfold valueExpression
  cases i.type.valued with
  | true => exact clean_append.mpr ⟨place, by simp [Clean]⟩
  | false =>
   cases code : i.type.defaultCode with
   | none => exact clean_append.mpr ⟨place, by simp [Clean]⟩
   | some text => exact clean text (by simp only [parts]; grind)
 simp only [loadLine, clean_append, name, value]
 simp [Clean]

theorem opening_iff (clean : ∀ l ∈ s.parts, Clean l) : (∀ l ∈ s.opening, Harmless l) ↔
  ¬ userCodeStart.toList <:+: s.node.tree.toList ∧ ¬ userCodeStart.toList <:+: s.node.name.toList := by
 have node : Clean s.node.identifier := clean _ (by simp [parts])
 have tree := quoted_iff "nodes = bpy.data.node_groups[" "].nodes" (by simp [Clean]) (by simp [Clean]) s.node.tree
 have name := quoted_iff (s.node.identifier ++ " = nodes[") "]" (by simp [Clean, node.1, node.2]) (by simp [Clean])
  s.node.name
 have imports : ∀ l ∈ importLines [s.node], Clean l := by
  have modules : Clean (", ".intercalate (sortedSet (["bpy", "sys"] ++ s.node.modules))) := by
   refine clean_intercalate fun l mem => ?_
   rcases mem_append.mp (mem_sortedSet.mp mem) with mem | mem
   · simp only [mem_cons, not_mem_nil, or_false] at mem
     rcases mem with rfl | rfl <;> simp [Clean]
   · exact clean l (by simp [parts, mem])
  have first : Clean (importLine [s.node]) := clean_append.mpr ⟨by simp [Clean], by simpa using modules⟩
  simp [importLines, first]
  simp [Clean]
 have header : Clean ("def main(" ++ ", ".intercalate s.parameters ++ "):") := by
  have := clean_intercalate fun l (mem : l ∈ s.parameters) => clean l (by simp [parts, mem])
  simp [this]
  simp [Clean]
 have loads : ∀ i ∈ s.node.freeInputs, Clean (loadLine s.node.identifier i (Variables.initial [s.node])) :=
  fun i mem => s.clean_loadLine clean (mem_filter.mp mem).1
 have trying : Clean ("        " ++ s.node.identifier ++ ".errorMessage = ''") := by
  simp [node]
  simp [Clean]
 simp only [opening, setupLines, forall_mem_append, ← tree, ← name]
 constructor
 · rintro ⟨⟨⟨⟨⟨_, second⟩, third⟩, _⟩, _⟩, _⟩
   exact ⟨second _ (by simp), third _ (by simp)⟩
 · rintro ⟨tree, name⟩
   refine ⟨⟨⟨⟨⟨fun l mem => (imports l mem).harmless, ?_⟩, ?_⟩, ?_⟩, ?_⟩, ?_⟩
   · simpa using ⟨Clean.harmless (by simp [Clean]), tree⟩
   · simpa using name
   · simpa using fun i mem => (loads i mem).harmless
   · simpa using header.harmless
   · split
     · simpa using ⟨Clean.harmless (by simp [Clean]), trying.harmless⟩
     · simp

def front : Texts := s.opening.flatMap splitLines ++ [indentation s.depth, "", indentation s.depth ++ userCodeStart]

/-- In a script of valid code the lines of the user stand one after the other, and the script says where they start.
What it says is right exactly if the mark is in the name of neither the tree nor the node. -/
theorem startLine_right_iff (s : ScriptView) (valid : s.verdict = .valid) (clean : ∀ l ∈ s.parts, Clean l) :
  (∃ rest : List String, splitLines s.script = s.front ++ indented s.depth (splitLines s.code) ++ rest
   ++ ["USER_CODE_START_LINE = " ++ toString s.startLine]) ∧
  (s.startLine = s.front.length ↔
   ¬ userCodeStart.toList <:+: s.node.tree.toList ∧ ¬ userCodeStart.toList <:+: s.node.name.toList) := by
 obtain ⟨rest, lines⟩ := s.lines_eq valid
 constructor
 · have blank : splitLines (indentation s.depth ++ "\n") = [indentation s.depth, ""] := by
    rw [← flatMap_splitLines [indentation s.depth, ""] (by simp [indentation])]
    simpa using splitLines_break (indentation s.depth) ""
   have user := flatMap_splitLines (indented s.depth (userCodeStart :: splitLines s.code))
    (by simpa [indented, indentation, userCodeStart] using fun _ => unbroken_of_mem)
   refine ⟨rest.flatMap splitLines, ?_⟩
   rw [script, if_pos valid, splitLines_joinLines (by simp), flatMap_append, flatMap_splitLines [_]
    (by simpa using (clean_number s.startLine).2)]
   simp_all [front, indented]
   rw [← append_assoc, user, cons_append]
 · have found := lineWith_append (s.opening ++ [indentation s.depth ++ "\n"]) (indented s.depth (splitLines s.code) ++ rest)
    userCodeStart (indentation s.depth ++ userCodeStart) (by simpa using suffix_append _ _ |>.isInfix)
   have many := length_splitLines s.opening
   have apart : ¬ userCodeStart.toList <:+: (indentation s.depth ++ "\n").toList := fun mark => by
    simpa [indentation] using mark.subset (show '#' ∈ userCodeStart.toList by decide)
   rw [startLine, lines, front, ← s.opening_iff clean]
   grind [Harmless]

def titled (name : String) : ScriptView where
 node := { id := ⟨0⟩, kind := "an_ScriptNode", tree := "Tree", name, identifier := "_a", inputs := [], outputs := [] }
 parameters := []
 results := []
 code := "x = 1"
 verdict := .valid
 initialize? := false
 correct? := false
 debug? := true

theorem titled_startLine : (titled "Script").startLine = (titled "Script").front.length ∧
  (titled "# User Code").startLine ≠ (titled "# User Code").front.length := by
 have right (name : String) :=
  (startLine_right_iff (titled name) rfl (by simp [titled, parts, Clean])).2
 have short {word : String} (h : word.length < userCodeStart.length) : ¬ userCodeStart.toList <:+: word.toList :=
  fun inside => absurd inside.length_le (Nat.not_le.mpr h)
 exact ⟨(right _).mpr ⟨short (by decide), short (by decide)⟩, fun same => ((right _).mp same).2 List.infix_rfl⟩

end Code.ScriptView
end AnimationGraph
