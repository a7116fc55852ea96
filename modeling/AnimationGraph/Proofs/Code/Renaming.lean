import AnimationGraph.Proofs.Code.Conversion
import AnimationGraph.Proofs.Text.Words

/-! # Own names in the code of nodes

The code of a node speaks of its own sockets; scripts have other names for them.  Names are replaced one after the
other in the text.  That is the replacement of all identifiers at once, unless a name stands in a literal or is a
name that a script uses as well.
-/

namespace AnimationGraph.Code

open List
open Names (IsWord)

def Lettered (s : String) : Prop := ∀ c ∈ s.toList, Letters.isWord c

instance (s : String) : Decidable (Lettered s) := List.decidableBAll _ _

theorem Lettered.append (left : Lettered s) (right : Lettered t) : Lettered (s ++ t) := by
 intro c mem
 rw [String.toList_append] at mem
 exact (mem_append.mp mem).elim (left c) (right c)

theorem lettered_number (k : Nat) : Lettered (toString k) := by
 intro c mem
 have digits : (toString k).toList = Nat.toDigits 10 k := Nat.toList_repr
 rw [digits] at mem
 have digit := Nat.isDigit_of_mem_toDigits (by decide) (by decide) mem
 have small : c.toNat < 128 := by
  simp only [Char.isDigit, Bool.and_eq_true, decide_eq_true_eq] at digit
  exact Nat.lt_of_le_of_lt digit.2 (by decide)
 simp [Letters.isWord, Letters.isNumeric, Letters.isDigit, Letters.isDecimal, small, digit]

theorem isWord_append (isWord : IsWord s.toList) (letters : Lettered t) : IsWord (s ++ t).toList := by
 refine ⟨?_, Lettered.append isWord.2 letters⟩
 rw [String.toList_append]
 exact append_ne_nil_of_left_ne_nil isWord.1 _

def Spelled (nodes : List NodeView) (vs : Variables) : Prop := ∀ s ∈ sockets nodes, IsWord (vs.of s.id).toList

variable {vs : Variables}

theorem isWord_rename (new : ∀ p ∈ names, IsWord p.2.toList) (known : IsWord (vs.of s).toList ∨ ∃ p ∈ names, p.1 = s) : IsWord ((vs.rename names).of s).toList := by
 induction names generalizing vs with
 | nil => simpa [Variables.rename] using known
 | cons p names ih =>
  obtain ⟨first, new⟩ := forall_mem_cons.mp new
  refine @ih (vs.insert p.1.index p.2) new ?_
  rw [Variables.of_insert]
  by_cases same : p.1 = s
  · simp [same, first]
  · simpa [same] using known

theorem Spelled.rename (spelled : Spelled nodes vs)
  (new : ∀ p ∈ names, IsWord p.2.toList) : Spelled nodes (vs.rename names) :=
 fun s mem => isWord_rename new (.inl (spelled s mem))

structure Legible (n : NodeView) : Prop where
 identifier : IsWord n.identifier.toList
 sockets : ∀ s ∈ n.inputs ++ n.outputs, Lettered s.identifier
 own : ∀ p ∈ n.inputVariables ++ n.outputVariables, IsWord p.2.toList

theorem isWord_firstName (letters : Lettered node) (k : Nat) (own : Lettered s.identifier) :
  IsWord (Variables.firstName node k s).toList := by
 have part : Lettered (String.ofList (node.toList.take 4)) := fun c mem =>
  letters c (mem_of_mem_take (String.toList_ofList ▸ mem))
 unfold Variables.firstName
 split
 · refine isWord_append (isWord_append (isWord_append ?_ own) part) (lettered_number k)
   decide
 · refine isWord_append (isWord_append (isWord_append (isWord_append ?_ ?_) ?_) (lettered_number k)) part
   · decide
   · split <;> decide
   · decide

theorem spelled_initial (legible : ∀ n ∈ nodes, Legible n) :
  Spelled nodes (Variables.initial nodes) := by
 intro s mem
 obtain ⟨n, isNode, mine⟩ := mem_flatMap.mp mem
 obtain ⟨k, here⟩ := getElem?_of_mem mine
 refine isWord_rename (fun p new => ?_) (.inr ⟨_, Variables.mem_firstNames isNode here, rfl⟩)
 obtain ⟨m, isOwner, new⟩ := mem_flatMap.mp new
 obtain ⟨⟨t, j⟩, isSocket, rfl⟩ := mem_map.mp new
 have first := legible m isOwner
 exact isWord_firstName first.identifier.2 j (first.sockets t (fst_mem_of_mem_zipIdx isSocket))

section

variable (isNode : n ∈ nodes) (spelled : Spelled nodes vs)

include isNode spelled

theorem isWord_prepared (isInput : i ∈ n.inputs) : IsWord (preparedName vs i).toList := by
 have isWord := spelled i (mem_sockets.mpr (.inl (mem_inputs.mpr ⟨n, isNode, isInput⟩)))
 unfold preparedName
 split
 · exact isWord_append isWord (by decide)
 · split
   · exact isWord_append isWord (by decide)
   · exact isWord

theorem spelled_preparation : Spelled nodes (preparation n vs).2 := by
 refine spelled.rename fun p mem => ?_
 rcases mem_append.mp mem with prepared | passed
 · obtain ⟨i, isInput, rfl⟩ := mem_map.mp prepared
   exact isWord_prepared isNode spelled isInput
 · obtain ⟨q, isPass, rfl⟩ := mem_map.mp passed
   exact isWord_prepared isNode spelled (mem_of_mem_passes isPass).1

theorem spelled_delivery : Spelled nodes (delivery n vs).2 := by
 refine spelled.rename fun p mem => ?_
 obtain ⟨h, isHandover, rfl⟩ := mem_map.mp mem
 obtain ⟨o, isLinked, isTarget⟩ := mem_flatMap.mp (mem_filter.mp isHandover).1
 obtain ⟨t, _, rfl⟩ := mem_map.mp isTarget
 exact spelled o (mem_sockets.mpr (.inr (mem_flatMap.mpr ⟨n, isNode, (mem_filter.mp isLinked).1⟩)))

theorem worded_localNames (legible : Legible n) : Names.Worded (localNames n vs) := by
 intro e mem
 simp only [localNames, cons_append, mem_cons, mem_append, mem_filterMap, Option.map_eq_some_iff] at mem
 rcases mem with rfl | ⟨p, isVariable, s, found, rfl⟩ | ⟨p, isVariable, s, found, rfl⟩
 · have self : IsWord "self".toList := by decide
   exact ⟨self, legible.identifier⟩
 · have isInput := mem_of_find?_eq_some found
   exact ⟨legible.own p (by simp [isVariable]), spelled s (mem_sockets.mpr (.inl (mem_inputs.mpr ⟨n, isNode, isInput⟩)))⟩
 · have isOutput := mem_of_find?_eq_some found
   exact ⟨legible.own p (by simp [isVariable]),
    spelled s (mem_sockets.mpr (.inr (mem_flatMap.mpr ⟨n, isNode, isOutput⟩)))⟩

end

theorem spelled_run {inner : List NodeView} (known : ∀ n ∈ inner, n ∈ nodes) (spelled : Spelled nodes vs) {names : Variables} (runs : .run n names ∈ (statements inner vs).1) : n ∈ nodes ∧ Spelled nodes names := by
 induction inner generalizing vs with
 | nil => simp [statements] at runs
 | cons m inner ih =>
  obtain ⟨isNode, known⟩ := forall_mem_cons.mp known
  have prepared := spelled_preparation isNode spelled
  rcases mem_append.mp runs with here | later
  · obtain ⟨rfl, rfl⟩ : n = m ∧ names = (preparation m vs).2 := by
     simp only [cons_append, mem_cons, mem_append, mem_map, reduceCtorEq,
      Statement.run.injEq, and_false, exists_false, false_or, or_false] at here
     exact here
    exact ⟨isNode, prepared⟩
  · exact ih known (spelled_delivery isNode prepared) later

namespace ExecutionUnit

structure Legible (x : ExecutionUnit) : Prop where
 nodes : ∀ n ∈ x.nodes, Code.Legible n
 group : ∀ g, x = group g → g.input ∈ g.nodes
 loop : ∀ l, x = loop l → l.input ∈ l.nodes

theorem Legible.start {x : ExecutionUnit} (legible : x.Legible) : Spelled x.nodes x.start.2 := by
 have first := spelled_initial legible.nodes
 have numbered (text : String) (isWord : IsWord text.toList) (k : Nat) := isWord_append isWord (lettered_number k)
 cases x with
 | main nodes => exact first
 | group g =>
  refine spelled_delivery (legible.group g rfl) (first.rename fun p mem => ?_)
  obtain ⟨⟨s, k⟩, _, rfl⟩ := mem_map.mp mem
  exact numbered "group_input_" (by decide) k
 | loop l =>
  refine spelled_delivery (legible.loop l rfl) ?_
  have count : IsWord "loop_iterations".toList := by decide
  have index : IsWord "current_loop_index".toList := by decide
  have names : Spelled l.nodes l.names := by
   refine first.rename fun p mem => ?_
   rcases mem_append.mp mem with isCount | isParameter
   · obtain rfl : p = (l.iterations.id, "loop_iterations") := by
      split at isCount <;> simp_all
     exact count
   · obtain ⟨q, isInput, rfl⟩ := mem_map.mp isParameter
     obtain ⟨r, _, found⟩ := mem_filterMap.mp isInput
     obtain ⟨_, rfl⟩ : r.1.asInput = true ∧ ("loop_parameter_" ++ toString r.2, r.1.socket.id) = q := by simpa using found
     exact numbered "loop_parameter_" (by decide) r.2
  unfold LoopView.headLines
  split
  · refine names.rename fun p mem => ?_
    obtain rfl := mem_singleton.mp mem
    exact index
  · refine names.rename fun p mem => ?_
    rcases mem_append.mp mem with isElement | isOther
    · obtain ⟨q, isPair, rfl⟩ := mem_map.mp isElement
      obtain ⟨k, _, name⟩ := mem_map.mp (of_mem_zip isPair).2
      exact name ▸ numbered "loop_iterator_element_" (by decide) k
    · simp only [mem_cons, not_mem_nil, or_false] at isOther
      rcases isOther with rfl | rfl
      · exact index
      · exact count

/-- In the code of a node each bare word is replaced by all entries of the table of its own names, one after the
other.  So all its identifiers are replaced at once, and nothing else, exactly if that makes no difference for any
word of the code.  Where no own name is a name that the script uses, the order of the sockets does not matter, and it
makes a difference only for own names that are bare in a literal or in a comment, or that are attributes or open a
literal, and for those that directly follow a literal. -/
theorem renaming_simultaneous_iff (x : ExecutionUnit) (legible : x.Legible) {n : NodeView} {names : Variables}
  (runs : .run n names ∈ x.steps.1) :
  (globalText n names = Names.substitute (localNames n names) n.code ↔
   ∀ o ∈ Names.occurrences n.code, o.renamed (localNames n names) = o.meant (localNames n names)) ∧
  (Names.Separate (localNames n names) →
   (∀ table, table.Perm (localNames n names) → Names.renameAll n.code table = globalText n names) ∧
   (globalText n names = Names.substitute (localNames n names) n.code ↔
    ∀ o ∈ Names.occurrences n.code, (∃ e ∈ localNames n names, e.1.toList = o.word) →
     (o.bare ↔ o.isIdentifier))) := by
 obtain ⟨isNode, spelled⟩ := spelled_run x.inner_subset legible.start runs
 have worded := worded_localNames isNode spelled (legible.nodes n isNode)
 have atOnce := Names.renameAll_eq_substitute_iff worded n.code
 refine ⟨atOnce, fun separate => ⟨fun table perm => Names.renameAll_perm worded separate perm n.code, ?_⟩⟩
 rw [globalText, atOnce]
 exact forall₂_congr fun o _ => Names.renamed_eq_meant_iff separate o

open Samples

def speaking (code : String) : NodeView :=
 { node "_abcdefghijklmno" [{ input 0 "Text" none with identifier := "x" }] [output 1 "Text" []] with
   code := code, inputVariables := [("x", "x")], outputVariables := [("result", "result")] }

def spokenNames (n : NodeView) : Variables := (preparation n (Variables.initial [n])).2

def titled : NodeView := speaking "result = \"the \" + x.title()"

theorem titled_simultaneous :
  globalText titled (spokenNames titled) = Names.substitute (localNames titled (spokenNames titled)) titled.code ∧
   globalText titled (spokenNames titled) = "_result_abc1 = \"the \" + _x_abc0.title()" := by
 have legible : (main [titled]).Legible := by
  refine ⟨forall_mem_singleton.mpr ?_, fun _ same => ?_, fun _ same => ?_⟩
  · exact ⟨by decide, by decide, by decide⟩
  · cases same
  · cases same
 have runs : .run titled (spokenNames titled) ∈ (main [titled]).steps.1 :=
  mem_append_left _ (mem_cons_of_mem _ (mem_append_right _ mem_cons_self))
 have table : localNames titled (spokenNames titled) =
   [("self", "_abcdefghijklmno"), ("x", "_x_abc0"), ("result", "_result_abc1")] := by decide +kernel
 have separate : Names.Separate (localNames titled (spokenNames titled)) := by
  rw [table]
  exact ⟨by decide, by decide⟩
 refine ⟨((renaming_simultaneous_iff (main [titled]) legible runs).2 separate).2.mpr ?_, by decide +kernel⟩
 rw [table]
 decide +kernel

def quoting : NodeView := speaking "result = \"the x\" + x"

/-- A name in a literal is replaced as well. -/
theorem quoting_in_literal :
  globalText quoting (spokenNames quoting) = "_result_abc1 = \"the _x_abc0\" + _x_abc0" ∧
   Names.substitute (localNames quoting (spokenNames quoting)) quoting.code =
    "_result_abc1 = \"the x\" + _x_abc0" := by
 decide +kernel

end ExecutionUnit
end AnimationGraph.Code
