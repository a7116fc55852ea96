import AnimationGraph.Proofs.Code.Wiring
import Mathlib.Data.List.Pairwise
import Std.Data.String.ToNat

/-! # Names while a network runs

First names carry no mark; the name of a converted value or of a copied own value is marked by its end.
While nodes are still to run, the sockets that nobody has written yet keep their first names.  These names
belong to no input that is ready to be read, and an object that a node will change goes by a name of its
own.  Names of conversions are another matter: `Calm` says that none of them is in use.
-/

namespace AnimationGraph

open List Variables

namespace Variables

variable (vs : Variables)

theorem of_insert (s t : SocketId) (x : String) :
  Variables.of (vs.insert s.index x) t = if s = t then x else vs.of t := by
 cases s
 cases t
 simp [of, Std.TreeMap.getD_insert]

theorem of_rename_of_not_mem {s : SocketId} (absent : ∀ p ∈ names, p.1 ≠ s) : (vs.rename names).of s = vs.of s := by
 induction names generalizing vs with
 | nil => rfl
 | cons p names ih =>
  change (Variables.rename (vs.insert p.1.index p.2) names).of s = _
  rw [ih _ fun q mem => absent q (by simp [mem]), of_insert, if_neg (absent p mem_cons_self)]

theorem of_rename_of_mem (distinct : (names.map Prod.fst).Nodup)
  {p : SocketId × String} (mem : p ∈ names) : (vs.rename names).of p.1 = p.2 := by
 induction names generalizing vs with
 | nil => cases mem
 | cons q names ih =>
  obtain ⟨fresh, distinct⟩ := nodup_cons.mp distinct
  rcases mem_cons.mp mem with rfl | mem
  · change (Variables.rename (vs.insert p.1.index p.2) names).of p.1 = _
    rw [of_rename_of_not_mem _ (by grind), of_insert, if_pos rfl]
  · exact ih _ distinct mem

theorem rename_cases (distinct : (names.map Prod.fst).Nodup) (s : SocketId) : (s, (vs.rename names).of s) ∈ names ∨
   (∀ p ∈ names, p.1 ≠ s) ∧ (vs.rename names).of s = vs.of s := by
 by_cases known : ∃ p ∈ names, p.1 = s
 · obtain ⟨p, mem, rfl⟩ := known
   exact .inl (of_rename_of_mem vs distinct mem ▸ mem)
 · exact .inr ⟨by grind, of_rename_of_not_mem vs (by grind)⟩

theorem of_rename_perm {names' : List (SocketId × String)} (perm : names.Perm names')
  (distinct : (names'.map Prod.fst).Nodup) (s : SocketId) : (vs.rename names).of s = (vs.rename names').of s := by
 rcases rename_cases vs ((perm.map _).nodup_iff.mpr distinct) s with mem | ⟨absent, name⟩
 · exact (of_rename_of_mem vs distinct (perm.mem_iff.mp mem)).symm
 · exact name.trans (of_rename_of_not_mem vs fun p mem => absent p (perm.mem_iff.mpr mem)).symm

theorem rename_induction {P : String → Prop} (vs : Variables)
  (before : ∀ s, P (vs.of s)) (new : ∀ p ∈ names, P p.2) (s : SocketId) : P ((vs.rename names).of s) := by
 induction names generalizing vs with
 | nil => exact before s
 | cons p names ih => exact ih _ (fun t => by grind [of_insert]) fun q mem => new q (by simp [mem])

end Variables

namespace Code

/-- A name that ends like the name of a copied or of a converted value. -/
def Marked (x : String) : Prop := ∃ y, x = y ++ "_copy" ∨ x = y ++ "_converted"

theorem copy_ne_converted (x y : String) : x ++ "_copy" ≠ y ++ "_converted" := by
 intro same
 have last := congrArg (fun s : String => s.toList.getLast?) same
 simp at last

theorem unmarked_of_digit {x : String} (front back : Chars) {d : Char}
  (shape : x.toList = front ++ d :: back) (digit : d.isDigit) (short : back.length ≤ 4) : ¬ Marked x := by
 have found : x.toList.reverse[back.length]? = some d := by
  rw [shape, reverse_append, reverse_cons, append_assoc, ← length_reverse,
   getElem?_append_right (Nat.le_refl _)]
  simp
 have ends : ∀ y mark : String, 5 ≤ mark.toList.length → (∀ c ∈ mark.toList, ¬ c.isDigit) → x ≠ y ++ mark := by
  rintro y mark long plain rfl
  rw [String.toList_append, reverse_append,
   getElem?_append_left (by rw [length_reverse]; omega)] at found
  exact plain d (mem_reverse.mp (mem_of_getElem? found)) digit
 rintro ⟨y, marked | marked⟩
 · exact ends y "_copy" (by simp) (by simp) marked
 · exact ends y "_converted" (by simp) (by simp) marked

theorem exists_last_digit (k : Nat) : ∃ front d, (toString k).toList = front ++ [d] ∧ d.isDigit := by
 have digits : (toString k).toList = Nat.toDigits 10 k := Nat.toList_repr
 refine ⟨_, _, digits.trans (dropLast_append_getLast (@Nat.toDigits_ne_nil k 10)).symm, ?_⟩
 exact Nat.isDigit_of_mem_toDigits (by decide) (by decide) (getLast_mem Nat.toDigits_ne_nil)

theorem numbered_unmarked (text : String) (k : Nat) : ¬ Marked (text ++ toString k) := by
 obtain ⟨front, d, shape, digit⟩ := exists_last_digit k
 exact unmarked_of_digit (text.toList ++ front) [] (by rw [String.toList_append, shape, append_assoc]) digit
  (by simp)

theorem nodup_numbered (text : String) {indices : List Nat} (distinct : indices.Nodup) :
  (indices.map fun i => text ++ toString i).Nodup :=
 distinct.map fun _ _ same => Nat.repr_injective ((String.append_right_inj _).mp same)

theorem firstName_unmarked (node : String) (k : Nat) (s : SocketView) : ¬ Marked (firstName node k s) := by
 unfold firstName
 split
 · exact numbered_unmarked _ k
 · obtain ⟨front, d, shape, digit⟩ := exists_last_digit k
   refine unmarked_of_digit (("__socket_" ++ (if s.isOutput then "True" else "False") ++ "_").toList ++ front)
    (node.toList.take 4) ?_ digit (length_take_le 4 _)
   simp only [String.toList_append, shape, String.toList_ofList, append_assoc, singleton_append]

theorem Variables.mem_firstNames {nodes : List NodeView} (isNode : n ∈ nodes)
  (here : (n.inputs ++ n.outputs)[k]? = some s) :
  (s.id, firstName n.identifier k s) ∈ nodes.flatMap firstNames :=
 mem_flatMap.mpr ⟨n, isNode, mem_map.mpr ⟨(s, k), mk_mem_zipIdx_iff_getElem?.mpr here, rfl⟩⟩

theorem initial_induction {P : String → Prop} (blank : P "") (first : ∀ node k s, P (firstName node k s))
  (nodes : List NodeView) (s : SocketId) : P ((initial nodes).of s) := by
 refine rename_induction {} (fun s => by simpa [Variables.of] using blank) (fun p mem => ?_) s
 obtain ⟨n, _, mine⟩ := mem_flatMap.mp mem
 obtain ⟨q, _, rfl⟩ := mem_map.mp mine
 exact first _ _ _

theorem initial_unmarked (nodes : List NodeView) (s : SocketId) : ¬ Marked ((initial nodes).of s) := by
 refine initial_induction (P := fun x => ¬ Marked x) ?_ firstName_unmarked nodes s
 rintro ⟨y, marked | marked⟩ <;> simp at marked

/-- Names that a function gives to some sockets: none is marked, and none looks like a first name. -/
structure Labels (names : List (SocketId × String)) : Prop where
 keys : (names.map Prod.fst).Nodup
 values : (names.map Prod.snd).Nodup
 plain : ∀ p ∈ names, ¬ Marked p.2 ∧ p.2 ≠ "" ∧ p.2.toList.head? ≠ some '_'

theorem Labels.unmarked (labels : Labels names) (nodes : List NodeView)
  (s : SocketId) : ¬ Marked (((initial nodes).rename names).of s) :=
 rename_induction (P := fun x => ¬ Marked x) _ (initial_unmarked nodes)
  (fun p mem => (labels.plain p mem).1) s

theorem Labels.ne_initial (labels : Labels names) (nodes : List NodeView)
  (mem : p ∈ names) (s : SocketId) : (initial nodes).of s ≠ p.2 := by
 obtain ⟨_, filled, head⟩ := labels.plain p mem
 refine initial_induction (P := fun x => x ≠ p.2) filled.symm (fun node j s same => head ?_) nodes s
 rw [← same]
 unfold firstName
 split <;> simp

theorem Labels.ne (labels : Labels names) (nodes : List NodeView)
  (mem : p ∈ names) (other : s ≠ p.1) :
  ((initial nodes).rename names).of s ≠ p.2 := by
 intro same
 rcases rename_cases (initial nodes) labels.keys s with isKey | ⟨_, name⟩
 · exact other (congrArg Prod.fst (inj_on_of_nodup_map labels.values isKey mem same))
 · exact labels.ne_initial nodes mem s (name.symm.trans same)

theorem Labels.injective (labels : Labels names) {nodes : List NodeView}
  (distinct : ((sockets nodes).map fun s => (initial nodes).of s.id).Nodup) :
  ∀ s ∈ sockets nodes, ∀ t ∈ sockets nodes, ((initial nodes).rename names).of s.id =
   ((initial nodes).rename names).of t.id → s.id = t.id := by
 intro s first t second same
 by_contra other
 rcases rename_cases (initial nodes) labels.keys s.id with isKey | ⟨_, name⟩
 · exact labels.ne nodes isKey (Ne.symm other) same.symm
 rcases rename_cases (initial nodes) labels.keys t.id with isKey | ⟨_, name'⟩
 · exact labels.ne nodes isKey other same
 · exact other (congrArg SocketView.id (inj_on_of_nodup_map distinct first second
    (name.symm.trans (same.trans name'))))

variable (nodes : List NodeView)

/-- A socket that still gets its value when these nodes run. -/
def Unwritten (s : SocketId) : Prop :=
 (∃ o ∈ outputs nodes, o.id = s) ∨ ∃ h ∈ links nodes, h.2.id = s

theorem Unwritten.cons {nodes : List NodeView} (n : NodeView) :
  Unwritten nodes s → Unwritten (n :: nodes) s
 | .inl ⟨o, mem, id⟩ => .inl ⟨o, by grind, id⟩
 | .inr ⟨h, mem, id⟩ => .inr ⟨h, by grind, id⟩

/-- A socket that still goes by its first name. -/
def Plain (s : SocketId) : Prop :=
 Unwritten nodes s ∨ ∃ i ∈ inputs nodes, i.isLinked = false ∧ i.id = s

theorem plain_of_unlinked {rest : List NodeView} (isInput : i ∈ n.inputs)
  (unlinked : i.isLinked = false) : Plain (n :: rest) i.id := .inr ⟨i, by grind, unlinked, rfl⟩

/-- An input of a node that is still to run, with its value already there. -/
def Ready (i : SocketView) : Prop := i ∈ inputs nodes ∧ ∀ h ∈ links nodes, h.2.id ≠ i.id

theorem Unwritten.ne_ready {nodes : List NodeView} (ids : ((sockets nodes).map (·.id)).Nodup)
  (unwritten : Unwritten nodes s) (ready : Ready nodes i) : s ≠ i.id := by
 rcases unwritten with ⟨o, isOutput, rfl⟩ | ⟨h, mem, rfl⟩
 · exact (input_ne_output ids ready.1 isOutput).symm
 · exact ready.2 h mem

/-- The node changes the object that is handed to this input. -/
def Owner (i : SocketView) : Prop := changes i = true ∧ i.isLinked = true ∧ (conversionCode? i).isSome = false

@[grind =] theorem copiesOwn_iff : copiesOwn i = true ↔ changes i = true ∧ i.isLinked = false := by
 simp [copiesOwn, changes]

/-- What is known about names when these nodes are still to run. -/
structure Labelled (nodes : List NodeView) (vs : Variables) : Prop where
 plain : ∀ s, Plain nodes s → ¬ Marked (vs.of s)
 apart : ∀ s t, Plain nodes s → Plain nodes t → vs.of s = vs.of t → s = t
 fresh : ∀ s i, Unwritten nodes s → Ready nodes i → vs.of s ≠ vs.of i.id
 copy : ∀ i j, i ∈ inputs nodes → i.isLinked = false → Ready nodes j → vs.of i.id ++ "_copy" ≠ vs.of j.id

/-- An input whose object is changed has its variable for itself. -/
structure Named (nodes : List NodeView) (vs : Variables) : Prop extends Labelled nodes vs where
 alone : ∀ i j, Ready nodes i → Ready nodes j → Owner i → vs.of i.id = vs.of j.id → i = j

def convertedName (vs : Variables) (i : SocketView) : String :=
 if (conversionCode? i).isSome then vs.of i.id ++ "_converted" else vs.of i.id

/-- No conversion before a node writes to the variable of another input that is still to be read. -/
structure Calm (n : NodeView) (behind : List NodeView) (vs : Variables) : Prop where
 within : n.inputs.Pairwise fun i j => ((conversionCode? i).isSome → convertedName vs i ≠ vs.of j.id) ∧
  ((conversionCode? j).isSome → convertedName vs j ≠ convertedName vs i)
 beyond : ∀ i ∈ n.inputs, (conversionCode? i).isSome → ∀ j ∈ inputs behind, convertedName vs i ≠ vs.of j.id

instance (n : NodeView) (behind : List NodeView) (vs : Variables) : Decidable (Calm n behind vs) :=
 decidable_of_iff ((n.inputs.Pairwise fun i j => ((conversionCode? i).isSome → convertedName vs i ≠ vs.of j.id) ∧
   ((conversionCode? j).isSome → convertedName vs j ≠ convertedName vs i)) ∧
  ∀ i ∈ n.inputs, (conversionCode? i).isSome → ∀ j ∈ inputs behind, convertedName vs i ≠ vs.of j.id)
  ⟨fun ⟨a, b⟩ => ⟨a, b⟩, fun ⟨a, b⟩ => ⟨a, b⟩⟩

theorem Calm.converted_ne (calm : Calm n behind vs)
  (first : i ∈ n.inputs) (second : j ∈ n.inputs) (ne : i ≠ j)
  (coded : (conversionCode? i).isSome) : convertedName vs i ≠ convertedName vs j := by
 let Apart := fun i j => ((conversionCode? i).isSome → convertedName vs i ≠ convertedName vs j) ∧
  ((conversionCode? j).isSome → convertedName vs j ≠ convertedName vs i)
 have : Std.Symm Apart := ⟨fun _ _ apart => apart.symm⟩
 have both : n.inputs.Pairwise Apart := calm.within.imp fun before => by grind [convertedName]
 exact (both.forall first second ne).1 coded

section

variable (arranged : Arranged (n :: rest)) (honest : Honest n) (vs : Variables)

include arranged

theorem uncoded_of_unlinked (isInput : i ∈ n.inputs) (unlinked : i.isLinked = false) : conversionCode? i = none := by
 simp [conversionCode?, arranged.free i (by grind) unlinked]

@[grind →]
theorem ready_of_input (isInput : i ∈ n.inputs) : Ready (n :: rest) i := by
 refine ⟨by grind, fun h mem same => ?_⟩
 obtain ⟨j, behind, fits⟩ := arranged.fits mem
 grind [arranged.ids, fits.id]

include honest

theorem preparation_names : (∀ i ∈ n.inputs, (preparation n vs).2.of i.id = preparedName vs i) ∧
   (∀ p ∈ n.passes, (preparation n vs).2.of p.2.id = preparedName vs p.1) ∧
   ∀ s, (∀ i ∈ n.inputs, i.id ≠ s) → (∀ p ∈ n.passes, p.2.id ≠ s) → (preparation n vs).2.of s = vs.of s := by
 have distinct : (((n.inputs.map fun s => (s.id, preparedName vs s))
   ++ n.passes.map fun p => (p.2.id, preparedName vs p.1)).map Prod.fst).Nodup := by
  have ids := arranged.ids
  have sides : ∀ i ∈ n.inputs, ∀ p ∈ n.passes, i.id ≠ p.2.id := by grind
  simp only [map_append, map_map, Function.comp_def]
  grind [honest.distinct]
 refine ⟨fun i mem => ?_, fun p mem => ?_, fun s notInput notPassed => ?_⟩
 · exact of_rename_of_mem vs distinct (p := (i.id, preparedName vs i)) (by grind)
 · exact of_rename_of_mem vs distinct (p := (p.2.id, preparedName vs p.1)) (by grind)
 · exact of_rename_of_not_mem vs (by grind)

omit honest in
theorem delivery_names (names : Variables) :
  (∀ h ∈ handovers n, getsCopy h = false → (delivery n names).2.of h.2.id = names.of h.1.id) ∧
   ∀ s, (∀ h ∈ handovers n, getsCopy h = false → h.2.id ≠ s) → (delivery n names).2.of s = names.of s := by
 have single := arranged.single
 rw [links_cons, map_append] at single
 have distinct : ((((handovers n).filter (!getsCopy ·)).map fun h => (h.2.id, names.of h.1.id)).map Prod.fst).Nodup := by
  rw [map_map]
  exact single.of_append_left.sublist (filter_sublist.map _)
 refine ⟨fun h mem shared => ?_, fun s others => ?_⟩
 · exact of_rename_of_mem names distinct (p := (h.2.id, names.of h.1.id)) (by grind)
 · exact of_rename_of_not_mem names (by grind)

theorem names_of_output (isOutput : o ∈ n.outputs) : (o ∈ ownOutputs n ∧ (preparation n vs).2.of o.id = vs.of o.id) ∨
   ∃ p ∈ n.passes, p.2.id = o.id ∧ (preparation n vs).2.of o.id = preparedName vs p.1 := by
 obtain ⟨_, passed, other⟩ := preparation_names arranged honest vs
 have ids := arranged.ids
 by_cases own : ∀ p ∈ n.passes, p.2.id ≠ o.id
 · exact .inl ⟨by grind [ownOutputs], other o.id (by grind) own⟩
 · grind

theorem names_behind (behind : j ∈ sockets rest) : (∃ h ∈ handovers n, h.2.id = j.id ∧ getsCopy h = false ∧
    (nodeStatements n vs).2.of j.id = (preparation n vs).2.of h.1.id) ∨
   ((∀ h ∈ handovers n, h.2.id = j.id → getsCopy h = true) ∧ (nodeStatements n vs).2.of j.id = vs.of j.id) := by
 obtain ⟨_, _, other⟩ := preparation_names arranged honest vs
 obtain ⟨shared, kept⟩ := delivery_names arranged (preparation n vs).2
 have ids := arranged.ids
 by_cases handed : ∃ h ∈ handovers n, h.2.id = j.id ∧ getsCopy h = false
 · obtain ⟨h, mem, id, copied⟩ := handed
   exact .inl ⟨h, mem, id, copied, id ▸ shared h mem copied⟩
 · exact .inr ⟨by grind, (kept j.id (by grind)).trans (other j.id (by grind) (by grind))⟩

theorem plain_behind (plain : Plain rest s) :
  Plain (n :: rest) s ∧ (∀ o ∈ n.outputs, s ≠ o.id) ∧ (nodeStatements n vs).2.of s = vs.of s := by
 have single := arranged.single
 have found : ∃ j ∈ sockets rest, j.id = s ∧ ∀ h ∈ handovers n, h.2.id ≠ j.id := by
  rcases plain with (⟨o, isOutput, rfl⟩ | ⟨h, mem, rfl⟩) | ⟨i, isInput, unlinked, rfl⟩
  · refine ⟨o, by grind, rfl, fun h mem => ?_⟩
    obtain ⟨j, behind, fits⟩ := arranged.fits (h := h) (by grind)
    exact fits.id ▸ input_ne_output arranged.tail.ids behind isOutput
  · obtain ⟨j, behind, fits⟩ := arranged.fits (h := h) (by grind)
    exact ⟨j, by grind, fits.id, by grind [fits.id]⟩
  · refine ⟨i, by grind, rfl, fun h mem same => ?_⟩
    obtain ⟨j, behind, fits⟩ := arranged.fits (h := h) (by grind)
    have equal : j = i := inj_on_of_nodup_map arranged.tail.ids (by grind) (by grind) (fits.id.trans same)
    simp [← equal, fits.linked] at unlinked
 obtain ⟨j, behind, rfl, unhanded⟩ := found
 refine ⟨?_, by grind [arranged.ids], ?_⟩
 · rcases plain with unwritten | ⟨i, isInput, unlinked, id⟩
   · exact .inl (unwritten.cons n)
   · exact .inr ⟨i, by grind, unlinked, id⟩
 · rcases names_behind arranged honest vs behind with ⟨h, mem, same, _⟩ | ⟨_, kept⟩
   · exact absurd same (unhanded h mem)
   · exact kept

/-- An input behind a node that is ready now shares the variable of an output, has got a copy, or was
ready before. -/
theorem ready_behind (ready : Ready rest j) : (∃ h ∈ handovers n, h.2.id = j.id ∧ getsCopy h = false ∧
    (nodeStatements n vs).2.of j.id = (preparation n vs).2.of h.1.id) ∨
   ((∃ h ∈ handovers n, h.2.id = j.id ∧ getsCopy h = true) ∧ (nodeStatements n vs).2.of j.id = vs.of j.id) ∨
   (Ready (n :: rest) j ∧ (nodeStatements n vs).2.of j.id = vs.of j.id) := by
 rcases names_behind arranged honest vs (mem_sockets.mpr (.inl ready.1)) with shared | ⟨copied, kept⟩
 · exact .inl shared
 · by_cases handed : ∃ h ∈ handovers n, h.2.id = j.id
   · obtain ⟨h, mem, id⟩ := handed
     exact .inr (.inl ⟨⟨h, mem, id, copied h mem id⟩, kept⟩)
   · refine .inr (.inr ⟨⟨by grind [ready.1], fun h mem => ?_⟩, kept⟩)
     have behind := ready.2 h
     grind

end

section

variable (arranged : Arranged (n :: rest)) (honest : Honest n)

namespace Labelled

variable (named : Labelled (n :: rest) vs)

include named arranged

theorem prepared_fresh (isInput : i ∈ n.inputs) (unwritten : Unwritten (n :: rest) s) :
  vs.of s ≠ preparedName vs i := by
 have plain := named.plain s (.inl unwritten)
 have fresh := named.fresh s i unwritten (ready_of_input arranged isInput)
 grind [preparedName, Marked]

theorem prepared_copy (isInput : i ∈ n.inputs) (behind : j ∈ inputs rest)
  (unlinked : j.isLinked = false) : vs.of j.id ++ "_copy" ≠ preparedName vs i := by
 have copy := named.copy j i (by grind) unlinked (ready_of_input arranged isInput)
 have apart := named.apart j.id i.id (.inr ⟨j, by grind, unlinked, rfl⟩)
 have ids := arranged.ids
 unfold preparedName
 split
 · exact copy_ne_converted _ _
 · split
   · rw [ne_eq, String.append_left_inj]
     grind [plain_of_unlinked isInput]
   · exact copy

include honest

theorem output_fresh (isOutput : o ∈ n.outputs) (unwritten : Unwritten (n :: rest) s)
  (ne : s ≠ o.id) : vs.of s ≠ (preparation n vs).2.of o.id := by
 have apart := named.apart s o.id (.inl unwritten) (.inl (.inl ⟨o, by grind, rfl⟩))
 rcases names_of_output arranged honest vs isOutput with ⟨_, own⟩ | ⟨p, isPassed, _, passed⟩
 · grind
 · rw [passed]
   exact named.prepared_fresh arranged (mem_of_mem_passes isPassed).1 unwritten

theorem output_copy (isOutput : o ∈ n.outputs) (behind : j ∈ inputs rest)
  (unlinked : j.isLinked = false) : vs.of j.id ++ "_copy" ≠ (preparation n vs).2.of o.id := by
 have plain := named.plain o.id (.inl (.inl ⟨o, by grind, rfl⟩))
 rcases names_of_output arranged honest vs isOutput with ⟨_, own⟩ | ⟨p, isPassed, _, passed⟩
 · grind [Marked]
 · rw [passed]
   exact named.prepared_copy arranged (mem_of_mem_passes isPassed).1 behind unlinked

theorem step : Labelled rest (nodeStatements n vs).2 := by
 have later := fun {s} => plain_behind arranged honest vs (s := s)
 have ids := arranged.tail.ids
 refine ⟨fun s plain => ?_, fun s t first second same => ?_, fun s j unwritten ready same => ?_,
  fun i j isInput unlinked ready same => ?_⟩
 · rw [(later plain).2.2]
   exact named.plain s (later plain).1
 · rw [(later first).2.2, (later second).2.2] at same
   exact named.apart s t (later first).1 (later second).1 same
 · obtain ⟨_, others, kept⟩ := later (.inl unwritten)
   have before := unwritten.cons n
   rcases ready_behind arranged honest vs ready with ⟨h, mem, _, _, name⟩ | ⟨⟨h, mem, id, _⟩, name⟩ | ⟨ready', name⟩
   · have isOutput := (mem_of_mem_handovers mem).1
     exact named.output_fresh arranged honest isOutput before (others h.1 isOutput) (kept ▸ same.trans name)
   · refine unwritten.ne_ready ids ready (named.apart s j.id (.inl before) (.inl (.inr ⟨h, by grind, id⟩)) ?_)
     exact kept ▸ same.trans name
   · exact named.fresh s j before ready' (kept ▸ same.trans name)
 · obtain ⟨_, _, kept⟩ := later (.inr ⟨i, isInput, unlinked, rfl⟩)
   rw [kept] at same
   rcases ready_behind arranged honest vs ready with ⟨h, mem, _, _, name⟩ | ⟨⟨h, mem, id, _⟩, name⟩ | ⟨ready', name⟩
   · exact named.output_copy arranged honest (mem_of_mem_handovers mem).1 isInput unlinked (same.trans name)
   · exact named.plain j.id (.inl (.inr ⟨h, by grind, id⟩)) ⟨_, .inl (same.trans name).symm⟩
   · exact named.copy i j (by grind) unlinked ready' (same.trans name)

end Labelled

namespace Named

variable (named : Named (n :: rest) vs)

include named arranged honest

omit named honest in
/-- Where an object is handed as it is to an input of a type that can be copied, it comes from an output of
such a type. -/
theorem copyable_of_handed (mem : h ∈ handovers n)
  (behind : i ∈ inputs rest) (id : h.2.id = i.id) (copyable : i.type.copy.isSome)
  (uncoded : (conversionCode? i).isSome = false) : h.1.type.copy.isSome ∧ h.2.modified = i.modified := by
 obtain ⟨j, isInput, fits⟩ := arranged.fits (h := h) (by grind)
 have equal : j = i := inj_on_of_nodup_map arranged.tail.ids (by grind) (by grind) (fits.id.trans id)
 subst equal
 refine ⟨copyable_of_accepted ?_ ?_ fits.accepted ?_ copyable, fits.modified.symm⟩
 · exact arranged.typed h.1 (by grind)
 · exact arranged.typed j (by grind)
 · by_cases same : h.1.type.name = j.type.name
   · exact .inl same
   · exact .inr (by simpa [conversionCode?, fits.origin, same] using uncoded)

omit named honest in
theorem copyable_of_owner (mem : h ∈ handovers n)
  (behind : i ∈ inputs rest) (id : h.2.id = i.id) (owner : Owner i) : h.1.type.copy.isSome ∧ h.2.modified := by
 obtain ⟨changed, _, uncoded⟩ := owner
 simp only [changes, Bool.and_eq_true] at changed
 obtain ⟨copyable, same⟩ := copyable_of_handed arranged mem behind id changed.2 uncoded
 exact ⟨copyable, same.trans changed.1⟩

variable (calm : Calm n rest vs)

include calm

omit honest in
/-- The name under which a node changes an object is the name of no other input. -/
theorem prepared_alone (isInput : i ∈ n.inputs) (new : (conversionCode? i).isSome ∨ changes i) :
  (∀ j ∈ n.inputs, preparedName vs i = preparedName vs j → i = j) ∧
   ∀ j ∈ inputs rest, Ready (n :: rest) j → preparedName vs i ≠ vs.of j.id := by
 have here := ready_of_input arranged isInput
 have ids := arranged.ids
 have copy := copy_ne_converted
 refine ⟨fun j other same => ?_, fun j behind ready => ?_⟩
 · by_contra ne
   have calm := calm.converted_ne isInput other ne
   have back := Calm.converted_ne ‹_› other isInput (Ne.symm ne)
   have there := ready_of_input arranged other
   have := named.alone i j here there
   have := fun unlinked => named.copy i j (by grind) unlinked there
   have := fun unlinked => named.copy j i (by grind) unlinked here
   have := named.apart i.id j.id
   have : i.id ≠ j.id := fun same => ne (inj_on_of_nodup_map ids (by grind) (by grind) same)
   grind [preparedName, convertedName, Owner, plain_of_unlinked isInput, plain_of_unlinked other,
    String.append_left_inj]
 · have := fun coded => calm.beyond i isInput coded j behind
   have := named.alone i j here ready
   have := fun unlinked => named.copy i j (by grind) unlinked ready
   grind [preparedName, convertedName, Owner]

theorem output_alone (isOutput : o ∈ n.outputs) (copyable : o.type.copy.isSome) :
  (∀ q ∈ n.outputs, (preparation n vs).2.of o.id = (preparation n vs).2.of q.id → o.id = q.id) ∧
   ∀ j ∈ inputs rest, Ready (n :: rest) j → (preparation n vs).2.of o.id ≠ vs.of j.id := by
 have unwritten : ∀ q ∈ n.outputs, Unwritten (n :: rest) q.id := fun q mem => .inl ⟨q, by grind, rfl⟩
 rcases names_of_output arranged honest vs isOutput with ⟨_, own⟩ | ⟨p, isPassed, id, passed⟩
 · rw [own]
   refine ⟨fun q other same => ?_, fun j _ ready => named.fresh o.id j (unwritten o isOutput) ready⟩
   by_contra ne
   exact named.output_fresh arranged honest other (unwritten o isOutput) ne same
 · have equal : p.2 = o := inj_on_of_nodup_map arranged.ids (by grind) (by grind) id
   have alone := named.prepared_alone arranged calm (mem_of_mem_passes isPassed).1
    (.inr (honest.owned p isPassed (equal ▸ copyable)))
   rw [passed]
   refine ⟨fun q other same => ?_, alone.2⟩
   rcases names_of_output arranged honest vs other with ⟨_, own⟩ | ⟨r, also, id', passed'⟩
   · exact absurd (own ▸ same).symm (named.prepared_fresh arranged (mem_of_mem_passes isPassed).1 (unwritten q other))
   · have inputs := alone.1 r.1 (mem_of_mem_passes also).1 (passed' ▸ same)
     rw [← id, ← id', honest.once p isPassed r also (equal ▸ copyable) (congrArg SocketView.id inputs)]

theorem owner_ne_output (behind : i ∈ inputs rest) (ready : Ready (n :: rest) i) (owner : Owner i)
  (isOutput : o ∈ n.outputs) : vs.of i.id ≠ (preparation n vs).2.of o.id := by
 rcases names_of_output arranged honest vs isOutput with ⟨_, own⟩ | ⟨p, isPassed, _, passed⟩
 · rw [own]
   exact (named.fresh o.id i (.inl ⟨o, by grind, rfl⟩) ready).symm
 · have isInput := (mem_of_mem_passes isPassed).1
   have := fun coded => calm.beyond p.1 isInput coded i behind
   have := fun unlinked => named.copy p.1 i (by grind) unlinked ready
   have := named.alone i p.1 ready (ready_of_input arranged isInput) owner
   have : i ≠ p.1 := by
    have ids := arranged.ids
    grind
   grind [preparedName, convertedName]

theorem alone_behind (first : Ready rest i) (second : Ready rest j) (owner : Owner i)
  (same : (nodeStatements n vs).2.of i.id = (nodeStatements n vs).2.of j.id) : i = j := by
 have equal : i.id = j.id → i = j := inj_on_of_nodup_map arranged.tail.ids (by grind [first.1]) (by grind [second.1])
 have handed {j : SocketView} {h : SocketView × TargetView} (mem : h ∈ handovers n) (id : h.2.id = j.id) :
   Unwritten (n :: rest) j.id := .inr ⟨h, by grind, id⟩
 have input_ne {j : SocketView} (ready : Ready rest j) {o : SocketView} (isOutput : o ∈ n.outputs) : j.id ≠ o.id := by
  grind [arranged.ids, ready.1]
 rcases ready_behind arranged honest vs first with ⟨h, mem, id, copied, name⟩ | ⟨⟨h, mem, id, _⟩, name⟩ | ⟨ready, name⟩
 <;> rcases ready_behind arranged honest vs second with
  ⟨h', mem', id', copied', name'⟩ | ⟨⟨h', mem', id', _⟩, name'⟩ | ⟨ready', name'⟩
 <;> rw [name, name'] at same
 · obtain ⟨isOutput, isTarget⟩ := mem_of_mem_handovers mem
   obtain ⟨isOutput', isTarget'⟩ := mem_of_mem_handovers mem'
   obtain ⟨copyable, modified⟩ := copyable_of_owner arranged mem first.1 id owner
   have origin : h.1 = h'.1 := inj_on_of_nodup_map arranged.ids (by grind) (by grind)
    ((named.output_alone arranged honest calm isOutput copyable).1 h'.1 isOutput' same)
   have target := eq_of_not_copied copyable isTarget (origin ▸ isTarget') modified (by grind [getsCopy])
    (by grind [getsCopy])
   exact equal (by rw [← id, ← id', target])
 · have isOutput := (mem_of_mem_handovers mem).1
   exact absurd same.symm (named.output_fresh arranged honest isOutput (handed mem' id') (input_ne second isOutput))
 · have copyable := (copyable_of_owner arranged mem first.1 id owner).1
   exact absurd same ((named.output_alone arranged honest calm (mem_of_mem_handovers mem).1 copyable).2 j second.1 ready')
 · have isOutput := (mem_of_mem_handovers mem').1
   exact absurd same (named.output_fresh arranged honest isOutput (handed mem id) (input_ne first isOutput))
 · exact equal (named.apart i.id j.id (.inl (handed mem id)) (.inl (handed mem' id')) same)
 · exact absurd same (named.fresh i.id j (handed mem id) ready')
 · exact absurd same (named.owner_ne_output arranged honest calm first.1 ready owner (mem_of_mem_handovers mem').1)
 · exact absurd same.symm (named.fresh j.id i (handed mem' id') ready)
 · exact named.alone i j ready ready' owner same

theorem step : Named rest (nodeStatements n vs).2 :=
 ⟨named.toLabelled.step arranged honest, fun _ _ => named.alone_behind arranged honest calm⟩

end Named
end
end Code
end AnimationGraph
