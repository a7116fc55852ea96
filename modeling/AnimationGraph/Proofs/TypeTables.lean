import AnimationGraph.DataType
import AnimationGraph.Proofs.Forest.Keys
import Mathlib.Data.List.Pairwise
import Mathlib.Data.Option.Basic

/-! # The tables of types

The tables are filled type by type.  Inputs that take every type share one set, which may still grow when the targets of its
types are entered already.  As it does not, both tables hold one relation, whatever the order of the types is: an input
takes a type exactly if it is a target of this type (`tables_converse`).
-/

namespace AnimationGraph.TypeFamily

open List

/-- No two types share a name, and whatever inputs take or conversions start from is a type of the family. -/
structure Closed (f : TypeFamily) : Prop where
 distinct : f.types.Pairwise fun s t => ∀ k ∈ s.keys, k ∉ t.keys
 accepted : ∀ t ∈ f.types, t.takesAll ∨ ∀ x ∈ t.accepts.getD [], x ∈ f.types.map (·.name)
 converted : ∀ c ∈ f.conversions, c.source ∈ f.types.map (·.name)

theorem mem_names : x ∈ names f ↔ ∃ t ∈ f.types, t.name = x := by
 simp [names]

namespace Closed

variable (closed : Closed f)

include closed

theorem eq_of_key (hs : s ∈ f.types) (ht : t ∈ f.types) (first : k ∈ s.keys) (second : k ∈ t.keys) : s = t := by
 have symmetric : Std.Symm fun s t : DataType => ∀ k ∈ s.keys, k ∉ t.keys :=
  ⟨fun _ _ apart k second first => apart k first second⟩
 by_contra other
 exact closed.distinct.forall hs ht other k first second

theorem find?_eq_some_iff : f.find? k = some t ↔ t ∈ f.types ∧ k ∈ t.keys := by
 constructor
 · intro found
   exact ⟨mem_of_find?_eq_some found, by simpa using List.find?_some found⟩
 · rintro ⟨mem, key⟩
   cases found : f.find? k with
   | none => simpa [key] using find?_eq_none.mp found t mem
   | some s =>
    rw [closed.eq_of_key (mem_of_find?_eq_some found) mem (by simpa using List.find?_some found) key]

/-- Conversions add nothing to the set of all types. -/
theorem sortedSet_names (t : String) (all : ∀ x, x ∈ xs ↔ x ∈ f.names) : sortedSet (xs ++ f.convertible t) = f.names := by
 refine sortedSet_eq_iff.mpr fun x => ?_
 rw [mem_append, all, names, mem_sortedSet, or_iff_left_of_imp]
 simp only [convertible, mem_map, mem_filter]
 rintro ⟨c, ⟨mem, _⟩, rfl⟩
 simpa using closed.converted c mem

theorem acceptedBy_all (all : t.takesAll) : f.acceptedBy t = f.names := by
 rw [acceptedBy, if_pos all]
 exact closed.sortedSet_names t.name (by simp [names])

theorem acceptedBy_subset (mem : t ∈ f.types) : f.acceptedBy t ⊆ f.names := by
 by_cases all : t.takesAll
 · rw [closed.acceptedBy_all all]
   exact Subset.refl _
 · intro x taken
   rw [acceptedBy, if_neg all, mem_sortedSet, mem_append] at taken
   rw [← closed.sortedSet_names t.name fun _ => Iff.rfl, mem_sortedSet, mem_append]
   refine taken.imp_left fun direct => ?_
   have listed := (closed.accepted t mem).resolve_left all
   cases given : t.accepts with
   | none => exact mem_names.mpr ⟨t, mem, by simpa [given, eq_comm] using direct⟩
   | some types => simpa [names] using listed x (by simpa [given] using direct)

theorem mem_filterMap_acceptedBy (mem : t ∈ f.types) :
  s ∈ (f.acceptedBy t).filterMap f.find? ↔ s ∈ f.types ∧ s.name ∈ f.acceptedBy t := by
 simp only [mem_filterMap, closed.find?_eq_some_iff]
 constructor
 · rintro ⟨x, taken, hs, key⟩
   obtain ⟨named, hn, rfl⟩ := mem_names.mp (closed.acceptedBy_subset mem taken)
   obtain rfl := closed.eq_of_key hn hs mem_cons_self key
   exact ⟨hs, taken⟩
 · rintro ⟨hs, taken⟩
   exact ⟨s.name, taken, hs, mem_cons_self⟩

end Closed

/-- What the tables hold once the types of `done` are entered. -/
structure Entered (f : TypeFamily) (done : List DataType) (tables : TypeTables) : Prop where
 every : tables.every = f.names
 inputs : ∀ s ∈ done, ∀ k ∈ s.keys, tables.inputTypes? k = some (f.acceptedBy s)
 targets : ∀ t ∈ f.types, ∀ k ∈ t.keys, ∀ x,
  (k, x) ∈ tables.targets ↔ ∃ s ∈ done, s.name = x ∧ t.name ∈ f.acceptedBy s

theorem lookup_keys (t : DataType) (own : Option Texts) (rest : List (String × Option Texts)) (k : String) :
  (t.keys.map (·, own) ++ rest).lookup k = if k ∈ t.keys then some own else rest.lookup k := by
 simp only [DataType.keys, map_cons, map_nil, cons_append, nil_append, lookup_cons, mem_cons, not_mem_nil, or_false]
 grind

namespace Entered

variable (closed : Closed f) (entered : Entered f done tables) (before : done ⊆ f.types)

include closed entered

theorem enter_eq (mem : t ∈ f.types) :
  ∃ own : Option Texts, own.getD f.names = f.acceptedBy t ∧ f.enter tables t = some {
   every := f.names, inputs := t.keys.map (·, own) ++ tables.inputs,
   targets := ((f.acceptedBy t).filterMap f.find?).flatMap (fun s => s.keys.map (·, t.name)) ++ tables.targets } := by
 have known : (f.acceptedBy t).all fun x => (f.find? x).isSome := by
  rw [all_eq_true]
  intro x taken
  obtain ⟨s, hs, rfl⟩ := mem_names.mp (closed.acceptedBy_subset mem taken)
  exact Option.isSome_of_mem (closed.find?_eq_some_iff.mpr ⟨hs, mem_cons_self⟩)
 by_cases all : t.takesAll
 · -- the shared set takes in what can be converted, but has it already
   have unchanged := closed.sortedSet_names t.name fun _ => Iff.rfl
   rw [closed.acceptedBy_all all] at known ⊢
   exact ⟨none, rfl, by simp [enter, all, entered.every, unchanged, guard, known]⟩
 · exact ⟨some (f.acceptedBy t), rfl, by simp [enter, all, entered.every, guard, known]⟩

include before

/-- Entering a type adds what its inputs take to both tables, and changes nothing for the types before it. -/
theorem enter (mem : t ∈ f.types) : ∃ next, f.enter tables t = some next ∧ Entered f (t :: done) next := by
 obtain ⟨own, given, step⟩ := entered.enter_eq closed mem
 refine ⟨_, step, rfl, fun s hs k key => ?_, fun s hs k key x => ?_⟩
 · rw [TypeTables.inputTypes?, lookup_keys]
   split
   · rename_i here
     have same : s = t := closed.eq_of_key (cons_subset.mpr ⟨mem, before⟩ hs) mem key here
     rw [same, ← given, Option.map_some]
   · rename_i elsewhere
     have earlier : s ∈ done := (mem_cons.mp hs).resolve_left fun same => elsewhere (same ▸ key)
     rw [← entered.inputs s earlier k key, TypeTables.inputTypes?, entered.every]
 · have reached : (k, x) ∈ ((f.acceptedBy t).filterMap f.find?).flatMap (fun s => s.keys.map (·, t.name)) ↔
     t.name = x ∧ s.name ∈ f.acceptedBy t := by
    simp only [mem_flatMap, closed.mem_filterMap_acceptedBy mem, mem_map, Prod.mk.injEq]
    constructor
    · rintro ⟨a, ⟨ha, taken⟩, _, first, rfl, rfl⟩
      exact ⟨rfl, closed.eq_of_key ha hs first key ▸ taken⟩
    · rintro ⟨rfl, taken⟩
      exact ⟨s, ⟨hs, taken⟩, k, key, rfl, rfl⟩
   simp only [mem_append, reached, entered.targets s hs k key x, mem_cons, exists_eq_or_imp]

theorem enter_all (within : left ⊆ f.types) :
  ∃ last, left.foldlM f.enter tables = some last ∧ Entered f (left.reverse ++ done) last := by
 induction left generalizing done tables with
 | nil => exact ⟨tables, rfl, entered⟩
 | cons t left ih =>
  obtain ⟨mem, within⟩ := cons_subset.mp within
  obtain ⟨next, step, entered⟩ := entered.enter closed before mem
  obtain ⟨last, rest, entered⟩ := ih entered (cons_subset.mpr ⟨mem, before⟩) within
  refine ⟨last, ?_, by simpa using entered⟩
  rw [foldlM_cons, step]
  exact rest

end Entered

theorem Closed.tables? (closed : Closed f) : ∃ tables, f.tables? = some tables ∧
  (∀ s ∈ f.types, ∀ k ∈ s.keys, tables.inputTypes? k = some (f.acceptedBy s)) ∧
  ∀ t ∈ f.types, ∀ k ∈ t.keys, ∀ x, x ∈ tables.targetTypes k ↔ ∃ s ∈ f.types, s.name = x ∧ t.name ∈ f.acceptedBy s := by
 have empty : Entered f [] { every := f.names } := ⟨rfl, by simp, by simp⟩
 obtain ⟨tables, built, entered⟩ := empty.enter_all closed (nil_subset _) (Subset.refl f.types)
 simp only [append_nil] at entered
 refine ⟨tables, built, fun s hs => entered.inputs s (mem_reverse.mpr hs), fun t ht k key x => ?_⟩
 have held := entered.targets t ht k key x
 simp only [mem_reverse] at held
 rw [← held]
 simp [TypeTables.targetTypes]

/-- The tables of a closed family can be filled.  An input takes a type exactly if it is a target of this type, and both
tables answer the same for a type and for the kind of its sockets. -/
theorem tables_converse (f : TypeFamily) (closed : f.Closed) : ∃ tables, f.tables? = some tables ∧
  (∀ s ∈ f.types, ∀ k ∈ s.keys, tables.inputTypes? k = some (f.acceptedBy s)) ∧
  (∀ t ∈ f.types, ∀ k ∈ t.keys, tables.targetTypes k = tables.targetTypes t.name) ∧
  ∀ s ∈ f.types, ∀ t ∈ f.types, ∀ taken ∈ tables.inputTypes? s.name,
   t.name ∈ taken ↔ s.name ∈ tables.targetTypes t.name := by
 obtain ⟨tables, built, inputs, targets⟩ := closed.tables?
 refine ⟨tables, built, inputs, fun t ht k key => ?_, fun s hs t ht taken given => ?_⟩
 · refine sortedSet_eq_iff.mpr fun x => ?_
   have same := (targets t ht k key x).trans (targets t ht t.name mem_cons_self x).symm
   simpa only [TypeTables.targetTypes, mem_sortedSet] using same
 · obtain rfl := Option.some.inj ((inputs s hs s.name mem_cons_self).symm.trans given)
   rw [targets t ht t.name mem_cons_self]
   constructor
   · exact fun taken => ⟨s, hs, rfl, taken⟩
   · rintro ⟨a, ha, same, taken⟩
     obtain rfl := closed.eq_of_key ha hs mem_cons_self (same ▸ mem_cons_self)
     exact taken

/-- Two types that are converted to each other, with inputs that take every type or none. -/
def numberTypes : TypeFamily where
 types := [{ name := "Integer" }, { name := "Generic", accepts := ["All"] }, { name := "Float" },
  { name := "Generic List", accepts := ["All"] }, { name := "Node Control", accepts := some [] }]
 conversions := [⟨"Integer", "Float", none⟩, ⟨"Float", "Integer", "int(value)"⟩]

theorem numberTypes_converse : numberTypes.Closed ∧ ∃ tables, numberTypes.tables? = some tables ∧
  (∀ s ∈ numberTypes.types, ∀ k ∈ s.keys, tables.inputTypes? k = some (numberTypes.acceptedBy s)) ∧
  ∀ s ∈ numberTypes.types, ∀ t ∈ numberTypes.types, ∀ taken ∈ tables.inputTypes? s.name,
   t.name ∈ taken ↔ s.name ∈ tables.targetTypes t.name := by
 have closed : numberTypes.Closed := by constructor <;> decide +kernel
 obtain ⟨tables, built, inputs, _, converse⟩ := tables_converse numberTypes closed
 exact ⟨closed, tables, built, inputs, converse⟩

end AnimationGraph.TypeFamily
