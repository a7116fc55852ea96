import AnimationGraph.Control.Events
import Mathlib.Data.Set.Finite.List
import Mathlib.Order.WellFounded

/-! # The order of registration

Each round takes everything that needs nothing any more, and strikes it from the needs of the rest.  The rounds come to an end
exactly if nothing needs itself, and then all stands behind what it needs (`ordered_iff_acyclic`).
-/

namespace AnimationGraph

open List

section

variable {α : Type} (left : List (α × List α))

def Needs (v d : α) : Prop := ∃ needs, (v, needs) ∈ left ∧ d ∈ needs

/-- Nothing needs itself, not even through others. -/
def Acyclic : Prop := ∀ v, ¬Relation.TransGen (Needs left) v v

/-- Every value has one entry, also those that are needed. -/
structure Complete : Prop where
 once : (left.map Prod.fst).Nodup
 known : ∀ v d, Needs left v d → d ∈ left.map Prod.fst

end

variable {α : Type} [BEq α] [LawfulBEq α] {left : List (α × List α)} {v d : α}

theorem mem_ready : v ∈ (takeReady left).1 ↔ (v, []) ∈ left := by
 simp [takeReady]

/-- The rest has the needs that the round has not met. -/
theorem needs_rest : Needs (takeReady left).2 v d ↔ Needs left v d ∧ d ∉ (takeReady left).1 := by
 simp only [Needs, takeReady, mem_map, mem_filter]
 constructor
 · rintro ⟨_, ⟨⟨v, needs⟩, ⟨mem, _⟩, same⟩, needed⟩
   cases same
   exact ⟨⟨needs, mem, (mem_filter.mp needed).1⟩, by simpa using (mem_filter.mp needed).2⟩
 · rintro ⟨⟨needs, mem, needed⟩, unmet⟩
   exact ⟨_, ⟨(v, needs), ⟨mem, by simpa using ne_nil_of_mem needed⟩, rfl⟩, mem_filter.mpr ⟨needed, by simpa using unmet⟩⟩

theorem keys_rest : (takeReady left).2.map Prod.fst = (left.filter (!·.2.isEmpty)).map Prod.fst := by
 simp [takeReady, Function.comp_def]

theorem ready_rest_perm (left : List (α × List α)) :
  ((takeReady left).1 ++ (takeReady left).2.map Prod.fst).Perm (left.map Prod.fst) := by
 rw [keys_rest, takeReady, ← map_append]
 exact (filter_append_perm _ left).map _

theorem Complete.rest (complete : Complete left) : Complete (takeReady left).2 where
 once := (nodup_append.mp ((ready_rest_perm left).nodup_iff.mpr complete.once)).2.1
 known v d needs := by
  obtain ⟨needs, unmet⟩ := needs_rest.mp needs
  have known := (ready_rest_perm left).mem_iff.mpr (complete.known v d needs)
  exact (mem_append.mp known).resolve_left unmet

theorem Complete.not_ready (complete : Complete left) (needs : Needs left v d) : v ∉ (takeReady left).1 := by
 obtain ⟨ds, mem, needed⟩ := needs
 intro ready
 cases inj_on_of_nodup_map complete.once (mem_ready.mp ready) mem rfl
 cases needed

/-- Of finitely many values of which none needs itself, one needs nothing. -/
theorem exists_ready (complete : Complete left) (acyclic : Acyclic left) (some : left ≠ []) : (takeReady left).1 ≠ [] := by
 let r (a b : { v // v ∈ left.map Prod.fst }) : Prop := Relation.TransGen (Needs left) b.1 a.1
 have : Finite { v // v ∈ left.map Prod.fst } := (List.finite_toSet (left.map Prod.fst)).to_subtype
 have : IsTrans _ r := ⟨fun _ _ _ ab bc => bc.trans ab⟩
 have : Std.Irrefl r := ⟨fun a => acyclic a.1⟩
 obtain ⟨p, rest, rfl⟩ := exists_cons_of_ne_nil some
 obtain ⟨⟨v, isKey⟩, -, least⟩ := (Finite.wellFounded_of_trans_of_irrefl r).has_min Set.univ
  ⟨⟨p.1, by simp⟩, trivial⟩
 obtain ⟨⟨v, needs⟩, mem, rfl⟩ := mem_map.mp isKey
 cases needs with
 | nil => exact ne_nil_of_mem (mem_ready.mpr mem)
 | cons d ds =>
  have needed : Needs (p :: rest) v d := ⟨_, mem, mem_cons_self⟩
  exact absurd (.single needed) (least ⟨d, complete.known _ _ needed⟩ trivial)

omit [LawfulBEq α] in
theorem inOrderOfNeeds?_cons (rounds : Nat) (some : left ≠ []) : inOrderOfNeeds? (rounds + 1) left =
  (inOrderOfNeeds? rounds (takeReady left).2).map ((takeReady left).1 ++ ·) := by
 obtain ⟨p, rest, rfl⟩ := exists_cons_of_ne_nil some
 rfl

/-- A round for each value is enough. -/
theorem ends_of_acyclic (complete : Complete left) (acyclic : Acyclic left) (enough : left.length ≤ rounds) :
  (inOrderOfNeeds? rounds left).isSome := by
 induction rounds generalizing left with
 | zero => simp [length_eq_zero_iff.mp (Nat.le_zero.mp enough), inOrderOfNeeds?]
 | succ rounds ih =>
  by_cases none : left = []
  · simp [none, inOrderOfNeeds?]
  · rw [inOrderOfNeeds?_cons rounds none, Option.isSome_map]
    have sizes := (ready_rest_perm left).length_eq
    have := length_pos_iff.mpr (exists_ready complete acyclic none)
    refine ih complete.rest (fun v loop => acyclic v (loop.lift id fun _ _ needs => (needs_rest.mp needs).1)) ?_
    simp only [length_append, length_map] at sizes
    omega

theorem ordered_of_ends (complete : Complete left)
  (ends : inOrderOfNeeds? rounds left = some order) :
  order.Perm (left.map Prod.fst) ∧ ∀ v d, Needs left v d → order.idxOf d < order.idxOf v := by
 induction rounds generalizing left order with
 | zero =>
  cases left with
  | nil => cases ends; simp [Needs]
  | cons => cases ends
 | succ rounds ih =>
  by_cases none : left = []
  · subst none
    cases ends
    simp [Needs]
  · rw [inOrderOfNeeds?_cons rounds none] at ends
    obtain ⟨later, found, rfl⟩ := Option.map_eq_some_iff.mp ends
    obtain ⟨perm, before⟩ := ih complete.rest found
    refine ⟨(perm.append_left _).trans (ready_rest_perm left), fun v d needs => ?_⟩
    rw [idxOf_append_of_notMem (complete.not_ready needs)]
    by_cases met : d ∈ (takeReady left).1
    · rw [idxOf_append_of_mem met]
      have := idxOf_lt_length_of_mem met
      omega
    · rw [idxOf_append_of_notMem met]
      have := before v d (needs_rest.mpr ⟨needs, met⟩)
      omega

theorem acyclic_of_ends (complete : Complete left) (ends : (inOrderOfNeeds? rounds left).isSome) :
  Acyclic left := by
 obtain ⟨order, ends⟩ := Option.isSome_iff_exists.mp ends
 have before := (ordered_of_ends complete ends).2
 have along {v d : α} (path : Relation.TransGen (Needs left) v d) : order.idxOf d < order.idxOf v := by
  induction path with
  | single needs => exact before _ _ needs
  | tail _ needs ih => exact Nat.lt_trans (before _ _ needs) ih
 exact fun v loop => Nat.lt_irrefl _ (along loop)

theorem ordered_iff_acyclic (complete : Complete left) :
  ((∃ rounds, (inOrderOfNeeds? rounds left).isSome) ↔ Acyclic left) ∧
  ((inOrderOfNeeds? left.length left).isSome ↔ Acyclic left) ∧
  ∀ rounds order, inOrderOfNeeds? rounds left = some order →
   order.Perm (left.map Prod.fst) ∧ ∀ v d, Needs left v d → order.idxOf d < order.idxOf v :=
 ⟨⟨fun ⟨_, ends⟩ => acyclic_of_ends complete ends, fun acyclic => ⟨_, ends_of_acyclic complete acyclic le_rfl⟩⟩,
   ⟨acyclic_of_ends complete, fun acyclic => ends_of_acyclic complete acyclic le_rfl⟩,
   fun _ _ => ordered_of_ends complete⟩

/-- A menu needs its panel and an item of it. -/
def menuNeeds : List (String × List String) := [("menu", ["panel", "item"]), ("panel", ["item"]), ("item", [])]

theorem menu_ordered : inOrderOfNeeds? 3 menuNeeds = some ["item", "panel", "menu"] ∧ Acyclic menuNeeds := by
 have complete : Complete menuNeeds := ⟨by decide, by simp [Needs, menuNeeds]; grind⟩
 have ends : inOrderOfNeeds? 3 menuNeeds = some ["item", "panel", "menu"] := by decide
 exact ⟨ends, (ordered_iff_acyclic complete).1.mp ⟨3, by rw [ends]; rfl⟩⟩

end AnimationGraph
