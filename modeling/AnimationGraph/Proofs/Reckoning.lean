import AnimationGraph.Value.Basic
import Mathlib.Data.Rat.Floor

/-! # Exact arithmetic

The numbers of an ordered field, without rounding.  Only a division by zero fails.
-/

namespace AnimationGraph

open List

variable {K : Type} [Field K] [LinearOrder K] [FloorRing K]

/-- What is left of a number without its places behind the point. -/
def truncate (x : K) : Int := if 0 ≤ x then ⌊x⌋ else ⌈x⌉

instance : Reckoning (Except Cause) K where
 refuse := .error
 whole n := n
 nought := 0
 add x y := .ok (x + y)
 sub x y := .ok (x - y)
 mul x y := .ok (x * y)
 div x y := if y = 0 then .error .zeroDivision else .ok (x / y)
 wholePart x := .ok (truncate x)
 less x y := .ok (decide (x < y))
 atMost x y := .ok (decide (x ≤ y))
 greater x y := .ok (decide (x > y))
 atLeast x y := .ok (decide (x ≥ y))
 same x y := .ok (decide (x = y))

theorem truncate_mono {x y : K} (before : x ≤ y) : truncate x ≤ truncate y := by
 unfold truncate
 split_ifs with hx hy hy
 · exact Int.floor_mono before
 · exact absurd (hx.trans before) hy
 · exact (Int.ceil_le.mpr (by simpa using (not_le.mp hx).le)).trans (Int.floor_nonneg.mpr hy)
 · exact Int.ceil_mono before

theorem truncate_nonneg {x : K} (start : 0 ≤ x) : 0 ≤ truncate x := by
 rw [truncate, if_pos start]
 exact Int.floor_nonneg.mpr start

namespace Reckoning

theorem lesser_eq_min (x y : K) : lesser x y = (.ok (min x y) : Except Cause K) := by
 rw [min_comm, min_def_lt, apply_ite Except.ok]
 simp [lesser, less, bind, Except.bind, pure, Except.pure]

theorem greatest_spec (first : K) (rest : List K) :
  ∃ v ∈ first :: rest, greatest first rest = (.ok v : Except Cause K) ∧ ∀ x ∈ first :: rest, x ≤ v := by
 have found : greatest first rest = (.ok (rest.foldl max first) : Except Cause K) := by
  induction rest generalizing first with
  | nil => rfl
  | cons x rest ih =>
   rw [foldl_cons, ← ih, max_def_lt]
   simp [greatest, greater, bind, Except.bind, pure, Except.pure]
 have ⟨mem, top⟩ := max?_eq_some_iff.mp (show (first :: rest).max? = some _ from max?_cons')
 exact ⟨_, mem, found, top⟩

theorem div_eq {x y : K} (nonzero : y ≠ 0) : div x y = (.ok (x / y) : Except Cause K) := if_neg nonzero

end Reckoning

section
variable {α β ε : Type} {l : List α}

theorem filterM_pure {m : Type → Type} [Monad m] [LawfulMonad m] {p : α → m Bool} {q : α → Bool}
  (each : ∀ a ∈ l, p a = pure (q a)) : l.filterM p = pure (l.filter q) := by
 have loop (l acc : List α) (each : ∀ a ∈ l, p a = pure (q a)) : l.filterAuxM p acc = pure ((l.filter q).reverse ++ acc) := by
  induction l generalizing acc with
  | nil => rfl
  | cons a l ih =>
   obtain ⟨first, each⟩ := forall_mem_cons.mp each
   rw [filterAuxM, first, pure_bind, ih _ each]
   cases h : q a <;> simp [h]
 simp [filterM, loop l [] each]

theorem filterM_ok {p : α → Except ε Bool} {q : α → Bool} (each : ∀ a, p a = .ok (q a)) : l.filterM p = .ok (l.filter q) :=
 filterM_pure fun a _ => each a

theorem mapM_ok {f : α → Except ε β} {g : α → β} (each : ∀ a ∈ l, f a = .ok (g a)) : l.mapM f = .ok (l.map g) := by
 induction l with
 | nil => rfl
 | cons a l ih =>
  rw [forall_mem_cons] at each
  rw [mapM_cons, each.1, ih each.2]
  rfl

end

end AnimationGraph
