import AnimationGraph.Forest.Network
import Mathlib.Data.List.Nodup
import Mathlib.Data.List.Perm.Subperm
import Mathlib.Logic.Relation

/-! # Searches

A search goes from a node to all that can be reached from it, in any order and around cycles.
-/

namespace AnimationGraph

open List Relation

/-- Nodes that were seen lead to nodes that were seen as well, or are still to be looked at. -/
structure Searching (next : α → List α) (start : α) (work seen : List α) : Prop where
 distinct : (work ++ seen).Nodup
 started : start ∈ work ++ seen
 reached : ∀ n ∈ work ++ seen, ReflTransGen (fun m k => k ∈ next m) start n
 closed : ∀ n ∈ seen, ∀ k ∈ next n, k ∈ work ++ seen

variable [BEq α] [LawfulBEq α] {next : α → List α} {work seen all : List α}

theorem nodup_enqueued (ks : List α) (distinct : (work ++ seen).Nodup) :
  let work' := ks.foldl (fun work k => if seen.contains k || work.contains k then work else work ++ [k]) work
  (work' ++ seen).Nodup ∧ ∀ n, n ∈ work' ++ seen ↔ n ∈ work ++ seen ∨ n ∈ ks := by
 induction ks generalizing work with
 | nil => simpa using distinct
 | cons k ks ih =>
  simp only [foldl_cons]
  split_ifs with known
  · obtain ⟨distinct, mem⟩ := ih distinct
    refine ⟨distinct, fun n => (mem n).trans ?_⟩
    grind
  · have new : k ∉ work ++ seen := by simpa [or_comm] using known
    obtain ⟨distinct, mem⟩ := @ih (work ++ [k]) (by simpa using nodup_middle.mpr (distinct.cons new))
    refine ⟨distinct, fun n => (mem n).trans ?_⟩
    simp only [mem_append, mem_cons, not_mem_nil, or_false, or_assoc, or_left_comm]

namespace Searching

theorem step (search : Searching next start work seen) (isNext : n ∈ work) :
  Searching next start ((next n).foldl (fun work k =>
   if (seen ++ [n]).contains k || work.contains k then work else work ++ [k]) (work.erase n)) (seen ++ [n]) := by
 have same : work ++ seen ~ work.erase n ++ (seen ++ [n]) := calc
  work ++ seen ~ n :: work.erase n ++ seen := (perm_cons_erase isNext).append_right seen
  _ ~ work.erase n ++ seen ++ [n] := perm_append_singleton .. |>.symm
  _ = work.erase n ++ (seen ++ [n]) := append_assoc ..
 obtain ⟨distinct, mem⟩ := nodup_enqueued (next n) (same.nodup_iff.mp search.distinct)
 have mem k := (mem k).trans (or_congr_left same.mem_iff.symm)
 refine ⟨distinct, (mem _).mpr (.inl search.started), fun k isKnown => ?_, fun m isSeen k leads => (mem k).mpr ?_⟩
 · rcases (mem k).mp isKnown with old | leads
   · exact search.reached k old
   · exact (search.reached n (mem_append_left _ isNext)).tail leads
 · rcases mem_append.mp isSeen with old | new
   · exact .inl (search.closed m old k leads)
   · exact .inr (mem_singleton.mp new ▸ leads)

/-- The search ends before it runs out of steps: each step sees another one of the nodes that can be reached. -/
theorem run (search : Searching next start work seen) (pick : List α → Nat)
  (inside : ∀ n, ReflTransGen (fun m k => k ∈ next m) start n → n ∈ all) (enough : all.length < fuel + seen.length) :
  Searching next start [] (reachedFrom next pick fuel work seen) := by
 fun_induction reachedFrom next pick fuel work seen with
 | case1 seen fuel first rest work n seen' ih =>
  refine ih (search.step ?_) (by grind)
  grind
 | case2 fuel work seen notStep =>
  cases work with
  | nil => exact search
  | cons first rest =>
   have few : seen.length ≤ all.length := (search.distinct.sublist (sublist_append_right ..)).subperm
    (fun n isSeen => inside n (search.reached n (mem_append_right _ isSeen))) |>.length_le
   cases fuel with
   | zero => omega
   | succ => exact (notStep _ _ _ rfl rfl).elim

end Searching

/-- What is reached is what can be reached, each of it once, in whatever order it is looked at. -/
theorem mem_reachedFrom (pick : List α → Nat) (inside : ∀ n, ReflTransGen (fun m k => k ∈ next m) start n → n ∈ all)
  (enough : all.length < fuel) : (reachedFrom next pick fuel [start] []).Nodup ∧
   ∀ n, n ∈ reachedFrom next pick fuel [start] [] ↔ ReflTransGen (fun m k => k ∈ next m) start n := by
 have initial : Searching next start [start] [] :=
  ⟨nodup_singleton start, by simp, fun _ isStart => mem_singleton.mp isStart ▸ .refl, by simp⟩
 have search := initial.run pick inside enough
 refine ⟨search.distinct, fun n => ⟨search.reached n, fun path => ?_⟩⟩
 induction path with
 | refl => exact search.started
 | tail _ leads known => exact search.closed _ known _ leads

end AnimationGraph
