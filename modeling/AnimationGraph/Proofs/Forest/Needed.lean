import AnimationGraph.Execution.Units
import AnimationGraph.Proofs.Forest.Keys
import Mathlib.Data.List.Perm.Subperm
import Mathlib.Logic.Relation

/-! # Subprograms that a network needs

Subprograms invoke each other.  What a network needs is found by following all invocations, and that ends unless they
run in a circle: a way without a circle is at most as long as there are networks.
-/

namespace AnimationGraph.Survey

open List
open Relation (TransGen ReflTransGen)

def Invokes (s : Survey) (n m : Network) : Prop := m ∈ s.invoked n

variable {s : Survey}

theorem Invokes.mem (invokes : s.Invokes n m) : m ∈ s.networks := by
 obtain ⟨r, _, found⟩ := mem_filterMap.mp invokes
 exact mem_of_find?_eq_some found

/-- A search goes through all that is invoked, or it gives up for one of these networks. -/
theorem mapM_cases (f : Network → Option Texts) (l : List Network) :
  (∃ found, l.mapM f = some found ∧ (∀ m ∈ l, (f m).isSome) ∧ ∀ ids, ids ∈ found ↔ ∃ m ∈ l, f m = some ids) ∨
   l.mapM f = none ∧ ∃ m ∈ l, f m = none := by
 induction l with
 | nil => exact .inl ⟨[], rfl, by simp, by simp⟩
 | cons m l ih =>
  cases first : f m with
  | none => exact .inr ⟨by simp [first], m, by simp, first⟩
  | some ids =>
   rcases ih with ⟨found, rest, all, each⟩ | ⟨rest, k, mem, missing⟩
   · exact .inl ⟨ids :: found, by simp [first, rest], by simpa [first] using all, by simp [first, each, eq_comm]⟩
   · exact .inr ⟨by simp [first, rest], k, by simp [mem], missing⟩

theorem neededBy_cases (s : Survey) (fuel : Nat) (n : Network) :
  (∃ ids, s.neededBy? (fuel + 1) n = some ids ∧ ids.Nodup ∧ (∀ m, s.Invokes n m → (s.neededBy? fuel m).isSome) ∧
   ∀ id, id ∈ ids ↔ ∃ m, s.Invokes n m ∧
    (m.identifier = some id ∨ ∃ more, s.neededBy? fuel m = some more ∧ id ∈ more)) ∨
   s.neededBy? (fuel + 1) n = none ∧ ∃ m, s.Invokes n m ∧ s.neededBy? fuel m = none := by
 rcases mapM_cases (s.neededBy? fuel) (s.invoked n) with ⟨deeper, result, all, each⟩ | ⟨result, missing⟩
 · refine .inl ⟨_, by simp only [neededBy?, result]; rfl, sortedSet_nodup _, all, fun id => ?_⟩
   simp only [mem_sortedSet, mem_append, mem_filterMap, mem_flatten, each, Invokes]
   grind
 · exact .inr ⟨by simp only [neededBy?, result]; rfl, missing⟩

/-- A search that gives up has gone a way as long as its fuel. -/
theorem path_of_none (none : s.neededBy? fuel n = none) :
  ∃ path : List Network, path.length = fuel ∧ path ⊆ s.networks ∧ (n :: path).Pairwise (TransGen s.Invokes) := by
 induction fuel generalizing n with
 | zero => exact ⟨[], rfl, by simp, by simp⟩
 | succ fuel ih =>
  rcases neededBy_cases s fuel n with ⟨_, result, _⟩ | ⟨_, m, invokes, missing⟩
  · simp [result] at none
  · obtain ⟨path, length, known, ordered⟩ := ih missing
    refine ⟨m :: path, by simp [length], cons_subset.mpr ⟨invokes.mem, known⟩, pairwise_cons.mpr ⟨?_, ordered⟩⟩
    refine forall_mem_cons.mpr ⟨.single invokes, fun k mem => ?_⟩
    exact .head invokes ((pairwise_cons.mp ordered).1 k mem)

/-- A search that succeeds has succeeded for all that is invoked, with less fuel. -/
theorem needed_deeper (way : TransGen s.Invokes n m) (found : (s.neededBy? fuel n).isSome) :
  ∃ less < fuel, (s.neededBy? less m).isSome := by
 have step {n m : Network} {fuel : Nat} (invokes : s.Invokes n m) (found : (s.neededBy? fuel n).isSome) :
   ∃ less < fuel, (s.neededBy? less m).isSome := by
  cases fuel with
  | zero => simp [neededBy?] at found
  | succ fuel =>
   rcases neededBy_cases s fuel n with ⟨_, _, _, all, _⟩ | ⟨missing, _⟩
   · exact ⟨fuel, Nat.lt_succ_self fuel, all m invokes⟩
   · simp [missing] at found
 induction way with
 | single invokes => exact step invokes found
 | tail _ invokes ih =>
  obtain ⟨less, isLess, found⟩ := ih
  obtain ⟨least, isLeast, found⟩ := step invokes found
  exact ⟨least, Nat.lt_trans isLeast isLess, found⟩

theorem none_of_circle (circle : TransGen s.Invokes m m) (fuel : Nat) : s.neededBy? fuel m = none := by
 induction fuel using Nat.strongRecOn with
 | _ fuel ih =>
  by_contra found
  obtain ⟨less, isLess, found⟩ := needed_deeper circle (Option.isSome_iff_ne_none.mpr found)
  simp [ih less isLess] at found

theorem mem_needed (result : s.neededBy? fuel n = some ids) :
  ids.Nodup ∧ ∀ id, id ∈ ids ↔ ∃ m, TransGen s.Invokes n m ∧ m.identifier = some id := by
 induction fuel generalizing n ids with
 | zero => simp [neededBy?] at result
 | succ fuel ih =>
  rcases neededBy_cases s fuel n with ⟨_, result', nodup, all, each⟩ | ⟨missing, _⟩
  · obtain rfl := Option.some.inj (result.symm.trans result')
    refine ⟨nodup, fun id => (each id).trans ⟨?_, ?_⟩⟩
    · rintro ⟨m, invokes, named | ⟨more, needed, isMore⟩⟩
      · exact ⟨m, .single invokes, named⟩
      · obtain ⟨k, way, named⟩ := ((ih needed).2 id).mp isMore
        exact ⟨k, .head invokes way, named⟩
    · rintro ⟨k, way, named⟩
      obtain ⟨m, invokes, more⟩ := TransGen.head'_iff.mp way
      refine ⟨m, invokes, ?_⟩
      rcases Relation.reflTransGen_iff_eq_or_transGen.mp more with rfl | way
      · exact .inl named
      · obtain ⟨deeper, needed⟩ := Option.isSome_iff_exists.mp (all m invokes)
        exact .inr ⟨deeper, needed, ((ih needed).2 id).mpr ⟨k, way, named⟩⟩
  · simp [missing] at result

theorem exists_needed (straight : ¬ ∃ m, ReflTransGen s.Invokes n m ∧ TransGen s.Invokes m m) :
  ∃ ids, s.needed? n = some ids := by
 rw [← Option.isSome_iff_exists, Option.isSome_iff_ne_none]
 intro none
 obtain ⟨path, length, known, ordered⟩ := path_of_none none
 obtain ⟨reached, ordered⟩ := pairwise_cons.mp ordered
 have distinct : path.Nodup := ordered.imp_of_mem fun {a b} mem _ way same =>
  straight ⟨a, (reached a mem).to_reflTransGen, by rwa [← same] at way⟩
 have short := (subperm_of_subset distinct known).length_le
 omega

/-- What a network needs can be told exactly if invocations that start there never come to run in a circle.  Then it is
the identifiers of the networks that are invoked directly or through others, each once; otherwise the session fails. -/
theorem needed_iff_no_circle (s : Survey) (n : Network) :
  ((∃ ids, s.needed? n = some ids) ↔ ¬ ∃ m, ReflTransGen s.Invokes n m ∧ TransGen s.Invokes m m) ∧
  (∀ ids, s.needed? n = some ids → ids.Nodup ∧
   ∀ id, id ∈ ids ↔ ∃ m ∈ s.networks, TransGen s.Invokes n m ∧ m.identifier = some id) ∧
  ∀ (i : Interface) (w : World),
   neededSubprograms n i w = (w.survey.needed? n).elim (.failed { cause := .recursion } w) (.ok · w) := by
 refine ⟨⟨?_, fun straight => ?_⟩, fun ids result => ?_, fun i w => ?_⟩
 · rintro ⟨ids, result⟩ ⟨m, way, circle⟩
   rcases Relation.reflTransGen_iff_eq_or_transGen.mp way with rfl | way
   · simp [needed?, none_of_circle circle] at result
   · obtain ⟨less, _, found⟩ := needed_deeper way (Option.isSome_of_eq_some result)
     simp [none_of_circle circle] at found
 · exact exists_needed straight
 · obtain ⟨nodup, each⟩ := mem_needed result
   refine ⟨nodup, fun id => (each id).trans ⟨?_, fun ⟨m, _, found⟩ => ⟨m, found⟩⟩⟩
   rintro ⟨m, way, named⟩
   obtain ⟨_, _, last⟩ := TransGen.tail'_iff.mp way
   exact ⟨m, last.mem, way, named⟩
 · simp only [neededSubprograms, bind, Run.bind, look]
   cases w.survey.needed? n <;> rfl

/-- The group `a` invokes the group `b`, which has an invoke node of its own. -/
def twoGroups (reference : String) : Outline :=
 let node (name : String) (role : NodeRole) (reference : String) (inputs outputs : Pairs) : NodeOutline :=
  ⟨⟨"tree", name⟩, "Plain", role, name, reference, "", "", inputs, outputs⟩
 let link (origin target : String) : SocketKey × SocketKey :=
  (⟨⟨"tree", origin⟩, true, "x"⟩, ⟨⟨"tree", target⟩, false, "x"⟩)
 [⟨"tree", [node "a" .groupInput "" [] [("x", "")], node "c" .invoke "b" [("x", "")] [],
   node "b" .groupInput "" [] [("x", "")], node "d" .invoke reference [("x", "")] []],
  [link "a" "c", link "b" "d"]⟩]

theorem twoGroups_told : ∃ n ∈ (ofOutline (twoGroups "")).networks, (ofOutline (twoGroups "")).needed? n = some ["b"] ∧
  ∃ m ∈ (ofOutline (twoGroups "")).networks, TransGen (ofOutline (twoGroups "")).Invokes n m ∧ m.identifier = some "b" := by
 have told : ∃ n ∈ (ofOutline (twoGroups "")).networks, (ofOutline (twoGroups "")).needed? n = some ["b"] := by
  decide +kernel
 obtain ⟨n, isNetwork, result⟩ := told
 exact ⟨n, isNetwork, result, (((needed_iff_no_circle _ n).2.1 _ result).2 "b").mp (by simp)⟩

/-- Two groups invoke each other.  None is invalid, and of none can it be told what it needs. -/
theorem twoGroups_untold : (ofOutline (twoGroups "a")).networks.map (fun n => (n.type, n.identifier, n.references)) =
   [(.group, some "a", ["b"]), (.group, some "b", ["a"])] ∧
  ∀ n ∈ (ofOutline (twoGroups "a")).networks, (ofOutline (twoGroups "a")).needed? n = none := by
 decide +kernel

end AnimationGraph.Survey
