import AnimationGraph.Forest.Network

/-! # Ascending lists of keys

An ascending list has the elements that were put into it, whatever their order was.
-/

namespace AnimationGraph

open List

variable [Ord α] [Std.LawfulEqOrd α]

@[simp] theorem mem_insertSorted {l : List α} : b ∈ insertSorted a l ↔ b = a ∨ b ∈ l := by
 induction l with
 | nil => simp [insertSorted]
 | cons c rest ih =>
  simp only [insertSorted]
  split
  · simp
  · rename_i same
    have equal : a = c := Std.LawfulEqOrd.eq_of_compare same
    simp [equal]
  · simp only [mem_cons, ih]
    exact or_left_comm

@[simp] theorem mem_sortedSet {items : List α} : b ∈ sortedSet items ↔ b ∈ items := by
 suffices every : ∀ acc : List α, b ∈ items.foldl (fun acc a => insertSorted a acc) acc ↔ b ∈ acc ∨ b ∈ items by
  simpa [sortedSet] using every []
 induction items with
 | nil => simp
 | cons a items ih =>
  intro acc
  simp only [foldl_cons, ih, mem_insertSorted, mem_cons]
  grind

theorem insertSorted_ascending [Std.TransOrd α] (a : α) {l : List α} (ascending : l.Pairwise (compare · · = .lt)) :
  (insertSorted a l).Pairwise (compare · · = .lt) := by
 induction l with
 | nil => simp [insertSorted]
 | cons b rest ih =>
  obtain ⟨first, ascending⟩ := pairwise_cons.mp ascending
  simp only [insertSorted]
  split
  · rename_i less
    refine pairwise_cons.mpr ⟨fun c mem => ?_, pairwise_cons.mpr ⟨first, ascending⟩⟩
    rcases mem_cons.mp mem with rfl | mem
    · exact less
    · exact Std.TransCmp.lt_trans less (first c mem)
  · exact pairwise_cons.mpr ⟨first, ascending⟩
  · rename_i greater
    refine pairwise_cons.mpr ⟨fun c mem => ?_, ih ascending⟩
    rcases mem_insertSorted.mp mem with rfl | mem
    · exact Std.OrientedCmp.lt_of_gt greater
    · exact first c mem

theorem sortedSet_ascending [Std.TransOrd α] (items : List α) : (sortedSet items).Pairwise (compare · · = .lt) := by
 suffices every : ∀ acc : List α, acc.Pairwise (compare · · = .lt) →
   (items.foldl (fun acc a => insertSorted a acc) acc).Pairwise (compare · · = .lt) from every [] .nil
 induction items with
 | nil => exact fun _ ascending => ascending
 | cons a items ih => exact fun acc ascending => ih _ (insertSorted_ascending a ascending)

theorem sortedSet_nodup [Std.TransOrd α] (items : List α) : (sortedSet items).Nodup := by
 refine (sortedSet_ascending items).imp fun {a b} less same => ?_
 simp [same] at less

theorem sortedSet_eq_iff [Std.TransOrd α] {xs ys : List α} : sortedSet xs = sortedSet ys ↔ ∀ s, s ∈ xs ↔ s ∈ ys := by
 refine ⟨fun same s => by rw [← mem_sortedSet, same, mem_sortedSet], fun same => ?_⟩
 have perm : (sortedSet xs).Perm (sortedSet ys) :=
  (perm_ext_iff_of_nodup (sortedSet_nodup xs) (sortedSet_nodup ys)).mpr fun s => by simp [same]
 refine perm.eq_of_pairwise (fun a b _ _ less greater => ?_) (sortedSet_ascending xs) (sortedSet_ascending ys)
 simp [Std.OrientedCmp.gt_of_lt less] at greater

theorem NodeKey.compare_eq : (compare : NodeKey → NodeKey → Ordering) = compareLex (compareOn (·.tree)) (compareOn (·.name)) := by
 funext ⟨tree, name⟩ ⟨tree', name'⟩
 change (compare tree tree').then ((compare name name').then .eq) = _
 simp [compareLex, compareOn]

theorem SocketKey.compare_eq : (compare : SocketKey → SocketKey → Ordering) =
  compareLex (compareOn (·.node)) (compareLex (compareOn (·.isOutput)) (compareOn (·.identifier))) := by
 funext ⟨node, side, name⟩ ⟨node', side', name'⟩
 change (compare node node').then ((compare side side').then ((compare name name').then .eq)) = _
 simp [compareLex, compareOn]

instance : Std.TransOrd NodeKey := by
 change Std.TransCmp (compare : NodeKey → NodeKey → Ordering)
 rw [NodeKey.compare_eq]
 infer_instance

instance : Std.LawfulEqOrd NodeKey where
 eq_of_compare {a b} same := by
  obtain ⟨tree, name⟩ := a
  obtain ⟨tree', name'⟩ := b
  rw [NodeKey.compare_eq] at same
  simpa [compareLex, compareOn, Ordering.then_eq_eq] using same

instance : Std.TransOrd SocketKey := by
 change Std.TransCmp (compare : SocketKey → SocketKey → Ordering)
 rw [SocketKey.compare_eq]
 infer_instance

instance : Std.LawfulEqOrd SocketKey where
 eq_of_compare {a b} same := by
  obtain ⟨node, side, name⟩ := a
  obtain ⟨node', side', name'⟩ := b
  rw [SocketKey.compare_eq] at same
  simpa [compareLex, compareOn, Ordering.then_eq_eq] using same

end AnimationGraph
