import AnimationGraph.Proofs.Execution.Units
import Mathlib.Data.List.Induction

/-! # The order of selection

Whenever it is asked for, the selection is compared with the one before.  So names are remembered in the order in which they
have been selected ever since (`selection_in_order`).
-/

namespace AnimationGraph

open List

/-! ## Orders of names -/

/-- In how many of the latest selections a name has been without a break. -/
def streak (h : List Texts) (a : String) : Nat := (h.takeWhile (a ∈ ·)).length

/-- Names are in the order in which they have been selected, latest selections first. -/
structure InOrder (h : List Texts) (order : Texts) : Prop where
 nodup : order.Nodup
 selected : ∀ a, a ∈ order ↔ a ∈ h.headD []
 sorted : order.Pairwise fun a b => streak h b < streak h a ∨
  streak h a = streak h b ∧ ∃ first, h[streak h a - 1]? = some first ∧ first.idxOf a < first.idxOf b

theorem streak_cons : streak (now :: h) a = if a ∈ now then streak h a + 1 else 0 := by
 by_cases mem : a ∈ now <;> simp [streak, mem]

theorem streak_pos : 0 < streak h a ↔ a ∈ h.headD [] := by
 cases h with
 | nil => simp [streak]
 | cons now h => by_cases mem : a ∈ now <;> simp [streak_cons, mem]

/-- New names follow, in the order of the selection. -/
theorem appended_eq (kept now : Texts) : ∃ new, now.foldl (fun ns n => if ns.contains n then ns else ns ++ [n]) kept = kept ++ new ∧
  (∀ a, a ∈ new ↔ a ∈ now ∧ a ∉ kept) ∧ new.Pairwise (now.idxOf · < now.idxOf ·) := by
 induction now using reverseRecOn with
 | nil => exact ⟨[], by simp⟩
 | append_singleton now a ih =>
  obtain ⟨new, same, mem, sorted⟩ := ih
  have sorted' : new.Pairwise ((now ++ [a]).idxOf · < (now ++ [a]).idxOf ·) :=
   sorted.imp_of_mem fun here there less => by
    rwa [idxOf_append_of_mem ((mem _).mp here).1, idxOf_append_of_mem ((mem _).mp there).1]
  rw [foldl_append, same]
  by_cases known : a ∈ kept ++ new
  · exact ⟨new, by simp [known], by grind, sorted'⟩
  · refine ⟨new ++ [a], by simp [known], by grind, pairwise_append.mpr ⟨sorted', pairwise_singleton .., ?_⟩⟩
    grind

theorem InOrder.step (before : InOrder h order) (now : Texts) : InOrder (now :: h) (reordered order now) := by
 obtain ⟨new, same, mem, sorted⟩ := appended_eq (order.filter (now.contains ·)) now
 rw [reordered, same]
 have old {a : String} : a ∈ order ↔ 0 < streak h a := (before.selected a).trans streak_pos.symm
 have new_mem {a : String} (here : a ∈ new) : a ∈ now ∧ streak h a = 0 := by
  have := (mem a).mp here
  grind
 refine ⟨?_, ?_, pairwise_append.mpr ⟨?_, ?_, ?_⟩⟩
 · exact nodup_append.mpr ⟨before.nodup.filter _, sorted.imp fun less same => by simp [same] at less, by grind⟩
 · grind
 · refine (before.sorted.filter _).imp_of_mem fun {a b} here there => ?_
   simp only [streak_cons]
   grind
 · refine sorted.imp_of_mem fun {a b} here there less => .inr ?_
   simp [streak_cons, new_mem here, new_mem there, less]
 · intro a here b there
   refine .inl ?_
   simp only [streak_cons]
   grind

/-! ## Sessions -/

variable {id : CellId}

def World.Remembers (w : World) (order : Texts) : Prop :=
 w.registers.get? "sortedSelection" = none ∧ order = [] ∨
 ∃ id : CellId, w.registers.get? "sortedSelection" = some (.cell id) ∧ w.cells[id.index]? = some (.list (order.map .str).toArray)

/-- These names are selected, and they can be read without a change to the order that is remembered. -/
def Reads (i : Interface) (w : World) (viewLayer : Value) (now : Texts) : Prop :=
 ∃ w₁, (selectedObjectNames viewLayer >>= textsOf) i w = .ok now w₁ ∧ ∀ order, w.Remembers order → w₁.Remembers order

/-- Calls by which the selection is compared with the one before, latest first: which names were selected.  In between anything
may happen but to the order that is remembered. -/
inductive Recording (i : Interface) : List Texts → World → Prop
 | start {w : World} : w.registers.get? "sortedSelection" = none → Recording i [] w
 | meanwhile {h : List Texts} {w w' : World} : Recording i h w → (∀ order, w.Remembers order → w'.Remembers order) →
   Recording i h w'
 | call {h : List Texts} {w : World} {viewLayer : Value} {now : Texts} : Recording i h w → Reads i w viewLayer now →
   Recording i (now :: h) (updateSelectionOrder viewLayer i w).world

theorem textsOf_list (texts : w.cells[id.index]? = some (.list (order.map .str).toArray)) :
  textsOf (.cell id) i w = .ok order w := by
 have items : iter (.cell id) i w = .ok (order.map .str) w := by
  simp [iter, look, readCell, bind, Run.bind, World.elements?, World.held?, World.cell, texts]
  rfl
 rw [textsOf, Run.bind_eq items, mapM_map]
 simpa using Run.mapM_reads (f := text ∘ .str) (g := fun a : String => a) (fun a (_ : a ∈ order) => rfl)

theorem sortedSelectionNames_list (remembers : w.Remembers order) : ∃ (id : CellId) (w' : World),
  sortedSelectionNames i w = .ok (.cell id) w' ∧ w'.cells[id.index]? = some (.list (order.map .str).toArray) := by
 rcases remembers with ⟨none, rfl⟩ | ⟨id, some, texts⟩
 · have read : register "sortedSelection" i w = .ok .none w := by simp [register, look, none]
   have new : sortedSelectionNames i w = .ok (.cell ⟨w.cells.size⟩) { w with
     cells := w.cells.push (.list #[]), registers := w.registers.set "sortedSelection" (.cell ⟨w.cells.size⟩) } := by
    rw [sortedSelectionNames, Run.bind_eq read]
    rfl
   exact ⟨_, _, new, by simp⟩
 · have read : register "sortedSelection" i w = .ok (.cell id) w := by simp [register, look, some]
   refine ⟨id, w, ?_, texts⟩
   rw [sortedSelectionNames, Run.bind_eq read]
   rfl

theorem updateSelectionOrder_remembers (reads : Reads i w viewLayer now) (remembers : w.Remembers order) :
  ∃ w', updateSelectionOrder viewLayer i w = .ok () w' ∧ w'.Remembers (reordered order now) := by
 obtain ⟨w₁, read, keeps⟩ := reads
 obtain ⟨names, w₀, selected, told⟩ := Run.bind_ok read
 obtain ⟨id, w₂, found, texts⟩ := sortedSelectionNames_list (i := i) (keeps order remembers)
 rw [updateSelectionOrder, Run.bind_eq selected, Run.bind_eq told, Run.bind_eq found, Run.bind_eq (textsOf_list texts)]
 refine ⟨_, rfl, .inr ⟨⟨w₂.cells.size⟩, ?_, ?_⟩⟩
 · simp [Fields.get?_set]
 · simp

theorem Recording.inOrder (recording : Recording i h w) : ∃ order, w.Remembers order ∧ InOrder h order := by
 induction recording with
 | start none => exact ⟨[], .inl ⟨none, rfl⟩, by simp, by simp, .nil⟩
 | meanwhile _ keeps ih =>
  obtain ⟨order, remembers, sorted⟩ := ih
  exact ⟨order, keeps order remembers, sorted⟩
 | call _ reads ih =>
  obtain ⟨order, remembers, sorted⟩ := ih
  obtain ⟨w', ran, remembers⟩ := updateSelectionOrder_remembers reads remembers
  exact ⟨_, ran ▸ remembers, sorted.step _⟩

theorem selection_in_order (recording : Recording i h w) : (∃ order, w.Remembers order ∧ InOrder h order) ∧
  ∀ viewLayer now, Reads i w viewLayer now → ∃ w', updateSelectionOrder viewLayer i w = .ok () w' := by
 refine ⟨recording.inOrder, fun viewLayer now reads => ?_⟩
 obtain ⟨order, remembers, -⟩ := recording.inOrder
 obtain ⟨w', ran, -⟩ := updateSelectionOrder_remembers reads remembers
 exact ⟨w', ran⟩

/-- A view layer is the tuple of the names of its objects, and all of them are selected. -/
def allSelected : Interface := { constantly with attr v _ w := .ok v w, invoke _ _ _ w := .ok (.bool true) w }

theorem pair_in_order : ∃ order, (updateSelectionOrder (.tuple [.str "b", .str "a"]) allSelected {}).world.Remembers order ∧
  InOrder [["b", "a"]] order := by
 refine (selection_in_order (.call (.start rfl) ⟨_, rfl, ?_⟩)).1
 rintro order (⟨none, rfl⟩ | ⟨id, some, -⟩)
 · exact .inl ⟨none, rfl⟩
 · cases some

end AnimationGraph
