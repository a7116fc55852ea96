import AnimationGraph.Proofs.Execution.Guard

/-! # Units and their set-up

Units are set up one after the other, some of them several times: each time a unit gets a new table of variables and its
script a new function.
-/

namespace AnimationGraph

open List

namespace Run

variable {xs : List α}

instance : LawfulMonad Run := .mk' Run
 (fun x => funext fun i => funext fun w => by
  simp only [Functor.map, Run.bind]
  cases x i w <;> rfl)
 (fun _ _ => rfl)
 (fun x f g => funext fun i => funext fun w => by
  simp only [Bind.bind, Run.bind]
  cases x i w <;> rfl)

theorem bind_eq {f : α → Run β} (first : x i w = .ok a w') : (x >>= f) i w = f a i w' := by
 simp only [Bind.bind, Run.bind, first]

theorem mapM_reads {f : α → Run β} {g : α → β} (each : ∀ a ∈ xs, f a i w = .ok (g a) w) :
  xs.mapM f i w = .ok (xs.map g) w := by
 induction xs with
 | nil => rfl
 | cons a xs ih =>
  obtain ⟨first, each⟩ := forall_mem_cons.mp each
  rw [mapM_cons, bind_eq first, bind_eq (ih each)]
  rfl

theorem bind_ok {f : α → Run β} (done : (x >>= f) i w = .ok b w') :
  ∃ a w₁, x i w = .ok a w₁ ∧ f a i w₁ = .ok b w' := by
 change Run.bind x f i w = _ at done
 unfold Run.bind at done
 split at done
 next a w₁ first => exact ⟨a, w₁, first, done⟩
 next => cases done

theorem forM_step {f : α → Act} (first : f a i w = .ok () w₁) :
  (a :: xs).forM f i w = xs.forM f i w₁ := by
 change Run.bind (f a) (fun _ => xs.forM f) i w = _
 simp only [Run.bind, first]

theorem forM_returns {f : α → Act} (I : List α → World → Prop)
  (round : ∀ done a rest w, xs = done ++ a :: rest → I done w → ∃ w', f a i w = .ok () w' ∧ I (done ++ [a]) w')
  (start : I [] w) : ∃ w', xs.forM f i w = .ok () w' ∧ I xs w' := by
 suffices rounds : ∀ rest done w, xs = done ++ rest → I done w → ∃ w', rest.forM f i w = .ok () w' ∧ I xs w' from
  rounds xs [] w rfl start
 intro rest
 induction rest with
 | nil => exact fun done w all holds => ⟨w, rfl, by simpa [all] using holds⟩
 | cons a rest ih =>
  intro done w all holds
  obtain ⟨w₁, first, holds⟩ := round done a rest w all holds
  rw [forM_step first]
  exact ih (done ++ [a]) w₁ (by simp [all]) holds

end Run

variable {s s' : Setting}

namespace Setting

def set (s : Setting) (k : UnitKey) (u : ExecutionUnit) : Setting := { s with units := s.units.set k u }

end Setting

def Calm (i : Interface) (units : List ExecutionUnit) : Prop :=
 ∀ u ∈ units, ∀ table w entry w', u.runSetup table i w = .ok entry w' → w'.setting = w.setting

namespace Fields

variable (fields : Fields) (name other : String) (v : Value)

theorem get?_set : (fields.set name v).get? other = if other = name then some v else fields.get? other := by
 fun_induction Fields.set fields name v <;> grind [get?]

theorem mem_set : other ∈ (fields.set name v).map (·.1) ↔ other = name ∨ other ∈ fields.map (·.1) := by
 fun_induction Fields.set fields name v <;> grind

theorem nodup_set (distinct : (fields.map (·.1)).Nodup) : ((fields.set name v).map (·.1)).Nodup := by
 fun_induction Fields.set fields name v <;> grind [mem_set]

end Fields

/-- Units that are ready, and the functions of the subprograms among them. -/
def Ready (keys : List UnitKey) (functions : Fields) (w : World) : Prop :=
 ∀ k ∈ keys, ∃ u table entry, w.units[k]? = some u ∧ u.data = some table ∧ u.state = .ready entry ∧
  ∀ id, u.network.subprogram? = some id → functions.get? ("_subprogram" ++ id) = some entry

end AnimationGraph
