import AnimationGraph.Execution.Update
import Mathlib.Data.List.Basic

/-! # Calls that do not enter themselves

A guarded function is marked as long as a call of it is open, and calls made meanwhile are skipped.  The mark is taken
away when the call returns, so a call that is left by a failure keeps it.
-/

namespace AnimationGraph

open List

def Outcome.world {α : Type} : Outcome α → World
 | .ok _ w | .failed _ w => w

def constantly : Interface where
 attr _ _ w := .ok (.bool true) w
 setAttr _ _ _ w := .ok () w
 invoke _ _ _ w := .ok (.bool false) w
 apply _ _ w := .ok .none w

def World.enter (w : World) (name : String) : World := { w with guarded := name :: w.guarded }

theorem guarded_eq (name : String) (x : Act) (i : Interface) (w : World) : guarded name x i w =
   if name ∈ w.guarded then .ok () w
   else match x i (w.enter name) with
    | .ok _ w' => .ok () { w' with guarded := w'.guarded.erase name }
    | .failed f w' => .failed f w' := by
 by_cases inside : name ∈ w.guarded
 · simp [guarded, bind, Run.bind, look, inside, pure, Run.pure]
 · simp only [guarded, bind, Run.bind, look, change, World.enter, inside, contains_iff_mem, if_false]
   cases x i { w with guarded := name :: w.guarded } <;> rfl

theorem guarded_of_mem (marked : name ∈ w.guarded) (x : Act) (i : Interface) :
  guarded name x i w = .ok () w := by
 rw [guarded_eq, if_pos marked]

/-- Guarded calls, nested and one after the other; other steps leave the marks alone.  What comes next may depend on
how the first part has ended, so failures may be caught or passed on. -/
inductive Program where
 | step (x : Act) (apart : ∀ i w, (x i w).world.guarded = w.guarded)
 | call (name : String) (body : Program)
 | andThen (first : Program) (next : Outcome Unit → Program)

namespace Program

def run : Program → Act
 | step x _ => x
 | call name p => guarded name p.run
 | andThen p next => fun i w => (next (p.run i w)).run i (p.run i w).world

variable (i : Interface)

def left : Program → World → Texts
 | step _ _, _ => []
 | call name p, w =>
  if name ∈ w.guarded then []
  else match p.run i (w.enter name) with
   | .ok _ _ => p.left (w.enter name)
   | .failed _ _ => p.left (w.enter name) ++ [name]
 | andThen p next, w => (next (p.run i w)).left (p.run i w).world ++ p.left w

/-- A call where it begins: the calls that are open, and the functions of which a call has been left by a failure. -/
structure Beginning where
 name : String
 (stack left : Texts)
 world : World

def calls : Program → (stack left : Texts) → World → List Beginning
 | step _ _, _, _, _ => []
 | call name p, stack, left, w =>
  ⟨name, stack, left, w⟩ :: if name ∈ w.guarded then [] else p.calls (name :: stack) left (w.enter name)
 | andThen p next, stack, left, w =>
  p.calls stack left w ++ (next (p.run i w)).calls stack (p.left i w ++ left) (p.run i w).world

variable {i}

theorem guarded_run (p : Program) (w : World) :
  (p.run i w).world.guarded = p.left i w ++ w.guarded ∧ ∀ name ∈ p.left i w, name ∉ w.guarded := by
 induction p generalizing w with
 | step x apart => exact ⟨apart i w, by simp [left]⟩
 | call name p ih =>
  obtain ⟨marks, new⟩ := ih (w.enter name)
  -- The mark of the call itself comes after the marks that its body leaves.
  change _ = _ ++ name :: w.guarded at marks
  have apart : ∀ other ∈ p.left i (w.enter name), other ≠ name ∧ other ∉ w.guarded := fun other mem =>
   not_or.mp fun known => new other mem (mem_cons.mpr known)
  simp only [run, guarded_eq, left]
  split
  · exact ⟨rfl, by simp⟩
  next outside =>
   cases ending : p.run i (w.enter name) <;> rw [ending] at marks <;> simp only [Outcome.world] at marks ⊢
   · have own : name ∉ p.left i (w.enter name) := fun mem => (apart name mem).1 rfl
     simp only [marks, erase_append_right _ own, erase_cons_head]
     exact ⟨trivial, fun other mem => (apart other mem).2⟩
   · refine ⟨by simp [marks], forall_mem_append.mpr ⟨fun other mem => (apart other mem).2, ?_⟩⟩
     simpa using outside
 | andThen p next ihp ihq =>
  obtain ⟨marks, new⟩ := ihp w
  obtain ⟨marks', new'⟩ := ihq (p.run i w) (p.run i w).world
  refine ⟨by simp only [run, left, marks', marks, append_assoc], fun name mem => ?_⟩
  rcases mem_append.mp mem with mem | mem
  · exact fun known => new' name mem (by simp [marks, known])
  · exact new name mem

theorem marked_iff (p : Program) {stack left : Texts}
  (start : ∀ name, name ∈ w.guarded ↔ name ∈ stack ∨ name ∈ left) :
  ∀ c ∈ p.calls i stack left w, c.name ∈ c.world.guarded ↔ c.name ∈ c.stack ∨ c.name ∈ c.left := by
 induction p generalizing stack left w with
 | step x apart => simp [calls]
 | call name p ih =>
  refine forall_mem_cons.mpr ⟨start name, ?_⟩
  split
  · simp
  · exact ih fun other => by simp [World.enter, start, or_assoc]
 | andThen p next ihp ihq =>
  refine forall_mem_append.mpr ⟨ihp start, ihq (p.run i w) fun name => ?_⟩
  simp only [(guarded_run p w).1, mem_append, start]
  tauto

/-- A call runs its body exactly if no call of the same function is open and none has been left by a failure.  So a
call that fails is the last one of its function that runs. -/
theorem call_runs_iff (p : Program) {w : World} (idle : w.guarded = []) :
  (∀ c ∈ p.calls i [] [] w, ∀ body, guarded c.name body i c.world =
   if c.name ∈ c.stack ∨ c.name ∈ c.left then .ok () c.world
   else match body i (c.world.enter c.name) with
    | .ok _ w' => .ok () { w' with guarded := w'.guarded.erase c.name }
    | .failed f w' => .failed f w') ∧
  ∀ name f w', (call name p).run i w = .failed f w' → ∀ body, guarded name body i w' = .ok () w' := by
 refine ⟨fun c mem body => ?_, fun name f w' failed body => ?_⟩
 · have marked := marked_iff p (fun name => by simp [idle]) c mem
   simp only [guarded_eq, marked]
 · obtain ⟨marks, _⟩ := guarded_run (i := i) (call name p) w
   rw [failed] at marks
   have outside : name ∉ w.guarded := by simp [idle]
   simp only [run, guarded_eq, if_neg outside] at failed
   have own : name ∈ (call name p).left i w := by
    cases ending : p.run i (w.enter name) <;> simp_all [left]
   have marked : name ∈ w'.guarded := by
    rw [show w'.guarded = _ from marks]
    exact mem_append_left _ own
   exact guarded_of_mem marked body i

def retried : Program :=
 andThen (call "update" (step (fail .notSetUp) fun _ _ => rfl)) fun _ => call "update" (step (pure ()) fun _ _ => rfl)

theorem retried_skipped : ∃ c ∈ retried.calls constantly [] [] {}, c.stack = [] ∧ c.left = ["update"] ∧
  ∀ body, guarded c.name body constantly c.world = .ok () c.world := by
 refine ⟨⟨"update", [], ["update"], World.enter {} "update"⟩, ?again, rfl, rfl, ?skipped⟩
 case again => exact mem_append_right _ mem_cons_self
 case skipped =>
  intro body
  exact (call_runs_iff (i := constantly) (w := {}) retried rfl).1 _ (mem_append_right _ mem_cons_self) body

end Program

def Outcome.cause? {α : Type} : Outcome α → Option Cause
 | .ok _ _ => none
 | .failed f _ => some f.cause

/-- A tree waits for events, and the setup script of its only unit raises an exception. -/
def raising : World where
 cells := #[.list #[.none]]
 collections := [("scenes", ⟨0⟩)]
 forest := { present := #[⟨0⟩], trees := #[{ name := "T" }] }
 knownNames := some ["T"]
 units := [{ network := { type := .main, members := [⟨"T", ""⟩] }, setupCode := some [.mk 1 (.raise none)], executeCode := some [] }]

/-- No call is open and the reaction to a frame fails.  All later events are skipped. -/
theorem later_events_skipped : raising.guarded = [] ∧ ∃ f w, handleEvents ["Frame"] constantly raising = .failed f w ∧
  ∀ events, handleEvents events constantly w = .ok () w := by
 have failed : (handleEvents ["Frame"] constantly raising).cause?.isSome := by decide +kernel
 have marked : "handleEvents" ∈ (handleEvents ["Frame"] constantly raising).world.guarded := by decide +kernel
 refine ⟨rfl, ?_⟩
 cases ending : handleEvents ["Frame"] constantly raising with
 | ok _ w => simp [ending, Outcome.cause?] at failed
 | failed f w =>
  rw [ending] at marked
  exact ⟨f, w, rfl, fun events => guarded_of_mem marked _ _⟩

end AnimationGraph
