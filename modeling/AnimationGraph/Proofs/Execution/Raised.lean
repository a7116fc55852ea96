import AnimationGraph.Control.Events
import AnimationGraph.Proofs.Execution.Guard

/-! # Raised events

Changes raise flags, and callbacks of the host hand the raised flags to the reaction.  One of these callbacks forgets
them afterwards, whether the reaction has taken place or was skipped.
-/

namespace AnimationGraph

inductive Flag where
 | tree | file | addon | property

namespace Flag

def event : Flag → String
 | tree => "Tree"
 | file => "File"
 | addon => "Addon"
 | property => "Property"

def isSet (w : World) : Flag → Bool
 | tree => w.raised.tree
 | file => w.raised.file
 | addon => w.raised.addon
 | property => w.raised.property

end Flag

theorem raisedEvents_eq (i : Interface) (w : World) :
  ∃ events, raisedEvents i w = .ok events w ∧ ∀ f : Flag, f.event ∈ events ↔ f.isSet w := by
 refine ⟨_, rfl, fun f => ?_⟩
 cases f <;> simp [Flag.event, Flag.isSet]

/-- A reaction is under way or was left by a failure, or there is nothing to write to. -/
def Skipped (w : World) : Prop := "handleEvents" ∈ w.guarded ∨ w.hasScene = false

theorem handleEvents_of_skipped (skipped : Skipped w) (events : Texts) : handleEvents events i w = .ok () w := by
 rcases skipped with marked | without
 · exact guarded_of_mem marked _ i
 · have cannot : cannotWrite i (w.enter "handleEvents") = .ok true (w.enter "handleEvents") := by
    simp only [cannotWrite, look]
    rw [show (w.enter "handleEvents").hasScene = false from without, Bool.not_false]
   rw [handleEvents, guarded_eq]
   simp only [bind, Run.bind, cannot, pure, Run.pure, if_true]
   simp [World.enter]

/-- What happens in a session: the host calls back at all times or for a frame or a scene, or something else is done.
That raises flags and clears none. -/
inductive Moment where
 | always
 | frame (event : String) (evaluated : Value)
 | other (x : Act) (keeps : ∀ i w (f : Flag), f.isSet w → f.isSet (x i w).world)

def Moment.act : Moment → Act
 | always => handleRaisedEvents
 | frame event evaluated => frameEvent event evaluated
 | other x _ => x

def World.through (i : Interface) (w : World) (moments : List Moment) : World :=
 moments.foldl (fun w m => (m.act i w).world) w

theorem isSet_always (skipped : Skipped w) (f : Flag) : f.isSet (Moment.always.act i w).world = false := by
 obtain ⟨events, raised, _⟩ := raisedEvents_eq i w
 have ending : handleRaisedEvents i w = .ok () { w with raised := { rendering := w.raised.rendering } } := by
  simp only [handleRaisedEvents, bind, Run.bind, raised, handleEvents_of_skipped skipped, change]
 rw [Moment.act, ending]
 cases f <;> rfl

theorem isSet_frame (skipped : Skipped w) (f : Flag) (event : String) (evaluated : Value) :
  f.isSet ((Moment.frame event evaluated).act i w).world = f.isSet w := by
 let told : World := { w with registers := w.registers.set "evaluatedDepsgraph" evaluated }
 have later : Skipped told := skipped
 obtain ⟨events, raised, _⟩ := raisedEvents_eq i told
 have ending : frameEvent event evaluated i w =
   .ok () { told with registers := told.registers.set "evaluatedDepsgraph" .none } := by
  simp only [frameEvent, setRegister, change, bind, Run.bind, told, raised, handleEvents_of_skipped later]
 rw [Moment.act, ending]
 cases f <;> rfl

/-- In no course of a session is a flag lost, that is cleared by a callback whose reaction was skipped, exactly if the
callback at all times never comes when a flag is set and reactions are skipped.  A reaction that is not skipped gets all
flags that are set. -/
theorem raised_handled_iff (i : Interface) (w : World) (moments : List Moment) (f : Flag) :
  ((∀ before m after, moments = before ++ m :: after → f.isSet (w.through i before) →
    f.isSet (m.act i (w.through i before)).world = false → ¬ Skipped (w.through i before)) ↔
   ∀ before after, moments = before ++ .always :: after → f.isSet (w.through i before) →
    ¬ Skipped (w.through i before)) ∧
  ∃ events, raisedEvents i w = .ok events w ∧ (f.event ∈ events ↔ f.isSet w) := by
 refine ⟨⟨fun kept before after split set skipped => ?_, fun free before m after split set cleared skipped => ?_⟩, ?_⟩
 · exact kept before .always after split set (isSet_always skipped f) skipped
 · cases m with
   | always => exact free before after split set skipped
   | frame event evaluated => simp [isSet_frame skipped, set] at cleared
   | other x keeps => simp [Moment.act, keeps i _ f set] at cleared
 · obtain ⟨events, raised, each⟩ := raisedEvents_eq i w
   exact ⟨events, raised, each f⟩

def sceneless : World where
 cells := #[.list #[]]
 collections := [("scenes", ⟨0⟩)]
 raised := { tree := true }

theorem change_forgotten : Flag.tree.isSet sceneless ∧
  (∀ events, handleEvents events constantly sceneless = .ok () sceneless) ∧
  Flag.tree.isSet (handleRaisedEvents constantly sceneless).world = false := by
 have skipped : Skipped sceneless := .inr rfl
 exact ⟨rfl, handleEvents_of_skipped skipped, isSet_always skipped .tree⟩

end AnimationGraph
