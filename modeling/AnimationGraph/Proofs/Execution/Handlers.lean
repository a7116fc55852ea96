import AnimationGraph.Control.Events
import AnimationGraph.Proofs.Execution.Units

/-! # Handlers of events

Whatever has been registered and whatever the host has told before, each call of the host leads to one call of each
function that is registered for its event, in the order of registration, and to no other.  The end of a rendering alone
is taken for a cancelled rendering (`handlers_exact_iff`).
-/

namespace AnimationGraph

open List

def HostCall.event : HostCall → String
 | renderComplete => "RENDER_COMPLETE"
 | c => c.served

inductive Occurrence where
 | register (event : String) (f : Value)
 | host (c : HostCall) (args : Values)
 | tick

namespace Occurrence

def run : Occurrence → Act
 | register ev f => addHandler ev f
 | host c args => c.serve args
 | tick => AnimationGraph.tick

def registration : Occurrence → Fields
 | register ev f => [(ev, f)]
 | _ => []

def stays (loaded : Bool) : Occurrence → Bool
 | tick => false
 | _ => loaded

end Occurrence

def noted (args : Values) (f : Value) : Value := .tuple (f :: args)

theorem noted_injective (args : Values) (f g : Value) (same : noted args f = noted args g) : f = g := by
 simpa [noted] using same

/-- The calls that are due when something happens.  Functions that wait for the library are called at the first tick. -/
def Occurrence.due (registry : Fields) (loaded : Bool) : Occurrence → Values
 | register _ _ => []
 | host c args => (registered registry c.event).map (noted (if c.passes then args else []))
 | tick => (registered registry "ALWAYS" ++ if loaded then registered registry "ADDON_LOAD_POST" else []).map (noted [])

/-- Functions that return when they are called, as long as `P` holds, and whose calls are noted down one after the other. -/
structure Heard (i : Interface) (P : World → Prop) (log : World → Values) (fs : Fields) : Prop where
 calls {e w} (args : Values) : e ∈ fs → P w → ∃ r w', i.apply e.2 ⟨args, []⟩ w = .ok r w' ∧ P w' ∧
  log w' = log w ++ [noted args e.2] ∧ w'.handlers = w.handlers ∧ w'.loaded = w.loaded
 apart {w} (handlers : Fields) (loaded : Bool) : P w →
  P { w with handlers, loaded } ∧ log { w with handlers, loaded } = log w

def Calls (P : World → Prop) (log : World → Values) (w : World) (calls : Values) (w' : World) : Prop :=
 P w' ∧ log w' = log w ++ calls ∧ w'.handlers = w.handlers ∧ w'.loaded = w.loaded

theorem callHandlers_calls (heard : Heard i P log fs) (here : P w) (known : ownHandlers ++ w.handlers ⊆ fs) (ev : String)
  (args : Values) : ∃ w', callHandlers ev args i w = .ok () w' ∧
   Calls P log w ((registered (ownHandlers ++ w.handlers) ev).map (noted args)) w' := by
 refine Run.forM_returns (fun done w' => Calls P log w (done.map (noted args)) w')
  (fun done f rest w₁ all ⟨here, told, same, loaded⟩ => ?_) ⟨here, by simp, rfl, rfl⟩
 have mem : f ∈ registered (ownHandlers ++ w.handlers) ev := by
  change registered (ownHandlers ++ w.handlers) ev = _ at all
  simp [all]
 obtain ⟨e, among, rfl⟩ := mem_map.mp mem
 obtain ⟨r, w₂, ran, here₂, told₂, same₂, loaded₂⟩ := heard.calls args (known (mem_filter.mp among).1) here
 refine ⟨w₂, ?_, here₂, by simp [told₂, told], same₂.trans same, loaded₂.trans loaded⟩
 change Run.bind (e.2.apply args) (fun _ => pure ()) i w₁ = _
 simp only [Run.bind, Value.apply, ran]
 rfl

theorem Occurrence.step (heard : Heard i P log fs) (here : P w) (known : ownHandlers ++ w.handlers ⊆ fs) (o : Occurrence) :
  ∃ w' calls, o.run i w = .ok () w' ∧ P w' ∧ log w' = log w ++ calls ∧ w'.handlers = w.handlers ++ o.registration ∧
   w'.loaded = o.stays w.loaded ∧
   (calls = o.due (ownHandlers ++ w.handlers) w.loaded ↔ ∀ args, o = .host .renderComplete args →
    registered (ownHandlers ++ w.handlers) "RENDER_CANCEL" = registered (ownHandlers ++ w.handlers) "RENDER_COMPLETE") := by
 cases o with
 | register ev f =>
  obtain ⟨here, told⟩ := heard.apart (w.handlers ++ [(ev, f)]) w.loaded here
  exact ⟨_, [], rfl, here, told.trans (append_nil _).symm, rfl, rfl, by simp [due]⟩
 | host c args =>
  obtain ⟨w', ran, here, told, same, loaded⟩ := callHandlers_calls heard here known c.served (if c.passes then args else [])
  refine ⟨w', _, ran, here, told, by simp [same, registration], loaded, ?_⟩
  cases c with
  | renderComplete => simp [due, HostCall.event, HostCall.served, map_inj_right (noted_injective _)]
  | _ => simp [due, HostCall.event]
 | tick =>
  obtain ⟨w₁, ran₁, here₁, told₁, same₁, loaded₁⟩ := callHandlers_calls heard here known "ALWAYS" []
  cases waits : w.loaded with
  | false =>
   refine ⟨w₁, _, ?_, here₁, told₁, by simp [same₁, registration], by simp [loaded₁, waits, stays], by simp [due]⟩
   change Run.bind (callHandlers "ALWAYS") _ i w = _
   simp [Run.bind, ran₁, bind, look, loaded₁, waits, pure, Run.pure]
  | true =>
   obtain ⟨here₂, told₂⟩ := heard.apart w₁.handlers false here₁
   obtain ⟨w₃, ran₃, here₃, told₃, same₃, loaded₃⟩ := callHandlers_calls heard here₂ (by simpa [same₁] using known)
    "ADDON_LOAD_POST" []
   refine ⟨w₃, _, ?_, here₃, by rw [told₃, told₂, told₁, append_assoc], by simp [same₃, same₁, registration],
    by simp [loaded₃, stays], by simp [due, same₁]⟩
   change Run.bind (callHandlers "ALWAYS") _ i w = _
   simpa [Run.bind, ran₁, bind, look, loaded₁, waits, change] using ran₃

def registry (w : World) (history : List Occurrence) : Fields :=
 ownHandlers ++ w.handlers ++ history.flatMap (·.registration)

theorem history_runs (heard : Heard i P log (registry w history)) (start : P w) :
  ∃ w', history.forM Occurrence.run i w = .ok () w' ∧
   P w' ∧ ownHandlers ++ w'.handlers = registry w history ∧ w'.loaded = history.foldl Occurrence.stays w.loaded := by
 refine Run.forM_returns (fun done w' => P w' ∧ ownHandlers ++ w'.handlers = registry w done ∧
  w'.loaded = done.foldl Occurrence.stays w.loaded) (fun done o rest w₁ all ⟨here, handlers, loaded⟩ => ?_)
  ⟨start, by simp [registry], rfl⟩
 have known : ownHandlers ++ w₁.handlers ⊆ registry w history := by
  rw [handlers, all, registry, registry, flatMap_append, ← append_assoc]
  exact subset_append_left ..
 obtain ⟨w₂, calls, ran, here₂, -, handlers₂, loaded₂, -⟩ := o.step heard here known
 refine ⟨w₂, ran, here₂, ?_, by simp [loaded₂, loaded]⟩
 rw [handlers₂, ← append_assoc, handlers]
 simp [registry]

/-- Each call of the host, after any history, calls what is due, and nothing else. -/
theorem handlers_exact_iff (history : List Occurrence) (o : Occurrence) (heard : Heard i P log (registry w history))
  (start : P w) : ∃ w₁ w₂ calls, history.forM Occurrence.run i w = .ok () w₁ ∧ o.run i w₁ = .ok () w₂ ∧
   log w₂ = log w₁ ++ calls ∧
   (calls = o.due (registry w history) (history.foldl Occurrence.stays w.loaded) ↔
    ∀ args, o = .host .renderComplete args →
     registered (registry w history) "RENDER_CANCEL" = registered (registry w history) "RENDER_COMPLETE") := by
 obtain ⟨w₁, ran₁, here, handlers, loaded⟩ := history_runs heard start
 obtain ⟨w₂, calls, ran₂, -, told, -, -, exact_iff⟩ := o.step heard here (by simp [handlers])
 rw [handlers, loaded] at exact_iff
 exact ⟨w₁, w₂, calls, ran₁, ran₂, told, exact_iff⟩

def listening : Interface where
 attr _ _ w := .ok .none w
 setAttr _ _ _ w := .ok () w
 invoke _ _ _ w := .ok .none w
 apply f args w := .ok .none { w with registers := w.registers ++ [("", noted args.pos f)] }

theorem heard_listening (fs : Fields) : Heard listening (fun _ => True) (fun w => w.registers.map (·.2)) fs where
 calls args _ _ := ⟨_, _, rfl, trivial, by simp, rfl, rfl⟩
 apart _ _ _ := ⟨trivial, rfl⟩

def cancelAndComplete : List Occurrence := [.register "RENDER_CANCEL" "a", .register "RENDER_COMPLETE" "b"]

/-- The function that waits for the end of a rendering is not called, and one that does not is. -/
theorem complete_unheard : ∃ w₁ w₂ calls, cancelAndComplete.forM Occurrence.run listening {} = .ok () w₁ ∧
   HostCall.serve .renderComplete [] listening w₁ = .ok () w₂ ∧
   w₂.registers.map (·.2) = w₁.registers.map (·.2) ++ calls ∧
   calls ≠ Occurrence.due (registry {} cancelAndComplete) false (.host .renderComplete []) := by
 obtain ⟨w₁, w₂, calls, ran₁, ran₂, told, exact_iff⟩ :=
  handlers_exact_iff cancelAndComplete (.host .renderComplete []) (heard_listening _) (w := {}) trivial
 refine ⟨w₁, w₂, calls, ran₁, ran₂, told, fun due => ?_⟩
 have same := exact_iff.mp due [] rfl
 have last : some (Value.str "a") = some (Value.str "b") := congrArg getLast? same
 simp at last

end AnimationGraph
