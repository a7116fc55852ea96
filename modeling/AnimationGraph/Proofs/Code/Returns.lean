import AnimationGraph.Execution.Units

/-! # What scripts hand back

The function of a script node is put together in several ways.  Whatever the code of the user does, as long as it has
no return of its own, a call that ends hands back one value for each result, in their order.  The one exception is code
that seems to import everything: its function ends without a return.
-/

namespace AnimationGraph.Code

/-- How a call ends: it raises and leaves a state, it runs to its last line, or it hands back values. -/
inductive Ending (σ α : Type)
 | raised (state : σ)
 | finished
 | returned (values : List α)

namespace Block
variable (act : Texts → σ → Bool × σ) (value : σ → String → Option α)

/-- A run, given whether lines go through and to which state, and what expressions are worth. -/
def run : Block → σ → Ending σ α
 | nothing, _ => .finished
 | after ls rest, s => if (act ls s).1 then rest.run (act ls s).2 else .raised (act ls s).2
 | handBack es, s => (es.mapM (value s)).elim (.raised s) .returned
 | guarded body handler, s =>
  match body.run s with
  | .raised s' => handler.run s'
  | ending => ending

/-- All ways to the end hand back one of some lists of expressions. -/
def HandsBack (values : List Texts) : Block → Prop
 | nothing => False
 | after _ rest => rest.HandsBack values
 | handBack es => es ∈ values
 | guarded body handler => body.HandsBack values ∧ handler.HandsBack values

theorem map_some_of_mapM {es : Texts} (worth : es.mapM f = some vs) :
  vs.map some = es.map f := by
 induction es generalizing vs with
 | nil => simp_all
 | cons e es ih =>
  obtain ⟨v, first, ws, rest, rfl⟩ : ∃ v, f e = some v ∧ ∃ ws, es.mapM f = some ws ∧ v :: ws = vs := by
   simpa [Option.bind_eq_some_iff] using worth
  simp [first, ih rest]

theorem HandsBack.run {b : Block} (hands : b.HandsBack values) (s : σ) :
  (∃ s', b.run act value s = .raised s') ∨
   ∃ s' vs, b.run act value s = .returned vs ∧ ∃ es ∈ values, vs.map some = es.map (value s') := by
 induction b generalizing s with
 | nothing => exact hands.elim
 | after ls rest ih =>
  simp only [Block.run]
  split
  · exact ih hands _
  · exact .inl ⟨_, rfl⟩
 | handBack es =>
  simp only [Block.run]
  cases worth : es.mapM (value s) with
  | none => exact .inl ⟨s, rfl⟩
  | some vs => exact .inr ⟨s, vs, rfl, es, hands, map_some_of_mapM worth⟩
 | guarded body handler first second =>
  simp only [Block.run]
  rcases first hands.1 s with ⟨s', raised⟩ | ⟨s', vs, returned, found⟩
  · simpa only [raised] using second hands.2 s'
  · exact .inr ⟨s', vs, by rw [returned], found⟩

end Block

namespace ScriptView
variable (s : ScriptView)

theorem main_handsBack (verdict : s.verdict ≠ .importsAll) :
  s.main.HandsBack [s.results.map (·.1), s.results.map (·.2)] := by
 unfold main
 split
 · contradiction
 · simp [Block.HandsBack]
 · split <;> simp [body, Block.HandsBack]

theorem main_finished (verdict : s.verdict = .importsAll) :
  s.main.run (fun _ m => (true, m)) (fun _ e => some e) () = .finished := by
 simp [main, verdict, Block.run]

/-- A call that does not raise hands back one value for each result in their order, those of the variables or of the
default expressions, whatever lines do and expressions are worth, exactly if the code does not seem to import
everything. -/
theorem returns_each_result_iff :
  (∀ (σ α : Type) (act : List String → σ → Bool × σ) (value : σ → String → Option α) (start : σ),
   (∃ last, s.main.run act value start = .raised last) ∨
   ∃ last values, s.main.run act value start = .returned values ∧ values.length = s.results.length ∧
    (values.map some = s.results.map (fun r => value last r.1) ∨
     values.map some = s.results.map (fun r => value last r.2))) ↔
  s.verdict ≠ .importsAll := by
 refine ⟨fun returns verdict => ?_, fun verdict σ α act value start => ?_⟩
 · simpa [s.main_finished verdict] using returns Unit String (fun _ m => (true, m)) (fun _ e => some e) ()
 · refine ((s.main_handsBack verdict).run act value start).imp id ?_
   rintro ⟨last, values, returned, es, listed, worth⟩
   have either : es = s.results.map (·.1) ∨ es = s.results.map (·.2) := by simpa using listed
   have length := congrArg List.length worth
   rcases either with rfl | rfl
   · exact ⟨last, values, returned, by simpa using length, .inl (by simpa [Function.comp_def] using worth)⟩
   · exact ⟨last, values, returned, by simpa using length, .inr (by simpa [Function.comp_def] using worth)⟩

end ScriptView

def remarked : String := "Integer = 1\nInteger_tz = 2  # no import * here"

/-- The remark is taken for one that imports everything, and the function hands back nothing. -/
theorem remarked_returns_nothing : (Script.parse remarked).isOk ∧ ∀ s : ScriptView, s.verdict = verdictOn remarked →
  s.main.run (fun _ m => (true, m)) (fun _ e => some e) () = .finished := by
 refine ⟨by decide +kernel, fun s verdict => s.main_finished ?_⟩
 rw [verdict]
 decide +kernel

end AnimationGraph.Code
