import AnimationGraph.Proofs.Code.Loop
import AnimationGraph.Proofs.Code.Routine

/-! # From round to round

Parameters are reassigned one after the other.  As long as none of these steps reads what another one writes,
each of them sees the values of the round, in whatever order they come.  Rounds keep apart: none of them
changes an object that an earlier one has added to a generator or handed to a parameter.
-/

namespace AnimationGraph.Code

open List

namespace LoopView

variable {b : LoopBehaviour V}

/-- No reassignment needs a conversion, and none uses the parameter of another one. -/
def Independent (vs : Variables) (rs : List ReassignView) : Prop :=
 (∀ r ∈ rs, converted r.node = []) ∧
  rs.Pairwise fun r s => vs.of r.parameter ∉ s.uses vs ∧ vs.of s.parameter ∉ r.uses vs

instance (vs : Variables) (rs : List ReassignView) : Decidable (Independent vs rs) :=
 have (n : NodeView) : Decidable (converted n = []) := decidable_of_iff _ isEmpty_iff
 inferInstanceAs (Decidable (_ ∧ _))

theorem Independent.perm (independent : Independent vs rs) (perm : rs'.Perm rs) :
  Independent vs rs' :=
 ⟨fun r mem => independent.1 r (perm.mem_iff.mp mem),
  (perm.pairwise_iff fun apart => apart.symm).mpr independent.2⟩

theorem reassign_congr {r : ReassignView} (same : ∀ x ∈ r.uses vs, m'.value? x = m.value? x) :
  r.ready b vs m' = r.ready b vs m ∧ r.assigned b vs m' = r.assigned b vs m := by
 simp only [ReassignView.uses, map_cons, mem_cons, forall_eq_or_imp, mem_map] at same
 have met : r.met b vs m' = r.met b vs m := by
  cases found : r.condition with
  | none => simp [ReassignView.met, found]
  | some c => simp [ReassignView.met, found, same.2.2 _ ⟨c, by simp [found], rfl⟩]
 simp only [ReassignView.ready, ReassignView.assigned, met, same.1, same.2.1, and_self]

theorem executeTurns_reassigns (independent : Independent vs rs) (p : Progress V) :
  (executeTurns b (rs.map (.reassign · vs)) p).isSome = rs.all (·.ready b vs p.memory) ∧
   ∀ on q, executeTurns b (rs.map (.reassign · vs)) p = some (on, q) → on = true ∧ q.added = p.added ∧
    (∀ r ∈ rs, q.memory.value? (vs.of r.parameter) = r.assigned b vs p.memory) ∧
    ∀ x, (∀ r ∈ rs, vs.of r.parameter ≠ x) → q.memory.value? x = p.memory.value? x := by
 induction rs generalizing p with
 | nil => exact ⟨rfl, by rintro _ _ ⟨⟩; simp⟩
 | cons r rs ih =>
  obtain ⟨plain, apart⟩ := independent
  obtain ⟨apart, later⟩ := pairwise_cons.mp apart
  have ready : ((Turn.reassign r vs).execute b p).isSome = r.ready b vs p.memory :=
   isSome_reassign (plain r mem_cons_self)
  simp only [map_cons, executeTurns, all_cons]
  cases done : (Turn.reassign r vs).execute b p with
  | none => simp_all
  | some out =>
   obtain ⟨_, p₁⟩ := out
   obtain ⟨rfl, added, _, values⟩ := reassign_spec (fun _ => True) (plain r mem_cons_self) done
   obtain ⟨more, rest⟩ := ih ⟨fun s mem => plain s (mem_cons_of_mem _ mem), later⟩ p₁
   have same : ∀ s ∈ rs, s.ready b vs p₁.memory = s.ready b vs p.memory ∧
     s.assigned b vs p₁.memory = s.assigned b vs p.memory := fun s mem =>
    reassign_congr fun x isUsed => (values x).trans (if_neg (by rintro rfl; exact (apart s mem).1 isUsed))
   simp only [Option.bind_some]
   refine ⟨?_, fun on q ran => ?_⟩
   · rw [more, ← ready, done, Option.isSome_some, Bool.true_and]
     rw [Bool.eq_iff_iff, all_eq_true, all_eq_true]
     exact forall₂_congr fun s mem => by rw [(same s mem).1]
   · obtain ⟨on, more, each, others⟩ := rest on q ran
     refine ⟨on, more.trans added, fun s mem => ?_, fun x unused => ?_⟩
     · rcases mem_cons.mp mem with rfl | mem
       · rw [others _ fun s mem same => (apart s mem).1 (by simp [ReassignView.uses, same]), values, if_pos rfl]
       · exact (each s mem).trans (same s mem).2
     · rw [others x fun s mem => unused s (mem_cons_of_mem _ mem), values,
        if_neg (unused r mem_cons_self).symm]

/-- A round hands values to its parameters all at once: whatever the order of the reassign nodes is, each of
them reads the values that the nodes of the round have left, and other variables keep these values. -/
theorem reassigned_at_once (l : LoopView) (independent : Independent l.round.2 l.reassigns) (perm : rs.Perm l.reassigns)
  (b : LoopBehaviour V) {index : Nat} {row : List V} (ran : l.perform b index row p = some (true, q)) :
  (∀ mode, l.script mode = l.rendered mode) ∧
   ∃ obs m q', executeAll b.toBehaviour l.round.1 (p.memory.putAll .bindNew (head b index row)) = some (obs, m) ∧
    { l with reassigns := rs }.perform b index row p = some (true, q') ∧ q'.added = q.added ∧
    (∀ r ∈ l.reassigns, q'.memory.value? (l.round.2.of r.parameter) = r.assigned b l.round.2 m) ∧
    ∀ x, (∀ r ∈ l.reassigns, l.round.2.of r.parameter ≠ x) → q'.memory.value? x = m.value? x := by
 refine ⟨l.script_eq, ?_⟩
 obtain ⟨⟨obs, m⟩, done, turned⟩ := Option.bind_eq_some_iff.mp ran
 let early := { l with reassigns := [] }.turns l.round.2
 have turns {rs : List ReassignView} (independent : Independent l.round.2 rs) :
   { l with reassigns := rs }.turns l.round.2 = early ++ rs.map (.reassign · l.round.2) := by
  simp [LoopView.turns, reassignTurns_eq independent.1, early, reassignTurns]
 dsimp only at turned
 rw [turns independent, executeTurns_append] at turned
 obtain ⟨⟨_ | _, p₁⟩, first, rest⟩ := Option.bind_eq_some_iff.mp turned
 · cases rest
 have kept : ∀ x, p₁.memory.value? x = m.value? x := by
  refine executeTurns_induction (P := fun p q => ∀ x, q.memory.value? x = p.memory.value? x) (fun _ _ => rfl)
   (fun first second x => (second x).trans (first x)) (fun t mem p on q ran x => ?_) first
  have other : ∀ r vs, t ≠ .reassign r vs := by grind [LoopView.turns, reassignTurns]
  obtain ⟨bound, _, objects, _⟩ := Turn.quiet other ran
  exact Memory.value?_of_prefix objects (by rw [bound])
 have independent' := independent.perm perm
 obtain ⟨ready, last⟩ := executeTurns_reassigns independent p₁
 obtain ⟨ready', last'⟩ := executeTurns_reassigns independent' p₁
 have succeeds : (executeTurns b (rs.map (.reassign · l.round.2)) p₁).isSome := by
  rw [ready', perm.all_eq, ← ready]
  exact Option.isSome_iff_exists.mpr ⟨_, rest⟩
 obtain ⟨⟨on, q'⟩, ran'⟩ := Option.isSome_iff_exists.mp succeeds
 obtain ⟨rfl, added, each, others⟩ := last' on q' ran'
 refine ⟨obs, m, q', done, ?_, added.trans (last true q rest).2.1.symm, fun r mem => ?_, fun x unused => ?_⟩
 · refine Option.bind_eq_some_iff.mpr ⟨_, done, ?_⟩
   change executeTurns b ({ l with reassigns := rs }.turns l.round.2) _ = _
   rw [turns independent', executeTurns_append, first]
   exact ran'
 · rw [each r (perm.mem_iff.mpr mem), (reassign_congr fun x _ => kept x).2]
 · rw [others x fun r mem => unused r (perm.mem_iff.mp mem), kept]

end LoopView

open Samples

def loopTerms : LoopBehaviour String := { terms with number := toString, holds := (· != "False"), items := fun v => [v] }

/-- Two parameters, whose values are handed to these inputs: the first one to the reassign node of the first
parameter, the second one to that of the second parameter. -/
def parameterPair (p q : Nat) : LoopView :=
 let first := node "in" [] [output 0 "Integer" [], output 1 "Integer" [], output 2 "Text" [⟨⟨p⟩, false⟩],
  output 3 "Text" [⟨⟨q⟩, false⟩]] "an_LoopInputNode"
 let hands (name : String) (index : Nat) := node name [input index "Text" "Text"] [] "an_ReassignLoopParameterNode"
 { nodes := [first, hands "r" 4, hands "s" 5]
   input := first
   index := ⟨0⟩
   iterations := output 1 "Integer" []
   iterators := []
   parameters := [⟨output 2 "Text" [⟨⟨p⟩, false⟩], true, true⟩, ⟨output 3 "Text" [⟨⟨q⟩, false⟩], true, true⟩]
   generators := []
   reassigns := [⟨hands "r" 4, none, input 4 "Text" "Text", ⟨2⟩⟩, ⟨hands "s" 5, none, input 5 "Text" "Text", ⟨3⟩⟩]
   breaks := []
   viewers := [] }

def pairAfter (l : LoopView) : Option (List (Option String)) :=
 (l.perform loopTerms 0 [] (l.enter loopTerms ⟨1, [], ["p", "q"]⟩)).map fun out =>
  l.parameters.map fun s => out.2.memory.value? (l.start.of s.socket.id)

theorem parameterPair_reassigned :
  LoopView.Independent (parameterPair 4 5).round.2 (parameterPair 4 5).reassigns ∧
   ∃ q', { parameterPair 4 5 with reassigns := (parameterPair 4 5).reassigns.reverse }.perform loopTerms 0 []
    ((parameterPair 4 5).enter loopTerms ⟨1, [], ["p", "q"]⟩) = some (true, q') := by
 have independent : LoopView.Independent (parameterPair 4 5).round.2 (parameterPair 4 5).reassigns := by decide +kernel
 have runs : ((parameterPair 4 5).perform loopTerms 0 [] ((parameterPair 4 5).enter loopTerms ⟨1, [], ["p", "q"]⟩)).map
   (·.1) = some true := by decide +kernel
 obtain ⟨⟨_, q⟩, ran, rfl⟩ := Option.map_eq_some_iff.mp runs
 obtain ⟨_, _, _, q', _, ran', _⟩ := LoopView.reassigned_at_once _ independent (reverse_perm _) loopTerms ran
 exact ⟨independent, q', ran'⟩

/-- Where two parameters are to be exchanged, the second step reads what the first one has written, and the
order of the reassign nodes shows. -/
theorem parameterPair_not_exchanged :
  pairAfter (parameterPair 5 4) = some [some "q", some "q"] ∧
   pairAfter { parameterPair 5 4 with reassigns := (parameterPair 5 4).reassigns.reverse } =
    some [some "p", some "p"] ∧
   ((parameterPair 5 4).reassigns.map fun r => r.assigned loopTerms (parameterPair 5 4).round.2
     ((parameterPair 5 4).enter loopTerms ⟨1, [], ["p", "q"]⟩).memory) = [some "q", some "p"] := by
 decide +kernel

namespace LoopView

theorem performAll_follows {l : LoopView} {index : Nat}
  (step : ∀ row ∈ rows, ∀ index p on q, l.perform b index row p = some (on, q) → p.Follows free q)
  (ran : l.performAll b index rows p = some q) : p.Follows free q := by
 induction rows generalizing index p with
 | nil =>
  cases ran
  exact .still prefix_rfl prefix_rfl rfl fun _ _ => rfl
 | cons row rows ih =>
  obtain ⟨⟨on, p₁⟩, done, rest⟩ := Option.bind_eq_some_iff.mp ran
  have first := step row mem_cons_self index p on p₁ done
  cases on with
  | true => exact first.trans (ih (fun row mem => step row (mem_cons_of_mem _ mem)) rest)
  | false =>
   cases rest
   exact first

theorem safe_of_copyAlways {l : LoopView} (proper : l.Proper)
  (copied : ∀ q ∈ l.parameters, q.socket.copyAlways = true) : ∀ h ∈ handovers l.input, getsCopy h = false →
   ∀ i ∈ inputs (l.body ++ l.frame), h.2.id = i.id → Owner i → ∃ j ∈ l.iterators, j.1.id = h.1.id := by
 intro h mem shared i behind id owner
 obtain ⟨copyable, modified⟩ := Named.copyable_of_owner proper.arranged mem behind id owner
 obtain ⟨isOutput, isTarget⟩ := mem_of_mem_handovers mem
 have linked : h.1.isLinked = true := by
  simp only [handovers, NodeView.linkedOutputs, mem_flatMap, mem_map, mem_filter] at mem
  grind
 rcases proper.entries h.1 isOutput linked with ⟨_, uncopyable⟩ | iterator | ⟨q, isParameter, same⟩
 · simp [uncopyable] at copyable
 · exact iterator
 · have equal : q.socket = h.1 := inj_on_of_nodup_map proper.arranged.ids
    (by grind [order, proper.parameters q isParameter]) (by grind [order]) same
   have always := equal ▸ copied q isParameter
   simp only [getsCopy, copiedTargets, always] at shared
   simp_all

/-- Rounds are isolated: what an object holds when a round starts, it holds ever after, so elements of
generators stay as they are.  A parameter has the object that was handed to it last, or the one it had. -/
theorem rounds_isolated (l : LoopView) (proper : l.Proper) (copied : ∀ q ∈ l.parameters, q.socket.copyAlways = true)
  (asItIs : ∀ i ∈ inputs l.nodes, conversionCode? i = none) (b : LoopBehaviour V) {index : Nat} {rows : List (List V)}
  (arity : ∀ row ∈ rows, row.length = l.iterators.length) (ran : l.performAll b index rows p = some q) :
  (∀ mode, l.script mode = l.rendered mode) ∧
   (∀ (k : Nat) v, p.memory.objects[k]? = some v → q.memory.objects[k]? = some v) ∧ p.added <+: q.added ∧
   ∃ new, q.handed = p.handed ++ new ∧
    (((sockets l.nodes).map fun s => (Variables.initial l.nodes).of s.id).Nodup → ∀ s ∈ l.parameters,
      q.memory.bound (l.start.of s.socket.id) =
       (new.reverse.lookup (l.start.of s.socket.id)).or (p.memory.bound (l.start.of s.socket.id))) := by
 obtain ⟨objects, added, new, handed, bound⟩ := performAll_follows (fun row mem index p on q =>
  perform_follows proper asItIs (safe_of_copyAlways proper copied) (arity row mem)) ran
 refine ⟨l.script_eq, fun k v here => ?_, added, new, handed, fun distinct s mem => bound _ ?_⟩
 · have inside := (List.getElem?_eq_some_iff.mp here).1
   rw [prefix_iff_getElem?.mp objects k inside, ← here, getElem?_eq_getElem inside]
 · refine free_of_kept proper distinct ?_ (.inl (proper.parameters s mem))
   have keys := proper.keys
   simp only [nodup_cons, mem_cons, mem_append, mem_map, nodup_append] at keys ⊢
   grind

end LoopView

/-- Each round changes the element of an iterator and adds it to a generator, and it changes a copy of a
parameter and hands it to the parameter. -/
def changedElements : LoopView :=
 let first := node "in" [] [output 0 "Integer" [], output 1 "Integer" [], output 2 "Euler" [⟨⟨4⟩, true⟩],
  { output 3 "Euler" [⟨⟨6⟩, true⟩] with copyAlways := true }] "an_LoopInputNode"
 let adds := node "g" [input 8 "Euler" "Euler", input 9 "Boolean" none] [] "an_LoopGeneratorOutputNode"
 let hands := node "r" [input 10 "Euler" "Euler"] [] "an_ReassignLoopParameterNode"
 { nodes := [first, node "b" [input 4 "Euler" "Euler" true] [output 5 "Euler" [⟨⟨8⟩, false⟩]],
    node "c" [input 6 "Euler" "Euler" true] [output 7 "Euler" [⟨⟨10⟩, false⟩]], adds, hands]
   input := first
   index := ⟨0⟩
   iterations := output 1 "Integer" []
   iterators := [(output 2 "Euler" [⟨⟨4⟩, true⟩], false)]
   parameters := [⟨{ output 3 "Euler" [⟨⟨6⟩, true⟩] with copyAlways := true }, true, true⟩]
   generators := [⟨adds, "Euler List", "append", ⟨9⟩, input 8 "Euler" "Euler"⟩]
   reassigns := [⟨hands, none, input 10 "Euler" "Euler", ⟨3⟩⟩]
   breaks := []
   viewers := [] }

theorem changedElements_proper : changedElements.Proper := by
 refine ⟨⟨typed_of_names ["Integer", "Integer", "Euler", "Euler", "Euler", "Euler", "Euler", "Euler", "Euler", "Boolean",
  "Euler"] rfl ?_, ?_, ?_, ?_, ?_⟩, ?_, ?_, ?_, rfl, rfl, ?_, ?_, ?_, by simp [changedElements, node],
  by simp [changedElements, node], by simp [changedElements]⟩ <;> decide +kernel

theorem changedElements_isolated :
  changedElements.Proper ∧ ∃ p q, changedElements.performAll loopTerms 1 [["second"]] p = some q ∧
   p.added.map (fun e => p.memory.objects[e.2]?) = [some "changed by b"] ∧
   (∀ (k : Nat) v, p.memory.objects[k]? = some v → q.memory.objects[k]? = some v) ∧ p.added <+: q.added := by
 have proper := changedElements_proper
 have first : (changedElements.performAll loopTerms 0 [["first"]] (changedElements.enter loopTerms
   ⟨1, [], ["old"]⟩)).map (fun p => p.added.map fun e => p.memory.objects[e.2]?) = some [some "changed by b"] := by
  decide +kernel
 have runs : ((changedElements.performAll loopTerms 0 [["first"]] (changedElements.enter loopTerms ⟨1, [], ["old"]⟩)).bind
   (changedElements.performAll loopTerms 1 [["second"]])).isSome := by decide +kernel
 obtain ⟨p, start, shows⟩ := Option.map_eq_some_iff.mp first
 rw [start] at runs
 obtain ⟨q, ran⟩ := Option.isSome_iff_exists.mp runs
 obtain ⟨_, kept, added, _⟩ := LoopView.rounds_isolated _ proper (by decide) (by decide +kernel) loopTerms
  (by simp [changedElements]) ran
 exact ⟨proper, p, q, ran, shows, kept, added⟩

end AnimationGraph.Code
