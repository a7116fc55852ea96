import AnimationGraph.Proofs.Code.Loop
import AnimationGraph.Proofs.Code.Routine
import AnimationGraph.Proofs.Code.Structs

/-! # Assignments to shared variables

The code of a node assigns to the variables of its outputs, also where it answers a failure with default values.  An
output that goes by the variable of an input shares it with all that reads the same object, so others are spared exactly
if nothing reads that variable later: no node behind, no next call and no next round.
-/

namespace AnimationGraph

open List

namespace Names

variable {table : Pairs} (worded : Worded table)

include worded

theorem renameAll_assignment (levels : Nat) (x value : String) :
  renameAll (indentation levels ++ x ++ " = " ++ value) table =
   indentation levels ++ renameAll x table ++ " = " ++ renameAll value table := by
 have behind (p : Place) (text : Chars) : rewrite (·.renamed table) (parts p [] (' ' :: text)) =
   ' ' :: rewrite (·.renamed table) (parts {} [] text) :=
  congrArg (' ' :: ·) (rewrite_renamed (by rfl) [] text)
 have blanks (k : Nat) (text : Chars) : rewrite (·.renamed table) (parts {} [] (replicate k ' ' ++ text)) =
   replicate k ' ' ++ rewrite (·.renamed table) (parts {} [] text) := by
  induction k with
  | zero => rfl
  | succ k ih => rw [replicate_succ, cons_append, behind, ih, cons_append]
 have equals : rewrite (·.renamed table) (parts ⟨.plain, some ' ', false⟩ [] ('=' :: ' ' :: value.toList)) =
   '=' :: ' ' :: rewrite (·.renamed table) (parts {} [] value.toList) := congrArg ('=' :: ·) (behind _ value.toList)
 have shape : (indentation levels ++ x ++ " = " ++ value).toList =
   replicate (4 * levels) ' ' ++ (x.toList ++ ' ' :: '=' :: ' ' :: value.toList) := by simp [indentation]
 refine String.toList_inj.mp ?_
 rw [renameAll_toList worded, shape, blanks, rewrite_append (by decide), equals]
 simp [indentation, renameAll_toList worded]

theorem renameAll_name (separate : Separate table) (mem : e ∈ table) :
  renameAll e.1 table = e.2 := by
 refine String.toList_inj.mp ?_
 have isWord := (worded e mem).1
 have read := @parts_append {} [] _ isWord.2 []
 rw [append_nil, nil_append] at read
 rw [renameAll_toList worded, read]
 simp only [parts, reading, List.isEmpty_iff, isWord.1, if_false, rewrite, flatMap_singleton, Sum.elim_inl,
  Occurrence.renamed, Occurrence.bare, Option.all_none, if_true, replaced_eq_lookup separate.apart]
 rcases lookup_cases table e.1.toList with ⟨f, mem', same, found⟩ | ⟨unknown, _⟩
 · rw [found, separate.one f mem' e mem (String.toList_inj.mp same)]
   rfl
 · exact absurd rfl (unknown e mem)

end Names

namespace Code

theorem Named.reach {before after later : List NodeView} (named : Named (before ++ (after ++ later)) vs)
  (arranged : Arranged (before ++ (after ++ later))) (honest : ∀ n ∈ before, Honest n)
  (calm : Undisturbed (before ++ after) later vs) :
  Arranged (after ++ later) ∧ Named (after ++ later) (statements before vs).2 ∧ ∀ s, Plain (after ++ later) s →
   Plain (before ++ (after ++ later)) s ∧ (statements before vs).2.of s = vs.of s := by
 induction before generalizing vs with
 | nil => exact ⟨arranged, named, fun s plain => ⟨plain, rfl⟩⟩
 | cons n before ih =>
  have mine := honest n mem_cons_self
  have calm' : Calm n (before ++ (after ++ later)) vs := by simpa using calm.1
  obtain ⟨arranged', named', kept⟩ := ih (named.step arranged mine calm') arranged.tail
   (fun p mem => honest p (mem_cons_of_mem _ mem)) calm.2
  refine ⟨arranged', named', fun s plain => ?_⟩
  obtain ⟨plain, name⟩ := kept s plain
  obtain ⟨plain, _, name'⟩ := plain_behind arranged mine vs plain
  exact ⟨plain, name.trans name'⟩

theorem LoopView.Proper.named {l : LoopView} (proper : l.Proper)
  (distinct : ((sockets l.nodes).map fun s => (Variables.initial l.nodes).of s.id).Nodup) : Named l.order l.start := by
 have wired := proper.wired.perm proper.perm
 have ids := proper.arranged.ids
 have labels := proper.labels
 refine .start proper.arranged wired.fed wired.fits (fun s => ?_) ?_
 · rw [start_of labels.keys]
   exact labels.unmarked l.nodes s
 · refine List.Nodup.map_on (fun s first t second same => ?_) ids.of_map
   rw [start_of labels.keys, start_of labels.keys] at same
   have sub : sockets l.order ⊆ sockets l.nodes := (proper.perm.flatMap_right _).subset
   exact inj_on_of_nodup_map ids first second (labels.injective distinct s (sub first) t (sub second) same)

/-- What runs node after node: a script, a call of a group, or a round of a loop. -/
inductive Course where
 | routine (r : Routine)
 | loop (l : LoopView)

namespace Course

def steps : Course → List NodeView
 | routine r => r.steps
 | loop l => l.body

def later : Course → List NodeView
 | routine r => r.exits
 | loop l => l.frame

def names : Course → Variables
 | routine r => r.names
 | loop l => (delivery l.input l.start).2

/-- The variables that the next call or round reads again: those of unlinked inputs, and those that the head of a round
does not bind. -/
def kept : Course → Texts
 | routine r => ((inputs (r.steps ++ r.exits)).filter (!·.isLinked)).map fun i => r.names.of i.id
 | loop l => (((inputs (l.body ++ l.frame)).filter (!·.isLinked)) ++ l.iterations :: l.parameters.map (·.socket)).map
   fun s => l.start.of s.id

def Sound : Course → Prop
 | routine r => r.Sound ∧ r.Undisturbed
 | loop l => l.Proper ∧ ((sockets l.nodes).map fun s => (Variables.initial l.nodes).of s.id).Nodup ∧
   Undisturbed l.body l.frame (delivery l.input l.start).2

theorem Sound.state : {c : Course} → c.Sound → Arranged (c.steps ++ c.later) ∧ Named (c.steps ++ c.later) c.names ∧
  (∀ n ∈ c.steps, Honest n) ∧ Undisturbed c.steps c.later c.names ∧
  ∀ o ∈ outputs (c.steps ++ c.later), c.names.of o.id ∉ c.kept
 | routine r, ⟨sound, calm⟩ => by
  obtain ⟨arranged, standing⟩ := sound.start Samples.terms
  refine ⟨arranged, standing.named, sound.honest_steps, calm, fun o isOutput read => ?_⟩
  obtain ⟨i, mem, same⟩ := mem_map.mp read
  obtain ⟨isInput, unlinked⟩ := mem_filter.mp mem
  exact input_ne_output arranged.ids isInput isOutput (standing.named.apart i.id o.id
   (.inr ⟨i, isInput, by simpa using unlinked, rfl⟩) (.inl (.inl ⟨o, isOutput, rfl⟩)) same)
 | loop l, ⟨proper, distinct, calm⟩ => by
  have arranged := proper.arranged
  have honest := proper.honest_order
  have named := proper.named distinct
  obtain ⟨_, entry⟩ := entry_statements proper.source l.start
  have first := honest l.input mem_cons_self
  have named' := named.step arranged first ⟨by simp [proper.source], by simp [proper.source]⟩
  rw [entry] at named'
  have inside : l.body ⊆ l.order := fun n mem => by simp [LoopView.order, mem]
  refine ⟨arranged.tail, named', fun n mem => honest n (inside mem), calm, fun o isOutput read => ?_⟩
  obtain ⟨plain, other, name⟩ := plain_behind arranged first l.start (.inl (.inl ⟨o, isOutput, rfl⟩))
  obtain ⟨s, mem, same⟩ := mem_map.mp read
  rw [entry] at name
  have same (plain' : Plain l.order s.id) := named.apart s.id o.id plain' plain (same.trans name)
  rcases mem_append.mp mem with mem | mem
  · obtain ⟨isInput, unlinked⟩ := mem_filter.mp mem
    exact input_ne_output arranged.tail.ids isInput isOutput
     (same (.inr ⟨s, by grind [LoopView.order], by simpa using unlinked, rfl⟩))
  · have isEntry : s ∈ l.input.outputs := by grind [proper.iterations, proper.parameters]
    exact other s isEntry (same (.inl (.inl ⟨s, by grind [LoopView.order], rfl⟩))).symm

structure Point (c : Course) where
 before : List NodeView
 node : NodeView
 after : List NodeView
 shape : c.steps = before ++ node :: after

namespace Point

variable {c : Course} (t : c.Point)

def rest : List NodeView := t.after ++ c.later

def vs : Variables := (statements t.before c.names).2

def names : Variables := (preparation t.node t.vs).2

def localNames : Pairs := Code.localNames t.node t.names

/-- What the line stands for assigns to the variable of the output. -/
def Assigns (line : String) (v : OutputView) : Prop := ∃ o, t.node.output? v.identifier = some o ∧ ∃ value,
 Names.renameAll line t.localNames = indentation 1 ++ t.names.of o.id ++ " = " ++ value

/-- The variable is read later: by an input that has its value by now, or in the next call or round. -/
def ReadsLater (x : String) : Prop :=
 (∃ j ∈ inputs t.rest, (∀ h ∈ links (t.node :: t.rest), h.2.id ≠ j.id) ∧ t.vs.of j.id = x) ∨ x ∈ c.kept

instance (x : String) : Decidable (t.ReadsLater x) := by unfold ReadsLater; infer_instance

/-- Assignments to these outputs give each its own value, and change nothing that is read later. -/
def Spares (os : List SocketView) : Prop := ∀ (V : Type) (value : SocketView → V) (m : Memory V),
 let m' := m.putAll .bindNew (os.map fun o => (t.names.of o.id, value o))
 (∀ o ∈ os, m'.value? (t.names.of o.id) = some (value o)) ∧ ∀ x, t.ReadsLater x → m'.value? x = m.value? x

variable {t}

theorem Spares.unread (spares : t.Spares os) (mem : o ∈ os) :
  ¬ t.ReadsLater (t.names.of o.id) := by
 intro read
 obtain ⟨shown, unchanged⟩ := spares Unit (fun _ => ()) Memory.empty
 have shown := shown o mem
 rw [unchanged _ read] at shown
 cases shown

variable (sound : c.Sound)

include sound

theorem state : Honest t.node ∧ Arranged (t.node :: t.rest) ∧ Named (t.node :: t.rest) t.vs ∧
  ∀ o ∈ t.node.outputs, t.vs.of o.id ∉ c.kept := by
 obtain ⟨arranged, named, honest, calm, unread⟩ := sound.state
 have split : c.steps ++ c.later = t.before ++ (t.node :: t.after ++ c.later) := by simp [t.shape]
 have isStep : t.node ∈ c.steps := by simp [t.shape]
 rw [split] at arranged named
 obtain ⟨arranged', named', same⟩ :=
  named.reach arranged (fun n mem => honest n (by simp [t.shape, mem])) (t.shape ▸ calm)
 refine ⟨honest _ isStep, arranged', named', fun o isOutput => ?_⟩
 rw [vs, (same o.id (.inl (.inl ⟨o, by grind, rfl⟩))).2]
 exact unread o (mem_flatMap.mpr ⟨t.node, mem_append_left _ isStep, isOutput⟩)

theorem readsLater_output (isOutput : o ∈ t.node.outputs) :
  t.ReadsLater (t.names.of o.id) ↔ ∃ p ∈ t.node.passes, p.2 = o ∧ t.ReadsLater (preparedName t.vs p.1) := by
 obtain ⟨honest, arranged, named, unread⟩ := state (t := t) sound
 constructor
 · intro read
   rcases names_of_output arranged honest t.vs isOutput with ⟨_, name⟩ | ⟨p, isPass, id, name⟩
   · rw [names, name] at read
     rcases read with ⟨j, isInput, unhanded, same⟩ | kept
     · exact absurd same.symm (named.fresh o.id j (.inl ⟨o, by grind, rfl⟩) ⟨by grind, unhanded⟩)
     · exact absurd kept (unread o isOutput)
   · exact ⟨p, isPass, inj_on_of_nodup_map arranged.ids (by grind) (by grind) id, name ▸ read⟩
 · rintro ⟨p, isPass, rfl, read⟩
   rwa [names, (preparation_names arranged honest t.vs).2.1 p isPass]

theorem spares_iff (sub : os.Sublist t.node.outputs) : t.Spares os ↔
  ∀ p ∈ t.node.passes, p.2 ∈ os → ¬ t.ReadsLater (preparedName t.vs p.1) ∧
   ∀ q ∈ t.node.passes, q.2 ∈ os → preparedName t.vs p.1 = preparedName t.vs q.1 → p.2.id = q.2.id := by
 obtain ⟨honest, arranged, named, _⟩ := state (t := t) sound
 have passed : ∀ p ∈ t.node.passes, t.names.of p.2.id = preparedName t.vs p.1 :=
  (preparation_names arranged honest t.vs).2.1
 constructor
 · intro spares p isPass mem
   refine ⟨passed p isPass ▸ spares.unread mem, fun q other mem' same => ?_⟩
   obtain ⟨shown, _⟩ := spares SocketId (·.id) Memory.empty
   have first := shown p.2 mem
   rw [passed p isPass, same, ← passed q other] at first
   exact Option.some.inj (first.symm.trans (shown q.2 mem'))
 · refine fun apart V value m => ⟨fun o mem => ?_, fun x read => ?_⟩
   · refine Memory.value?_putAll_of_mem Memory.puts_bindNew m ?_ (mem_map_of_mem mem)
     have outputs : t.node.outputs.Nodup :=
      (sockets_cons t.node t.rest ▸ arranged.ids.of_map).of_append_left.of_append_right
     rw [map_map]
     refine List.Nodup.map_on (fun o first q second same => ?_) (outputs.sublist sub)
     by_contra ne
     have ne : o.id ≠ q.id := fun same => ne (inj_on_of_nodup_map arranged.ids (by grind) (by grind) same)
     rcases names_of_output arranged honest t.vs (sub.subset first) with ⟨_, name⟩ | ⟨p, isPass, id, name⟩
     · exact named.output_fresh arranged honest (sub.subset second) (.inl ⟨o, by grind, rfl⟩) ne (name.symm.trans same)
     rcases names_of_output arranged honest t.vs (sub.subset second) with ⟨_, name'⟩ | ⟨p', isPass', id', name'⟩
     · exact named.output_fresh arranged honest (sub.subset first) (.inl ⟨q, by grind, rfl⟩) (Ne.symm ne)
        (name'.symm.trans same.symm)
     · obtain rfl : p.2 = o := inj_on_of_nodup_map arranged.ids (by grind) (by grind) id
       obtain rfl : p'.2 = q := inj_on_of_nodup_map arranged.ids (by grind) (by grind) id'
       exact ne ((apart p isPass first).2 p' isPass' second (name.symm.trans (same.trans name')))
   · refine Memory.value?_putAll_of_not_mem Memory.puts_bindNew m ?_
     rintro _ written rfl
     obtain ⟨o, mem, rfl⟩ := mem_map.mp written
     obtain ⟨p, isPass, rfl, again⟩ := (readsLater_output sound (sub.subset mem)).mp read
     exact (apart p isPass mem).1 again

omit sound

theorem output_local (own : (s, x) ∈ t.node.outputVariables)
  (found : t.node.output? s = some o) : (x, t.names.of o.id) ∈ t.localNames := by
 simp only [localNames, Code.localNames, mem_append, mem_filterMap, Option.map_eq_some_iff]
 exact .inr ⟨(s, x), own, o, found, rfl⟩

variable (worded : Names.Worded t.localNames) (separate : Names.Separate t.localNames)

include worded separate

theorem output_assigned (own : (s, x) ∈ t.node.outputVariables)
  (found : t.node.output? s = some o) (levels : Nat) (value : String) :
  Names.renameAll (indentation levels ++ x ++ " = " ++ value) t.localNames =
   indentation levels ++ t.names.of o.id ++ " = " ++ Names.renameAll value t.localNames := by
 rw [Names.renameAll_assignment worded, Names.renameAll_name worded separate (output_local own found)]

theorem defaultLines_assign (own : ∀ v ∈ views, (v.identifier, v.variableName) ∈
   t.node.outputVariables ∧ (t.node.output? v.identifier).isSome) (required : Texts) :
  List.Forall₂ t.Assigns (CodeChange.defaultLines views required) (views.filter (required.contains ·.identifier)) := by
 unfold CodeChange.defaultLines
 generalize 0 = k
 induction views generalizing k with
 | nil => exact .nil
 | cons v views ih =>
  have rest := ih (fun v mem => own v (mem_cons_of_mem _ mem)) (k + 1)
  rw [zipIdx_cons, filterMap_cons, filter_cons]
  by_cases isRequired : required.contains v.identifier
  · obtain ⟨isOwn, found⟩ := own v mem_cons_self
    obtain ⟨o, found⟩ := Option.isSome_iff_exists.mp found
    simp only [isRequired, if_true]
    exact .cons ⟨o, found, _, output_assigned worded separate isOwn found 1 _⟩ rest
  · simp only [isRequired]
    exact rest

include sound

/-- When a node fails, its required outputs get their default values.  Each of them shows its own, and nothing that is
read later changes, exactly if the outputs do not share variables with each other or with such inputs. -/
theorem defaults_spare_others_iff (views : List OutputView) (own : ∀ v ∈ views, (v.identifier, v.variableName) ∈
   t.node.outputVariables ∧ (t.node.output? v.identifier).isSome) (required : List String) :
  List.Forall₂ t.Assigns (CodeChange.defaultLines views required) (views.filter (required.contains ·.identifier)) ∧
  (t.Spares (t.node.outputs.filter (required.contains ·.identifier)) ↔
   ∀ p ∈ t.node.passes, p.2.identifier ∈ required → ¬ t.ReadsLater (preparedName t.vs p.1) ∧
    ∀ q ∈ t.node.passes, q.2.identifier ∈ required → preparedName t.vs p.1 = preparedName t.vs q.1 →
     p.2.id = q.2.id) := by
 refine ⟨defaultLines_assign worded separate own required, (spares_iff sound filter_sublist).trans ?_⟩
 have isRequired (p : SocketView × SocketView) (isPass : p ∈ t.node.passes) :
   p.2 ∈ t.node.outputs.filter (required.contains ·.identifier) ↔ p.2.identifier ∈ required := by
  simp [(mem_of_mem_passes isPass).2]
 constructor <;> intro apart p isPass named <;> have := apart p isPass <;> grind

/-- The code of an expression assigns to its output, and reads its inputs by their variables.  Nothing that is read later
changes exactly if no input is named like the result whose variable is read later. -/
theorem expression_spares_others_iff {o : SocketView} (single : t.node.outputs = [o])
  (own : t.node.outputVariables = [(o.identifier, "result")]) :
  (∀ levels code, Names.renameAll (indentation levels ++ "result" ++ " = " ++ code) t.localNames =
   indentation levels ++ t.names.of o.id ++ " = " ++ Names.renameAll code t.localNames) ∧
  (∀ p ∈ t.node.inputVariables, ∀ i, t.node.input? p.1 = some i →
   Names.renameAll p.2 t.localNames = preparedName t.vs i) ∧
  (t.Spares [o] ↔ ∀ p ∈ t.node.inputVariables, p.2 = "result" → ∀ i, t.node.input? p.1 = some i →
   ¬ t.ReadsLater (preparedName t.vs i)) := by
 obtain ⟨honest, arranged, _⟩ := state (t := t) sound
 have found : t.node.output? o.identifier = some o := by simp [NodeView.output?, single]
 have isOwn : (o.identifier, "result") ∈ t.node.outputVariables := by simp [own]
 have input : ∀ p ∈ t.node.inputVariables, ∀ i, t.node.input? p.1 = some i →
   (p.2, preparedName t.vs i) ∈ t.localNames := by
  intro p isOwn i found
  rw [← (preparation_names arranged honest t.vs).1 i (mem_of_find?_eq_some found)]
  simp only [localNames, Code.localNames, mem_append, mem_cons, mem_filterMap, Option.map_eq_some_iff]
  exact .inl (.inr ⟨p, isOwn, i, found, rfl⟩)
 have reads p isOwn i found := Names.renameAll_name worded separate (input p isOwn i found)
 refine ⟨output_assigned worded separate isOwn found, reads, ?_, ?_⟩
 · rintro spares ⟨_, _⟩ isInput rfl i isFound read
   have same : preparedName t.vs i = t.names.of o.id :=
    separate.one _ (input _ isInput i isFound) _ (output_local isOwn found) rfl
   exact spares.unread (mem_singleton_self o) (same ▸ read)
 · refine fun unread => (spares_iff sound (by simp [single])).mpr fun p isPass _ => ⟨?_, fun q other _ _ => ?_⟩
   · simp only [NodeView.passes, NodeView.innerLinks, own, mem_filterMap, mem_singleton,
      Option.bind_eq_some_iff, Option.map_eq_some_iff] at isPass
     obtain ⟨_, ⟨_, rfl, e, isLast, rfl⟩, i, isInput, _, _, rfl⟩ := isPass
     obtain ⟨isInner, isResult⟩ := mem_filter.mp (mem_of_getLast? isLast)
     exact unread e isInner (by simpa using isResult) i isInput
   · have first := (mem_of_mem_passes isPass).2
     have second := (mem_of_mem_passes other).2
     simp_all

end Point

open Samples

/-- The node `n` gets an object from `a` and passes it on to `u` if its input goes by the name of its result.  The object
may go to `v` as well. -/
def handedOn (name : String) (also : Bool) : List NodeView :=
 [node "a" [] [output 0 "Object" (⟨⟨1⟩, false⟩ :: if also then [⟨⟨4⟩, false⟩] else [])],
  { node "n" [input 1 "Object" "Object"] [output 2 "Object" [⟨⟨3⟩, false⟩]] with
    inputVariables := [("value", name)], outputVariables := [("result", "result")] },
  node "u" [input 3 "Object" "Object"] [], node "v" [input 4 "Object" (if also then some "Object" else none)] []]

def atHandingOn (name : String) (also : Bool) : (routine (.main (handedOn name also))).Point :=
 ⟨[_], _, [_, _], rfl⟩

theorem handedOn_sound : (routine (.main (handedOn "result" true))).Sound ∧
  (routine (.main (handedOn "result" false))).Sound ∧ (routine (.main (handedOn "x" true))).Sound := by
 refine ⟨?_, ?_, ?_⟩ <;>
  refine ⟨⟨⟨typed_of_names (.replicate 5 "Object") rfl ?_, ?_, ?_, ?_, ?_⟩, ?_, ?_, ?_, nofun⟩, ?_⟩ <;> decide +kernel

theorem default_unshared : (atHandingOn "result" false).Spares [output 2 "Object" [⟨⟨3⟩, false⟩]] :=
 (Point.defaults_spare_others_iff handedOn_sound.2.1 (by decide +kernel) ⟨by decide +kernel, by decide +kernel⟩
  [⟨true, "result", "result", none⟩] (by decide +kernel) ["result"]).2.mpr (by decide +kernel)

/-- Where `v` gets the object too, it reads the variable that the default value is assigned to. -/
theorem default_reaches_others :
  let t := atHandingOn "result" true
  (routine (.main (handedOn "result" true))).Sound ∧
  (CodeChange.defaultLines [⟨true, "result", "result", some "None"⟩] ["result"]).map (Names.renameAll · t.localNames) =
   ["    " ++ t.vs.of ⟨4⟩ ++ " = None"] ∧ t.ReadsLater (t.vs.of ⟨4⟩) ∧ ¬ t.Spares t.node.outputs :=
 ⟨handedOn_sound.1, by decide +kernel, by decide +kernel, fun spares =>
  spares.unread (mem_singleton_self _) (by decide +kernel)⟩

theorem sum_unshared :
  let t := atHandingOn "x" true
  Names.renameAll "result = x + 'b'" t.localNames = t.names.of ⟨2⟩ ++ " = " ++ t.vs.of ⟨1⟩ ++ " + 'b'" ∧
   t.Spares t.node.outputs := by
 obtain ⟨assigns, reads, spares⟩ := Point.expression_spares_others_iff (t := atHandingOn "x" true) handedOn_sound.2.2
  (by decide +kernel) ⟨by decide +kernel, by decide +kernel⟩ rfl rfl
 exact ⟨(assigns 0 "x + 'b'").trans (by decide +kernel), spares.mpr (by decide +kernel)⟩

/-- An input with the name of the result shares its variable with `v`, and the code assigns to it. -/
theorem sum_reaches_others :
  let t := atHandingOn "result" true
  (routine (.main (handedOn "result" true))).Sound ∧
   Names.renameAll "result = result + 'b'" t.localNames = t.vs.of ⟨4⟩ ++ " = " ++ t.vs.of ⟨4⟩ ++ " + 'b'" ∧
   t.ReadsLater (t.vs.of ⟨4⟩) ∧ ¬ t.Spares t.node.outputs :=
 ⟨handedOn_sound.1, by decide +kernel, by decide +kernel, fun spares =>
  spares.unread (mem_singleton_self _) (by decide +kernel)⟩

end Course
end Code
end AnimationGraph
