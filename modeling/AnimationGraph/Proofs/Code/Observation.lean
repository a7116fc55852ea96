import AnimationGraph.Proofs.Code.Routine

/-! # What nodes observe

Each input shows what its origin left, whatever other nodes have done to objects that they share a
variable with: without conversions always, and with conversions exactly if no conversion writes to the
variable of an input that is still to be read.
-/

namespace AnimationGraph.Code

open List

namespace Routine

theorem observation_unique {obs : List (Observation V)}
  (single : ((links (obs.map (·.node))).map (·.2.id)).Nodup) (first : ob ∈ obs)
  (second : ob' ∈ obs) (mem : h ∈ handovers ob.node)
  (mem' : h' ∈ handovers ob'.node) (same : h.2.id = h'.2.id) : ob = ob' ∧ h = h' := by
 have equal : h = h' := inj_on_of_nodup_map single (mem_flatMap.mpr ⟨_, mem_map_of_mem first, mem⟩)
  (mem_flatMap.mpr ⟨_, mem_map_of_mem second, mem'⟩) same
 have apart := single.of_map
 rw [links, flatMap_map, nodup_flatMap] at apart
 refine ⟨?_, equal⟩
 by_contra ne
 have : Std.Symm (Function.onFun List.Disjoint fun ob : Observation V => handovers ob.node) := ⟨fun _ _ apart _ first second => apart second first⟩
 exact apart.2.forall first second ne mem (equal ▸ mem')

/-- Each input shows what its origin showed right after the origin's node had run, or the value of its
own; objects that a node does not change stay as they are. -/
theorem inputs_show_origins (r : Routine) (sound : r.Sound) (asItIs : ∀ i ∈ inputs r.nodes, conversionCode? i = none) :
  (∀ mode, r.text mode = r.rendered mode) ∧ ∀ {V : Type} (b : Behaviour V), ∃ obs, r.run b = some obs ∧
   obs.map (·.node) = r.steps ++ r.exits ∧ ∀ ob ∈ obs, ∀ i ∈ ob.node.inputs,
    (∀ origin ∈ obs, ∀ h ∈ handovers origin.node, h.2.id = i.id → ob.seen i.id = origin.left h.1.id) ∧
    (i.isLinked = true → ∃ origin ∈ obs, ∃ h ∈ handovers origin.node, h.2.id = i.id ∧ (ob.seen i.id).isSome) ∧
    (i.isLinked = false → ob.seen i.id = some (b.load (valueExpression ob.node.identifier i))) ∧
    (changes i = false → ob.left i.id = ob.seen i.id) := by
 refine ⟨sound.text_eq, fun b => ?_⟩
 obtain ⟨wired, fewer⟩ := sound.wired_order
 have asItIs : ∀ i ∈ inputs (r.steps ++ r.exits), conversionCode? i = none := fun i mem => asItIs i (fewer mem)
 have calm : r.Undisturbed := undisturbed_of_no_code _ (fun i mem => asItIs i (by simp_all [inputs])) _
 obtain ⟨obs, last, ran, order, ends, faithful, exits⟩ := sound.keeps calm b
 have order : (obs ++ last).map (·.node) = r.steps ++ r.exits := by simp [order, ends]
 refine ⟨obs ++ last, ran, order, fun ob mem i isInput => ?_⟩
 have isNode : ob.node ∈ r.steps ++ r.exits := order ▸ mem_map_of_mem mem
 have isInput' : i ∈ inputs (r.steps ++ r.exits) := mem_inputs.mpr ⟨_, isNode, isInput⟩
 obtain ⟨v, due, seen, kept⟩ : ∃ v, Due b (obs ++ last) ob.node i v ∧ ob.seen i.id = some v ∧
   (changes i = false → ob.left i.id = ob.seen i.id) := by
  rcases mem_append.mp mem with here | atEnd
  · obtain ⟨v, due, seen⟩ := (faithful ob here).arrived i isInput
    exact ⟨v, due, by simpa [arrive, asItIs i isInput'] using seen, (faithful ob here).kept i isInput⟩
  · obtain ⟨left, seen⟩ := exits ob atEnd
    obtain ⟨v, due, seen⟩ := seen i isInput
    exact ⟨v, due, seen, fun _ => by rw [left]⟩
 refine ⟨fun origin isOrigin h isLink id => ?_, fun linked => ?_, fun unlinked => ?_, kept⟩
 · have isLink' : h ∈ links (r.steps ++ r.exits) :=
    mem_flatMap.mpr ⟨origin.node, order ▸ mem_map_of_mem isOrigin, isLink⟩
   obtain ⟨j, isTarget, fits⟩ := wired.fits h isLink'
   have equal : j = i := inj_on_of_nodup_map (sound.start b).1.ids (by grind) (by grind) (fits.id.trans id)
   simp only [Due, ← equal, fits.linked, if_true] at due
   obtain ⟨from', isOrigin', h', isLink', id', left⟩ := due
   obtain ⟨rfl, rfl⟩ := observation_unique (order ▸ wired.single) isOrigin isOrigin' isLink isLink'
    (fits.id.symm.trans id'.symm)
   rw [seen, left]
 · simp only [Due, linked, if_true] at due
   obtain ⟨origin, isOrigin, h, isLink, id, _⟩ := due
   exact ⟨origin, isOrigin, h, isLink, id, by simp [seen]⟩
 · simpa [Due, unlinked, seen] using due

end Routine

open Samples

def sharedList : GroupView :=
 let first := node "in" [] [output 0 "Float List" [⟨⟨2⟩, true⟩, ⟨⟨4⟩, false⟩], output 1 "Node Control" []]
  "an_GroupInputNode"
 let last := node "out" [input 6 "Float List" "Float List", input 7 "Float List" none, input 8 "Node Control" none] []
  "an_GroupOutputNode"
 { nodes := [first, node "b" [input 2 "Float List" "Float List" true] [output 3 "Float List" [⟨⟨6⟩, false⟩]],
    node "c" [input 4 "Float List" "Float List", input 5 "Float" none] [], last]
   input := first
   output := some last }

theorem sharedList_sound : (Routine.group sharedList).Sound where
 wired :=
  { typed := typed_of_names ["Float List", "Node Control", "Float List", "Float List", "Float List", "Float",
     "Float List", "Float List", "Node Control"] rfl (by decide +kernel)
    single := by decide +kernel
    fits := by decide +kernel
    fed := by decide +kernel
    free := by decide +kernel }
 ordered := by decide +kernel
 honest := by decide +kernel
 distinct := by decide +kernel
 proper := by
  rintro g ⟨⟩
  exact ⟨rfl, rfl, rfl, by simp [sharedList, node], by simp [sharedList, node, output], by simp [sharedList, node, input]⟩

theorem sharedList_shows_origins :
  (Routine.group sharedList).Sound ∧ (∀ i ∈ inputs sharedList.nodes, conversionCode? i = none) ∧
   ∃ obs, (Routine.group sharedList).run terms = some obs ∧ ∀ ob ∈ obs, ∀ i ∈ ob.node.inputs,
    ∀ origin ∈ obs, ∀ h ∈ handovers origin.node, h.2.id = i.id → ob.seen i.id = origin.left h.1.id := by
 have asItIs : ∀ i ∈ inputs sharedList.nodes, conversionCode? i = none := by decide +kernel
 obtain ⟨obs, ran, _, shows⟩ := (Routine.inputs_show_origins _ sharedList_sound asItIs).2 terms
 exact ⟨sharedList_sound, asItIs, obs, ran, fun ob mem i isInput => (shows ob mem i isInput).1⟩

variable (b : Behaviour V)

/-- The assignment leaves a variable with the object that it is bound to, whenever it is executed. -/
def Assignment.Spares (a : Assignment) (x : String) : Prop :=
 ∀ m out, (Statement.assign a).execute b m = some out → out.2.bound x = m.bound x

/-- Conversions spare the variables of all other inputs that are still to be read: those of the same node
that are converted already, those of the same node that are not, and those behind it. -/
def ConversionsSpare : List NodeView → List NodeView → Variables → Prop
 | [], _, _ => True
 | n :: todo, later, vs =>
  (∀ before i after, n.inputs = before ++ i :: after → (conversionCode? i).isSome →
   (∀ j ∈ before, (renewal vs i).Spares b (convertedName vs j)) ∧
    ∀ j ∈ after ++ inputs (todo ++ later), (renewal vs i).Spares b (vs.of j.id)) ∧
  ConversionsSpare todo later (nodeStatements n vs).2

theorem spares_iff (vs : Variables) (coded : (conversionCode? i).isSome) (x : String) :
  (renewal vs i).Spares b x ↔ convertedName vs i ≠ x := by
 obtain ⟨code, coded⟩ := Option.isSome_iff_exists.mp coded
 have target : (renewal vs i).target = convertedName vs i := by simp [renewal, preparedName, convertedName, coded]
 have execute (m : Memory V) : (Statement.assign (renewal vs i)).execute b m =
   (m.value? (vs.of i.id)).map fun v => ([], m.bindNew (convertedName vs i) (b.convert code v)) := by
  rw [← target]
  simp [Statement.execute, renewal, coded, Source.value?, Function.comp_def]
 constructor
 · rintro spares rfl
   let m : Memory V := Memory.empty.bindNew (vs.of i.id) (b.load "")
   have here : m.value? (vs.of i.id) = some (b.load "") := by simp [m, Memory.value?_bindNew]
   have kept := spares m _ ((execute m).trans (by rw [here]; rfl))
   have inside := m.inside (convertedName vs i)
   simp only [Memory.bindNew, if_true] at kept
   grind
 · intro ne m out ran
   rw [execute, Option.map_eq_some_iff] at ran
   obtain ⟨v, _, rfl⟩ := ran
   simp [Memory.bindNew, ne.symm]

theorem conversionsSpare_iff :
  ConversionsSpare b nodes later vs ↔ Undisturbed nodes later vs := by
 induction nodes generalizing vs with
 | nil => rfl
 | cons n todo ih =>
  simp only [ConversionsSpare, Undisturbed, ih]
  refine and_congr_left fun _ => ⟨fun spare => ⟨?_, ?_⟩, fun calm before i after shape coded => ?_⟩
  · refine pairwise_iff_forall_sublist.mpr fun {i j} sub => ?_
    obtain ⟨front, back, shape, first, second⟩ := cons_sublist_iff.mp sub
    obtain ⟨p, q, rfl⟩ := append_of_mem first
    obtain ⟨s, t, rfl⟩ := append_of_mem (singleton_sublist.mp second)
    constructor <;> intro coded
    · exact (spares_iff b vs coded _).mp ((spare p i (q ++ s ++ j :: t) (by simp [shape]) coded).2 j (by simp))
    · exact (spares_iff b vs coded _).mp ((spare (p ++ i :: q ++ s) j t (by simp [shape]) coded).1 i (by simp))
  · intro i isInput coded j behind
    obtain ⟨before, after, shape⟩ := append_of_mem isInput
    exact (spares_iff b vs coded _).mp ((spare before i after shape coded).2 j (mem_append_right _ behind))
  · have within := calm.within
    rw [shape, pairwise_append, pairwise_cons] at within
    refine ⟨fun j isBefore => (spares_iff b vs coded _).mpr ?_, fun j mem => (spares_iff b vs coded _).mpr ?_⟩
    · exact (within.2.2 j isBefore i mem_cons_self).2 coded
    · rcases mem_append.mp mem with isAfter | behind
      · exact (within.2.1.1 j isAfter).1 coded
      · exact calm.beyond i (by simp [shape]) coded j behind

/-- Values keep until their last reader has run, and no conversion binds the variable of another input
that is still to be read, exactly if no two of these variables have the same name. -/
theorem conversions_keep_values_iff (r : Routine) (sound : r.Sound) :
  (∀ {V : Type} (b : Behaviour V), ConversionsSpare b r.steps r.exits r.names ∧ r.Keeps b) ↔ r.Undisturbed := by
 constructor
 · intro keeps
   exact (conversionsSpare_iff _).mp (keeps (V := Unit) ⟨fun _ => (), fun _ _ => (), fun _ _ _ => (), fun _ _ _ => ()⟩).1
 · exact fun calm V b => ⟨(conversionsSpare_iff b).mpr calm, sound.keeps calm b⟩

/-- The nodes `b` and `c` convert the same number and pass it on, to `v` and to `w`. -/
def fanOut (order : Texts) : Routine :=
 let nodes := [node "a" [] [output 0 "Float" [⟨⟨1⟩, false⟩, ⟨⟨3⟩, false⟩]],
  node "b" [input 1 "Integer" "Float"] [output 2 "Integer" [⟨⟨5⟩, false⟩]],
  node "c" [input 3 "Boolean" "Float"] [output 4 "Boolean" [⟨⟨6⟩, false⟩]],
  node "v" [input 5 "Integer" "Integer"] [], node "w" [input 6 "Boolean" "Boolean"] []]
 .main (order.filterMap fun name => nodes.find? (·.name == name))

theorem fanOut_sound : (fanOut ["a", "b", "v", "c", "w"]).Sound ∧ (fanOut ["a", "b", "c", "v", "w"]).Sound := by
 refine ⟨⟨⟨typed_of_names ["Float", "Integer", "Integer", "Integer", "Boolean", "Boolean", "Boolean"] rfl ?_, ?_, ?_, ?_, ?_⟩,
   ?_, ?_, ?_, nofun⟩,
  ⟨⟨typed_of_names ["Float", "Integer", "Integer", "Boolean", "Boolean", "Integer", "Boolean"] rfl ?_, ?_, ?_, ?_, ?_⟩,
    ?_, ?_, ?_, nofun⟩⟩ <;> decide +kernel

theorem fanOut_keeps_values : (fanOut ["a", "b", "v", "c", "w"]).Sound ∧ (fanOut ["a", "b", "v", "c", "w"]).Keeps terms :=
 ⟨fanOut_sound.1, ((conversions_keep_values_iff _ fanOut_sound.1).mpr (by decide +kernel) terms).2⟩

/-- Where `c` runs before `v`, its conversion takes the variable that `v` reads: `b` has left an integer,
and `v` sees a truth value. -/
theorem fanOut_mixes_conversions :
  (fanOut ["a", "b", "c", "v", "w"]).Sound ∧
   (((fanOut ["a", "b", "c", "v", "w"]).run terms).map fun obs => obs.map fun ob =>
     (ob.node.name, ob.node.inputs.map fun i => ob.seen i.id, ob.node.outputs.map fun o => ob.left o.id)) =
     some [("a", [], [some "made by a"]),
      ("b", [some "int(value) of made by a"], [some "int(value) of made by a"]),
      ("c", [some "bool(value) of made by a"], [some "bool(value) of made by a"]),
      ("v", [some "bool(value) of made by a"], []), ("w", [some "bool(value) of made by a"], [])] ∧
   ¬ ∀ {V : Type} (b : Behaviour V), ConversionsSpare b (fanOut ["a", "b", "c", "v", "w"]).steps []
    (fanOut ["a", "b", "c", "v", "w"]).names ∧ (fanOut ["a", "b", "c", "v", "w"]).Keeps b := by
 refine ⟨fanOut_sound.2, by decide +kernel, fun keeps => ?_⟩
 exact absurd ((conversionsSpare_iff terms).mp (keeps terms).1) (by decide +kernel)

end AnimationGraph.Code
