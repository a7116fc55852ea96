import AnimationGraph.Proofs.Code.Names
import Mathlib.Data.List.Flatten

/-! # What nodes see while a network runs

`Standing` is what holds between two nodes: the names are in order, and every input that is ready shows
the value that is due.  A node is prepared, runs and hands its results on; it keeps this, and it sees the
values that are due.
-/

namespace AnimationGraph.Code

open List Memory

variable (b : Behaviour V)

def arrive (i : SocketView) (v : V) : V :=
 match conversionCode? i with
 | some code => b.convert code v
 | none => v

/-- The value that is handed to an input: what its origin showed right after the origin's node had run,
or a value of its own. -/
def Due (past : List (Observation V)) (n : NodeView) (i : SocketView) (v : V) : Prop :=
 if i.isLinked then ∃ ob ∈ past, ∃ h ∈ handovers ob.node, h.2.id = i.id ∧ ob.left h.1.id = some v
 else v = b.load (valueExpression n.identifier i)

/-- What holds when these nodes are still to run. -/
structure Standing (past : List (Observation V)) (nodes : List NodeView) (vs : Variables) (m : Memory V) :
  Prop where
 named : Named nodes vs
 apart : m.Apart
 due : ∀ n ∈ nodes, ∀ i ∈ n.inputs, Ready nodes i → ∃ v, m.value? (vs.of i.id) = some v ∧ Due b past n i v

/-- The node has seen what was due, and its sockets show what it has made of that. -/
structure Faithful (past : List (Observation V)) (ob : Observation V) : Prop where
 arrived : ∀ i ∈ ob.node.inputs, ∃ v, Due b past ob.node i v ∧ ob.seen i.id = some (arrive b i v)
 kept : ∀ i ∈ ob.node.inputs, changes i = false → ob.left i.id = ob.seen i.id
 changed : ∀ i ∈ ob.node.inputs, changes i = true → ob.left i.id = some (b.change ob.node (reads ob.node ob.seen) i.id)
 own : ∀ o ∈ ownOutputs ob.node, ob.left o.id = some (b.result ob.node (reads ob.node ob.seen) o.id)
 passed : ∀ p ∈ ob.node.passes, ob.left p.2.id = ob.left p.1.id

theorem assign_lines (as : List Assignment) :
  (as.map Statement.assign).flatMap (Statement.lines mode) = as.map (·.line) := by
 rw [flatMap_map, map_eq_flatMap]
 rfl

theorem mem_renewed :
  i ∈ renewed n ↔ i ∈ n.inputs ∧ ((conversionCode? i).isSome ∨ copiesOwn i) := by
 simp only [renewed, converted, mem_append, mem_filter]
 grind

theorem renewed_nodup (arranged : Arranged (n :: rest)) : (renewed n).Nodup := by
 have nodup : n.inputs.Nodup := by
  have ids := arranged.ids
  simp only [sockets_cons, map_append] at ids
  exact ids.of_append_left.of_append_left.of_map
 refine nodup_append.mpr ⟨nodup.filter _, nodup.filter _, fun i coded j copied same => ?_⟩
 have := uncoded_of_unlinked arranged (i := j)
 grind [converted]

section

variable (arranged : Arranged (n :: rest)) (honest : Honest n)
 (named : Named (n :: rest) vs) (calm : Calm n rest vs)

include named calm

theorem renewed_pairwise :
  (renewed n).Pairwise fun k l => (renewal vs l).source.reads? ≠ some (renewal vs k).target := by
 have reads : ∀ k l, vs.of l.id ≠ preparedName vs k → (renewal vs l).source.reads? ≠ some (renewal vs k).target := by
  intro k l ne
  simp only [renewal]
  split <;> simp [Source.reads?, ne]
 have copied : ∀ k ∈ renewed n, ∀ l ∈ n.inputs.filter copiesOwn, vs.of l.id ≠ preparedName vs k := by
  intro k isRenewed l mem
  obtain ⟨isInput, own⟩ := mem_filter.mp mem
  have := named.plain l.id (plain_of_unlinked isInput (copiesOwn_iff.mp own).2)
  grind [mem_renewed, preparedName, Marked]
 refine pairwise_append.mpr ⟨?_, ?_, fun k first l second => reads k l (copied k (by grind [renewed]) l second)⟩
 · refine (calm.within.filter _).imp_of_mem fun {k l} first _ before => reads k l ?_
   have coded := (mem_filter.mp first).2
   simpa [preparedName, convertedName, coded] using (before.1 coded).symm
 · exact pairwise_of_forall_mem_list fun k first l second => reads k l (copied k (by grind [renewed]) l second)

include arranged honest

theorem prepare_executes {w : SocketView → V} (here : ∀ i ∈ n.inputs, m.value? (vs.of i.id) = some (w i))
  (own : ∀ i ∈ n.inputs, i.isLinked = false → w i = b.load (valueExpression n.identifier i)) :
  ∃ m', executeAll b ((preparation n vs).1.map .assign) m = some ([], m') ∧
   (∀ i ∈ n.inputs, m'.value? ((preparation n vs).2.of i.id) = some (arrive b i (w i))) ∧
   ∀ j ∈ inputs rest, Ready (n :: rest) j → m'.value? (vs.of j.id) = m.value? (vs.of j.id) := by
 have alone : ∀ i ∈ renewed n, _ := fun i mem => named.prepared_alone arranged calm (i := i)
  (mem_renewed.mp mem).1 (by grind [mem_renewed])
 have readable : ∀ i ∈ renewed n, (renewal vs i).source.value? b m = some (arrive b i (w i)) := by
  intro i mem
  obtain ⟨isInput, new⟩ := mem_renewed.mp mem
  simp only [renewal, arrive]
  cases coded : conversionCode? i with
  | some code => simp [Source.value?, here i isInput]
  | none =>
   cases default : i.type.defaultCode with
   | none => exact here i isInput
   | some code =>
    have copied := copiesOwn_iff.mp (new.resolve_left (by simp [coded]))
    have plain := (copyable_types i.type (arranged.typed i (by grind)) (by grind [changes])).2.1 (by simp [default])
    simp [Source.value?, own i isInput copied.2, valueExpression, plain, default]
 refine ⟨_, executeAll_assign b _ _ readable (renewed_pairwise named calm), fun i isInput => ?_, fun j behind ready => ?_⟩
 · rw [(preparation_names arranged honest vs).1 i isInput]
   by_cases isRenewed : i ∈ renewed n
   · refine value?_putAll_of_mem puts_bindNew m ?_
      (mem_map_of_mem (f := fun k => ((renewal vs k).target, arrive b k (w k))) isRenewed)
     rw [map_map]
     exact List.Nodup.map_on (fun k first l second => (alone k first).1 l (mem_renewed.mp second).1)
      (renewed_nodup arranged)
   · have coded : conversionCode? i = none := by
      rw [← Option.isNone_iff_eq_none, ← Option.isSome_eq_false_iff]
      grind [mem_renewed]
     have name : preparedName vs i = vs.of i.id := by grind [preparedName, mem_renewed]
     rw [value?_putAll_of_not_mem puts_bindNew]
     · simp [name, arrive, coded, here i isInput]
     · intro p mem same
       obtain ⟨k, isKey, rfl⟩ := mem_map.mp mem
       exact isRenewed ((alone k isKey).1 i isInput same.symm ▸ isKey)
 · refine value?_putAll_of_not_mem puts_bindNew m fun p mem => ?_
   obtain ⟨k, isRenewed, rfl⟩ := mem_map.mp mem
   exact ((alone k isRenewed).2 j behind ready).symm

theorem run_values (apart : m.Apart) :
  let names := (preparation n vs).2
  let after := runNode b n names m
  (∀ i ∈ n.inputs, after.value? (names.of i.id) =
    if changes i then some (b.change n (reads n (shown names m)) i.id) else m.value? (names.of i.id)) ∧
   (∀ o ∈ ownOutputs n, after.value? (names.of o.id) = some (b.result n (reads n (shown names m)) o.id)) ∧
   ∀ j ∈ inputs rest, Ready (n :: rest) j → after.value? (vs.of j.id) = m.value? (vs.of j.id) := by
 intro names after
 obtain ⟨prepared, _, other⟩ := preparation_names arranged honest vs
 have alone : ∀ i ∈ n.inputs.filter changes, _ := fun i mem => named.prepared_alone arranged calm (i := i)
  (mem_filter.mp mem).1 (.inr (mem_filter.mp mem).2)
 have own : ∀ o ∈ ownOutputs n, names.of o.id = vs.of o.id ∧ Unwritten (n :: rest) o.id := by
  intro o isOwn
  obtain ⟨isOutput, isOwn⟩ := mem_filter.mp isOwn
  exact ⟨other o.id (by grind [arranged.ids]) (by simpa using isOwn), .inl ⟨o, by grind, rfl⟩⟩
 have ids := arranged.ids
 simp only [sockets_cons, map_append] at ids
 have beforeOutputs {x : String} (free : ∀ o ∈ ownOutputs n, vs.of o.id ≠ x) : after.value? x =
   (m.putAll .overwrite ((n.inputs.filter changes).map fun i =>
    (names.of i.id, b.change n (reads n (shown names m)) i.id))).value? x := by
  refine value?_putAll_of_not_mem puts_bindNew _ fun p mem => ?_
  obtain ⟨o, isOwn, rfl⟩ := mem_map.mp mem
  exact (own o isOwn).1 ▸ (free o isOwn).symm
 refine ⟨fun i isInput => ?_, fun o isOwn => ?_, fun j behind ready => ?_⟩
 · rw [beforeOutputs fun o isOwn => prepared i isInput ▸ named.prepared_fresh arranged isInput (own o isOwn).2]
   split
   · rename_i changed
     refine value?_putAll_of_mem puts_overwrite m ?_ (mem_map_of_mem
      (f := fun i => (names.of i.id, b.change n (reads n (shown names m)) i.id)) (mem_filter.mpr ⟨isInput, changed⟩))
     rw [map_map]
     refine List.Nodup.map_on (fun k first l second same => ?_) (ids.of_append_left.of_append_left.of_map.filter _)
     grind
   · rename_i unchanged
     refine value?_putAll_of_not_mem puts_overwrite m fun p mem same => ?_
     obtain ⟨k, isKey, rfl⟩ := mem_map.mp mem
     grind
 · refine value?_putAll_of_mem puts_bindNew _ ?_ (mem_map_of_mem
    (f := fun o => (names.of o.id, b.result n (reads n (shown names m)) o.id)) isOwn)
   rw [map_map]
   have nodup : ((ownOutputs n).map (·.id)).Nodup :=
    (ids.of_append_left.of_append_right).sublist (filter_sublist.map _)
   refine List.Nodup.map_on (fun k first l second same => ?_) nodup.of_map
   refine inj_on_of_nodup_map nodup first second (named.apart _ _ (.inl (own k first).2) (.inl (own l second).2) ?_)
   rw [← (own k first).1, ← (own l second).1]
   exact same
 · rw [beforeOutputs fun o isOwn => named.fresh o.id j (own o isOwn).2 ready]
   refine value?_putAll_of_not_mem puts_overwrite m fun p mem same => ?_
   obtain ⟨k, isKey, rfl⟩ := mem_map.mp mem
   exact (alone k isKey).2 j behind ready ((prepared k (mem_filter.mp isKey).1).symm.trans same.symm)

omit calm in
theorem deliver_executes {u : SocketView → V}
  (results : ∀ o ∈ n.outputs, m.value? ((preparation n vs).2.of o.id) = some (u o)) :
  ∃ m', executeAll b ((delivery n (preparation n vs).2).1.map .assign) m = some ([], m') ∧
   (∀ h ∈ handovers n, m'.value? ((nodeStatements n vs).2.of h.2.id) = some (u h.1)) ∧
   ∀ j ∈ inputs rest, Ready (n :: rest) j → m'.value? (vs.of j.id) = m.value? (vs.of j.id) := by
 obtain ⟨_, _, other⟩ := preparation_names arranged honest vs
 obtain ⟨shared, kept⟩ := delivery_names arranged (preparation n vs).2
 have single : ((handovers n).map (·.2.id)).Nodup := by
  have single := arranged.single
  rw [links_cons, map_append] at single
  exact single.of_append_left
 have isSame : ∀ h ∈ handovers n, ∀ k ∈ handovers n, h.2.id = k.2.id → h = k :=
  fun h first k second => inj_on_of_nodup_map single first second
 have unwritten : ∀ h ∈ handovers n, Unwritten (n :: rest) h.2.id := fun h mem => .inr ⟨h, by grind, rfl⟩
 have target : ∀ h ∈ handovers n, (preparation n vs).2.of h.2.id = vs.of h.2.id ∧ ∀ o ∈ n.outputs, h.2.id ≠ o.id := by
  intro h mem
  obtain ⟨i, behind, fits⟩ := arranged.fits (h := h) (by grind)
  have ids := arranged.ids
  exact ⟨other h.2.id (by grind [fits.id]) (by grind [fits.id]), by grind [fits.id]⟩
 have fresh : ∀ h ∈ handovers n, ∀ o ∈ n.outputs, (preparation n vs).2.of h.2.id ≠ (preparation n vs).2.of o.id :=
  fun h mem o isOutput => (target h mem).1 ▸
   named.output_fresh arranged honest isOutput (unwritten h mem) ((target h mem).2 o isOutput)
 refine ⟨_, executeAll_assign b _ (fun h => u h.1) (fun h mem => ?_) ?_, fun h mem => ?_, fun j behind ready => ?_⟩
 · exact results h.1 (by grind)
 · refine pairwise_of_forall_mem_list fun h first k second same => ?_
   exact fresh h (mem_filter.mp first).1 k.1 (by grind) (Option.some.inj same).symm
 · change Memory.value? _ ((delivery n (preparation n vs).2).2.of h.2.id) = _
   cases copied : getsCopy h with
   | true =>
    rw [kept h.2.id (by grind)]
    refine value?_putAll_of_mem puts_bindNew m ?_ (mem_map_of_mem
     (f := fun h => ((preparation n vs).2.of h.2.id, u h.1)) (mem_filter.mpr ⟨mem, copied⟩))
    rw [map_map]
    refine List.Nodup.map_on (fun k first l second same => ?_) (single.of_map.filter _)
    have first := (mem_filter.mp first).1
    have second := (mem_filter.mp second).1
    refine isSame k first l second (named.apart _ _ (.inl (unwritten k first)) (.inl (unwritten l second)) ?_)
    rw [← (target k first).1, ← (target l second).1]
    exact same
   | false =>
    rw [shared h mem copied, value?_putAll_of_not_mem puts_bindNew, results h.1 (by grind)]
    intro p found same
    obtain ⟨k, isKey, rfl⟩ := mem_map.mp found
    exact fresh k (mem_filter.mp isKey).1 h.1 (by grind) same.symm
 · refine value?_putAll_of_not_mem puts_bindNew m fun p found same => ?_
   obtain ⟨k, isKey, rfl⟩ := mem_map.mp found
   have mem := (mem_filter.mp isKey).1
   exact named.fresh k.2.id j (unwritten k mem) ready ((target k mem).1 ▸ same.symm)

end

variable {b}

theorem Due.append {v : V} (due : Due b past n i v) (more : List (Observation V)) :
  Due b (past ++ more) n i v := by
 unfold Due at *
 split
 · obtain ⟨ob, mem, found⟩ := by simpa [*] using due
   exact ⟨ob, by simp [mem], by simpa using found⟩
 · simpa [*] using due

/-- A node sees what is due, and leaves what the nodes behind it rely on. -/
theorem Standing.step
  (standing : Standing b past (n :: rest) vs m) (arranged : Arranged (n :: rest)) (honest : Honest n)
  (calm : Calm n rest vs) :
  ∃ ob m', executeAll b (nodeStatements n vs).1 m = some ([ob], m') ∧ ob.node = n ∧ Faithful b past ob ∧
   Standing b (past ++ [ob]) rest (nodeStatements n vs).2 m' := by
 obtain ⟨named, apart, due⟩ := standing
 let w (i : SocketView) : V := (m.value? (vs.of i.id)).getD (b.load "")
 have arrives : ∀ i ∈ n.inputs, m.value? (vs.of i.id) = some (w i) ∧ Due b past n i (w i) := by
  intro i isInput
  obtain ⟨v, here, due⟩ := due n mem_cons_self i isInput (ready_of_input arranged isInput)
  simpa [w, here] using due
 obtain ⟨m₁, prepared, seen, kept₁⟩ := prepare_executes b arranged honest named calm (fun i h => (arrives i h).1)
  fun i isInput unlinked => by simpa [Due, unlinked] using (arrives i isInput).2
 let names := (preparation n vs).2
 obtain ⟨changed, own, kept₂⟩ := run_values b arranged honest named calm (apart.executeAll b prepared)
 let u (o : SocketView) : V := (shown names (runNode b n names m₁) o.id).getD (b.load "")
 have results : ∀ o ∈ n.outputs, (runNode b n names m₁).value? (names.of o.id) = some (u o) := by
  intro o isOutput
  suffices some? : ((runNode b n names m₁).value? (names.of o.id)).isSome by
   obtain ⟨v, found⟩ := Option.isSome_iff_exists.mp some?
   simp [u, shown, found]
  rcases names_of_output arranged honest vs isOutput with ⟨isOwn, _⟩ | ⟨p, isPassed, _, name⟩
  · simp [own o isOwn, names]
  · have isInput := (mem_of_mem_passes isPassed).1
    rw [name, ← (preparation_names arranged honest vs).1 p.1 isInput, changed p.1 isInput, seen p.1 isInput]
    split <;> rfl
 obtain ⟨m₂, delivered, handed, kept₃⟩ := deliver_executes b arranged honest named results
 refine ⟨⟨n, shown names m₁, shown names (runNode b n names m₁)⟩, m₂, ?_, rfl, ⟨fun i isInput => ?_,
  fun i isInput unchanged => ?_, fun i isInput isChanged => ?_, own, fun p isPassed => ?_⟩,
  named.step arranged honest calm, ?_, fun p isNode j isInput ready => ?_⟩
 · have runs : ∀ i ∈ n.inputs, (shown names m₁ i.id).isSome := by
    intro i isInput
    simp [shown, names, seen i isInput]
   change executeAll b (.start n :: (preparation n vs).1.map .assign ++ .run n names :: (delivery n names).1.map .assign) m = _
   simp only [cons_append, executeAll, Statement.execute, Option.bind_some, executeAll_append, prepared, if_pos runs,
    names, delivered]
   rfl
 · exact ⟨w i, (arrives i isInput).2, seen i isInput⟩
 · simpa [unchanged, shown] using changed i isInput
 · simpa [isChanged, shown] using changed i isInput
 · obtain ⟨inputs, passed, _⟩ := preparation_names arranged honest vs
   simp [shown, names, passed p isPassed, inputs p.1 (mem_of_mem_passes isPassed).1]
 · exact ((apart.executeAll b prepared).runNode b n names).executeAll b delivered
 · have behind : j ∈ inputs rest := mem_inputs.mpr ⟨p, isNode, isInput⟩
   have linked {h : SocketView × TargetView} (mem : h ∈ handovers n) (id : h.2.id = j.id) : j.isLinked = true := by
    obtain ⟨i, isInput, fits⟩ := arranged.fits (h := h) (by grind)
    have equal : i = j := inj_on_of_nodup_map arranged.tail.ids (by grind) (by grind) (fits.id.trans id)
    exact equal ▸ fits.linked
   by_cases given : ∃ h ∈ handovers n, h.2.id = j.id
   · obtain ⟨h, mem, id⟩ := given
     refine ⟨u h.1, id ▸ handed h mem, ?_⟩
     simp only [Due, linked mem id, if_true]
     exact ⟨_, mem_append_right _ mem_cons_self, h, mem, id, results h.1 (by grind)⟩
   · have before : Ready (n :: rest) j := ⟨by grind, by
      intro h mem same
      have := ready.2 h
      grind⟩
     obtain ⟨v, here, due⟩ := due p (mem_cons_of_mem _ isNode) j isInput before
     refine ⟨v, ?_, due.append _⟩
     have name : (nodeStatements n vs).2.of j.id = vs.of j.id := by
      rcases names_behind arranged honest vs (j := j) (by grind) with ⟨h, mem, id, _⟩ | ⟨_, kept⟩
      · exact absurd ⟨h, mem, id⟩ given
      · exact kept
     rw [name, kept₃ j behind before, kept₂ j behind before, kept₁ j behind before, here]

/-- No conversion in a run writes to the variable of another input that is still to be read.  The nodes
of the second list are read when all of the first have run. -/
def Undisturbed : List NodeView → List NodeView → Variables → Prop
 | [], _, _ => True
 | n :: todo, later, vs => Calm n (todo ++ later) vs ∧ Undisturbed todo later (nodeStatements n vs).2

instance decidableUndisturbed : ∀ nodes later vs, Decidable (Undisturbed nodes later vs)
 | [], _, _ => isTrue trivial
 | n :: todo, later, vs =>
  have := decidableUndisturbed todo later (nodeStatements n vs).2
  inferInstanceAs (Decidable (Calm n (todo ++ later) vs ∧ _))

variable {nodes : List NodeView}

theorem undisturbed_of_no_code (later : List NodeView)
  (asItIs : ∀ i ∈ inputs nodes, conversionCode? i = none) (vs : Variables) : Undisturbed nodes later vs := by
 induction nodes generalizing vs with
 | nil => trivial
 | cons n todo ih =>
  have here : ∀ i ∈ n.inputs, conversionCode? i = none := fun i isInput => asItIs i (by grind)
  refine ⟨⟨?_, by grind⟩, ih (fun i isInput => asItIs i (by grind)) _⟩
  exact pairwise_of_forall_mem_list fun i first j second => by grind

theorem Faithful.append (faithful : Faithful b past ob) (more : List (Observation V)) :
  Faithful b (past ++ more) ob :=
 { faithful with
   arrived := fun i isInput =>
    let ⟨v, due, seen⟩ := faithful.arrived i isInput
    ⟨v, due.append more, seen⟩ }

/-- A run of nodes reaches its end, and each of them has seen what was due. -/
theorem Standing.run
  (standing : Standing b past (nodes ++ later) vs m) (arranged : Arranged (nodes ++ later))
  (honest : ∀ n ∈ nodes, Honest n) (calm : Undisturbed nodes later vs) :
  ∃ obs m', executeAll b (statements nodes vs).1 m = some (obs, m') ∧ obs.map (·.node) = nodes ∧
   (∀ ob ∈ obs, Faithful b (past ++ obs) ob) ∧
   Standing b (past ++ obs) later (statements nodes vs).2 m' := by
 induction nodes generalizing past vs m with
 | nil => exact ⟨[], m, rfl, rfl, by simp, by simpa [statements] using standing⟩
 | cons n todo ih =>
  obtain ⟨ob, m₁, ran, rfl, faithful, next⟩ := standing.step arranged (honest n mem_cons_self) calm.1
  obtain ⟨obs, m₂, rest, order, all, last⟩ :=
   ih next arranged.tail (fun p mem => honest p (mem_cons_of_mem _ mem)) calm.2
  rw [append_assoc, singleton_append] at all last
  refine ⟨ob :: obs, m₂, ?_, by simp [order], fun other mem => ?_, last⟩
  · simp only [statements, executeAll_append, ran, rest, Option.bind_some, Option.map_some]
    rfl
  · rcases mem_cons.mp mem with rfl | mem
    · exact faithful.append _
    · exact all other mem

def loaded (b : Behaviour V) (nodes : List NodeView) (vs : Variables) : Memory V :=
 Memory.empty.putAll .bindNew (nodes.flatMap fun n => n.freeInputs.map fun i =>
  (vs.of i.id, b.load (valueExpression n.identifier i)))

theorem apart_loaded (nodes : List NodeView) (vs : Variables) : (loaded b nodes vs).Apart :=
 putAll_induction (fun _ x v apart => apart.bindNew x v) (by simp [Memory.Apart, Memory.empty])

theorem value?_loaded
  (distinct : ((sockets nodes).map fun s => vs.of s.id).Nodup) (mem : n ∈ nodes)
  (isInput : i ∈ n.inputs) (unlinked : i.isLinked = false) :
  (loaded b nodes vs).value? (vs.of i.id) = some (b.load (valueExpression n.identifier i)) := by
 refine value?_putAll_of_mem puts_bindNew Memory.empty
  (p := (vs.of i.id, b.load (valueExpression n.identifier i))) ?_ ?_
 · refine distinct.sublist ?_
   simp only [sockets, map_flatMap, map_map, Function.comp_def]
   refine List.Sublist.flatMap_right _ fun n _ => ?_
   exact (filter_sublist.trans (sublist_append_left _ _)).map fun s : SocketView => vs.of s.id
 · exact mem_flatMap.mpr ⟨n, mem, mem_map.mpr ⟨i, by simp [NodeView.freeInputs, isInput, unlinked], rfl⟩⟩

theorem Ready.unlinked (fed : ∀ i ∈ inputs nodes, i.isLinked = true → ∃ h ∈ links nodes, h.2.id = i.id)
  (ready : Ready nodes i) : i.isLinked = false := by
 by_contra linked
 obtain ⟨h, mem, id⟩ := fed i ready.1 (by simpa using linked)
 exact ready.2 h mem id

section
variable {nodes : List NodeView} {vs : Variables} {m : Memory V} (arranged : Arranged nodes)
 (fed : ∀ i ∈ inputs nodes, i.isLinked = true → ∃ h ∈ links nodes, h.2.id = i.id)
 (fits : ∀ h ∈ links nodes, ∃ i ∈ inputs nodes, Fits h i)
 (plain : ∀ s, ¬ Marked (vs.of s)) (distinct : ((sockets nodes).map fun s => vs.of s.id).Nodup)

include arranged fed fits plain distinct

theorem Named.start : Named nodes vs := by
 have known : ∀ s, Plain nodes s → ∃ x ∈ sockets nodes, x.id = s := by
  rintro s ((⟨o, isOutput, id⟩ | ⟨h, mem, id⟩) | ⟨i, isInput, _, id⟩)
  · exact ⟨o, by grind, id⟩
  · obtain ⟨i, isInput, fit⟩ := fits h mem
    exact ⟨i, by grind, fit.id.trans id⟩
  · exact ⟨i, by grind, id⟩
 have apart : ∀ s t, Plain nodes s → Plain nodes t → vs.of s = vs.of t → s = t := by
  intro s t first second same
  obtain ⟨x, isFirst, rfl⟩ := known s first
  obtain ⟨y, isSecond, rfl⟩ := known t second
  exact congrArg SocketView.id (inj_on_of_nodup_map distinct isFirst isSecond same)
 have ready_plain : ∀ i, Ready nodes i → Plain nodes i.id := fun i ready => .inr ⟨i, ready.1, ready.unlinked fed, rfl⟩
 refine ⟨⟨fun s _ => plain s, apart, fun s i unwritten ready same => ?_, fun i j _ _ _ same => ?_⟩,
  fun i j first _ owner => ?_⟩
 · exact unwritten.ne_ready arranged.ids ready (apart s i.id (.inl unwritten) (ready_plain i ready) same)
 · exact plain j.id ⟨_, .inl same.symm⟩
 · have := first.unlinked fed
   grind [Owner]

theorem Standing.start (objects : m.Apart) (own : ∀ n ∈ nodes, ∀ i ∈ n.inputs, i.isLinked = false →
  m.value? (vs.of i.id) = some (b.load (valueExpression n.identifier i))) : Standing b [] nodes vs m :=
 ⟨.start arranged fed fits plain distinct, objects, fun n mem i isInput ready =>
  ⟨_, own n mem i isInput (ready.unlinked fed), by simp [Due, ready.unlinked fed]⟩⟩

end

end AnimationGraph.Code
