import AnimationGraph.Proofs.Code.Frame
import AnimationGraph.Proofs.Code.Run

/-! # Running loops

A round binds the index and the elements of the iterators to new objects, and its nodes run.  Then it takes its
turns: it breaks off, adds objects to generators and hands objects to parameters.  Arguments are objects of
their own, since the inputs of a caller are modified inputs, and iterators hold different objects; so an
element is taken for new when its round starts.  No round changes an object that was there before it.
-/

namespace AnimationGraph

open List Variables

namespace Code

/-- What loops leave open besides what nodes compute. -/
structure LoopBehaviour (V : Type) extends Behaviour V where
 number : Int → V
 holds : V → Bool
 items : V → List V

/-- How far a loop has come.  Logs tell which objects generators and parameters were given. -/
structure Progress (V : Type) where
 memory : Memory V
 added : List (Nat × Nat) := []
 handed : List (String × Nat) := []

def Memory.take (m : Memory V) (x : String) (anew : Bool) : Option (Nat × Memory V) :=
 (m.bound x).bind fun k => m.objects[k]?.map fun v => if anew then (m.objects.length, m.store v) else (k, m)

theorem Memory.take_spec {m m' : Memory V} (taken : m.take x anew = some (k, m')) :
  m.objects <+: m'.objects ∧ m'.bound = m.bound ∧ k < m'.objects.length ∧ m'.objects[k]? = m.value? x := by
 obtain ⟨j, here, taken⟩ := Option.bind_eq_some_iff.mp taken
 obtain ⟨v, there, taken⟩ := Option.map_eq_some_iff.mp taken
 have := m.inside x j here
 split at taken <;> cases taken
 · exact ⟨prefix_append _ _, rfl, by simp [store], by simp [store, value?, here, there]⟩
 · exact ⟨prefix_rfl, rfl, this, by simp [value?, here]⟩

theorem Memory.value?_of_prefix {m m' : Memory V} (objects : m.objects <+: m'.objects)
  (bound : m'.bound x = m.bound x) : m'.value? x = m.value? x := by
 unfold value?
 cases found : m.bound x with
 | none => simp [bound, found]
 | some k => simp [bound, found, prefix_iff_getElem?.mp objects k (m.inside x k found), m.inside x k found]

namespace LoopView

def keepsCopy (s : SocketView) : Bool := !s.isLinked && s.type.copy.isSome

variable (b : LoopBehaviour V)

def Turn.execute (p : Progress V) : Turn → Option (Bool × Progress V)
 | leave condition => (p.memory.value? condition).map fun v => (b.holds v, p)
 | add g i vs => (p.memory.value? (vs.of g.condition)).bind fun v =>
  if b.holds v then
   (p.memory.take (vs.of g.element.id) (keepsCopy g.element || g.operation == "extend")).map fun (k, m) =>
    (true, { p with memory := m, added := p.added ++ [(i, k)] })
  else some (true, p)
 | reassign r vs =>
  let names := reassignNames vs r
  (executeAll b.toBehaviour (((converted r.node).map (renewal vs)).map .assign) p.memory).bind fun (_, m) =>
  (r.condition.elim (some true) fun c => (m.value? (names.of c)).map b.holds).bind fun
  | true => (m.take (names.of r.value.id) (keepsCopy r.value)).map fun (k, m) =>
   (true, { p with memory := m.point (names.of r.parameter) k, handed := p.handed ++ [(names.of r.parameter, k)] })
  | false => some (true, { p with memory := m })

def executeTurns (b : LoopBehaviour V) : List Turn → Progress V → Option (Bool × Progress V)
 | [], p => some (true, p)
 | t :: rest, p => (t.execute b p).bind fun
  | (true, p) => executeTurns b rest p
  | (false, p) => some (false, p)

variable (l : LoopView)

def start : Variables := (l.headLines l.names).2

def round : List Statement × Variables :=
 let (links, vs) := delivery l.input l.start
 let (body, vs) := statements l.body vs
 (links.map .assign ++ body, vs)

def head (index : Nat) (row : List V) : List (String × V) :=
 ("current_loop_index", b.number index) :: (numbered "loop_iterator_element_" row.length).zip row

def perform (index : Nat) (row : List V) (p : Progress V) : Option (Bool × Progress V) :=
 (executeAll b.toBehaviour l.round.1 (p.memory.putAll .bindNew (head b index row))).bind fun (_, m) =>
  executeTurns b (l.turns l.round.2) { p with memory := m }

def performAll (b : LoopBehaviour V) : Nat → List (List V) → Progress V → Option (Progress V)
 | _, [], p => some p
 | index, row :: rows, p => (l.perform b index row p).bind fun
  | (true, p) => performAll b (index + 1) rows p
  | (false, p) => some p

structure Arguments (V : Type) where
 count : Int := 0
 iterators : List (List V) := []
 parameters : List V := []

variable (a : Arguments V)

def Arguments.rows : List (List V) :=
 (range ((a.iterators.map length).min?.getD a.count.toNat)).map fun k => a.iterators.filterMap (·[k]?)

def Arguments.total : Int := if a.iterators.isEmpty then a.count else a.rows.length

def initialParameters : List (SocketId × V) :=
 (l.inputParameters.map (·.2)).zip a.parameters ++ (l.parameters.filter (!·.asInput)).map fun q =>
  (q.socket.id, b.load (valueExpression l.input.identifier q.socket))

def enter : Progress V where
 memory := (loaded b.toBehaviour l.nodes (initial l.nodes)).putAll .bindNew
  (("loop_iterations", b.number a.total) :: (l.initialParameters b a).map fun (s, v) => (l.names.of s, v))

def rendered (mode : CodeMode) : String :=
 l.defining (l.round.1.flatMap (Statement.lines mode) ++ (l.turns l.round.2).flatMap Turn.lines ++ ["pass"])
  (l.reassigns.foldl reassignNames l.round.2)

theorem script_eq (mode : CodeMode) : l.script mode = l.rendered mode := by
 simp only [script, roundLines, rendered, round, start, bodyLines, flatMap_append, assign_lines]

def frame : List NodeView := l.nodes.filter fun n => !(n.kind == "an_LoopInputNode") && frameKinds.contains n.kind

def order : List NodeView := l.input :: (l.body ++ l.frame)

def labels : List (SocketId × String) :=
 (l.index, "current_loop_index") :: (l.iterations.id, "loop_iterations") ::
  ((l.inputParameters.map fun (name, s) => (s, name)) ++
    (l.iterators.zip (numbered "loop_iterator_element_" l.iterators.length)).map fun (s, name) => (s.1.id, name))

structure Proper : Prop where
 wired : Wired l.nodes
 ordered : Ordered l.nodes
 honest : ∀ n ∈ l.nodes, Honest n
 ids : ((sockets l.nodes).map (·.id)).Nodup
 input : l.nodes.filter (·.kind == "an_LoopInputNode") = [l.input]
 source : l.input.inputs = []
 sinks : ∀ n ∈ l.frame, n.outputs = []
 keys : (l.index :: l.iterations.id :: (l.parameters.map (·.socket.id) ++ l.iterators.map (·.1.id))).Nodup
 /-- An output of the input node that is linked is the index, the number of iterations, an element or a parameter. -/
 entries : ∀ o ∈ l.input.outputs, o.isLinked = true → ((o.id = l.index ∨ o.id = l.iterations.id) ∧ o.type.copy = none) ∨
  (∃ i ∈ l.iterators, i.1.id = o.id) ∨ ∃ q ∈ l.parameters, q.socket.id = o.id
 iterations : l.iterations ∈ l.input.outputs
 parameters : ∀ q ∈ l.parameters, q.socket ∈ l.input.outputs
 reassigned : ∀ r ∈ l.reassigns, r.node ∈ l.nodes

variable {l}

theorem inputParameters_eq : l.inputParameters = (l.parameters.zipIdx.filter (·.1.asInput)).map fun p =>
  ("loop_parameter_" ++ toString p.2, p.1.socket.id) := by
 rw [inputParameters, ← filterMap_eq_map, filterMap_filter]
 rfl

theorem labels_names : ∃ indices : List Nat, indices.Nodup ∧ l.labels.map Prod.snd =
  "current_loop_index" :: "loop_iterations" :: ((indices.map fun i => "loop_parameter_" ++ toString i) ++
   numbered "loop_iterator_element_" l.iterators.length) := by
 refine ⟨(l.parameters.zipIdx.filter (·.1.asInput)).map Prod.snd, ?_, ?_⟩
 · refine List.Nodup.sublist (filter_sublist.map _) ?_
   rw [zipIdx_map_snd]
   exact nodup_range'
 · simp only [labels, inputParameters_eq, map_cons, map_append, map_map]
   exact congrArg (fun names => _ :: _ :: (_ ++ names)) (map_snd_zip (by simp [numbered]))

theorem labels_keys : (l.labels.map Prod.fst).Sublist
  (l.index :: l.iterations.id :: (l.parameters.map (·.socket.id) ++ l.iterators.map (·.1.id))) := by
 have zipped : (l.iterators.zip (numbered "loop_iterator_element_" l.iterators.length)).map Prod.fst = l.iterators :=
  map_fst_zip (by simp [numbered])
 have elements := congrArg (map fun i : SocketView × Bool => i.1.id) zipped
 rw [map_map] at elements
 simp only [labels, inputParameters_eq, map_cons, map_append, map_map, ← elements]
 refine .cons_cons _ (.cons_cons _ (.append ?_ (List.Sublist.refl _)))
 have all := congrArg (map fun q : ParameterView => q.socket.id) (zipIdx_map_fst 0 l.parameters)
 rw [map_map] at all
 exact all ▸ filter_sublist.map _

theorem labels_plain (keys : (l.labels.map Prod.fst).Nodup) : Labels l.labels where
 keys := keys
 values := by
  obtain ⟨indices, distinct, shape⟩ := l.labels_names
  have letter {x y : String} (i : Nat) (other : x.toList[i]? ≠ y.toList[i]?) : x ≠ y := fun same => other (same ▸ rfl)
  simp only [shape, numbered, nodup_cons, mem_cons, mem_append, mem_map, not_or, not_exists, not_and,
   nodup_append]
  refine ⟨⟨letter 0 (by simp), fun i _ => letter 0 (by simp), fun i _ => letter 0 (by simp)⟩,
   ⟨fun i _ => letter 5 (by simp), fun i _ => letter 11 (by simp)⟩, nodup_numbered _ distinct,
   nodup_numbered _ nodup_range, ?_⟩
  rintro _ ⟨i, _, rfl⟩ _ ⟨j, _, rfl⟩
  exact letter 5 (by simp)
 plain p mem := by
  obtain ⟨indices, _, shape⟩ := l.labels_names
  have ending {x : String} (last : x.toList.getLast? ≠ some 'y' ∧ x.toList.getLast? ≠ some 'd') : ¬ Marked x := by
   rintro ⟨y, rfl | rfl⟩ <;> simp at last
  have isName := shape ▸ mem_map_of_mem (f := Prod.snd) mem
  simp only [numbered, mem_cons, mem_append, mem_map] at isName
  rcases isName with name | name | ⟨i, _, name⟩ | ⟨i, _, name⟩
  · exact name ▸ ⟨ending (by simp), by simp, by simp⟩
  · exact name ▸ ⟨ending (by simp), by simp, by simp⟩
  · exact name ▸ ⟨numbered_unmarked _ i, by simp, by simp⟩
  · exact name ▸ ⟨numbered_unmarked _ i, by simp, by simp⟩

theorem start_of (keys : (l.labels.map Prod.fst).Nodup) (s : SocketId) :
  l.start.of s = ((initial l.nodes).rename l.labels).of s := by
 have joined (vs : Variables) (a b : List (SocketId × String)) : (vs.rename a).rename b = vs.rename (a ++ b) :=
  (foldl_append ..).symm
 unfold start headLines names
 split
 · rename_i empty
   simp only [joined]
   refine of_rename_perm _ ?_ keys s
   simp only [labels, isEmpty_iff.mp empty, zip_nil_left, map_nil, append_nil]
   exact (perm_append_comm.cons _).trans (.swap ..)
 · rename_i filled
   simp only [joined]
   refine of_rename_perm _ ?_ keys s
   simp only [labels, nil_append, ← append_assoc]
   exact perm_append_comm

theorem iterator_label (inside : k < l.iterators.length) :
  (l.iterators[k].1.id, "loop_iterator_element_" ++ toString k) ∈ l.labels := by
 have found : (l.iterators[k], "loop_iterator_element_" ++ toString k) ∈
   l.iterators.zip (numbered "loop_iterator_element_" l.iterators.length) :=
  mem_iff_getElem.mpr ⟨k, by simpa [numbered] using inside, by simp [numbered]⟩
 simp only [labels, mem_cons, mem_append]
 exact .inr (.inr (.inr (mem_map_of_mem (f := fun (s, name) => (s.1.id, name)) found)))

variable (proper : l.Proper)

include proper

theorem Proper.perm : l.order.Perm l.nodes := by
 have perm := perm_of_filter l.nodes (·.kind == "an_LoopInputNode") (frameKinds.contains ·.kind)
 have body : l.nodes.filter (fun n => !(n.kind == "an_LoopInputNode") && !frameKinds.contains n.kind) = l.body :=
  filter_congr fun n _ => by
   by_cases isInput : n.kind = "an_LoopInputNode" <;> simp [isInput, frameKinds]
 rwa [proper.input, body] at perm

theorem Proper.honest_order : ∀ n ∈ l.order, Honest n := fun n mem => proper.honest n (proper.perm.mem_iff.mp mem)

theorem Proper.labels : Labels l.labels := labels_plain (proper.keys.sublist labels_keys)

theorem Proper.arranged : Arranged l.order :=
 (proper.wired.perm proper.perm).arranged
  (proper.ordered.framed filter_sublist proper.perm proper.source proper.sinks)
  (((proper.perm.flatMap_right fun n : NodeView => n.inputs ++ n.outputs).map _).nodup_iff.mpr proper.ids)

end LoopView

/-- Objects stay as they are, and free variables are bound anew by handing objects to them alone. -/
structure Progress.Follows (free : String → Prop) (p q : Progress V) : Prop where
 objects : p.memory.objects <+: q.memory.objects
 added : p.added <+: q.added
 handed : ∃ new, q.handed = p.handed ++ new ∧
  ∀ x, free x → q.memory.bound x = (new.reverse.lookup x).or (p.memory.bound x)

namespace Progress

variable {p q r : Progress V}

theorem Follows.still (objects : p.memory.objects <+: q.memory.objects) (added : p.added <+: q.added)
  (handed : q.handed = p.handed) (bound : ∀ x, free x → q.memory.bound x = p.memory.bound x) : p.Follows free q :=
 ⟨objects, added, [], by simp [handed], by simpa using bound⟩

theorem Follows.trans (first : p.Follows free q) (second : q.Follows free r) : p.Follows free r := by
 obtain ⟨objects, added, new, handed, bound⟩ := first
 obtain ⟨objects', added', new', handed', bound'⟩ := second
 refine ⟨objects.trans objects', added.trans added', new ++ new', by simp [handed, handed'], fun x isFree => ?_⟩
 rw [bound' x isFree, bound x isFree, reverse_append, lookup_append, Option.or_assoc]

end Progress

namespace LoopView

theorem executeTurns_induction {P : Progress V → Progress V → Prop} (refl : ∀ p, P p p)
  (trans : ∀ {p q r}, P p q → P q r → P p r)
  (step : ∀ t ∈ ts, ∀ p on q, t.execute b p = some (on, q) → P p q) (ran : executeTurns b ts p = some (on, q)) :
  P p q := by
 induction ts generalizing p with
 | nil =>
  cases ran
  exact refl _
 | cons t ts ih =>
  obtain ⟨⟨on', p'⟩, done, rest⟩ := Option.bind_eq_some_iff.mp ran
  have first := step t mem_cons_self p on' p' done
  cases on' with
  | true => exact trans first (ih (fun t mem => step t (mem_cons_of_mem _ mem)) rest)
  | false =>
   cases rest
   exact first

theorem executeTurns_append (ts us : List Turn) (p : Progress V) :
  executeTurns b (ts ++ us) p = (executeTurns b ts p).bind fun
   | (true, p) => executeTurns b us p
   | (false, p) => some (false, p) := by
 induction ts generalizing p with
 | nil => rfl
 | cons t ts ih =>
  simp only [cons_append, executeTurns]
  cases t.execute b p with
  | none => rfl
  | some out =>
   obtain ⟨_ | _, q⟩ := out
   · rfl
   · exact ih q

theorem Turn.quiet {t : Turn} (other : ∀ r vs, t ≠ .reassign r vs) (ran : t.execute b p = some (on, q)) :
  q.memory.bound = p.memory.bound ∧ q.handed = p.handed ∧ p.memory.objects <+: q.memory.objects ∧
   p.added <+: q.added := by
 cases t with
 | leave condition =>
  obtain ⟨v, _, same⟩ := Option.map_eq_some_iff.mp ran
  cases same
  exact ⟨rfl, rfl, prefix_rfl, prefix_rfl⟩
 | add g i vs =>
  obtain ⟨v, _, ran⟩ := Option.bind_eq_some_iff.mp ran
  split at ran
  · obtain ⟨⟨k, m⟩, taken, same⟩ := Option.map_eq_some_iff.mp ran
    cases same
    obtain ⟨objects, bound, _⟩ := Memory.take_spec taken
    exact ⟨bound, rfl, objects, prefix_append _ _⟩
  · cases ran
    exact ⟨rfl, rfl, prefix_rfl, prefix_rfl⟩
 | reassign r vs => exact absurd rfl (other r vs)

end LoopView

namespace ReassignView

variable (r : ReassignView) (b : LoopBehaviour V) (vs : Variables) (m : Memory V)

def met : Option Bool := r.condition.elim (some true) fun c => (m.value? (vs.of c)).map b.holds

def assigned : Option V :=
 if r.met b vs m = some true then m.value? (vs.of r.value.id) else m.value? (vs.of r.parameter)

def ready : Bool := (r.met b vs m).any fun on => !on || (m.value? (vs.of r.value.id)).isSome

def uses : Texts := (r.parameter :: r.value.id :: r.condition.toList).map vs.of

end ReassignView

namespace LoopView

variable {b : LoopBehaviour V} {p q : Progress V} {on : Bool} {free : String → Prop} {r : ReassignView} {vs : Variables}

theorem reassign_execute (b : LoopBehaviour V) (vs : Variables) (plain : converted r.node = []) (p : Progress V) :
  (Turn.reassign r vs).execute b p = (r.met b vs p.memory).bind fun
   | true => (p.memory.take (vs.of r.value.id) (keepsCopy r.value)).map fun (k, m) =>
    (true, { p with memory := m.point (vs.of r.parameter) k, handed := p.handed ++ [(vs.of r.parameter, k)] })
   | false => some (true, p) := by
 simp only [Turn.execute, plain, reassignNames, Variables.rename, map_nil, foldl_nil, executeAll,
  Option.bind_some, ReassignView.met]

theorem isSome_reassign (plain : converted r.node = []) :
  ((Turn.reassign r vs).execute b p).isSome = r.ready b vs p.memory := by
 rw [reassign_execute b vs plain, ReassignView.ready]
 cases r.met b vs p.memory with
 | none => rfl
 | some on => cases on <;> simp [Memory.take, Memory.value?, Option.isSome_bind]

theorem reassign_spec (free : String → Prop) (plain : converted r.node = []) (ran : (Turn.reassign r vs).execute b p = some (on, q)) :
  on = true ∧ q.added = p.added ∧ p.Follows free q ∧
   ∀ y, q.memory.value? y = if y = vs.of r.parameter then r.assigned b vs p.memory else p.memory.value? y := by
 rw [reassign_execute b vs plain] at ran
 obtain ⟨_ | _, met, ran⟩ := Option.bind_eq_some_iff.mp ran
 · cases ran
   refine ⟨rfl, rfl, .still prefix_rfl prefix_rfl rfl fun _ _ => rfl, fun y => ?_⟩
   split <;> simp_all [ReassignView.assigned]
 · obtain ⟨⟨k, m⟩, taken, same⟩ := Option.map_eq_some_iff.mp ran
   cases same
   obtain ⟨objects, bound, inside, value⟩ := Memory.take_spec taken
   have pointed : ∀ y, (m.point (vs.of r.parameter) k).bound y =
     if y = vs.of r.parameter then some k else p.memory.bound y := by
    simp [Memory.point, inside, bound]
   have kept : (m.point (vs.of r.parameter) k).objects = m.objects := by simp [Memory.point, inside]
   refine ⟨rfl, rfl, ⟨kept ▸ objects, prefix_rfl, _, rfl, fun x _ => ?_⟩, fun y => ?_⟩
   · by_cases same : x = vs.of r.parameter <;> simp [pointed, same, lookup_cons]
     simp [beq_eq_false_iff_ne.mpr same]
   · split
     · rename_i same
       simpa [ReassignView.assigned, met, Memory.value?, pointed, same, kept] using value
     · rename_i ne
       exact Memory.value?_of_prefix (kept ▸ objects) (by simp [pointed, ne])

theorem reassignTurns_eq (plain : ∀ r ∈ rs, converted r.node = []) (vs : Variables) :
  reassignTurns rs vs = rs.map (.reassign · vs) := by
 induction rs with
 | nil => rfl
 | cons r rs ih =>
  have same : reassignNames vs r = vs := by simp [reassignNames, plain r mem_cons_self, Variables.rename]
  simp only [reassignTurns, same, map_cons, ih fun s mem => plain s (mem_cons_of_mem _ mem)]

def Free (l : LoopView) (x : String) : Prop := x ∉ l.round.1.flatMap Statement.writes ∧
 x ∉ "current_loop_index" :: numbered "loop_iterator_element_" l.iterators.length

variable {l : LoopView} (proper : l.Proper) (asItIs : ∀ i ∈ inputs l.nodes, conversionCode? i = none)

include proper asItIs

omit asItIs in
theorem free_of_kept (distinct : ((sockets l.nodes).map fun s => (initial l.nodes).of s.id).Nodup) (other : t.id ∉ l.index :: l.iterators.map (·.1.id))
  (kept : t ∈ l.input.outputs ∨ t ∈ inputs l.nodes ∧ t.isLinked = false) : l.Free (l.start.of t.id) := by
 have arranged := proper.arranged
 have labels := proper.labels
 have first : l.input ∈ l.nodes := proper.perm.mem_iff.mp mem_cons_self
 have ins : inputs l.order ⊆ inputs l.nodes := (proper.perm.flatMap_right _).subset
 have outs : outputs l.order ⊆ outputs l.nodes := (proper.perm.flatMap_right _).subset
 have isSocket : t ∈ sockets l.nodes :=
  mem_sockets.mpr (kept.symm.imp And.left fun isOutput => mem_flatMap.mpr ⟨l.input, first, isOutput⟩)
 have apart {u : SocketView} (isOther : u ∈ sockets l.nodes) (ne : u.id ≠ t.id) : l.start.of u.id ≠ l.start.of t.id := by
  rw [start_of labels.keys, start_of labels.keys]
  exact fun same => ne (labels.injective distinct u isOther t isSocket same)
 have output {s : SocketId} (written : ∃ o ∈ outputs (l.body ++ l.frame), o.id = s) : l.start.of s ≠ l.start.of t.id := by
  obtain ⟨o, isOutput, rfl⟩ := written
  refine apart (mem_sockets.mpr (.inr (outs (mem_append_right _ isOutput)))) ?_
  rcases kept with fromInput | ⟨isInput, _⟩
  · have ids := arranged.ids
    grind [order]
  · exact (input_ne_output proper.ids isInput (outs (mem_append_right _ isOutput))).symm
 have target {s : SocketId} (written : ∃ h ∈ links l.order, h.2.id = s) : l.start.of s ≠ l.start.of t.id := by
  obtain ⟨h, mem, rfl⟩ := written
  obtain ⟨i, isInput, fits⟩ := arranged.fits mem
  have isInput := ins (mem_append_right _ isInput)
  refine fits.id ▸ apart (mem_sockets.mpr (.inl isInput)) fun same => ?_
  rcases kept with fromInput | ⟨_, unlinked⟩
  · exact input_ne_output proper.ids isInput (mem_flatMap.mpr ⟨l.input, first, fromInput⟩) same
  · have equal := inj_on_of_nodup_map proper.ids (mem_sockets.mpr (.inl isInput)) isSocket same
    simp [← equal, fits.linked] at unlinked
 refine ⟨fun written => ?_, fun isHead => ?_⟩
 · simp only [round, flatMap_append, mem_append] at written
   obtain ⟨_, entry⟩ := entry_statements proper.source l.start
   have honest := proper.honest_order
   rcases written with linked | bodied
   · simp only [delivery, flatMap_map, Statement.writes, mem_flatMap, mem_singleton] at linked
     obtain ⟨h, mem, name⟩ := linked
     exact target ⟨h, mem_append_left _ (mem_filter.mp mem).1, rfl⟩ name.symm
   · rcases written_statements arranged.tail (fun n mem => honest n (by simp [order, mem])) _ bodied with
      marked | ⟨s, unwritten, name⟩
     · rw [start_of labels.keys] at marked
       exact labels.unmarked l.nodes t.id marked
     · have unwritten := unwritten.mono fun n (mem : n ∈ l.body) => mem_append_left l.frame mem
       have kept := (plain_behind arranged (honest _ mem_cons_self) l.start (.inl unwritten)).2.2
       rw [entry] at kept
       exact unwritten.elim output (fun linked => target (linked.imp fun _ => .imp_left (mem_append_right _)))
        (kept.symm.trans name)
 · simp only [numbered, mem_cons, mem_map] at isHead
   rw [start_of labels.keys] at isHead
   simp only [mem_cons, mem_map, not_or] at other
   rcases isHead with same | ⟨k, inside, same⟩
   · exact labels.ne l.nodes mem_cons_self other.1 same
   · have inside := mem_range.mp inside
     exact labels.ne l.nodes (iterator_label inside) (fun id => other.2 ⟨_, getElem_mem inside, id.symm⟩) same.symm

theorem plain_reassigns : ∀ r ∈ l.reassigns, converted r.node = [] := by
 intro r mem
 refine filter_eq_nil_iff.mpr fun i isInput => ?_
 simp [asItIs i (mem_inputs.mpr ⟨r.node, proper.reassigned r mem, isInput⟩)]

/-- A round leaves the objects alone that it finds, where no input changes one of them without a copy. -/
theorem perform_follows (safe : ∀ h ∈ handovers l.input, getsCopy h = false → ∀ i ∈ inputs (l.body ++ l.frame),
   h.2.id = i.id → Owner i → ∃ j ∈ l.iterators, j.1.id = h.1.id)
  {index : Nat} (arity : row.length = l.iterators.length)
  (ran : l.perform b index row p = some (on, q)) : p.Follows l.Free q := by
 have arranged := proper.arranged
 have honest := proper.honest_order
 obtain ⟨⟨obs, m⟩, done, turned⟩ := Option.bind_eq_some_iff.mp ran
 obtain ⟨_, m₁, _, linked, bodied⟩ := executeAll_split _ _ done
 let own (k : Nat) : Prop := p.memory.objects.length ≤ k
 have fresh : Memory.Fresh own p.memory := fun _ new => new
 have grows := Memory.grows_putAll p.memory (head b index row)
 have names : (head b index row).map Prod.fst =
   "current_loop_index" :: numbered "loop_iterator_element_" l.iterators.length := by
  simp only [head, arity, map_cons]
  rw [map_fst_zip (by simp [numbered, arity])]
 obtain ⟨unprepared, entry⟩ := entry_statements proper.source l.start
 have guarded : Guarded Owner own (l.body ++ l.frame) (nodeStatements l.input l.start).2 m₁ := by
  refine Guarded.deliver arranged (honest _ mem_cons_self) (grows.fresh fresh) (fun i _ ready owner => ?_)
   (fun h mem shared i behind id owner => ?_) (by rw [unprepared]; exact linked)
  · obtain ⟨h, mem, id⟩ := (proper.wired.perm proper.perm).fed i ready.1 owner.2.1
    exact absurd id (ready.2 h mem)
  · obtain ⟨j, isIterator, id⟩ := safe h mem shared i behind id owner
    obtain ⟨k, inside, rfl⟩ := getElem_of_mem isIterator
    have name := of_rename_of_mem (initial l.nodes) proper.labels.keys (iterator_label inside)
    rw [unprepared, ← id, start_of proper.labels.keys, name]
    exact grows.held_of_mem fresh (names ▸ mem_cons_of_mem _ (mem_map.mpr ⟨k, by simpa using inside, rfl⟩))
 have guard : Guard Owner := ⟨fun _ owner => owner, .inr fun i owner => ⟨by grind [Owner, changes], owner.2.2⟩⟩
 rw [entry] at guarded
 have grows₁ := grows.trans (executeAll_grows _ linked)
 obtain ⟨keeps, _⟩ := guarded.run arranged.tail (fun n mem => honest n (by simp [order, mem])) guard
  (grows₁.fresh fresh) bodied
 have keeps := (Memory.keeps_putAll fresh (head b index row)).trans
  ((assigns_keep _ (grows.fresh fresh) linked).trans keeps)
 have grows := grows.trans (executeAll_grows _ done)
 have first : p.Follows l.Free { p with memory := m } := by
  refine .still (prefix_iff_getElem?.mpr fun k inside => ?_) prefix_rfl rfl fun x isFree => grows.kept x ?_
  · rw [keeps k (Nat.not_le_of_lt inside), getElem?_eq_getElem inside]
  · exact fun written => (mem_append.mp written).elim (fun isHead => isFree.2 (names ▸ isHead)) isFree.1
 refine first.trans (executeTurns_induction (fun p => .still prefix_rfl prefix_rfl rfl fun _ _ => rfl)
  .trans (fun t mem p on q ran => ?_) turned)
 have plain := plain_reassigns proper asItIs
 rw [turns, reassignTurns_eq plain, mem_append] at mem
 rcases mem with early | late
 · obtain ⟨bound, handed, objects, added⟩ := Turn.quiet (fun r vs same => by grind) ran
   exact .still objects added handed fun x _ => by rw [bound]
 · obtain ⟨r, isReassign, rfl⟩ := mem_map.mp late
   exact (reassign_spec _ (plain r isReassign) ran).2.2.1

end LoopView
end Code
end AnimationGraph
