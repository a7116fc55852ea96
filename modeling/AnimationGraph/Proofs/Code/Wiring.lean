import AnimationGraph.Proofs.Code.Memory
import AnimationGraph.Proofs.Forest.Keys

/-! # How the nodes of a script are linked

What scripts rely on: each input takes its value from at most one output, of a type that it accepts;
nodes come after the nodes that feed them; and an output that shares the variable of an input is of a type
that is never changed, or the node says that it changes that input.
-/

namespace AnimationGraph.Code

open List

variable (nodes : List NodeView)

def inputs : List SocketView := nodes.flatMap (·.inputs)

def outputs : List SocketView := nodes.flatMap (·.outputs)

def sockets : List SocketView := nodes.flatMap fun n => n.inputs ++ n.outputs

def links : List (SocketView × TargetView) := nodes.flatMap handovers

structure Fits (h : SocketView × TargetView) (i : SocketView) : Prop where
 id : i.id = h.2.id
 modified : i.modified = h.2.modified
 linked : i.isLinked = true
 origin : i.originType = some h.1.type.name
 accepted : h.1.type.name ∈ socketTypes.acceptedBy i.type

instance (h : SocketView × TargetView) (i : SocketView) : Decidable (Fits h i) :=
 decidable_of_iff (i.id = h.2.id ∧ i.modified = h.2.modified ∧ i.isLinked = true ∧
  i.originType = some h.1.type.name ∧ h.1.type.name ∈ socketTypes.acceptedBy i.type)
  ⟨fun ⟨a, b, c, d, e⟩ => ⟨a, b, c, d, e⟩, fun ⟨a, b, c, d, e⟩ => ⟨a, b, c, d, e⟩⟩

structure Wired (nodes : List NodeView) : Prop where
 typed : ∀ s ∈ sockets nodes, s.type ∈ socketTypes.types
 single : ((links nodes).map (·.2.id)).Nodup
 fits : ∀ h ∈ links nodes, ∃ i ∈ inputs nodes, Fits h i
 fed : ∀ i ∈ inputs nodes, i.isLinked = true → ∃ h ∈ links nodes, h.2.id = i.id
 free : ∀ i ∈ inputs nodes, i.isLinked = false → i.originType = none

def Feeds (n p : NodeView) : Prop := ∃ h ∈ handovers n, ∃ i ∈ p.inputs, i.id = h.2.id

instance (n p : NodeView) : Decidable (Feeds n p) :=
 inferInstanceAs (Decidable (∃ h ∈ handovers n, ∃ i ∈ p.inputs, i.id = h.2.id))

def Ordered : Prop :=
 nodes.Pairwise (fun n p => ¬ Feeds p n) ∧ ∀ n ∈ nodes, ¬ Feeds n n

instance (nodes : List NodeView) : Decidable (Ordered nodes) := inferInstanceAs (Decidable (_ ∧ _))

/-- An output shares a variable only where it is safe: an object of a type that can be copied comes from an
input that the node says it changes, and goes to one output. -/
structure Honest (n : NodeView) : Prop where
 distinct : (n.passes.map (·.2.id)).Nodup
 owned : ∀ p ∈ n.passes, p.2.type.copy.isSome → changes p.1
 once : ∀ p ∈ n.passes, ∀ q ∈ n.passes, p.2.type.copy.isSome → p.1.id = q.1.id → p.2.id = q.2.id

instance (n : NodeView) : Decidable (Honest n) :=
 decidable_of_iff ((n.passes.map (·.2.id)).Nodup ∧ (∀ p ∈ n.passes, p.2.type.copy.isSome → changes p.1) ∧
  ∀ p ∈ n.passes, ∀ q ∈ n.passes, p.2.type.copy.isSome → p.1.id = q.1.id → p.2.id = q.2.id)
  ⟨fun ⟨a, b, c⟩ => ⟨a, b, c⟩, fun ⟨a, b, c⟩ => ⟨a, b, c⟩⟩

/-- Nodes in their order, with all that is needed of their links. -/
structure Arranged (nodes : List NodeView) : Prop where
 ids : ((sockets nodes).map (·.id)).Nodup
 single : ((links nodes).map (·.2.id)).Nodup
 typed : ∀ s ∈ sockets nodes, s.type ∈ socketTypes.types
 free : ∀ i ∈ inputs nodes, i.isLinked = false → i.originType = none
 forward : ∀ before n after, nodes = before ++ n :: after →
  ∀ h ∈ handovers n, ∃ i ∈ inputs after, Fits h i

variable (n : NodeView) (rest : List NodeView)

@[grind =] theorem inputs_cons :
  inputs (n :: rest) = n.inputs ++ inputs rest := rfl

@[grind =] theorem outputs_cons :
  outputs (n :: rest) = n.outputs ++ outputs rest := rfl

@[grind =] theorem links_cons :
  links (n :: rest) = handovers n ++ links rest := rfl

@[grind =] theorem sockets_cons :
  sockets (n :: rest) = n.inputs ++ n.outputs ++ sockets rest := rfl

variable {nodes : List NodeView} {n : NodeView}

theorem mem_inputs : i ∈ inputs nodes ↔ ∃ n ∈ nodes, i ∈ n.inputs :=
 mem_flatMap

@[grind =] theorem mem_sockets :
  s ∈ sockets nodes ↔ s ∈ inputs nodes ∨ s ∈ outputs nodes := by
 simp only [sockets, inputs, outputs, mem_flatMap, mem_append]
 grind

@[grind →] theorem mem_of_mem_handovers (mem : h ∈ handovers n) :
  h.1 ∈ n.outputs ∧ h.2 ∈ h.1.targets := by
 simp only [handovers, NodeView.linkedOutputs, mem_flatMap, mem_map, mem_filter] at mem
 grind

@[grind →] theorem mem_of_mem_passes (mem : p ∈ n.passes) :
  p.1 ∈ n.inputs ∧ p.2 ∈ n.outputs := by
 simp only [NodeView.passes, mem_filterMap, Option.bind_eq_some_iff, Option.map_eq_some_iff] at mem
 obtain ⟨l, _, i, isInput, o, isOutput, rfl⟩ := mem
 exact ⟨mem_of_find?_eq_some isInput, mem_of_find?_eq_some isOutput⟩

theorem input_ne_output (ids : ((sockets nodes).map (·.id)).Nodup)
  (isInput : i ∈ inputs nodes) (isOutput : o ∈ outputs nodes) : i.id ≠ o.id := by
 induction nodes with
 | nil => cases isInput
 | cons n rest ih => grind

theorem Wired.arranged (wired : Wired nodes) (ordered : Ordered nodes)
  (ids : ((sockets nodes).map (·.id)).Nodup) : Arranged nodes where
 ids := ids
 single := wired.single
 typed := wired.typed
 free := wired.free
 forward before n after shape h mem := by
  have here : n ∈ nodes := by simp [shape]
  obtain ⟨i, isInput, fits⟩ := wired.fits h (mem_flatMap.mpr ⟨n, here, mem⟩)
  obtain ⟨p, isNode, isInput⟩ := mem_inputs.mp isInput
  have feeds : Feeds n p := ⟨h, mem, i, isInput, fits.id⟩
  have apart := ordered.1
  rw [shape, pairwise_append] at apart
  have behind : p ∈ after := by
   have := ordered.2 p isNode
   have := apart.2.2 p
   grind
  exact ⟨i, mem_inputs.mpr ⟨p, behind, isInput⟩, fits⟩

namespace Arranged

variable {rest : List NodeView} (arranged : Arranged (n :: rest))

include arranged

theorem tail : Arranged rest where
 ids := by grind [arranged.ids]
 single := by grind [arranged.single]
 typed := by grind [arranged.typed]
 free := by grind [arranged.free]
 forward before p after shape := arranged.forward (n :: before) p after (by rw [shape, cons_append])

theorem fits (mem : h ∈ links (n :: rest)) : ∃ i ∈ inputs rest, Fits h i := by
 rw [links_cons, mem_append] at mem
 rcases mem with here | behind
 · exact arranged.forward [] n rest rfl h here
 · obtain ⟨p, isNode, mem⟩ := mem_flatMap.mp behind
   obtain ⟨before, after, shape⟩ := append_of_mem isNode
   obtain ⟨i, isInput, fits⟩ := arranged.forward (n :: before) p after (by simp [shape]) h mem
   obtain ⟨q, isAfter, isInput⟩ := mem_inputs.mp isInput
   exact ⟨i, mem_inputs.mpr ⟨q, by simp [shape, isAfter], isInput⟩, fits⟩

end Arranged

theorem Wired.perm (wired : Wired nodes) (perm : nodes'.Perm nodes) : Wired nodes' := by
 have ins := perm.flatMap_right fun n : NodeView => n.inputs
 have all := perm.flatMap_right fun n : NodeView => n.inputs ++ n.outputs
 have links := perm.flatMap_right handovers
 refine ⟨fun s mem => wired.typed s (all.mem_iff.mp mem), (links.map _).nodup_iff.mpr wired.single,
  fun h mem => ?_, fun i isInput linked => ?_, fun i isInput => wired.free i (ins.mem_iff.mp isInput)⟩
 · obtain ⟨i, isInput, fits⟩ := wired.fits h (links.mem_iff.mp mem)
   exact ⟨i, ins.mem_iff.mpr isInput, fits⟩
 · obtain ⟨h, mem, id⟩ := wired.fed i (ins.mem_iff.mp isInput) linked
   exact ⟨h, links.mem_iff.mpr mem, id⟩

theorem Ordered.framed {inner : List NodeView} (ordered : Ordered nodes)
  (sub : inner.Sublist nodes) (perm : (first :: (inner ++ last)).Perm nodes) (source : first.inputs = [])
  (sinks : ∀ n ∈ last, n.outputs = []) : Ordered (first :: (inner ++ last)) := by
 have unfed : ∀ p ∈ last, ∀ n, ¬ Feeds p n := by
  rintro p isLast n ⟨h, mem, _⟩
  have none := (mem_of_mem_handovers mem).1
  simp [sinks p isLast] at none
 refine ⟨pairwise_cons.mpr ⟨fun p _ => ?_, pairwise_append.mpr ⟨ordered.1.sublist sub,
  pairwise_of_forall_mem_list fun n _ p isLast => unfed p isLast n, fun n _ p isLast => unfed p isLast n⟩⟩,
  fun n mem => ordered.2 n (perm.mem_iff.mp mem)⟩
 rintro ⟨_, _, i, isInput, _⟩
 simp [source] at isInput

theorem perm_of_filter (l : List α) (p q : α → Bool) :
  (l.filter p ++ (l.filter (fun a => !p a && !q a) ++ l.filter (fun a => !p a && q a))).Perm l := by
 have inner := filter_append_perm q (l.filter fun a => !p a)
 simp only [filter_filter] at inner
 refine (List.Perm.append_left _ (perm_append_comm.trans (.trans (.of_eq ?_) inner))).trans
  (filter_append_perm p l)
 congr 1 <;> exact filter_congr fun a _ => Bool.and_comm _ _

theorem copyable_types : ∀ b ∈ socketTypes.types, b.copy.isSome →
  b.accepts = none ∧ (b.defaultCode.isSome → b.valued = false) ∧
   (∀ a ∈ socketTypes.types, a.name = b.name → a.copy.isSome) ∧
   ∀ c ∈ socketTypes.conversions, c.target = b.name → c.code.isSome := by
 decide +kernel

/-- Where a value arrives as it is at an input of a type that can be copied, it comes from an output of
such a type. -/
theorem copyable_of_accepted (ha : a ∈ socketTypes.types) (hb : b ∈ socketTypes.types)
  (accepted : a.name ∈ socketTypes.acceptedBy b)
  (asItIs : a.name = b.name ∨ socketTypes.conversionCode? a.name b.name = none)
  (copyable : b.copy.isSome) : a.copy.isSome := by
 obtain ⟨own, _, sameName, coded⟩ := copyable_types b hb copyable
 by_cases same : a.name = b.name
 · exact sameName a ha same
 · have noCode := asItIs.resolve_left same
   simp only [TypeFamily.acceptedBy, DataType.takesAll, own, Option.any_none, Bool.false_eq_true, if_false,
    Option.getD_none, mem_sortedSet, mem_append, mem_singleton, same, false_or, TypeFamily.convertible, mem_map,
    mem_filter] at accepted
   obtain ⟨c, ⟨mem, target⟩, source⟩ := accepted
   simp only [TypeFamily.conversionCode?, Option.bind_eq_none_iff] at noCode
   cases found : socketTypes.conversions.find? fun c => c.source == a.name && c.target == b.name with
   | none => grind [find?_eq_none]
   | some first => grind [mem_of_find?_eq_some]

/-- Where a target changes an object that can be copied and gets no copy, all other targets get copies. -/
theorem eq_of_not_copied (copyable : o.type.copy.isSome)
  (mem : t ∈ o.targets) (other : u ∈ o.targets) (modified : t.modified)
  (first : t ∉ copiedTargets o) (second : u ∉ copiedTargets o) : t = u := by
 have inModifying : t ∈ o.targets.filter (·.modified) := mem_filter.mpr ⟨mem, modified⟩
 have all (few : o.targets.length ≤ (o.targets.filter (·.modified)).length) :
   o.targets.filter (·.modified) = o.targets := filter_sublist.eq_of_length_le few
 have isCopyable : o.type.copy.isNone = false := by
  cases found : o.type.copy <;> simp_all
 simp only [copiedTargets, isCopyable] at first second
 cases shape : o.targets with
 | nil => simp [shape] at mem
 | cons x rest => grind

end AnimationGraph.Code
