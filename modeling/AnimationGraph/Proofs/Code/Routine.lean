import AnimationGraph.Proofs.Code.Run

/-! # Main networks and groups

A main network runs its nodes after their own values have been loaded.  Calling a group binds the outputs
of its input node to new objects; then the inner nodes run, and the inputs of the output node are read.
The last sockets of these two nodes stand for sockets that may be added, and take no part.
-/

namespace AnimationGraph

open List Variables
/-- A node without the socket that stands for sockets that may be added. -/
def NodeView.trim (n : NodeView) : NodeView :=
 if n.kind = "an_GroupInputNode" then { n with outputs := n.outputs.dropLast }
 else if n.kind = "an_GroupOutputNode" then { n with inputs := n.inputs.dropLast }
 else n

theorem NodeView.trim_identifier (n : NodeView) : n.trim.identifier = n.identifier := by
 unfold trim
 split
 · rfl
 · split <;> rfl

namespace Code
namespace GroupView

variable {g : GroupView}

/-- A group with one input node and at most one output node, whose last sockets are not linked. -/
structure Proper (g : GroupView) : Prop where
 input : g.nodes.filter (·.kind == "an_GroupInputNode") = [g.input]
 output : g.nodes.filter (·.kind == "an_GroupOutputNode") = g.output.toList
 source : g.input.inputs = []
 sink : ∀ o ∈ g.output, o.outputs = []
 spareOutput : ∀ s ∈ g.input.outputs.getLast?, s.isLinked = false
 spareInput : ∀ o ∈ g.output, ∀ s ∈ o.inputs.getLast?, s.isLinked = false

def order (g : GroupView) : List NodeView := g.input :: (g.inner ++ g.output.toList)

section

variable (proper : g.Proper)

include proper

theorem perm_nodes : g.order.Perm g.nodes := by
 have perm := perm_of_filter g.nodes (·.kind == "an_GroupInputNode") (·.kind == "an_GroupOutputNode")
 have output : g.nodes.filter (fun n => !(n.kind == "an_GroupInputNode") && n.kind == "an_GroupOutputNode") =
   g.output.toList := by
  rw [← proper.output]
  exact filter_congr fun n _ => by grind
 rwa [proper.input, output] at perm

omit proper in
theorem inner_trim : g.inner.map NodeView.trim = g.inner := by
 refine (map_congr_left fun n mem => ?_).trans (map_id _)
 have kind := (mem_filter.mp mem).2
 simp only [Bool.and_eq_true, bne_iff_ne] at kind
 simp [NodeView.trim, kind]

omit proper in
theorem linked_of_dropLast {l : List SocketView} (spare : ∀ s ∈ l.getLast?, s.isLinked = false) :
  l.dropLast.filter (·.isLinked) = l.filter (·.isLinked) := by
 rcases eq_nil_or_concat l with rfl | ⟨l, s, rfl⟩
 · rfl
 · simp_all

theorem trim_node {n : NodeView} (mem : n ∈ g.nodes) :
  handovers n.trim = handovers n ∧ n.trim.inputs.Sublist n.inputs ∧ n.trim.outputs.Sublist n.outputs ∧
   ∀ i ∈ n.inputs, i.isLinked = true → i ∈ n.trim.inputs := by
 unfold NodeView.trim
 split
 · rename_i isInput
   have equal : n ∈ [g.input] := proper.input ▸ mem_filter.mpr ⟨mem, by simp [isInput]⟩
   obtain rfl := mem_singleton.mp equal
   refine ⟨?_, List.Sublist.refl _, dropLast_sublist _, fun i isInput _ => isInput⟩
   simp only [handovers, NodeView.linkedOutputs, linked_of_dropLast proper.spareOutput]
 · split
   · rename_i isOutput
     have equal : n ∈ g.output.toList := proper.output ▸ mem_filter.mpr ⟨mem, by simp [isOutput]⟩
     refine ⟨rfl, dropLast_sublist _, List.Sublist.refl _, fun i isInput linked => ?_⟩
     have found : i ∈ n.inputs.filter (·.isLinked) := mem_filter.mpr ⟨isInput, linked⟩
     rw [← linked_of_dropLast (proper.spareInput n (by simpa using equal))] at found
     exact (mem_filter.mp found).1
   · exact ⟨rfl, List.Sublist.refl _, List.Sublist.refl _, fun i isInput _ => isInput⟩

theorem trim_order : (links (g.order.map NodeView.trim)).Perm (links g.nodes) ∧
   (∃ l, (sockets (g.order.map NodeView.trim)).Sublist l ∧ l.Perm (sockets g.nodes)) ∧
   inputs (g.order.map NodeView.trim) ⊆ inputs g.nodes ∧ outputs (g.order.map NodeView.trim) ⊆ outputs g.nodes ∧
   ∀ i ∈ inputs g.nodes, i.isLinked = true → i ∈ inputs (g.order.map NodeView.trim) := by
 have perm := perm_nodes proper
 have each := fun n (mem : n ∈ g.order) => trim_node proper (perm.mem_iff.mp mem)
 refine ⟨?_, ⟨_, ?_, perm.flatMap_right _⟩, fun i mem => ?_, fun o mem => ?_, fun i mem linked => ?_⟩
 · refine .trans (.of_eq ?_) (perm.flatMap_right _)
   rw [links, flatMap_map]
   exact flatMap_congr fun n mem => (each n mem).1
 · rw [sockets, flatMap_map]
   exact List.Sublist.flatMap_right _ fun n mem => (each n mem).2.1.append (each n mem).2.2.1
 · simp only [inputs, mem_flatMap, mem_map] at mem
   obtain ⟨_, ⟨n, isNode, rfl⟩, isInput⟩ := mem
   exact mem_flatMap.mpr ⟨n, perm.mem_iff.mp isNode, (each n isNode).2.1.subset isInput⟩
 · simp only [outputs, mem_flatMap, mem_map] at mem
   obtain ⟨_, ⟨n, isNode, rfl⟩, isOutput⟩ := mem
   exact mem_flatMap.mpr ⟨n, perm.mem_iff.mp isNode, (each n isNode).2.2.1.subset isOutput⟩
 · obtain ⟨n, isNode, isInput⟩ := mem_inputs.mp mem
   have isNode := perm.mem_iff.mpr isNode
   exact mem_inputs.mpr ⟨n.trim, mem_map_of_mem isNode, (each n isNode).2.2.2 i isInput linked⟩

theorem wired_order (wired : Wired g.nodes) : Wired (g.order.map NodeView.trim) := by
 obtain ⟨links, _, ins, outs, linked⟩ := trim_order proper
 refine ⟨fun s mem => wired.typed s (by grind), (links.map _).nodup_iff.mpr wired.single, fun h mem => ?_,
  fun i isInput isLinked => ?_, fun i isInput => wired.free i (ins isInput)⟩
 · obtain ⟨i, isInput, fits⟩ := wired.fits h (links.mem_iff.mp mem)
   exact ⟨i, linked i isInput fits.linked, fits⟩
 · obtain ⟨h, mem, id⟩ := wired.fed i (ins isInput) isLinked
   exact ⟨h, links.mem_iff.mpr mem, id⟩

theorem ordered_order (ordered : Ordered g.nodes) : Ordered (g.order.map NodeView.trim) := by
 have perm := perm_nodes proper
 have untrim : ∀ n ∈ g.order, ∀ p ∈ g.order, Feeds n.trim p.trim → Feeds n p := by
  rintro n isNode p isNode' ⟨h, mem, i, isInput, id⟩
  exact ⟨h, (trim_node proper (perm.mem_iff.mp isNode)).1 ▸ mem, i,
   (trim_node proper (perm.mem_iff.mp isNode')).2.1.subset isInput, id⟩
 have plain : Ordered g.order := ordered.framed filter_sublist perm proper.source fun n mem =>
  proper.sink n (by simpa using mem)
 refine ⟨pairwise_map.mpr (plain.1.imp_of_mem fun first second apart feeds =>
  apart (untrim _ second _ first feeds)), ?_⟩
 rintro _ mem feeds
 obtain ⟨n, isNode, rfl⟩ := mem_map.mp mem
 exact plain.2 n isNode (untrim n isNode n isNode feeds)

variable (distinct : ((sockets g.nodes).map fun s => (initial g.nodes).of s.id).Nodup)

omit proper in
include distinct in
theorem ids_of_names : ((sockets g.nodes).map (·.id)).Nodup := by
 have composed : (sockets g.nodes).map (fun s => (initial g.nodes).of s.id) =
   ((sockets g.nodes).map (·.id)).map (initial g.nodes).of := by simp
 exact (composed ▸ distinct).of_map

theorem output_mem (isOutput : o ∈ g.input.outputs) : o ∈ outputs g.nodes :=
 mem_flatMap.mpr ⟨g.input, (perm_nodes proper).mem_iff.mp mem_cons_self, isOutput⟩

include distinct

theorem labels : Labels (g.input.outputs.zipIdx.map fun (s, i) => (s.id, "group_input_" ++ toString i)) where
 keys := by
  have ids := (((perm_nodes proper).flatMap_right fun n => n.inputs ++ n.outputs).map (·.id)).nodup_iff.mpr
   (ids_of_names distinct)
  simp only [order, flatMap_cons, map_append] at ids
  have outputs := ids.of_append_left.of_append_right
  rw [← zipIdx_map_fst 0 g.input.outputs, map_map] at outputs
  simpa [Function.comp_def] using outputs
 values := by
  have indices := nodup_numbered "group_input_" (nodup_range' (s := 0) (n := g.input.outputs.length))
  rw [← zipIdx_map_snd 0 g.input.outputs, map_map] at indices
  simpa [Function.comp_def] using indices
 plain p mem := by
  obtain ⟨q, _, rfl⟩ := mem_map.mp mem
  exact ⟨numbered_unmarked _ q.2, by simp, by simp⟩

theorem names_of_input (isInput : i ∈ inputs g.nodes) :
  g.names.of i.id = (initial g.nodes).of i.id := by
 rcases rename_cases _ (labels proper distinct).keys i.id with isKey | ⟨_, name⟩
 · obtain ⟨q, found, same⟩ := mem_map.mp isKey
   exact absurd (congrArg Prod.fst same).symm (input_ne_output (ids_of_names distinct) isInput
    (output_mem proper (fst_mem_of_mem_zipIdx found)))
 · exact name

theorem names_injective : ∀ s ∈ sockets g.nodes, ∀ t ∈ sockets g.nodes, g.names.of s.id = g.names.of t.id → s = t :=
 fun s first t second same => inj_on_of_nodup_map (ids_of_names distinct) first second
  ((labels proper distinct).injective distinct s first t second same)

end
end GroupView

inductive Routine where
 | main (nodes : List NodeView)
 | group (g : GroupView)

namespace Routine

def nodes : Routine → List NodeView
 | main nodes => nodes
 | group g => g.nodes

def names : Routine → Variables
 | main nodes => initial nodes
 | group g => g.names

/-- The nodes that run.  The input node of a group runs when the group is called. -/
def steps : Routine → List NodeView
 | main nodes => nodes
 | group g => g.input.trim :: g.inner

def exits : Routine → List NodeView
 | main _ => []
 | group g => g.output.toList.map NodeView.trim

def script (r : Routine) : List Statement × Variables := statements r.steps r.names

def rendered (mode : CodeMode) : Routine → String
 | main nodes => joinLines ((main nodes).script.1.flatMap (Statement.lines mode))
 | group g =>
  g.defining g.input.trim.outputs (((group g).script.1.drop 2).flatMap (Statement.lines mode)) <|
   match g.output with
   | none => "return"
   | some o => "return " ++ ", ".intercalate (o.trim.inputs.map fun s => (group g).script.2.of s.id)

def text (mode : CodeMode) : Routine → String
 | main nodes => (mainScripts mode nodes).2
 | group g => g.script mode

structure Sound (r : Routine) : Prop where
 wired : Wired r.nodes
 ordered : Ordered r.nodes
 honest : ∀ n ∈ r.nodes, Honest n
 distinct : ((sockets r.nodes).map fun s => (initial r.nodes).of s.id).Nodup
 proper : ∀ g, r = group g → g.Proper

/-- What the nodes show in a run: own values are loaded, nodes run, and results are read. -/
def run (b : Behaviour V) (r : Routine) : Option (List (Observation V)) :=
 (executeAll b r.script.1 (loaded b r.nodes (initial r.nodes))).bind fun (obs, m) =>
  if ∀ i ∈ inputs r.exits, (shown r.script.2 m i.id).isSome then
   some (obs ++ r.exits.map fun n => ⟨n, shown r.script.2 m, shown r.script.2 m⟩)
  else none

theorem order_group (g : GroupView) : (group g).steps ++ (group g).exits = g.order.map NodeView.trim := by
 simp [steps, exits, GroupView.order, GroupView.inner_trim]

theorem Sound.call (sound : (group g).Sound) :
  g.input.trim.inputs = [] ∧ g.input.trim.passes = [] ∧ handovers g.input.trim = handovers g.input := by
 have proper := sound.proper g rfl
 obtain ⟨same, fewer, _⟩ := GroupView.trim_node proper ((GroupView.perm_nodes proper).mem_iff.mp mem_cons_self)
 rw [proper.source, sublist_nil] at fewer
 exact ⟨fewer, by simp [NodeView.passes, NodeView.input?, fewer], same⟩

theorem Sound.call_statements (sound : (group g).Sound) (vs : Variables) :
  preparation g.input.trim vs = ([], vs) ∧ nodeStatements g.input.trim vs = (.start g.input.trim ::
   .run g.input.trim vs :: (delivery g.input vs).1.map .assign, (delivery g.input vs).2) := by
 obtain ⟨none, unpassed, same⟩ := sound.call
 simp [nodeStatements, preparation, renewed, converted, none, unpassed, delivery, same, Variables.rename]

variable {r : Routine}

theorem Sound.links_exits (sound : r.Sound) : links r.exits = [] := by
 cases r with
 | main nodes => rfl
 | group g =>
  simp only [links, exits, flatMap_map, flatMap_eq_nil_iff]
  intro o mem
  have proper := sound.proper g rfl
  have isNode := (GroupView.perm_nodes proper).mem_iff.mp (mem_cons_of_mem _ (mem_append_right _ mem))
  rw [(GroupView.trim_node proper isNode).1]
  simp [handovers, NodeView.linkedOutputs, proper.sink o (by simpa using mem)]

theorem Sound.honest_steps (sound : r.Sound) : ∀ n ∈ r.steps, Honest n := by
 cases r with
 | main nodes => exact sound.honest
 | group g =>
  intro n mem
  rcases mem_cons.mp mem with rfl | mem
  · constructor <;> simp [sound.call.2.1]
  · exact sound.honest n (mem_filter.mp mem).1

theorem Sound.wired_order (sound : r.Sound) :
  Wired (r.steps ++ r.exits) ∧ inputs (r.steps ++ r.exits) ⊆ inputs r.nodes := by
 cases r with
 | main nodes =>
  simp only [steps, exits, append_nil]
  exact ⟨sound.wired, List.Subset.refl _⟩
 | group g =>
  have proper := sound.proper g rfl
  rw [order_group]
  exact ⟨GroupView.wired_order proper sound.wired, (GroupView.trim_order proper).2.2.1⟩

theorem Sound.start (sound : r.Sound) (b : Behaviour V) : Arranged (r.steps ++ r.exits) ∧
   Standing b [] (r.steps ++ r.exits) r.names (loaded b r.nodes (initial r.nodes)) := by
 have ids := GroupView.ids_of_names (g := ⟨r.nodes, default, none⟩) sound.distinct
 cases r with
 | main nodes =>
  have arranged := sound.wired.arranged sound.ordered ids
  simp only [steps, exits, append_nil]
  exact ⟨arranged, Standing.start arranged sound.wired.fed sound.wired.fits (initial_unmarked nodes) sound.distinct
   (apart_loaded _ _) fun n mem i isInput => value?_loaded sound.distinct mem isInput⟩
 | group g =>
  have proper := sound.proper g rfl
  obtain ⟨_, ⟨l, sub, perm⟩, ins, outs, _⟩ := GroupView.trim_order proper
  have wired := GroupView.wired_order proper sound.wired
  have sub : ∀ s ∈ sockets (g.order.map NodeView.trim), s ∈ sockets g.nodes := by grind
  have ids := ((perm.map _).nodup_iff.mpr ids).sublist (‹List.Sublist _ l›.map _)
  have arranged := wired.arranged (GroupView.ordered_order proper sound.ordered) ids
  have distinct := List.Nodup.map_on (fun s first t second =>
   GroupView.names_injective proper sound.distinct s (sub s first) t (sub t second)) ids.of_map
  rw [order_group]
  refine ⟨arranged, Standing.start arranged wired.fed wired.fits
   ((GroupView.labels proper sound.distinct).unmarked g.nodes) distinct (apart_loaded _ _) fun n mem i isInput unlinked => ?_⟩
  obtain ⟨p, isNode, rfl⟩ := mem_map.mp mem
  have isNode := (GroupView.perm_nodes proper).mem_iff.mp isNode
  have isInput := (GroupView.trim_node proper isNode).2.1.subset isInput
  have name := GroupView.names_of_input proper sound.distinct (mem_inputs.mpr ⟨p, isNode, isInput⟩)
  rw [names, name, NodeView.trim_identifier]
  exact value?_loaded sound.distinct isNode isInput unlinked

theorem Sound.text_eq (sound : r.Sound) (mode : CodeMode) : r.text mode = r.rendered mode := by
 cases r with
 | main nodes => rfl
 | group g =>
  have proper := sound.proper g rfl
  have kind : g.input.kind = "an_GroupInputNode" := by
   have found : g.input ∈ g.nodes.filter (·.kind == "an_GroupInputNode") := by simp [proper.input]
   simpa using (mem_filter.mp found).2
  have first (vs : Variables) := (sound.call_statements vs).2
  have trimmed : g.input.trim.outputs = (g.input.inputs ++ g.input.outputs).dropLast := by
   simp [NodeView.trim, kind, proper.source]
  have result : ∀ o ∈ g.output, o.trim.inputs = o.inputs.dropLast := by
   intro o mem
   have found : o ∈ g.nodes.filter (·.kind == "an_GroupOutputNode") := by simp_all [proper.output]
   have kind : o.kind = "an_GroupOutputNode" := by simpa using (mem_filter.mp found).2
   simp [NodeView.trim, kind]
  simp only [text, rendered, GroupView.script, script, steps, statements, first, trimmed, bodyLines, cons_append,
   drop_succ_cons, drop_zero, flatMap_append, assign_lines, names]
  cases shape : g.output with
  | none => rfl
  | some o => simp only [result o shape]

def Undisturbed (r : Routine) : Prop := Code.Undisturbed r.steps r.exits r.names

instance (r : Routine) : Decidable r.Undisturbed := decidableUndisturbed r.steps r.exits r.names

/-- All nodes see what is due, and the results that are read are those that are due. -/
def Keeps (b : Behaviour V) (r : Routine) : Prop :=
 ∃ obs last, r.run b = some (obs ++ last) ∧ obs.map (·.node) = r.steps ∧ last.map (·.node) = r.exits ∧
  (∀ ob ∈ obs, Faithful b (obs ++ last) ob) ∧
  ∀ ob ∈ last, ob.left = ob.seen ∧
   ∀ i ∈ ob.node.inputs, ∃ v, Due b (obs ++ last) ob.node i v ∧ ob.seen i.id = some v

theorem Sound.keeps (sound : r.Sound) (calm : r.Undisturbed) (b : Behaviour V) : r.Keeps b := by
 obtain ⟨arranged, standing⟩ := sound.start b
 obtain ⟨obs, m, ran, order, faithful, ⟨_, _, due⟩⟩ := standing.run arranged sound.honest_steps calm
 have due : ∀ n ∈ r.exits, ∀ i ∈ n.inputs, ∃ v, m.value? (r.script.2.of i.id) = some v ∧ Due b obs n i v :=
  fun n isNode i isInput => due n isNode i isInput ⟨mem_inputs.mpr ⟨n, isNode, isInput⟩, by simp [sound.links_exits]⟩
 have readable : ∀ i ∈ inputs r.exits, (shown r.script.2 m i.id).isSome := by
  intro i mem
  obtain ⟨n, isNode, isInput⟩ := mem_inputs.mp mem
  obtain ⟨v, here, _⟩ := due n isNode i isInput
  simp [shown, here]
 refine ⟨obs, r.exits.map fun n => ⟨n, shown r.script.2 m, shown r.script.2 m⟩, ?_, order, by simp [Function.comp_def],
  fun ob mem => (faithful ob mem).append _, fun ob mem => ?_⟩
 · simp only [run, script, ran, Option.bind_some]
   exact if_pos readable
 · obtain ⟨n, isNode, rfl⟩ := mem_map.mp mem
   refine ⟨rfl, fun i isInput => ?_⟩
   obtain ⟨v, here, due⟩ := due n isNode i isInput
   exact ⟨v, due.append _, here⟩

end Routine
namespace Samples

def dataType (name : String) : DataType := (socketTypes.find? name).getD default

def output (index : Nat) (type : String) (targets : List TargetView) : SocketView where
 id := ⟨index⟩
 identifier := "result"
 place := 0
 isOutput := true
 type := dataType type
 isLinked := !targets.isEmpty
 targets := targets

def input (index : Nat) (type : String) (origin : Option String) (modified : Bool := false) : SocketView where
 id := ⟨index⟩
 identifier := "value"
 place := 0
 isOutput := false
 type := dataType type
 isLinked := origin.isSome
 originType := origin
 modified := modified

def node (name : String) (inputs outputs : List SocketView) (kind : String := "") : NodeView where
 id := ⟨0⟩
 kind := kind
 tree := ""
 name := name
 identifier := name
 inputs := inputs
 outputs := outputs
 inputVariables := (inputs.take 1).map fun i => (i.identifier, "value")
 outputVariables := (outputs.take 1).map fun o => (o.identifier, "value")

theorem typed_of_names (types : Texts)
  (shape : (sockets nodes).map (·.type) = types.map dataType) (known : ∀ name ∈ types, (socketTypes.find? name).isSome) :
  ∀ s ∈ sockets nodes, s.type ∈ socketTypes.types := by
 intro s mem
 have isType := mem_map_of_mem (f := (·.type)) mem
 rw [shape] at isType
 obtain ⟨name, isName, type⟩ := mem_map.mp isType
 obtain ⟨t, found⟩ := Option.isSome_iff_exists.mp (known name isName)
 rw [← type, dataType, found]
 exact mem_of_find?_eq_some found

def terms : Behaviour String where
 load text := text
 convert code v := code ++ " of " ++ v
 change n _ _ := "changed by " ++ n.name
 result n _ _ := "made by " ++ n.name

end Samples
end Code
end AnimationGraph
