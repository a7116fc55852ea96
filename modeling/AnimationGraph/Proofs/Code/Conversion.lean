import AnimationGraph.Proofs.Code.Routine

/-! # Where converted values are read

Scripts read the values of inputs in the code of nodes, and in the frames of groups and loops.  Conversions
are made before the code of a node and before a reassignment.  Such a place reads the converted value unless
another conversion takes the same variable; all other places read what is handed over, as it is.
-/

namespace AnimationGraph.Code

open List

/-- A place where a script reads the value of an input. -/
structure Use where
 socket : SocketId
 given : String
 name : String
 before : List Assignment

/-- The variable was last assigned the converted value of what is handed to the input. -/
def Use.Converts (u : Use) (code : String) : Prop :=
 (u.before.filter (·.target == u.name)).getLast? = some ⟨u.name, .converted code u.given⟩

/-- Whoever reads an input that needs a conversion gets the converted value. -/
def Use.Served (nodes : List NodeView) (u : Use) : Prop :=
 ∀ i ∈ inputs nodes, i.id = u.socket → ∀ code, conversionCode? i = some code → u.Converts code

def uses (given names : Variables) (before : List Assignment) (sockets : List SocketId) : List Use :=
 sockets.map fun s => ⟨s, given.of s, names.of s, before⟩

@[simp]
theorem names_uses (given names : Variables) (before : List Assignment) (sockets : List SocketId) :
 (uses given names before sockets).map (·.name) = sockets.map names.of := by
 simp [uses, Function.comp_def]

def assigned (steps : List Statement) : List Assignment :=
 steps.filterMap fun
  | .assign a => some a
  | _ => none

def bodyUses : List NodeView → Variables → List Assignment → List Use
 | [], _, _ => []
 | n :: rest, vs, before =>
  uses vs (preparation n vs).2 (before ++ (preparation n vs).1) (n.inputs.map (·.id))
   ++ bodyUses rest (nodeStatements n vs).2 (before ++ assigned (nodeStatements n vs).1)

def readings : List Assignment → List Statement → List (SocketId × String × List Assignment)
 | _, [] => []
 | before, .start _ :: rest => readings before rest
 | before, .assign a :: rest => readings (before ++ [a]) rest
 | before, .run n names :: rest => n.inputs.map (fun i => (i.id, names.of i.id, before)) ++ readings before rest

/-- A piece of the frame of a group or of a loop: what it reads, and its lines in terms of the variables
that it reads. -/
structure Piece where
 reads : List Use
 code : Texts → Texts

def Piece.lines (p : Piece) : Texts := p.code (p.reads.map (·.name))

def reassigning : List ReassignView → Variables → List Assignment → List Piece
 | [], _, _ => []
 | r :: rest, vs, before =>
  let names := LoopView.reassignNames vs r
  let conversions := (converted r.node).map (renewal vs)
  let code : Texts → Texts
   | [value] => [names.of r.parameter ++ " = " ++ LoopView.keptExpression r.value value]
   | [condition, value] =>
    ["if " ++ condition ++ ": " ++ names.of r.parameter ++ " = " ++ LoopView.keptExpression r.value value]
   | _ => []
  ⟨uses vs names (before ++ conversions) (r.condition.toList ++ [r.value.id]),
   fun read => commentLines r.node ++ conversions.map (·.line) ++ code read⟩
   :: reassigning rest names (before ++ conversions)

inductive ExecutionUnit where
 | main (nodes : List NodeView)
 | group (g : GroupView)
 | loop (l : LoopView)

namespace ExecutionUnit

def nodes : ExecutionUnit → List NodeView
 | main nodes => nodes
 | group g => g.nodes
 | loop l => l.nodes

def inner : ExecutionUnit → List NodeView
 | main nodes => nodes
 | group g => g.inner
 | loop l => l.body

def start : ExecutionUnit → List Assignment × Variables
 | main nodes => ([], Variables.initial nodes)
 | group g => delivery g.input g.names
 | loop l => delivery l.input (l.headLines l.names).2

variable (x : ExecutionUnit)

theorem inner_subset : ∀ n ∈ x.inner, n ∈ x.nodes := by
 cases x with
 | main nodes => exact fun _ mem => mem
 | _ => exact fun n mem => (mem_filter.mp mem).1

def steps : List Statement × Variables := statements x.inner x.start.2

def made : List Assignment := x.start.1 ++ assigned x.steps.1

def reassigns : List Piece :=
 match x with
 | loop l => reassigning l.reassigns x.steps.2 x.made
 | _ => []

def frame : List Piece :=
 let read := Code.uses x.steps.2 x.steps.2 x.made
 match x with
 | main _ => []
 | group g => match g.output with
  | none => [⟨[], fun _ => ["return"]⟩]
  | some o => [⟨read (o.inputs.dropLast.map (·.id)), fun names => ["return " ++ ", ".intercalate names]⟩]
 | loop l =>
  l.breaks.map (fun s => ⟨read [s], map fun name => "if not " ++ name ++ ": break"⟩)
   ++ l.generators.zipIdx.map fun (g, i) => ⟨read [g.condition, g.element.id], fun
    | [condition, element] => commentLines g.node ++ ["if " ++ condition ++ ":",
      "    " ++ g.operation ++ "_" ++ LoopView.generatorName i
       ++ "(" ++ LoopView.keptExpression g.element element ++ ")"]
    | _ => []⟩

def text (mode : CodeMode) : ExecutionUnit → String
 | main nodes => (mainScripts mode nodes).2
 | group g => g.script mode
 | loop l => l.script mode

def rendered (mode : CodeMode) (x : ExecutionUnit) : String :=
 let body := x.start.1.map (·.line) ++ x.steps.1.flatMap (Statement.lines mode)
 let frame := x.frame.flatMap Piece.lines
 match x with
 | main _ => joinLines body
 | group g => g.defining (g.input.inputs ++ g.input.outputs).dropLast body (joinLines frame)
 | loop l => l.defining (body ++ frame ++ x.reassigns.flatMap Piece.lines ++ ["pass"])
   (l.reassigns.foldl LoopView.reassignNames x.steps.2)

def prepared : List Use :=
 bodyUses x.inner x.start.2 x.start.1 ++ x.reassigns.flatMap (·.reads)

def raw : List Use := x.frame.flatMap (·.reads)

end ExecutionUnit

def Agrees (n : NodeView) (vs : Variables) : Prop :=
 ∀ i ∈ n.inputs, ∀ j ∈ n.inputs, vs.of i.id = vs.of j.id →
  ∀ code ∈ conversionCode? i, ∀ code' ∈ conversionCode? j, code = code'

instance (n : NodeView) (vs : Variables) : Decidable (Agrees n vs) :=
 inferInstanceAs (Decidable (∀ i ∈ n.inputs, ∀ j ∈ n.inputs, vs.of i.id = vs.of j.id →
  ∀ code ∈ conversionCode? i, ∀ code' ∈ conversionCode? j, code = code'))

def BodyAgrees : List NodeView → Variables → Prop
 | [], _ => True
 | n :: rest, vs => Agrees n vs ∧ BodyAgrees rest (nodeStatements n vs).2

def ReassignsAgree : List ReassignView → Variables → Prop
 | [], _ => True
 | r :: rest, vs => Agrees r.node vs ∧ ReassignsAgree rest (LoopView.reassignNames vs r)

theorem converts_iff_agrees {vs names : Variables} {ks : List SocketView} (before : List Assignment)
  (renamed : ∀ i ∈ n.inputs, (conversionCode? i).isSome → i ∈ ks ∧ names.of i.id = preparedName vs i)
  (renews : ∀ k ∈ ks, k ∈ n.inputs ∧ ((conversionCode? k).isSome ∨ copiesOwn k)) :
  (∀ i ∈ n.inputs, ∀ code, conversionCode? i = some code →
   (Use.mk i.id (vs.of i.id) (names.of i.id) (before ++ ks.map (renewal vs))).Converts code) ↔ Agrees n vs := by
 have name : ∀ i ∈ n.inputs, ∀ code, conversionCode? i = some code → names.of i.id = vs.of i.id ++ "_converted" := by
  intro i isInput code coded
  simp [(renamed i isInput (by simp [coded])).2, preparedName, coded]
 constructor
 · intro converts i first j second same code coded code' coded'
   have one := converts i first code coded
   have other := converts j second code' coded'
   simp only [Use.Converts, name i first code coded, name j second code' coded', same] at one other
   simpa using one.symm.trans other
 · intro agrees i isInput code coded
   have key := (renamed i isInput (by simp [coded])).1
   have target : (renewal vs i).target = names.of i.id := by simp [renewal, (renamed i isInput (by simp [coded])).2]
   have found : (ks.map (renewal vs)).filter (·.target == names.of i.id) ≠ [] :=
    ne_nil_of_mem (mem_filter.mpr ⟨mem_map_of_mem key, by simp [target]⟩)
   have last := getLast?_eq_some_getLast found
   obtain ⟨isWrite, same⟩ := mem_filter.mp (getLast_mem found)
   obtain ⟨k, isKey, shape⟩ := mem_map.mp isWrite
   rw [← shape] at last same
   have same : preparedName vs k = vs.of i.id ++ "_converted" := by
    simpa [renewal, name i isInput code coded] using same
   simp only [Use.Converts, filter_append, getLast?_append, last, Option.some_or]
   obtain ⟨isInput', new⟩ := renews k isKey
   cases coded' : conversionCode? k with
   | none =>
    have copied := new.resolve_left (by simp [coded'])
    simp only [preparedName, coded', copied, Option.isSome_none, Bool.false_eq_true, if_false, if_true] at same
    exact absurd same (copy_ne_converted _ _)
   | some code' =>
    have given : vs.of k.id = vs.of i.id := by
     simpa [preparedName, coded', String.append_left_inj] using same
    obtain rfl := agrees k isInput' i isInput given code' coded' code coded
    simp [renewal, coded', same, given, name i isInput code' coded]

section

variable {all : List NodeView} (ids : ((sockets all).map (·.id)).Nodup)

include ids

theorem ids_of_node (isNode : n ∈ all) : ((n.inputs ++ n.outputs).map (·.id)).Nodup := by
 rw [sockets, map_flatMap, nodup_flatMap] at ids
 exact ids.1 n isNode

theorem served_iff (isNode : n ∈ all) {sockets : List SocketId}
  (own : ∀ s, s ∈ sockets ↔ ∃ i ∈ n.inputs, i.id = s) (vs names : Variables) (before : List Assignment) :
  (∀ u ∈ uses vs names before sockets, u.Served all) ↔ ∀ i ∈ n.inputs, ∀ code, conversionCode? i = some code →
   (Use.mk i.id (vs.of i.id) (names.of i.id) before).Converts code := by
 constructor
 · intro served i isInput
   exact served _ (mem_map_of_mem ((own i.id).mpr ⟨i, isInput, rfl⟩)) i (mem_inputs.mpr ⟨n, isNode, isInput⟩) rfl
 · intro converts u mem i isInput id
   obtain ⟨s, isSocket, rfl⟩ := mem_map.mp mem
   obtain ⟨j, isInput', rfl⟩ := (own s).mp isSocket
   have : j ∈ inputs all := mem_inputs.mpr ⟨n, isNode, isInput'⟩
   obtain rfl : i = j := inj_on_of_nodup_map ids (by grind) (by grind) id
   exact converts i isInput'

theorem bodyUses_served_iff {nodes : List NodeView} (sub : ∀ n ∈ nodes, n ∈ all) (vs : Variables)
  (before : List Assignment) : (∀ u ∈ bodyUses nodes vs before, u.Served all) ↔ BodyAgrees nodes vs := by
 induction nodes generalizing vs before with
 | nil => simp [bodyUses, BodyAgrees]
 | cons n rest ih =>
  have own : ∀ s, s ∈ n.inputs.map (·.id) ↔ ∃ i ∈ n.inputs, i.id = s := fun s => mem_map
  have distinct := ids_of_node ids (sub n mem_cons_self)
  rw [map_append] at distinct
  have renamed : ∀ i ∈ n.inputs, (conversionCode? i).isSome →
    i ∈ renewed n ∧ (preparation n vs).2.of i.id = preparedName vs i := by
   intro i isInput coded
   refine ⟨mem_renewed.mpr ⟨isInput, .inl coded⟩, ?_⟩
   change Variables.of (foldl _ _ (_ ++ _)) i.id = _
   rw [foldl_append]
   refine (Variables.of_rename_of_not_mem _ fun p mem => ?_).trans
    (Variables.of_rename_of_mem vs ?_ (p := (i.id, preparedName vs i)) (mem_map_of_mem isInput))
   · obtain ⟨q, isPassed, rfl⟩ := mem_map.mp mem
     exact ((nodup_append.mp distinct).2.2 i.id (mem_map_of_mem isInput) q.2.id
      (mem_map_of_mem (mem_of_mem_passes isPassed).2)).symm
   · simpa [Function.comp_def] using distinct.of_append_left
  simp only [bodyUses, forall_mem_append, BodyAgrees, ih fun p mem => sub p (mem_cons_of_mem _ mem),
   served_iff ids (sub n mem_cons_self) own]
  exact and_congr_left fun _ => converts_iff_agrees before renamed (by simp [renewed, converted]; grind)

theorem reassigning_served_iff {rs : List ReassignView} (sub : ∀ r ∈ rs, r.node ∈ all ∧
   ∀ s, s ∈ r.condition.toList ++ [r.value.id] ↔ ∃ i ∈ r.node.inputs, i.id = s) (vs : Variables)
  (before : List Assignment) :
  (∀ u ∈ (reassigning rs vs before).flatMap (·.reads), u.Served all) ↔ ReassignsAgree rs vs := by
 induction rs generalizing vs before with
 | nil => simp [reassigning, ReassignsAgree]
 | cons r rest ih =>
  obtain ⟨isNode, own⟩ := sub r mem_cons_self
  have distinct := ids_of_node ids isNode
  rw [map_append] at distinct
  have renamed : ∀ i ∈ r.node.inputs, (conversionCode? i).isSome →
    i ∈ converted r.node ∧ (LoopView.reassignNames vs r).of i.id = preparedName vs i := by
   intro i isInput coded
   have mem : i ∈ converted r.node := mem_filter.mpr ⟨isInput, coded⟩
   refine ⟨mem, Variables.of_rename_of_mem vs ?_ (p := (i.id, preparedName vs i)) (mem_map_of_mem mem)⟩
   rw [map_map]
   exact distinct.of_append_left.sublist (filter_sublist.map _)
  simp only [reassigning, flatMap_cons, forall_mem_append, ReassignsAgree,
   ih fun p mem => sub p (mem_cons_of_mem _ mem), served_iff ids isNode own]
  exact and_congr_left fun _ => converts_iff_agrees before renamed (by simp [converted]; grind)

end

def Outward (before : List Assignment) : Prop := ∀ a ∈ before, ∀ code, a.source ≠ .converted code a.target

theorem outward_delivery (n : NodeView) (vs : Variables) : Outward (delivery n vs).1 := by
 intro a mem code
 obtain ⟨h, _, rfl⟩ := mem_map.mp mem
 simp

theorem assigned_nodeStatements (n : NodeView) (vs : Variables) :
  assigned (nodeStatements n vs).1 = (preparation n vs).1 ++ (delivery n (preparation n vs).2).1 := by
 simp [assigned, nodeStatements, filterMap_map]

theorem outward_statements (nodes : List NodeView) (vs : Variables) : Outward (assigned (statements nodes vs).1) := by
 induction nodes generalizing vs with
 | nil => simp [Outward, statements, assigned]
 | cons n rest ih =>
  have prepared : Outward (preparation n vs).1 := by
   intro a mem code same
   obtain ⟨i, _, rfl⟩ := mem_map.mp mem
   simp only [renewal, preparedName] at same
   cases coded : conversionCode? i with
   | none => cases default : i.type.defaultCode <;> simp [coded, default] at same
   | some code =>
    simp only [coded, Option.isSome_some, if_true, Source.converted.injEq] at same
    simpa using congrArg String.length same.2
  have split : assigned (statements (n :: rest) vs).1 =
    assigned (nodeStatements n vs).1 ++ assigned (statements rest (nodeStatements n vs).2).1 := filterMap_append
  rw [split, assigned_nodeStatements]
  exact forall_mem_append.mpr ⟨forall_mem_append.mpr ⟨prepared, outward_delivery _ _⟩, ih _⟩

theorem served_iff_uncoded {all : List NodeView} {u : Use} (same : u.given = u.name) (outward : Outward u.before) :
  u.Served all ↔ ∀ i ∈ inputs all, i.id = u.socket → conversionCode? i = none := by
 refine forall₃_congr fun i isInput id => ⟨fun served => ?_, by simp_all⟩
 cases coded : conversionCode? i with
 | none => rfl
 | some code =>
  have isLast := mem_of_getLast? (served code coded)
  rw [same] at isLast
  exact absurd rfl (outward _ (mem_filter.mp isLast).1 code)

theorem readings_assigns (before as : List Assignment) (rest : List Statement) :
  readings before (as.map .assign ++ rest) = readings (before ++ as) rest := by
 induction as generalizing before with
 | nil => simp
 | cons a as ih => simp [readings, ih]

theorem bodyUses_readings (nodes : List NodeView) (vs : Variables) (before : List Assignment) :
  (bodyUses nodes vs before).map (fun u => (u.socket, u.name, u.before)) = readings before (statements nodes vs).1 := by
 induction nodes generalizing vs before with
 | nil => rfl
 | cons n rest ih =>
  rw [bodyUses, map_append, ih, assigned_nodeStatements]
  simp [statements, nodeStatements, readings, readings_assigns, uses, Function.comp_def]

theorem reassigning_lines (rs : List ReassignView) (vs : Variables) (before : List Assignment) :
  (reassigning rs vs before).flatMap Piece.lines =
   (LoopView.reassignTurns rs vs).flatMap LoopView.Turn.lines := by
 induction rs generalizing vs before with
 | nil => rfl
 | cons r rest ih =>
  cases condition : r.condition <;>
   simp [reassigning, LoopView.reassignTurns, LoopView.Turn.lines, Piece.lines, condition, ih, Function.comp_def]

namespace ExecutionUnit

/-- Socket ids are distinct, and reassign nodes have no inputs beside the new value and the condition. -/
structure Sound (x : ExecutionUnit) : Prop where
 ids : ((sockets x.nodes).map (·.id)).Nodup
 reassigns : ∀ l, x = loop l → ∀ r ∈ l.reassigns, r.node ∈ l.nodes ∧
  ∀ s, s ∈ r.condition.toList ++ [r.value.id] ↔ ∃ i ∈ r.node.inputs, i.id = s

variable (x : ExecutionUnit)

/-- Where inputs of a node share a variable, they are converted in the same way. -/
def Agrees : Prop :=
 BodyAgrees x.inner x.start.2 ∧ match x with
  | loop l => ReassignsAgree l.reassigns x.steps.2
  | _ => True

theorem text_eq (mode : CodeMode) : x.text mode = x.rendered mode := by
 cases x with
 | main nodes => rfl
 | group g =>
  have single (line : String) : joinLines [line] = line := rfl
  cases result : g.output <;>
   simp [text, rendered, frame, result, GroupView.script, bodyLines, start, steps, inner, Piece.lines, single,
    Function.comp_def]
 | loop l =>
  simp [text, rendered, frame, reassigns, reassigning_lines, LoopView.script, LoopView.roundLines,
   LoopView.turns, LoopView.Turn.lines, bodyLines, start, steps, inner, flatMap_map, Piece.lines, ← map_eq_flatMap]

theorem prepared_served_iff {x : ExecutionUnit} (sound : x.Sound) :
  (∀ u ∈ x.prepared, u.Served x.nodes) ↔ x.Agrees := by
 refine forall_mem_append.trans (and_congr (bodyUses_served_iff sound.ids x.inner_subset _ _) ?_)
 cases x with
 | loop l => exact reassigning_served_iff sound.ids (sound.reassigns l rfl) _ _
 | _ => simp [reassigns]

theorem frame_reads : ∀ p ∈ x.frame, ∃ sockets, p.reads = Code.uses x.steps.2 x.steps.2 x.made sockets := by
 intro p isPiece
 cases x with
 | main nodes => cases isPiece
 | group g =>
  cases result : g.output <;> simp only [frame, result, mem_singleton] at isPiece <;> subst isPiece
  · exact ⟨[], rfl⟩
  · exact ⟨_, rfl⟩
 | loop l =>
  rcases mem_append.mp isPiece with isBreak | isGenerator
  · obtain ⟨s, _, rfl⟩ := mem_map.mp isBreak
    exact ⟨_, rfl⟩
  · obtain ⟨g, _, rfl⟩ := mem_map.mp isGenerator
    exact ⟨_, rfl⟩

theorem raw_served_iff : (∀ u ∈ x.raw, u.Served x.nodes) ↔
  ∀ u ∈ x.raw, ∀ i ∈ inputs x.nodes, i.id = u.socket → conversionCode? i = none := by
 refine forall₂_congr fun u mem => ?_
 obtain ⟨p, isPiece, isRead⟩ := mem_flatMap.mp mem
 obtain ⟨sockets, shape⟩ := frame_reads x p isPiece
 obtain ⟨s, _, rfl⟩ := mem_map.mp (shape ▸ isRead)
 have outward : Outward x.made := by
  refine forall_mem_append.mpr ⟨?_, outward_statements _ _⟩
  cases x with
  | main nodes => exact forall_mem_nil _
  | _ => exact outward_delivery _ _
 exact served_iff_uncoded rfl outward

/-- Every use of an input that needs a conversion reads the converted value, exactly if inputs of a node that
share a variable are converted in the same way, and no result of a group, condition of a break, and condition
or element of a generator needs a conversion. -/
theorem conversions_reach_uses_iff (x : ExecutionUnit) (sound : x.Sound) :
  (∀ mode, x.text mode = x.rendered mode) ∧
   (bodyUses x.inner x.start.2 x.start.1).map (fun u => (u.socket, u.name, u.before)) =
    readings x.start.1 x.steps.1 ∧
   ((∀ u ∈ x.prepared ++ x.raw, u.Served x.nodes) ↔
     x.Agrees ∧ ∀ u ∈ x.raw, ∀ i ∈ inputs x.nodes, i.id = u.socket → conversionCode? i = none) :=
 ⟨x.text_eq, bodyUses_readings _ _ _,
  forall_mem_append.trans (and_congr (prepared_served_iff sound) (raw_served_iff x))⟩

open Samples

def wholeParameter : LoopView :=
 let parameter := output 2 "Float" [⟨⟨3⟩, false⟩]
 let first := node "in" [] [output 0 "Integer" [], output 1 "Integer" [], parameter] "an_LoopInputNode"
 let value := input 3 "Integer" "Float"
 let last := node "set" [value] [] "an_ReassignLoopParameterNode"
 { (default : LoopView) with
   nodes := [first, last]
   input := first
   index := ⟨0⟩
   iterations := output 1 "Integer" []
   parameters := [⟨parameter, true, true⟩]
   reassigns := [⟨last, none, value, ⟨2⟩⟩] }

theorem wholeParameter_reads_converted :
  (loop wholeParameter).Sound ∧ ((loop wholeParameter).prepared.map (·.name)) = ["loop_parameter_0_converted"] ∧
   ∀ u ∈ (loop wholeParameter).prepared, u.Served wholeParameter.nodes := by
 have sound : (loop wholeParameter).Sound := by
  refine ⟨by decide +kernel, ?_⟩
  rintro l ⟨⟩ r mem
  simp only [wholeParameter, mem_singleton] at mem
  subst mem
  exact ⟨by simp [wholeParameter], by simp [node, input, eq_comm]⟩
 have served := (conversions_reach_uses_iff _ sound).2.2.mpr ⟨⟨trivial, by decide +kernel, trivial⟩, nofun⟩
 exact ⟨sound, by decide +kernel, fun u mem => served u (mem_append_left _ mem)⟩

def wholeResult : GroupView :=
 let first := node "in" [] [output 0 "Float" [⟨⟨2⟩, false⟩], output 1 "Node Control" []] "an_GroupInputNode"
 let last := node "out" [input 2 "Integer" "Float", input 3 "Node Control" none] [] "an_GroupOutputNode"
 { nodes := [first, last], input := first, output := some last }

/-- The group gives its argument back as it is, although the result needs a conversion. -/
theorem wholeResult_unconverted :
  (group wholeResult).Sound ∧ wholeResult.names.of ⟨0⟩ = "group_input_0" ∧
   ((inputs wholeResult.nodes).map fun i => (i.id, conversionCode? i)) = [(⟨2⟩, some "int(value)"), (⟨3⟩, none)] ∧
   ((group wholeResult).raw.map fun u => (u.socket, u.name, u.before.length)) = [(⟨2⟩, "group_input_0", 0)] ∧
   ¬ ∀ u ∈ (group wholeResult).prepared ++ (group wholeResult).raw, u.Served wholeResult.nodes := by
 refine ⟨⟨by decide +kernel, fun l same => by cases same⟩, by decide +kernel, by decide +kernel, by decide +kernel,
  fun served => ?_⟩
 have unconverted := (raw_served_iff (group wholeResult)).mp fun u mem => served u (mem_append_right _ mem)
 have read : ∃ u ∈ (group wholeResult).raw, (input 2 "Integer" "Float").id = u.socket := by decide +kernel
 obtain ⟨u, mem, id⟩ := read
 have coded : conversionCode? (input 2 "Integer" "Float") = some "int(value)" := by decide +kernel
 simp [unconverted u mem _ (mem_cons_self : _ ∈ inputs wholeResult.nodes) id] at coded

end ExecutionUnit
end AnimationGraph.Code
