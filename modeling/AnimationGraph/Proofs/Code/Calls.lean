import AnimationGraph.Proofs.Code.Frame
import AnimationGraph.Proofs.Code.Routine

/-! # Calls of a group

The own values of inputs are loaded once, and are there for all calls of a group.  Between calls the caller
may change the objects that it was given.  The group changes new objects only, arguments among them, and
unless it returns an own value that can be changed, the caller never gets hold of one.  So each call starts
from the same own values, and what it returns depends on its arguments alone.
-/

namespace AnimationGraph.Code

open List

theorem Memory.alike_putAll (puts : Puts safe op) (isSafe : safe m) (isSafe' : safe n) (alike : ∀ x, m.value? x = n.value? x) :
  ∀ x, (m.putAll op ps).value? x = (n.putAll op ps).value? x := by
 induction ps generalizing m n with
 | nil => exact alike
 | cons p ps ih =>
  obtain ⟨next, shows⟩ := puts m isSafe p.1 p.2
  obtain ⟨next', shows'⟩ := puts n isSafe' p.1 p.2
  exact ih next next' fun x => by rw [shows, shows', alike]

variable (b : Behaviour V)

/-- Statements do the same in memories that show the same values. -/
theorem executeAll_alike
  (apart : m.Apart) (apart' : n.Apart) (alike : ∀ x, m.value? x = n.value? x)
  (ran : executeAll b ss m = some (obs, m')) :
  ∃ n', executeAll b ss n = some (obs, n') ∧ ∀ x, m'.value? x = n'.value? x := by
 induction ss generalizing m n obs with
 | nil =>
  cases ran
  exact ⟨n, rfl, alike⟩
 | cons s ss ih =>
  obtain ⟨first, m₁, more, done, rest⟩ := executeAll_split b [s] ran
  suffices same : ∃ n₁, executeAll b [s] n = some (first, n₁) ∧ ∀ x, m₁.value? x = n₁.value? x by
   obtain ⟨n₁, done', alike⟩ := same
   obtain ⟨n', rest', alike⟩ := ih (apart.executeAll b done) (apart'.executeAll b done') alike rest
   have all := (executeAll_join b done rest).symm.trans ran
   exact ⟨n', (executeAll_join b done' rest').trans (by simpa using all), alike⟩
  have shows (names : Variables) : shown names m = shown names n := funext fun s => alike (names.of s)
  have done := executeAll_single b done
  cases s with
  | start p =>
   cases done
   exact ⟨n, rfl, alike⟩
  | assign a =>
   have value : a.source.value? b n = a.source.value? b m := by
    cases a.source <;> simp [Source.value?, alike]
   obtain ⟨v, here, same⟩ := Option.map_eq_some_iff.mp done
   cases same
   exact ⟨n.bindNew a.target v, by simp [executeAll, Statement.execute, value, here],
    fun x => by simp [Memory.value?_bindNew, alike]⟩
  | run p names =>
   simp only [Statement.execute, Option.ite_none_right_eq_some, Option.some.injEq, Prod.mk.injEq, shows] at done
   obtain ⟨readable, rfl, rfl⟩ := done
   have same : ∀ x, (runNode b p names m).value? x = (runNode b p names n).value? x := by
    unfold runNode
    rw [shows]
    exact Memory.alike_putAll Memory.puts_bindNew trivial trivial
     (Memory.alike_putAll Memory.puts_overwrite apart apart' alike)
   have left : shown names (runNode b p names m) = shown names (runNode b p names n) :=
    funext fun s => same (names.of s)
   exact ⟨_, by simp only [executeAll, Statement.execute, if_pos readable, left]; rfl, same⟩

def Behaviour.hands (args : SocketId → V) : Behaviour V :=
 { b with result := fun n given s => if n.kind = "an_GroupInputNode" then args s else b.result n given s }

namespace GroupView

variable (g : GroupView)

def results : List SocketView := inputs (Routine.group g).exits

def globals : Texts :=
 ((g.nodes.flatMap NodeView.freeInputs).filter (·.type.name != "Node Control")).map fun s => g.names.of s.id

/-- Only what is done to shared variables and to objects outlasts a call. -/
def leave (outside inside : Memory V) : Memory V where
 bound x := if x ∈ g.globals then inside.bound x else (outside.bound x).filter (· < inside.objects.length)
 objects := inside.objects
 inside x k := by
  have := inside.inside x k
  grind [Option.filter_eq_some_iff]

/-- Call the function of a group.  The arguments are objects of their own, since the inputs of a caller are
modified inputs.  The function gives an object for each result. -/
def call (m : Memory V) (args : SocketId → V) : Option ((SocketId → Option Nat) × Memory V) :=
 (executeAll (b.hands args) (Routine.group g).script.1 m).bind fun (_, m') =>
  let answer s := m'.bound ((Routine.group g).script.2.of s)
  if ∀ s ∈ g.results, (answer s.id).isSome then some (answer, g.leave m m') else none

def values (out : (SocketId → Option Nat) × Memory V) : List (Option V) :=
 g.results.map fun s => (out.1 s.id).bind fun k => out.2.objects[k]?

def given (answer : SocketId → Option Nat) : List Nat :=
 (g.results.filter (·.type.copy.isSome)).filterMap fun s => answer s.id

def home : Memory V := loaded b g.nodes (Variables.initial g.nodes)

/-- The memories that a caller can bring about, with the objects that it was given and may change. -/
inductive History (b : Behaviour V) : Memory V → List Nat → Prop
 | start : History b (g.home b) []
 | change {m held k} (v : V) : History b m held → k ∈ held → History b (m.write k v) held
 | call {m held out} (args : SocketId → V) : History b m held → g.call b m args = some out →
   History b out.2 (g.given out.1 ++ held)

/-- The own values of inputs are as they were at the start, and out of reach of the caller. -/
structure Settled (b : Behaviour V) (m : Memory V) (held : List Nat) : Prop where
 bound : m.bound = (g.home b).bound
 size : (g.home b).objects.length ≤ m.objects.length
 objects : ∀ k < (g.home b).objects.length, m.objects[k]? = (g.home b).objects[k]?
 held : ∀ k ∈ held, (g.home b).objects.length ≤ k ∧ k < m.objects.length

/-- No result needs a conversion, and no own value that can be changed is a result. -/
def Clean : Prop := ∀ i ∈ g.results, conversionCode? i = none ∧ (i.isLinked = false → i.type.copy.isNone = true)

instance : Decidable g.Clean :=
 inferInstanceAs (Decidable (∀ i ∈ g.results, _ ∧ (i.isLinked = false → i.type.copy.isNone = true)))

variable {g} {b : Behaviour V} {held : List Nat}

theorem Settled.alike (settled : g.Settled b m held) (settled' : g.Settled b m' held')
  (x : String) : m.value? x = m'.value? x := by
 rw [Memory.value?, Memory.value?, settled.bound, settled'.bound]
 cases found : (g.home b).bound x with
 | none => rfl
 | some k =>
  have there := (g.home b).inside x k found
  simp [settled.objects k there, settled'.objects k there]

theorem Settled.apart (settled : g.Settled b m held) : m.Apart := by
 intro x y k first second
 rw [settled.bound] at first second
 exact apart_loaded _ _ x y k first second

variable (sound : (Routine.group g).Sound)

include sound

theorem own_unwritten (isInput : i ∈ inputs g.nodes) (unlinked : i.isLinked = false) :
  g.names.of i.id ∉ (Routine.group g).script.1.flatMap Statement.writes := by
 intro written
 have arranged := (sound.start (V := Unit) ⟨fun _ => (), fun _ _ => (), fun _ _ _ => (), fun _ _ _ => ()⟩).1
 have proper := sound.proper g rfl
 rcases written_statements arranged sound.honest_steps _ written with marked | ⟨s, unwritten, name⟩
 · exact (labels proper sound.distinct).unmarked g.nodes i.id marked
 obtain ⟨links, _, _, outs, _⟩ := trim_order proper
 have unwritten := unwritten.mono fun n (mem : n ∈ (Routine.group g).steps) =>
  Routine.order_group g ▸ mem_append_left (Routine.group g).exits mem
 obtain ⟨t, isSocket, rfl, ne⟩ : ∃ t ∈ sockets g.nodes, t.id = s ∧ t ≠ i := by
  rcases unwritten with ⟨o, isOutput, rfl⟩ | ⟨h, mem, rfl⟩
  · exact ⟨o, by grind, rfl, fun same => input_ne_output (ids_of_names sound.distinct) isInput (outs isOutput)
     (congrArg SocketView.id same.symm)⟩
  · obtain ⟨j, isTarget, fits⟩ := sound.wired.fits h (links.mem_iff.mp mem)
    exact ⟨j, mem_sockets.mpr (.inl isTarget), fits.id, fun same => by simp [← same, fits.linked] at unlinked⟩
 exact ne (names_injective proper sound.distinct t isSocket i (mem_sockets.mpr (.inl isInput)) name)

theorem unlinked_of_ready (ready : Ready ((Routine.group g).steps ++ (Routine.group g).exits) i) :
  i.isLinked = false := by
 by_contra linked
 obtain ⟨h, mem, id⟩ := sound.wired_order.1.fed i ready.1 (by simpa using linked)
 exact ready.2 h mem id

theorem own_value (b : Behaviour V) (isNode : n ∈ (Routine.group g).steps ++ (Routine.group g).exits)
  (isInput : i ∈ n.inputs) (unlinked : i.isLinked = false) :
  (g.home b).value? (g.names.of i.id) = some (b.load (valueExpression n.identifier i)) := by
 obtain ⟨arranged, standing⟩ := sound.start b
 have mem : i ∈ inputs ((Routine.group g).steps ++ (Routine.group g).exits) := mem_inputs.mpr ⟨n, isNode, isInput⟩
 obtain ⟨v, here, due⟩ := standing.due n isNode i isInput ⟨mem, fun h isLink same => by
  obtain ⟨j, isTarget, fits⟩ := sound.wired_order.1.fits h isLink
  have equal : j = i := inj_on_of_nodup_map arranged.ids (by grind) (by grind) (fits.id.trans same)
  simp [← equal, fits.linked] at unlinked⟩
 simp only [Due, unlinked, Bool.false_eq_true, if_false] at due
 exact due ▸ here

/-- The function reaches its end.  It changes new objects, and gives new objects for results that can be changed. -/
theorem Settled.runs (settled : g.Settled b m held) (clean : g.Clean) (args : SocketId → V) :
  ∃ obs m', executeAll (b.hands args) (Routine.group g).script.1 m = some (obs, m') ∧
   (∀ i ∈ g.results, (m'.bound ((Routine.group g).script.2.of i.id)).isSome) ∧
   Memory.Keeps (m.objects.length ≤ ·) m m' ∧ ∀ i ∈ g.results, i.type.copy.isSome →
    Memory.Held (m.objects.length ≤ ·) m' ((Routine.group g).script.2.of i.id) := by
 have arranged := (sound.start b).1
 have ready : ∀ i ∈ g.results, Ready (Routine.group g).exits i := fun i isResult =>
  ⟨isResult, by simp [sound.links_exits]⟩
 have everything : Guarded (fun _ => True) (fun _ => True) ((Routine.group g).steps ++ (Routine.group g).exits)
   g.names m := by
  intro i ready _
  obtain ⟨n, isNode, isInput⟩ := mem_inputs.mp ready.1
  have some? : (m.bound (g.names.of i.id)).isSome := by
   simp [settled.bound, ← Memory.isSome_value?, own_value sound b isNode isInput (unlinked_of_ready sound ready)]
  exact (Option.isSome_iff_exists.mp some?).imp fun _ here => ⟨here, trivial⟩
 obtain ⟨obs, m', ran⟩ := everything.succeed arranged sound.honest_steps (b.hands args)
 have bound := (everything.run arranged sound.honest_steps ⟨fun _ _ => trivial, .inl fun _ => trivial⟩
  (fun _ _ => trivial) ran).2
 have changed : Guarded (fun i => i.type.copy.isSome ∧ i.isLinked = true ∧ (conversionCode? i).isSome = false)
   (m.objects.length ≤ ·) ((Routine.group g).steps ++ (Routine.group g).exits) g.names m := fun i ready linked => by simp [unlinked_of_ready sound ready] at linked
 obtain ⟨keeps, held⟩ := changed.run arranged sound.honest_steps ⟨fun i owner => ⟨by grind [Owner, changes], owner.2⟩,
  .inr fun i isGuarded => ⟨isGuarded.1, isGuarded.2.2⟩⟩ (fun _ new => new) ran
 refine ⟨obs, m', ran, fun i isResult => ?_, keeps, fun i isResult copyable => ?_⟩
 · obtain ⟨k, here, _⟩ := bound i (ready i isResult) trivial
   exact Option.isSome_iff_exists.mpr ⟨k, here⟩
 · obtain ⟨uncoded, unlinked⟩ := clean i isResult
   have linked : i.isLinked = true := by
    by_contra free
    simp [Option.isNone_iff_eq_none.mp (unlinked (by simpa using free))] at copyable
   exact held i (ready i isResult) ⟨copyable, linked, by simp [uncoded]⟩

/-- A call leaves the own values as they are, and what the caller can change afterwards is new. -/
theorem Settled.call (settled : g.Settled b m held) (clean : g.Clean) (args : SocketId → V) :
  ∃ out, g.call b m args = some out ∧ g.Settled b out.2 (g.given out.1 ++ held) ∧
   (∀ k ∈ g.given out.1, m.objects.length ≤ k) ∧ ∀ i ∈ g.results, i.isLinked = false →
    (out.1 i.id).bind (out.2.objects[·]?) = (g.home b).value? (g.names.of i.id) := by
 obtain ⟨obs, m', ran, bound, keeps, held'⟩ := settled.runs sound clean args
 have grows := executeAll_grows _ ran
 have own : ∀ i ∈ inputs g.nodes, i.isLinked = false → m'.bound (g.names.of i.id) = (g.home b).bound (g.names.of i.id) :=
  fun i isInput unlinked => settled.bound ▸ grows.kept _ (own_unwritten sound isInput unlinked)
 have objects : ∀ k < (g.home b).objects.length, m'.objects[k]? = (g.home b).objects[k]? := fun k there =>
  (keeps k (Nat.not_le_of_lt (Nat.lt_of_lt_of_le there settled.size))).trans (settled.objects k there)
 have new : ∀ k ∈ g.given fun s => m'.bound ((Routine.group g).script.2.of s),
   m.objects.length ≤ k ∧ k < m'.objects.length := by
  intro k isGiven
  obtain ⟨i, isResult, found⟩ := mem_filterMap.mp isGiven
  obtain ⟨isResult, copyable⟩ := mem_filter.mp isResult
  obtain ⟨j, here, mine⟩ := held' i isResult copyable
  exact ⟨Option.some.inj (found.symm.trans here) ▸ mine, m'.inside _ k found⟩
 refine ⟨(fun s => m'.bound ((Routine.group g).script.2.of s), g.leave m m'), ?_, ⟨funext fun x => ?_,
  Nat.le_trans settled.size grows.size, objects, fun k isHeld => ?_⟩, fun k isGiven => (new k isGiven).1,
  fun i isResult unlinked => ?_⟩
 · simp only [GroupView.call, ran, Option.bind_some, if_pos bound]
 · simp only [leave]
   split
   · rename_i isGlobal
     obtain ⟨i, isFree, rfl⟩ := mem_map.mp isGlobal
     obtain ⟨n, isNode, isFree⟩ := mem_flatMap.mp (mem_filter.mp isFree).1
     obtain ⟨isInput, unlinked⟩ := mem_filter.mp isFree
     exact own i (mem_inputs.mpr ⟨n, isNode, isInput⟩) (by simpa using unlinked)
   · rw [← settled.bound]
     cases found : m.bound x with
     | none => rfl
     | some k => simp [Nat.lt_of_lt_of_le (m.inside x k found) grows.size]
 · have := settled.size
   have := settled.held k
   have := grows.size
   have := new k
   grind [leave]
 · obtain ⟨n, isExit, isInput⟩ := mem_inputs.mp isResult
   have isNode := mem_inputs.mpr ⟨n, mem_append_right (Routine.group g).steps isExit, isInput⟩
   have name : (Routine.group g).script.2.of i.id = g.names.of i.id := names_later (sound.start b).1 sound.honest_steps
    (.inr ⟨i, isResult, unlinked, rfl⟩)
   simp only [name, own i (sound.wired_order.2 isNode) unlinked, Memory.value?, leave]
   cases found : (g.home b).bound (g.names.of i.id) with
   | none => rfl
   | some k => exact objects k ((g.home b).inside _ _ found)

theorem settled_of_history (clean : g.Clean) (history : g.History b m held) : g.Settled b m held := by
 induction history with
 | start => exact ⟨rfl, Nat.le_refl _, fun _ _ => rfl, by simp⟩
 | change v _ isHeld ih =>
  obtain ⟨bound, size, objects, held⟩ := ih
  refine ⟨bound, by simpa [Memory.write] using size, fun k there => ?_, by simpa [Memory.write] using held⟩
  have := held _ isHeld
  exact (getElem?_set_ne (by omega)).trans (objects k there)
 | call args _ ran ih =>
  obtain ⟨out, ran', settled, _⟩ := ih.call sound clean args
  exact Option.some.inj (ran'.symm.trans ran) ▸ settled

end GroupView

/-- Every call of a group reaches its end, and what it returns depends on its arguments alone, whatever was
called and changed before.  A result without an origin has its own value, and the caller does not hold the
objects yet that it can change afterwards. -/
theorem calls_independent (g : GroupView) (sound : (Routine.group g).Sound) (clean : g.Clean) (b : Behaviour V)
  {m : Memory V} {held : List Nat} (history : g.History b m held) (args : SocketId → V) :
  (∀ mode, (Routine.group g).text mode = (Routine.group g).rendered mode) ∧ ∃ out, g.call b m args = some out ∧
   (∀ first, g.call b (g.home b) args = some first → g.values out = g.values first) ∧
   (∀ n ∈ (Routine.group g).exits, ∀ i ∈ n.inputs, i.isLinked = false →
    (out.1 i.id).bind (out.2.objects[·]?) = some (b.load (valueExpression n.identifier i))) ∧
   ∀ k ∈ g.given out.1, k ∉ held := by
 have settled := GroupView.settled_of_history sound clean history
 obtain ⟨out, ran, _, new, own⟩ := settled.call sound clean args
 refine ⟨sound.text_eq, out, ran, fun first ran' => ?_, fun n isExit i isInput unlinked => ?_, fun k isGiven isHeld => ?_⟩
 · have settled' := GroupView.settled_of_history sound clean (.start (b := b))
   obtain ⟨⟨obs, m₁⟩, done, ran⟩ := Option.bind_eq_some_iff.mp ran
   obtain ⟨⟨obs', m₂⟩, done', ran'⟩ := Option.bind_eq_some_iff.mp ran'
   obtain ⟨_, again, alike⟩ := executeAll_alike _ settled.apart settled'.apart (settled.alike settled') done
   cases again.symm.trans done'
   simp only [Option.ite_none_right_eq_some, Option.some.injEq] at ran ran'
   rw [← ran.2, ← ran'.2]
   exact map_congr_left fun s _ => alike _
 · exact (own i (mem_inputs.mpr ⟨n, isExit, isInput⟩) unlinked).trans
    (GroupView.own_value sound b (mem_append_right _ isExit) isInput unlinked)
 · have := (settled.held k isHeld).2
   have := new k isGiven
   omega

open Samples

def changedList (spare : String) : GroupView :=
 let first := node "in" [] [output 0 "Float List" [⟨⟨2⟩, true⟩], output 1 "Node Control" []] "an_GroupInputNode"
 let last := node "out" [input 4 "Float List" "Float List", input 5 spare none, input 6 "Node Control" none] []
  "an_GroupOutputNode"
 { nodes := [first, node "b" [input 2 "Float List" "Float List" true] [output 3 "Float List" [⟨⟨4⟩, false⟩]], last]
   input := first
   output := some last }

theorem changedList_sound : (Routine.group (changedList "Float")).Sound ∧ (Routine.group (changedList "Float List")).Sound := by
 have proper (spare : String) : (changedList spare).Proper :=
  ⟨rfl, rfl, rfl, by simp [changedList, node], by simp [changedList, node, output], by simp [changedList, node, input]⟩
 refine ⟨⟨⟨typed_of_names ["Float List", "Node Control", "Float List", "Float List", "Float List", "Float", "Node Control"]
   rfl ?_, ?_, ?_, ?_, ?_⟩, ?_, ?_, ?_, by rintro g ⟨⟩; exact proper _⟩,
  ⟨⟨typed_of_names ["Float List", "Node Control", "Float List", "Float List", "Float List", "Float List", "Node Control"]
    rfl ?_, ?_, ?_, ?_, ?_⟩, ?_, ?_, ?_, by rintro g ⟨⟩; exact proper _⟩⟩ <;> decide +kernel

theorem changedList_independent :
  (Routine.group (changedList "Float")).Sound ∧ (changedList "Float").Clean ∧
   ∃ out, (changedList "Float").call terms ((changedList "Float").home terms) (fun _ => "x") = some out ∧
    ∀ k ∈ (changedList "Float").given out.1, k ∉ [] := by
 have clean : (changedList "Float").Clean := by decide +kernel
 obtain ⟨_, out, ran, _, _, new⟩ := calls_independent _ changedList_sound.1 clean terms .start fun _ => "x"
 exact ⟨changedList_sound.1, clean, out, ran, new⟩

/-- Where a list without an origin is returned, the caller gets hold of the own value: when it has changed it,
the next call returns the change. -/
theorem changedList_remembers :
  let g := changedList "Float List"
  (Routine.group g).Sound ∧ ∃ m held, g.History terms m held ∧
   (g.call terms (g.home terms) fun _ => "x").map g.values =
    some [some "changed by b", some "out.inputs[0].getDefaultValue()"] ∧
   (g.call terms m fun _ => "x").map g.values = some [some "changed by b", some "spoiled"] := by
 intro g
 have called : (g.call terms (g.home terms) fun _ => "x").isSome := by decide +kernel
 obtain ⟨out, ran⟩ := Option.isSome_iff_exists.mp called
 have given : (g.call terms (g.home terms) fun _ => "x").map (fun out => g.given out.1) = some [2, 0] := by
  decide +kernel
 have again : ((g.call terms (g.home terms) fun _ => "x").bind fun out => g.call terms (out.2.write 0 "spoiled")
   fun _ => "x").map g.values = some [some "changed by b", some "spoiled"] := by decide +kernel
 rw [ran] at given
 rw [ran, Option.bind_some] at again
 have held : g.given out.1 = [2, 0] := Option.some.inj given
 exact ⟨changedList_sound.2, out.2.write 0 "spoiled", _, .change "spoiled" (.call (fun _ => "x") .start ran)
  (by simp [held]), by decide +kernel, again⟩

end AnimationGraph.Code
