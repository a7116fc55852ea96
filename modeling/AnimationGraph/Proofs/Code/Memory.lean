import AnimationGraph.Code.Program
import Mathlib.Data.List.Nodup

/-! # Running scripts on a memory

Variables are bound to objects.  The code of a node may change the objects of its modified inputs, as far as
their type is one that can be copied, and makes a new object for each output that does not share the
variable of an input.  What nodes compute is left open.  Assignments make new objects; as long as nothing
else binds variables, two variables never share an object, although sockets do by going by the same variable.
-/

namespace AnimationGraph.Code

open List

/-- Variables that are bound to objects, and what the objects hold. -/
structure Memory (V : Type) where
 bound : String → Option Nat
 objects : List V
 inside : ∀ x k, bound x = some k → k < objects.length

namespace Memory

def empty : Memory V := ⟨fun _ => none, [], nofun⟩

variable (m : Memory V) (x : String)

def value? : Option V := (m.bound x).bind fun k => m.objects[k]?

def store (v : V) : Memory V where
 bound := m.bound
 objects := m.objects ++ [v]
 inside y k := by have := m.inside y k; grind

def point (k : Nat) : Memory V :=
 if there : k < m.objects.length then
  { m with bound := fun y => if y = x then some k else m.bound y
           inside := fun y j => by have := m.inside y j; grind }
 else m

def bindNew (v : V) : Memory V where
 bound y := if y = x then some m.objects.length else m.bound y
 objects := m.objects ++ [v]
 inside y k := by have := m.inside y k; grind

def write (k : Nat) (v : V) : Memory V :=
 { m with objects := m.objects.set k v, inside := by simpa using m.inside }

/-- Change the object of a variable in place; a variable without one gets one. -/
def overwrite (v : V) : Memory V :=
 match m.bound x with
 | none => m.bindNew x v
 | some k => m.write k v

def Apart : Prop := ∀ x y k, m.bound x = some k → m.bound y = some k → x = y

theorem isSome_value? : (m.value? x).isSome = (m.bound x).isSome := by
 unfold value?
 cases found : m.bound x with
 | none => rfl
 | some k => simp [m.inside x k found]

/-- In such a memory, what is done to a variable shows there, and at no other variable. -/
def Puts (safe : Memory V → Prop) (op : Memory V → String → V → Memory V) : Prop :=
 ∀ m, safe m → ∀ x v, safe (op m x v) ∧ ∀ y, (op m x v).value? y = if y = x then some v else m.value? y

theorem value?_bindNew (v : V) (y : String) : (m.bindNew x v).value? y = if y = x then some v else m.value? y := by
 unfold value? bindNew
 cases found : m.bound y with
 | none => grind
 | some k => have := m.inside y k; grind

theorem puts_bindNew : Puts (fun _ => True) (bindNew (V := V)) := fun m _ x v => ⟨trivial, value?_bindNew m x v⟩

theorem Apart.bindNew {m : Memory V} (apart : m.Apart) (x : String) (v : V) : (m.bindNew x v).Apart := by
 intro y z k first second
 have := m.inside y k
 have := m.inside z k
 have := apart y z k
 grind [Memory.bindNew]

theorem puts_overwrite : Puts Apart (overwrite (V := V)) := by
 intro m apart x v
 unfold overwrite
 split
 · exact ⟨apart.bindNew x v, value?_bindNew m x v⟩
 · rename_i k here
   refine ⟨apart, fun y => ?_⟩
   have := m.inside x k here
   have := apart x y k here
   unfold value? write
   cases found : m.bound y with
   | none => grind
   | some j => grind

def putAll (op : Memory V → String → V → Memory V) (m : Memory V) (ps : List (String × V)) : Memory V :=
 ps.foldl (fun m p => op m p.1 p.2) m

theorem putAll_induction {P : Memory V → Prop} (step : ∀ m x v, P m → P (op m x v)) {m : Memory V} (start : P m) :
  P (m.putAll op ps) := by
 induction ps generalizing m with
 | nil => exact start
 | cons p ps ih => exact ih (step m p.1 p.2 start)

theorem value?_putAll_of_not_mem (puts : Puts safe op) (m : Memory V) (absent : ∀ p ∈ ps, y ≠ p.1)
  (isSafe : safe m := by trivial) : (m.putAll op ps).value? y = m.value? y := by
 induction ps generalizing m with
 | nil => rfl
 | cons p ps ih =>
  obtain ⟨next, shows⟩ := puts m isSafe p.1 p.2
  have kept := ih (op m p.1 p.2) (fun q mem => absent q (mem_cons_of_mem _ mem)) next
  exact kept.trans ((shows y).trans (if_neg (absent p mem_cons_self)))

theorem value?_putAll_of_mem (puts : Puts safe op) (m : Memory V) (distinct : (ps.map Prod.fst).Nodup) (mem : p ∈ ps) (isSafe : safe m := by trivial) : (m.putAll op ps).value? p.1 = some p.2 := by
 induction ps generalizing m with
 | nil => cases mem
 | cons q ps ih =>
  obtain ⟨fresh, distinct⟩ := nodup_cons.mp distinct
  obtain ⟨next, shows⟩ := puts m isSafe q.1 q.2
  rcases mem_cons.mp mem with rfl | mem
  · have absent : ∀ q ∈ ps, p.1 ≠ q.1 := by grind
    exact (value?_putAll_of_not_mem puts (op m p.1 p.2) absent next).trans (by simp [shows])
  · exact ih (op m q.1 q.2) distinct mem next

end Memory

/-- What scripts leave open: the values of expressions, and what conversions and nodes compute.  Nodes
compute from what their inputs show. -/
structure Behaviour (V : Type) where
 load : String → V
 convert : String → V → V
 change : NodeView → List (Option V) → SocketId → V
 result : NodeView → List (Option V) → SocketId → V

/-- A node that has run: what its sockets showed when it started, and what they showed after it. -/
structure Observation (V : Type) where
 node : NodeView
 (seen left : SocketId → Option V)

def changes (s : SocketView) : Bool := s.modified && s.type.copy.isSome

def ownOutputs (n : NodeView) : List SocketView := n.outputs.filter fun o => ∀ p ∈ n.passes, p.2.id ≠ o.id

variable (b : Behaviour V)

def Source.value? (m : Memory V) : Source → Option V
 | .converted code x => (m.value? x).map (b.convert code)
 | .copied _ x => m.value? x
 | .expression text => some (b.load text)

def Source.reads? : Source → Option String
 | .converted _ x | .copied _ x => some x
 | .expression _ => none

theorem Source.value?_bindNew {s : Source} (m : Memory V) {x : String} (v : V) (unread : s.reads? ≠ some x) :
  s.value? b (m.bindNew x v) = s.value? b m := by
 cases s <;> simp_all [Source.value?, Source.reads?, Memory.value?_bindNew]

def shown (names : Variables) (m : Memory V) (s : SocketId) : Option V := m.value? (names.of s)

def reads (n : NodeView) (values : SocketId → Option V) : List (Option V) := n.inputs.map fun i => values i.id

def runNode (n : NodeView) (names : Variables) (m : Memory V) : Memory V :=
 (m.putAll .overwrite ((n.inputs.filter changes).map fun i =>
   (names.of i.id, b.change n (reads n (shown names m)) i.id))).putAll .bindNew
  ((ownOutputs n).map fun o => (names.of o.id, b.result n (reads n (shown names m)) o.id))

def Statement.execute (m : Memory V) : Statement → Option (List (Observation V) × Memory V)
 | .start _ => some ([], m)
 | .assign a => (a.source.value? b m).map fun v => ([], m.bindNew a.target v)
 | .run n names =>
  if ∀ i ∈ n.inputs, (shown names m i.id).isSome then
   some ([⟨n, shown names m, shown names (runNode b n names m)⟩], runNode b n names m)
  else none

def executeAll : List Statement → Memory V → Option (List (Observation V) × Memory V)
 | [], m => some ([], m)
 | s :: rest, m => (s.execute b m).bind fun first =>
  (executeAll rest first.2).map fun more => (first.1 ++ more.1, more.2)

theorem executeAll_append (ss ts : List Statement) (m : Memory V) :
  executeAll b (ss ++ ts) m = (executeAll b ss m).bind fun first =>
   (executeAll b ts first.2).map fun more => (first.1 ++ more.1, more.2) := by
 induction ss generalizing m with
 | nil => simp [executeAll]
 | cons s ss ih =>
  simp only [cons_append, executeAll, ih]
  cases s.execute b m with
  | none => rfl
  | some first =>
   simp only [Option.bind_some]
   cases executeAll b ss first.2 <;> simp [Function.comp_def]

theorem Memory.Apart.runNode (apart : m.Apart) (n : NodeView) (names : Variables) :
  (runNode b n names m).Apart :=
 putAll_induction (fun _ x v apart => apart.bindNew x v)
  (putAll_induction (fun m x v apart => (puts_overwrite m apart x v).1) apart)

theorem executeAll_split (ss : List Statement) (ran : executeAll b (ss ++ ts) m = some (obs, m')) :
  ∃ first m₁ more, executeAll b ss m = some (first, m₁) ∧ executeAll b ts m₁ = some (more, m') := by
 rw [executeAll_append] at ran
 obtain ⟨first, done, ran⟩ := Option.bind_eq_some_iff.mp ran
 obtain ⟨more, rest, same⟩ := Option.map_eq_some_iff.mp ran
 cases same
 exact ⟨first.1, first.2, more.1, done, rest⟩

theorem executeAll_join
  (done : executeAll b ss m = some (first, m₁)) (rest : executeAll b ts m₁ = some (more, m')) :
  executeAll b (ss ++ ts) m = some (first ++ more, m') := by
 simp [executeAll_append, done, rest]

theorem executeAll_single
  (ran : executeAll b [s] m = some (obs, m')) : s.execute b m = some (obs, m') := by
 simpa [executeAll, Option.bind_eq_some_iff] using ran

/-- What each statement does to a memory, a run of statements does. -/
theorem executeAll_induction {P : List Statement → Memory V → Memory V → Prop} (refl : ∀ m, P [] m m)
  (step : ∀ s ss m m₁ m' obs, s.execute b m = some (obs, m₁) → P ss m₁ m' → P (s :: ss) m m')
  (ran : executeAll b ss m = some (obs, m')) : P ss m m' := by
 induction ss generalizing m obs with
 | nil =>
  cases ran
  exact refl _
 | cons s ss ih =>
  obtain ⟨first, m₁, more, done, rest⟩ := executeAll_split b [s] ran
  exact step s ss m m₁ m' first (executeAll_single b done) (ih rest)

theorem Memory.Apart.executeAll (apart : m.Apart) (ran : executeAll b ss m = some (obs, m')) : m'.Apart := by
 refine executeAll_induction b (P := fun _ m m' => m.Apart → m'.Apart) (fun _ apart => apart) ?_ ran apart
 intro s _ m m₁ m' obs done rest apart
 refine rest ?_
 cases s with
 | start n =>
  cases done
  exact apart
 | assign a =>
  obtain ⟨v, _, same⟩ := Option.map_eq_some_iff.mp done
  cases same
  exact apart.bindNew _ v
 | run n names =>
  simp only [Statement.execute, Option.ite_none_right_eq_some, Option.some.injEq, Prod.mk.injEq] at done
  exact done.2.2 ▸ apart.runNode b n names

/-- Assignments that do not read what was assigned before them bind all their targets at once. -/
theorem executeAll_assign {α : Type} (f : α → Assignment) (v : α → V) {ks : List α}
  (readable : ∀ k ∈ ks, (f k).source.value? b m = some (v k))
  (apart : ks.Pairwise fun k l => (f l).source.reads? ≠ some (f k).target) :
  executeAll b ((ks.map f).map .assign) m =
   some ([], m.putAll .bindNew (ks.map fun k => ((f k).target, v k))) := by
 induction ks generalizing m with
 | nil => rfl
 | cons k ks ih =>
  obtain ⟨first, apart⟩ := pairwise_cons.mp apart
  have kept : ∀ l ∈ ks, (f l).source.value? b (m.bindNew (f k).target (v k)) = some (v l) := by
   intro l mem
   rw [Source.value?_bindNew b m (v k) (first l mem), readable l (mem_cons_of_mem _ mem)]
  simp only [map_cons, executeAll, Statement.execute, readable k mem_cons_self, Option.map_some,
   Option.bind_some, ih kept apart]
  rfl

end AnimationGraph.Code
