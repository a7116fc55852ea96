import AnimationGraph.Catalogue.Access
import AnimationGraph.Nodes.List
import AnimationGraph.Proofs.Execution.Units

/-! # Lists as sets

Two lists are joined into one that has no element twice: of elements that are alike it has the one that comes first in
both lists (`operations_exact`).
-/

namespace AnimationGraph

open List

/-! ## First occurrences -/

/-- Of elements that are alike, only the first is kept. -/
def firsts (same : Value → Value → Bool) : Values → Values
 | [] => []
 | x :: l => x :: (firsts same l).filter (!same x ·)

variable {same : Value → Value → Bool} {p : Value → Bool}

theorem firsts_sublist (l : Values) : (firsts same l).Sublist l := by
 induction l with
 | nil => exact .refl _
 | cons x l ih => exact (filter_sublist.trans ih).cons_cons x

theorem firsts_distinct (l : Values) : (firsts same l).Pairwise (same · · = false) := by
 induction l with
 | nil => exact .nil
 | cons x l ih => exact pairwise_cons.mpr ⟨fun y mem => by simpa using (mem_filter.mp mem).2, ih.filter _⟩

variable (alike : Equivalence fun x y => same x y = true)
include alike

theorem same_comm (x y : Value) : same x y = same y x := Bool.eq_iff_iff.mpr ⟨alike.symm, alike.symm⟩

theorem any_congr (like : same x y) (l : Values) : l.any (same x) = l.any (same y) := by
 refine Bool.eq_iff_iff.mpr ?_
 simp only [any_eq_true]
 exact exists_congr fun z => and_congr_right fun _ => ⟨alike.trans (alike.symm like), alike.trans like⟩

theorem any_firsts (x : Value) (l : Values) : (firsts same l).any (same x) = l.any (same x) := by
 induction l with
 | nil => rfl
 | cons y l ih =>
  rw [firsts, any_cons, any_cons, ← ih, any_filter]
  cases like : same x y with
  | true => rfl
  | false =>
   -- what is like `x` is not like `y`
   have unlike z : (!same y z && same x z) = same x z := by
    cases far : same x z with
    | false => simp
    | true =>
     cases near : same y z with
     | false => rfl
     | true => exact absurd (alike.trans far (alike.symm near)) (by simp [like])
   simp [unlike]

omit alike in
theorem firsts_filter (fits : ∀ x ∈ l, ∀ y ∈ l, same x y → p x = p y) :
  firsts same (l.filter p) = (firsts same l).filter p := by
 induction l with
 | nil => rfl
 | cons x l ih =>
  have ih := ih fun y mem z mem' => fits y (mem_cons_of_mem _ mem) z (mem_cons_of_mem _ mem')
  cases kept : p x with
  | true => simp [firsts, kept, ih, filter_filter, Bool.and_comm]
  | false =>
   simp only [firsts, filter_cons, kept, ih, filter_filter, Bool.false_eq_true, if_false]
   refine filter_congr fun y mem => ?_
   cases like : same x y with
   | false => simp
   | true => simp [← fits x mem_cons_self y (mem_cons_of_mem _ ((firsts_sublist l).subset mem)) like, kept]

theorem firsts_append (a b : Values) :
  firsts same (a ++ b) = firsts same a ++ (firsts same b).filter (fun y => !a.any (same y)) := by
 induction a with
 | nil => simp [firsts]
 | cons x a ih => simp [firsts, ih, filter_filter, same_comm alike _ x]

omit alike

/-! ## Runs -/

abbrev World.Lists (w : World) (e : CellId) (l : Values) : Prop := w.cells[e.index]? = some (.list l.toArray)

theorem iter_list (listed : w.Lists e l) : iter (.cell e) i w = .ok l w := by
 simp [iter, look, readCell, bind, Run.bind, World.elements?, World.held?, World.cell, listed]
 rfl

theorem has_list (listed : w.Lists e l) (decides : ∀ y ∈ l, isSame x y i w = .ok (same x y) w) :
  has (.cell e) x i w = .ok (l.any (same x)) w := by
 have occurs : occursIn x l i w = .ok (l.any (same x)) w := by
  clear listed
  induction l with
  | nil => rfl
  | cons y l ih =>
   obtain ⟨first, rest⟩ := forall_mem_cons.mp decides
   rw [occursIn, anyM_cons, Run.bind_eq first]
   cases like : same x y with
   | true => simp [like]; rfl
   | false => simpa [like, occursIn] using ih rest
 rw [has, Run.bind_eq (show readCell e i w = .ok (.list l.toArray) w by simp [readCell, listed])]
 simp only
 rw [Run.bind_eq (iter_list listed), occurs]

/-- A session with one more list. -/
def World.grown (w : World) (out : Values) : World := { w with cells := w.cells.push (.list out.toArray) }

abbrev Makes (x : Eval) (i : Interface) (w : World) (out : Values) : Prop :=
 x i w = .ok (.cell ⟨w.cells.size⟩) (w.grown out)

variable {c : Catalogue} {w : World} {n : NodeId} {kept : Values}

theorem lookup_append : listMembers.lookup? "append" =
  some (act1 ⟨"append", ["x"]⟩ fun c x => do setListItems c ((<- listItems c).push x)).2 := by
 rfl

theorem attr_append (out : Values) : (Value.cell ⟨w.cells.size⟩).attr "append" (c.interface (depth + 1)) (w.grown out) =
  .ok (.member (.cell ⟨w.cells.size⟩) "append") (w.grown out) := by
 simp only [Value.attr, Catalogue.interface, Catalogue.attrOf, Catalogue.attrOfCell, readCell, bind, Run.bind,
  World.grown, Array.getElem?_push_size, Option.getD_some, Catalogue.membersOfBuiltin, lookup_append]
 rfl

theorem apply_append (out : Values) (x : Value) :
  (Value.member (.cell ⟨w.cells.size⟩) "append").apply [x] [] (c.interface (depth + 2)) (w.grown out) =
   .ok .none (w.grown (out ++ [x])) := by
 simp only [Value.apply, Catalogue.interface, Catalogue.applyOf, Value.call, Catalogue.invokeOf, Catalogue.invokeCell,
  readCell, bind, Run.bind, World.grown, Array.getElem?_push_size, Option.getD_some, Catalogue.membersOfBuiltin, lookup_append]
 simp [callMember, act1, action, method, bindArgs, listItems, setListItems, asList, readCell, writeCell, Cell.list?, bind,
  Run.bind, pure, Run.pure, Array.setIfInBounds, Array.set_push]

/-- Elements can be compared, whatever the new list holds. -/
def Compares (i : Interface) (same : Value → Value → Bool) (w : World) (l : Values) : Prop :=
 ∀ x ∈ l, ∀ y ∈ l, ∀ out, isSame x y i (w.grown out) = .ok (same x y) (w.grown out)

theorem Compares.mono (compares : Compares i same w l) (sub : kept ⊆ l) : Compares i same w kept :=
 fun x mem y mem' => compares x (sub mem) y (sub mem')

theorem grown_list (listed : w.Lists e l) (out : Values) :
  (w.grown out).Lists e l := by
 have := (Array.getElem?_eq_some_iff.mp listed).1
 rw [World.Lists, World.grown, Array.getElem?_push, if_neg (by omega), listed]

theorem has_grown (compares : Compares i same w (l ++ kept)) (listed : w.Lists e l)
  (mem : x ∈ kept) (out : Values) : has (.cell e) x i (w.grown out) = .ok (l.any (same x)) (w.grown out) :=
 has_list (grown_list listed out) fun y mem' => compares x (by simp [mem]) y (by simp [mem']) out

include alike in
/-- One element: it is taken if it passes the test and nothing like it has been taken. -/
theorem collect_one (compares : Compares (c.interface (depth + 2)) same w (x :: kept))
  (tests : ∀ out, test (c.interface (depth + 2)) (w.grown out) = .ok b (w.grown out)) :
  collect (.cell ⟨w.cells.size⟩) (.member (.cell ⟨w.cells.size⟩) "append") (x, test) (c.interface (depth + 2))
   (w.grown (firsts same kept)) = .ok () (w.grown (firsts same (kept ++ [x].filter fun _ => b))) := by
 have known : has (.cell ⟨w.cells.size⟩) x (c.interface (depth + 2)) (w.grown (firsts same kept)) =
   .ok (kept.any (same x)) (w.grown (firsts same kept)) := by
  rw [← any_firsts alike]
  refine has_list (by simp [World.Lists, World.grown]) fun y mem => ?_
  exact compares x mem_cons_self y (mem_cons_of_mem _ ((firsts_sublist kept).subset mem)) _
 rw [collect, Run.bind_eq known, firsts_append alike]
 cases found : kept.any (same x) with
 | true => cases b <;> simp [found, firsts, pure, Run.pure]
 | false =>
  simp only [Bool.false_eq_true, if_false]
  rw [Run.bind_eq (tests _)]
  cases b with
  | false => simp [firsts, pure, Run.pure]
  | true =>
   simp only [if_true, filter_cons, filter_nil, firsts, found]
   change (Value.apply _ _ >>= fun _ => pure ()) _ _ = _
   rw [Run.bind_eq (apply_append ..)]
   rfl

include alike in
theorem collect_all (kept : Values) {test : Value → Ask} (compares : Compares (c.interface (depth + 2)) same w (l ++ kept))
  (tests : ∀ x ∈ l, ∀ out, test x (c.interface (depth + 2)) (w.grown out) = .ok (p x) (w.grown out)) :
  (l.map fun x => (x, test x)).forM (collect (.cell ⟨w.cells.size⟩) (.member (.cell ⟨w.cells.size⟩) "append"))
   (c.interface (depth + 2)) (w.grown (firsts same kept)) = .ok () (w.grown (firsts same (kept ++ l.filter p))) := by
 induction l generalizing kept with
 | nil => simp; rfl
 | cons x l ih =>
  obtain ⟨first, tests⟩ := forall_mem_cons.mp tests
  rw [map_cons, Run.forM_step (collect_one alike (compares.mono (by grind)) first), ih _ (compares.mono (by grind)) tests]
  cases found : p x <;> simp [found]

theorem gather_exact
  (start : Makes (n.call "getEmptyStartList") (c.interface (depth + 2)) w [])
  (ran : src.forM (collect (.cell ⟨w.cells.size⟩) (.member (.cell ⟨w.cells.size⟩) "append")) (c.interface (depth + 2))
   (w.grown []) = .ok () (w.grown out)) :
  Makes (gather n src) (c.interface (depth + 2)) w out := by
 rw [Makes, gather, Run.bind_eq start, Run.bind_eq (attr_append [])]
 exact (Run.bind_eq ran).trans rfl

/-! ## Operations -/

/-- The elements that an operation wants, as they are in both lists or not, each where it occurs first. -/
def wanted (same : Value → Value → Bool) (op : Bool → Bool → Bool) (a b : Values) : Values :=
 (firsts same (a ++ b)).filter fun x => op (a.any (same x)) (b.any (same x))

include alike

theorem any_of_mem (mem : x ∈ firsts same l) : l.any (same x) :=
 any_eq_true.mpr ⟨x, (firsts_sublist l).subset mem, alike.refl x⟩

theorem wanted_eq (op : Bool → Bool → Bool) (a b : Values) : wanted same op a b =
  (firsts same a).filter (fun x => op true (b.any (same x))) ++
   (firsts same b).filter fun x => !a.any (same x) && op false true := by
 rw [wanted, firsts_append alike, filter_append, filter_filter]
 refine congrArg₂ _ (filter_congr fun x mem => by rw [any_of_mem alike mem]) (filter_congr fun x mem => ?_)
 rw [any_of_mem alike mem]
 cases a.any (same x) <;> simp

theorem firsts_filter_any (a b : Values) (p : Bool → Bool) :
  firsts same (a.filter fun x => p (b.any (same x))) = (firsts same a).filter fun x => p (b.any (same x)) :=
 firsts_filter fun x _ y _ like => by rw [any_congr alike like]

theorem wanted_spec (op : Bool → Bool → Bool) (a b : Values) :
  (wanted same op a b).Pairwise (same · · = false) ∧ (wanted same op a b).Sublist (a ++ b) ∧
  ∀ x ∈ a ++ b, (wanted same op a b).any (same x) = op (a.any (same x)) (b.any (same x)) := by
 refine ⟨(firsts_distinct _).filter _, filter_sublist.trans (firsts_sublist _), fun x mem => ?_⟩
 have found : (firsts same (a ++ b)).any (same x) := by
  rw [any_firsts alike]
  exact any_eq_true.mpr ⟨x, mem, alike.refl x⟩
 obtain ⟨y, isFirst, like⟩ := any_eq_true.mp found
 refine Bool.eq_iff_iff.mpr ⟨fun has => ?_, fun wants => ?_⟩
 · obtain ⟨z, isWanted, like⟩ := any_eq_true.mp has
   simpa [any_congr alike like] using (mem_filter.mp isWanted).2
 · exact any_eq_true.mpr ⟨y, mem_filter.mpr ⟨isFirst, by rw [← any_congr alike like, ← any_congr alike like, wants]⟩, like⟩

omit alike in
theorem lacks_of_has {ask : Ask} (has : ask i w = .ok found w) :
  (do return !(<- ask) : Ask) i w = .ok (!found) w := Run.bind_eq has

theorem operations_exact {a b : Values}
  (start : Makes (n.call "getEmptyStartList") (c.interface (depth + 2)) w [])
  (first : w.Lists xs a) (second : w.Lists ys b)
  (compares : Compares (c.interface (depth + 2)) same w (a ++ b)) :
  Makes (n.union xs ys) (c.interface (depth + 2)) w (wanted same or a b) ∧
  Makes (n.intersection xs ys) (c.interface (depth + 2)) w (wanted same and a b) ∧
  Makes (n.difference xs ys) (c.interface (depth + 2)) w (wanted same (· && !·) a b) ∧
  Makes (n.symmetricDifference xs ys) (c.interface (depth + 2)) w (wanted same xor a b) ∧
  wanted same xor a b = wanted same (· && !·) a b ++ wanted same (· && !·) b a ∧
  ∀ op, (wanted same op a b).Pairwise (same · · = false) ∧ (wanted same op a b).Sublist (a ++ b) ∧
   ∀ x ∈ a ++ b, (wanted same op a b).any (same x) = op (a.any (same x)) (b.any (same x)) := by
 have back := compares.mono (show b ++ a ⊆ a ++ b by simp)
 have inSecond x (mem : x ∈ a) out := has_grown back second mem out
 have lacksSecond x (mem : x ∈ a) out := lacks_of_has (inSecond x mem out)
 have lacksFirst x (mem : x ∈ b) out := lacks_of_has (has_grown compares first mem out)
 have alone := compares.mono (show a ++ [] ⊆ a ++ b by simp)
 have read₁ := iter_list (i := c.interface (depth + 2)) first
 have read₂ := iter_list (i := c.interface (depth + 2)) second
 refine ⟨?_, ?_, ?_, ?_, ?_, fun op => wanted_spec alike op a b⟩
 · rw [Makes, NodeId.union, Run.bind_eq read₁, Run.bind_eq read₂]
   refine (gather_exact start (collect_all alike [] (p := fun _ => true) (by simpa using compares) fun _ _ _ => rfl)).trans ?_
   simp [wanted_eq alike, firsts_append alike]
 · rw [Makes, NodeId.intersection, Run.bind_eq read₁]
   refine (gather_exact start (collect_all alike [] alone inSecond)).trans ?_
   simp [wanted_eq alike, ← firsts_filter_any alike a b fun x => x]
 · rw [Makes, NodeId.difference, Run.bind_eq read₁]
   refine (gather_exact start (collect_all alike [] alone lacksSecond)).trans ?_
   simp [wanted_eq alike, firsts_filter_any alike a b not]
 · rw [Makes, NodeId.symmetricDifference, Run.bind_eq read₁, Run.bind_eq read₂]
   have rest := compares.mono (show b ++ a.filter (fun x => !b.any (same x)) ⊆ a ++ b by grind)
   -- nothing of the second half is like anything of the first
   have apart x (mem : x ∈ firsts same (b.filter fun x => !a.any (same x))) :
     (!(a.filter fun x => !b.any (same x)).any (same x)) = true := by
    have lacks := (mem_filter.mp ((firsts_sublist _).subset mem)).2
    simp_all
   have joined : wanted same xor a b =
     firsts same (a.filter (fun x => !b.any (same x)) ++ b.filter fun x => !a.any (same x)) := by
    rw [firsts_append alike, filter_eq_self.mpr apart, firsts_filter_any alike a b not, firsts_filter_any alike b a not]
    simp [wanted_eq alike]
   rw [joined]
   refine gather_exact start ?_
   rw [lacking, lacking, forM_eq_forM, forM_append]
   exact (Run.bind_eq (collect_all alike [] alone lacksSecond)).trans (collect_all alike _ rest lacksFirst)
 · simp [wanted_eq alike]

omit alike

theorem compares_texts (l : List String) : Compares i (fun x y => x.text? == y.text?) w (l.map .str) := by
 simp only [Compares, forall_mem_map]
 intro s _ t _ out
 have alike : identical (.str s) (.str t) = (s == t) := rfl
 cases eq : s == t with
 | true => simp [isSame, alike, Value.text?, pure, Run.pure, eq]
 | false => simp [isSame, alike, eq, equal, look, bind, Run.bind, World.equal?, World.textDepth, Value.number?, Value.text?,
  pure, Run.pure]

/-- Two lists of words, and a node that starts from a new list. -/
def wordLists : World where
 cells := #[.list #["a", "b", "a"], .list #["b", "c"]]
 forest := { nodes := #[⟨⟨0⟩, "Join", "Join", #[], #[], [], []⟩] }

def joinKind : NodeKind where
 label := "Join"
 members := [fn0 ⟨"getEmptyStartList", []⟩ fun _ => list []]

def joining : Interface := Catalogue.interface { nodes := {("Join", joinKind)} } 2

theorem words_joined : Makes (NodeId.union ⟨0⟩ (.cell ⟨0⟩) (.cell ⟨1⟩)) joining wordLists ["a", "b", "c"] := by
 have start : Makes ((Value.node ⟨0⟩).call "getEmptyStartList") joining wordLists [] := by
  have kind : (wordLists.forest.node ⟨0⟩).kind = "Join" := rfl
  simp [Makes, Value.call, joining, Catalogue.interface, Catalogue.invokeOf, Catalogue.nodeHolder, Catalogue.nodeKind?,
   kind, look, bind, Run.bind, pure, Run.pure, Holder.invoke, Holder.member?, joinKind, firstM, Members.lookup?]
  rfl
 have texts : Equivalence fun x y : Value => (x.text? == y.text?) = true :=
  ⟨by simp, by simp +contextual, by simp +contextual⟩
 have first : wordLists.Lists ⟨0⟩ ["a", "b", "a"] := rfl
 have second : wordLists.Lists ⟨1⟩ ["b", "c"] := rfl
 exact (operations_exact texts start first second (compares_texts ["a", "b", "a", "b", "c"])).1

end AnimationGraph
