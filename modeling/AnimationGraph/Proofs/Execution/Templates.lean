import AnimationGraph.Proofs.Execution.Units
import AnimationGraph.Proofs.Forest.Survey

/-! # Types that follow links

Each socket with a template asks for values of properties, one socket after the other.  What has been fixed stays, so every
socket that could fix something has got in the end what it asked for.
-/

namespace AnimationGraph

open List

inductive Value.IsPlain : Value → Prop
 | bool (b : Bool) : IsPlain (.bool b)
 | str (s : String) : IsPlain (.str s)

namespace Fields

variable {fields : Fields}

theorem get?_setEach : (fields.setEach ps x).get? p = if p ∈ ps then some x else fields.get? p := by
 induction ps generalizing fields with
 | nil => rfl
 | cons q ps ih => exact ih.trans (by grind [get?_set])

theorem nodup_setEach (distinct : (fields.map (·.1)).Nodup) : ((fields.setEach ps x).map (·.1)).Nodup := by
 induction ps generalizing fields with
 | nil => exact distinct
 | cons q ps ih => exact ih (nodup_set _ _ _ distinct)

theorem of_mem_set : e ∈ fields.set p x → e ∈ fields ∨ e.2 = x := by
 fun_induction Fields.set fields p x <;> grind

theorem of_mem_setEach (mem : e ∈ fields.setEach ps x) : e ∈ fields ∨ e.2 = x := by
 induction ps generalizing fields with
 | nil => exact .inl mem
 | cons q ps ih => exact (ih mem).elim of_mem_set .inr

theorem mem_of_get? (found : fields.get? p = some x) : (p, x) ∈ fields := by
 obtain ⟨e, held, rfl⟩ := Option.map_eq_some_iff.mp found
 obtain rfl : e.1 = p := by simpa using find?_some held
 exact mem_of_find?_eq_some held

end Fields

namespace Demand

variable {d d' : Demand} {on : Bool}

def Keeps (d d' : Demand) : Prop := ∀ p ∈ d.fixed, p ∈ d'.fixed ∧ d'.updates.get? p = d.updates.get? p

theorem Keeps.settled (keeps : d.Keeps d') (settled : d.settled on p) : d'.settled on p := by
 simp only [Demand.settled, Bool.and_eq_true, contains_iff_mem, beq_iff_eq, isOn] at settled ⊢
 rw [(keeps p settled.1).2]
 exact ⟨(keeps p settled.1).1, settled.2⟩

theorem get?_add : (d.add r).updates.get? p = if p ∈ r.props ∧ p ∉ d.fixed then some r.value else d.updates.get? p := by
 simp [add, Fields.get?_setEach]

theorem mem_fixed_add : p ∈ (d.add r).fixed ↔ p ∈ d.fixed ∨ r.fixes ∧ p ∈ r.props := by
 grind [add]

theorem keeps_add : d.Keeps (d.add r) := fun p mem => ⟨mem_fixed_add.mpr (.inl mem), by simp [get?_add, mem]⟩

theorem settled_add (mem : p ∈ r.props) (fixes : r.fixes) (value : r.value = .bool on) (free : d.settled (!on) p = false) :
  (d.add r).settled on p := by
 by_cases known : p ∈ d.fixed
 · exact keeps_add.settled (by simpa [settled, known] using free)
 · simp [settled, isOn, get?_add, mem_fixed_add, known, mem, fixes, value]

structure Proper (d : Demand) : Prop where
 distinct : (d.updates.map (·.1)).Nodup
 plain : ∀ e ∈ d.updates, e.2.IsPlain
 valued : ∀ p ∈ d.fixed, (d.updates.get? p).isSome

theorem Proper.add (proper : d.Proper) (plain : r.value.IsPlain) : (d.add r).Proper where
 distinct := Fields.nodup_setEach proper.distinct
 plain e mem := (Fields.of_mem_setEach mem).elim (proper.plain e) fun same => same ▸ plain
 valued p mem := by
  have valued := proper.valued p
  grind [get?_add, mem_fixed_add]

end Demand

/-- The socket has got what it asks for.  A list linked to an input turns all properties on and a single value one of them
off, a list linked to an output turns one of them on and a single value all of them off.  The property of a selector is the
type that follows from the linked one. -/
def Wish.Met (x : Wish) (d : Demand) : Prop :=
 ∃ type, x.template.type? x.linked = some type ∧ match x.template with
  | .vectorized v => ∃ on, v.asList? x.isInput type = some on ∧
    if x.isInput = on then ∀ p ∈ v.props, d.settled on p else ∃ p ∈ v.props, d.settled on p
  | t => ∃ own, t.own? type = some own ∧ ∀ p ∈ t.related, p ∈ d.fixed ∧ d.updates.get? p = some (.str own)

def Wish.Binds (x : Wish) (d : Demand) : Prop :=
 x.template.related.all d.fixed.contains = false ∧ ∃ r, x.template.request? x.isInput x.linked d = some r ∧ r.fixes

theorem Wish.collect_cases (d : Demand) (x : Wish) : Wish.collect d x = d ∨
  ∃ r, x.template.request? x.isInput x.linked d = some r ∧ Wish.collect d x = d.add r := by
 grind [Wish.collect]

section

variable {d d' : Demand} {x : Wish} {r : Request}

/-- A vectorized socket asks for nothing that is settled against it. -/
theorem Vectorized.of_request {v : Vectorized} (asked : v.request? isInput type d = some r) :
  ∃ on, v.asList? isInput type = some on ∧ r.value = .bool on ∧ (∀ p ∈ r.props, d.settled (!on) p = false) ∧
   if isInput = on then r.props = v.props else ∃ p ∈ v.props, p ∈ r.props := by
 obtain ⟨on, linked, asked⟩ := Option.bind_eq_some_iff.mp asked
 refine ⟨on, linked, ?_⟩
 split at asked
 next all =>
  split at asked
  next => cases asked
  next free =>
   cases asked
   simp_all
 next some =>
  obtain ⟨p, found, rfl⟩ := Option.map_eq_some_iff.mp asked
  have ⟨mem, free⟩ : p ∈ v.props ∧ d.settled (!on) p = false := by
   cases on with
   | false => exact ⟨mem_of_find?_eq_some found, by simpa using find?_some found⟩
   | true =>
    rcases Option.or_eq_some_iff.mp found with found | ⟨-, found⟩ <;> have free := find?_some found
    · exact ⟨mem_of_find?_eq_some found, by simp [Demand.settled, free]⟩
    · exact ⟨mem_of_find?_eq_some found, by simp_all [Demand.settled]⟩
  simp_all

theorem plain_of_request (asked : x.template.request? x.isInput x.linked d = some r) : r.value.IsPlain := by
 unfold Template.request? at asked
 split at asked
 · cases asked
   exact .bool false
 · obtain ⟨on, -, value, -⟩ := Vectorized.of_request asked
   exact value ▸ .bool on
 · obtain ⟨own, -, rfl⟩ := Option.map_eq_some_iff.mp asked
   exact .str own
 · cases asked

/-- A socket that is asked gets what it asks for, and keeps it. -/
theorem Wish.Binds.met (binds : x.Binds d) (keeps : (Wish.collect d x).Keeps d') : x.Met d' := by
 obtain ⟨t, isInput, linked⟩ := x
 obtain ⟨free, r, asked, fixes⟩ := binds
 simp only [collect, free, asked, Bool.false_eq_true, if_false] at keeps
 unfold Template.request? at asked
 split at asked
 next => cases asked; cases fixes
 next v type same found =>
  cases same
  obtain ⟨on, asks, value, free, reach⟩ := Vectorized.of_request asked
  have settled {p : String} (mem : p ∈ r.props) : d'.settled on p :=
   keeps.settled (Demand.settled_add mem fixes value (free p mem))
  refine ⟨type, found, on, asks, ?_⟩
  by_cases all : isInput = on
  · rw [if_pos all] at reach
    exact (if_pos all).mpr fun p mem => settled (reach ▸ mem)
  · rw [if_neg all] at reach
    obtain ⟨p, mem, asked⟩ := reach
    exact (if_neg all).mpr ⟨p, mem, settled asked⟩
 next type found single =>
  obtain ⟨own, asks, rfl⟩ := Option.map_eq_some_iff.mp asked
  have fixed (p : String) (mem : p ∈ t.related) : p ∈ d'.fixed ∧ d'.updates.get? p = some (.str own) := by
   have new : p ∉ d.fixed := by cases t <;> simp_all [Template.related]
   have ⟨kept, same⟩ := keeps p (Demand.mem_fixed_add.mpr (.inr ⟨rfl, mem⟩))
   exact ⟨kept, same.trans (by simp [Demand.get?_add, mem, new])⟩
  refine ⟨type, found, ?_⟩
  cases t with
  | vectorized v => exact (single v rfl).elim
  | _ => exact ⟨own, asks, fixed⟩
 next => cases asked

end

theorem keeps_foldl (d : Demand) (xs : List Wish) : d.Keeps (xs.foldl Wish.collect d) := by
 induction xs generalizing d with
 | nil => exact fun p mem => ⟨mem, rfl⟩
 | cons x xs ih =>
  intro p mem
  rcases Wish.collect_cases d x with same | ⟨r, -, same⟩ <;> rw [foldl_cons, same]
  · exact ih d p mem
  · have ⟨known, kept⟩ := Demand.keeps_add (r := r) p mem
    exact ⟨(ih _ p known).1, (ih _ p known).2.trans kept⟩

theorem proper_demandOf (xs : List Wish) : (demandOf xs).Proper := by
 refine foldlRecOn xs Wish.collect ⟨.nil, by simp, by simp⟩ fun d proper x _ => ?_
 rcases Wish.collect_cases d x with same | ⟨r, asked, same⟩ <;> rw [same]
 · exact proper
 · exact proper.add (plain_of_request asked)

variable {i : Interface} {n : NodeId} {us : Fields} {P : World → Prop} {w v : World} {e : String × Value}

theorem notEqual_plain (plain : x.IsPlain) (plain' : y.IsPlain) :
  notEqual x y i w = .ok (!identical x y) w ∧ (identical x y ↔ x = y) := by
 cases plain <;> cases plain'
 case bool.bool a b => cases a <;> cases b <;> exact ⟨rfl, by simp [identical]⟩
 case str.str a b => exact ⟨rfl, by simp [identical]⟩
 all_goals exact ⟨rfl, by simp [identical]⟩

def Holds (i : Interface) (n : NodeId) (us : Fields) (w : World) : Prop := ∀ e ∈ us, getPath n e.1 i w = .ok e.2 w

/-- In these sessions the properties are plain and can be read and set, each one for itself, and making the sockets of the node
again leaves them as they are. -/
structure Stores (i : Interface) (n : NodeId) (us : Fields) (P : World → Prop) : Prop where
 reads : ∀ v, P v → ∀ e ∈ us, ∃ x : Value, x.IsPlain ∧ getPath n e.1 i v = .ok x v
 writes : ∀ v, P v → ∀ e ∈ us, ∃ v', setPath n e.1 e.2 i v = .ok () v' ∧ P v' ∧ getPath n e.1 i v' = .ok e.2 v' ∧
  ∀ o ∈ us, o.1 ≠ e.1 → ∀ x, getPath n o.1 i v = .ok x v → getPath n o.1 i v' = .ok x v'
 remakes : ∀ v, P v → Holds i n us v → ∃ v', n.refresh i v = .ok () v' ∧ Holds i n us v'

theorem put_same (plain : e.2.IsPlain) (reads : getPath n e.1 i v = .ok e.2 v) :
  n.put changed e i v = .ok changed v := by
 obtain ⟨differ, same⟩ := notEqual_plain (i := i) (w := v) plain plain
 simp only [NodeId.put, bind, Run.bind, reads, differ, same.mpr rfl]
 rfl

theorem put_holds (changed : Bool) (stores : Stores i n us P) (now : P v) (mem : e ∈ us)
  (plain : e.2.IsPlain) : ∃ changed' v', n.put changed e i v = .ok changed' v' ∧ P v' ∧ getPath n e.1 i v' = .ok e.2 v' ∧
   ∀ o ∈ us, o.1 ≠ e.1 → ∀ x, getPath n o.1 i v = .ok x v → getPath n o.1 i v' = .ok x v' := by
 obtain ⟨x, plain', reads⟩ := stores.reads v now e mem
 obtain ⟨differ, same⟩ := notEqual_plain (i := i) (w := v) plain' plain
 cases equal : identical x e.2 with
 | true =>
  obtain rfl := same.mp equal
  exact ⟨changed, v, put_same plain reads, now, reads, fun _ _ _ _ => id⟩
 | false =>
  obtain ⟨v', wrote, kept⟩ := stores.writes v now e mem
  refine ⟨true, v', ?_, kept⟩
  simp only [NodeId.put, bind, Run.bind, reads, differ, equal, Bool.not_false, if_true, wrote]
  rfl

theorem assign_holds (stores : Stores i n us P) (start : P w) (distinct : (us.map (·.1)).Nodup)
  (plain : ∀ e ∈ us, e.2.IsPlain) : ∃ changed v, n.assign us i w = .ok changed v ∧ P v ∧ Holds i n us v := by
 suffices rounds : ∀ rest done changed v, us = done ++ rest → P v → Holds i n done v →
   ∃ changed' v', rest.foldlM n.put changed i v = .ok changed' v' ∧ P v' ∧ Holds i n us v' from
  rounds us [] false w rfl start (by simp [Holds])
 intro rest
 induction rest with
 | nil =>
  intro done changed v all now holds
  exact ⟨changed, v, rfl, now, by simpa [all] using holds⟩
 | cons e rest ih =>
  intro done changed v all now holds
  have mem : e ∈ us := by simp [all]
  obtain ⟨changed', v', wrote, now, gets, others⟩ := put_holds changed stores now mem (plain e mem)
  have apart : ∀ o ∈ done, o.1 ≠ e.1 := by
   rw [all, map_append] at distinct
   exact fun o known => (nodup_append.mp distinct).2.2 o.1 (mem_map_of_mem known) e.1 mem_cons_self
  rw [foldlM_cons]
  simp only [bind, Run.bind, wrote]
  refine ih (done ++ [e]) changed' v' (by simp [all]) now fun o known => ?_
  rcases mem_append.mp known with known | new
  · exact others o (by simp [all, known]) (apart o known) o.2 (holds o known)
  · cases mem_singleton.mp new
    exact gets

theorem assign_again (plain : ∀ e ∈ us, e.2.IsPlain) (holds : Holds i n us w) : n.assign us i w = .ok false w := by
 unfold NodeId.assign
 induction us with
 | nil => rfl
 | cons e us ih =>
  obtain ⟨plain, plains⟩ := forall_mem_cons.mp plain
  obtain ⟨reads, holds⟩ := forall_mem_cons.mp holds
  rw [foldlM_cons]
  simp only [bind, Run.bind, put_same plain reads]
  exact ih plains holds

/-- Templates settle the properties of a node.  What is fixed keeps its value, and every template that fixed something has got
what it asks for.  The node has the values, and to apply the templates once more changes nothing. -/
theorem templates_settled (i : Interface) (n : NodeId) (w : World) (P : World → Prop) (start : P w)
  (stores : Stores i n (demandOf (w.wishes n)).updates P) :
  (∀ before after, (demandOf before).Keeps (demandOf (before ++ after))) ∧
  (∀ (before : List Wish) (x : Wish) after, x.Binds (demandOf before) → x.Met (demandOf (before ++ x :: after))) ∧
  ∃ w', n.applyTemplates i w = .ok () w' ∧
   (∀ p ∈ (demandOf (w.wishes n)).fixed, ∃ x, (demandOf (w.wishes n)).updates.get? p = some x ∧
    getPath n p i w' = .ok x w') ∧
   (w'.wishes n = w.wishes n → n.applyTemplates i w' = .ok () w') := by
 have keeps (before after : List Wish) : (demandOf before).Keeps (demandOf (before ++ after)) := by
  rw [demandOf, demandOf, foldl_append]
  exact keeps_foldl _ after
 refine ⟨keeps, fun before x after binds => ?_, ?_⟩
 · rw [demandOf, foldl_append]
   exact binds.met (keeps_foldl _ after)
 · have proper := proper_demandOf (w.wishes n)
   obtain ⟨changed, v, done, now, holds⟩ := assign_holds stores start proper.distinct proper.plain
   obtain ⟨w', ran, holds⟩ : ∃ w', n.applyTemplates i w = .ok () w' ∧ Holds i n (demandOf (w.wishes n)).updates w' := by
    simp only [NodeId.applyTemplates, bind, Run.bind, look, done]
    cases changed with
    | false => exact ⟨v, rfl, holds⟩
    | true =>
     exact stores.remakes v now holds
   refine ⟨w', ran, fun p fixed => ?_, fun same => ?_⟩
   · obtain ⟨x, found⟩ := Option.isSome_iff_exists.mp (proper.valued p fixed)
     exact ⟨x, found, holds _ (Fields.mem_of_get? found)⟩
   · simp only [NodeId.applyTemplates, bind, Run.bind, look, same, assign_again proper.plain holds]
     rfl

def storing : Interface where
 attr _ name w := .ok ((w.registers.get? name).getD (.str "")) w
 setAttr _ name x w := .ok () { w with registers := w.registers.set name x }
 invoke _ _ _ w := .ok (.bool false) w
 apply _ _ w := .ok .none w

/-- A node whose type follows the text that is linked to it, before and after it has got that type. -/
def following (done : Bool) : World :=
 let w := World.feeding "an_DataInputNode"
 { w with
   registers := if done then [("type", .str "Text")] else []
   survey := .ofOutline w.outline.1
   notes := [("", { inputs := [("x", ⟨["x"], some (.dataType "x" "x" "type" [])⟩)] })] }

theorem eq_str_of_identical (same : identical x (.str s)) : x = .str s := by
 cases x <;> simp_all [identical]

theorem following_demand : let d := demandOf ((following false).wishes ⟨3⟩)
  "type" ∈ d.fixed ∧ d.updates = [("type", .str "Text")] := by
 obtain ⟨fixed, one, all⟩ : let d := demandOf ((following false).wishes ⟨3⟩)
   "type" ∈ d.fixed ∧ d.updates.length = 1 ∧ d.updates.all fun e => e.1 == "type" && identical e.2 (.str "Text") := by
  decide +kernel
 refine ⟨fixed, eq_replicate_iff.mpr ⟨one, fun e mem => ?_⟩⟩
 have same := all_eq_true.mp all e mem
 simp only [Bool.and_eq_true, beq_iff_eq] at same
 exact Prod.ext same.1 (eq_str_of_identical same.2)

theorem following_stores :
  Stores storing ⟨3⟩ (demandOf ((following false).wishes ⟨3⟩)).updates fun v => ∃ done, v = following done := by
 rw [following_demand.2]
 have get (w : World) : getPath (⟨3⟩ : NodeId) "type" storing w = .ok ((w.registers.get? "type").getD (.str "")) w := rfl
 constructor <;> rintro _ ⟨done, rfl⟩
 · rintro e (_ | ⟨_, ⟨⟩⟩)
   exact ⟨_, by cases done <;> exact .str _, get _⟩
 · rintro e (_ | ⟨_, ⟨⟩⟩)
   exact ⟨following true, by cases done <;> rfl, ⟨true, rfl⟩, get _, by simp⟩
 · intro holds
   cases done with
   | false => simp [Holds, get, following, Fields.get?] at holds
   | true =>
    obtain ⟨ran, kept⟩ : ((⟨3⟩ : NodeId).refresh storing (following true)).cause? = none ∧
      (((⟨3⟩ : NodeId).refresh storing (following true)).world.registers.get? "type").any (identical · (.str "Text")) := by
     decide +kernel
    cases remade : (⟨3⟩ : NodeId).refresh storing (following true) with
    | failed f v => simp [remade, Outcome.cause?] at ran
    | ok _ v =>
     rw [remade] at kept
     obtain ⟨x, found, same⟩ := (Option.any_eq_true _ _).mp kept
     exact ⟨v, rfl, by simp_all [Holds, Outcome.world, eq_str_of_identical same]⟩

theorem following_settled : ∃ w', (⟨3⟩ : NodeId).applyTemplates storing (following false) = .ok () w' ∧
  ∃ x, (demandOf ((following false).wishes ⟨3⟩)).updates.get? "type" = some x ∧
   getPath (⟨3⟩ : NodeId) "type" storing w' = .ok x w' := by
 obtain ⟨-, -, w', ran, settled, -⟩ := templates_settled storing ⟨3⟩ (following false) _ ⟨false, rfl⟩ following_stores
 exact ⟨w', ran, settled "type" following_demand.1⟩

end AnimationGraph
