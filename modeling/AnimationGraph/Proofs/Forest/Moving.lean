import AnimationGraph.Catalogue.Access
import AnimationGraph.Proofs.Execution.Units
import Mathlib.Data.Bool.Basic
import Mathlib.Logic.Equiv.Basic

/-! # Moving sockets

A socket changes places with the nearest one of its group, above or below it.  All others stay where they are, so moving it
back restores the order (`moveAmongPeers_exchanges`).
-/

namespace AnimationGraph

open List

/-! ## Positions -/

namespace Forest

theorem getElem?_moved (inside : src < xs.length) (inside' : t < xs.length) :
  (moved xs src t)[k]? = xs[if k = t then src else if src ≤ k ∧ k < t then k + 1 else if t < k ∧ k ≤ src then k - 1 else k]? := by
 simp only [moved, getElem?_eq_getElem inside, Option.map_some, Option.getD_some, getElem?_insertIdx, getElem?_eraseIdx]
 grind

theorem length_moved (inside : src < xs.length) (inside' : t < xs.length) : (moved xs src t).length = xs.length := by
 simp only [moved, getElem?_eq_getElem inside, Option.map_some, Option.getD_some]
 grind

/-- Moving one element past another and the other one back exchanges them. -/
theorem getElem?_moved_moved (inside : cur < xs.length) (inside' : j < xs.length) (differ : j ≠ cur) :
  (moved (moved xs cur j) (if j < cur then j + 1 else j - 1) cur)[k]? = xs[Equiv.swap cur j k]? := by
 have len := length_moved inside inside'
 rw [getElem?_moved (by grind) (by omega), getElem?_moved inside inside', Equiv.swap_apply_def]
 congr 1
 grind

end Forest

/-! ## Peers -/

section

variable (ss : List SocketId) (free : SocketId → Bool) (group : SocketId → Int) (s : SocketId) (up : Bool) (cur j k : Nat)

/-- A socket at a position can be moved, and belongs to the same group. -/
def IsPeer : Prop := ∃ t, ss[k]? = some t ∧ free t ∧ group t = group s

def Ahead : Prop := if up then k < cur else cur < k

/-- The nearest peer in the direction of the move. -/
def Nearest : Prop :=
 IsPeer ss free group s j ∧ Ahead up cur j ∧ ∀ k, IsPeer ss free group s k → Ahead up cur k → if up then k ≤ j else j ≤ k

end

variable {s : SocketId}

theorem groupTarget_eq_some : SocketId.groupTarget (ss.map fun t => free t && decide (group t = group s)) cur up = some j ↔
  Nearest ss free group s up cur j := by
 have peers k : (k < ss.length ∧ (ss.map fun t => free t && decide (group t = group s)).getD k false = true) ↔
   IsPeer ss free group s k := by
  simp only [getD_eq_getElem?_getD, getElem?_map, IsPeer]
  cases found : ss[k]? <;> grind
 cases up <;> simp [SocketId.groupTarget, Nearest, Ahead, max?_eq_some_iff, min?_eq_some_iff, ← peers, and_assoc, and_imp]

/-- Seen from its new place, the socket has its old place as the nearest one behind it. -/
theorem Nearest.back (nearest : Nearest ss free group s up cur j) (here : IsPeer ss free group s cur)
  (exchanged : ∀ k, l[k]? = ss[Equiv.swap cur j k]?) : Nearest l free group s (!up) j cur := by
 obtain ⟨⟨t, found, peer⟩, ahead, least⟩ := nearest
 refine ⟨⟨t, by rw [exchanged, Equiv.swap_apply_left, found], peer⟩, by cases up <;> simpa [Ahead] using ahead, ?_⟩
 rintro k ⟨t', found', peer'⟩ behind
 by_contra between
 have ne_cur : k ≠ cur := by rintro rfl; cases up <;> simp at between
 have ne_j : k ≠ j := by rintro rfl; cases up <;> simp [Ahead] at behind
 rw [exchanged, Equiv.swap_apply_of_ne_of_ne ne_cur ne_j] at found'
 have := least k ⟨t', found', peer'⟩
 cases up <;> simp [Ahead] at * <;> omega

/-! ## Sessions -/

abbrev World.siblings (w : World) (s : SocketId) : List SocketId := (w.forest.siblings s).toList

def World.arranged (w : World) (s : SocketId) (l : List SocketId) : World :=
 { w with forest := w.forest.arrange s l.toArray, raised.tree := true, stale := true }

variable {i : Interface} {w : World}

theorem moveFrom_eq (src t : Nat) : s.moveFrom src t i w = .ok () (w.arranged s (Forest.moved (w.siblings s) src t)) := rfl

theorem arranged_arranged (l l' : List SocketId) : (w.arranged s l).arranged s l' = w.arranged s l' := by
 have again (n : Node) (side : Side) (xs ys : Array SocketId) :
   Forest.Node.setSide (Forest.Node.setSide n side xs) side ys = Forest.Node.setSide n side ys := by cases side <;> rfl
 simp only [World.arranged, Forest.arrange, Forest.modifyNode, Forest.socket]
 congr 2
 refine Array.ext_getElem? fun k => ?_
 simp only [Array.getElem?_modify]
 split <;> simp [Function.comp_def, again]

theorem siblings_arranged (known : w.siblings s ≠ []) (l : List SocketId) : (w.arranged s l).siblings s = l := by
 change ((w.forest.modifyNode (w.forest.socket s).owner _).side (w.forest.socket s).owner (w.forest.socket s).side).toList = l
 unfold World.siblings Forest.siblings at known
 generalize w.forest.socket s = k at *
 cases found : w.forest.nodes[k.owner.index]? with
 | none =>
  -- a node that there is not has no sockets
  cases side : k.side <;> simp only [Forest.side, Forest.node, found, side] at known <;> exact absurd rfl known
 | some n =>
  cases side : k.side <;>
   simp [Forest.side, Forest.node, Forest.modifyNode, Array.getElem?_modify, found, Forest.Node.setSide]

/-- What some sockets tell about their moves; it does not depend on their order. -/
structure Shows (i : Interface) (w : World) (ss : List SocketId) (free : SocketId → Bool)
  (group : SocketId → Int) : Prop where
 moveable : ∀ v : World, v.forest.sockets = w.forest.sockets → ∀ t ∈ ss,
  holds t "moveable" i v = .ok (free t) v
 moveGroup : ∀ v : World, v.forest.sockets = w.forest.sockets → ∀ t ∈ ss,
  i.attr t "moveGroup" v = .ok (group t) v

theorem equal_whole (a b : Int) : equal a b = (pure (decide (a = b)) : Ask) := by
 change (pure (Number.eq (.whole a) (.whole b)) : Ask) = _
 congr 1
 simp [Number.eq, Number.compare?, Bool.beq_eq_decide_eq]

/-- One move: the socket and its nearest peer change places, and then the node is told. -/
theorem moveAmongPeers_eq (shows : Shows i w (w.siblings s) free group) (movable : free s) (placed : w.forest.indexOf? s = some cur) :
  (∀ j, Nearest (w.siblings s) free group s up cur j → s.moveAmongPeers up i w = (w.forest.socket s).owner.tell "socketMoved" [] [] i
   (w.arranged s (Forest.moved (Forest.moved (w.siblings s) cur j) (if up then j + 1 else j - 1) cur))) ∧
  ((∀ j, ¬Nearest (w.siblings s) free group s up cur j) → s.moveAmongPeers up i w = .ok () w) := by
 have peer (t : SocketId) (mem : t ∈ w.siblings s) :
   (do if ← holds t "moveable" then fits t "moveGroup" (group s) else pure false : Ask) i w =
    .ok (free t && decide (group t = group s)) w := by
  rw [Run.bind_eq (shows.moveable w rfl t mem)]
  cases free t with
  | false => rfl
  | true =>
   change fits t "moveGroup" (group s) i w = _
   rw [fits, Run.bind_eq (shows.moveGroup w rfl t mem), equal_whole]
   rfl
 have place : s.place i w = .ok cur w := by
  simp only [SocketId.place, look, bind, Run.bind, placed]
  rfl
 have own : s ∈ w.siblings s := by
  obtain ⟨inside, here, -⟩ := Array.findIdx?_eq_some_iff_getElem.mp placed
  exact Array.mem_toList_iff.mpr (Array.mem_of_getElem (by simpa using here))
 have known : w.siblings s ≠ [] := ne_nil_of_mem own
 rw [SocketId.moveAmongPeers, Run.bind_eq (shows.moveable w rfl s own), movable, if_pos rfl, Run.bind_eq (shows.moveGroup w rfl s own),
  Run.bind_eq (show look _ i w = _ from rfl), Run.bind_eq (Run.mapM_reads fun t mem => peer t mem), Run.bind_eq place]
 simp only [← groupTarget_eq_some]
 refine ⟨fun j target => ?_, fun none => ?_⟩
 · simp only [target]
   rw [Run.bind_eq (moveFrom_eq ..), Run.bind_eq (moveFrom_eq ..), siblings_arranged known, arranged_arranged]
   rfl
 · simp only [Option.eq_none_iff_forall_ne_some.mpr none]
   rfl

theorem place_of_once (once : ∀ k, (w.siblings s)[k]? = some s ↔ k = cur) : w.forest.indexOf? s = some cur := by
 simp only [World.siblings, Array.getElem?_toList, Array.getElem?_eq_some_iff] at once
 obtain ⟨inside, here⟩ := (once cur).mpr rfl
 refine Array.findIdx?_eq_some_iff_getElem.mpr ⟨inside, by simpa using here, fun k before same => ?_⟩
 exact Nat.ne_of_lt before ((once k).mp ⟨Nat.lt_trans before inside, by simpa using same⟩)

def Exchanged (ss : List SocketId) (cur j : Nat) (l : List SocketId) : Prop := ∀ k, l[k]? = ss[Equiv.swap cur j k]?

theorem moveAmongPeers_exchanged (shows : Shows i w (w.siblings s) free group) (movable : free s)
  (once : ∀ k, (w.siblings s)[k]? = some s ↔ k = cur) (nearest : Nearest (w.siblings s) free group s up cur j) :
  ∃ l, Exchanged (w.siblings s) cur j l ∧
   s.moveAmongPeers up i w = (w.forest.socket s).owner.tell "socketMoved" [] [] i (w.arranged s l) := by
 refine ⟨_, fun k => ?_, (moveAmongPeers_eq shows movable (place_of_once once)).1 j nearest⟩
 obtain ⟨⟨t, found, -⟩, ahead, -⟩ := nearest
 have here := (once cur).mpr rfl
 have direction : (if up then j + 1 else j - 1) = if j < cur then j + 1 else j - 1 := by cases up <;> grind [Ahead]
 rw [direction, Forest.getElem?_moved_moved (by grind) (by grind) (by cases up <;> grind [Ahead])]

/-- A socket keeps whether it can be moved, and in which group. -/
def World.movable (w : World) (t : SocketId) : Bool :=
 (w.forest.socket t).fields.get? "moveable" matches some (.bool true)

def World.moveGroup (w : World) (t : SocketId) : Int :=
 match (w.forest.socket t).fields.get? "moveGroup" with
 | some (.int g) => g
 | _ => 0

/-- A socket of a registered kind, with a truth value and a number where its moves are kept, if they are. -/
structure Movable (w : World) (t : SocketId) : Prop where
 kind : (socketKindNamed? (w.forest.socket t).kind).isSome
 moveable : ∀ v, (w.forest.socket t).fields.get? "moveable" = some v → ∃ b, v = .bool b
 moveGroup : ∀ v, (w.forest.socket t).fields.get? "moveGroup" = some v → ∃ g, v = .int g

theorem socketKinds_plain : ∀ k ∈ socketKinds, ∀ name ∈ ["moveable", "moveGroup"],
  k.props.find? (·.name == name) = none := by
 simp only [← Option.isNone_iff_eq_none]
 decide +kernel

/-- No kind of sockets declares its moves itself, so they are read from what is kept. -/
theorem attr_kept {c : Catalogue} (kind : (socketKindNamed? (w.forest.socket t).kind).isSome)
  {d : Value} (plain : name ∈ ["moveable", "moveGroup"])
  (declared : socketProperties.find? (·.name == name) = some { name, default := d }) :
  (c.interface (depth + 1)).attr t name w =
   .ok (((w.forest.socket t).fields.get? name).getD d) w := by
 obtain ⟨⟨type, k⟩, found⟩ := Option.isSome_iff_exists.mp kind
 have mem : k ∈ socketKinds := by
  simp only [socketKindNamed?, socketKind?, Option.bind_eq_bind, Option.bind_eq_some_iff, Option.pure_def,
   Option.some.injEq, Prod.mk.injEq] at found
  obtain ⟨_, -, _, found, -, rfl⟩ := found
  exact mem_of_find?_eq_some found
 have property : ([k.props, socketProperties].firstM fun ps => ps.find? (·.name == name)) = some { name, default := d } := by
  simp [firstM, socketKinds_plain k mem name plain, declared]
 change Catalogue.attrOfSocket t name _ w = _
 simp only [Catalogue.attrOfSocket, Catalogue.socketHolder, bind, Run.bind, pure, Run.pure, look, found, Holder.attr,
  Holder.property?, property, readProperty]
 cases (w.forest.socket t).fields.get? name <;> rfl

theorem alike {v : World} (same : v.forest.sockets = w.forest.sockets) (t : SocketId) :
  v.forest.socket t = w.forest.socket t := by
 simp only [Forest.socket, same]

theorem shows_kept {c : Catalogue} (kept : ∀ t ∈ ss, Movable w t) :
  Shows (c.interface (depth + 1)) w ss w.movable w.moveGroup where
 moveable v same t mem := by
  have proper := kept t mem
  have read : (Value.socket t).attr "moveable" (c.interface (depth + 1)) v = _ :=
   attr_kept (alike same t ▸ proper.kind) (by simp) rfl
  rw [holds, Run.bind_eq read, alike same]
  simp only [World.movable]
  cases found : (w.forest.socket t).fields.get? "moveable" with
  | none => rfl
  | some x =>
   obtain ⟨b, rfl⟩ := proper.moveable x found
   cases b <;> rfl
 moveGroup v same t mem := by
  have proper := kept t mem
  rw [attr_kept (alike same t ▸ proper.kind) (by simp) rfl, alike same]
  simp only [World.moveGroup]
  cases found : (w.forest.socket t).fields.get? "moveGroup" with
  | none => rfl
  | some x =>
   obtain ⟨g, rfl⟩ := proper.moveGroup x found
   rfl

theorem moveAmongPeers_exchanges (c : Catalogue) (kept : ∀ t ∈ w.siblings s, Movable w t) (movable : w.movable s)
  (once : ∀ k, (w.siblings s)[k]? = some s ↔ k = cur) :
  ((∀ j, ¬Nearest (w.siblings s) w.movable w.moveGroup s up cur j) →
   s.moveAmongPeers up (c.interface (depth + 1)) w = .ok () w) ∧
  ∀ j, Nearest (w.siblings s) w.movable w.moveGroup s up cur j → ∃ l, Exchanged (w.siblings s) cur j l ∧
   s.moveAmongPeers up (c.interface (depth + 1)) w =
    (w.forest.socket s).owner.tell "socketMoved" [] [] (c.interface (depth + 1)) (w.arranged s l) ∧
   ∀ w' : World, w'.forest.sockets = w.forest.sockets → w'.siblings s = l →
    s.moveAmongPeers (!up) (c.interface (depth + 1)) w' =
     (w.forest.socket s).owner.tell "socketMoved" [] [] (c.interface (depth + 1)) (w'.arranged s (w.siblings s)) := by
 have shows : Shows (c.interface (depth + 1)) w (w.siblings s) w.movable w.moveGroup := shows_kept kept
 refine ⟨(moveAmongPeers_eq shows movable (place_of_once once)).2, fun j nearest => ?_⟩
 obtain ⟨l, exchanged, moved⟩ := moveAmongPeers_exchanged shows movable once nearest
 refine ⟨l, exchanged, moved, fun w' same order => ?_⟩
 subst order
 have once' k : (w'.siblings s)[k]? = some s ↔ k = j := by
  rw [exchanged, once, Equiv.swap_apply_eq_iff, Equiv.swap_apply_left]
 have back := nearest.back ⟨s, (once cur).mpr rfl, movable, rfl⟩ exchanged
 -- the sockets are the same ones in another order
 have known t (mem : t ∈ w'.siblings s) : t ∈ w.siblings s := by
  obtain ⟨k, found⟩ := mem_iff_getElem?.mp mem
  exact mem_iff_getElem?.mpr ⟨_, (exchanged k).symm.trans found⟩
 have shows' : Shows (c.interface (depth + 1)) w' (w'.siblings s) w.movable w.moveGroup :=
  ⟨fun v alike t mem => shows.moveable v (alike.trans same) t (known t mem),
   fun v alike t mem => shows.moveGroup v (alike.trans same) t (known t mem)⟩
 obtain ⟨l, restored, moved'⟩ := moveAmongPeers_exchanged shows' movable once' back
 have order : l = w.siblings s := ext_getElem? fun k => by
  rw [restored, exchanged, Equiv.swap_comm j cur, Equiv.swap_apply_self]
 rw [moved', order, Forest.socket, Forest.socket, same]

/-- Two inputs that can be moved, and one between them that cannot. -/
def threeInputs : World where
 forest := {
  nodes := #[⟨⟨0⟩, "", "", #[⟨0⟩, ⟨1⟩, ⟨2⟩], #[], [], []⟩]
  sockets := #[
   ⟨⟨0⟩, .input, "an_FloatSocket", "", "", [("moveable", true), ("moveGroup", (1 : Int))], []⟩,
   ⟨⟨0⟩, .input, "an_FloatSocket", "", "", [], []⟩,
   ⟨⟨0⟩, .input, "an_FloatSocket", "", "", [("moveable", true), ("moveGroup", (1 : Int))], []⟩] }

theorem threeInputs_kept : ∀ t ∈ threeInputs.siblings ⟨2⟩, Movable threeInputs t := by
 intro t mem
 change t ∈ [⟨0⟩, ⟨1⟩, ⟨2⟩] at mem
 have kind : (socketKindNamed? "an_FloatSocket").isSome := by decide +kernel
 simp only [mem_cons, not_mem_nil, or_false] at mem
 rcases mem with rfl | rfl | rfl
 · exact ⟨kind, fun v found => ⟨true, (Option.some.inj found).symm⟩, fun v found => ⟨1, (Option.some.inj found).symm⟩⟩
 · exact ⟨kind, fun _ found => (nomatch found), fun _ found => (nomatch found)⟩
 · exact ⟨kind, fun v found => ⟨true, (Option.some.inj found).symm⟩, fun v found => ⟨1, (Option.some.inj found).symm⟩⟩

/-- The third one goes past the second one, in every session. -/
theorem third_exchanged : ∃ l, Exchanged [⟨0⟩, ⟨1⟩, ⟨2⟩] 2 0 l ∧
  (⟨2⟩ : SocketId).moveAmongPeers true (Catalogue.interface {} 1) threeInputs =
   (⟨0⟩ : NodeId).tell "socketMoved" [] [] (Catalogue.interface {} 1) (threeInputs.arranged ⟨2⟩ l) := by
 have once k : (threeInputs.siblings ⟨2⟩)[k]? = some ⟨2⟩ ↔ k = 2 := by
  change [⟨0⟩, ⟨1⟩, ⟨2⟩][k]? = some (⟨2⟩ : SocketId) ↔ _
  rcases k with _ | _ | _ | k <;> simp
 have nearest : Nearest (threeInputs.siblings ⟨2⟩) threeInputs.movable threeInputs.moveGroup ⟨2⟩ true 2 0 := by
  refine ⟨⟨⟨0⟩, rfl, rfl, rfl⟩, by simp [Ahead], ?_⟩
  rintro k ⟨t, found, free, -⟩ ahead
  rcases k with _ | _ | k
  · simp
  · obtain rfl : (⟨1⟩ : SocketId) = t := Option.some.inj found
    exact absurd free (by decide)
  · exact absurd ahead (by simp [Ahead])
 obtain ⟨l, exchanged, moved, -⟩ := (moveAmongPeers_exchanges {} threeInputs_kept (by decide) once).2 0 nearest
 exact ⟨l, exchanged, moved⟩

end AnimationGraph
