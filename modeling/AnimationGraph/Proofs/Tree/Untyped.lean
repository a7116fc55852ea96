import AnimationGraph.Catalogue.Access
import AnimationGraph.Proofs.Execution.Units
import Mathlib.Data.List.Nodup

/-! # Sockets without a data type

Before a file is renewed, the sockets without a data type are removed from all nodes but reroutes.
All of them are, and all others stay in their order (`untyped_dropped`).
-/

namespace AnimationGraph

open List

/-- The sockets of each side of each node. -/
def World.sides (w : World) (place : NodeId × Side) : List SocketId :=
 (w.forest.side place.1 place.2).toList

def World.typed (w : World) (s : SocketId) : Bool := (w.dataType? s).isSome

/-- What is the same however many sockets are removed. -/
def World.furniture (w : World) : Array Socket × (NodeId → String) × List NodeId :=
 (w.forest.sockets, fun n => (w.forest.node n).kind, w.ownNodes)

/-- The world in which a socket has been removed. -/
def World.without (w : World) (s : SocketId) : World :=
 { w with forest := w.forest.removeSocket s, raised := { w.raised with tree := true }, stale := true }

variable {i : Interface} {w : World}

theorem Forest.node_modifyNode {f : Forest} {n : NodeId} {g : Node → Node}
 (blank : f.nodes[n.index]? = none → g default = default) (m : NodeId) :
 (f.modifyNode n g).node m = if m = n then g (f.node m) else f.node m := by
 have same : n.index = m.index ↔ m = n := by grind [NodeId]
 simp only [node, modifyNode, Array.getElem?_modify, same]
 split
 next here =>
  subst here
  cases missing : f.nodes[m.index]? <;> simp [missing] at blank ⊢
  exact blank.symm
 next => rfl

/-- Only the node of a socket changes when the socket is removed, and of that node only the side of the socket. -/
theorem Forest.node_removeSocket (f : Forest) (s : SocketId) (m : NodeId) : (f.removeSocket s).node m =
 if m = (f.socket s).owner then
  Node.setSide (f.node m) (f.socket s).side ((f.side m (f.socket s).side).filter (· != s))
 else f.node m := by
 change (modifyNode (f.dropLinks _ s) (f.socket s).owner (Node.setSide · (f.socket s).side
  ((f.side (f.socket s).owner (f.socket s).side).filter (· != s)))).node m = _
 rw [node_modifyNode (fun missing => ?_)]
 · by_cases here : m = (f.socket s).owner
   · simp only [here, if_true]
     rfl
   · simp only [here, if_false]
     rfl
 · change f.nodes[(f.socket s).owner.index]? = none at missing
   have empty : f.node (f.socket s).owner = default := by simp [node, missing]
   cases (f.socket s).side <;> simp [side, empty] <;> rfl

theorem furniture_without (w : World) (s : SocketId) : (w.without s).furniture = w.furniture := by
 have kinds (m : NodeId) : ((w.forest.removeSocket s).node m).kind = (w.forest.node m).kind := by
  rw [Forest.node_removeSocket]
  split <;> cases (w.forest.socket s).side <;> rfl
 have trees (t : TreeId) : ((w.forest.removeSocket s).tree t).fields = (w.forest.tree t).fields ∧
  ((w.forest.removeSocket s).tree t).nodes = (w.forest.tree t).nodes := by
  simp only [Forest.removeSocket, Forest.arrange, Forest.tree, Forest.modifyNode, Forest.dropLinks,
   Forest.modifyTree, Array.getElem?_modify]
  split <;> cases w.forest.trees[t.index]? <;> simp
 simp only [World.furniture, World.ownNodes, World.ownTrees, World.without, trees, kinds]
 rfl

/-- Where a socket says that it is. -/
def World.place (w : World) (s : SocketId) : NodeId × Side := ((w.forest.socket s).owner, (w.forest.socket s).side)

/-- All sockets are where they say. -/
def World.Placed (w : World) : Prop := ∀ place, ∀ s ∈ w.sides place, w.place s = place

theorem sides_without (placed : w.Placed) (s : SocketId) (place : NodeId × Side) :
 (w.without s).sides place = (w.sides place).filter (· != s) := by
 by_cases own : w.place s = place
 · subst own
   simp only [World.sides, World.without, World.place, Forest.side, Forest.node_removeSocket]
   cases (w.forest.socket s).side <;> simp [Forest.Node.setSide]
 · have others : (w.sides place).filter (· != s) = w.sides place :=
    filter_eq_self.mpr fun t mem => bne_iff_ne.mpr fun same => own (same ▸ placed place t mem)
   rw [others]
   obtain ⟨m, side⟩ := place
   simp only [World.sides, World.without, World.place, Forest.side, Forest.node_removeSocket] at own ⊢
   by_cases here : m = (w.forest.socket s).owner
   · subst here
     cases side <;> cases there : (w.forest.socket s).side <;> simp [Forest.Node.setSide, there] at own ⊢
   · simp [here]

theorem typed_eq {w w' : World} (same : w'.furniture = w.furniture) : w'.typed = w.typed := by
 have sockets : w'.forest.sockets = w.forest.sockets := congrArg Prod.fst same
 funext s
 simp only [World.typed, World.dataType?, Forest.socket, sockets]

theorem dropIfUntyped_eq (i : Interface) (w : World) (s : SocketId) :
 dropIfUntyped s i w = .ok () (if w.typed s then w else w.without s) := by
 cases type : w.dataType? s <;> simp [dropIfUntyped, bind, Run.bind, look, World.typed, type] <;> rfl

/-- The nodes of the own trees whose sockets carry data. -/
def World.carriers (w : World) : List NodeId :=
 w.ownNodes.filter fun n => (w.forest.node n).kind != "NodeReroute"

/-- A world from which some sockets have been removed. -/
def Lacks (w : World) (gone : SocketId → Bool) (w' : World) : Prop :=
 w'.furniture = w.furniture ∧ ∀ place, w'.sides place = (w.sides place).filter (!gone ·)

theorem Lacks.placed (lacks : Lacks w gone w') (placed : w.Placed) : w'.Placed := by
 have sockets : w'.forest.sockets = w.forest.sockets := congrArg Prod.fst lacks.1
 intro place s mem
 rw [lacks.2] at mem
 simpa only [World.place, Forest.socket, sockets] using placed place s (mem_of_mem_filter mem)

theorem Lacks.step (lacks : Lacks w gone w₁) (placed : w.Placed) (s : SocketId) :
 ∃ w₂, dropIfUntyped s i w₁ = .ok () w₂ ∧ Lacks w (fun t => gone t || (t == s && !w.typed t)) w₂ := by
 refine ⟨_, dropIfUntyped_eq i w₁ s, ?_⟩
 rw [typed_eq lacks.1]
 split
 next typed =>
  refine ⟨lacks.1, fun place => (lacks.2 place).trans (filter_congr fun t _ => ?_)⟩
  by_cases same : t = s <;> simp [same, typed]
 next untyped =>
  refine ⟨(furniture_without w₁ s).trans lacks.1, fun place => ?_⟩
  rw [sides_without (lacks.placed placed), lacks.2, filter_filter]
  refine filter_congr fun t _ => ?_
  by_cases same : t = s <;> simp [same, untyped, bne_iff_ne.mpr]

/-- What a search of some places removes. -/
def World.untypedAt (w : World) (places : List (NodeId × Side)) (t : SocketId) : Bool :=
 !w.typed t && places.contains (w.place t)

theorem dropUntyped_lacks (lacks : Lacks w (w.untypedAt places) w₁) (placed : w.Placed) (n : NodeId) (side : Side) :
 ∃ w₂, dropUntyped n side i w₁ = .ok () w₂ ∧ Lacks w (w.untypedAt (places ++ [(n, side)])) w₂ := by
 obtain ⟨w₂, ran, same, sides⟩ : ∃ w₂, (w₁.sides (n, side)).forM dropIfUntyped i w₁ = .ok () w₂ ∧
  Lacks w (fun t => w.untypedAt places t || ((w₁.sides (n, side)).contains t && !w.typed t)) w₂ := by
  refine Run.forM_returns (fun done w₂ => Lacks w (fun t => w.untypedAt places t || (done.contains t && !w.typed t)) w₂)
   (fun done s rest w₂ _ lacks₂ => ?_) (by simpa using lacks)
  obtain ⟨w₃, ran, lacks₃⟩ := lacks₂.step (i := i) placed s
  refine ⟨w₃, ran, ?_⟩
  convert lacks₃ using 2 with t
  grind
 refine ⟨w₂, by simpa [dropUntyped, bind, Run.bind, look, World.sides] using ran, same, fun place => ?_⟩
 rw [sides, lacks.2]
 refine filter_congr fun t mem => ?_
 have here := placed place t mem
 have there := placed (n, side) t
 by_cases same : place = (n, side) <;> grind [World.untypedAt]

theorem dropUntypedSockets_lacks (placed : w.Placed) : ∃ w', dropUntypedSockets i w = .ok () w' ∧
 Lacks w (w.untypedAt (w.carriers.flatMap fun n => [(n, .input), (n, .output)])) w' := by
 let places (ns : List NodeId) := (ns.filter fun n => (w.forest.node n).kind != "NodeReroute").flatMap fun n =>
  [(n, Side.input), (n, Side.output)]
 refine Run.forM_returns (fun done w' => Lacks w (w.untypedAt (places done)) w')
  (fun done n rest w₁ _ lacks => ?_) ⟨rfl, by simp [World.untypedAt, places]⟩
 have kind : (w₁.forest.node n).kind = (w.forest.node n).kind := congrArg (·.2.1 n) lacks.1
 by_cases reroute : (w.forest.node n).kind = "NodeReroute"
 · refine ⟨w₁, ?_, by simpa [places, reroute] using lacks⟩
   simp [bind, Run.bind, look, NodeId.kind, kind, reroute, pure, Run.pure]
 · obtain ⟨w₂, ran₂, lacks₂⟩ := dropUntyped_lacks (i := i) lacks placed n .input
   obtain ⟨w₃, ran₃, lacks₃⟩ := dropUntyped_lacks (i := i) lacks₂ placed n .output
   refine ⟨w₃, ?_, by simpa [places, reroute] using lacks₃⟩
   simp [bind, Run.bind, look, NodeId.kind, kind, reroute, pure, Run.pure, ran₂, ran₃]

/-- No socket without a data type is left on a node that is not a reroute, the others stay in their
order, and reroutes keep all their sockets. -/
theorem untyped_dropped (i : Interface) {w : World} (placed : w.Placed) :
 ∃ w', dropUntypedSockets i w = .ok () w' ∧ w'.carriers = w.carriers ∧
  (∀ n ∈ w'.carriers, ∀ side, ∀ s ∈ w'.sides (n, side), w'.typed s) ∧
  ∀ place, w'.sides place =
   if place.1 ∈ w.carriers then (w.sides place).filter w.typed else w.sides place := by
 obtain ⟨w', ran, same, sides⟩ := dropUntypedSockets_lacks (i := i) placed
 have nodes : w'.carriers = w.carriers := by
  have kinds := congrArg (·.2.1) same
  have own := congrArg (·.2.2) same
  simp only [World.furniture] at kinds own
  simp only [World.carriers, own, funext_iff.mp kinds]
 have left (place : NodeId × Side) : w'.sides place =
  if place.1 ∈ w.carriers then (w.sides place).filter w.typed else w.sides place := by
  obtain ⟨n, side⟩ := place
  rw [sides]
  -- a socket is removed just where its own node is searched
  have searched (t : SocketId) (mem : t ∈ w.sides (n, side)) :
   (!w.untypedAt (w.carriers.flatMap fun n => [(n, .input), (n, .output)]) t) = (w.typed t || n ∉ w.carriers) := by
   cases side <;> simp [World.untypedAt, placed _ t mem]
  split
  next own => exact filter_congr fun t mem => by simp [searched t mem, own]
  next other => exact filter_eq_self.mpr fun t mem => by simp [searched t mem, other]
 refine ⟨w', ran, nodes, fun n mem side s here => ?_, left⟩
 rw [nodes] at mem
 rw [left, if_pos mem] at here
 rw [typed_eq same]
 exact (mem_filter.mp here).2

/-- A node with two inputs side by side that have no data type, and one behind them that has one. -/
def twoUntyped : World where
 forest :=
  let input (kind : String) : Socket := { owner := ⟨0⟩, side := .input, kind, name := "", identifier := "" }
  { present := #[⟨0⟩]
    trees := #[{ name := "", nodes := #[⟨0⟩] }]
    nodes := #[{ tree := ⟨0⟩, kind := "an_CombineVectorNode", name := "", inputs := #[⟨0⟩, ⟨1⟩, ⟨2⟩] }]
    sockets := #[input "undefined", input "undefined", input "an_FloatSocket"] }

theorem twoUntyped_placed : twoUntyped.Placed := by
 rintro ⟨⟨_ | n⟩, _ | _⟩ s mem
 · revert s
   decide
 all_goals cases mem

theorem neighbours_dropped : ∃ w', dropUntypedSockets (Catalogue.interface {} 1) twoUntyped = .ok () w' ∧
 w'.sides (⟨0⟩, .input) = [⟨2⟩] := by
 obtain ⟨w', ran, -, -, sides⟩ := untyped_dropped (Catalogue.interface {} 1) twoUntyped_placed
 refine ⟨w', ran, (sides _).trans ?_⟩
 decide +kernel

end AnimationGraph
