import AnimationGraph.Control.Panels
import AnimationGraph.Proofs.Tree.Untyped
import Mathlib.Logic.Relation
import Mathlib.Data.List.Perm.Subperm

/-! # Framing a network

A network is framed node by node: what the node lies in is followed to its end, and the last one is
put into the new frame.  For a node that is already inside, the last one is the new frame itself,
which the host leaves where it is.  So the climb always ends, nothing lies in itself, and all nodes
lie in the new frame (`network_framed`).
-/

namespace AnimationGraph

open List Relation

/-! ## Nestings -/

/-- What each node lies in. -/
abbrev Parents := NodeId → Option NodeId

namespace Parents

def Within (par : Parents) (n m : NodeId) : Prop := par n = some m

def Acyclic (par : Parents) : Prop := ∀ n, ¬TransGen par.Within n n

variable {par : Parents} {fr n m r : NodeId}

/-- What lies in something still does after an outermost node has been put into a frame. -/
theorem within_update (top : par r = none) (within : par.Within n m) :
 Within (Function.update par r (some fr)) n m := by
 have other : n ≠ r := by
  rintro rfl
  cases top.symm.trans within
 rwa [Within, Function.update_of_ne other]

/-- Nothing lies in itself after a node has been put into a frame that is outermost. -/
theorem Acyclic.update (acyclic : par.Acyclic) (outside : par fr = none) (other : r ≠ fr) :
 Acyclic (Function.update par r (some fr)) := by
 have outside' : Function.update par r (some fr) fr = none := by
  rwa [Function.update_of_ne other.symm]
 have old {a b : NodeId} (within : Within (Function.update par r (some fr)) a b) :
  b = fr ∨ par.Within a b := by
  by_cases same : a = r
  · exact .inl (by simpa [Within, same, eq_comm] using within)
  · exact .inr (by rwa [Within, Function.update_of_ne same] at within)
 have path {a b : NodeId} (path : TransGen (Within (Function.update par r (some fr))) a b) :
  b = fr ∨ TransGen par.Within a b := by
  induction path with
  | single within => exact (old within).imp_right .single
  | tail _ within ih =>
   rcases ih with rfl | before
   · cases outside'.symm.trans within
   · exact (old within).imp_right before.tail
 intro n circle
 rcases path circle with rfl | circle
 · obtain ⟨m, within, -⟩ := TransGen.head'_iff.mp circle
   cases outside'.symm.trans within
 · exact acyclic n circle

end Parents

/-! ## Sessions -/

abbrev World.parents (w : World) : Parents := w.forest.parent?

/-- How many nodes there have been. -/
abbrev World.extent (w : World) : Nat := w.forest.nodes.size

variable {i : Interface} {w : World} {n m r fr : NodeId} {size : Nat}

theorem World.parents_lt (within : w.parents n = some m) : n.index < w.extent := by
 by_contra outside
 have missing : w.forest.nodes[n.index]? = none := by simpa using outside
 simp only [World.parents, Forest.parent?, Forest.node, missing, Option.getD_none] at within
 cases within

/-- The climb passes distinct nodes, so it ends where nothing lies further outside. -/
theorem outermost_returns (acyclic : w.parents.Acyclic) {k : Nat} {passed : List NodeId}
 (distinct : passed.Nodup)
 (known : ∀ v ∈ passed, v.index < w.extent ∧ TransGen w.parents.Within v n)
 (enough : w.extent < passed.length + k) :
 ∃ r, outermost k n i w = .ok r w ∧ ReflTransGen w.parents.Within n r ∧
  w.parents r = none := by
 induction k generalizing n passed with
 | zero =>
  have inj : (passed.map (·.index)).Nodup := distinct.map fun a b same => by grind [NodeId]
  have sub : passed.map (·.index) ⊆ range w.extent := by
   simpa [subset_def] using fun v mem => (known v mem).1
  have := (inj.subperm sub).length_le
  simp at this
  omega
 | succ k ih =>
  rw [outermost, Run.bind_eq (show look _ i w = .ok (w.parents n) w from rfl)]
  cases within : w.parents n with
  | none => exact ⟨n, rfl, .refl, within⟩
  | some m =>
   have new : n ∉ passed := fun mem => acyclic n (known n mem).2
   have known (v : NodeId) (mem : v ∈ n :: passed) :
    v.index < w.extent ∧ TransGen w.parents.Within v m := by
    rcases mem_cons.mp mem with rfl | mem
    · exact ⟨World.parents_lt within, .single within⟩
    · exact ⟨(known v mem).1, (known v mem).2.tail within⟩
   obtain ⟨r, ran, path, top⟩ := ih (nodup_cons.mpr ⟨new, distinct⟩) known (by simp; omega)
   exact ⟨r, ran, .head within path, top⟩

/-- A world whose parents all exist, with a frame that lies in nothing. -/
structure Framing (w : World) (fr : NodeId) (size : Nat) : Prop where
 closed : ∀ n m, w.parents n = some m → m.index < size
 outside : w.parents fr = none
 frame : (w.forest.node fr).kind = "NodeFrame"
 extent : w.extent = size
 known : fr.index < size

theorem setParent_framing (framing : Framing w fr size) (there : n.index < size) :
 ∃ w', setParent n fr i w = .ok () w' ∧ Framing w' fr size ∧ w'.parents =
  if n = fr then w.parents else Function.update w.parents n (some fr) := by
 obtain ⟨closed, outside, frame, rfl, known⟩ := framing
 have lies (k : Nat) : w.forest.liesIn n k fr = (fr == n) := by
  cases k <;> simp [Forest.liesIn, outside]
 have step : setParent n fr i w = if fr = n then .ok () w else setNodeField n "parent" fr i w := by
  simp only [setParent, bind, Run.bind, look, frame, lies]
  by_cases same : fr = n <;> simp [same]
  rfl
 rw [step]
 by_cases same : fr = n
 · exact ⟨w, if_pos same, ⟨closed, outside, frame, rfl, known⟩, by rw [if_pos same.symm]⟩
 · rw [if_neg same, if_neg (Ne.symm same)]
   obtain ⟨w', wrote, forest⟩ : ∃ w', setNodeField n "parent" fr i w = .ok () w' ∧
    w'.forest = w.forest.modifyNode n fun x => { x with fields := x.fields.set "parent" fr } := ⟨_, rfl, rfl⟩
   have nodes (m : NodeId) := Forest.node_modifyNode (f := w.forest) (n := n)
    (g := fun x => { x with fields := x.fields.set "parent" fr }) (fun missing => absurd there (by simpa using missing)) m
   have parents : w'.parents = Function.update w.parents n (some fr) := by
    funext m
    by_cases here : m = n
    · subst here
      simp [Forest.parent?, forest, nodes, Fields.get?_set]
    · simp [Forest.parent?, forest, nodes, here]
   refine ⟨w', wrote, ⟨fun a b within => ?_, ?_, by simp [forest, nodes, same, frame],
    by simp [World.extent, forest, Forest.modifyNode], known⟩, parents⟩
   · rw [parents] at within
     by_cases here : a = n
     · obtain rfl : fr = b := by simpa [here] using within
       exact known
     · exact closed a b (by simpa [here] using within)
   · rw [parents, Function.update_of_ne same, outside]

/-- Some nodes lie in the frame, and nothing lies in itself. -/
def Underway (fr : NodeId) (size : Nat) (done : List NodeId) (w : World) : Prop :=
 Framing w fr size ∧ w.parents.Acyclic ∧
  ∀ n ∈ done, TransGen w.parents.Within n fr

/-- One step puts an outermost node into the frame, unless it is that frame. -/
theorem Underway.step (underway : Underway fr size done w) (there : n.index < size) (apart : n ≠ fr) :
 ∃ w', frameAround fr n i w = .ok () w' ∧ Underway fr size (done ++ [n]) w' := by
 obtain ⟨framing, acyclic, inside⟩ := underway
 obtain ⟨r, ran, path, top⟩ := outermost_returns (i := i) (n := n) acyclic nodup_nil (by simp)
  (show w.extent < 0 + (w.extent + 1) by omega)
 have known : r.index < size := by
  rcases path.cases_tail with rfl | ⟨m, -, within⟩
  · exact there
  · exact framing.closed m r within
 obtain ⟨w', wrote, framing', parents⟩ := setParent_framing (i := i) framing known
 refine ⟨w', ?_, framing', ?_⟩
 · rw [frameAround, Run.bind_eq (show look _ i w = .ok w.extent w from rfl), Run.bind_eq ran]
   exact wrote
 · rw [parents]
   split
   next here =>
    subst here
    have last := (reflTransGen_iff_eq_or_transGen.mp path).resolve_left apart.symm
    exact ⟨acyclic, by simpa [or_imp, forall_and] using ⟨inside, last⟩⟩
   next other =>
    have lift {a b : NodeId} (within : w.parents.Within a b) :
     Parents.Within (Function.update w.parents r (some fr)) a b := Parents.within_update top within
    have last : TransGen (Parents.Within (Function.update w.parents r (some fr))) n fr :=
     .tail' (path.lift id fun _ _ => lift) (by simp [Parents.Within])
    refine ⟨acyclic.update framing.outside other, fun m mem => ?_⟩
    rcases mem_append.mp mem with mem | mem
    · exact (inside m mem).lift id fun _ _ => lift
    · exact mem_singleton.mp mem ▸ last

/-- The new frame is behind all other nodes, and lies in nothing. -/
theorem frame_made (closed : ∀ n m, w.parents n = some m → m.index < w.extent) (t : TreeId) :
 ∃ w', newNode t "NodeFrame" i w = .ok ⟨w.extent⟩ w' ∧
  Framing w' ⟨w.extent⟩ (w.extent + 1) ∧ w'.parents = w.parents := by
 obtain ⟨w', made, a, b, frame, nodes, kind, bare⟩ : ∃ w',
  newNode t "NodeFrame" i w = .ok ⟨w.extent⟩ w' ∧ ∃ a b frame, w'.forest.nodes =
   ((w.forest.nodes.push frame).modify w.extent
    fun x => { x with fields := x.fields.set "location" a }).modify w.extent
    (fun x => { x with fields := x.fields.set "dimensions" b }) ∧
   frame.kind = "NodeFrame" ∧ frame.fields = [] :=
  ⟨_, rfl, _, _, _, rfl, rfl, rfl⟩
 have node (n : NodeId) : w'.forest.node n = if n.index = w.extent
  then { frame with fields := [("location", a), ("dimensions", b)] } else w.forest.node n := by
  simp only [Forest.node, nodes, Array.getElem?_modify, Array.getElem?_push, eq_comm (a := n.index)]
  split
  · simp [bare, Fields.set]
  · rfl
 have parents : w'.parents = w.parents := by
  funext n
  cases within : w.parents n with
  | none =>
   by_cases new : n.index = w.extent
   · simp only [World.parents, Forest.parent?, node, if_pos new]
     rfl
   · simpa only [World.parents, Forest.parent?, node, if_neg new] using within
  | some m =>
   have old := Nat.ne_of_lt (World.parents_lt within)
   simpa only [World.parents, Forest.parent?, node, if_neg old] using within
 refine ⟨w', made, ⟨fun n m within => ?_, ?_, by simp [node, kind], by simp [World.extent, nodes], Nat.lt_succ_self _⟩, parents⟩
 · exact Nat.lt_succ_of_lt (closed n m (parents ▸ within))
 · simp [World.parents, Forest.parent?, node]
   rfl

/-- Framing a network ends, nothing lies in itself afterwards, and all its nodes lie in the new frame. -/
theorem network_framed (acyclic : w.parents.Acyclic)
 (closed : ∀ n m, w.parents n = some m → m.index < w.extent)
 (ne : ns ≠ []) (known : ∀ n ∈ ns, n.index < w.extent) :
 ∃ w', frameNetwork ns i w = .ok () w' ∧ w'.parents.Acyclic ∧
  (w'.forest.node ⟨w.extent⟩).kind = "NodeFrame" ∧
  ∀ n ∈ ns, TransGen w'.parents.Within n ⟨w.extent⟩ := by
 obtain ⟨first, rest, rfl⟩ := exists_cons_of_ne_nil ne
 obtain ⟨w₁, made, framing, parents⟩ := frame_made (i := i) closed (w.forest.node first).tree
 obtain ⟨w', ran, framing', acyclic', inside⟩ : ∃ w',
  (first :: rest).forM (frameAround ⟨w.extent⟩) i w₁ = .ok () w' ∧
   Underway ⟨w.extent⟩ (w.extent + 1) (first :: rest) w' := by
  refine Run.forM_returns (Underway _ _) (fun done n _ _ all underway => ?_)
   ⟨framing, parents ▸ acyclic, by simp⟩
  have there := known n (all ▸ by simp)
  exact underway.step (Nat.lt_succ_of_lt there) fun same => Nat.lt_irrefl _ (same ▸ there)
 refine ⟨w', ?_, acyclic', framing'.frame, inside⟩
 rw [frameNetwork, Run.bind_eq (show need _ (first :: rest).head? i w = .ok first w from rfl),
  Run.bind_eq (show first.tree i w = .ok (w.forest.node first).tree w from rfl), Run.bind_eq made]
 exact ran

/-- Two nodes in one frame, which lies in another one. -/
def sharedFrame : World where
 forest :=
  let node (kind : String) (fields : Fields) : Node := { tree := ⟨0⟩, kind, name := "", fields }
  { nodes := #[node "an_CombineColorNode" [("parent", .node ⟨2⟩)],
     node "an_CombineColorNode" [("parent", .node ⟨2⟩)],
     node "NodeFrame" [("parent", .node ⟨3⟩)], node "NodeFrame" []] }

theorem sharedFrame_framed : ∃ w',
 frameNetwork [⟨0⟩, ⟨1⟩] (({} : Catalogue).interface 1) sharedFrame = .ok () w' ∧
 w'.parents.Acyclic ∧ TransGen w'.parents.Within ⟨1⟩ ⟨4⟩ := by
 have upward {n m : NodeId} (within : sharedFrame.parents n = some m) : n.index < m.index ∧ m.index < 4 := by
  rcases n with ⟨_ | _ | _ | _ | n⟩ <;> cases within <;> decide
 have acyclic : sharedFrame.parents.Acyclic := by
  have up {n m : NodeId} (path : TransGen sharedFrame.parents.Within n m) : n.index < m.index := by
   induction path with
   | single within => exact (upward within).1
   | tail _ within ih => exact Nat.lt_trans ih (upward within).1
  exact fun n circle => Nat.lt_irrefl _ (up circle)
 obtain ⟨w', ran, acyclic', -, inside⟩ := network_framed acyclic (fun n m within => (upward within).2)
  (show [(⟨0⟩ : NodeId), ⟨1⟩] ≠ [] by simp) (by decide)
 exact ⟨w', ran, acyclic', inside ⟨1⟩ (by simp)⟩

end AnimationGraph
