import AnimationGraph.Proofs.Forest.Keys
import Mathlib.Data.List.Nodup
import Mathlib.Data.List.Perm.Subperm
import Mathlib.Tactic.MkIffOfInductiveProp

/-! # Tables of an outline

What the tables of an analysis say about the outline they were made from: which nodes there are, and which
sockets are linked, directly or through chains of reroutes.
-/

namespace AnimationGraph

open List

namespace Outline

def links (o : Outline) : List (SocketKey × SocketKey) := o.flatMap (·.links)

/-- What holds of the outline of a forest: keys are distinct, links lead from outputs to inputs, an input
takes one link, and a reroute has one socket on each side. -/
@[mk_iff] structure WellFormed (o : Outline) : Prop where
 keys : (o.nodes.map (·.key)).Nodup
 origins : ∀ l ∈ o.links, ∃ n ∈ o.nodes, l.1 ∈ n.outputKeys
 targets : ∀ l ∈ o.links, ∃ n ∈ o.nodes, l.2 ∈ n.inputKeys
 single : (o.links.map (·.2)).Nodup
 reroutes : ∀ n ∈ o.nodes, n.kind = "NodeReroute" → n.inputs.length = 1 ∧ n.outputs.length = 1

def IsReroute (o : Outline) (k : NodeKey) : Prop := ∃ n ∈ o.nodes, n.kind = "NodeReroute" ∧ n.key = k

/-- A chain of links that leads from an output to an input, through a number of reroutes. -/
inductive Chain (o : Outline) : Nat → SocketKey → SocketKey → Prop
 | link {s t : SocketKey} : (s, t) ∈ o.links → Chain o 0 s t
 | reroute {k : Nat} {s i j t : SocketKey} {n : NodeOutline} : n ∈ o.nodes → n.kind = "NodeReroute" →
   i ∈ n.inputKeys → j ∈ n.outputKeys → Chain o k s i → (j, t) ∈ o.links → Chain o (k + 1) s t

/-- An output of the first node leads to an input of the second one; neither of them is a reroute. -/
def Feeds (o : Outline) (m n : NodeKey) : Prop :=
 ¬ o.IsReroute m ∧ ¬ o.IsReroute n ∧ ∃ k s t, o.Chain k s t ∧ s.node = m ∧ t.node = n

def IsSocket (o : Outline) (x : SocketKey) : Prop :=
 ∃ n ∈ o.nodes, n.key = x.node ∧ x ∈ if x.isOutput then n.outputKeys else n.inputKeys

theorem WellFormed.ends {o : Outline} (wf : o.WellFormed) (isLink : l ∈ o.links) :
  (o.IsSocket l.1 ∧ l.1.isOutput = true) ∧ o.IsSocket l.2 ∧ l.2.isOutput = false := by
 obtain ⟨n, isNode, isOutput⟩ := wf.origins l isLink
 obtain ⟨m, isNode', isInput⟩ := wf.targets l isLink
 cases l
 obtain ⟨_, _, rfl⟩ := mem_map.mp isOutput
 obtain ⟨_, _, rfl⟩ := mem_map.mp isInput
 exact ⟨⟨⟨n, isNode, rfl, isOutput⟩, rfl⟩, ⟨m, isNode', rfl, isInput⟩, rfl⟩

end Outline

namespace Analysis

def otherEnds (s : SocketKey) (l : SocketKey × SocketKey) : List SocketKey :=
 (if l.1 = s then [l.2] else []) ++ if l.2 = s then [l.1] else []

/-- The tables tell about these nodes and links. -/
structure Tells (a : Analysis) (nodes : List NodeOutline) (links : List (SocketKey × SocketKey)) : Prop where
 keys : a.nodes = nodes.map (·.key)
 outlines : ∀ k n, a.outlineOf[k]? = some n ↔ n ∈ nodes ∧ n.key = k
 kinds : ∀ kind k, k ∈ a.nodesOfKind kind ↔ ∃ n ∈ nodes, n.kind = kind ∧ n.key = k
 direct : ∀ s, a.directlyLinked s = links.flatMap (otherEnds s)

variable {a : Analysis} {nodes : List NodeOutline}

theorem tells_nothing : Tells {} [] [] := by
 constructor <;> simp [nodesOfKind, directlyLinked]

theorem Tells.putNode (tells : a.Tells nodes links) (new : n.key ∉ nodes.map (·.key)) :
  (a.putNode n).Tells (nodes ++ [n]) links where
 keys := by simp [Analysis.putNode, tells.keys]
 outlines k m := by
  simp only [Analysis.putNode, Std.TreeMap.getElem?_insert, Std.LawfulEqOrd.compare_eq_iff_eq]
  have := tells.outlines k m
  grind
 kinds kind k := by
  have := tells.kinds kind k
  simp only [Analysis.putNode, nodesOfKind, Std.TreeMap.getD_insert, Std.LawfulEqOrd.compare_eq_iff_eq] at *
  split
  · rename_i same
    subst same
    simp only [mem_insertSorted]
    grind
  · grind
 direct := tells.direct

theorem Tells.insertLink (tells : a.Tells nodes links) (l : SocketKey × SocketKey) :
  (a.insertLink l).Tells nodes (links ++ [l]) where
 keys := tells.keys
 outlines := tells.outlines
 kinds := tells.kinds
 direct s := by
  have := tells.direct s
  simp only [Analysis.insertLink, directlyLinked, Std.TreeMap.getD_insert, Std.LawfulEqOrd.compare_eq_iff_eq,
   flatMap_append, flatMap_singleton, otherEnds] at *
  grind

theorem Tells.putNodes (tells : a.Tells nodes links) (keys : ((nodes ++ ns).map (·.key)).Nodup) :
  (ns.foldl Analysis.putNode a).Tells (nodes ++ ns) links := by
 induction ns generalizing a nodes with
 | nil => simpa using tells
 | cons n ns ih =>
  rw [append_cons] at keys ⊢
  exact ih (tells.putNode (by grind)) keys

theorem Tells.insertLinks (tells : a.Tells nodes links) (ls : List (SocketKey × SocketKey)) :
  (ls.foldl Analysis.insertLink a).Tells nodes (links ++ ls) := by
 induction ls generalizing a links with
 | nil => simpa using tells
 | cons l ls ih =>
  rw [append_cons]
  exact ih (tells.insertLink l)

theorem Tells.putTrees {o : Outline} (tells : a.Tells nodes links) (keys : ((nodes ++ o.nodes).map (·.key)).Nodup) :
  (o.foldl putTree a).Tells (nodes ++ o.nodes) (links ++ o.links) := by
 induction o generalizing a nodes links with
 | nil => simpa [Outline.nodes, Outline.links] using tells
 | cons t o ih =>
  have split : nodes ++ Outline.nodes (t :: o) = nodes ++ t.nodes ++ Outline.nodes o := by simp [Outline.nodes]
  have split' : links ++ Outline.links (t :: o) = links ++ t.links ++ Outline.links o := by simp [Outline.links]
  rw [split] at keys ⊢
  rw [split']
  exact ih ((tells.putNodes (by grind)).insertLinks t.links) keys

section

variable {o : Outline} (wf : o.WellFormed) (tells : a.Tells o.nodes o.links)

include tells

theorem isReroute_iff : a.isReroute k = true ↔ o.IsReroute k := by
 simp only [isReroute, contains_iff_mem]
 exact tells.kinds "NodeReroute" k

theorem mem_inputs : t ∈ a.inputs k ↔ (o.IsSocket t ∧ t.isOutput = false) ∧ t.node = k := by
 have outlines := tells.outlines k
 cases found : a.outlineOf[k]? <;> simp [inputs, found, Outline.IsSocket, NodeOutline.inputKeys] at outlines ⊢ <;> grind

theorem mem_sockets : t ∈ a.inputs k ++ a.outputs k ↔ o.IsSocket t ∧ t.node = k := by
 have outlines := tells.outlines k
 cases found : a.outlineOf[k]? <;>
  simp [inputs, outputs, found, Outline.IsSocket, NodeOutline.inputKeys, NodeOutline.outputKeys] at outlines ⊢ <;> grind

theorem mem_direct {x : SocketKey} : x ∈ a.directlyLinked s ↔ (s, x) ∈ o.links ∨ (x, s) ∈ o.links := by
 simp only [tells.direct, mem_flatMap, otherEnds]
 grind

include wf

theorem direct_nodup (isOutput : s.isOutput = true) : (a.directlyLinked s).Nodup := by
 have ends := fun {l} => wf.ends (l := l)
 rw [tells.direct, nodup_flatMap]
 refine ⟨?_, (pairwise_map.mp wf.single).imp_of_mem fun first second differ x here there => ?_⟩
 all_goals grind [otherEnds]

theorem direct_single (isInput : s.isOutput = false) : (a.directlyLinked s).Pairwise fun _ _ => False := by
 have ends := fun {l} => wf.ends (l := l)
 rw [tells.direct, pairwise_flatMap]
 refine ⟨?_, (pairwise_map.mp wf.single).imp_of_mem fun first second differ x here y there => ?_⟩
 all_goals grind [otherEnds]

omit wf tells in
theorem linkedSockets_resolve (s : SocketKey) : a.resolve.linkedSockets s =
  if s ∈ a.sockets then a.followed s else [] := by
 suffices every : ∀ (sockets : List SocketKey) (t : Std.TreeMap SocketKey (List SocketKey)),
   (sockets.foldl (fun t s => t.insert s (a.followed s)) t).getD s [] = if s ∈ sockets then a.followed s else t.getD s [] by
  simpa [resolve, linkedSockets] using every _ {}
 intro sockets
 induction sockets with
 | nil => simp
 | cons x sockets ih =>
  intro t
  simp only [foldl_cons, ih, Std.TreeMap.getD_insert, Std.LawfulEqOrd.compare_eq_iff_eq]
  grind

end

variable {o : Outline} (wf : o.WellFormed)

include wf

theorem tells_inserted : (o.foldl putTree {}).Tells o.nodes o.links := tells_nothing.putTrees wf.keys

theorem tells_ofOutline : (ofOutline o).Tells o.nodes o.links :=
 have tells := tells_inserted wf
 ⟨tells.keys, tells.outlines, tells.kinds, tells.direct⟩

end Analysis
end AnimationGraph
