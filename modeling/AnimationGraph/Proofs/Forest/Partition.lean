import AnimationGraph.Proofs.Forest.Needed
import AnimationGraph.Proofs.Forest.Types
import Mathlib.Data.List.Pairwise

/-! # How networks part the nodes

A group holds what links lead to from one of its nodes.  The groups have no nodes in common, and they stay whole when
those that name the same subprogram make one network.
-/

namespace AnimationGraph

open List
open Relation (ReflTransGen)

namespace Outline

variable {o : Outline}

def Connected (o : Outline) : NodeKey → NodeKey → Prop := ReflTransGen o.Joined

theorem Connected.symm (way : o.Connected m n) : o.Connected n m := by
 induction way with
 | refl => exact .refl
 | tail _ step ih =>
  obtain ⟨l, isLink, ends⟩ := step
  exact ih.head ⟨l, isLink, ends.symm⟩

end Outline

namespace Network

variable {o : Outline} {a : Analysis}

def Apart (m n : Network) : Prop := m.members.Disjoint n.members

instance : Std.Symm Apart := ⟨fun _ _ apart _ first second => apart second first⟩

theorem roles_ofMembers (members : List NodeKey) (joined : Bool) :
  let n := ofMembers a members joined
  n.scripts = a.withRole .script members ∧ n.groupInputs = a.withRole .groupInput members ∧
   n.loopInputs = a.withRole .loopInput members := by
 rcases ofMembers_cases a members joined with same | ⟨_, owner, same⟩ <;> rw [same] <;> exact ⟨rfl, rfl, rfl⟩

section

variable (wf : o.WellFormed) (tells : a.Tells o.nodes o.links)

include wf tells

/-- A group holds what links lead to from one node. -/
theorem mem_closure_iff (isNode : n ∈ a.nodes) : k ∈ closure a n ↔ o.Connected n k := by
 rw [mem_closure (neighbours_inside wf tells) isNode, Outline.Connected]
 simp only [mem_neighbours wf tells]

/-- The groups have no nodes in common, and each holds what links lead to from one of its nodes. -/
structure Parted (o : Outline) (groups : List (List NodeKey)) : Prop where
 disjoint : groups.Pairwise List.Disjoint
 linked : ∀ g ∈ groups, ∀ m ∈ g, ∀ n, n ∈ g ↔ o.Connected m n

theorem components_parted : Parted o (components a) ∧ a.nodes ⊆ (components a).flatten := by
 suffices every : ∀ (nodes : List NodeKey) (groups : List (List NodeKey)), nodes ⊆ a.nodes →
   Parted o groups → ∃ more, nodes.foldl (addComponent a) (groups, groups.flatten) =
    (groups ++ more, (groups ++ more).flatten) ∧ Parted o (groups ++ more) ∧ nodes ⊆ (groups ++ more).flatten by
  obtain ⟨groups, final, parted, covers⟩ := every _ [] (List.Subset.refl _) ⟨by simp, by simp⟩
  rw [show components _ = groups from congrArg Prod.fst final]
  exact ⟨parted, covers⟩
 intro nodes
 induction nodes with
 | nil => exact fun groups _ parted => ⟨[], by simpa using parted⟩
 | cons n nodes ih =>
  intro groups inside parted
  have isNode := inside mem_cons_self
  have inside : nodes ⊆ _ := fun k mem => inside (mem_cons_of_mem _ mem)
  rw [foldl_cons, addComponent]
  split
  · rename_i seen
    obtain ⟨more, final, parted, covers⟩ := ih groups inside parted
    exact ⟨more, final, parted, by grind⟩
  · rename_i new
    have group k := mem_closure_iff wf tells (k := k) isNode
    generalize closure _ n = g at group ⊢
    have extended : Parted o (groups ++ [g]) := by
     refine ⟨pairwise_append.mpr ⟨parted.disjoint, pairwise_singleton _ _, ?_⟩, ?_⟩
     · intro h isGroup _ isNew k mem found
       obtain rfl := mem_singleton.mp isNew
       -- a node in common would have brought the new node into the older group
       have way := ((parted.linked h isGroup k mem n).mpr ((group k).mp found).symm)
       exact new (by simpa using ⟨h, isGroup, way⟩)
     · intro h isGroup m mem j
       rcases mem_append.mp isGroup with old | isNew
       · exact parted.linked h old m mem j
       · obtain rfl := mem_singleton.mp isNew
         have way := (group m).mp mem
         exact (group j).trans ⟨way.symm.trans, way.trans⟩
    obtain ⟨more, final, parted, covers⟩ := ih (groups ++ [g]) inside extended
    refine ⟨g :: more, by simpa using final, by simpa using parted, ?_⟩
    have here := (group n).mpr .refl
    grind

theorem fragments_apart : (fragments a).Pairwise Apart := by
 rw [fragments, pairwise_map]
 simpa [Apart] using (components_parted wf tells).1.disjoint.filter _

omit wf in
theorem script_unique (unique : ((o.nodes.filter (·.isAnimated)).map (·.identifier)).Nodup) (first : a.roleOf m = some .script)
  (second : a.roleOf n = some .script) (same : a.identifierOf m = a.identifierOf n) : m = n := by
 obtain ⟨p, known, role⟩ := Option.map_eq_some_iff.mp first
 obtain ⟨q, known', role'⟩ := Option.map_eq_some_iff.mp second
 obtain ⟨isNode, rfl⟩ := (tells.outlines m p).mp known
 obtain ⟨isNode', rfl⟩ := (tells.outlines n q).mp known'
 have listed {p : NodeOutline} (isNode : p ∈ o.nodes) (role : p.role = .script) : p ∈ o.nodes.filter (·.isAnimated) :=
  mem_filter.mpr ⟨isNode, by simp [NodeOutline.isAnimated, role]⟩
 simp only [Analysis.identifierOf, known, known', Option.map_some, Option.getD_some] at same
 rw [inj_on_of_nodup_map unique (listed isNode role) (listed isNode' role') same]

/-- Fragments that name one subprogram make a network that names it, or none. -/
theorem name_of_joined (unique : ((o.nodes.filter (·.isAnimated)).map (·.identifier)).Nodup)
  (named : (ofMembers a (((fragments a).filter (·.identifier == some s)).flatMap (·.members)) true).identifier = some x) :
  x = s := by
 have apart := (fragments_apart wf tells).filter (·.identifier == some s)
 have fragment p (isPart : p ∈ (fragments a).filter (·.identifier == some s)) := mem_filter.mp isPart
 generalize (fragments a).filter (·.identifier == some s) = parts at *
 -- a fragment names the subprogram by its only script, or else by another node
 have own p (isPart : p ∈ parts) : (∃ k, a.withRole .script p.members = [k] ∧ a.identifierOf k = s) ∨
   (a.withRole .script p.members).length ≠ 1 ∧ ∃ k ∈ p.members, mark a k = some s := by
  obtain ⟨isFragment, name⟩ := fragment p isPart
  obtain ⟨g, _, rfl⟩ := mem_map.mp isFragment
  have := marks_of_named (beq_iff_eq.mp name)
  rw [(roles_ofMembers ..).1] at this
  rw [members_ofMembers]
  exact this.imp_right fun marked => ⟨marked.1, marked.2.1⟩
 have joint : a.withRole .script (parts.flatMap (·.members)) = parts.flatMap (a.withRole .script ·.members) := filter_flatMap ..
 have marks := marks_of_named named
 rw [(roles_ofMembers ..).1, joint] at marks
 rcases marks with ⟨k, single, name⟩ | ⟨several, ⟨k, mem, marked⟩, same⟩
 · obtain ⟨p, isPart, found⟩ := mem_flatMap.mp (single ▸ mem_singleton_self k)
   rcases own p isPart with ⟨j, single', name'⟩ | ⟨several, _⟩
   · grind
   · have few : a.withRole .script p.members <+ [k] := single ▸ sublist_flatten_of_mem (mem_map_of_mem isPart)
     rcases sublist_singleton.mp few with none | one <;> grind
 · by_contra differ
   have own p (isPart : p ∈ parts) : ∃ k, a.withRole .script p.members = [k] ∧ a.identifierOf k = s := by
    refine (own p isPart).resolve_right fun ⟨_, j, mem, marked⟩ => differ ?_
    exact (same j (mem_flatMap.mpr ⟨p, isPart, mem⟩) s marked).symm
   rcases parts with _ | ⟨p, _ | ⟨q, _⟩⟩
   · simp at mem
   · obtain ⟨j, single, _⟩ := own p mem_cons_self
     exact several (by simp [single])
   · obtain ⟨j, single, name⟩ := own p mem_cons_self
     obtain ⟨j', single', name'⟩ := own q (mem_cons_of_mem _ mem_cons_self)
     obtain ⟨first, isScript⟩ := mem_filter.mp (single ▸ mem_singleton_self j)
     obtain ⟨second, isScript'⟩ := mem_filter.mp (single' ▸ mem_singleton_self j')
     obtain rfl := script_unique tells unique (beq_iff_eq.mp isScript) (beq_iff_eq.mp isScript') (name.trans name'.symm)
     exact (pairwise_cons.mp apart).1 q mem_cons_self first second

end

/-- No two networks have the same identifier, and that of a subprogram is the one of the only node that can own it. -/
theorem identifiers_unambiguous (o : Outline) (wf : o.WellFormed)
  (unique : ((o.nodes.filter (·.isAnimated)).map (·.identifier)).Nodup) : let s := Survey.ofOutline o
  s.networks.Pairwise (fun m n => m.identifier = none ∨ m.identifier ≠ n.identifier) ∧
  ∀ n ∈ s.networks, ∀ r, (n.type, r) ∈ [(.group, .groupInput), (.loop, .loopInput), (.script, .script)] →
   ∃ k, s.tables.withRole r n.members = [k] ∧ n.identifier = some (s.tables.identifierOf k) := by
 simp only [Survey.ofOutline]
 have tells := Analysis.tells_ofOutline wf
 generalize Analysis.ofOutline o = a at *
 constructor
 · obtain ⟨distinct, groups, _⟩ := byIdentifier_spec (fragments a)
   have name {g : Option String × List Network} (isGroup : g ∈ byIdentifier (fragments a)) {n : Network}
     (mem : n ∈ merged a g) : n.identifier = none ∨ n.identifier = g.1 := by
    obtain ⟨_ | s, networks⟩ := g
    · obtain rfl := groups none networks isGroup
      exact .inl (beq_iff_eq.mp (mem_filter.mp mem).2)
    · obtain rfl := groups (some s) networks isGroup
      obtain rfl := mem_singleton.mp mem
      refine (Option.eq_none_or_eq_some _).imp_right fun ⟨x, named⟩ => ?_
      rw [named, name_of_joined wf tells unique named]
   refine pairwise_flatMap.mpr ⟨?_, distinct.imp_of_mem ?_⟩
   · rintro ⟨_ | s, networks⟩ isGroup
     · exact pairwise_of_forall_mem_list fun m mem n _ => .inl (by simpa using name isGroup mem)
     · exact pairwise_singleton _ _
   · intro g h isGroup isGroup' differ m mem n mem'
     have := name isGroup mem
     have := name isGroup' mem'
     grind
 · intro n isNetwork r kind
   obtain ⟨members, joined, rfl⟩ := exists_ofMembers isNetwork
   obtain ⟨scripts, groupInputs, loopInputs⟩ := roles_ofMembers (a := a) members joined
   rw [members_ofMembers]
   rcases ofMembers_spec a members joined with ⟨k, t, owner, named, type⟩ | ⟨type, _⟩
   · refine ⟨k, ?_, named⟩
     cases t <;> simp only [Owner] at owner <;> grind
   · grind

theorem twoGroups_unambiguous : (Survey.twoGroups "").WellFormed ∧
  (Survey.ofOutline (Survey.twoGroups "")).networks.Pairwise (fun m n => m.identifier = none ∨ m.identifier ≠ n.identifier) ∧
  (Survey.ofOutline (Survey.twoGroups "")).networks.map (·.identifier) = [some "a", some "b"] := by
 have wf : (Survey.twoGroups "").WellFormed := by constructor <;> decide +kernel
 exact ⟨wf, (identifiers_unambiguous _ wf (by decide +kernel)).1, by decide +kernel⟩

end Network

end AnimationGraph
