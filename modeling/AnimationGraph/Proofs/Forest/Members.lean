import AnimationGraph.Proofs.Forest.Reroutes
import AnimationGraph.Proofs.Forest.Search
import Mathlib.Data.List.Induction

/-! # Members of networks

Links do not leave a network: what a member is linked with is a member, and so is every node that feeds a
member through reroutes.
-/

namespace AnimationGraph

def Outline.Joined (o : Outline) (m n : NodeKey) : Prop :=
 ∃ l ∈ o.links, l.1.node = m ∧ l.2.node = n ∨ l.1.node = n ∧ l.2.node = m

namespace Network

open List Relation

/-- Links lead from these nodes only to nodes among them. -/
structure Enclosed (a : Analysis) (members : List NodeKey) : Prop where
 known : members ⊆ a.nodes
 closed : ∀ n ∈ members, neighbours a n ⊆ members

variable {a : Analysis}

theorem mem_closure (known : ∀ n, neighbours a n ⊆ a.nodes) (isNode : n ∈ a.nodes) :
  k ∈ closure a n ↔ ReflTransGen (fun m k => k ∈ neighbours a m) n k := by
 refine mem_sortedSet.trans ((mem_reachedFrom _ (fun k path => ?_) (Nat.lt_succ_self _)).2 k)
 cases path with
 | refl => exact isNode
 | tail _ leads => exact known _ leads

theorem components_enclosed (known : ∀ n, neighbours a n ⊆ a.nodes) : ∀ group ∈ components a, Enclosed a group := by
 have one n (isNode : n ∈ a.nodes) : Enclosed a (closure a n) := by
  refine ⟨fun k mem => ?_, fun m mem k leads => ?_⟩
  · cases (mem_closure known isNode).mp mem with
    | refl => exact isNode
    | tail _ leads => exact known _ leads
  · exact (mem_closure known isNode).mpr (((mem_closure known isNode).mp mem).tail leads)
 suffices every : ∀ (nodes : List NodeKey) (state : List (List NodeKey) × List NodeKey), nodes ⊆ a.nodes →
   (∀ group ∈ state.1, Enclosed a group) → ∀ group ∈ (nodes.foldl (addComponent a) state).1, Enclosed a group by
  exact every a.nodes ([], []) (List.Subset.refl _) (by simp)
 intro nodes
 induction nodes with
 | nil => exact fun _ _ before => before
 | cons n nodes ih =>
  intro state inside before
  refine ih _ (fun k mem => inside (mem_cons_of_mem _ mem)) ?_
  have := one n (inside mem_cons_self)
  grind [addComponent]

theorem ofMembers_cases (a : Analysis) (members : List NodeKey) (joined : Bool) :
  ofMembers a members joined = draft a members joined ∨
   (draft a members joined).owner?.isSome ∧ ∃ owner, ofMembers a members joined = (draft a members joined).ownedBy owner := by
 cases owner : (draft a members joined).owner?.bind (a.outlineOf[·]?) with
 | none => exact .inl (by simp only [ofMembers, owner, Option.elim])
 | some o =>
  have owned := (Option.bind_eq_some_iff.mp owner).imp fun _ => And.left
  exact .inr ⟨Option.isSome_iff_exists.mpr owned, o, by simp only [ofMembers, owner, Option.elim]⟩

@[simp] theorem members_ofMembers (members : List NodeKey) (joined : Bool) : (ofMembers a members joined).members = members := by
 rcases ofMembers_cases a members joined with same | ⟨_, owner, same⟩ <;> rw [same] <;> rfl

theorem byIdentifier_spec (networks : List Network) : (byIdentifier networks).Pairwise (·.1 ≠ ·.1) ∧
  (∀ s group, (s, group) ∈ byIdentifier networks → group = networks.filter (·.identifier == s)) ∧
  ∀ n ∈ networks, ∃ g ∈ byIdentifier networks, g.1 = n.identifier := by
 induction networks using reverseRecOn with
 | nil => simp [byIdentifier]
 | append_singleton networks n ih =>
  obtain ⟨distinct, groups, covers⟩ := ih
  have step : byIdentifier (networks ++ [n]) = joinNetwork (byIdentifier networks) n := by simp [byIdentifier]
  rw [step, joinNetwork]
  split
  · refine ⟨pairwise_map.mpr (distinct.imp ?_), ?_, ?_⟩ <;> simp at * <;> grind
  · have first : networks.filter (·.identifier == n.identifier) = [] := filter_eq_nil_iff.mpr (by simp at *; grind)
    refine ⟨pairwise_append.mpr ⟨distinct, ?_⟩, fun s group isGroup => ?_, ?_⟩
    · simp at *; grind
    · rw [filter_append]
      grind
    · simp at *; grind
theorem members_of_mem_merged (mem : n ∈ merged a g) :
  ∃ networks, networks ⊆ g.2 ∧ n.members = networks.flatMap (·.members) := by
 obtain ⟨_ | s, networks⟩ := g
 · exact ⟨[n], by simpa [merged] using mem, by simp⟩
 · obtain rfl := mem_singleton.mp mem
   exact ⟨networks, List.Subset.refl _, members_ofMembers ..⟩

theorem exists_ofMembers (isNetwork : n ∈ all a) : ∃ members joined, n = ofMembers a members joined := by
 obtain ⟨⟨_ | s, networks⟩, isGroup, mem⟩ := mem_flatMap.mp isNetwork
 · obtain rfl := (byIdentifier_spec _).2.1 none networks isGroup
   obtain ⟨members, _, rfl⟩ := mem_map.mp (mem_filter.mp mem).1
   exact ⟨members, false, rfl⟩
 · exact ⟨_, true, mem_singleton.mp mem⟩

theorem all_enclosed (known : ∀ n, neighbours a n ⊆ a.nodes) (isNetwork : n ∈ all a) : Enclosed a n.members := by
 obtain ⟨g, isGroup, mem⟩ := mem_flatMap.mp isNetwork
 obtain ⟨networks, inside, members⟩ := members_of_mem_merged mem
 have parts p (isPart : p ∈ networks) : Enclosed a p.members := by
  have isFragment := inside isPart
  rw [(byIdentifier_spec _).2.1 g.1 g.2 isGroup] at isFragment
  obtain ⟨group, isGroup, rfl⟩ := mem_map.mp (mem_filter.mp isFragment).1
  rw [members_ofMembers]
  exact components_enclosed known group (mem_filter.mp isGroup).1
 rw [members]
 refine ⟨fun k found => ?_, fun k found j isNeighbour => ?_⟩
 · obtain ⟨p, isPart, found⟩ := mem_flatMap.mp found
   exact (parts p isPart).known found
 · obtain ⟨p, isPart, found⟩ := mem_flatMap.mp found
   exact mem_flatMap.mpr ⟨p, isPart, (parts p isPart).closed k found isNeighbour⟩

section

variable {o : Outline} (wf : o.WellFormed) (tells : a.Tells o.nodes o.links)

include wf tells

theorem mem_neighbours : k ∈ neighbours a n ↔ o.Joined n k := by
 have ends := fun {l} => wf.ends (l := l)
 simp only [neighbours, mem_flatMap, mem_map, Analysis.mem_sockets tells, Analysis.mem_direct tells, Outline.Joined]
 constructor
 · grind
 · rintro ⟨l, isLink, ⟨rfl, rfl⟩ | ⟨rfl, rfl⟩⟩
   · exact ⟨l.1, ⟨(ends isLink).1.1, rfl⟩, l.2, .inl isLink, rfl⟩
   · exact ⟨l.2, ⟨(ends isLink).2.1, rfl⟩, l.1, .inr isLink, rfl⟩

theorem neighbours_inside (n : NodeKey) : neighbours a n ⊆ a.nodes := by
 have ends := fun {l} => wf.ends (l := l)
 intro k mem
 obtain ⟨l, isLink, _⟩ := (mem_neighbours wf tells).mp mem
 rw [tells.keys]
 grind [Outline.IsSocket]

omit tells

theorem neighbours_known : ∀ n, neighbours (Analysis.ofOutline o) n ⊆ (Analysis.ofOutline o).nodes :=
 neighbours_inside wf (Analysis.tells_ofOutline wf)

theorem Enclosed.of_chain {members : List NodeKey} (enclosed : Enclosed (Analysis.ofOutline o) members) (chain : o.Chain k s t) (mem : t.node ∈ members) : s.node ∈ members := by
 have one {s t : SocketKey} (isLink : (s, t) ∈ o.links) (mem : t.node ∈ members) : s.node ∈ members :=
  enclosed.closed t.node mem ((mem_neighbours wf (Analysis.tells_ofOutline wf)).mpr ⟨_, isLink, .inr ⟨rfl, rfl⟩⟩)
 induction chain with
 | link isLink => exact one isLink mem
 | reroute isNode kind isInput isOutput chain isLink ih =>
  refine ih ?_
  have := one isLink mem
  obtain ⟨_, _, rfl⟩ := mem_map.mp isInput
  obtain ⟨_, _, rfl⟩ := mem_map.mp isOutput
  exact this

end
end Network
end AnimationGraph
