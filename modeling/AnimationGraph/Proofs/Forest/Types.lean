import AnimationGraph.Proofs.Forest.Members

/-! # Types of networks

A subprogram has an owner, which gives it its type and its identifier.  A network without an owner can still name the
subprogram that it belongs to.
-/

namespace AnimationGraph.Network

open List

variable {a : Analysis} {k : NodeKey}

def structural (n : Network) : List NodeKey := n.groupInputs ++ n.groupOutputs ++ (n.loopInputs ++ n.parts) ++ n.scripts

/-- A node owns a network as a subprogram of a type. -/
def Owner (a : Analysis) (n : Network) (k : NodeKey) : NetworkType → Prop
 | .script => n.scripts = [k]
 | .group => n.scripts.length ≠ 1 ∧ n.groupInputs = [k] ∧ n.groupOutputs.length ≤ 1 ∧
   (∀ out ∈ n.groupOutputs, a.referenceOf out = a.identifierOf k) ∧ n.loopInputs ++ n.parts = []
 | .loop => n.scripts.length ≠ 1 ∧ n.loopInputs = [k] ∧ (∀ p ∈ n.parts, a.referenceOf p = a.identifierOf k) ∧
   n.groupInputs ++ n.groupOutputs = []
 | _ => False

/-- A network without an owner names the subprogram that it belongs to. -/
def Names (a : Analysis) (n : Network) (s : String) : Prop :=
 n.scripts.length ≠ 1 ∧ n.groupInputs ++ n.loopInputs = [] ∧ n.groupOutputs ++ n.parts ≠ [] ∧
  ∀ p ∈ n.groupOutputs ++ n.parts, a.referenceOf p = s

/-- What can be told of a network: its type, and the identifier that it names. -/
inductive Classified (a : Analysis) (n : Network) : NetworkType × Option String → Prop
 | main : n.structural = [] → Classified a n (.main, none)
 | owned {t : NetworkType} {k : NodeKey} : n.Owner a k t → Classified a n (t, none)
 | named {s : String} : n.Names a s → Classified a n (.invalid, some s)
 | invalid : Classified a n (.invalid, none)

theorem mem_distinct : x ∈ distinct xs ↔ x ∈ xs := by
 suffices every : ∀ acc : List String, x ∈ xs.foldl (fun acc a => if acc.contains a then acc else acc ++ [a]) acc ↔
   x ∈ acc ∨ x ∈ xs by
  simpa [distinct] using every []
 induction xs with
 | nil => simp
 | cons y xs ih =>
  intro acc
  rw [foldl_cons, ih]
  grind

theorem classified (a : Analysis) (n : Network) : Classified a n (n.classify a) := by
 unfold classify
 simp only [beq_iff_eq, ← length_append, length_eq_zero_iff]
 split
 · exact .main ‹_›
 split
 · obtain ⟨k, single⟩ := length_eq_one_iff.mp ‹_›
   exact .owned (t := .script) single
 rename_i several
 split
 · split
   · split
     · exact .invalid
     · exact .named ⟨several, by simp_all, by simp_all, by simp_all⟩
   · exact .owned (t := .group) ⟨several, ‹_›, by simp_all, by simp_all, ‹_›⟩
   · split
     · exact .owned (t := .group) ⟨several, ‹_›, by simp_all, by simp_all, ‹_›⟩
     · exact .invalid
   · exact .invalid
 split
 · have listed : ∀ p ∈ n.parts, a.referenceOf p ∈ distinct (n.parts.map a.referenceOf) := fun p mem =>
    mem_distinct.mpr (mem_map_of_mem mem)
   split
   · have some? : n.parts ≠ [] := fun none => by simp_all
     exact .named ⟨several, by simp_all, by simp_all, by simp_all⟩
   · exact .owned (t := .loop) ⟨several, ‹_›, by simp_all, ‹_›⟩
   · split
     · exact .owned (t := .loop) ⟨several, ‹_›, by simp_all, ‹_›⟩
     · exact .invalid
   · exact .invalid
 · exact .invalid

variable {members : List NodeKey} {joined : Bool}

theorem known_of_owner (owner : (collect a members joined).Owner a k t) : ∃ o, a.outlineOf[k]? = some o := by
 have role : ∃ r, k ∈ a.withRole r members := by
  cases t <;> simp only [Owner] at owner
  case script => exact ⟨.script, (congrArg (k ∈ ·) owner).mpr (mem_singleton_self k)⟩
  case group => exact ⟨.groupInput, (congrArg (k ∈ ·) owner.2.1).mpr (mem_singleton_self k)⟩
  case loop => exact ⟨.loopInput, (congrArg (k ∈ ·) owner.2.1).mpr (mem_singleton_self k)⟩
 obtain ⟨r, mem⟩ := role
 obtain ⟨o, known, _⟩ := Option.map_eq_some_iff.mp (beq_iff_eq.mp (mem_filter.mp mem).2)
 exact ⟨o, known⟩

/-- A network has an owner, which it may invoke, or it has none and is no subprogram. -/
theorem ofMembers_spec (a : Analysis) (members : List NodeKey) (joined : Bool) :
  let n := ofMembers a members joined
  (∃ k t, n.Owner a k t ∧ n.identifier = some (a.identifierOf k) ∧
   n.type = if a.identifierOf k ∈ n.references then .invalid else t) ∨
  (n.type = .main ∧ n.structural = [] ∨ n.type = .invalid) ∧ ∀ s, n.identifier = some s → n.Names a s := by
 have spec := classified a (collect a members joined)
 generalize shape : (collect a members joined).classify a = r at spec
 cases spec with
 | @owned t k owner =>
  obtain ⟨o, known⟩ := known_of_owner owner
  have isOwner : (draft a members joined).owner? = some k := by
   cases t <;> simp_all [Owner, draft, owner?]
  have same : ofMembers a members joined = (draft a members joined).ownedBy o := by simp [ofMembers, isOwner, known]
  refine .inl ⟨k, t, ?_⟩
  rw [same]
  refine ⟨by cases t <;> exact owner, ?_⟩
  simp [ownedBy, Analysis.identifierOf, known, draft, shape]
 | _ =>
  have same : ofMembers a members joined = draft a members joined := by simp [ofMembers, draft, owner?, shape]
  rw [same]
  simp_all [draft, structural, Names, parts]

/-- A network is of a type only if it has an owner of that type, which names it and which it does not invoke.  So a script may
have nodes of groups and loops beside it, and a group or a loop may have several scripts. -/
theorem owner_of_type (a : Analysis) (members : List NodeKey) (joined : Bool) :
  let n := ofMembers a members joined
  (n.type = .main → n.structural = []) ∧ ∀ t, t = .group ∨ t = .loop ∨ t = .script → n.type = t →
   ∃ k, n.Owner a k t ∧ n.identifier = some (a.identifierOf k) ∧ a.identifierOf k ∉ n.references := by
 intro n
 rcases ofMembers_spec a members joined with ⟨k, s, owner, named, type⟩ | ⟨kind, _⟩
 · refine ⟨fun isMain => ?_, ?_⟩
   · cases s <;> simp only [Owner] at owner <;> grind
   · grind
 · grind

/-- What a node of a group or a loop says of its identifier. -/
def mark (a : Analysis) (k : NodeKey) : Option String :=
 a.outlineOf[k]?.bind fun o =>
  match o.role with
  | .groupInput | .loopInput => some o.identifier
  | .groupOutput | .generatorOutput | .reassignParameter | .loopBreak => some o.reference
  | _ => none

theorem mark_iff : k ∈ members ∧ mark a k = some s ↔
  let n := ofMembers a members joined
  k ∈ n.groupInputs ++ n.loopInputs ∧ a.identifierOf k = s ∨ k ∈ n.groupOutputs ++ n.parts ∧ a.referenceOf k = s := by
 have roles : k ∈ members ∧ mark a k = some s ↔
   let n := collect a members joined
   k ∈ n.groupInputs ++ n.loopInputs ∧ a.identifierOf k = s ∨ k ∈ n.groupOutputs ++ n.parts ∧ a.referenceOf k = s := by
  simp only [collect, parts, mem_append, mem_filter, mark, Analysis.withRole, Analysis.roleOf, Analysis.identifierOf, Analysis.referenceOf]
  cases a.outlineOf[k]? with
  | none => simp
  | some o => cases role : o.role <;> simp [role]
 rcases ofMembers_cases a members joined with same | ⟨_, owner, same⟩ <;> rw [same] <;> exact roles

/-- Where a network has a name, it is that of its only script, or all nodes of groups and loops agree on it. -/
theorem marks_of_named (named : (ofMembers a members joined).identifier = some s) :
  (∃ k, (ofMembers a members joined).scripts = [k] ∧ a.identifierOf k = s) ∨
   (ofMembers a members joined).scripts.length ≠ 1 ∧ (∃ k ∈ members, mark a k = some s) ∧
    ∀ k ∈ members, ∀ x, mark a k = some x → x = s := by
 have spec := ofMembers_spec a members joined
 have marks (k : NodeKey) (x : String) := @mark_iff a k members joined x
 generalize ofMembers a members joined = n at *
 rcases spec with ⟨k, t, owner, isName, _⟩ | ⟨_, names⟩
 · obtain rfl : a.identifierOf k = s := Option.some.inj (isName.symm.trans named)
   cases t <;> simp only [Owner] at owner
   case script => exact .inl ⟨k, owner, rfl⟩
   all_goals
    refine .inr ⟨owner.1, ⟨k, by simp_all⟩, fun j mem x isMark => ?_⟩
    have := (marks j x).mp ⟨mem, isMark⟩
    grind
 · obtain ⟨several, noInput, some?, same⟩ := names s named
   obtain ⟨k, mem⟩ := exists_mem_of_ne_nil _ some?
   refine .inr ⟨several, ⟨k, (marks k s).mpr (.inr ⟨mem, same k mem⟩)⟩, fun j mem x isMark => ?_⟩
   have := (marks j x).mp ⟨mem, isMark⟩
   grind

end AnimationGraph.Network
