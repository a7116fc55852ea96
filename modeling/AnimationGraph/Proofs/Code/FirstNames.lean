import AnimationGraph.Proofs.Code.Routine
import AnimationGraph.Run.Basic

/-! # First names of sockets

The first name of a socket holds its identifier, the first four characters of the identifier of its node and its
position.  These parts can be read off from the name, since the part of the node starts at the last underscore.
So names differ except where two nodes agree in these four characters and have like sockets at one position.
-/

namespace AnimationGraph

open List Variables

/-- An identifier as nodes are given it: an underscore and fifteen small letters or digits. -/
def Created (identifier : String) : Prop :=
 ∃ cs : Chars, identifier.toList = '_' :: cs ∧ cs.length = 15 ∧ ∀ c ∈ cs, c ∈ identifierLetters

namespace Code

theorem last_underscore (last : '_' ∉ back) (last' : '_' ∉ back')
  (same : front ++ '_' :: back = front' ++ '_' :: back') : front = front' ∧ back = back' := by
 rcases append_eq_append_iff.mp same with ⟨more, rfl, tail⟩ | ⟨more, rfl, tail⟩
 · cases more with
   | nil => simpa using tail
   | cons c more =>
    obtain ⟨_, rfl⟩ := cons.inj tail
    simp at last
 · cases more with
   | nil => simpa [eq_comm] using tail
   | cons c more =>
    obtain ⟨_, rfl⟩ := cons.inj tail
    simp at last'

theorem toList_number (k : Nat) : (toString k).toList = Nat.toDigits 10 k := Nat.toList_repr

theorem number_inj (same : Nat.toDigits 10 j = Nat.toDigits 10 k) : j = k :=
 Nat.repr_injective (String.toList_injective ((toList_number j).trans (same.trans (toList_number k).symm)))

/-- What a name tells of a socket itself: its identifier, or else on which side of the node it is. -/
def Like (s t : SocketView) : Prop :=
 if Letters.isName s.identifier then s.identifier = t.identifier
 else Letters.isName t.identifier = false ∧ s.isOutput = t.isOutput

instance (s t : SocketView) : Decidable (Like s t) := by unfold Like; infer_instance

/-- The part of a first name before the last underscore, and the part behind it. -/
theorem firstName_parts (created : Created node) (k : Nat) (s : SocketView) :
  ∃ part : Chars, node.toList.take 4 = '_' :: part ∧ part.length = 3 ∧ '_' ∉ part ∧
   (firstName node k s).toList =
    if Letters.isName s.identifier then
     ('_' :: s.identifier.toList) ++ '_' :: (part ++ Nat.toDigits 10 k)
    else ("__socket_" ++ (if s.isOutput then "True" else "False") ++ "_").toList ++ Nat.toDigits 10 k ++ '_' :: part := by
 obtain ⟨cs, shape, size, letters⟩ := created
 refine ⟨cs.take 3, by simp [shape], by simp [size], fun mem => ?_, ?_⟩
 · have := letters _ (mem_of_mem_take mem)
   revert this
   decide
 · unfold firstName
   split <;> simp [shape]

theorem sides_inj {x y : Bool}
  (same : ("__socket_" ++ (if x then "True" else "False") ++ "_").toList ++ front =
   ("__socket_" ++ (if y then "True" else "False") ++ "_").toList ++ back) : x = y ∧ front = back := by
 cases x <;> cases y <;> simp_all

theorem firstName_eq_iff {a b : String} (created : Created a) (created' : Created b) (j k : Nat) (s t : SocketView) :
  firstName a j s = firstName b k t ↔ a.toList.take 4 = b.toList.take 4 ∧ j = k ∧ Like s t := by
 obtain ⟨part, start, size, plain, name⟩ := firstName_parts created j s
 obtain ⟨part', start', size', plain', name'⟩ := firstName_parts created' k t
 have digits (k : Nat) : 0 < (Nat.toDigits 10 k).length := length_pos_of_ne_nil Nat.toDigits_ne_nil
 have numbered {cs : Chars} (plain : '_' ∉ cs) (k : Nat) : '_' ∉ cs ++ Nat.toDigits 10 k := by simp [plain]
 rw [← String.toList_inj, name, name', start, start', Like]
 by_cases isName : Letters.isName s.identifier <;> by_cases isName' : Letters.isName t.identifier
 · rw [if_pos isName, if_pos isName', if_pos isName]
   constructor
   · intro same
     obtain ⟨front, back⟩ := last_underscore (numbered plain j) (numbered plain' k) same
     obtain ⟨rfl, number⟩ := append_inj back (size.trans size'.symm)
     exact ⟨rfl, number_inj number, String.toList_inj.mp (cons.inj front).2⟩
   · rintro ⟨part, rfl, identifier⟩
     rw [identifier, (cons.inj part).2]
 · rw [if_pos isName, if_neg isName', if_pos isName]
   constructor
   · intro same
     have back := congrArg length (last_underscore (numbered plain j) plain' same).2
     have := digits j
     rw [length_append] at back
     omega
   · rintro ⟨_, _, identifier⟩
     exact absurd (identifier ▸ isName) isName'
 · rw [if_neg isName, if_pos isName', if_neg isName]
   constructor
   · intro same
     have back := congrArg length (last_underscore plain (numbered plain' k) same).2
     have := digits k
     rw [length_append] at back
     omega
   · rintro ⟨_, _, other, _⟩
     exact absurd isName' (by simp [other])
 · rw [if_neg isName, if_neg isName', if_neg isName]
   constructor
   · intro same
     obtain ⟨front, rfl⟩ := last_underscore plain plain' same
     obtain ⟨side, number⟩ := sides_inj front
     exact ⟨rfl, number_inj number, by simpa using isName', side⟩
   · rintro ⟨part, rfl, _, side⟩
     rw [side, (cons.inj part).2]

theorem initial_of (ids : ((sockets nodes).map (·.id)).Nodup) (isNode : n ∈ nodes) (here : (n.inputs ++ n.outputs)[k]? = some s) :
  (initial nodes).of s.id = firstName n.identifier k s := by
 have each (n : NodeView) : (firstNames n).map Prod.fst = (n.inputs ++ n.outputs).map (·.id) :=
  calc (firstNames n).map Prod.fst = ((n.inputs ++ n.outputs).zipIdx.map Prod.fst).map (·.id) := by
        simp only [firstNames, map_map, Function.comp_def]
   _ = _ := by rw [zipIdx_map_fst]
 have keys : (nodes.flatMap firstNames).map Prod.fst = (sockets nodes).map (·.id) := by
  simp only [sockets, map_flatMap, each]
 exact of_rename_of_mem _ (keys ▸ ids) (Variables.mem_firstNames isNode here)

/-- First names are distinct exactly if no two nodes agree in the first four characters of their identifiers and have
like sockets at one position.  No name is another one with the mark of a copy or of a conversion. -/
theorem first_names_distinct_iff (nodes : List NodeView) (created : ∀ n ∈ nodes, Created n.identifier)
  (others : (nodes.map (·.identifier)).Nodup) (ids : ((sockets nodes).map (·.id)).Nodup) :
  (((sockets nodes).map fun s => (initial nodes).of s.id).Nodup ↔
    ∀ n ∈ nodes, ∀ m ∈ nodes, n.identifier ≠ m.identifier →
     n.identifier.toList.take 4 = m.identifier.toList.take 4 →
     ∀ (k : Nat) s t, (n.inputs ++ n.outputs)[k]? = some s → (m.inputs ++ m.outputs)[k]? = some t → ¬ Like s t) ∧
  ∀ s t, (initial nodes).of s ≠ (initial nodes).of t ++ "_copy" ∧
   (initial nodes).of s ≠ (initial nodes).of t ++ "_converted" := by
 refine ⟨⟨fun distinct n isNode m isNode' other part k s t here here' like => ?_, fun apart => ?_⟩, fun s t => ?_⟩
 · have same : (initial nodes).of s.id = (initial nodes).of t.id := by
    rw [initial_of ids isNode here, initial_of ids isNode' here',
     firstName_eq_iff (created n isNode) (created m isNode')]
    exact ⟨part, rfl, like⟩
   have mine := mem_of_getElem? here
   have theirs := mem_of_getElem? here'
   obtain rfl := inj_on_of_nodup_map distinct (mem_flatMap.mpr ⟨n, isNode, mine⟩)
    (mem_flatMap.mpr ⟨m, isNode', theirs⟩) same
   -- a socket belongs to one node
   let Apart := fun n m : NodeView => (n.inputs ++ n.outputs).Disjoint (m.inputs ++ m.outputs)
   have : Std.Symm Apart := ⟨fun _ _ apart _ left right => apart right left⟩
   have each : nodes.Pairwise Apart := (nodup_flatMap.mp ids.of_map).2
   exact each.forall isNode isNode' (fun same => other (congrArg _ same)) mine theirs
 · refine (nodup_map_iff_inj_on ids.of_map).mpr fun s isSocket t isSocket' same => ?_
   obtain ⟨n, isNode, mine⟩ := mem_flatMap.mp isSocket
   obtain ⟨m, isNode', theirs⟩ := mem_flatMap.mp isSocket'
   obtain ⟨j, here⟩ := getElem?_of_mem mine
   obtain ⟨k, here'⟩ := getElem?_of_mem theirs
   rw [initial_of ids isNode here, initial_of ids isNode' here',
    firstName_eq_iff (created n isNode) (created m isNode')] at same
   obtain ⟨part, rfl, like⟩ := same
   by_cases one : n.identifier = m.identifier
   · cases inj_on_of_nodup_map others isNode isNode' one
     exact Option.some.inj (here.symm.trans here')
   · exact absurd like (apart n isNode m isNode' one part j s t here here')
 · exact ⟨fun marked => initial_unmarked nodes s ⟨_, .inl marked⟩, fun marked => initial_unmarked nodes s ⟨_, .inr marked⟩⟩

open Samples

def pairOf (a b : String) : List NodeView := [node a [] [output 0 "Text" []], node b [] [output 1 "Text" []]]

theorem pairOf_distinct :
  ((sockets (pairOf "_abcdefghijklmno" "_abdefghijklmnop")).map fun s =>
    (initial (pairOf "_abcdefghijklmno" "_abdefghijklmnop")).of s.id).Nodup := by
 have created : ∀ n ∈ pairOf "_abcdefghijklmno" "_abdefghijklmnop", Created n.identifier := by
  simp only [pairOf, forall_mem_cons, node]
  exact ⟨⟨"abcdefghijklmno".toList, by decide, by decide, (by decide : "abcdefghijklmno".toList ⊆ identifierLetters)⟩,
   ⟨"abdefghijklmnop".toList, by decide, by decide, (by decide : "abdefghijklmnop".toList ⊆ identifierLetters)⟩, by simp⟩
 refine (first_names_distinct_iff _ created (by decide) (by decide)).1.mpr ?_
 simp [pairOf, node]

/-- Where identifiers agree in four characters, one name stands for two outputs. -/
theorem pairOf_same_name :
  (initial (pairOf "_abcdefghijklmno" "_abcpqrstuvwxyz0")).of ⟨0⟩ = "_result_abc0" ∧
   (initial (pairOf "_abcdefghijklmno" "_abcpqrstuvwxyz0")).of ⟨1⟩ = "_result_abc0" := by
 decide +kernel

end Code
end AnimationGraph
