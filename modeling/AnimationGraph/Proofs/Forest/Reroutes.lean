import AnimationGraph.Proofs.Forest.Tables

/-! # Links that run through reroutes

A search along links leaves a list of sockets when it comes to a reroute for the second time.  Nothing is lost by that:
on the way back from an input there is nothing else in the list, and on the way on from an output no reroute is met twice,
because an input takes one link only.
-/

namespace AnimationGraph.Analysis

open List

/-- Where a search goes on behind a socket of a reroute. -/
def onward (a : Analysis) (t : SocketKey) : List SocketKey := a.directlyLinked (a.passedOn t)

/-- What is known of the sockets that a search can come to.  The way does not branch, or no two ways meet. -/
structure Ground (a : Analysis) (R : SocketKey → Prop) (narrow : Bool) : Prop where
 same : ∀ x y, R x → R y → a.isReroute x.node → x.node = y.node → x = y
 step : ∀ x, R x → a.isReroute x.node → ∀ y ∈ a.onward x, R y
 single : ∀ x, R x → a.isReroute x.node →
  if narrow then (a.onward x).Pairwise (fun _ _ => False) else (a.onward x).Nodup
 meet : narrow = false → ∀ x y t, R x → R y → a.isReroute x.node → a.isReroute y.node → t ∈ a.onward x → t ∈ a.onward y → x = y

/-- Sockets that a search has come to.  The reroutes among them are marked. -/
structure Visited (a : Analysis) (R : SocketKey → Prop) (g : List SocketKey) (seen : List NodeKey) : Prop where
 nodup : g.Nodup
 reached : ∀ x ∈ g, R x
 distinct : seen.Nodup
 marks : ∀ v, v ∈ seen ↔ a.isReroute v ∧ ∃ x ∈ g, x.node = v

/-- A search can start here. -/
def Fit (a : Analysis) (R : SocketKey → Prop) (narrow : Bool) (ts g : List SocketKey) : Prop :=
 if narrow then ts.Pairwise (fun _ _ => False) ∧ ∀ t ∈ ts, ∀ x ∈ g, a.isReroute x.node
 else (ts ++ g).Nodup ∧ ∀ x ∈ ts ++ g, ∀ y, R y → a.isReroute y.node → x ∈ a.onward y → y ∈ g

/-- A search comes to new sockets, and finds those of them that do not belong to reroutes. -/
structure Explored (a : Analysis) (R : SocketKey → Prop) (ts g new : List SocketKey) (r : List SocketKey × List NodeKey) :
  Prop where
 visited : Visited a R (new ++ g) r.2
 found : r.1 ~ new.filter (!a.isReroute ·.node)
 start : ts ⊆ new ++ g
 further : ∀ x ∈ new, a.isReroute x.node → a.onward x ⊆ new ++ g
 source : ∀ y ∈ new, y ∈ ts ∨ ∃ x ∈ new, a.isReroute x.node ∧ y ∈ a.onward x

variable {t : SocketKey}

theorem Visited.fresh (visited : Visited a R g seen) (ground : Ground a R narrow) (reached : R t) (reroute : a.isReroute t.node) :
  t.node ∈ seen ↔ t ∈ g := by
 rw [visited.marks]
 constructor
 · rintro ⟨_, x, mem, same⟩
   exact ground.same x t (visited.reached x mem) reached (same ▸ reroute) same ▸ mem
 · exact fun mem => ⟨reroute, t, mem, rfl⟩

theorem Visited.cons (visited : Visited a R g seen) (reached : R t) (new : t ∉ g) (distinct : marked.Nodup)
  (marks : ∀ v, v ∈ marked ↔ a.isReroute v ∧ t.node = v ∨ v ∈ seen) : Visited a R (t :: g) marked where
 nodup := nodup_cons.mpr ⟨new, visited.nodup⟩
 reached := forall_mem_cons.mpr ⟨reached, visited.reached⟩
 distinct := distinct
 marks v := by
  rw [marks, visited.marks]
  simp only [mem_cons, exists_eq_or_imp, and_or_left]

/-- The search does so as long as fewer reroutes are left than it has fuel. -/
def Explores (a : Analysis) (R : SocketKey → Prop) (narrow : Bool) (fuel : Nat)
  (search : List SocketKey → List NodeKey → List SocketKey × List NodeKey) : Prop :=
 ∀ ts g seen, Visited a R g seen → (∀ t ∈ ts, R t) → Fit a R narrow ts g →
  a.reroutes.length < fuel + seen.length → ∃ new, Explored a R ts g new (search ts seen)

variable (ground : Ground a R narrow)

include ground

theorem Explores.reroute (deeper : Explores a R narrow fuel search) (visited : Visited a R g seen) (reached : R t)
  (reroute : a.isReroute t.node) (new : t ∉ g) (fit : Fit a R narrow (t :: ts) g) (enough : a.reroutes.length < fuel + 1 + seen.length) :
  ∃ new, Explored a R [t] g new (search (a.onward t) (t.node :: seen)) := by
 have unmarked := mt (visited.fresh ground reached reroute).mp new
 have here : Visited a R (t :: g) (t.node :: seen) := visited.cons reached new (nodup_cons.mpr ⟨unmarked, visited.distinct⟩) (by grind)
 have fit : Fit a R narrow (a.onward t) (t :: g) := by
  have single := ground.single t reached reroute
  cases narrow with
  | true => exact ⟨single, fun _ _ => forall_mem_cons.mpr ⟨reroute, fit.2 t mem_cons_self⟩⟩
  | false =>
   have meet := ground.meet rfl
   simp only [Fit, Bool.false_eq_true, if_false] at *
   obtain ⟨_, before⟩ := fit
   refine ⟨nodup_append'.mpr ⟨single, here.nodup, fun c next old => ?_⟩, fun c mem y reached' reroute' next => ?_⟩
   · -- what is there already has its origin there
     exact new (before c (by grind) t reached reroute next)
   · have := before c
     have := meet t y c reached reached' reroute reroute'
     grind
 obtain ⟨below, first⟩ := deeper _ _ _ here (ground.step t reached reroute) fit (by simp only [length_cons]; omega)
 refine ⟨below ++ [t], by simpa using first.visited, ?_, by simp, ?_, fun y mem => ?_⟩
 · simpa [reroute] using first.found
 · have := first.further
   have := first.start
   grind
 · have := first.source y
   grind

omit ground in
theorem Explored.cons (first : Explored a R [t] g new r)
  (later : Explored a R ts (new ++ g) more q) : Explored a R (t :: ts) g (more ++ new) (r.1 ++ q.1, q.2) where
 visited := append_assoc more new g ▸ later.visited
 found := by
  rw [filter_append]
  exact perm_append_comm.trans (later.found.append first.found)
 start := by grind [first.start, later.start]
 further x mem reroute := by
  have := first.further x
  have := later.further x
  grind
 source y mem := by
  have := first.source y
  have := later.source y
  grind

theorem Fit.rest (first : Explored a R [t] g new r)
  (fit : Fit a R narrow (t :: ts) g) : Fit a R narrow ts (new ++ g) := by
 cases narrow with
 | true =>
  obtain ⟨alone, later⟩ := pairwise_cons.mp fit.1
  exact ⟨later, fun u mem => (alone u mem).elim⟩
 | false =>
  have meet := ground.meet rfl
  obtain ⟨nodup, before⟩ := fit
  have source := first.source
  have reached := first.visited.reached
  have apart := first.visited.nodup
  refine ⟨nodup_append'.mpr ⟨by grind, apart, fun u mem old => ?_⟩, fun x mem y reached' reroute next => ?_⟩
  · grind
  · grind

theorem explores_endsBy (deeper : Explores a R narrow fuel search) : Explores a R narrow (fuel + 1) (a.endsBy search) := by
 intro ts
 induction ts with
 | nil => exact fun g seen visited _ _ _ => ⟨[], visited, by simp [endsBy], by simp, by simp, by simp⟩
 | cons t ts ih =>
  intro g seen visited reached fit enough
  obtain ⟨here, reached⟩ := forall_mem_cons.mp reached
  by_cases again : a.isReroute t.node ∧ t.node ∈ seen
  · have mem := (visited.fresh ground here again.1).mp again.2
    have alone : ts = [] := by
     cases narrow with
     | true => exact eq_nil_iff_forall_not_mem.mpr (pairwise_cons.mp fit.1).1
     | false => exact absurd mem (by grind [fit.1])
    have shape : a.endsBy search (t :: ts) seen = ([], seen) := by simp [endsBy, again]
    exact ⟨[], shape ▸ ⟨visited, by simp, by simp [alone, mem], by simp, by simp⟩⟩
  · have split : ∃ new r, Explored a R [t] g new r ∧
      a.endsBy search (t :: ts) seen = (r.1 ++ (a.endsBy search ts r.2).1, (a.endsBy search ts r.2).2) := by
     by_cases reroute : a.isReroute t.node
     · obtain ⟨new, first⟩ := deeper.reroute ground visited here reroute (by grind [visited.fresh ground here]) fit enough
       exact ⟨new, _, first, by simp_all [endsBy, onward]⟩
     · have new : t ∉ g := by
        cases narrow with
        | true => exact fun mem => reroute (fit.2 t mem_cons_self t mem)
        | false => grind [fit.1]
       have visited := visited.cons here new visited.distinct (by grind)
       exact ⟨[t], ([t], seen), ⟨visited, by simp [reroute], by simp, by grind, by simp⟩, by simp [endsBy, reroute]⟩
    obtain ⟨new, r, first, shape⟩ := split
    have more : seen.length ≤ r.2.length := (subperm_of_subset visited.distinct fun v mem => by
     grind [visited.marks v, first.visited.marks v]).length_le
    obtain ⟨rest, later⟩ := ih (new ++ g) r.2 first.visited reached (fit.rest ground first) (by omega)
    exact ⟨_, shape ▸ first.cons later⟩

theorem explores_ends (fuel : Nat) : Explores a R narrow fuel (a.ends fuel) := by
 induction fuel with
 | zero =>
  intro ts g seen visited _ _ enough
  have few : seen.length ≤ a.reroutes.length := (subperm_of_subset visited.distinct fun v mem => by
   simpa [isReroute] using ((visited.marks v).mp mem).1).length_le
  omega
 | succ fuel ih => exact explores_endsBy ground ih

omit ground

variable {o : Outline} {k : Nat} {s : SocketKey} (wf : o.WellFormed) (tells : a.Tells o.nodes o.links)

include wf tells

/-- A reroute has one socket on each side, and a search goes on from the other one. -/
theorem reroute_sockets (reroute : a.isReroute v) : ∃ n ∈ o.nodes, n.kind = "NodeReroute" ∧
  ∃ p ∈ n.inputKeys, ∃ q ∈ n.outputKeys, q.node = v ∧ ∀ x, o.IsSocket x → x.node = v →
   if x.isOutput then x = q ∧ (a.onward x).Pairwise (fun _ _ => False) ∧ ∀ y, y ∈ a.onward x ↔ (y, p) ∈ o.links
   else x = p ∧ (a.onward x).Nodup ∧ ∀ y, y ∈ a.onward x ↔ (q, y) ∈ o.links := by
 obtain ⟨n, isNode, kind, rfl⟩ := (isReroute_iff tells).mp reroute
 obtain ⟨ins, outs⟩ := wf.reroutes n isNode kind
 obtain ⟨i, ins⟩ := length_eq_one_iff.mp ins
 obtain ⟨j, outs⟩ := length_eq_one_iff.mp outs
 have known := (tells.outlines n.key n).mpr ⟨isNode, rfl⟩
 have ends := fun {l} => wf.ends (l := l)
 refine ⟨n, isNode, kind, ⟨n.key, false, i.1⟩, by simp [NodeOutline.inputKeys, ins], ⟨n.key, true, j.1⟩,
  by simp [NodeOutline.outputKeys, outs], rfl, ?_⟩
 rintro ⟨_, b, x⟩ ⟨m, isNode', key, isSocket⟩ rfl
 obtain rfl : m = n := inj_on_of_nodup_map wf.keys isNode' isNode key
 cases b <;> simp [NodeOutline.inputKeys, NodeOutline.outputKeys, ins, outs] at isSocket <;>
  simp only [onward, passedOn, inputs, outputs, known, NodeOutline.inputKeys, NodeOutline.outputKeys, ins, outs, isSocket,
   mem_direct tells, Option.map_some, Option.getD_some, map_cons, headD_cons, Bool.false_eq_true, if_true, if_false, true_and]
 · exact ⟨direct_nodup wf tells rfl, by grind⟩
 · exact ⟨direct_single wf tells rfl, by grind⟩

omit tells in
theorem chain_ends (chain : o.Chain k s t) : (o.IsSocket s ∧ s.isOutput = true) ∧ o.IsSocket t ∧ t.isOutput = false := by
 induction chain with
 | link isLink => exact wf.ends isLink
 | reroute _ _ _ _ _ isLink ih => exact ⟨ih.1, (wf.ends isLink).2⟩

omit wf tells in
theorem chain_prepend (isNode : n ∈ o.nodes) (kind : n.kind = "NodeReroute")
  (isInput : p ∈ n.inputKeys) (isOutput : q ∈ n.outputKeys) (isLink : (s, p) ∈ o.links) (chain : o.Chain k q t) :
  o.Chain (k + 1) s t := by
 induction chain with
 | link isLink' => exact .reroute isNode kind isInput isOutput (.link isLink) isLink'
 | reroute isNode' kind' isInput' isOutput' _ isLink' ih => exact .reroute isNode' kind' isInput' isOutput' (ih isOutput) isLink'

/-- A chain leads from a socket to another one, or back. -/
def Led (o : Outline) (s : SocketKey) (back : Bool) (x : SocketKey) : Prop :=
 ∃ k, if back then o.Chain k x s else o.Chain k s x

theorem ground_of_chains (s : SocketKey) (back : Bool) : Ground a (Led o s back) back := by
 have socket {x} (led : Led o s back x) : o.IsSocket x ∧ x.isOutput = back := by
  obtain ⟨k, chain⟩ := led
  cases back
  · exact (chain_ends wf chain).2
  · exact (chain_ends wf chain).1
 have same x y (first : Led o s back x) (second : Led o s back y) (reroute : a.isReroute x.node) (same : x.node = y.node) :
   x = y := by
  obtain ⟨_, _, _, _, _, _, _, _, spec⟩ := reroute_sockets wf tells reroute
  grind [spec x (socket first).1 rfl, spec y (socket second).1 same.symm]
 refine ⟨same, fun x led reroute y mem => ?_, fun x led reroute => ?_,
  fun wide x y t first second reroute reroute' mem mem' => same x y first second reroute ?_⟩
 · obtain ⟨n, isNode, kind, p, isInput, q, isOutput, _, spec⟩ := reroute_sockets wf tells reroute
   have here := spec x (socket led).1 rfl
   rw [(socket led).2] at here
   obtain ⟨k, chain⟩ := led
   cases back with
   | false => exact ⟨k + 1, .reroute isNode kind (here.1 ▸ isInput) isOutput chain ((here.2.2 y).mp mem)⟩
   | true => exact ⟨k + 1, chain_prepend isNode kind isInput (here.1 ▸ isOutput) ((here.2.2 y).mp mem) chain⟩
 · obtain ⟨_, _, _, _, _, _, _, _, spec⟩ := reroute_sockets wf tells reroute
   have here := spec x (socket led).1 rfl
   rw [(socket led).2] at here
   cases back <;> exact here.2.1
 · obtain ⟨_, _, _, _, _, q, _, node, spec⟩ := reroute_sockets wf tells reroute
   obtain ⟨_, _, _, _, _, q', _, node', spec'⟩ := reroute_sockets wf tells reroute'
   have here := spec x (socket first).1 rfl
   have there := spec' y (socket second).1 rfl
   rw [(socket first).2, wide] at here
   rw [(socket second).2, wide] at there
   have := inj_on_of_nodup_map wf.single ((here.2.2 t).mp mem) ((there.2.2 t).mp mem') rfl
   grind

/-- A socket is followed to where chains lead. -/
theorem followed_spec (plain : ¬ a.isReroute s.node) : (a.followed s).Nodup ∧
  ∀ t, t ∈ a.followed s ↔ Led o s (!s.isOutput) t ∧ ¬ a.isReroute t.node := by
 have ends := fun {l} => wf.ends (l := l)
 have direct {x} := mem_direct tells (s := s) (x := x)
 have start : ∀ t ∈ a.directlyLinked s, Led o s (!s.isOutput) t := by
  intro t mem
  refine ⟨0, ?_⟩
  cases side : s.isOutput with
  | true => exact .link ((direct.mp mem).resolve_right (by grind))
  | false => exact .link ((direct.mp mem).resolve_left (by grind))
 have fit : Fit a (Led o s (!s.isOutput)) (!s.isOutput) (a.directlyLinked s) [] := by
  cases side : s.isOutput with
  | true =>
   refine ⟨by simpa using direct_nodup wf tells side, fun x mem y ⟨_, chain⟩ reroute next => ?_⟩
   obtain ⟨_, _, _, _, _, q, _, node, spec⟩ := reroute_sockets wf tells reroute
   obtain ⟨isSocket, isInput⟩ := (chain_ends wf chain).2
   have here := spec y isSocket rfl
   rw [isInput] at here
   have isLink : (s, x) ∈ o.links := (direct.mp (by simpa using mem)).resolve_right (by grind)
   have := inj_on_of_nodup_map wf.single ((here.2.2 x).mp next) isLink rfl
   grind
  | false => exact ⟨direct_single wf tells side, by simp⟩
 obtain ⟨new, explored⟩ := explores_ends (ground_of_chains wf tells s !s.isOutput) (a.reroutes.length + 1) (a.directlyLinked s) [] []
  ⟨by simp, by simp, by simp, by simp⟩ start fit (by simp)
 have all : ∀ t, t ∈ new ↔ Led o s (!s.isOutput) t := by
  refine fun t => ⟨fun mem => explored.visited.reached t (by simp [mem]), fun ⟨k, chain⟩ => ?_⟩
  -- what a reroute on a chain leads to is among the new sockets with it
  have further {n : NodeOutline} (isNode : n ∈ o.nodes) (kind : n.kind = "NodeReroute") {i j : SocketKey}
    (isInput : i ∈ n.inputKeys) (isOutput : j ∈ n.outputKeys) (y : SocketKey) :
    (i ∈ new → (j, y) ∈ o.links → y ∈ new) ∧ (j ∈ new → (y, i) ∈ o.links → y ∈ new) := by
   have reroute : a.isReroute n.key := (isReroute_iff tells).mpr ⟨n, isNode, kind, rfl⟩
   obtain ⟨_, _, _, p, _, q, _, _, spec⟩ := reroute_sockets wf tells reroute
   obtain ⟨_, _, rfl⟩ := mem_map.mp isInput
   obtain ⟨_, _, rfl⟩ := mem_map.mp isOutput
   have here := spec _ ⟨n, isNode, rfl, isInput⟩ rfl
   have there := spec _ ⟨n, isNode, rfl, isOutput⟩ rfl
   have := explored.further p
   have := explored.further q
   grind
  have on {k x y} (chain : o.Chain k x y) : ((∀ z, (x, z) ∈ o.links → z ∈ new) → y ∈ new) ∧
    ((∀ z, (z, y) ∈ o.links → z ∈ new) → x ∈ new) := by
   induction chain with
   | link isLink => exact ⟨(· _ isLink), (· _ isLink)⟩
   | reroute isNode kind isInput isOutput _ isLink ih =>
    have further := further isNode kind isInput isOutput
    exact ⟨fun known => (further _).1 (ih.1 known) isLink, fun known => ih.2 fun z => (further z).2 (known _ isLink)⟩
  have first {x} (isLink : (s, x) ∈ o.links ∨ (x, s) ∈ o.links) : x ∈ new := by simpa using explored.start (direct.mpr isLink)
  cases side : s.isOutput with
  | true => exact (on (by simpa [side] using chain)).1 fun z isLink => first (.inl isLink)
  | false => exact (on (by simpa [side] using chain)).2 fun z isLink => first (.inr isLink)
 refine ⟨explored.found.nodup_iff.mpr (explored.visited.nodup.of_append_left.filter _), fun t => ?_⟩
 rw [followed, explored.found.mem_iff, mem_filter, all]
 simp

omit tells in
theorem mem_linkedSockets (s : SocketKey) : ((ofOutline o).linkedSockets s).Nodup ∧ ∀ t, t ∈ (ofOutline o).linkedSockets s ↔
  (∃ k, o.Chain k s t ∨ o.Chain k t s) ∧ ¬ o.IsReroute s.node ∧ ¬ o.IsReroute t.node := by
 have tells := tells_inserted wf
 have ends {k x y} := chain_ends wf (k := k) (s := x) (t := y)
 rw [ofOutline, linkedSockets_resolve]
 generalize o.foldl putTree {} = a at tells ⊢
 have listed : s ∈ a.sockets ↔ o.IsSocket s ∧ ¬ o.IsReroute s.node := by
  simp only [sockets, mem_flatMap, mem_filter, mem_sockets tells, ← isReroute_iff tells, tells.keys, mem_map, Outline.IsSocket]
  grind
 split
 · obtain ⟨_, plain⟩ := listed.mp ‹_›
   obtain ⟨nodup, all⟩ := followed_spec wf tells (mt (isReroute_iff tells).mp plain)
   refine ⟨nodup, fun t => ?_⟩
   simp only [all, Led, isReroute_iff tells]
   grind
 · refine ⟨nodup_nil, fun t => iff_of_false not_mem_nil ?_⟩
   rintro ⟨⟨k, chain⟩, plain, _⟩
   exact absurd (listed.mpr ⟨by grind, plain⟩) ‹_›

omit tells in
theorem mem_dependencies_ofOutline : m ∈ (ofOutline o).dependencies n ↔ o.Feeds m n := by
 have ends {k x y} := chain_ends wf (k := k) (s := x) (t := y)
 simp only [dependencies, mem_flatMap, mem_map, mem_linkedSockets wf, mem_inputs (tells_ofOutline wf), Outline.Feeds]
 grind

end AnimationGraph.Analysis
