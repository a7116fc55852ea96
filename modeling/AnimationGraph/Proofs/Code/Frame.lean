import AnimationGraph.Proofs.Code.Names

/-! # What a run leaves alone

Statements bind variables to new objects only, and each variable that they bind can be read off.  In place
they change the objects of modified inputs.  As long as these are own objects, that is new ones and objects
that were handed over for this purpose, all other objects keep what they hold.
-/

namespace AnimationGraph.Code

open List

variable (b : Behaviour V)

def Statement.writes : Statement → Texts
 | .start _ => []
 | .assign a => [a.target]
 | .run n names => (ownOutputs n).map fun o => names.of o.id

namespace Memory

/-- These variables, and no others, are bound to objects that are new. -/
structure Grows (names : Texts) (m m' : Memory V) : Prop where
 size : m.objects.length ≤ m'.objects.length
 kept : ∀ x ∉ names, m'.bound x = m.bound x
 new : ∀ x ∈ names, ∃ k, m'.bound x = some k ∧ m.objects.length ≤ k

variable (own : Nat → Prop)

def Keeps (m m' : Memory V) : Prop := ∀ k, ¬ own k → m'.objects[k]? = m.objects[k]?

def Held (m : Memory V) (x : String) : Prop := ∃ k, m.bound x = some k ∧ own k

def Fresh (m : Memory V) : Prop := ∀ k, m.objects.length ≤ k → own k

variable {own : Nat → Prop} {m m' m'' : Memory V}

theorem Grows.refl (m : Memory V) : Grows [] m m := ⟨Nat.le_refl _, fun _ _ => rfl, by simp⟩

theorem Grows.trans (first : Grows xs m m') (second : Grows ys m' m'') : Grows (xs ++ ys) m m'' where
 size := Nat.le_trans first.size second.size
 kept x absent := by
  rw [mem_append, not_or] at absent
  exact (second.kept x absent.2).trans (first.kept x absent.1)
 new x mem := by
  by_cases again : x ∈ ys
  · obtain ⟨k, bound, new⟩ := second.new x again
    exact ⟨k, bound, Nat.le_trans first.size new⟩
  · rw [second.kept x again]
    exact first.new x (by grind)

theorem Grows.fresh (grows : Grows xs m m') (fresh : Fresh own m) : Fresh own m' :=
 fun k new => fresh k (Nat.le_trans grows.size new)

theorem Grows.held (grows : Grows xs m m') (fresh : Fresh own m) (held : Held own m x) : Held own m' x := by
 by_cases written : x ∈ xs
 · obtain ⟨k, bound, new⟩ := grows.new x written
   exact ⟨k, bound, fresh k new⟩
 · exact (grows.kept x written ▸ held : ∃ k, m'.bound x = some k ∧ own k)

theorem Grows.held_of_mem (grows : Grows xs m m') (fresh : Fresh own m) (written : x ∈ xs) :
  Held own m' x :=
 let ⟨k, bound, new⟩ := grows.new x written
 ⟨k, bound, fresh k new⟩

theorem Keeps.trans (first : Keeps own m m') (second : Keeps own m' m'') : Keeps own m m'' :=
 fun k other => (second k other).trans (first k other)

theorem grows_bindNew (m : Memory V) (x : String) (v : V) : Grows [x] m (m.bindNew x v) := by
 refine ⟨by simp [bindNew], fun y other => ?_, fun y here => ?_⟩
 · simp [bindNew, mem_singleton.not.mp other]
 · exact ⟨_, by simp [bindNew, mem_singleton.mp here], Nat.le_refl _⟩

theorem grows_putAll (m : Memory V) (ps : List (String × V)) : Grows (ps.map Prod.fst) m (m.putAll .bindNew ps) := by
 induction ps generalizing m with
 | nil => exact Grows.refl m
 | cons p ps ih => exact (grows_bindNew m p.1 p.2).trans (ih _)

theorem keeps_bindNew (fresh : Fresh own m) (x : String) (v : V) : Keeps own m (m.bindNew x v) := by
 intro k other
 have := fresh k
 simp only [bindNew]
 grind

theorem keeps_putAll (fresh : Fresh own m) (ps : List (String × V)) : Keeps own m (m.putAll .bindNew ps) := by
 induction ps generalizing m with
 | nil => exact fun _ _ => rfl
 | cons p ps ih => exact (keeps_bindNew fresh p.1 p.2).trans (ih ((grows_bindNew m p.1 p.2).fresh fresh))

/-- Objects are changed in place: no variable is bound anew, and own objects change alone. -/
theorem overwriteAll (own : Nat → Prop) (bound : ∀ p ∈ ps, (m.bound p.1).isSome) :
  (m.putAll .overwrite ps).bound = m.bound ∧
   (m.putAll .overwrite ps).objects.length = m.objects.length ∧
   ((∀ p ∈ ps, Held own m p.1) → Keeps own m (m.putAll .overwrite ps)) := by
 induction ps generalizing m with
 | nil => exact ⟨rfl, rfl, fun _ _ _ => rfl⟩
 | cons p ps ih =>
  obtain ⟨k, here⟩ := Option.isSome_iff_exists.mp (bound p mem_cons_self)
  have first : m.overwrite p.1 p.2 = m.write k p.2 := by simp [overwrite, here]
  obtain ⟨same, size, keeps⟩ := ih (m := m.write k p.2) fun q mem => bound q (mem_cons_of_mem _ mem)
  simp only [putAll, foldl_cons, first] at *
  refine ⟨same, size.trans (by simp [write]), fun held j other => ?_⟩
  obtain ⟨_, here', own⟩ := held p mem_cons_self
  have ne : k ≠ j := by
   rintro rfl
   exact other (Option.some.inj (here.symm.trans here') ▸ own)
  exact (keeps (fun q mem => held q (mem_cons_of_mem _ mem)) j other).trans (by simp [write, ne])

end Memory

open Memory

variable {n : NodeView} {m m' : Memory V} {obs : List (Observation V)}

theorem bound_inputs {f : SocketView → V} (readable : ∀ i ∈ n.inputs, (shown names m i.id).isSome) :
  ∀ p ∈ (n.inputs.filter changes).map fun i => (names.of i.id, f i), (m.bound p.1).isSome := by
 intro p mem
 obtain ⟨i, isInput, rfl⟩ := mem_map.mp mem
 rw [← isSome_value?]
 exact readable i (mem_filter.mp isInput).1

theorem execute_grows {s : Statement} (ran : s.execute b m = some (obs, m')) : Grows s.writes m m' := by
 cases s with
 | start n =>
  cases ran
  exact Grows.refl m
 | assign a =>
  obtain ⟨v, _, same⟩ := Option.map_eq_some_iff.mp ran
  cases same
  exact grows_bindNew m a.target v
 | run n names =>
  simp only [Statement.execute, Option.ite_none_right_eq_some, Option.some.injEq, Prod.mk.injEq] at ran
  obtain ⟨readable, _, rfl⟩ := ran
  obtain ⟨same, size, _⟩ := overwriteAll (fun _ => True) (bound_inputs (f := fun i =>
   b.change n (reads n (shown names m)) i.id) readable)
  have grows := grows_putAll (m.putAll .overwrite ((n.inputs.filter changes).map fun i =>
   (names.of i.id, b.change n (reads n (shown names m)) i.id)))
   ((ownOutputs n).map fun o => (names.of o.id, b.result n (reads n (shown names m)) o.id))
  rw [map_map] at grows
  exact ⟨size ▸ grows.size, fun x other => same ▸ grows.kept x other, fun x written => size ▸ grows.new x written⟩

theorem executeAll_grows {ss : List Statement}
  (ran : executeAll b ss m = some (obs, m')) : Grows (ss.flatMap Statement.writes) m m' :=
 executeAll_induction b (P := fun ss => Grows (ss.flatMap Statement.writes)) Grows.refl
  (fun _ _ _ _ _ _ done => (execute_grows b done).trans) ran

theorem assigns_keep {as : List Assignment}
  (fresh : Fresh own m) (ran : executeAll b (as.map .assign) m = some (obs, m')) : Keeps own m m' := by
 induction as generalizing m obs with
 | nil =>
  cases ran
  exact fun _ _ => rfl
 | cons a as ih =>
  obtain ⟨_, m₁, _, done, rest⟩ := executeAll_split b [.assign a] ran
  obtain ⟨v, _, same⟩ := Option.map_eq_some_iff.mp (executeAll_single b done)
  cases same
  exact (keeps_bindNew fresh a.target v).trans (ih ((grows_bindNew m a.target v).fresh fresh) rest)

theorem assigns_succeed (as : List Assignment)
  (readable : ∀ a ∈ as, ∀ x, a.source.reads? = some x → (m.bound x).isSome) :
  ∃ m', executeAll b (as.map .assign) m = some ([], m') := by
 induction as generalizing m with
 | nil => exact ⟨m, rfl⟩
 | cons a as ih =>
  have value : (a.source.value? b m).isSome := by
   have here := readable a mem_cons_self
   cases source : a.source <;> simp_all [Source.value?, Source.reads?, isSome_value?]
  obtain ⟨v, value⟩ := Option.isSome_iff_exists.mp value
  obtain ⟨m', rest⟩ := ih (m := m.bindNew a.target v) fun a' mem x isRead => by
   have := readable a' (mem_cons_of_mem _ mem) x isRead
   simp only [bindNew]
   split <;> simp [this]
  exact ⟨m', by simp [executeAll, Statement.execute, value, rest]⟩

theorem run_keeps (fresh : Fresh own m) (held : ∀ i ∈ n.inputs, changes i → Held own m (names.of i.id))
  (ran : (Statement.run n names).execute b m = some (obs, m')) : Keeps own m m' := by
 simp only [Statement.execute, Option.ite_none_right_eq_some, Option.some.injEq, Prod.mk.injEq] at ran
 obtain ⟨readable, _, rfl⟩ := ran
 obtain ⟨_, size, keeps⟩ := overwriteAll own (bound_inputs (f := fun i =>
  b.change n (reads n (shown names m)) i.id) readable)
 refine (keeps fun p mem => ?_).trans (keeps_putAll (fun k new => fresh k (size ▸ new)) _)
 obtain ⟨i, isInput, rfl⟩ := mem_map.mp mem
 exact held i (mem_filter.mp isInput).1 (mem_filter.mp isInput).2

theorem Unwritten.mono {nodes all : List NodeView} (sub : ∀ n ∈ nodes, n ∈ all) :
  Unwritten nodes s → Unwritten all s := by
 simp only [Unwritten, outputs, links, mem_flatMap]
 grind

/-- Inputs that show own objects when they are ready: those that their nodes change are among them, and an
object that comes to one of them as it is can be copied, unless all inputs are guarded. -/
structure Guard (Q : SocketView → Prop) : Prop where
 owner : ∀ i, Owner i → Q i
 asItIs : (∀ i, Q i) ∨ ∀ i, Q i → i.type.copy.isSome ∧ (conversionCode? i).isSome = false

def Guarded (Q : SocketView → Prop) (own : Nat → Prop) (nodes : List NodeView) (vs : Variables) (m : Memory V) : Prop :=
 ∀ i, Ready nodes i → Q i → Held own m (vs.of i.id)

section

variable {Q : SocketView → Prop} {rest : List NodeView}
 (arranged : Arranged (n :: rest)) (honest : Honest n)

include arranged honest

theorem target_name (mem : h ∈ handovers n) :
  (preparation n vs).2.of h.2.id = vs.of h.2.id := by
 obtain ⟨i, behind, fits⟩ := arranged.fits (h := h) (by grind)
 have ids := arranged.ids
 exact (preparation_names arranged honest vs).2.2 h.2.id (by grind [fits.id]) (by grind [fits.id])

theorem written_node : ∀ x ∈ (nodeStatements n vs).1.flatMap Statement.writes,
  Marked x ∨ ∃ s, Unwritten [n] s ∧ vs.of s = x := by
 intro x written
 simp only [nodeStatements, flatMap_append, flatMap_cons, flatMap_map, Statement.writes,
  mem_append, mem_flatMap, mem_map, mem_singleton, nil_append] at written
 rcases written with ⟨_, isAssigned, rfl⟩ | ⟨o, isOwn, rfl⟩ | ⟨_, isAssigned, rfl⟩
 · obtain ⟨i, isRenewed, rfl⟩ := mem_map.mp isAssigned
   refine .inl ⟨vs.of i.id, ?_⟩
   simp only [renewed, converted, mem_append, mem_filter] at isRenewed
   simp only [renewal, preparedName]
   grind
 · obtain ⟨isOutput, isOwn⟩ := mem_filter.mp isOwn
   refine .inr ⟨o.id, .inl ⟨o, by simpa [outputs] using isOutput, rfl⟩, ?_⟩
   exact ((preparation_names arranged honest vs).2.2 o.id (by grind [arranged.ids]) (by simpa using isOwn)).symm
 · obtain ⟨h, mem, rfl⟩ := mem_map.mp isAssigned
   have mem := (mem_filter.mp mem).1
   exact .inr ⟨h.2.id, .inr ⟨h, by simpa [links] using mem, rfl⟩, (target_name arranged honest mem).symm⟩

variable {b} (fresh : Fresh own m)

include fresh

theorem Guarded.deliver (before : ∀ i ∈ inputs rest, Ready (n :: rest) i → Q i → Held own m (vs.of i.id))
  (handed : ∀ h ∈ handovers n, getsCopy h = false → ∀ i ∈ inputs rest, h.2.id = i.id → Q i →
   Held own m ((preparation n vs).2.of h.1.id))
  (ran : executeAll b ((delivery n (preparation n vs).2).1.map .assign) m = some (obs, m')) :
  Guarded Q own rest (nodeStatements n vs).2 m' := by
 have grows := executeAll_grows b ran
 intro i ready isGuarded
 rcases ready_behind arranged honest vs ready with
  ⟨h, mem, id, shared, name⟩ | ⟨⟨h, mem, id, copied⟩, name⟩ | ⟨early, name⟩ <;> rw [name]
 · exact grows.held fresh (handed h mem shared i ready.1 id isGuarded)
 · refine grows.held_of_mem fresh ?_
   simp only [flatMap_map, Statement.writes, mem_flatMap, mem_singleton, delivery]
   exact ⟨h, mem_filter.mpr ⟨mem, copied⟩, by rw [target_name arranged honest mem, id]⟩
 · exact grows.held fresh (before i ready.1 early isGuarded)

variable (guard : Guard Q) (guarded : Guarded Q own (n :: rest) vs m)

include guard guarded

theorem Guarded.prepare (ran : executeAll b ((preparation n vs).1.map .assign) m = some (obs, m')) :
  ∀ i ∈ n.inputs, changes i ∨ Q i → Held own m' ((preparation n vs).2.of i.id) := by
 have grows := executeAll_grows b ran
 intro i isInput needed
 rw [(preparation_names arranged honest vs).1 i isInput]
 by_cases renews : (conversionCode? i).isSome ∨ copiesOwn i
 · refine grows.held_of_mem fresh (mem_flatMap.mpr ⟨.assign (renewal vs i), ?_, mem_singleton.mpr rfl⟩)
   refine mem_map_of_mem (mem_map_of_mem ?_)
   simp only [renewed, converted, mem_append, mem_filter]
   grind
 · have isGuarded : Q i := needed.elim (fun changed => guard.owner i (by grind [Owner])) id
   have name : preparedName vs i = vs.of i.id := by grind [preparedName]
   exact name ▸ grows.held fresh (guarded i (ready_of_input arranged isInput) isGuarded)

theorem Guarded.result (prepared : executeAll b ((preparation n vs).1.map .assign) m = some (obs, m₁)) (ran : executeAll b [.run n (preparation n vs).2] m₁ = some (more, m'))
  (isOutput : o ∈ n.outputs) (needed : (∀ i, Q i) ∨ o.type.copy.isSome) :
  Held own m' ((preparation n vs).2.of o.id) := by
 have fresh₁ := (executeAll_grows b prepared).fresh fresh
 have grows := executeAll_grows b ran
 rcases names_of_output arranged honest vs isOutput with ⟨isOwn, _⟩ | ⟨p, isPassed, same, name⟩
 · exact grows.held_of_mem fresh₁ (by simpa [Statement.writes] using ⟨o, isOwn, rfl⟩)
 · have isInput := (mem_of_mem_passes isPassed).1
   have equal : p.2 = o := inj_on_of_nodup_map arranged.ids (by grind) (by grind) same
   rw [name, ← (preparation_names arranged honest vs).1 p.1 isInput]
   refine grows.held fresh₁ (guarded.prepare arranged honest fresh guard prepared p.1 isInput ?_)
   exact needed.symm.imp (fun copyable => honest.owned p isPassed (equal ▸ copyable)) fun all => all p.1

/-- A node changes own objects alone, and hands own objects on to inputs that are guarded. -/
theorem Guarded.step (ran : executeAll b (nodeStatements n vs).1 m = some (obs, m')) :
  Keeps own m m' ∧ Guarded Q own rest (nodeStatements n vs).2 m' := by
 have ran : executeAll b (.start n :: (preparation n vs).1.map .assign ++ [.run n (preparation n vs).2] ++
   (delivery n (preparation n vs).2).1.map .assign) m = some (obs, m') := by simpa [nodeStatements] using ran
 obtain ⟨_, m₂, _, ran₂, delivered⟩ := executeAll_split b _ ran
 obtain ⟨_, m₁, _, ran₁, ran₂⟩ := executeAll_split b _ ran₂
 obtain ⟨_, _, _, started, prepared⟩ := executeAll_split b [.start n] ran₁
 cases started
 have grows₁ := executeAll_grows b prepared
 have grows₂ := executeAll_grows b ran₂
 have fresh₁ := grows₁.fresh fresh
 have fresh₂ := grows₂.fresh fresh₁
 have held := guarded.prepare arranged honest fresh guard prepared
 refine ⟨(assigns_keep b fresh prepared).trans ((run_keeps b fresh₁ (fun i isInput changed => held i isInput (.inl changed))
  (executeAll_single b ran₂)).trans (assigns_keep b fresh₂ delivered)),
  Guarded.deliver arranged honest fresh₂ (fun i _ ready isGuarded => ?_) (fun h mem _ i behind id isGuarded => ?_) delivered⟩
 · exact grows₂.held fresh₁ (grows₁.held fresh (guarded i ready isGuarded))
 refine guarded.result arranged honest fresh guard prepared ran₂ (mem_of_mem_handovers mem).1 ?_
 exact guard.asItIs.imp_right fun asItIs =>
  (Named.copyable_of_handed arranged mem behind id (asItIs i isGuarded).1 (asItIs i isGuarded).2).1

end

theorem entry_statements (source : n.inputs = []) (vs : Variables) :
  preparation n vs = ([], vs) ∧ nodeStatements n vs =
   (.start n :: .run n vs :: (delivery n vs).1.map .assign, (delivery n vs).2) := by
 have unpassed : n.passes = [] := by simp [NodeView.passes, NodeView.input?, source]
 simp [nodeStatements, preparation, renewed, converted, source, unpassed, Variables.rename]

theorem Guarded.succeeds (arranged : Arranged (n :: rest)) (honest : Honest n)
  (guarded : Guarded (fun _ => True) (fun _ => True) (n :: rest) vs m) :
  ∃ obs m', executeAll b (nodeStatements n vs).1 m = some (obs, m') := by
 have fresh : ∀ m : Memory V, Fresh (fun _ => True) m := fun _ _ _ => trivial
 have guard : Guard fun _ => True := ⟨fun _ _ => trivial, .inl fun _ => trivial⟩
 have bound : ∀ {m : Memory V} {x}, Held (fun _ => True) m x → (m.bound x).isSome := by
  rintro m x ⟨k, here, _⟩
  simp [here]
 obtain ⟨m₁, prepared⟩ := assigns_succeed b (preparation n vs).1 (m := m) fun a mem x isRead => by
  obtain ⟨i, isRenewed, rfl⟩ := mem_map.mp mem
  have isInput : i ∈ n.inputs := by grind [renewed, converted]
  have name : vs.of i.id = x := by
   simp only [renewal] at isRead
   split at isRead <;> simp_all [Source.reads?]
  exact name ▸ bound (guarded i (ready_of_input arranged isInput) trivial)
 have readable : ∀ i ∈ n.inputs, (shown (preparation n vs).2 m₁ i.id).isSome := fun i isInput =>
  (isSome_value? _ _).trans (bound (guarded.prepare arranged honest (fresh m) guard prepared i isInput (.inr trivial)))
 obtain ⟨obs, ran⟩ : ∃ obs, executeAll b [.run n (preparation n vs).2] m₁ = some (obs, runNode b n (preparation n vs).2 m₁) :=
  ⟨_, by simp only [executeAll, Statement.execute, if_pos readable]; rfl⟩
 obtain ⟨m₃, delivered⟩ := assigns_succeed b (delivery n (preparation n vs).2).1 fun a mem x isRead => by
  obtain ⟨h, isShared, rfl⟩ := mem_map.mp mem
  cases isRead
  have isOutput := (mem_of_mem_handovers (mem_filter.mp isShared).1).1
  exact bound (guarded.result arranged honest (fresh m) guard prepared ran isOutput (.inl fun _ => trivial))
 have started : executeAll b [.start n] m = some ([], m) := rfl
 have all := executeAll_join b (executeAll_join b (executeAll_join b started prepared) ran) delivered
 exact ⟨_, m₃, by simpa [nodeStatements] using all⟩

section

variable {nodes later : List NodeView}
 (arranged : Arranged (nodes ++ later)) (honest : ∀ n ∈ nodes, Honest n)

include arranged honest

theorem Guarded.run {b : Behaviour V} (guard : Guard Q) (fresh : Fresh own m)
  (guarded : Guarded Q own (nodes ++ later) vs m) (ran : executeAll b (statements nodes vs).1 m = some (obs, m')) :
  Keeps own m m' ∧ Guarded Q own later (statements nodes vs).2 m' := by
 induction nodes generalizing vs m obs with
 | nil =>
  cases ran
  exact ⟨fun _ _ => rfl, guarded⟩
 | cons n nodes ih =>
  obtain ⟨_, m₁, _, done, rest⟩ := executeAll_split b _ ran
  obtain ⟨keeps, guarded⟩ := guarded.step arranged (honest n mem_cons_self) fresh guard done
  obtain ⟨more, guarded⟩ := ih arranged.tail (fun p mem => honest p (mem_cons_of_mem _ mem))
   ((executeAll_grows b done).fresh fresh) guarded rest
  exact ⟨keeps.trans more, guarded⟩

theorem Guarded.succeed (b : Behaviour V) (guarded : Guarded (fun _ => True) (fun _ => True) (nodes ++ later) vs m) :
  ∃ obs m', executeAll b (statements nodes vs).1 m = some (obs, m') := by
 induction nodes generalizing vs m with
 | nil => exact ⟨_, m, rfl⟩
 | cons n nodes ih =>
  have honest' := honest n mem_cons_self
  obtain ⟨obs, m₁, done⟩ := guarded.succeeds b arranged honest'
  obtain ⟨_, guarded⟩ := guarded.step arranged honest' (fun _ _ => trivial) ⟨fun _ _ => trivial, .inl fun _ => trivial⟩ done
  obtain ⟨more, m', rest⟩ := ih arranged.tail (fun p mem => honest p (mem_cons_of_mem _ mem)) guarded
  exact ⟨_, m', executeAll_join b done rest⟩

theorem written_statements : ∀ x ∈ (statements nodes vs).1.flatMap Statement.writes,
  Marked x ∨ ∃ s, Unwritten nodes s ∧ vs.of s = x := by
 induction nodes generalizing vs with
 | nil => simp [statements]
 | cons n nodes ih =>
  intro x written
  change x ∈ ((nodeStatements n vs).1 ++ (statements nodes (nodeStatements n vs).2).1).flatMap _ at written
  rw [flatMap_append, mem_append] at written
  rcases written with first | more
  · refine (written_node arranged (honest n mem_cons_self) x first).imp_right fun ⟨s, unwritten, name⟩ => ?_
    exact ⟨s, unwritten.mono (by simp), name⟩
  · refine (ih arranged.tail (fun p mem => honest p (mem_cons_of_mem _ mem)) x more).imp_right
     fun ⟨s, unwritten, name⟩ => ⟨s, unwritten.cons n, ?_⟩
    have plain : Plain (nodes ++ later) s := .inl (unwritten.mono fun _ => mem_append_left _)
    rw [← name, (plain_behind arranged (honest n mem_cons_self) vs plain).2.2]

theorem names_later {s : SocketId} (plain : Plain later s) : (statements nodes vs).2.of s = vs.of s := by
 induction nodes generalizing vs with
 | nil => rfl
 | cons n nodes ih =>
  have behind : Plain (nodes ++ later) s := plain.imp (.mono fun _ => mem_append_right _)
   fun ⟨i, isInput, found⟩ => ⟨i, by simp_all [inputs], found⟩
  exact (ih arranged.tail fun p mem => honest p (mem_cons_of_mem _ mem)).trans
   (plain_behind arranged (honest n mem_cons_self) vs behind).2.2

end
end AnimationGraph.Code
