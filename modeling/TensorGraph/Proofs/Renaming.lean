import TensorGraph.Proofs.Detachment

/-!
# Giving operators other ids

`Graph.rename f g` is the graph in which each operator goes by another id, wherever the graph names
it: where it is stored, in the operator itself, and in what the variables know of their links. Where
`f` tells the stored operators apart (`Graph.Separates`), the links are those of `g` under the other
ids (`holdsAt_rename`), so that a consistent graph stays consistent (`Consistent.rename`).

`Id.replaced o n` renames a single operator. If no operator is stored under `n`, the graph that is
left when the renamed operator has been taken out is the one that is left when it is taken out under
its old id (`detached_rename`).
-/

namespace TensorGraph

/-- The id `n` in the place of `o`, and every other id as it is. -/
def Id.replaced {kind : NodeKind} (o n q : Id kind) : Id kind := if q = o then n else q

/-- The variable in which the operators go by other ids. -/
def Variable.rename (f : OperatorId → OperatorId) (w : Variable) : Variable :=
  { w with consumers := .ofList (w.consumers.toList.map f), producer := w.producer.map f }

/-- The operator under another id. -/
def Operator.rename (f : OperatorId → OperatorId) (p : Operator) : Operator :=
  { p with id := f p.id }

/-- The graph in which the operators go by other ids. -/
def Graph.rename (f : OperatorId → OperatorId) (g : Graph) : Graph :=
  { g with
    vars := g.vars.map (·.rename f)
    ops := .ofList (g.ops.toList.map fun e => (f e.1, e.2.rename f)) }

namespace Id

variable {kind : NodeKind} {o n q : Id kind}

/-- The id that is replaced. -/
@[simp]
theorem replaced_self : replaced o n o = n := if_pos rfl

/-- All other ids stay. -/
theorem replaced_of_ne (h : q ≠ o) : replaced o n q = q := if_neg h

/-- An id that is neither taken nor given stands for itself alone. -/
theorem eq_replaced_iff (hn : q ≠ n) {q' : Id kind} : q = replaced o n q' ↔ q' = q ∧ q ≠ o := by
  unfold replaced
  split
  · next h =>
    refine iff_of_false hn ?_
    rintro ⟨rfl, hne⟩
    exact hne h
  · next h =>
    constructor
    · rintro rfl
      exact ⟨rfl, h⟩
    · rintro ⟨rfl, -⟩
      rfl

end Id

namespace Variable

variable {f : OperatorId → OperatorId} {w : Variable} {role : Role} {o n q : OperatorId}

/-- A variable knows of its links under the other ids. -/
theorem linkedTo_rename :
    (w.rename f).LinkedTo role q ↔ ∃ q', w.LinkedTo role q' ∧ q = f q' := by
  cases role with
  | input =>
    show q ∈ SortedSet.ofList (w.consumers.toList.map f) ↔ ∃ q', q' ∈ w.consumers ∧ q = f q'
    rw [SortedSet.mem_ofList, List.mem_map]
    exact exists_congr fun q' => and_congr SortedSet.mem_toList eq_comm
  | output =>
    show w.producer.map f = some q ↔ ∃ q', w.producer = some q' ∧ q = f q'
    rw [Option.map_eq_some_iff]
    exact exists_congr fun q' => and_congr_right fun _ => eq_comm

/-- What a variable knows of its links is in its consumers and its producer. -/
theorem links_ext {w' : Variable} (h : ∀ r q, w.LinkedTo r q ↔ w'.LinkedTo r q) :
    w.consumers = w'.consumers ∧ w.producer = w'.producer :=
  ⟨SortedSet.ext_mem (h .input), Option.ext (h .output)⟩

/-- A variable that forgets an operator knows of its links to all others. -/
theorem linkedTo_forget : (w.forget o).LinkedTo role q ↔ w.LinkedTo role q ∧ q ≠ o := by
  cases role with
  | input => exact SortedSet.mem_erase.trans and_comm
  | output =>
    show (if w.producer = some o then none else w.producer) = some q ↔ w.producer = some q ∧ q ≠ o
    split
    · next ho =>
      refine iff_of_false (Option.some_ne_none q).symm fun hq => hq.2 ?_
      exact Option.some.inj (hq.1.symm.trans ho)
    · next ho =>
      refine (and_iff_left_of_imp fun hq => ?_).symm
      rintro rfl
      exact ho hq

/-- A variable that forgets an operator forgets it under its other id as well, if that was the id of
no operator that the variable had a link to. -/
theorem forget_rename (hn : ∀ r, ¬ w.LinkedTo r n) :
    (w.rename (Id.replaced o n)).forget n = w.forget o := by
  have hlinks : ∀ r q, ((w.rename (Id.replaced o n)).forget n).LinkedTo r q ↔
      (w.forget o).LinkedTo r q := by
    intro r q
    rw [linkedTo_forget, linkedTo_forget, linkedTo_rename]
    by_cases hq : q = n
    · -- The new id is forgotten on the left, and unknown on the right.
      subst hq
      exact iff_of_false (fun hlinked => hlinked.2 rfl) fun hlinked => hn r hlinked.1
    · simp only [Id.eq_replaced_iff hq, and_iff_left hq]
      constructor
      · rintro ⟨q', hlinked, rfl, hne⟩
        exact ⟨hlinked, hne⟩
      · rintro ⟨hlinked, hne⟩
        exact ⟨q, hlinked, rfl, hne⟩
  obtain ⟨hconsumers, hproducer⟩ := links_ext hlinks
  calc (w.rename (Id.replaced o n)).forget n
      = { w with
          consumers := ((w.rename (Id.replaced o n)).forget n).consumers
          producer := ((w.rename (Id.replaced o n)).forget n).producer } := rfl
    _ = w.forget o := by
      rw [hconsumers, hproducer]
      rfl

end Variable

/-- Another id makes no difference to the slots. -/
@[simp]
theorem Operator.slots_rename (f : OperatorId → OperatorId) (p : Operator) (role : Role) :
    (p.rename f).slots role = p.slots role := by
  cases role <;> rfl

namespace Graph

variable {f : OperatorId → OperatorId} {g : Graph} {role : Role} {o n q : OperatorId}
  {slot : String} {v : VariableId} {p p' : Operator}

/-- The function tells the operators of the graph apart. -/
def Separates (g : Graph) (f : OperatorId → OperatorId) : Prop :=
  ∀ {q q' p p'}, g.getOperator? q = some p → g.getOperator? q' = some p' → f q = f q' → q = q'

/-- One id can be replaced by one that no operator is stored under. -/
theorem separates_replaced (hn : g.getOperator? n = none) : g.Separates (Id.replaced o n) := by
  intro q q' p p' hp hp' heq
  have hstored : ∀ {q p}, g.getOperator? q = some p → q ≠ n := by
    rintro q p hq rfl
    rw [hn] at hq
    cases hq
  by_cases hq : q = o
  · by_cases hq' : q' = o
    · rw [hq, hq']
    · rw [hq, Id.replaced_self, Id.replaced_of_ne hq'] at heq
      exact absurd heq.symm (hstored hp')
  · rw [Id.replaced_of_ne hq] at heq
    exact ((Id.eq_replaced_iff (hstored hp)).1 heq).1.symm

/-! ## What a renamed graph holds -/

/-- Each variable is there as it is renamed. -/
theorem getVariable?_rename (f : OperatorId → OperatorId) (g : Graph) (v : VariableId) :
    (g.rename f).getVariable? v = (g.getVariable? v).map (·.rename f) :=
  SortedMap.get?_map _ g.vars v

/-- Operators that stay apart are found under their other ids. -/
theorem getOperator?_rename (hf : g.Separates f) :
    (g.rename f).getOperator? q = some p' ↔
      ∃ q' p, g.getOperator? q' = some p ∧ q = f q' ∧ p' = p.rename f := by
  -- No two of the renamed entries have one key, so that none is put in the place of another.
  have hapart : (g.ops.toList.map fun e => (f e.1, e.2.rename f)).Pairwise
      fun x y => x.1 ≠ y.1 := by
    refine List.pairwise_map.2 (g.ops.sorted.imp_of_mem fun hx hy hlt heq => ?_)
    exact Key.ne_of_lt hlt (hf (SortedMap.mem_toList.1 hx) (SortedMap.mem_toList.1 hy) heq)
  show (SortedMap.ofList (g.ops.toList.map fun e => (f e.1, e.2.rename f))).get? q = some p' ↔ _
  rw [SortedMap.get?_ofList_eq_some hapart, List.mem_map]
  constructor
  · rintro ⟨⟨q', p⟩, hmem, heq⟩
    obtain ⟨hq, hp⟩ := Prod.mk.inj heq
    exact ⟨q', p, SortedMap.mem_toList.1 hmem, hq.symm, hp.symm⟩
  · rintro ⟨q', p, hp, rfl, rfl⟩
    exact ⟨(q', p), SortedMap.mem_toList.2 hp, rfl⟩

/-- The slots of the operators are as they were, under the other ids. -/
theorem holdsAt_rename (hf : g.Separates f) :
    (g.rename f).HoldsAt role q slot v ↔ ∃ q', g.HoldsAt role q' slot v ∧ q = f q' := by
  constructor
  · rintro ⟨p', hp', hs⟩
    obtain ⟨q', p, hp, rfl, rfl⟩ := (getOperator?_rename hf).1 hp'
    rw [Operator.slots_rename] at hs
    exact ⟨q', ⟨p, hp, hs⟩, rfl⟩
  · rintro ⟨q', ⟨p, hp, hs⟩, rfl⟩
    refine ⟨p.rename f, (getOperator?_rename hf).2 ⟨q', p, hp, rfl, rfl⟩, ?_⟩
    rw [Operator.slots_rename, hs]

/-- A consistent graph stays consistent under ids that tell its operators apart. -/
theorem Consistent.rename (h : g.Consistent) (hf : g.Separates f) : (g.rename f).Consistent where
  stored := by
    rintro role q v ⟨slot, hheld⟩
    obtain ⟨q', hheld', -⟩ := (holdsAt_rename hf).1 hheld
    obtain ⟨w, hw⟩ := h.stored ⟨slot, hheld'⟩
    exact ⟨w.rename f, by rw [getVariable?_rename, hw]; rfl⟩
  linked := by
    intro v w' hw' role q
    rw [getVariable?_rename, Option.map_eq_some_iff] at hw'
    obtain ⟨w, hw, rfl⟩ := hw'
    rw [Variable.linkedTo_rename]
    unfold Holds
    constructor
    · rintro ⟨q', hlinked, hq⟩
      obtain ⟨slot, hheld⟩ := (h.linked hw role q').1 hlinked
      exact ⟨slot, (holdsAt_rename hf).2 ⟨q', hheld, hq⟩⟩
    · rintro ⟨slot, hheld⟩
      obtain ⟨q', hheld', hq⟩ := (holdsAt_rename hf).1 hheld
      exact ⟨q', (h.linked hw role q').2 ⟨slot, hheld'⟩, hq⟩
  single := by
    intro q₁ q₂ s₁ s₂ v hheld₁ hheld₂
    obtain ⟨q₁', hheld₁', rfl⟩ := (holdsAt_rename hf).1 hheld₁
    obtain ⟨q₂', hheld₂', rfl⟩ := (holdsAt_rename hf).1 hheld₂
    obtain ⟨rfl, hslot⟩ := h.single hheld₁' hheld₂'
    exact ⟨rfl, hslot⟩

/-! ## One operator under another id -/

/-- The operator is found under its new id. -/
theorem getOperator?_rename_replaced (hn : g.getOperator? n = none)
    (hp : g.getOperator? o = some p) :
    (g.rename (Id.replaced o n)).getOperator? n = some (p.rename (Id.replaced o n)) :=
  (getOperator?_rename (separates_replaced hn)).2 ⟨o, p, hp, Id.replaced_self.symm, rfl⟩

/-- The other operators are found as before, and none is found under the old id. -/
theorem getOperator?_rename_replaced_of_ne (hkeyed : g.Keyed) (hn : g.getOperator? n = none)
    (hq : q ≠ n) :
    (g.rename (Id.replaced o n)).getOperator? q = if q = o then none else g.getOperator? q := by
  refine Option.ext fun p' => ?_
  rw [getOperator?_rename (separates_replaced hn)]
  simp only [Id.eq_replaced_iff hq]
  split
  · next ho =>
    refine iff_of_false ?_ (Option.some_ne_none p').symm
    rintro ⟨q', p, -, ⟨-, hne⟩, -⟩
    exact hne ho
  · next ho =>
    -- An operator with another id than the old one is not changed.
    have hsame : ∀ {p}, g.getOperator? q = some p → p.rename (Id.replaced o n) = p := by
      intro p hp
      have hid : Id.replaced o n p.id = p.id := by
        rw [hkeyed.ops hp, Id.replaced_of_ne ho]
      rw [Operator.rename, hid]
    constructor
    · rintro ⟨q', p, hp, ⟨rfl, -⟩, rfl⟩
      rw [hsame hp, hp]
    · exact fun hp' => ⟨q, p', hp', ⟨rfl, ho⟩, (hsame hp').symm⟩

/-- Taking an operator out of a consistent graph leaves what taking it out under a new id leaves. -/
theorem Consistent.detached_rename (h : g.Consistent) (hkeyed : g.Keyed)
    (hn : g.getOperator? n = none) (hp : g.getOperator? o = some p) :
    (g.rename (Id.replaced o n)).detached n (p.rename (Id.replaced o n)) = g.detached o p := by
  have hout := h.takenOut hp
  have hout' := (h.rename (separates_replaced hn)).takenOut (getOperator?_rename_replaced hn hp)
  refine ext_get? (fun v => ?_) (fun q => ?_) ?_ ?_
  · rw [hout'.vars, hout.vars, getVariable?_rename]
    cases hw : g.getVariable? v with
    | none => rfl
    | some w =>
      have hunlinked : ∀ r, ¬ w.LinkedTo r n := by
        intro r hlinked
        obtain ⟨slot, hheld⟩ := (h.linked hw r n).1 hlinked
        exact not_holdsAt_of_none hn hheld
      exact congrArg some (Variable.forget_rename hunlinked)
  · rw [hout'.ops, hout.ops]
    by_cases hq : q = n
    · -- Neither graph has an operator under the new id.
      rw [if_pos hq, hq, hn, ite_self]
    · rw [if_neg hq, getOperator?_rename_replaced_of_ne hkeyed hn hq]
  · rw [hout'.counters.1, hout.counters.1]
    rfl
  · rw [hout'.counters.2, hout.counters.2]
    rfl

end Graph

end TensorGraph
