import TensorGraph.Proofs.Changes

/-!
# Links from both ends

A link is written down twice: in a slot of the operator, and in the list of consumers or the
producer of the variable. In a consistent graph the two agree, and no variable is in two output
slots. Without the last part the others would not be kept: a variable that leaves one of two output
slots loses its producer, while the other slot still holds it.

Each call keeps a graph consistent whose ids have been handed out before (`KeysBelow`). For the
calls that make and break links this is shown by what they do to the slots (`holdsAt_bound`,
`holdsAt_unbound`, `holdsAt_detached`) and to the variables at the other ends.
-/

namespace TensorGraph

namespace Graph

/-! ## Definitions -/

/-- A slot of one side of an operator holds the variable. -/
def HoldsAt (g : Graph) (role : Role) (o : OperatorId) (slot : String) (v : VariableId) : Prop :=
  ∃ p, g.getOperator? o = some p ∧ (p.slots role).get? slot = some v

/-- Some slot of one side of an operator holds the variable. -/
def Holds (g : Graph) (role : Role) (o : OperatorId) (v : VariableId) : Prop :=
  ∃ slot, g.HoldsAt role o slot v

/-- Every node is stored under its own id. -/
structure Keyed (g : Graph) : Prop where
  /-- A variable is stored under its id. -/
  vars : ∀ {v w}, g.getVariable? v = some w → w.id = v
  /-- An operator is stored under its id. -/
  ops : ∀ {o p}, g.getOperator? o = some p → p.id = o

/-- The id of the next node of a kind. -/
def next (g : Graph) : (kind : NodeKind) → Id kind
  | .variable => g.nextVariable
  | .operator => g.nextOperator

@[simp]
theorem next_variable (g : Graph) : g.next .variable = g.nextVariable := rfl

@[simp]
theorem next_operator (g : Graph) : g.next .operator = g.nextOperator := rfl

/-- Every id that a node is stored under has been handed out. -/
structure KeysBelow (g : Graph) : Prop where
  /-- The next variable gets a greater id than all variables. -/
  vars : ∀ {v w}, g.getVariable? v = some w → v.toNat < g.nextVariable.toNat
  /-- The next operator gets a greater id than all operators. -/
  ops : ∀ {o p}, g.getOperator? o = some p → o.toNat < g.nextOperator.toNat

/-- What operators and variables say about their links agrees. -/
structure Consistent (g : Graph) : Prop where
  /-- A variable that a slot holds is in the graph. -/
  stored : ∀ {role o v}, g.Holds role o v → ∃ w, g.getVariable? v = some w
  /-- A variable knows of exactly those operators that hold it. -/
  linked : ∀ {v w}, g.getVariable? v = some w → ∀ role o, w.LinkedTo role o ↔ g.Holds role o v
  /-- A variable is in one output slot at most. -/
  single : ∀ {o o' slot slot' v}, g.HoldsAt .output o slot v → g.HoldsAt .output o' slot' v →
    o = o' ∧ slot = slot'

variable {g g' : Graph} {r role : Role} {o o' : OperatorId} {s slot : String} {u v : VariableId}
  {p : Operator} {w : Variable}

/-- What a stored operator holds is in its slots. -/
theorem holdsAt_iff (hp : g.getOperator? o = some p) :
    g.HoldsAt role o slot v ↔ (p.slots role).get? slot = some v := by
  unfold HoldsAt
  rw [hp]
  simp

/-- Some slot of a stored operator holds what is found in one. -/
theorem holds_iff (hp : g.getOperator? o = some p) :
    g.Holds role o v ↔ ∃ slot, (p.slots role).get? slot = some v :=
  exists_congr fun _ => holdsAt_iff hp

/-- An operator that is not there holds nothing. -/
theorem not_holdsAt_of_none (hp : g.getOperator? o = none) : ¬ g.HoldsAt role o slot v := by
  rintro ⟨p, hp', -⟩
  rw [hp] at hp'
  cases hp'

/-! ## The slots after each call -/

/-- The slots of all operators but one are as they were. -/
theorem holdsAt_congr (h : g'.getOperator? o = g.getOperator? o) :
    g'.HoldsAt role o slot v ↔ g.HoldsAt role o slot v := by
  unfold HoldsAt
  rw [h]

/-- Binding fills one slot. -/
theorem holdsAt_bound (hp : g.getOperator? o = some p)
    (hs : (p.slots role).get? slot = none) :
    (g.bound role o slot p v w).HoldsAt r o' s u ↔
      (r = role ∧ o' = o ∧ s = slot ∧ u = v) ∨ g.HoldsAt r o' s u := by
  by_cases ho : o' = o
  · subst ho
    have hp' : (g.bound role o' slot p v w).getOperator? o' = some (p.setSlot role slot v) := by
      rw [getOperator?_bound, if_pos rfl]
    rw [holdsAt_iff hp', holdsAt_iff hp, Operator.slots_setSlot]
    by_cases hr : r = role
    · subst hr
      rw [if_pos rfl, SortedMap.get?_insert]
      by_cases hslot : s = slot
      · subst hslot
        simp [hs, eq_comm]
      · simp [hslot]
    · simp [hr]
  · have hsame : (g.bound role o slot p v w).getOperator? o' = g.getOperator? o' := by
      rw [getOperator?_bound, if_neg ho]
    rw [holdsAt_congr hsame]
    simp [ho]

/-- Unbinding empties one slot. -/
theorem holdsAt_unbound (hp : g.getOperator? o = some p) :
    (g.unbound role o slot p v w).HoldsAt r o' s u ↔
      g.HoldsAt r o' s u ∧ ¬ (r = role ∧ o' = o ∧ s = slot) := by
  by_cases ho : o' = o
  · subst ho
    have hp' : (g.unbound role o' slot p v w).getOperator? o' = some (p.clearSlot role slot) := by
      rw [getOperator?_unbound, if_pos rfl]
    rw [holdsAt_iff hp', holdsAt_iff hp, Operator.slots_clearSlot]
    by_cases hr : r = role
    · subst hr
      rw [if_pos rfl, SortedMap.get?_erase]
      by_cases hslot : s = slot <;> simp [hslot]
    · simp [hr]
  · have hsame : (g.unbound role o slot p v w).getOperator? o' = g.getOperator? o' := by
      rw [getOperator?_unbound, if_neg ho]
    rw [holdsAt_congr hsame]
    simp [ho]

/-- A removal takes all slots of one operator away. -/
theorem holdsAt_detached : (g.detached o p).HoldsAt r o' s u ↔ g.HoldsAt r o' s u ∧ o' ≠ o := by
  by_cases ho : o' = o
  · have hnone : (g.detached o p).getOperator? o' = none := by
      rw [getOperator?_detached, if_pos ho]
    simp [ho ▸ not_holdsAt_of_none hnone, ho]
  · have hsame : (g.detached o p).getOperator? o' = g.getOperator? o' := by
      rw [getOperator?_detached, if_neg ho]
    rw [holdsAt_congr hsame]
    simp [ho]

/-! ## Ids -/

/-- A call counts one node of a kind or none. -/
theorem Step.next_eq (h : g.Step g') (kind : NodeKind) :
    g'.next kind = g.next kind ∨ (g.next kind).succ? = some (g'.next kind) := by
  cases h with
  | addVariable hw hn =>
    cases kind
    · exact Or.inr hn
    · exact Or.inl rfl
  | addOperator name parameters hn =>
    cases kind
    · exact Or.inl rfl
    · exact Or.inr hn
  | removeOperator hp =>
    left
    cases kind
    · exact nextVariable_detached _ _ _
    · exact nextOperator_detached _ _ _
  | reload hg =>
    left
    rw [eq_of_reload hg]
    cases kind <;> rfl
  | _ =>
    left
    cases kind <;> rfl

/-- No call moves a counter back. -/
theorem Step.next_le (h : g.Step g') (kind : NodeKind) :
    (g.next kind).toNat ≤ (g'.next kind).toNat := by
  rcases h.next_eq kind with heq | hsucc
  · rw [heq]
  · have hnext := Id.succ?_eq_some.1 hsucc
    omega

/-- The ids of the nodes stay below the ids that are handed out next. -/
theorem KeysBelow.step (h : g.KeysBelow) (hs : g.Step g') : g'.KeysBelow where
  vars := by
    intro v w' hw'
    rcases hs.of_getVariable? hw' with ⟨rfl, hsucc, -⟩ | ⟨w, hw, -⟩
    · have hnext := Id.succ?_eq_some.1 hsucc
      omega
    · exact lt_of_lt_of_le (h.vars hw) (hs.next_le .variable)
  ops := by
    intro o p' hp'
    rcases hs.of_getOperator? hp' with ⟨rfl, hsucc, -⟩ | ⟨p, hp, -⟩
    · have hnext := Id.succ?_eq_some.1 hsucc
      omega
    · exact lt_of_lt_of_le (h.ops hp) (hs.next_le .operator)

/-- Nodes stay stored under their own ids. -/
theorem Keyed.step (h : g.Keyed) (hs : g.Step g') : g'.Keyed where
  vars := by
    intro v w' hw'
    rcases hs.of_getVariable? hw' with ⟨-, -, shape, order, hc⟩ | ⟨w, hw, hchange⟩
    · obtain ⟨-, -, rfl⟩ := Variable.create_eq_ok.1 hc
      rfl
    · rw [hchange.id_eq]
      exact h.vars hw
  ops := by
    intro o p' hp'
    rcases hs.of_getOperator? hp' with ⟨rfl, -, name, parameters, rfl⟩ | ⟨p, hp, hchange⟩
    · rfl
    · rw [hchange.id_eq]
      exact h.ops hp

/-- No variable is stored under the id that is handed out next. -/
theorem KeysBelow.getVariable?_next (h : g.KeysBelow) : g.getVariable? g.nextVariable = none := by
  cases hw : g.getVariable? g.nextVariable with
  | none => rfl
  | some w => exact absurd (h.vars hw) (Nat.lt_irrefl _)

/-- No operator is stored under the id that is handed out next. -/
theorem KeysBelow.getOperator?_next (h : g.KeysBelow) : g.getOperator? g.nextOperator = none := by
  cases hp : g.getOperator? g.nextOperator with
  | none => rfl
  | some p => exact absurd (h.ops hp) (Nat.lt_irrefl _)

/-! ## Calls that leave the links alone -/

/-- A consistent graph stays consistent when the slots and what the variables know of their links
stay as they are. -/
theorem Consistent.congr (h : g.Consistent)
    (hslots : ∀ {r o s v}, g'.HoldsAt r o s v ↔ g.HoldsAt r o s v)
    (hkept : ∀ {v w}, g.getVariable? v = some w → ∃ w', g'.getVariable? v = some w')
    (hlinks : ∀ {v w'}, g'.getVariable? v = some w' →
      ∃ w, g.getVariable? v = some w ∧ ∀ r o, w'.LinkedTo r o ↔ w.LinkedTo r o) :
    g'.Consistent where
  stored := by
    rintro r o v ⟨s, hs⟩
    obtain ⟨w, hw⟩ := h.stored ⟨s, hslots.1 hs⟩
    exact hkept hw
  linked := by
    intro v w' hw' r o
    obtain ⟨w, hw, hiff⟩ := hlinks hw'
    rw [hiff, h.linked hw]
    exact exists_congr fun s => hslots.symm
  single := fun hs hs' => h.single (hslots.1 hs) (hslots.1 hs')

/-- Amending a variable leaves the links alone. -/
theorem Consistent.amendVariable (h : g.Consistent) {w' : Variable}
    (hw : g.getVariable? v = some w) (ha : w.Amended w') :
    (g.written [.putVariable v w']).Consistent := by
  obtain ⟨-, hconsumers, hproducer⟩ := ha.links
  refine h.congr Iff.rfl (fun {u x} hx => ?_) fun {u x'} hx' => ?_
  · rw [written_cons, written_nil, Write.getVariable?_putVariable]
    split
    · exact ⟨w', rfl⟩
    · exact ⟨x, hx⟩
  · rw [written_cons, written_nil, Write.getVariable?_putVariable] at hx'
    split at hx'
    · next hu =>
      obtain rfl := Option.some.inj hx'
      refine ⟨w, hu ▸ hw, fun r o => ?_⟩
      cases r with
      | input =>
        show o ∈ w'.consumers ↔ o ∈ w.consumers
        rw [hconsumers]
      | output =>
        show w'.producer = some o ↔ w.producer = some o
        rw [hproducer]
    · exact ⟨x', hx', fun _ _ => Iff.rfl⟩

/-- Amending an operator leaves the links alone. -/
theorem Consistent.amendOperator (h : g.Consistent) {p' : Operator}
    (hp : g.getOperator? o = some p) (ha : p.Amended p') :
    (g.written [.putOperator o p']).Consistent := by
  refine h.congr (fun {r q s v} => ?_) (fun {u x} hx => ⟨x, hx⟩)
    fun {u x'} hx' => ⟨x', hx', fun _ _ => Iff.rfl⟩
  have hget : ∀ q, (g.written [.putOperator o p']).getOperator? q =
      if q = o then some p' else g.getOperator? q := by
    intro q
    rw [written_cons, written_nil, Write.getOperator?_putOperator]
  by_cases hq : q = o
  · subst hq
    rw [holdsAt_iff ((hget q).trans (if_pos rfl)), holdsAt_iff hp, ha.slots_eq.2]
  · exact holdsAt_congr ((hget q).trans (if_neg hq))

/-- Changing the floats leaves the links alone. -/
theorem Consistent.mapFloats (h : g.Consistent) (f : Binary64 → Binary64) :
    (g.mapFloats f).Consistent := by
  refine h.congr (fun {r o s v} => ?_) (fun {u x} hx => ?_) fun {u x'} hx' => ?_
  · cases hp : g.getOperator? o with
    | none =>
      have hnone : (g.mapFloats f).getOperator? o = none := by
        rw [getOperator?_mapFloats, hp]
        rfl
      exact iff_of_false (not_holdsAt_of_none hnone) (not_holdsAt_of_none hp)
    | some p =>
      have hsome : (g.mapFloats f).getOperator? o = some (p.mapFloats f) := by
        rw [getOperator?_mapFloats, hp]
        rfl
      rw [holdsAt_iff hsome, holdsAt_iff hp]
      cases r <;> exact Iff.rfl
  · exact ⟨x.mapFloats f, by rw [getVariable?_mapFloats, hx]; rfl⟩
  · rw [getVariable?_mapFloats, Option.map_eq_some_iff] at hx'
    obtain ⟨x, hx, rfl⟩ := hx'
    exact ⟨x, hx, fun r o => by cases r <;> exact Iff.rfl⟩

/-! ## Calls that add and remove nodes -/

/-- A new variable has no links, and no slot holds its id. -/
theorem Consistent.addVariable (h : g.Consistent) (hkeys : g.KeysBelow) {shape : Shape}
    {order : AxisOrder} (next : VariableId)
    (hw : Variable.create g.nextVariable shape order = .ok w) :
    (g.written [.nextVariable next, .putVariable g.nextVariable w]).Consistent := by
  have hget : ∀ u, (g.written [.nextVariable next, .putVariable g.nextVariable w]).getVariable? u =
      if u = g.nextVariable then some w else g.getVariable? u := by
    intro u
    rw [written_cons, written_cons, written_nil, Write.getVariable?_putVariable,
      Write.getVariable?_nextVariable]
  refine ⟨fun {r o u} hu => ?_, fun {u x} hx r o => ?_, fun hs hs' => h.single hs hs'⟩
  · rw [hget]
    split
    · exact ⟨w, rfl⟩
    · exact h.stored hu
  · rw [hget] at hx
    split at hx
    · next hu =>
      obtain rfl := Option.some.inj hx
      obtain ⟨-, -, rfl⟩ := Variable.create_eq_ok.1 hw
      refine iff_of_false (Variable.isUnlinked_iff.1 rfl r o) fun hheld => ?_
      -- What a slot holds is stored, and nothing is stored under the new id yet.
      obtain ⟨y, hy⟩ := h.stored hheld
      rw [hu, hkeys.getVariable?_next] at hy
      cases hy
    · exact h.linked hx r o

/-- A new operator has no slots. -/
theorem Consistent.addOperator (h : g.Consistent) (hkeys : g.KeysBelow) (next : OperatorId)
    (name : String) (parameters : SortedMap String Parameter) :
    (g.written [.nextOperator next,
      .putOperator g.nextOperator (Rules.newOperator g name parameters)]).Consistent := by
  refine h.congr (fun {r o s v} => ?_) (fun {u x} hx => ⟨x, hx⟩)
    fun {u x'} hx' => ⟨x', hx', fun _ _ => Iff.rfl⟩
  have hget : ∀ q, (g.written [.nextOperator next,
      .putOperator g.nextOperator (Rules.newOperator g name parameters)]).getOperator? q =
      if q = g.nextOperator then some (Rules.newOperator g name parameters)
      else g.getOperator? q := by
    intro q
    rw [written_cons, written_cons, written_nil, Write.getOperator?_putOperator,
      Write.getOperator?_nextOperator]
  by_cases ho : o = g.nextOperator
  · subst ho
    rw [holdsAt_iff ((hget _).trans (if_pos rfl))]
    refine iff_of_false ?_ (not_holdsAt_of_none hkeys.getOperator?_next)
    cases r <;> exact fun hnew => nomatch hnew
  · exact holdsAt_congr ((hget o).trans (if_neg ho))

/-- A variable that leaves is held by no slot. -/
theorem Consistent.removeVariable (h : g.Consistent) (hw : g.getVariable? v = some w)
    (hl : w.isUnlinked = true) : (g.written [.dropVariable v]).Consistent := by
  have hget : ∀ u, (g.written [.dropVariable v]).getVariable? u =
      if u = v then none else g.getVariable? u := by
    intro u
    rw [written_cons, written_nil, Write.getVariable?_dropVariable]
  refine ⟨fun {r o u} hu => ?_, fun {u x} hx r o => ?_, fun hs hs' => h.single hs hs'⟩
  · rw [hget, if_neg]
    · exact h.stored hu
    · rintro rfl
      exact Variable.isUnlinked_iff.1 hl r o ((h.linked hw r o).2 hu)
  · rw [hget] at hx
    split at hx
    · cases hx
    · exact h.linked hx r o

/-- The variables that an operator leaves behind know of it no more. -/
theorem Consistent.removeOperator (h : g.Consistent) (hp : g.getOperator? o = some p) :
    (g.detached o p).Consistent := by
  refine ⟨?_, ?_, ?_⟩
  · rintro r o' u ⟨s, hs⟩
    obtain ⟨x, hx⟩ := h.stored ⟨s, (holdsAt_detached.1 hs).1⟩
    rw [getVariable?_detached, hx]
    exact ⟨x.without o p u, rfl⟩
  · intro u x' hx' r o'
    rw [getVariable?_detached, Option.map_eq_some_iff] at hx'
    obtain ⟨x, hx, rfl⟩ := hx'
    -- Before the removal the variable knew of the operator exactly where it was held.
    have hown : ∀ r, x.LinkedTo r o ↔ ∃ s, (p.slots r).get? s = some u :=
      fun r => (h.linked hx r o).trans (holds_iff hp)
    rw [Variable.linkedTo_without hown, h.linked hx]
    unfold Holds
    simp only [holdsAt_detached, exists_and_right]
  · intro o₁ o₂ s₁ s₂ u hs₁ hs₂
    exact h.single (holdsAt_detached.1 hs₁).1 (holdsAt_detached.1 hs₂).1

/-! ## Calls that make and break links -/

/-- No output slot holds a variable that has no producer. -/
theorem Consistent.not_holdsAt_output (h : g.Consistent) (hw : g.getVariable? v = some w)
    (hfree : w.producer = none) : ¬ g.HoldsAt .output o slot v := by
  intro hheld
  have hproducer : w.producer = some o := (h.linked hw .output o).2 ⟨slot, hheld⟩
  rw [hfree] at hproducer
  cases hproducer

/-- A slot that is empty takes a variable. -/
theorem Consistent.bind (h : g.Consistent) (hp : g.getOperator? o = some p)
    (hw : g.getVariable? v = some w) (hs : (p.slots role).get? slot = none)
    (hfree : role = .output → w.producer = none) : (g.bound role o slot p v w).Consistent := by
  have hnot : role = .output → ∀ {o' s}, ¬ g.HoldsAt .output o' s v :=
    fun hr => h.not_holdsAt_output hw (hfree hr)
  refine ⟨?_, ?_, ?_⟩
  · rintro r o' u ⟨s, hheld⟩
    rw [getVariable?_bound]
    split
    · exact ⟨_, rfl⟩
    · next hu =>
      rcases (holdsAt_bound hp hs).1 hheld with ⟨-, -, -, he⟩ | hheld
      · exact absurd he hu
      · exact h.stored ⟨s, hheld⟩
  · intro u x hx r o'
    rw [getVariable?_bound] at hx
    unfold Holds
    simp only [holdsAt_bound hp hs, exists_or]
    split at hx
    · next hu =>
      obtain rfl := Option.some.inj hx
      subst hu
      rw [Variable.linkedTo_join r o o' hfree, h.linked hw]
      simp [Holds]
    · next hu =>
      rw [h.linked hx]
      simp [Holds, hu]
  · intro o₁ o₂ s₁ s₂ u hs₁ hs₂
    -- Each of the two output slots is the new one or was filled before.
    rcases (holdsAt_bound hp hs).1 hs₁ with ⟨hr, ho₁, hslot₁, hu⟩ | hs₁
    · rcases (holdsAt_bound hp hs).1 hs₂ with ⟨-, ho₂, hslot₂, -⟩ | hs₂
      · exact ⟨ho₁.trans ho₂.symm, hslot₁.trans hslot₂.symm⟩
      · exact absurd (hu ▸ hs₂) (hnot hr.symm)
    · rcases (holdsAt_bound hp hs).1 hs₂ with ⟨hr, -, -, hu⟩ | hs₂
      · exact absurd (hu ▸ hs₁) (hnot hr.symm)
      · exact h.single hs₁ hs₂

/-- A slot gives its variable up. -/
theorem Consistent.unbind (h : g.Consistent) (hp : g.getOperator? o = some p)
    (hw : g.getVariable? v = some w) (hs : (p.slots role).get? slot = some v) :
    (g.unbound role o slot p v w).Consistent := by
  have hheld : g.HoldsAt role o slot v := (holdsAt_iff hp).2 hs
  have hp' := getOperator?_unbound_self g role o slot p v w
  -- The output slot of a variable is the only one.
  have hlast : role = .output → w.producer = some o ∧
      ∀ s, ((p.clearSlot role slot).slots .output).get? s ≠ some v := by
    intro hr
    subst hr
    refine ⟨(h.linked hw .output o).2 ⟨slot, hheld⟩, fun s hs' => ?_⟩
    obtain ⟨hs', hne⟩ := (holdsAt_unbound hp).1 ((holdsAt_iff hp').2 hs')
    exact hne ⟨rfl, rfl, (h.single hs' hheld).2⟩
  refine ⟨?_, ?_, ?_⟩
  · rintro r o' u ⟨s, hs'⟩
    rw [getVariable?_unbound]
    split
    · exact ⟨_, rfl⟩
    · exact h.stored ⟨s, ((holdsAt_unbound hp).1 hs').1⟩
  · intro u x hx r o'
    rw [getVariable?_unbound] at hx
    split at hx
    · next hu =>
      -- The released variable: it keeps the link where another slot of the operator holds it.
      obtain rfl := Option.some.inj hx
      subst hu
      rw [Variable.linkedTo_release r o' hlast, h.linked hw]
      constructor
      · rintro ⟨⟨s, hs'⟩, hother⟩
        by_cases hend : r = role ∧ o' = o
        · obtain ⟨rfl, rfl⟩ := hend
          exact (holds_iff hp').2 (hother rfl rfl)
        · exact ⟨s, (holdsAt_unbound hp).2 ⟨hs', fun hall => hend ⟨hall.1, hall.2.1⟩⟩⟩
      · rintro ⟨s, hs'⟩
        refine ⟨⟨s, ((holdsAt_unbound hp).1 hs').1⟩, fun hr ho => ?_⟩
        subst hr ho
        exact (holds_iff hp').1 ⟨s, hs'⟩
    · next hu =>
      -- Another variable: the slot that is emptied did not hold it.
      rw [h.linked hx]
      refine exists_congr fun s => ?_
      rw [holdsAt_unbound hp]
      refine (and_iff_left_of_imp fun hs' hall => hu ?_).symm
      obtain ⟨rfl, rfl, rfl⟩ := hall
      exact Option.some.inj (((holdsAt_iff hp).1 hs').symm.trans ((holdsAt_iff hp).1 hheld))
  · intro o₁ o₂ s₁ s₂ u hs₁ hs₂
    exact h.single ((holdsAt_unbound hp).1 hs₁).1 ((holdsAt_unbound hp).1 hs₂).1

/-- A slot changes its variable: it gives the old one up and takes the new one. -/
theorem Consistent.rebind (h : g.Consistent) {old new : VariableId} {x : Variable}
    (hp : g.getOperator? o = some p) (hw : g.getVariable? old = some w)
    (hx : g.getVariable? new = some x) (hs : (p.slots role).get? slot = some old) (hne : old ≠ new)
    (hfree : role = .output → x.producer = none) :
    ((g.unbound role o slot p old w).bound role o slot (p.clearSlot role slot) new x).Consistent :=
    by
  have hx' : (g.unbound role o slot p old w).getVariable? new = some x := by
    rw [getVariable?_unbound, if_neg hne.symm, hx]
  exact (h.unbind hp hw hs).bind (getOperator?_unbound_self ..) hx'
    (Operator.get?_clearSlot_self ..) hfree

/-! ## All calls -/

/-- Each call keeps a graph consistent whose ids have been handed out before. -/
theorem Consistent.step (h : g.Consistent) (hkeys : g.KeysBelow) (hs : g.Step g') :
    g'.Consistent := by
  cases hs with
  | same => exact h
  | addVariable hw hn => exact h.addVariable hkeys _ hw
  | addOperator name parameters hn => exact h.addOperator hkeys _ name parameters
  | bind hp hw hs hfree => exact h.bind hp hw hs hfree
  | unbind hp hw hs => exact h.unbind hp hw (Operator.get?_of_slot? hs)
  | rebind hp hw hx hs hne hfree =>
    exact h.rebind hp hw hx (Operator.get?_of_slot? hs) hne hfree
  | removeOperator hp => exact h.removeOperator hp
  | removeVariable hw hl => exact h.removeVariable hw hl
  | amendVariable hw ha => exact h.amendVariable hw ha
  | amendOperator hp ha => exact h.amendOperator hp ha
  | reload hg =>
    rw [eq_of_reload hg]
    exact h.mapFloats _

end Graph

end TensorGraph
