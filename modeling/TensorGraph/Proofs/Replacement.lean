import TensorGraph.Proofs.Atomicity
import TensorGraph.Proofs.Attempts
import TensorGraph.Proofs.Runs

/-!
# One variable in place of another

Putting one variable in place of another in a slot is emptying the slot and filling it again, with
the difference that it happens altogether or not at all (`attempt_rebind`). The two ways look at the
graph in different orders. By hand, the old variable is released before anything is asked of the new
one; at once, everything is asked before the first write, and where the two variables are the same
nothing is written. That they agree takes a consistent graph: a variable that is released and bound
again is as it was before only if it knew of the operator (`bound_unbound`).

The two roles differ when no slot can be found. For an output the error is that of emptying the
slot. An input asks for the new variable first and may fail because of that one instead.
-/

namespace TensorGraph

namespace Variable

variable {w w' w'' : Variable} {role : Role} {o : OperatorId} {p : Operator} {v : VariableId}

/-- A variable that knew of a link is as it was when it has been released and has joined again. -/
theorem join_release (h : w.LinkedTo role o) : (w.release role o p v).join role o = w := by
  cases role with
  | input =>
    have hjoin : w.consumers.insert o = w.consumers := SortedSet.insert_of_mem h
    rw [release]
    split
    · rw [join, addConsumer, dropConsumer, SortedSet.insert_erase, hjoin]
    · rw [join, addConsumer, hjoin]
  | output =>
    have hproducer : w.producer = some o := h
    rw [release, join, setProducer, setProducer, ← hproducer]

/-- The variables agree in everything but whether they have the operator as a consumer. -/
structure AgreeBut (o : OperatorId) (w w' : Variable) : Prop where
  /-- They carry the same and have the same producer. -/
  carried : w' = { w with consumers := w'.consumers }
  /-- They have the same other consumers. -/
  consumers : ∀ o', o' ≠ o → (o' ∈ w'.consumers ↔ o' ∈ w.consumers)

namespace AgreeBut

/-- A variable agrees with itself. -/
theorem refl (o : OperatorId) (w : Variable) : AgreeBut o w w := ⟨rfl, fun _ _ => Iff.rfl⟩

/-- Agreement goes on. -/
theorem trans (h : AgreeBut o w w') (h' : AgreeBut o w' w'') : AgreeBut o w w'' where
  carried := by
    have hcarried := h'.carried
    rwa [h.carried] at hcarried
  consumers := fun o' hne => (h'.consumers o' hne).trans (h.consumers o' hne)

/-- A variable that takes a consumer agrees with what it was. -/
theorem join (o : OperatorId) (w : Variable) : AgreeBut o w (w.join .input o) where
  carried := rfl
  consumers := fun o' hne => by
    show o' ∈ w.consumers.insert o ↔ _
    rw [SortedSet.mem_insert, or_iff_right hne]

/-- A variable that is given up by a consumer agrees with what it was. -/
theorem release (o : OperatorId) (p : Operator) (v : VariableId) (w : Variable) :
    AgreeBut o w (w.release .input o p v) := by
  rw [Variable.release]
  split
  · refine ⟨rfl, fun o' hne => ?_⟩
    show o' ∈ w.consumers.erase o ↔ _
    rw [SortedSet.mem_erase, and_iff_right hne]
  · exact refl o w

end AgreeBut

end Variable

namespace Graph

variable {g : Graph} {role : Role} {o : OperatorId} {slot : String} {v old new : VariableId}
  {p : Operator} {w x : Variable}

/-! ## Emptying a slot and filling it again -/

/-- In a consistent graph, a slot that is emptied and filled again with what it held makes the graph
what it was. -/
theorem bound_unbound (h : g.Consistent) (hp : g.getOperator? o = some p)
    (hw : g.getVariable? v = some w) (hs : (p.slots role).get? slot = some v) :
    (g.unbound role o slot p v w).bound role o slot (p.clearSlot role slot) v
      (w.release role o (p.clearSlot role slot) v) = g := by
  have hlinked : w.LinkedTo role o := (h.linked hw role o).2 ⟨slot, (holdsAt_iff hp).2 hs⟩
  refine ext_get? (fun u => ?_) (fun q => ?_) rfl rfl
  · rw [getVariable?_bound, getVariable?_unbound, Variable.join_release hlinked]
    split
    · next hu => rw [hu, hw]
    · rfl
  · rw [getOperator?_bound, getOperator?_unbound, Operator.setSlot_clearSlot,
      Operator.setSlot_of_get? hs]
    split
    · next hq => rw [hq, hp]
    · rfl

/-- In a consistent graph, a slot that has given a variable up takes it back, which makes the graph
what it was. -/
theorem attempt_bind_unbound (h : g.Consistent) (hp : g.getOperator? o = some p)
    (hw : g.getVariable? v = some w) (hs : (p.slots role).get? slot = some v) :
    (g.unbound role o slot p v w).attempt (.bind role o slot v) = .ok g := by
  have hw' : (g.unbound role o slot p v w).getVariable? v =
      some (w.release role o (p.clearSlot role slot) v) := by
    rw [getVariable?_unbound, if_pos rfl]
  -- What has left an output slot has no producer.
  have hfree : role = .output → (w.release role o (p.clearSlot role slot) v).producer = none := by
    rintro rfl
    rfl
  rw [attempt_bind (getOperator?_unbound_self ..) hw' (p.get?_clearSlot_self role slot) hfree,
    bound_unbound h hp hw hs]

/-! ## Replacing at once -/

/-- Putting a variable in its own place changes nothing. -/
theorem attempt_rebind_self (hs : g.slotOf role o v = .ok slot) :
    g.attempt (.rebind role o v v) = .ok g := by
  obtain ⟨w, p, hw, -, -⟩ := slotOf_eq_ok.1 hs
  cases role with
  | input =>
    rw [Call.rebind, attempt_of_rule (.rebindInput (.same hw hs rfl))]
    rfl
  | output =>
    rw [Call.rebind, attempt_of_rule (.rebindOutput (.same hs rfl))]
    rfl

/-- Nothing takes the place of a variable that is not there. -/
theorem attempt_rebind_of_missing (hs : g.slotOf role o old = .ok slot) (hne : old ≠ new)
    (hx : g.getVariable? new = none) :
    g.attempt (.rebind role o old new) = .error (.refused (.unknownVariable new)) := by
  cases role with
  | input =>
    rw [Call.rebind, attempt_of_rule (.rebindInput (.noVariable hx))]
    rfl
  | output =>
    rw [Call.rebind, attempt_of_rule (.rebindOutput (.noVariable hs hne hx))]
    rfl

/-- A variable that has a producer takes no place in an output slot. -/
theorem attempt_rebind_of_conflict {q : OperatorId} (hs : g.slotOf .output o old = .ok slot)
    (hne : old ≠ new) (hx : g.getVariable? new = some x) (hq : x.producer = some q) :
    g.attempt (.rebind .output o old new) = .error (.refused (.outputConflict new q)) := by
  rw [Call.rebind, attempt_of_rule (.rebindOutput (.conflict hs hne hx hq))]
  rfl

/-- A variable that may be bound to the slot takes the place of another one. -/
theorem attempt_rebind_of_free (hp : g.getOperator? o = some p) (hw : g.getVariable? old = some w)
    (hx : g.getVariable? new = some x) (hs : p.slot? role old = some slot) (hne : old ≠ new)
    (hfree : role = .output → x.producer = none) :
    g.attempt (.rebind role o old new) =
      .ok ((g.unbound role o slot p old w).bound role o slot (p.clearSlot role slot) new x) := by
  rw [← written_rebindWrites slot hw hne]
  cases role with
  | input =>
    rw [Call.rebind, attempt_of_rule (.rebindInput (.rebound hp hw hx hs hne))]
    rfl
  | output =>
    rw [Call.rebind, attempt_of_rule (.rebindOutput (.rebound hp hw hx hs hne (hfree rfl)))]
    rfl

/-- A variable takes the place of another one exactly where a slot is found for the other one and
it may be bound to the slot. -/
theorem attempt_rebind_eq_ok {g' : Graph} (hne : old ≠ new) :
    g.attempt (.rebind role o old new) = .ok g' ↔
      ∃ slot p w x, g.getOperator? o = some p ∧ g.getVariable? old = some w ∧
        g.getVariable? new = some x ∧ p.slot? role old = some slot ∧
        (role = .output → x.producer = none) ∧
        g' = (g.unbound role o slot p old w).bound role o slot (p.clearSlot role slot) new x := by
  constructor
  · intro h
    cases role with
    | input =>
      have hrule := Edit.perform_rebindInput.1 (rfl : (Edit.rebindInput o old new).perform g = _)
      rw [Call.rebind, attempt_of_rule (.rebindInput hrule)] at h
      generalize (Edit.rebindInput o old new).perform g = out at hrule h
      cases hrule with
      | noVariable hx => cases h
      | noSlot hx hs => cases h
      | same hx hs he => exact absurd he hne
      | rebound hp hw hx hs _ =>
        refine ⟨_, _, _, _, hp, hw, hx, hs, by simp, ?_⟩
        rw [← written_rebindWrites _ hw hne]
        exact (Except.ok.inj h).symm
    | output =>
      have hrule := Edit.perform_rebindOutput.1 (rfl : (Edit.rebindOutput o old new).perform g = _)
      rw [Call.rebind, attempt_of_rule (.rebindOutput hrule)] at h
      generalize (Edit.rebindOutput o old new).perform g = out at hrule h
      cases hrule with
      | noSlot hs => cases h
      | same hs he => exact absurd he hne
      | noVariable hs _ hx => cases h
      | conflict hs _ hx hq => cases h
      | rebound hp hw hx hs _ hfree =>
        refine ⟨_, _, _, _, hp, hw, hx, hs, fun _ => hfree, ?_⟩
        rw [← written_rebindWrites _ hw hne]
        exact (Except.ok.inj h).symm
  · rintro ⟨slot, p, w, x, hp, hw, hx, hs, hfree, rfl⟩
    exact attempt_rebind_of_free hp hw hx hs hne hfree

/-! ## The two ways agree -/

/-- In a consistent graph, putting a variable in the place of one that a slot is found for does what
emptying the slot and filling it again does: both lead to the same graph or fail for the same
reason. -/
theorem attempt_rebind (h : g.Consistent) (hs : g.slotOf role o old = .ok slot)
    (new : VariableId) :
    g.attempt (.rebind role o old new) =
      (g.attempt (.unbind role o old)).bind fun g₁ => g₁.attempt (.bind role o slot new) := by
  obtain ⟨w, p, hw, hp, hslot⟩ := slotOf_eq_ok.1 hs
  rw [attempt_unbind hp hw hslot]
  show _ = (g.unbound role o slot p old w).attempt (.bind role o slot new)
  by_cases hne : old = new
  · subst hne
    rw [attempt_rebind_self hs, attempt_bind_unbound h hp hw (Operator.get?_of_slot? hslot)]
  · -- What has not been released is there as it was.
    have hempty := p.get?_clearSlot_self role slot
    have hsame : (g.unbound role o slot p old w).getVariable? new = g.getVariable? new := by
      rw [getVariable?_unbound, if_neg (Ne.symm hne)]
    cases hx : g.getVariable? new with
    | none =>
      rw [attempt_rebind_of_missing hs hne hx,
        attempt_bind_of_missing (getOperator?_unbound_self ..) (hsame.trans hx)]
    | some x =>
      by_cases hfree : role = .output → x.producer = none
      · rw [attempt_rebind_of_free hp hw hx hslot hne hfree,
          attempt_bind (getOperator?_unbound_self ..) (hsame.trans hx) hempty hfree]
      · obtain ⟨rfl, hproducer⟩ := Classical.not_imp.1 hfree
        obtain ⟨q, hq⟩ := Option.ne_none_iff_exists'.1 hproducer
        rw [attempt_rebind_of_conflict hs hne hx hq,
          attempt_bind_of_conflict (getOperator?_unbound_self ..) (hsame.trans hx) hempty hq]

/-! ## Inputs -/

/-- A slot that is emptied and filled again is the one that changes what it holds. -/
theorem holdsAt_bound_unbound (hp : g.getOperator? o = some p) {r : Role} {o' : OperatorId}
    {s : String} {u : VariableId} :
    ((g.unbound role o slot p old w).bound role o slot (p.clearSlot role slot) new x).HoldsAt
        r o' s u ↔
      if r = role ∧ o' = o ∧ s = slot then u = new else g.HoldsAt r o' s u := by
  rw [holdsAt_bound (getOperator?_unbound_self ..) (p.get?_clearSlot_self role slot),
    holdsAt_unbound hp]
  split
  · next hat => simp [hat]
  · next hat =>
    rw [and_iff_left hat]
    exact or_iff_right fun hnew => hat ⟨hnew.1, hnew.2.1, hnew.2.2.1⟩

/-- An input slot that gives one variable up and takes another one changes one consumer of each. -/
theorem exists_agreeBut (hw : g.getVariable? old = some w)
    (hx : (g.unbound .input o slot p old w).getVariable? new = some x) {u : VariableId}
    {y : Variable} (hy : g.getVariable? u = some y) :
    ∃ y', ((g.unbound .input o slot p old w).bound .input o slot (p.clearSlot .input slot) new
        x).getVariable? u = some y' ∧ Variable.AgreeBut o y y' := by
  have hrelease := Variable.AgreeBut.release o (p.clearSlot .input slot) old w
  obtain ⟨y₁, hy₁, hreleased⟩ := exists_update_of_some (Variable.AgreeBut.refl o) hw hrelease hy
  rw [← getVariable?_unbound] at hy₁
  have hjoin := Variable.AgreeBut.join o x
  obtain ⟨y₂, hy₂, hjoined⟩ := exists_update_of_some (Variable.AgreeBut.refl o) hx hjoin hy₁
  rw [← getVariable?_bound] at hy₂
  exact ⟨y₂, hy₂, hreleased.trans hjoined⟩

/-- What an input slot that has taken `new` in the place of `old` makes of a graph. -/
structure Exchanged (g g' : Graph) (o : OperatorId) (slot : String) (old new : VariableId) :
    Prop where
  /-- The operator has the new variable in the slot and is otherwise as it was. -/
  operator : ∃ p, g.getOperator? o = some p ∧ g'.getOperator? o = some (p.setInput slot new)
  /-- The other operators are as they were. -/
  operators : ∀ o', o' ≠ o → g'.getOperator? o' = g.getOperator? o'
  /-- The other slots hold what they held. -/
  slots : ∀ r o' s u, g'.HoldsAt r o' s u ↔
    if r = .input ∧ o' = o ∧ s = slot then u = new else g.HoldsAt r o' s u
  /-- The operator reads the old variable only if this is the new one too, or if another slot holds
  it. -/
  old_consumers : ∃ w, g'.getVariable? old = some w ∧
    (o ∈ w.consumers ↔ old = new ∨ ∃ s, s ≠ slot ∧ g.HoldsAt .input o s old)
  /-- The operator reads the new variable. -/
  new_consumers : ∃ x, g'.getVariable? new = some x ∧ o ∈ x.consumers
  /-- Nothing else about the two variables has changed. -/
  ends : ∀ v w, g.getVariable? v = some w →
    ∃ w', g'.getVariable? v = some w' ∧ Variable.AgreeBut o w w'
  /-- The other variables are as they were. -/
  bystanders : ∀ v, v ≠ old → v ≠ new → g'.getVariable? v = g.getVariable? v
  /-- No id has been handed out. -/
  counters : g'.nextVariable = g.nextVariable ∧ g'.nextOperator = g.nextOperator

/-- In a consistent graph in which an input slot of an operator has taken the variable `new`, the
operator reads this one and what its other input slots held. -/
theorem Consistent.reads_iff {g' : Graph} (h : g'.Consistent)
    (hslots : ∀ s u, g'.HoldsAt .input o s u ↔
      if s = slot then u = new else g.HoldsAt .input o s u)
    {u : VariableId} {y : Variable} (hy : g'.getVariable? u = some y) :
    o ∈ y.consumers ↔ u = new ∨ ∃ s, s ≠ slot ∧ g.HoldsAt .input o s u := by
  refine (h.linked hy .input o).trans ?_
  unfold Holds
  simp only [hslots]
  constructor
  · rintro ⟨s, hheld⟩
    split at hheld
    · exact .inl hheld
    · next hne => exact .inr ⟨s, hne, hheld⟩
  · rintro (hnew | ⟨s, hne, hheld⟩)
    · exact ⟨slot, by rwa [if_pos rfl]⟩
    · exact ⟨s, by rwa [if_neg hne]⟩

/-- In a consistent graph, emptying an input slot and filling it again exchanges its variable. -/
theorem Consistent.exchanged (h : g.Consistent) (hp : g.getOperator? o = some p)
    (hw : g.getVariable? old = some w) (hs : p.slot? .input old = some slot)
    (hx : (g.unbound .input o slot p old w).getVariable? new = some x) :
    g.Exchanged ((g.unbound .input o slot p old w).bound .input o slot (p.clearSlot .input slot)
      new x) o slot old new := by
  have hheld : (p.slots .input).get? slot = some old := Operator.get?_of_slot? hs
  have hcons := (h.unbind hp hw hheld).bind (getOperator?_unbound_self ..) hx
    (p.get?_clearSlot_self .input slot) fun hr => by cases hr
  have hslots : ∀ s u, ((g.unbound .input o slot p old w).bound .input o slot
      (p.clearSlot .input slot) new x).HoldsAt .input o s u ↔
      if s = slot then u = new else g.HoldsAt .input o s u := by
    intro s u
    rw [holdsAt_bound_unbound hp]
    simp only [true_and]
  have hnew : ((g.unbound .input o slot p old w).bound .input o slot (p.clearSlot .input slot) new
      x).getVariable? new = some (x.join .input o) := by
    rw [getVariable?_bound, if_pos rfl]
  obtain ⟨w', hw', -⟩ := exists_agreeBut hw hx hw
  refine
    { operator := ⟨p, hp, ?_⟩
      operators := fun o' hne => ?_
      slots := fun r o' s u => holdsAt_bound_unbound hp
      old_consumers := ⟨w', hw', hcons.reads_iff hslots hw'⟩
      new_consumers := ⟨_, hnew, (hcons.reads_iff hslots hnew).2 (.inl rfl)⟩
      ends := fun v y hy => exists_agreeBut hw hx hy
      bystanders := fun u hold hnew => ?_
      counters := ⟨rfl, rfl⟩ }
  · rw [getOperator?_bound, if_pos rfl, Operator.setSlot_clearSlot]
    rfl
  · rw [getOperator?_bound, if_neg hne, getOperator?_unbound, if_neg hne]
  · rw [getVariable?_bound, if_neg hnew, getVariable?_unbound, if_neg hold]

/-- In a consistent graph, an operator that has emptied an input slot reads the variable exactly if
another slot holds it. -/
theorem Consistent.reads_unbound (h : g.Consistent) (hp : g.getOperator? o = some p)
    (hw : g.getVariable? v = some w) (hs : p.slot? .input v = some slot) :
    ∃ w₁, (g.unbound .input o slot p v w).getVariable? v = some w₁ ∧
      (o ∈ w₁.consumers ↔ ∃ s, s ≠ slot ∧ g.HoldsAt .input o s v) := by
  have hw₁ : (g.unbound .input o slot p v w).getVariable? v =
      some (w.release .input o (p.clearSlot .input slot) v) := by
    rw [getVariable?_unbound, if_pos rfl]
  have hheld : (p.slots .input).get? slot = some v := Operator.get?_of_slot? hs
  refine ⟨_, hw₁, ((h.unbind hp hw hheld).linked hw₁ .input o).trans ?_⟩
  unfold Holds
  simp only [holdsAt_unbound hp, true_and]
  exact exists_congr fun s => and_comm

/-- In a consistent graph, a variable that is there takes the place of one that an input slot is
found for, by hand as at once. -/
theorem Consistent.exists_exchanged (h : g.Consistent) (hx : g.getVariable? new = some x)
    (hs : g.inputSlot o old = .ok slot) :
    ∃ g₁ g₂ w₁, g.attempt (.unbindInput o old) = .ok g₁ ∧
      g₁.attempt (.bindInput o slot new) = .ok g₂ ∧
      g.attempt (.rebindInput o old new) = .ok g₂ ∧ g₁.getVariable? old = some w₁ ∧
      (o ∈ w₁.consumers ↔ ∃ s, s ≠ slot ∧ g.HoldsAt .input o s old) ∧
      g.Exchanged g₂ o slot old new := by
  have hfound : g.slotOf .input o old = .ok slot := hs
  obtain ⟨w, p, hw, hp, hslot⟩ := slotOf_eq_ok.1 hfound
  -- The new variable is there when the slot has been emptied, if only as what has been released.
  obtain ⟨x', hx'⟩ : ∃ x', (g.unbound .input o slot p old w).getVariable? new = some x' := by
    rw [getVariable?_unbound]
    split
    · exact ⟨_, rfl⟩
    · exact ⟨x, hx⟩
  have hunbind := attempt_unbind hp hw hslot
  have hbind := attempt_bind (getOperator?_unbound_self ..) hx'
    (p.get?_clearSlot_self .input slot) fun hr => by cases hr
  have hagree := attempt_rebind h hfound new
  rw [hunbind] at hagree
  obtain ⟨w₁, hw₁, hread⟩ := h.reads_unbound hp hw hslot
  exact ⟨_, _, w₁, hunbind, hbind, hagree.trans hbind, hw₁, hread, h.exchanged hp hw hslot hx'⟩

/-- Where a variable has taken the place of another one in an input slot, it was there, and a slot
was found for the other one. -/
theorem exists_of_attempt_rebindInput {g' : Graph}
    (h : g.attempt (.rebindInput o old new) = .ok g') :
    (∃ x, g.getVariable? new = some x) ∧ ∃ slot, g.inputSlot o old = .ok slot := by
  have hrule := Edit.perform_rebindInput.1 (rfl : (Edit.rebindInput o old new).perform g = _)
  rw [attempt_of_rule (.rebindInput hrule)] at h
  generalize (Edit.rebindInput o old new).perform g = out at hrule h
  cases hrule with
  | noVariable hx => cases h
  | noSlot hx hs => cases h
  | same hx hs he => exact ⟨⟨_, hx⟩, _, hs⟩
  | rebound hp hw hx hs hne => exact ⟨⟨_, hx⟩, _, slotOf_eq_ok.2 ⟨_, _, hw, hp, hs⟩⟩

/-- After every history that starts with the empty graph, putting `new` in the place of `old` in an
input slot succeeds exactly when `new` is in the graph and a slot is found for `old`. It then makes
the graph that emptying the slot and filling it again makes, both of which succeed. Once the slot is
empty the operator reads `old` exactly if another slot holds it. In the end the slot holds `new`,
the operator reads `new`, it reads `old` exactly if another slot holds it or if the two are the
same, and nothing else has changed. -/
theorem run_empty_rebindInput (calls : List Call) (o : OperatorId) (old new : VariableId) :
    let g := (∅ : Graph).run calls
    ((∃ g', g.attempt (.rebindInput o old new) = .ok g') ↔
      (∃ x, g.getVariable? new = some x) ∧ ∃ slot, g.inputSlot o old = .ok slot) ∧
    ∀ x slot, g.getVariable? new = some x → g.inputSlot o old = .ok slot →
      ∃ g₁ g₂ w₁, g.attempt (.unbindInput o old) = .ok g₁ ∧
        g₁.attempt (.bindInput o slot new) = .ok g₂ ∧
        g.attempt (.rebindInput o old new) = .ok g₂ ∧ g₁.getVariable? old = some w₁ ∧
        (o ∈ w₁.consumers ↔ ∃ s, s ≠ slot ∧ g.HoldsAt .input o s old) ∧
        g.Exchanged g₂ o slot old new := by
  intro g
  have hcons : g.Consistent := consistent_empty.run keysBelow_empty calls
  refine ⟨⟨?_, ?_⟩, fun x slot hx hs => hcons.exists_exchanged hx hs⟩
  · rintro ⟨g', hg'⟩
    exact exists_of_attempt_rebindInput hg'
  · rintro ⟨⟨x, hx⟩, slot, hs⟩
    obtain ⟨-, g₂, -, -, -, hg₂, -⟩ := hcons.exists_exchanged hx hs
    exact ⟨g₂, hg₂⟩

/-- An operator that reads one variable twice and another one once, and that writes two more. -/
def sharedCalls : List Call :=
  [.addVariable [2] .c, .addVariable [2] .c, .addVariable [2] .c, .addVariable [2] .c,
    .addOperator "f" ∅, .bindInput ⟨0⟩ "a" ⟨0⟩, .bindInput ⟨0⟩ "b" ⟨0⟩, .bindInput ⟨0⟩ "c" ⟨1⟩,
    .bindOutput ⟨0⟩ "y" ⟨2⟩, .bindOutput ⟨0⟩ "z" ⟨3⟩]

/-- The graph with that operator. -/
def shared : Graph := Graph.run ∅ sharedCalls

/-- Where the second variable that the operator reads takes one of the two places of the first one,
the operator keeps reading both, and it reads the first one in the other place. -/
theorem run_empty_rebindInput_shared :
    shared.inputSlot ⟨0⟩ ⟨0⟩ = .ok "a" ∧
    ∃ g₁ g₂, shared.attempt (.unbindInput ⟨0⟩ ⟨0⟩) = .ok g₁ ∧
      g₁.attempt (.bindInput ⟨0⟩ "a" ⟨1⟩) = .ok g₂ ∧
      shared.attempt (.rebindInput ⟨0⟩ ⟨0⟩ ⟨1⟩) = .ok g₂ ∧
      g₂.HoldsAt .input ⟨0⟩ "b" ⟨0⟩ ∧ ∃ w, g₂.getVariable? ⟨0⟩ = some w ∧ ⟨0⟩ ∈ w.consumers := by
  have hslot : shared.inputSlot ⟨0⟩ ⟨0⟩ = .ok "a" := by decide +kernel
  obtain ⟨x, hx⟩ : ∃ x, shared.getVariable? ⟨1⟩ = some x :=
    Option.isSome_iff_exists.1 (by decide +kernel)
  have hheld : shared.HoldsAt .input ⟨0⟩ "b" ⟨0⟩ :=
    Option.bind_eq_some_iff.1 (by decide +kernel)
  obtain ⟨g₁, g₂, -, hunbind, hbind, hrebind, -, -, hex⟩ :=
    (run_empty_rebindInput sharedCalls ⟨0⟩ ⟨0⟩ ⟨1⟩).2 x "a" hx hslot
  obtain ⟨w, hw, hread⟩ := hex.old_consumers
  have hkept : g₂.HoldsAt .input ⟨0⟩ "b" ⟨0⟩ := by
    rw [hex.slots, if_neg (by decide)]
    exact hheld
  exact ⟨hslot, g₁, g₂, hunbind, hbind, hrebind, hkept, w, hw,
    hread.2 (.inr ⟨"b", by decide, hheld⟩)⟩

/-! ## Outputs -/

/-- Where no output slot is found for a variable, nothing takes its place. -/
theorem attempt_rebindOutput_of_error {reason : GraphError}
    (hs : g.slotOf .output o old = .error reason) :
    g.attempt (.rebindOutput o old new) = .error (.refused reason) := by
  rw [attempt_of_rule (.rebindOutput (.noSlot hs))]
  rfl

/-- After every history that starts with the empty graph, putting `new` in the place of `old` in an
output slot fails as emptying the slot does. The slot can be emptied exactly if there is one that
holds `old`. It is then the only one, and filling it again with `new` leads to the same graph or
fails for the same reason as putting `new` in its place at once. A failure leaves the graph as it
was. -/
theorem run_empty_rebindOutput (calls : List Call) (o : OperatorId) (old new : VariableId) :
    let g := (∅ : Graph).run calls
    (∀ e, g.attempt (.unbindOutput o old) = .error e →
      g.attempt (.rebindOutput o old new) = .error e) ∧
    ((∃ g₁, g.attempt (.unbindOutput o old) = .ok g₁) ↔ ∃ slot, g.HoldsAt .output o slot old) ∧
    (∀ g₁, g.attempt (.unbindOutput o old) = .ok g₁ →
      ∃ slot, (∀ s, g.HoldsAt .output o s old ↔ s = slot) ∧
        g₁.attempt (.bindOutput o slot new) = g.attempt (.rebindOutput o old new)) ∧
    ∀ e, g.attempt (.rebindOutput o old new) = .error e →
      g.after (.rebindOutput o old new) = g := by
  intro g
  have hcons : g.Consistent := consistent_empty.run keysBelow_empty calls
  have hexists : (∃ g₁, g.attempt (.unbind .output o old) = .ok g₁) ↔ g.Holds .output o old :=
    hcons.exists_attempt_unbind
  refine ⟨fun e he => ?_, hexists, fun g₁ hg₁ => ?_,
    fun e he => after_of_error (attempt_eq_error.1 he)⟩
  · have hunbind : g.attempt (.unbind .output o old) = .error e := he
    obtain ⟨reason, hs, rfl⟩ := attempt_unbind_eq_error.1 hunbind
    exact attempt_rebindOutput_of_error hs
  · have hunbind : g.attempt (.unbind .output o old) = .ok g₁ := hg₁
    obtain ⟨slot, p, w, hp, hw, hslot, rfl⟩ := attempt_unbind_eq_ok.1 hunbind
    have hheld : g.HoldsAt .output o slot old := (holdsAt_iff hp).2 (Operator.get?_of_slot? hslot)
    have honly : ∀ s, g.HoldsAt .output o s old ↔ s = slot := by
      intro s
      constructor
      · exact fun hs => (hcons.single hs hheld).2
      · rintro rfl
        exact hheld
    have hagree := attempt_rebind hcons (slotOf_eq_ok.2 ⟨w, p, hw, hp, hslot⟩) new
    rw [hunbind] at hagree
    exact ⟨slot, honly, hagree.symm⟩

/-- The operator writes both variables, so that the second one can take the place of the first one
neither at once nor by hand. -/
theorem run_empty_rebindOutput_shared :
    shared.attempt (.rebindOutput ⟨0⟩ ⟨2⟩ ⟨3⟩) = .error (.refused (.outputConflict ⟨3⟩ ⟨0⟩)) ∧
    (∃ g₁, shared.attempt (.unbindOutput ⟨0⟩ ⟨2⟩) = .ok g₁ ∧
      g₁.attempt (.bindOutput ⟨0⟩ "y" ⟨3⟩) = .error (.refused (.outputConflict ⟨3⟩ ⟨0⟩))) ∧
    shared.after (.rebindOutput ⟨0⟩ ⟨2⟩ ⟨3⟩) = shared := by
  have hconflict : shared.attempt (.rebindOutput ⟨0⟩ ⟨2⟩ ⟨3⟩) =
      .error (.refused (.outputConflict ⟨3⟩ ⟨0⟩)) := by decide +kernel
  have hheld : shared.HoldsAt .output ⟨0⟩ "y" ⟨2⟩ :=
    Option.bind_eq_some_iff.1 (by decide +kernel)
  obtain ⟨-, hexists, hagree, hkept⟩ := run_empty_rebindOutput sharedCalls ⟨0⟩ ⟨2⟩ ⟨3⟩
  obtain ⟨g₁, hg₁⟩ := hexists.2 ⟨"y", hheld⟩
  obtain ⟨slot, honly, hbind⟩ := hagree g₁ hg₁
  obtain rfl : "y" = slot := (honly "y").1 hheld
  exact ⟨hconflict, ⟨g₁, hg₁, hbind.trans hconflict⟩, hkept _ hconflict⟩

end Graph

end TensorGraph
