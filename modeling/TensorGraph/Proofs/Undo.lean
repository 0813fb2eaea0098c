import TensorGraph.Proofs.Replacement

/-!
# Taking back what was done to a link

A link that was broken can be made again, which always gives back the graph
(`attempt_bind_unbound`). A link that was made can be broken again, and a variable that has taken
the place of another one can be made to give it back. Both of these calls name the variable and not
the slot, and choose the first slot by name that holds it. They give back the graph exactly if no
slot in front of the one that was filled held the variable before
(`Consistent.exists_attempt_unbind_bound`, `Consistent.exists_attempt_rebind_back`). Otherwise they
succeed too, but it is the slot in front that changes.

A variable is in one output slot at most, so that outputs are always given back.
-/

namespace TensorGraph

namespace Variable

/-- A variable that knows of the operator if some slot of it holds the variable, and has no producer
where it takes one, is as it was when it has joined the operator and has been released. -/
theorem release_join {w : Variable} {role : Role} {o : OperatorId} {p : Operator} {v : VariableId}
    (hlinked : w.LinkedTo role o ↔ ∃ s, (p.slots role).get? s = some v)
    (hfree : role = .output → w.producer = none) : (w.join role o).release role o p v = w := by
  cases role with
  | input =>
    have hmem : o ∈ w.consumers ↔ ∃ s, (p.slots .input).get? s = some v := hlinked
    rw [join, release]
    split
    · next hnone =>
      have hnew : o ∉ w.consumers := mt hmem.1 (Operator.isNone_inputSlot?_iff.1 hnone)
      rw [addConsumer, dropConsumer, SortedSet.erase_insert hnew]
    · next hsome =>
      -- Another slot holds the variable, so that the consumer was one before.
      have hheld := Classical.not_not.1 (mt Operator.isNone_inputSlot?_iff.2 hsome)
      rw [addConsumer, SortedSet.insert_of_mem (hmem.2 hheld)]
  | output =>
    have hproducer : w.producer = none := hfree rfl
    rw [join, release, setProducer, setProducer, ← hproducer]

end Variable

namespace Graph

variable {g g' : Graph} {role : Role} {o : OperatorId} {slot : String} {v old new : VariableId}
  {p : Operator} {w x : Variable}

/-! ## Links that were made -/

/-- In a consistent graph, a slot that takes a variable and gives it up makes the graph what it
was. -/
theorem unbound_bound (h : g.Consistent) (hp : g.getOperator? o = some p)
    (hw : g.getVariable? v = some w) (hs : (p.slots role).get? slot = none)
    (hfree : role = .output → w.producer = none) :
    (g.bound role o slot p v w).unbound role o slot (p.setSlot role slot v) v (w.join role o) =
      g := by
  have hlinked : w.LinkedTo role o ↔ ∃ s, (p.slots role).get? s = some v :=
    (h.linked hw role o).trans (holds_iff hp)
  have hclear : (p.setSlot role slot v).clearSlot role slot = p := Operator.clearSlot_setSlot hs
  refine ext_get? (fun u => ?_) (fun q => ?_) rfl rfl
  · rw [getVariable?_unbound, getVariable?_bound, hclear, Variable.release_join hlinked hfree]
    split
    · next hu => rw [hu, hw]
    · rfl
  · rw [getOperator?_unbound, getOperator?_bound, hclear]
    split
    · next hq => rw [hq, hp]
    · rfl

/-- In a consistent graph, a variable that a slot has taken can be given up again. This gives back
the graph exactly if no slot in front held the variable. -/
theorem Consistent.exists_attempt_unbind_bound (h : g.Consistent) (hp : g.getOperator? o = some p)
    (hw : g.getVariable? v = some w) (hs : (p.slots role).get? slot = none)
    (hfree : role = .output → w.producer = none) :
    ∃ g'', (g.bound role o slot p v w).attempt (.unbind role o v) = .ok g'' ∧
      (g'' = g ↔ ∀ s, s < slot → ¬ g.HoldsAt role o s v) := by
  have hp' : (g.bound role o slot p v w).getOperator? o = some (p.setSlot role slot v) := by
    rw [getOperator?_bound, if_pos rfl]
  have hw' : (g.bound role o slot p v w).getVariable? v = some (w.join role o) := by
    rw [getVariable?_bound, if_pos rfl]
  have hheld : (g.bound role o slot p v w).HoldsAt role o slot v :=
    (holdsAt_bound hp hs).2 (.inl ⟨rfl, rfl, rfl, rfl⟩)
  -- The slot that is emptied is the one that was filled, or one in front of it.
  obtain ⟨first, hfirst, hsame⟩ := p.exists_slot?_setSlot role slot v
  refine ⟨_, attempt_unbind hp' hw' hfirst, ?_⟩
  simp only [holdsAt_iff hp]
  rw [← hsame]
  constructor
  · -- Had another slot been emptied, the one that was filled would still hold the variable.
    intro heq
    have hempty : ¬ g.HoldsAt role o slot v := by
      rw [holdsAt_iff hp, hs]
      exact Option.some_ne_none v ∘ Eq.symm
    by_contra hne
    rw [← heq] at hempty
    exact hempty ((holdsAt_unbound hp').2 ⟨hheld, fun hat => hne hat.2.2.symm⟩)
  · rintro rfl
    exact unbound_bound h hp hw hs hfree

/-- After every history that starts with the empty graph, a variable that an output slot has taken
can be given up again, which gives back the graph. One that an input slot has taken can be given up
too, which gives back the graph exactly if no input slot of the operator in front of that one held
the variable. What a slot has given up it can take back, and this always gives back the graph. -/
theorem run_empty_undoBind (calls : List Call) (o : OperatorId) (v : VariableId) :
    let g := (∅ : Graph).run calls
    (∀ slot g', g.attempt (.bindOutput o slot v) = .ok g' → g' ≠ g →
      g'.attempt (.unbindOutput o v) = .ok g) ∧
    (∀ slot g', g.attempt (.bindInput o slot v) = .ok g' → g' ≠ g →
      ∃ g'', g'.attempt (.unbindInput o v) = .ok g'' ∧
        (g'' = g ↔ ∀ s, s < slot → ¬ g.HoldsAt .input o s v)) ∧
    ∀ role g', g.attempt (.unbind role o v) = .ok g' →
      ∃ slot, g.HoldsAt role o slot v ∧
        (∀ r o' s u, g'.HoldsAt r o' s u ↔
          g.HoldsAt r o' s u ∧ ¬ (r = role ∧ o' = o ∧ s = slot)) ∧
        g'.attempt (.bind role o slot v) = .ok g := by
  intro g
  have hcons : g.Consistent := consistent_empty.run keysBelow_empty calls
  refine ⟨fun slot g' hg' hne => ?_, fun slot g' hg' hne => ?_, fun role g' hg' => ?_⟩
  · have hbind : g.attempt (.bind .output o slot v) = .ok g' := hg'
    obtain ⟨p, w, hp, hw, ⟨-, rfl⟩ | ⟨hs, hfree, rfl⟩⟩ := attempt_bind_eq_ok.1 hbind
    · exact absurd rfl hne
    · obtain ⟨g'', hunbind, hsame⟩ := hcons.exists_attempt_unbind_bound hp hw hs hfree
      rw [hsame.2 fun s _ => hcons.not_holdsAt_output hw (hfree rfl)] at hunbind
      exact hunbind
  · have hbind : g.attempt (.bind .input o slot v) = .ok g' := hg'
    obtain ⟨p, w, hp, hw, ⟨-, rfl⟩ | ⟨hs, hfree, rfl⟩⟩ := attempt_bind_eq_ok.1 hbind
    · exact absurd rfl hne
    · exact hcons.exists_attempt_unbind_bound hp hw hs hfree
  · obtain ⟨slot, p, w, hp, hw, hslot, rfl⟩ := attempt_unbind_eq_ok.1 hg'
    have hs : (p.slots role).get? slot = some v := Operator.get?_of_slot? hslot
    exact ⟨slot, (holdsAt_iff hp).2 hs, fun r o' s u => holdsAt_unbound hp,
      attempt_bind_unbound hcons hp hw hs⟩

/-- The operator reads the first variable in the slots `a` and `b`. Writing it as well can be taken
back, and so can reading it once less, but not reading it once more: it is the slot `a` that gives
it up. -/
theorem run_empty_undoBind_shared :
    (∃ g', shared.attempt (.bindOutput ⟨0⟩ "x" ⟨0⟩) = .ok g' ∧
      g'.attempt (.unbindOutput ⟨0⟩ ⟨0⟩) = .ok shared) ∧
    (∃ g' g'', shared.attempt (.bindInput ⟨0⟩ "d" ⟨0⟩) = .ok g' ∧
      g'.attempt (.unbindInput ⟨0⟩ ⟨0⟩) = .ok g'' ∧ g'' ≠ shared) ∧
    ∃ g' slot, shared.attempt (.unbind .input ⟨0⟩ ⟨0⟩) = .ok g' ∧
      g'.attempt (.bind .input ⟨0⟩ slot ⟨0⟩) = .ok shared := by
  obtain ⟨hout, hin, hback⟩ := run_empty_undoBind sharedCalls ⟨0⟩ ⟨0⟩
  have hwritten : shared.attempt (.bindOutput ⟨0⟩ "x" ⟨0⟩) =
      .ok (shared.after (.bindOutput ⟨0⟩ "x" ⟨0⟩)) := by decide +kernel
  have hread : shared.attempt (.bindInput ⟨0⟩ "d" ⟨0⟩) =
      .ok (shared.after (.bindInput ⟨0⟩ "d" ⟨0⟩)) := by decide +kernel
  have hleft : shared.attempt (.unbind .input ⟨0⟩ ⟨0⟩) =
      .ok (shared.after (.unbind .input ⟨0⟩ ⟨0⟩)) := by decide +kernel
  have hheld : shared.HoldsAt .input ⟨0⟩ "a" ⟨0⟩ := Option.bind_eq_some_iff.1 (by decide +kernel)
  obtain ⟨g'', hunbind, hsame⟩ := hin "d" _ hread (by decide +kernel)
  obtain ⟨slot, -, -, hbind⟩ := hback .input _ hleft
  exact ⟨⟨_, hwritten, hout "x" _ hwritten (by decide +kernel)⟩,
    ⟨_, g'', hread, hunbind, fun heq => hsame.1 heq "a" (by decide) hheld⟩,
    ⟨_, slot, hleft, hbind⟩⟩

/-! ## Variables that took the place of others -/

/-- In a consistent graph, a variable that an empty slot has taken can be made to give its place to
another one. The slot that changes is the one that was filled exactly if no slot in front held the
variable. The graph is then as if the slot had taken the other variable at first. -/
theorem Consistent.exists_attempt_rebind_bound (h : g.Consistent) (hne : old ≠ new)
    (hp : g.getOperator? o = some p) (hw : g.getVariable? old = some w)
    (hx : g.getVariable? new = some x) (hs : (p.slots role).get? slot = none)
    (hold : role = .output → w.producer = none) (hnew : role = .output → x.producer = none) :
    ∃ g'', (g.bound role o slot p new x).attempt (.rebind role o new old) = .ok g'' ∧
      (g''.HoldsAt role o slot old ↔ ∀ s, s < slot → (p.slots role).get? s ≠ some new) ∧
      ((∀ s, s < slot → (p.slots role).get? s ≠ some new) → g'' = g.bound role o slot p old w) := by
  have hp' : (g.bound role o slot p new x).getOperator? o = some (p.setSlot role slot new) := by
    rw [getOperator?_bound, if_pos rfl]
  have hx' : (g.bound role o slot p new x).getVariable? new = some (x.join role o) := by
    rw [getVariable?_bound, if_pos rfl]
  have hw' : (g.bound role o slot p new x).getVariable? old = some w := by
    rw [getVariable?_bound, if_neg hne, hw]
  obtain ⟨first, hfirst, hsame⟩ := p.exists_slot?_setSlot role slot new
  refine ⟨_, attempt_rebind_of_free hp' hx' hw' hfirst hne.symm hold, ?_, fun hleast => ?_⟩
  · rw [holdsAt_bound_unbound hp', ← hsame]
    split
    · next hat => exact iff_of_true rfl hat.2.2.symm
    · next hat =>
      -- Another slot has changed, and the one that was filled still holds the new variable.
      have hother : first ≠ slot := fun heq => hat ⟨rfl, rfl, heq.symm⟩
      refine iff_of_false (fun hheld => ?_) hother
      rcases (holdsAt_bound hp hs).1 hheld with ⟨-, -, -, heq⟩ | hbefore
      · exact hne heq
      · rw [holdsAt_iff hp, hs] at hbefore
        cases hbefore
  · obtain rfl : first = slot := hsame.2 hleast
    rw [unbound_bound h hp hx hs hnew, Operator.clearSlot_setSlot hs]

/-- In a consistent graph, a variable that has taken the place of another one can be made to give it
back. This gives back the graph exactly if no slot in front held the variable. -/
theorem Consistent.exists_attempt_rebind_back (h : g.Consistent) (hne : old ≠ new)
    (hp : g.getOperator? o = some p) (hw : g.getVariable? old = some w)
    (hx : g.getVariable? new = some x) (hs : p.slot? role old = some slot)
    (hfree : role = .output → x.producer = none) :
    ∃ g'', ((g.unbound role o slot p old w).bound role o slot (p.clearSlot role slot) new
        x).attempt (.rebind role o new old) = .ok g'' ∧
      (g'' = g ↔ ∀ s, s < slot → ¬ g.HoldsAt role o s new) := by
  have hheld : (p.slots role).get? slot = some old := Operator.get?_of_slot? hs
  -- In between, the slot is empty and the old variable is free to take it back.
  have hx₁ : (g.unbound role o slot p old w).getVariable? new = some x := by
    rw [getVariable?_unbound, if_neg hne.symm, hx]
  have hw₁ : (g.unbound role o slot p old w).getVariable? old =
      some (w.release role o (p.clearSlot role slot) old) := by
    rw [getVariable?_unbound, if_pos rfl]
  have hreleased : role = .output →
      (w.release role o (p.clearSlot role slot) old).producer = none := by
    rintro rfl
    rfl
  have hfront : (∀ s, s < slot → ((p.clearSlot role slot).slots role).get? s ≠ some new) ↔
      ∀ s, s < slot → ¬ g.HoldsAt role o s new := by
    refine forall_congr' fun s => imp_congr_right fun hlt => ?_
    rw [holdsAt_iff hp, Operator.slots_clearSlot, if_pos rfl, SortedMap.get?_erase,
      if_neg (Key.ne_of_lt hlt)]
  obtain ⟨g'', hback, hslot, hsame⟩ := (h.unbind hp hw hheld).exists_attempt_rebind_bound hne
    (getOperator?_unbound_self ..) hw₁ hx₁ (p.get?_clearSlot_self role slot) hreleased hfree
  rw [hfront] at hslot hsame
  refine ⟨g'', hback, fun heq => hslot.1 ?_, fun hleast => ?_⟩
  · rw [heq]
    exact (holdsAt_iff hp).2 hheld
  · rw [hsame hleast, bound_unbound h hp hw hheld]

/-- In a consistent graph, a variable that takes the place of another one takes it in one slot and
nowhere else, and can be made to give it back. This gives back the graph exactly if no slot in front
held the variable, which no output slot did. -/
theorem Consistent.exists_rebind_back (h : g.Consistent) (hne : old ≠ new)
    (hg' : g.attempt (.rebind role o old new) = .ok g') :
    ∃ slot g'', g.slotOf role o old = .ok slot ∧
      (∀ r o' s u, g'.HoldsAt r o' s u ↔
        if r = role ∧ o' = o ∧ s = slot then u = new else g.HoldsAt r o' s u) ∧
      g'.attempt (.rebind role o new old) = .ok g'' ∧
      (g'' = g ↔ ∀ s, s < slot → ¬ g.HoldsAt role o s new) ∧ (role = .output → g'' = g) := by
  obtain ⟨slot, p, w, x, hp, hw, hx, hs, hfree, rfl⟩ := (attempt_rebind_eq_ok hne).1 hg'
  obtain ⟨g'', hback, hsame⟩ := h.exists_attempt_rebind_back hne hp hw hx hs hfree
  refine ⟨slot, g'', slotOf_eq_ok.2 ⟨w, p, hw, hp, hs⟩, fun r o' s u => holdsAt_bound_unbound hp,
    hback, hsame, ?_⟩
  -- A variable that takes the place of an output has no producer, and so is in no output slot.
  rintro rfl
  exact hsame.2 fun s _ => h.not_holdsAt_output hx (hfree rfl)

/-- After every history that starts with the empty graph, a variable that has taken the place of
another one in an output slot, which is all that has changed in the slots, can be made to give it
back, which gives back the graph. One that has taken the place of another one in an input slot can
be made to give it back too, which gives back the graph exactly if no input slot of the operator in
front of that one held the variable. -/
theorem run_empty_undoRebind (calls : List Call) (o : OperatorId) {old new : VariableId}
    (hne : old ≠ new) :
    let g := (∅ : Graph).run calls
    (∀ g', g.attempt (.rebindOutput o old new) = .ok g' →
      ∃ slot, g.outputSlot o old = .ok slot ∧
        (∀ r o' s u, g'.HoldsAt r o' s u ↔
          if r = .output ∧ o' = o ∧ s = slot then u = new else g.HoldsAt r o' s u) ∧
        g'.attempt (.rebindOutput o new old) = .ok g) ∧
    ∀ g', g.attempt (.rebindInput o old new) = .ok g' →
      ∃ slot g'', g.inputSlot o old = .ok slot ∧
        (∀ r o' s u, g'.HoldsAt r o' s u ↔
          if r = .input ∧ o' = o ∧ s = slot then u = new else g.HoldsAt r o' s u) ∧
        g'.attempt (.rebindInput o new old) = .ok g'' ∧
        (g'' = g ↔ ∀ s, s < slot → ¬ g.HoldsAt .input o s new) := by
  intro g
  have hcons : g.Consistent := consistent_empty.run keysBelow_empty calls
  refine ⟨fun g' hg' => ?_, fun g' hg' => ?_⟩
  · have hrebind : g.attempt (.rebind .output o old new) = .ok g' := hg'
    obtain ⟨slot, g'', hfound, hslots, hback, -, hsame⟩ := hcons.exists_rebind_back hne hrebind
    rw [hsame rfl] at hback
    exact ⟨slot, hfound, hslots, hback⟩
  · have hrebind : g.attempt (.rebind .input o old new) = .ok g' := hg'
    obtain ⟨slot, g'', hfound, hslots, hback, hsame, -⟩ := hcons.exists_rebind_back hne hrebind
    exact ⟨slot, g'', hfound, hslots, hback, hsame⟩

/-- The operator writes the third variable, and gets it back when the first one has taken its place.
It reads the second variable in the slot `c`. When the first one has taken its place there, the
second one takes the place of the first one in the slot `a`. -/
theorem run_empty_undoRebind_shared :
    (⟨2⟩ : VariableId) ≠ ⟨0⟩ ∧ (⟨1⟩ : VariableId) ≠ ⟨0⟩ ∧
    (∃ g' slot, shared.attempt (.rebindOutput ⟨0⟩ ⟨2⟩ ⟨0⟩) = .ok g' ∧
      g'.HoldsAt .output ⟨0⟩ slot ⟨0⟩ ∧ ¬ g'.HoldsAt .output ⟨0⟩ slot ⟨2⟩ ∧
      g'.attempt (.rebindOutput ⟨0⟩ ⟨0⟩ ⟨2⟩) = .ok shared) ∧
    ∃ g' g'', shared.attempt (.rebindInput ⟨0⟩ ⟨1⟩ ⟨0⟩) = .ok g' ∧
      g'.attempt (.rebindInput ⟨0⟩ ⟨0⟩ ⟨1⟩) = .ok g'' ∧ g'' ≠ shared := by
  have hne : (⟨2⟩ : VariableId) ≠ ⟨0⟩ := by decide
  have hne' : (⟨1⟩ : VariableId) ≠ ⟨0⟩ := by decide
  have hwritten : shared.attempt (.rebindOutput ⟨0⟩ ⟨2⟩ ⟨0⟩) =
      .ok (shared.after (.rebindOutput ⟨0⟩ ⟨2⟩ ⟨0⟩)) := by decide +kernel
  have hread : shared.attempt (.rebindInput ⟨0⟩ ⟨1⟩ ⟨0⟩) =
      .ok (shared.after (.rebindInput ⟨0⟩ ⟨1⟩ ⟨0⟩)) := by decide +kernel
  have hheld : shared.HoldsAt .input ⟨0⟩ "a" ⟨0⟩ := Option.bind_eq_some_iff.1 (by decide +kernel)
  have hslot : shared.inputSlot ⟨0⟩ ⟨1⟩ = .ok "c" := by decide +kernel
  obtain ⟨s, -, hslots, hout⟩ := (run_empty_undoRebind sharedCalls ⟨0⟩ hne).1 _ hwritten
  have hholds : ∀ u, (shared.after (.rebindOutput ⟨0⟩ ⟨2⟩ ⟨0⟩)).HoldsAt .output ⟨0⟩ s u ↔
      u = ⟨0⟩ := by
    intro u
    rw [hslots, if_pos ⟨rfl, rfl, rfl⟩]
  obtain ⟨slot, g'', hfound, -, hback, hsame⟩ :=
    (run_empty_undoRebind sharedCalls ⟨0⟩ hne').2 _ hread
  obtain rfl : "c" = slot := Except.ok.inj (hslot.symm.trans hfound)
  exact ⟨hne, hne', ⟨_, s, hwritten, (hholds _).2 rfl, fun hold => hne ((hholds _).1 hold), hout⟩,
    ⟨_, g'', hread, hback, fun heq => hsame.1 heq "a" (by decide) hheld⟩⟩

end Graph

end TensorGraph
