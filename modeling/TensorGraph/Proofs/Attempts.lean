import TensorGraph.Proofs.Consistent

/-!
# Calls as attempts

An attempt of a call gives the graph that the call leaves, or the reason why it has failed. Attempts
can be put one after the other, where the first that fails ends them all. This is how a caller does
by hand what another call does at once, so that "the two do the same" is an equation between
attempts: they lead to the same graph or fail for the same reason.

The attempts of the calls on one link are the graphs of `Graph.bound` and `Graph.unbound`, and that
of a removal is the graph of `Graph.detached`.
-/

namespace TensorGraph.Graph

/-- The graph that a call leaves, or why the call fails. -/
def attempt (g : Graph) (c : Call) : Except Failure Graph :=
  (g.perform c).result.map fun _ => g.after c

/-- The graph that some calls leave, one after the other, or why the first that fails does so. -/
def attemptAll (g : Graph) (calls : List Call) : Except Failure Graph := calls.foldlM attempt g

variable {g g' : Graph} {role : Role} {o : OperatorId} {slot : String} {v : VariableId}
  {p : Operator} {w : Variable} {e : Failure} {c : Call}

/-- An attempt fails as the call does. -/
theorem attempt_eq_error : g.attempt c = .error e ↔ (g.perform c).result = .error e :=
  Result.map_eq_error

/-- An attempt that succeeds leads to the graph after the call. -/
theorem after_of_attempt (h : g.attempt c = .ok g') : g.after c = g' := by
  obtain ⟨-, -, hafter⟩ := Result.map_eq_ok.1 h
  exact hafter

/-- An attempt is read off a rule of the call. -/
theorem attempt_of_rule {out : Outcome Answer} (h : Rules.Performs g c out) :
    g.attempt c = out.result.map fun _ => out.graph := by
  rw [attempt, after, perform_iff.2 h]

/-! ## Several attempts -/

/-- No attempts change nothing. -/
@[simp]
theorem attemptAll_nil (g : Graph) : g.attemptAll [] = .ok g := rfl

/-- Several attempts succeed when the first one does, and then the others. -/
theorem attemptAll_cons_eq_ok {calls : List Call} :
    g.attemptAll (c :: calls) = .ok g' ↔
      ∃ g₁, g.attempt c = .ok g₁ ∧ g₁.attemptAll calls = .ok g' := by
  rw [attemptAll, List.foldlM_cons]
  exact Result.bind_eq_ok

/-- The first attempt that fails ends them all. -/
theorem attemptAll_cons_of_error {calls : List Call} (h : g.attempt c = .error e) :
    g.attemptAll (c :: calls) = .error e := by
  rw [attemptAll, List.foldlM_cons, h]
  rfl

/-- Attempts come one after the other. -/
theorem attemptAll_append (g : Graph) (calls later : List Call) :
    g.attemptAll (calls ++ later) = (g.attemptAll calls).bind (·.attemptAll later) :=
  List.foldlM_append

/-! ## Attempts of single calls -/

/-- A slot that is empty takes a variable. -/
theorem attempt_bind (hp : g.getOperator? o = some p) (hw : g.getVariable? v = some w)
    (hs : (p.slots role).get? slot = none) (hfree : role = .output → w.producer = none) :
    g.attempt (.bind role o slot v) = .ok (g.bound role o slot p v w) := by
  rw [attempt_of_rule (.bind (.bound hp hw hs hfree))]
  rfl

/-- A slot does not take a variable that is not there. -/
theorem attempt_bind_of_missing (hp : g.getOperator? o = some p) (hw : g.getVariable? v = none) :
    g.attempt (.bind role o slot v) = .error (.refused (.unknownVariable v)) := by
  rw [attempt_of_rule (.bind (.noVariable hp hw))]
  rfl

/-- An output slot does not take a variable that has a producer. -/
theorem attempt_bind_of_conflict {q : OperatorId} (hp : g.getOperator? o = some p)
    (hw : g.getVariable? v = some w) (hs : (p.slots .output).get? slot = none)
    (hq : w.producer = some q) :
    g.attempt (.bind .output o slot v) = .error (.refused (.outputConflict v q)) := by
  rw [attempt_of_rule (.bind (.conflict hp hw hs rfl hq))]
  rfl

/-- A slot takes a variable exactly where it holds it already, or is empty and may take it. -/
theorem attempt_bind_eq_ok :
    g.attempt (.bind role o slot v) = .ok g' ↔
      ∃ p w, g.getOperator? o = some p ∧ g.getVariable? v = some w ∧
        ((p.slots role).get? slot = some v ∧ g' = g ∨
          (p.slots role).get? slot = none ∧ (role = .output → w.producer = none) ∧
            g' = g.bound role o slot p v w) := by
  constructor
  · intro h
    have hrule := Edit.perform_bind.1 (rfl : (Edit.bind role o slot v).perform g = _)
    rw [attempt_of_rule (.bind hrule)] at h
    generalize (Edit.bind role o slot v).perform g = out at hrule h
    cases hrule with
    | noOperator hp => cases h
    | noVariable hp hw => cases h
    | same hp hw hs => exact ⟨_, _, hp, hw, .inl ⟨hs, (Except.ok.inj h).symm⟩⟩
    | occupied hp hw hs hne => cases h
    | conflict hp hw hs hr hq => cases h
    | bound hp hw hs hfree => exact ⟨_, _, hp, hw, .inr ⟨hs, hfree, (Except.ok.inj h).symm⟩⟩
  · rintro ⟨p, w, hp, hw, ⟨hs, rfl⟩ | ⟨hs, hfree, rfl⟩⟩
    · rw [attempt_of_rule (.bind (.same hp hw hs))]
      rfl
    · exact attempt_bind hp hw hs hfree

/-- A slot that holds a variable gives it up. -/
theorem attempt_unbind (hp : g.getOperator? o = some p) (hw : g.getVariable? v = some w)
    (hs : p.slot? role v = some slot) :
    g.attempt (.unbind role o v) = .ok (g.unbound role o slot p v w) := by
  rw [attempt_of_rule (.unbind (.unbound hp hw hs)), ← written_unbind slot hw]
  rfl

/-- Where no slot is found, none gives a variable up. -/
theorem attempt_unbind_of_error {reason : GraphError} (hs : g.slotOf role o v = .error reason) :
    g.attempt (.unbind role o v) = .error (.refused reason) := by
  rw [attempt_of_rule (.unbind (.noSlot hs))]
  rfl

/-- A variable is given up exactly where a slot is found for it. -/
theorem attempt_unbind_eq_ok :
    g.attempt (.unbind role o v) = .ok g' ↔
      ∃ slot p w, g.getOperator? o = some p ∧ g.getVariable? v = some w ∧
        p.slot? role v = some slot ∧ g' = g.unbound role o slot p v w := by
  constructor
  · intro h
    cases hs : g.slotOf role o v with
    | error reason =>
      rw [attempt_unbind_of_error hs] at h
      cases h
    | ok slot =>
      obtain ⟨w, p, hw, hp, hslot⟩ := slotOf_eq_ok.1 hs
      rw [attempt_unbind hp hw hslot] at h
      exact ⟨slot, p, w, hp, hw, hslot, (Except.ok.inj h).symm⟩
  · rintro ⟨slot, p, w, hp, hw, hslot, rfl⟩
    exact attempt_unbind hp hw hslot

/-- A variable is not given up exactly where no slot is found for it, and for that reason. -/
theorem attempt_unbind_eq_error :
    g.attempt (.unbind role o v) = .error e ↔
      ∃ reason, g.slotOf role o v = .error reason ∧ e = .refused reason := by
  constructor
  · intro h
    cases hs : g.slotOf role o v with
    | error reason =>
      rw [attempt_unbind_of_error hs] at h
      exact ⟨reason, rfl, (Except.error.inj h).symm⟩
    | ok slot =>
      obtain ⟨w, p, hw, hp, hslot⟩ := slotOf_eq_ok.1 hs
      rw [attempt_unbind hp hw hslot] at h
      cases h
  · rintro ⟨reason, hs, rfl⟩
    exact attempt_unbind_of_error hs

/-- In a consistent graph, a variable can be given up exactly where some slot holds it. -/
theorem Consistent.exists_attempt_unbind (h : g.Consistent) :
    (∃ g', g.attempt (.unbind role o v) = .ok g') ↔ g.Holds role o v := by
  constructor
  · rintro ⟨g', hg'⟩
    obtain ⟨slot, p, w, hp, -, hslot, -⟩ := attempt_unbind_eq_ok.1 hg'
    exact ⟨slot, (holdsAt_iff hp).2 (Operator.get?_of_slot? hslot)⟩
  · intro hheld
    obtain ⟨w, hw⟩ := h.stored hheld
    obtain ⟨s, p, hp, hs⟩ := hheld
    cases hslot : p.slot? role v with
    | some slot => exact ⟨_, attempt_unbind hp hw hslot⟩
    | none => exact absurd hs (Operator.slot?_eq_none.1 hslot s)

/-- An operator that is there leaves with its links. -/
theorem attempt_removeOperator (hp : g.getOperator? o = some p) :
    g.attempt (.removeOperator o) = .ok (g.detached o p) := by
  rw [attempt_of_rule (.removeOperator (.removed hp)), ← written_detachWrites]
  rfl

end TensorGraph.Graph
