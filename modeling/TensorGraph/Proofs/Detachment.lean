import TensorGraph.Proofs.Attempts
import TensorGraph.Proofs.Runs

/-!
# Taking an operator out link by link

An operator that is removed takes its links with it. A caller can also empty its slots one after the
other, in any order, and remove it when it has none left. Both make the same graph, and so does
stopping half way: whatever links have been taken off, in whatever order, removing the operator
afterwards makes the graph that removing it at once makes (`detached_of_attemptAll`). One step of
this is `detached_unbound`. It needs no more than that the slot held the variable.

What takes a consistent graph is that the slots can be emptied at all, and that the links of the
operator are all that the variables lose (`Variable.without_eq_forget`): a removal takes the
producer off each variable that the operator writes, whoever that producer is.
-/

namespace TensorGraph

/-! ## The links of an operator -/

namespace Operator

variable {p : Operator} {role : Role} {slot : String} {v : VariableId}

/-- The links of an operator, each with its side. A variable is listed once for each slot that
holds it. -/
def bindings (p : Operator) : List (Role × VariableId) :=
  p.consumed.map (.input, ·) ++ p.produced.map (.output, ·)

/-- A link is listed when some slot of its side holds the variable. -/
theorem mem_bindings : (role, v) ∈ p.bindings ↔ ∃ s, (p.slots role).get? s = some v := by
  rw [bindings, List.mem_append, List.mem_map, List.mem_map, ← SortedMap.mem_values]
  cases role with
  | input => simp [slots, consumed]
  | output => simp [slots, produced]

/-- Emptying a slot takes one link away. -/
theorem bindings_perm (h : (p.slots role).get? slot = some v) :
    p.bindings.Perm ((role, v) :: (p.clearSlot role slot).bindings) := by
  have hvalues := SortedMap.values_perm h
  cases role with
  | input => exact (hvalues.map (Role.input, ·)).append_right _
  | output =>
    have hproduced := (hvalues.map (Role.output, ·)).append_left (p.consumed.map (Role.input, ·))
    exact hproduced.trans List.perm_middle

/-- An operator without links has no slots. -/
theorem slots_eq_empty (h : p.bindings = []) (role : Role) : p.slots role = ∅ := by
  obtain ⟨hconsumed, hproduced⟩ := List.append_eq_nil_iff.1 h
  cases role with
  | input => exact SortedMap.eq_empty_of_values (List.map_eq_nil_iff.1 hconsumed)
  | output => exact SortedMap.eq_empty_of_values (List.map_eq_nil_iff.1 hproduced)

/-- Emptying a slot makes no difference to the other variables. -/
theorem mem_values_clearSlot {u : VariableId} (h : (p.slots role).get? slot = some v) (hne : u ≠ v)
    (r : Role) : u ∈ ((p.clearSlot role slot).slots r).values ↔ u ∈ (p.slots r).values := by
  rw [slots_clearSlot]
  split
  · next hr =>
    subst hr
    have hmem := (SortedMap.values_perm h).mem_iff (a := u)
    rw [List.mem_cons, or_iff_right hne] at hmem
    exact hmem.symm
  · rfl

end Operator

namespace Variable

variable {w : Variable} {role : Role} {o : OperatorId} {p : Operator} {slot : String}
  {u v : VariableId}

/-- The variable without its links to an operator. -/
def forget (w : Variable) (o : OperatorId) : Variable :=
  { w with
    consumers := w.consumers.erase o
    producer := if w.producer = some o then none else w.producer }

/-- Where a variable knows of the operator on the sides that hold it, it loses its links to the
operator and no others. -/
theorem without_eq_forget (h : ∀ r, w.LinkedTo r o ↔ ∃ s, (p.slots r).get? s = some v) :
    w.without o p v = w.forget o := by
  have hconsumed : v ∈ p.consumed ↔ o ∈ w.consumers := SortedMap.mem_values.trans (h .input).symm
  have hproduced : v ∈ p.produced ↔ w.producer = some o :=
    SortedMap.mem_values.trans (h .output).symm
  have hconsumers : (if v ∈ p.consumed then w.consumers.erase o else w.consumers) =
      w.consumers.erase o := by
    split
    · rfl
    · next hv => rw [SortedSet.erase_of_not_mem (mt hconsumed.2 hv)]
  rw [without, forget, hconsumers, if_congr hproduced rfl rfl]

/-- A variable that is released from one of the slots that held it loses to a removal what it would
have lost anyway. -/
theorem without_release (h : (p.slots role).get? slot = some v) :
    (w.release role o (p.clearSlot role slot) v).without o (p.clearSlot role slot) v =
      w.without o p v := by
  have hheld : v ∈ (p.slots role).values := SortedMap.mem_values.2 ⟨slot, h⟩
  cases role with
  | input =>
    have hconsumed : v ∈ p.consumed := hheld
    have hnone : ((p.clearSlot .input slot).inputSlot? v).isNone = true ↔
        v ∉ (p.clearSlot .input slot).consumed :=
      Operator.isNone_inputSlot?_iff.trans (not_congr SortedMap.mem_values.symm)
    -- Where another input slot holds the variable, the consumer is left to the removal.
    by_cases hleft : v ∈ (p.clearSlot .input slot).consumed
    · rw [release, if_neg (mt hnone.1 (not_not_intro hleft)), without, without, if_pos hleft,
        if_pos hconsumed]
      rfl
    · rw [release, if_pos (hnone.2 hleft), without, without, if_neg hleft, if_pos hconsumed]
      rfl
  | output =>
    have hproduced : v ∈ p.produced := hheld
    have hnone : (if v ∈ (p.clearSlot .output slot).produced then none
        else (w.release .output o (p.clearSlot .output slot) v).producer) = none := ite_self _
    rw [without, without, if_pos hproduced, hnone]
    rfl

/-- A removal makes the same of every other variable. -/
theorem without_clearSlot (h : (p.slots role).get? slot = some v) (hne : u ≠ v) :
    w.without o (p.clearSlot role slot) u = w.without o p u := by
  have hconsumed : u ∈ (p.clearSlot role slot).consumed ↔ u ∈ p.consumed :=
    Operator.mem_values_clearSlot h hne .input
  have hproduced : u ∈ (p.clearSlot role slot).produced ↔ u ∈ p.produced :=
    Operator.mem_values_clearSlot h hne .output
  rw [without, without, if_congr hconsumed rfl rfl, if_congr hproduced rfl rfl]

end Variable

namespace Call

/-- The calls that empty slots of an operator, one for each link of a list. -/
def unbindAll (o : OperatorId) (links : List (Role × VariableId)) : List Call :=
  links.map fun link => .unbind link.1 o link.2

end Call

namespace Graph

variable {g g₁ : Graph} {role : Role} {o : OperatorId} {slot : String} {v : VariableId}
  {p : Operator} {w : Variable} {links rest : List (Role × VariableId)}

/-! ## One link after the other -/

/-- Removing an operator makes the same of two graphs that hold the same other operators, and the
same variables but for their links to it. -/
theorem detached_congr {p' : Operator} (hvars : ∀ u, (g₁.getVariable? u).map (·.without o p' u) =
      (g.getVariable? u).map (·.without o p u))
    (hops : ∀ q, q ≠ o → g₁.getOperator? q = g.getOperator? q)
    (hv : g₁.nextVariable = g.nextVariable) (ho : g₁.nextOperator = g.nextOperator) :
    g₁.detached o p' = g.detached o p := by
  refine ext_get? (fun u => ?_) (fun q => ?_) ?_ ?_
  · rw [getVariable?_detached, getVariable?_detached, hvars]
  · rw [getOperator?_detached, getOperator?_detached]
    split
    · rfl
    · next hq => exact hops q hq
  · rw [nextVariable_detached, nextVariable_detached, hv]
  · rw [nextOperator_detached, nextOperator_detached, ho]

/-- Where a slot has given a variable up, removing the operator makes the graph that it makes
without that. -/
theorem detached_unbound (hw : g.getVariable? v = some w) (hs : (p.slots role).get? slot = some v) :
    (g.unbound role o slot p v w).detached o (p.clearSlot role slot) = g.detached o p := by
  refine detached_congr (fun u => ?_) (fun q hq => ?_) rfl rfl
  · rw [getVariable?_unbound]
    split
    · next hu =>
      rw [hu, hw, Option.map_some, Option.map_some, Variable.without_release hs]
    · next hu =>
      exact congrArg (Option.map · _) (funext fun x => Variable.without_clearSlot hs hu)
  · rw [getOperator?_unbound, if_neg hq]

/-- Where the calls that empty some slots succeed, the operator has lost exactly those links, and
removing it makes the graph that it makes without those calls. -/
theorem detached_of_attemptAll (hp : g.getOperator? o = some p)
    (h : g.attemptAll (Call.unbindAll o links) = .ok g₁) :
    ∃ p₁, g₁.getOperator? o = some p₁ ∧ p.bindings.Perm (links ++ p₁.bindings) ∧
      g₁.detached o p₁ = g.detached o p := by
  -- Each call takes one link off, and what a removal makes of the graph stays the same.
  induction links generalizing g p with
  | nil =>
    rw [Call.unbindAll, List.map_nil, attemptAll_nil] at h
    obtain rfl := Except.ok.inj h
    exact ⟨p, hp, .refl _, rfl⟩
  | cons link links ih =>
    obtain ⟨role, v⟩ := link
    obtain ⟨g', hfirst, hrest⟩ := attemptAll_cons_eq_ok.1 h
    obtain ⟨slot, p', w, hp', hw, hslot, rfl⟩ := attempt_unbind_eq_ok.1 hfirst
    obtain rfl : p = p' := Option.some.inj (hp.symm.trans hp')
    have hs := Operator.get?_of_slot? hslot
    obtain ⟨p₁, hp₁, hperm, hsame⟩ := ih (getOperator?_unbound_self ..) hrest
    refine ⟨p₁, hp₁, ?_, hsame.trans (detached_unbound hw hs)⟩
    exact (Operator.bindings_perm hs).trans (hperm.cons _)

/-- In a consistent graph, the slots of an operator can be emptied in any order. -/
theorem Consistent.exists_attemptAll (h : g.Consistent) (hp : g.getOperator? o = some p)
    (hlinks : p.bindings.Perm (links ++ rest)) :
    ∃ g₁, g.attemptAll (Call.unbindAll o links) = .ok g₁ := by
  -- The links that are still to come are links of the operator as it is by then.
  induction links generalizing g p with
  | nil => exact ⟨g, attemptAll_nil g⟩
  | cons link links ih =>
    obtain ⟨role, v⟩ := link
    have hmem : (role, v) ∈ p.bindings := hlinks.mem_iff.2 List.mem_cons_self
    obtain ⟨g', hg'⟩ := h.exists_attempt_unbind.2 ((holds_iff hp).2 (Operator.mem_bindings.1 hmem))
    obtain ⟨slot, p', w, hp', hw, hslot, rfl⟩ := attempt_unbind_eq_ok.1 hg'
    obtain rfl : p = p' := Option.some.inj (hp.symm.trans hp')
    have hs := Operator.get?_of_slot? hslot
    -- What is left to be emptied are the links of the operator that has emptied the slot.
    have hleft : (p.clearSlot role slot).bindings.Perm (links ++ rest) :=
      ((Operator.bindings_perm hs).symm.trans hlinks).cons_inv
    obtain ⟨g₁, hg₁⟩ := ih (h.unbind hp hw hs) (getOperator?_unbound_self ..) hleft
    exact ⟨g₁, attemptAll_cons_eq_ok.2 ⟨_, hg', hg₁⟩⟩

/-! ## All at once -/

/-- What taking an operator out makes of a graph. -/
structure TakenOut (g g' : Graph) (o : OperatorId) : Prop where
  /-- The operator is gone, and the others are as they were. -/
  ops : ∀ o', g'.getOperator? o' = if o' = o then none else g.getOperator? o'
  /-- Each variable is as it was without its links to the operator. -/
  vars : ∀ v, g'.getVariable? v = (g.getVariable? v).map (·.forget o)
  /-- No variable knows of the operator. -/
  unlinked : ∀ v w, g'.getVariable? v = some w → o ∉ w.consumers ∧ w.producer ≠ some o
  /-- No id has been handed out. -/
  counters : g'.nextVariable = g.nextVariable ∧ g'.nextOperator = g.nextOperator

/-- In a consistent graph, removing an operator takes it out. -/
theorem Consistent.takenOut (h : g.Consistent) (hp : g.getOperator? o = some p) :
    g.TakenOut (g.detached o p) o where
  ops := fun o' => getOperator?_detached g o o' p
  vars := by
    intro v
    rw [getVariable?_detached]
    cases hw : g.getVariable? v with
    | none => rfl
    | some w =>
      have hown : ∀ r, w.LinkedTo r o ↔ ∃ s, (p.slots r).get? s = some v :=
        fun r => (h.linked hw r o).trans (holds_iff hp)
      exact congrArg some (Variable.without_eq_forget hown)
  unlinked := by
    intro v w hw
    have hnone : (g.detached o p).getOperator? o = none := by
      rw [getOperator?_detached, if_pos rfl]
    have hnot : ∀ r, ¬ w.LinkedTo r o := by
      intro r hlinked
      obtain ⟨s, hs⟩ := ((h.removeOperator hp).linked hw r o).1 hlinked
      exact not_holdsAt_of_none hnone hs
    exact ⟨hnot .input, hnot .output⟩
  counters := ⟨nextVariable_detached g o p, nextOperator_detached g o p⟩

/-- After every history that starts with the empty graph, the slots of an operator can be emptied
one after the other in any order of its links, until it has none left. Whatever links have been
taken off it, in whatever order, removing it then makes the graph that removing it at once makes.
This takes the operator out and nothing else, and answers the operator as it was. -/
theorem run_empty_removeOperator (calls : List Call) (o : OperatorId) (p : Operator)
    (hp : (Graph.run ∅ calls).getOperator? o = some p) :
    let g := Graph.run ∅ calls
    (∀ links, links.Perm p.bindings → ∃ g₁ p₁, g.attemptAll (Call.unbindAll o links) = .ok g₁ ∧
      g₁.getOperator? o = some p₁ ∧ p₁.inputs = ∅ ∧ p₁.outputs = ∅) ∧
    (∀ links g₁, g.attemptAll (Call.unbindAll o links) = .ok g₁ →
      g₁.attempt (.removeOperator o) = .ok (g.after (.removeOperator o))) ∧
    (g.perform (.removeOperator o)).result = .ok (.removedOperator p) ∧
    g.TakenOut (g.after (.removeOperator o)) o := by
  intro g
  have hcons : g.Consistent := consistent_empty.run keysBelow_empty calls
  have hremove : g.after (.removeOperator o) = g.detached o p :=
    after_of_attempt (attempt_removeOperator hp)
  refine ⟨fun links hlinks => ?_, fun links g₁ hg₁ => ?_, ?_, ?_⟩
  · have hall : p.bindings.Perm (links ++ []) := by
      rw [List.append_nil]
      exact hlinks.symm
    obtain ⟨g₁, hg₁⟩ := hcons.exists_attemptAll hp hall
    obtain ⟨p₁, hp₁, hperm, -⟩ := detached_of_attemptAll hp hg₁
    -- As many links have been taken off as the operator had.
    have hnone : p₁.bindings = [] := by
      have hlength := (hlinks.trans hperm).length_eq
      rw [List.length_append] at hlength
      exact List.eq_nil_of_length_eq_zero (by omega)
    exact ⟨g₁, p₁, hg₁, hp₁, p₁.slots_eq_empty hnone .input, p₁.slots_eq_empty hnone .output⟩
  · obtain ⟨p₁, hp₁, -, hsame⟩ := detached_of_attemptAll hp hg₁
    rw [attempt_removeOperator hp₁, hsame, hremove]
  · rw [perform_iff.2 (.removeOperator (.removed hp))]
    rfl
  · rw [hremove]
    exact hcons.takenOut hp

/-- Two operators that read one variable. The first one reads it twice, and reads what it writes. -/
def knotCalls : List Call :=
  [.addVariable [2] .c, .addVariable [2] .c, .addOperator "f" ∅, .addOperator "g" ∅,
    .bindInput ⟨0⟩ "a" ⟨0⟩, .bindInput ⟨0⟩ "b" ⟨0⟩, .bindInput ⟨0⟩ "c" ⟨1⟩,
    .bindOutput ⟨0⟩ "y" ⟨1⟩, .bindInput ⟨1⟩ "x" ⟨0⟩]

/-- The graph with the two operators. -/
def knot : Graph := Graph.run ∅ knotCalls

/-- The first operator of the knot can be taken out link by link, beginning with what it writes. -/
theorem run_empty_removeOperator_knot :
    ∃ p g₁ p₁, knot.getOperator? ⟨0⟩ = some p ∧
      (knot.perform (.removeOperator ⟨0⟩)).result = .ok (.removedOperator p) ∧
      knot.attemptAll [.unbindOutput ⟨0⟩ ⟨1⟩, .unbindInput ⟨0⟩ ⟨0⟩, .unbindInput ⟨0⟩ ⟨1⟩,
        .unbindInput ⟨0⟩ ⟨0⟩] = .ok g₁ ∧
      g₁.getOperator? ⟨0⟩ = some p₁ ∧ p₁.inputs = ∅ ∧ p₁.outputs = ∅ ∧
      g₁.attempt (.removeOperator ⟨0⟩) = .ok (knot.after (.removeOperator ⟨0⟩)) := by
  obtain ⟨p, hp, hbindings⟩ : ∃ p, knot.getOperator? ⟨0⟩ = some p ∧ p.bindings =
      [(.input, ⟨0⟩), (.input, ⟨0⟩), (.input, ⟨1⟩), (.output, ⟨1⟩)] :=
    Option.map_eq_some_iff.1 (by decide +kernel)
  have hlinks : [(.output, ⟨1⟩), (.input, ⟨0⟩), (.input, ⟨1⟩), (.input, ⟨0⟩)].Perm p.bindings := by
    rw [hbindings]
    decide
  obtain ⟨hempty, hsame, hanswer, -⟩ := run_empty_removeOperator knotCalls ⟨0⟩ p hp
  obtain ⟨g₁, p₁, hg₁, hp₁, hinputs, houtputs⟩ := hempty _ hlinks
  exact ⟨p, g₁, p₁, hp, hanswer, hg₁, hp₁, hinputs, houtputs, hsame _ g₁ hg₁⟩

end Graph

end TensorGraph
