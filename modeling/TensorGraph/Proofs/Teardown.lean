import TensorGraph.Proofs.Detachment
import TensorGraph.Proofs.Independence
import TensorGraph.Proofs.Interface

/-!
# Taking a graph apart

Operators can be removed in any order: removing one changes neither the slots of another one nor the
links that the variables have with it (`independent_removeOperator`). When no operator is left, no
slot holds anything, so all variables are without links. These can be removed in any order as well,
since a variable that is removed takes nothing along (`run_removeVariables`).
-/

namespace TensorGraph

/-- What two operators leave of a variable does not depend on which of them goes first. -/
theorem Variable.without_comm (w : Variable) (o o' : OperatorId) (p p' : Operator)
    (v : VariableId) :
    (w.without o p v).without o' p' v = (w.without o' p' v).without o p v := by
  have hconsumers : ∀ c : SortedSet OperatorId,
      (if v ∈ p'.consumed then (if v ∈ p.consumed then c.erase o else c).erase o'
        else if v ∈ p.consumed then c.erase o else c) =
      if v ∈ p.consumed then (if v ∈ p'.consumed then c.erase o' else c).erase o
        else if v ∈ p'.consumed then c.erase o' else c := by
    intro c
    by_cases hp : v ∈ p.consumed <;> by_cases hp' : v ∈ p'.consumed <;>
      simp [hp, hp', SortedSet.erase_comm c o o']
  have hproducer : ∀ q : Option OperatorId,
      (if v ∈ p'.produced then none else if v ∈ p.produced then none else q) =
      if v ∈ p.produced then none else if v ∈ p'.produced then none else q := by
    intro q
    by_cases hp : v ∈ p.produced <;> by_cases hp' : v ∈ p'.produced <;> simp [hp, hp']
  simp only [without, hconsumers, hproducer]

namespace Graph

variable {g g' : Graph} {o o' : OperatorId} {p p' : Operator} {u v : VariableId} {w : Variable}

/-! ## Removing operators -/

/-- Two operators can be detached in either order. -/
theorem detached_comm (g : Graph) (o o' : OperatorId) (p p' : Operator) :
    (g.detached o p).detached o' p' = (g.detached o' p').detached o p := by
  refine ext_get? (fun v => ?_) (fun q => ?_) ?_ ?_
  · simp only [getVariable?_detached, Option.map_map]
    exact congrArg (Option.map · _) (funext fun w => w.without_comm o o' p p' v)
  · simp only [getOperator?_detached]
    split
    · split <;> rfl
    · rfl
  · simp only [nextVariable_detached]
  · simp only [nextOperator_detached]

/-- The removal of an operator that is there answers it. -/
theorem result_removeOperator (hp : g.getOperator? o = some p) :
    (g.perform (.removeOperator o)).result = .ok (.removedOperator p) := by
  rw [perform_iff.2 (.removeOperator (.removed hp))]
  rfl

/-- The removal of an operator that is there detaches it. -/
theorem after_removeOperator (hp : g.getOperator? o = some p) :
    g.after (.removeOperator o) = g.detached o p :=
  after_of_attempt (attempt_removeOperator hp)

/-- The removal of an operator that is not there is refused. -/
theorem perform_removeOperator_of_none (ho : g.getOperator? o = none) :
    g.perform (.removeOperator o) = .failed g (.refused (.unknownOperator o)) := by
  rw [perform_iff.2 (.removeOperator (.noOperator ho))]
  rfl

/-- The removal of an operator that is not there changes nothing. -/
theorem after_removeOperator_of_none (ho : g.getOperator? o = none) :
    g.after (.removeOperator o) = g := by
  rw [after, perform_removeOperator_of_none ho]
  rfl

/-- A removal takes one operator away, if it is there. -/
theorem getOperator?_after_removeOperator (g : Graph) (o q : OperatorId) :
    (g.after (.removeOperator o)).getOperator? q = if q = o then none else g.getOperator? q := by
  cases ho : g.getOperator? o with
  | none =>
    rw [after_removeOperator_of_none ho]
    split
    · next hq => exact hq ▸ ho
    · rfl
  | some p => rw [after_removeOperator ho, getOperator?_detached]

/-- A removal leaves the other operators alone. -/
theorem getOperator?_after_removeOperator_of_ne (g : Graph) (hne : o ≠ o') :
    (g.after (.removeOperator o')).getOperator? o = g.getOperator? o := by
  rw [getOperator?_after_removeOperator, if_neg hne]

/-- A removal does not notice another one. -/
theorem ignores_removeOperator (hne : o ≠ o') :
    (Call.removeOperator o).Ignores (.removeOperator o') := by
  intro g
  have hsame := g.getOperator?_after_removeOperator_of_ne hne
  cases ho : g.getOperator? o with
  | none =>
    rw [perform_removeOperator_of_none ho, perform_removeOperator_of_none (hsame.trans ho)]
    rfl
  | some p => rw [result_removeOperator ho, result_removeOperator (hsame.trans ho)]

/-- Different operators can be removed in either order. -/
theorem independent_removeOperator (hne : o ≠ o') :
    (Call.removeOperator o).Independent (.removeOperator o') := by
  refine ⟨ignores_removeOperator hne, ignores_removeOperator hne.symm, fun g => ?_⟩
  have hsame := g.getOperator?_after_removeOperator_of_ne hne
  have hsame' := g.getOperator?_after_removeOperator_of_ne hne.symm
  -- A removal of what is not there changes nothing, before and after the other one.
  cases ho : g.getOperator? o with
  | none =>
    rw [after_removeOperator_of_none ho, after_removeOperator_of_none (hsame.trans ho)]
  | some p =>
    cases ho' : g.getOperator? o' with
    | none =>
      rw [after_removeOperator_of_none ho', after_removeOperator_of_none (hsame'.trans ho')]
    | some p' =>
      calc (g.after (.removeOperator o)).after (.removeOperator o')
          = (g.detached o p).detached o' p' := by
            rw [after_removeOperator (hsame'.trans ho'), after_removeOperator ho]
        _ = (g.detached o' p').detached o p := detached_comm g o o' p p'
        _ = (g.after (.removeOperator o')).after (.removeOperator o) := by
            rw [after_removeOperator (hsame.trans ho), after_removeOperator ho']

/-- Removals of different operators are independent of one another. -/
theorem pairwise_removeOperator {os : List OperatorId} (hos : os.Nodup) :
    (os.map Call.removeOperator).Pairwise Call.Independent :=
  List.pairwise_map.2 (hos.imp independent_removeOperator)

/-- Removals take the listed operators away. -/
theorem getOperator?_run_removeOperator (g : Graph) (os : List OperatorId) (q : OperatorId) :
    (g.run (os.map .removeOperator)).getOperator? q =
      if q ∈ os then none else g.getOperator? q := by
  induction os generalizing g with
  | nil => simp [run]
  | cons o os ih =>
    rw [List.map_cons, run_cons, ih, getOperator?_after_removeOperator]
    by_cases hq : q = o
    · simp [hq]
    · simp [hq]

/-- Removals of operators leave the same variables there. -/
theorem exists_getVariable?_run_removeOperator (g : Graph) (os : List OperatorId)
    (v : VariableId) :
    (∃ w, (g.run (os.map .removeOperator)).getVariable? v = some w) ↔
      ∃ w, g.getVariable? v = some w := by
  induction os generalizing g with
  | nil => exact Iff.rfl
  | cons o os ih =>
    rw [List.map_cons, run_cons, ih]
    cases ho : g.getOperator? o with
    | none => rw [after_removeOperator_of_none ho]
    | some p =>
      rw [after_removeOperator ho, getVariable?_detached]
      simp only [Option.map_eq_some_iff]
      constructor
      · rintro ⟨-, w, hw, -⟩
        exact ⟨w, hw⟩
      · rintro ⟨w, hw⟩
        exact ⟨w.without o p v, w, hw, rfl⟩

/-- In a consistent graph without operators, all variables are without links. -/
theorem Consistent.unlinked_eq_variableIds (h : g.Consistent) (hkeyed : g.Keyed)
    (hnone : ∀ q, g.getOperator? q = none) : g.unlinked = g.variableIds := by
  refine (h.lists_unlinked hkeyed).unique ((lists_variableIds g).congr fun v => ?_)
  refine (and_iff_left fun role => ?_).symm
  rintro ⟨q, slot, hheld⟩
  exact not_holdsAt_of_none (hnone q) hheld

/-! ## Removing variables -/

/-- A variable is stored under the id and has no links. -/
def Removable (g : Graph) (v : VariableId) : Prop :=
  ∃ w, g.getVariable? v = some w ∧ w.isUnlinked = true

/-- The removal of a variable without links answers it and drops it. -/
theorem perform_removeVariable_of_unlinked (hw : g.getVariable? v = some w)
    (hl : w.isUnlinked = true) :
    g.perform (.removeVariable v) =
      .done g (.removedVariable w) [.dropVariable v] [.variableRemoved v w] := by
  rw [perform_iff.2 (.removeVariable (.removed hw hl))]
  rfl

/-- Variables that are dropped are gone, and all others are as they were. -/
theorem getVariable?_written_dropVariable (g : Graph) (vs : List VariableId) (u : VariableId) :
    (g.written (vs.map .dropVariable)).getVariable? u =
      if u ∈ vs then none else g.getVariable? u := by
  induction vs generalizing g with
  | nil => simp
  | cons v vs ih =>
    rw [List.map_cons, written_cons, ih, Write.getVariable?_dropVariable]
    by_cases hu : u = v
    · simp [hu]
    · simp [hu]

/-- Dropping variables leaves the operators alone. -/
theorem getOperator?_written_dropVariable (g : Graph) (vs : List VariableId) (q : OperatorId) :
    (g.written (vs.map .dropVariable)).getOperator? q = g.getOperator? q := by
  induction vs generalizing g with
  | nil => rfl
  | cons v vs ih => rw [List.map_cons, written_cons, ih, Write.getOperator?_dropVariable]

/-- Where one variable is dropped, the others are as they were. -/
theorem getVariable?_dropVariable_of_ne (g : Graph) (hne : u ≠ v) :
    ((Write.dropVariable v).apply g).getVariable? u = g.getVariable? u := by
  rw [Write.getVariable?_dropVariable, if_neg hne]

/-- The removal of a variable without links does nothing but drop it. -/
theorem Removable.after_eq (h : g.Removable v) :
    g.after (.removeVariable v) = (Write.dropVariable v).apply g := by
  obtain ⟨w, hw, hl⟩ := h
  rw [after, perform_removeVariable_of_unlinked hw hl]
  rfl

/-- Where one variable is dropped, the others can be removed as before. -/
theorem Removable.dropVariable (h : g.Removable u) (hne : u ≠ v) :
    ((Write.dropVariable v).apply g).Removable u := by
  obtain ⟨w, hw, hl⟩ := h
  exact ⟨w, (getVariable?_dropVariable_of_ne g hne).trans hw, hl⟩

/-- Where one variable is dropped, the removals of others answer as before. -/
theorem Removable.result_dropVariable (h : g.Removable u) (hne : u ≠ v) :
    (((Write.dropVariable v).apply g).perform (.removeVariable u)).result =
      (g.perform (.removeVariable u)).result := by
  obtain ⟨w, hw, hl⟩ := h
  have hkept := (getVariable?_dropVariable_of_ne g hne).trans hw
  rw [perform_removeVariable_of_unlinked hkept hl, perform_removeVariable_of_unlinked hw hl]
  rfl

/-- Variables without links can be removed one after the other. Each removal has the result that it
would have alone, and all of them drop these variables and do nothing else. -/
theorem run_removeVariables {vs : List VariableId} (hvs : vs.Nodup)
    (hall : ∀ v ∈ vs, g.Removable v) :
    g.results (vs.map .removeVariable) =
      vs.map (fun v => (g.perform (.removeVariable v)).result) ∧
    g.run (vs.map .removeVariable) = g.written (vs.map .dropVariable) := by
  induction vs generalizing g with
  | nil => exact ⟨rfl, rfl⟩
  | cons v vs ih =>
    obtain ⟨hv, hvs⟩ := List.nodup_cons.1 hvs
    obtain ⟨hfirst, hrest⟩ := List.forall_mem_cons.1 hall
    have hne : ∀ u ∈ vs, u ≠ v := fun u hu heq => hv (heq ▸ hu)
    -- The first removal is a drop, after which the others can be removed and answer as before it.
    obtain ⟨hresults, hrun⟩ := ih hvs fun u hu => (hrest u hu).dropVariable (hne u hu)
    have hsame : vs.map (fun u => (((Write.dropVariable v).apply g).perform
        (.removeVariable u)).result) = vs.map fun u => (g.perform (.removeVariable u)).result :=
      List.map_congr_left fun u hu => (hrest u hu).result_dropVariable (hne u hu)
    constructor
    · rw [List.map_cons, results, hfirst.after_eq, hresults, hsame, List.map_cons]
    · rw [List.map_cons, run_cons, hfirst.after_eq, hrun]
      rfl

/-- A graph without the variables in a list, and with no other change to its nodes. -/
structure Without (g g' : Graph) (vs : List VariableId) : Prop where
  /-- The operators are as they were. -/
  ops : ∀ q, g'.getOperator? q = g.getOperator? q
  /-- The variables of the list are gone, and all others are as they were. -/
  vars : ∀ u, g'.getVariable? u = if u ∈ vs then none else g.getVariable? u

/-- Dropping variables makes the graph without them. -/
theorem without_written (g : Graph) (vs : List VariableId) :
    g.Without (g.written (vs.map .dropVariable)) vs :=
  ⟨getOperator?_written_dropVariable g vs, getVariable?_written_dropVariable g vs⟩

/-- What can be removed without some variables are the others that could be. -/
theorem Without.removable_iff {vs : List VariableId} (h : g.Without g' vs) :
    g'.Removable u ↔ g.Removable u ∧ u ∉ vs := by
  unfold Removable
  rw [h.vars]
  split
  · next hu => simp [hu]
  · next hu => simp [hu]

/-- The variables that can be removed are those that are left over. -/
theorem Keyed.mem_unlinked (h : g.Keyed) : v ∈ g.unlinked ↔ g.Removable v := by
  rw [h.unlinked_eq]
  exact (lists_idsWhere g _).mem_iff v

/-! ## All histories -/

/-- A relation between ids and results holds along a list of calls that each have the result that
they would have alone. -/
theorem forall₂_results {kind : NodeKind} {ids : List (Id kind)} {call : Id kind → Call}
    {R : Id kind → Except Failure Answer → Prop}
    (hresults : g.results (ids.map call) = ids.map fun i => (g.perform (call i)).result)
    (hall : ∀ i ∈ ids, R i (g.perform (call i)).result) :
    List.Forall₂ R ids (g.results (ids.map call)) := by
  rw [hresults]
  exact List.forall₂_map_right_iff.2 (List.forall₂_same.2 hall)

/-- Operators can be removed in any order, and each removal answers the operator. -/
theorem removeOperators_of_perm (g : Graph) {os os' : List OperatorId} (hos : os.Nodup)
    (hall : ∀ o ∈ os, ∃ p, g.getOperator? o = some p) (hperm : os'.Perm os) :
    List.Forall₂ (fun o r => ∃ p, g.getOperator? o = some p ∧ r = .ok (.removedOperator p)) os'
      (g.results (os'.map .removeOperator)) ∧
    g.run (os'.map .removeOperator) = g.run (os.map .removeOperator) := by
  have hcalls := pairwise_removeOperator hos
  have hresults := results_eq_map_of_perm hcalls (hperm.map _) g
  rw [List.map_map] at hresults
  refine ⟨forall₂_results hresults fun o ho => ?_, run_eq_of_perm hcalls (hperm.map _) g⟩
  obtain ⟨p, hp⟩ := hall o (hperm.mem_iff.1 ho)
  exact ⟨p, hp, result_removeOperator hp⟩

/-- When all operators have been removed, every variable is left over. -/
theorem Consistent.unlinked_of_removeOperators (h : g.Consistent) (hkeyed : g.Keyed)
    (hbelow : g.KeysBelow) {os : List OperatorId} (hperm : os.Perm g.operatorIds) :
    let g' := g.run (os.map .removeOperator)
    g'.unlinked = g'.variableIds ∧ g'.variableIds = g.variableIds := by
  intro g'
  have hnone : ∀ q, g'.getOperator? q = none := by
    intro q
    rw [getOperator?_run_removeOperator, ite_eq_left_iff, hperm.mem_iff]
    intro hq
    exact Option.eq_none_iff_forall_ne_some.2 fun p hp => hq (SortedMap.mem_keys.2 ⟨p, hp⟩)
  refine ⟨(h.run hbelow _).unlinked_eq_variableIds (hkeyed.run _) hnone, ?_⟩
  have hsame : Lists g.variableIds fun v => ∃ w, g'.getVariable? v = some w :=
    (lists_variableIds g).congr fun v => (exists_getVariable?_run_removeOperator g os v).symm
  exact (lists_variableIds g').unique hsame

/-- Variables that are left over can be removed one after the other. Each removal answers the
variable, and what is left over afterwards are the others. -/
theorem Keyed.removeVariables (h : g.Keyed) {vs : List VariableId} (hvs : vs.Nodup)
    (hsub : vs ⊆ g.unlinked) :
    let g' := g.run (vs.map .removeVariable)
    List.Forall₂ (fun v r => ∃ w, g.getVariable? v = some w ∧ r = .ok (.removedVariable w)) vs
      (g.results (vs.map .removeVariable)) ∧
    g.Without g' vs ∧ ∀ u, u ∈ g'.unlinked ↔ u ∈ g.unlinked ∧ u ∉ vs := by
  intro g'
  have hall : ∀ v ∈ vs, g.Removable v := fun v hv => h.mem_unlinked.1 (hsub hv)
  obtain ⟨hresults, hrun⟩ := run_removeVariables hvs hall
  have hwithout : g.Without g' vs := by
    rw [show g' = _ from hrun]
    exact without_written g vs
  refine ⟨forall₂_results hresults fun v hv => ?_, hwithout, fun u => ?_⟩
  · obtain ⟨w, hw, hl⟩ := hall v hv
    refine ⟨w, hw, ?_⟩
    rw [perform_removeVariable_of_unlinked hw hl]
    rfl
  · rw [(h.run _).mem_unlinked, hwithout.removable_iff, h.mem_unlinked]

/-- After every history that starts with the empty graph, any operators can be removed in any order.
Each removal answers the operator as it was in the beginning, and in the end the graph is the same.
When all operators have been removed, every variable is left over. Variables that are left over can
be removed in any order as well: each removal answers the variable and takes nothing else along, and
what is left over afterwards are the others. So nothing is left over when all have been removed. -/
theorem run_empty_teardown (calls : List Call) :
    let g := Graph.run ∅ calls
    (∀ os os' : List OperatorId, os.Nodup → (∀ o ∈ os, ∃ p, g.getOperator? o = some p) →
      os'.Perm os →
      List.Forall₂ (fun o r => ∃ p, g.getOperator? o = some p ∧ r = .ok (.removedOperator p)) os'
        (g.results (os'.map .removeOperator)) ∧
      g.run (os'.map .removeOperator) = g.run (os.map .removeOperator)) ∧
    (∀ os : List OperatorId, os.Perm g.operatorIds →
      let g' := g.run (os.map .removeOperator)
      g'.unlinked = g'.variableIds ∧ g'.variableIds = g.variableIds) ∧
    (∀ vs : List VariableId, vs.Nodup → vs ⊆ g.unlinked →
      let g' := g.run (vs.map .removeVariable)
      List.Forall₂ (fun v r => ∃ w, g.getVariable? v = some w ∧ r = .ok (.removedVariable w)) vs
        (g.results (vs.map .removeVariable)) ∧
      g.Without g' vs ∧ ∀ u, u ∈ g'.unlinked ↔ u ∈ g.unlinked ∧ u ∉ vs) ∧
    g.unlinked.Nodup ∧
    ∀ vs : List VariableId, vs.Perm g.unlinked →
      (g.run (vs.map .removeVariable)).unlinked = [] := by
  intro g
  have hkeyed : g.Keyed := keyed_empty.run calls
  have hcons : g.Consistent := consistent_empty.run keysBelow_empty calls
  have honce : g.unlinked.Nodup := (hcons.lists_unlinked hkeyed).nodup
  refine ⟨fun os os' hos hall hperm => removeOperators_of_perm g hos hall hperm,
    fun os hperm => hcons.unlinked_of_removeOperators hkeyed (keysBelow_empty.run calls) hperm,
    fun vs hvs hsub => hkeyed.removeVariables hvs hsub, honce, fun vs hperm => ?_⟩
  -- What is left over would be one of the others, and there is none.
  obtain ⟨-, -, hleft⟩ := hkeyed.removeVariables (hperm.nodup_iff.2 honce) hperm.subset
  refine List.eq_nil_iff_forall_not_mem.2 fun u hu => ?_
  obtain ⟨hlisted, hnot⟩ := (hleft u).1 hu
  exact hnot (hperm.mem_iff.2 hlisted)

/-- The operators of the knot, with two variables beside them. -/
def looseKnotCalls : List Call := knotCalls ++ [.addVariable [3] .c, .addVariable [4] .c]

/-- The knot with two variables beside it. -/
def looseKnot : Graph := Graph.run ∅ looseKnotCalls

/-- The knot can be taken apart from the last operator to the first, and what is beside it from the
last variable to the first. -/
theorem run_empty_teardown_looseKnot :
    List.Forall₂ (fun o r => ∃ p, looseKnot.getOperator? o = some p ∧ r = .ok (.removedOperator p))
      [⟨1⟩, ⟨0⟩] (looseKnot.results [.removeOperator ⟨1⟩, .removeOperator ⟨0⟩]) ∧
    looseKnot.run [.removeOperator ⟨1⟩, .removeOperator ⟨0⟩] =
      looseKnot.run [.removeOperator ⟨0⟩, .removeOperator ⟨1⟩] ∧
    (looseKnot.run [.removeOperator ⟨1⟩, .removeOperator ⟨0⟩]).unlinked =
      [⟨0⟩, ⟨1⟩, ⟨2⟩, ⟨3⟩] ∧
    List.Forall₂ (fun v r => ∃ w, looseKnot.getVariable? v = some w ∧ r = .ok (.removedVariable w))
      [⟨3⟩, ⟨2⟩] (looseKnot.results [.removeVariable ⟨3⟩, .removeVariable ⟨2⟩]) ∧
    looseKnot.unlinked ≠ [] ∧
    (looseKnot.run [.removeVariable ⟨3⟩, .removeVariable ⟨2⟩]).unlinked = [] := by
  obtain ⟨hoperators, hall, hvariables, hnodup, hnothing⟩ := run_empty_teardown looseKnotCalls
  have hids : looseKnot.operatorIds = [⟨0⟩, ⟨1⟩] := by decide +kernel
  have hvariableIds : looseKnot.variableIds = [⟨0⟩, ⟨1⟩, ⟨2⟩, ⟨3⟩] := by decide +kernel
  have hloose : looseKnot.unlinked = [⟨2⟩, ⟨3⟩] :=
    (keyed_empty.run looseKnotCalls).unlinked_eq.trans (by decide +kernel)
  have hstored : ∀ o ∈ [(⟨0⟩ : OperatorId), ⟨1⟩], ∃ p, looseKnot.getOperator? o = some p :=
    fun o ho => SortedMap.mem_keys.1 (hids ▸ ho : o ∈ looseKnot.operatorIds)
  have hperm : List.Perm [(⟨1⟩ : OperatorId), ⟨0⟩] [⟨0⟩, ⟨1⟩] := by decide
  have hreverse : List.Perm [(⟨3⟩ : VariableId), ⟨2⟩] looseKnot.unlinked := by
    rw [hloose]
    decide
  obtain ⟨hanswers, hsame⟩ := hoperators _ _ (by decide) hstored hperm
  obtain ⟨hlisted, hkept⟩ := hall [⟨1⟩, ⟨0⟩] (hids ▸ hperm)
  obtain ⟨hremoved, -, -⟩ := hvariables _ (hreverse.nodup_iff.2 hnodup) hreverse.subset
  have hempty := hnothing [⟨3⟩, ⟨2⟩] hreverse
  refine ⟨hanswers, hsame, (hlisted.trans hkept).trans hvariableIds, hremoved, ?_, hempty⟩
  rw [hloose]
  exact List.cons_ne_nil _ _

end Graph

end TensorGraph
