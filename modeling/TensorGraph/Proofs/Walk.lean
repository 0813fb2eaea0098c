import Mathlib.Algebra.BigOperators.Group.Finset.Basic
import Mathlib.Algebra.Order.BigOperators.Group.Finset
import Mathlib.Data.List.Dedup
import Mathlib.Data.List.ProdSigma
import TensorGraph.Proofs.Detachment
import TensorGraph.Proofs.Interface

/-!
# Walking along the links

A walk goes over the operators in the order of their ids and lists what each of them holds on one
side, in the order of its slots. On the output side it meets every variable that has a producer,
once and at its producer (`Consistent.perm_walk_output`). On the input side an operator may hold a
variable in several slots, while the variable names it as a consumer once. Both ends count the same
pairs of an operator and a variable when such repeats are left out (`Consistent.sum_consumersOf`),
so the lists of consumers are as long as the walk exactly when there are no repeats.
-/

namespace TensorGraph

/-- The variables that an operator holds on one side, in the order of its slots. -/
def Operator.held (p : Operator) : Role → List VariableId
  | .input => p.consumed
  | .output => p.produced

/-- What an operator holds on one side are the values of its slots. -/
theorem Operator.held_eq (p : Operator) (role : Role) : p.held role = (p.slots role).values := by
  cases role with
  | input => rfl
  | output => rfl

/-! ## Counting -/

/-- The values are without repeats when nothing is held under two keys. -/
theorem SortedMap.nodup_values_iff {κ α : Type} [Key κ] [DecidableEq κ] {m : SortedMap κ α} :
    m.values.Nodup ↔ ∀ k k' a, m.get? k = some a → m.get? k' = some a → k = k' := by
  rw [values, List.nodup_map_iff_inj_on m.nodup_toList]
  constructor
  · intro h k k' a hk hk'
    exact congrArg Prod.fst (h _ (mem_toList.2 hk) _ (mem_toList.2 hk') rfl)
  · rintro h ⟨k, a⟩ hk ⟨k', a'⟩ hk' rfl
    exact Prod.ext (h k k' a (mem_toList.1 hk) (mem_toList.1 hk')) rfl

/-- A pair the other way round. -/
def flipPair {α β : Type} (x : Σ _ : α, β) : Σ _ : β, α := ⟨x.2, x.1⟩

/-- Different pairs are different the other way round. -/
theorem flipPair_injective {α β : Type} : Function.Injective (@flipPair α β) := by
  rintro ⟨a, b⟩ ⟨a', b'⟩ heq
  cases heq
  rfl

/-- Pairs can be counted from both ends: where two families of lists without repeats are made of the
same pairs, their lengths have the same sum. -/
theorem sum_length_eq_of_mem_iff {α β : Type} {l : List α} {l' : List β} {f : α → List β}
    {f' : β → List α} (hl : l.Nodup) (hl' : l'.Nodup) (hf : ∀ a, (f a).Nodup)
    (hf' : ∀ b, (f' b).Nodup) (h : ∀ a b, (a ∈ l ∧ b ∈ f a) ↔ (b ∈ l' ∧ a ∈ f' b)) :
    (l.map fun a => (f a).length).sum = (l'.map fun b => (f' b).length).sum := by
  have hperm : ((l.sigma f).map flipPair).Perm (l'.sigma f') := by
    have hnodup := (hl.sigma hf).map flipPair_injective
    refine (List.perm_ext_iff_of_nodup hnodup (hl'.sigma hf')).2 ?_
    rintro ⟨b, a⟩
    rw [List.mem_sigma, ← h, ← List.mem_sigma]
    exact List.mem_map_of_injective (a := ⟨a, b⟩) flipPair_injective
  rw [← List.length_sigma, ← List.length_sigma, ← hperm.length_eq, List.length_map]

/-- Leaving out repeats leaves the lengths of some lists the same in sum exactly when none of them
has repeats. -/
theorem sum_length_dedup_eq_iff {α β : Type} [DecidableEq α] [DecidableEq β] {l : List α}
    (hl : l.Nodup) (f : α → List β) :
    (l.map fun a => (f a).dedup.length).sum = (l.map fun a => (f a).length).sum ↔
      ∀ a ∈ l, (f a).Nodup := by
  have hle : ∀ a ∈ l.toFinset, (f a).dedup.length ≤ (f a).length :=
    fun a _ => (List.dedup_sublist (f a)).length_le
  rw [← List.sum_toFinset _ hl, ← List.sum_toFinset _ hl, Finset.sum_eq_sum_iff_of_le hle]
  refine forall_congr' fun a => imp_congr List.mem_toFinset ?_
  rw [(List.dedup_sublist (f a)).length_eq, List.dedup_eq_self]

namespace Graph

/-! ## Definitions -/

/-- The variables that the operator under an id holds on one side, if there is one. -/
def heldBy (g : Graph) (role : Role) (o : OperatorId) : List VariableId :=
  (g.getOperator? o).elim [] (·.held role)

/-- The operators that the variable under an id names as consumers, if there is one. -/
def consumersOf (g : Graph) (v : VariableId) : List OperatorId :=
  (g.getVariable? v).elim [] (·.consumers.toList)

/-- What the operators hold on one side, one operator after the other. -/
def walk (g : Graph) (role : Role) : List VariableId := g.operatorIds.flatMap (g.heldBy role)

/-- No operator holds a variable in two slots of one side. -/
def HoldsOnce (g : Graph) (role : Role) : Prop :=
  ∀ o slot slot' v, g.HoldsAt role o slot v → g.HoldsAt role o slot' v → slot = slot'

variable {g : Graph} {role : Role} {o : OperatorId} {v : VariableId} {p : Operator} {w : Variable}

/-! ## The walk on one side -/

/-- What is found under the id of an operator. -/
theorem heldBy_of_some (hp : g.getOperator? o = some p) :
    g.heldBy role o = (p.slots role).values := by
  rw [heldBy, hp, Option.elim_some, p.held_eq]

/-- The variables that an operator holds are those in its slots. -/
theorem mem_heldBy : v ∈ g.heldBy role o ↔ g.Holds role o v := by
  cases hp : g.getOperator? o with
  | none =>
    rw [heldBy, hp, Option.elim_none]
    refine iff_of_false List.not_mem_nil ?_
    rintro ⟨slot, hheld⟩
    exact not_holdsAt_of_none hp hheld
  | some p => rw [heldBy_of_some hp, SortedMap.mem_values, holds_iff hp]

/-- An operator that holds something is there. -/
theorem mem_operatorIds_of_mem_heldBy (hv : v ∈ g.heldBy role o) : o ∈ g.operatorIds := by
  obtain ⟨slot, p, hp, -⟩ := mem_heldBy.1 hv
  exact SortedMap.mem_keys.2 ⟨p, hp⟩

/-- Operators hold variables once when their lists have no repeats. -/
theorem holdsOnce_iff : g.HoldsOnce role ↔ ∀ o ∈ g.operatorIds, (g.heldBy role o).Nodup := by
  have hlist : ∀ {o p}, g.getOperator? o = some p → ((g.heldBy role o).Nodup ↔
      ∀ slot slot' v, g.HoldsAt role o slot v → g.HoldsAt role o slot' v → slot = slot') := by
    intro o p hp
    rw [heldBy_of_some hp, SortedMap.nodup_values_iff]
    simp only [holdsAt_iff hp]
  constructor
  · intro h o ho
    obtain ⟨p, hp⟩ := SortedMap.mem_keys.1 ho
    exact (hlist hp).2 (h o)
  · intro h o slot slot' v hheld hheld'
    obtain ⟨p, hp, -⟩ := id hheld
    exact (hlist hp).1 (h o (SortedMap.mem_keys.2 ⟨p, hp⟩)) slot slot' v hheld hheld'

/-- The walk meets the variables that are held on its side. -/
theorem mem_walk : v ∈ g.walk role ↔ g.OnSide role v := by
  rw [walk, List.mem_flatMap]
  constructor
  · rintro ⟨o, -, hv⟩
    exact ⟨o, mem_heldBy.1 hv⟩
  · rintro ⟨o, hheld⟩
    have hv : v ∈ g.heldBy role o := mem_heldBy.2 hheld
    exact ⟨o, mem_operatorIds_of_mem_heldBy hv, hv⟩

/-- No operator is listed twice. -/
theorem nodup_operatorIds (g : Graph) : g.operatorIds.Nodup :=
  g.ops.keys_sorted.imp Key.ne_of_lt

/-- The consumers of a variable are listed once each. -/
theorem nodup_consumersOf (g : Graph) (v : VariableId) : (g.consumersOf v).Nodup := by
  unfold consumersOf
  cases g.getVariable? v with
  | none => exact List.nodup_nil
  | some w => exact w.consumers.members.keys_sorted.imp Key.ne_of_lt

/-! ## Both ends of the links -/

/-- In a consistent graph an output slot is the only one of its side that holds its variable. -/
theorem Consistent.nodup_walk_output (h : g.Consistent) : (g.walk .output).Nodup := by
  have honce : g.HoldsOnce .output := fun o slot slot' v hheld hheld' => (h.single hheld hheld').2
  -- No operator repeats a variable, and no two operators share one.
  refine List.nodup_flatMap.2 ⟨holdsOnce_iff.1 honce, ?_⟩
  refine g.nodup_operatorIds.imp fun {o o'} hne v hv hv' => hne ?_
  obtain ⟨slot, hheld⟩ := mem_heldBy.1 hv
  obtain ⟨slot', hheld'⟩ := mem_heldBy.1 hv'
  exact (h.single hheld hheld').1

/-- An operator writes a variable when the variable names it as its producer. -/
theorem Consistent.mem_heldBy_output (h : g.Consistent) :
    v ∈ g.heldBy .output o ↔ ∃ w, g.getVariable? v = some w ∧ w.producer = some o := by
  rw [mem_heldBy]
  constructor
  · intro hheld
    obtain ⟨w, hw⟩ := h.stored hheld
    exact ⟨w, hw, (h.linked hw .output o).2 hheld⟩
  · rintro ⟨w, hw, hproducer⟩
    exact (h.linked hw .output o).1 hproducer

/-- The walk over the output slots meets the variables that have a producer, once each. -/
theorem Consistent.perm_walk_output (h : g.Consistent) :
    (g.walk .output).Perm (g.idsWhere (·.producer.isSome)) := by
  have hlists := lists_idsWhere g (·.producer.isSome)
  refine (List.perm_ext_iff_of_nodup h.nodup_walk_output hlists.nodup).2 fun v => ?_
  rw [hlists.mem_iff, mem_walk]
  constructor
  · rintro ⟨o, hheld⟩
    obtain ⟨w, hw, hproducer⟩ := h.mem_heldBy_output.1 (mem_heldBy.2 hheld)
    exact ⟨w, hw, hproducer ▸ rfl⟩
  · rintro ⟨w, hw, hsome⟩
    obtain ⟨o, hproducer⟩ := Option.isSome_iff_exists.1 hsome
    exact ⟨o, mem_heldBy.1 (h.mem_heldBy_output.2 ⟨w, hw, hproducer⟩)⟩

/-- The consumers of a variable are the operators that read it. -/
theorem Consistent.mem_consumersOf (h : g.Consistent) :
    o ∈ g.consumersOf v ↔ v ∈ g.heldBy .input o := by
  rw [mem_heldBy]
  cases hw : g.getVariable? v with
  | none =>
    rw [consumersOf, hw, Option.elim_none]
    refine iff_of_false List.not_mem_nil fun hheld => ?_
    obtain ⟨w, hw'⟩ := h.stored hheld
    cases hw.symm.trans hw'
  | some w =>
    rw [consumersOf, hw, Option.elim_some, SortedSet.mem_toList]
    exact h.linked hw .input o

/-- The variables name as many consumers as the operators read variables, where an operator that
reads a variable in several slots counts once. -/
theorem Consistent.sum_consumersOf (h : g.Consistent) :
    (g.variableIds.map fun v => (g.consumersOf v).length).sum =
      (g.operatorIds.map fun o => (g.heldBy .input o).dedup.length).sum := by
  refine sum_length_eq_of_mem_iff (lists_variableIds g).nodup g.nodup_operatorIds
    g.nodup_consumersOf (fun o => List.nodup_dedup _) fun v o => ?_
  rw [List.mem_dedup, h.mem_consumersOf]
  -- Both ends of a link are there.
  refine and_congr_left fun hv => iff_of_true ?_ (mem_operatorIds_of_mem_heldBy hv)
  exact SortedMap.mem_keys.2 (h.stored (mem_heldBy.1 hv))

/-- The walk over the input slots is as long as what the operators hold there. -/
theorem length_walk (g : Graph) (role : Role) :
    (g.walk role).length = (g.operatorIds.map fun o => (g.heldBy role o).length).sum :=
  List.length_flatMap

/-- The walk over the input slots is at least as long as the lists of consumers together, and it is
as long as these exactly when no operator reads a variable in two slots. -/
theorem Consistent.sum_consumersOf_le (h : g.Consistent) :
    (g.variableIds.map fun v => (g.consumersOf v).length).sum ≤ (g.walk .input).length ∧
    ((g.variableIds.map fun v => (g.consumersOf v).length).sum = (g.walk .input).length ↔
      g.HoldsOnce .input) := by
  rw [h.sum_consumersOf, length_walk]
  constructor
  · exact List.sum_le_sum fun o _ => (List.dedup_sublist _).length_le
  · rw [sum_length_dedup_eq_iff g.nodup_operatorIds, holdsOnce_iff]

/-! ## All histories -/

/-- After every history that starts with the empty graph, the ids of the operators and those of the
variables ascend, and under each of them a node with this id is found, as it is for every variable
that an operator holds. The walk over the output slots meets each variable with a producer once, at
its producer, and no other variable. The consumers of a variable are the operators that read it, so
the lists of consumers together are not longer than the walk over the input slots, and they are as
long exactly when no operator reads a variable in two slots. -/
theorem run_empty_walk (calls : List Call) :
    let g := Graph.run ∅ calls
    (g.operatorIds.Pairwise (· < ·) ∧
      ∀ o, o ∈ g.operatorIds ↔ ∃ p, g.getOperator? o = some p ∧ p.id = o) ∧
    (g.variableIds.Pairwise (· < ·) ∧
      ∀ v, v ∈ g.variableIds ↔ ∃ w, g.getVariable? v = some w ∧ w.id = v) ∧
    (∀ role o, ∀ v ∈ g.heldBy role o, v ∈ g.variableIds) ∧
    ((g.walk .output).Nodup ∧ (g.walk .output).Perm (g.idsWhere (·.producer.isSome)) ∧
      ∀ o v, v ∈ g.heldBy .output o ↔ ∃ w, g.getVariable? v = some w ∧ w.producer = some o) ∧
    (∀ v w, g.getVariable? v = some w →
      ∀ o, o ∈ w.consumers ↔ o ∈ g.operatorIds ∧ v ∈ g.heldBy .input o) ∧
    (g.variableIds.map fun v => (g.consumersOf v).length).sum ≤ (g.walk .input).length ∧
    ((g.variableIds.map fun v => (g.consumersOf v).length).sum = (g.walk .input).length ↔
      g.HoldsOnce .input) := by
  intro g
  have hkeyed : g.Keyed := keyed_empty.run calls
  have hcons : g.Consistent := consistent_empty.run keysBelow_empty calls
  refine ⟨⟨g.ops.keys_sorted, fun o => ?_⟩, ⟨g.vars.keys_sorted, fun v => ?_⟩, ?_,
    ⟨hcons.nodup_walk_output, hcons.perm_walk_output, fun o v => hcons.mem_heldBy_output⟩, ?_,
    hcons.sum_consumersOf_le⟩
  · refine SortedMap.mem_keys.trans (exists_congr fun p => ?_)
    exact (and_iff_left_of_imp hkeyed.ops).symm
  · refine SortedMap.mem_keys.trans (exists_congr fun w => ?_)
    exact (and_iff_left_of_imp hkeyed.vars).symm
  · intro role o v hv
    exact SortedMap.mem_keys.2 (hcons.stored (mem_heldBy.1 hv))
  · intro v w hw o
    rw [and_iff_right_of_imp mem_operatorIds_of_mem_heldBy, mem_heldBy]
    exact hcons.linked hw .input o

/-- In the knot the walk over the input slots meets the variable that is read twice by one operator
once more than it names consumers. -/
theorem run_empty_walk_knot :
    (knot.walk .output).Nodup ∧ knot.walk .output = [⟨1⟩] ∧
    (∃ w, knot.getVariable? ⟨0⟩ = some w ∧ w.consumers.toList = [⟨0⟩, ⟨1⟩] ∧
      ∀ o, o ∈ w.consumers ↔ o ∈ knot.operatorIds ∧ ⟨0⟩ ∈ knot.heldBy .input o) ∧
    knot.walk .input = [⟨0⟩, ⟨0⟩, ⟨1⟩, ⟨0⟩] ∧
    (knot.variableIds.map fun v => (knot.consumersOf v).length).sum = 3 ∧
    ¬ knot.HoldsOnce .input := by
  obtain ⟨-, -, -, ⟨honce, -, -⟩, hconsumers, -, hiff⟩ := run_empty_walk knotCalls
  have hinputs : knot.walk .input = [⟨0⟩, ⟨0⟩, ⟨1⟩, ⟨0⟩] := by decide +kernel
  have hsum : (knot.variableIds.map fun v => (knot.consumersOf v).length).sum = 3 := by
    decide +kernel
  obtain ⟨w, hw, hlist⟩ : ∃ w, knot.getVariable? ⟨0⟩ = some w ∧
      w.consumers.toList = [⟨0⟩, ⟨1⟩] := Option.map_eq_some_iff.1 (by decide +kernel)
  refine ⟨honce, by decide +kernel, ⟨w, hw, hlist, hconsumers _ w hw⟩, hinputs, hsum, ?_⟩
  intro hholds
  have hsame : (knot.variableIds.map fun v => (knot.consumersOf v).length).sum =
    (knot.walk .input).length := hiff.2 hholds
  rw [hsum, hinputs] at hsame
  exact absurd hsame (by decide)

end Graph

end TensorGraph
