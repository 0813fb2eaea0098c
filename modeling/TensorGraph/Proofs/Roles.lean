import TensorGraph.Graph.Binding

/-!
# Both sides of an operator at once

An operator reads through its input slots and writes through its output slots, and a variable knows
the operators at the other ends of its links: any number of consumers, and one producer at most.
This module gives the two sides one name each, with the role as a parameter, so that what holds of
both is said once. `Variable.LinkedTo` is the knowledge of the variable about one link.
-/

namespace TensorGraph

namespace Operator

variable (p : Operator) (role r : Role) (slot : String) (v : VariableId)

/-- Puts a variable into a slot of one side. -/
def setSlot : Role → String → VariableId → Operator
  | .input => p.setInput
  | .output => p.setOutput

/-- Empties a slot of one side. -/
def clearSlot : Role → String → Operator
  | .input => p.clearInput
  | .output => p.clearOutput

/-- The first slot of one side by name that holds the variable. -/
def slot? : Option String := (p.slots role).keyOf? v

/-- Setting a slot sets it on its own side alone. -/
theorem slots_setSlot :
    (p.setSlot role slot v).slots r =
      if r = role then (p.slots r).insert slot v else p.slots r := by
  cases role <;> cases r <;> rfl

/-- Emptying a slot empties it on its own side alone. -/
theorem slots_clearSlot :
    (p.clearSlot role slot).slots r = if r = role then (p.slots r).erase slot else p.slots r := by
  cases role <;> cases r <;> rfl

/-- Setting a slot keeps the id. -/
@[simp]
theorem id_setSlot : (p.setSlot role slot v).id = p.id := by
  cases role <;> rfl

/-- Emptying a slot keeps the id. -/
@[simp]
theorem id_clearSlot : (p.clearSlot role slot).id = p.id := by
  cases role <;> rfl

/-- A slot need not be emptied before it is set. -/
theorem setSlot_clearSlot :
    (p.clearSlot role slot).setSlot role slot v = p.setSlot role slot v := by
  cases role <;>
    simp [clearSlot, setSlot, clearInput, setInput, clearOutput, setOutput, SortedMap.insert_erase]

/-- A slot that has been emptied holds nothing. -/
@[simp]
theorem get?_clearSlot_self : ((p.clearSlot role slot).slots role).get? slot = none := by
  rw [slots_clearSlot, if_pos rfl, SortedMap.get?_erase_self]

variable {p role v}

/-- Different slots can be filled in either order. -/
theorem setSlot_comm {role' : Role} {slot slot' : String} {v' : VariableId}
    (h : (role, slot) ≠ (role', slot')) :
    (p.setSlot role slot v).setSlot role' slot' v' =
      (p.setSlot role' slot' v').setSlot role slot v := by
  have hslot : role = role' → slot ≠ slot' := fun hr hs => h (Prod.ext hr hs)
  -- The sides are two separate fields, and on one side two different keys are written.
  cases role <;> cases role'
  · simp only [setSlot, setInput, SortedMap.insert_comm p.inputs (hslot rfl)]
  · rfl
  · rfl
  · simp only [setSlot, setOutput, SortedMap.insert_comm p.outputs (hslot rfl)]

/-- Filling a slot with what it holds changes nothing. -/
theorem setSlot_of_get? {slot : String} (h : (p.slots role).get? slot = some v) :
    p.setSlot role slot v = p := by
  cases role <;> rw [slots] at h <;> simp only [setSlot, setInput, setOutput,
    SortedMap.insert_of_get? h]

/-- Emptying a slot makes up for filling it. -/
theorem clearSlot_setSlot {slot : String} (h : (p.slots role).get? slot = none) :
    (p.setSlot role slot v).clearSlot role slot = p := by
  cases role <;> rw [slots] at h <;> simp only [setSlot, clearSlot, setInput, clearInput, setOutput,
    clearOutput, SortedMap.erase_insert, SortedMap.erase_of_get? h]

/-- The slot that is found for a variable is the first one that holds it. -/
theorem slot?_eq_some {slot : String} :
    p.slot? role v = some slot ↔
      (p.slots role).get? slot = some v ∧ ∀ s, (p.slots role).get? s = some v → ¬ s < slot :=
  SortedMap.keyOf?_eq_some

/-- No slot is found for a variable that no slot of the side holds. -/
theorem slot?_eq_none : p.slot? role v = none ↔ ∀ s, (p.slots role).get? s ≠ some v :=
  SortedMap.keyOf?_eq_none

/-- No input slot is found for a variable exactly where none holds it. -/
theorem isNone_inputSlot?_iff :
    (p.inputSlot? v).isNone = true ↔ ¬ ∃ s, (p.slots .input).get? s = some v := by
  have hnone : p.slot? .input v = none ↔ ∀ s, (p.slots .input).get? s ≠ some v := slot?_eq_none
  rw [Option.isNone_iff_eq_none, not_exists]
  exact hnone

/-- The slot that is found for a variable holds it. -/
theorem get?_of_slot? {slot : String} (h : p.slot? role v = some slot) :
    (p.slots role).get? slot = some v :=
  (slot?_eq_some.1 h).1

/-- Of the slots that hold a variable once one more has taken it, this one is the first where no
slot in front of it held the variable before. -/
theorem slot?_setSlot_self {slot : String} :
    (p.setSlot role slot v).slot? role v = some slot ↔
      ∀ s, s < slot → (p.slots role).get? s ≠ some v := by
  rw [slot?_eq_some, slots_setSlot, if_pos rfl, SortedMap.get?_insert_self]
  simp only [SortedMap.get?_insert, true_and]
  constructor
  · intro hfirst s hlt hheld
    have hne : s ≠ slot := Key.ne_of_lt hlt
    exact hfirst s (by rwa [if_neg hne]) hlt
  · intro hnone s hheld hlt
    rw [if_neg (Key.ne_of_lt hlt)] at hheld
    exact hnone s hlt hheld

/-- A slot is found for a variable that a slot has taken. It is the one that has taken it exactly if
no slot in front of it held the variable before. -/
theorem exists_slot?_setSlot (p : Operator) (role : Role) (slot : String) (v : VariableId) :
    ∃ first, (p.setSlot role slot v).slot? role v = some first ∧
      (first = slot ↔ ∀ s, s < slot → (p.slots role).get? s ≠ some v) := by
  have hheld : ((p.setSlot role slot v).slots role).get? slot = some v := by
    rw [slots_setSlot, if_pos rfl, SortedMap.get?_insert_self]
  obtain ⟨first, hfirst⟩ : ∃ first, (p.setSlot role slot v).slot? role v = some first :=
    Option.ne_none_iff_exists'.1 fun hnone => slot?_eq_none.1 hnone slot hheld
  refine ⟨first, hfirst, ?_⟩
  rw [← slot?_setSlot_self, hfirst, Option.some.injEq]

/-- Whether a variable is held elsewhere does not depend on what takes its place in a slot. -/
theorem slot?_setSlot_eq_none {slot : String} {new : VariableId} (hne : v ≠ new) :
    (p.setSlot role slot new).slot? role v = none ↔
      (p.clearSlot role slot).slot? role v = none := by
  have hnew : some new ≠ some v := fun h => hne (Option.some.inj h).symm
  simp only [slot?_eq_none, slots_setSlot, slots_clearSlot, if_true, SortedMap.get?_insert,
    SortedMap.get?_erase]
  refine forall_congr' fun s => ?_
  split <;> simp [hnew]

end Operator

namespace Variable

variable (w : Variable) (role r : Role) (o o' : OperatorId) (p : Operator) (v : VariableId)

/-- Notes that an operator holds the variable in a slot of one side. -/
def join : Role → OperatorId → Variable
  | .input, o => w.addConsumer o
  | .output, o => w.setProducer (some o)

/-- Notes that an operator, as it is by now, has given the variable up on one side. A consumer that
holds the variable in another slot stays one. -/
def release : Role → OperatorId → Operator → VariableId → Variable
  | .input, o, p, v => if (p.inputSlot? v).isNone then w.dropConsumer o else w
  | .output, _, _, _ => w.setProducer none

/-- Links can be noted in either order, unless both ask for the producer. -/
theorem join_comm {role role' : Role} (h : role = .output → role' ≠ .output) :
    (w.join role o).join role' o' = (w.join role' o').join role o := by
  cases role <;> cases role'
  · simp only [join, addConsumer, SortedSet.insert_comm w.consumers o o']
  · rfl
  · rfl
  · exact absurd rfl (h rfl)

/-- The variable knows of a link to one side of an operator. -/
def LinkedTo : Role → OperatorId → Prop
  | .input, o => o ∈ w.consumers
  | .output, o => w.producer = some o

/-- A variable has no links when it knows of none. -/
theorem isUnlinked_iff {w : Variable} : w.isUnlinked = true ↔ ∀ r o, ¬ w.LinkedTo r o := by
  unfold isUnlinked
  rw [Bool.and_eq_true, SortedSet.isEmpty_iff, Option.isNone_iff_eq_none,
    Option.eq_none_iff_forall_ne_some]
  constructor
  · rintro ⟨hconsumers, hproducer⟩ r o
    cases r with
    | input => exact hconsumers o
    | output => exact hproducer o
  · exact fun h => ⟨h .input, h .output⟩

/-- A variable comes into a graph when it knows of a consumer and of no producer. -/
theorem isGraphInput_iff {w : Variable} :
    w.isGraphInput = true ↔ (∃ o, w.LinkedTo .input o) ∧ ¬ ∃ o, w.LinkedTo .output o := by
  have hread : (!w.consumers.isEmpty) = true ↔ ∃ o, w.LinkedTo .input o := by
    rw [Bool.not_eq_true', ← Bool.not_eq_true, SortedSet.isEmpty_iff, Classical.not_forall_not]
    exact Iff.rfl
  have hunwritten : w.producer.isNone = true ↔ ¬ ∃ o, w.LinkedTo .output o := by
    rw [Option.isNone_iff_eq_none, Option.eq_none_iff_forall_ne_some, not_exists]
    exact Iff.rfl
  rw [isGraphInput, Bool.and_eq_true, hunwritten, hread, and_comm]

/-- A variable goes out of a graph when it knows of a producer and of no consumer. -/
theorem isGraphOutput_iff {w : Variable} :
    w.isGraphOutput = true ↔ (∃ o, w.LinkedTo .output o) ∧ ¬ ∃ o, w.LinkedTo .input o := by
  have hwritten : w.producer.isSome = true ↔ ∃ o, w.LinkedTo .output o := Option.isSome_iff_exists
  have hunread : w.consumers.isEmpty = true ↔ ¬ ∃ o, w.LinkedTo .input o := by
    rw [SortedSet.isEmpty_iff, not_exists]
    exact Iff.rfl
  rw [isGraphOutput, Bool.and_eq_true, hwritten, hunread]

/-- A variable that takes a link knows of it besides those that it knew of. One that takes a
producer must not have had one. -/
theorem linkedTo_join {w : Variable} {role : Role} (hfree : role = .output → w.producer = none) :
    (w.join role o).LinkedTo r o' ↔ (r = role ∧ o' = o) ∨ w.LinkedTo r o' := by
  cases role <;> cases r <;> simp [join, LinkedTo, addConsumer, setProducer]
  simp [hfree rfl, eq_comm]

/-- A variable that is released knows of the links that it knew of but the one to the operator that
has given it up. One that loses its producer must have been in no other slot of it. -/
theorem linkedTo_release {w : Variable} {role : Role} {o : OperatorId} {p : Operator}
    {v : VariableId} (hlast : role = .output →
      w.producer = some o ∧ ∀ s, (p.slots .output).get? s ≠ some v) :
    (w.release role o p v).LinkedTo r o' ↔
      w.LinkedTo r o' ∧ (r = role → o' = o → ∃ s, (p.slots r).get? s = some v) := by
  cases role with
  | input =>
    rw [release]
    split
    · next h =>
      -- No slot holds the variable: the operator is a consumer no more.
      cases r
      · have hnot := Operator.isNone_inputSlot?_iff.1 h
        simp only [LinkedTo, dropConsumer, SortedSet.mem_erase, hnot, imp_false, true_imp_iff]
        exact and_comm
      · simp [LinkedTo, dropConsumer]
    · next h =>
      -- Another slot holds the variable: nothing changes.
      have hex := Classical.not_not.1 (mt Operator.isNone_inputSlot?_iff.2 h)
      refine (and_iff_left fun hr _ => ?_).symm
      rw [hr]
      exact hex
  | output =>
    obtain ⟨hprod, hnone⟩ := hlast rfl
    cases r
    · simp [release, LinkedTo, setProducer]
    · simp [release, LinkedTo, setProducer, hprod, hnone, eq_comm]

end Variable

namespace Graph

/-- The first slot by name of one side of an operator that holds the variable. -/
def slotOf (g : Graph) : Role → OperatorId → VariableId → Except GraphError String
  | .input => g.inputSlot
  | .output => g.outputSlot

end Graph

/-- The error for a variable that no slot of one side of an operator holds. -/
def GraphError.notHeld : Role → OperatorId → VariableId → GraphError
  | .input => notAnInput
  | .output => notAnOutput

namespace Graph

variable {g : Graph} {role : Role} {o : OperatorId} {v : VariableId} {p : Operator} {w : Variable}

/-- A variable is found when it is there. -/
theorem findVariable_of_some (h : g.getVariable? v = some w) : g.findVariable v = .ok w := by
  simp [findVariable, h]

/-- A variable is not found when it is not there. -/
theorem findVariable_of_none (h : g.getVariable? v = none) :
    g.findVariable v = .error (.unknownVariable v) := by
  simp [findVariable, h]

/-- An operator is found when it is there. -/
theorem findOperator_of_some (h : g.getOperator? o = some p) : g.findOperator o = .ok p := by
  simp [findOperator, h]

/-- An operator is not found when it is not there. -/
theorem findOperator_of_none (h : g.getOperator? o = none) :
    g.findOperator o = .error (.unknownOperator o) := by
  simp [findOperator, h]

/-- A slot is looked for by looking the variable up, then the operator, and then its slots. -/
theorem slotOf_eq (g : Graph) (role : Role) (o : OperatorId) (v : VariableId) :
    g.slotOf role o v = (do
      let _ ← g.findVariable v
      let p ← g.findOperator o
      match p.slot? role v with
      | some slot => .ok slot
      | none => .error (.notHeld role o v)) := by
  cases role <;> rfl

/-- A slot is found when both nodes are there and the operator has one for the variable. -/
theorem slotOf_eq_ok {slot : String} :
    g.slotOf role o v = .ok slot ↔ ∃ w p, g.getVariable? v = some w ∧ g.getOperator? o = some p ∧
      p.slot? role v = some slot := by
  rw [slotOf_eq]
  cases hw : g.getVariable? v with
  | none => simp [findVariable_of_none hw, bind, Except.bind]
  | some w =>
    cases hp : g.getOperator? o with
    | none => simp [findVariable_of_some hw, findOperator_of_none hp, bind, Except.bind]
    | some p =>
      simp only [findVariable_of_some hw, findOperator_of_some hp, bind, Except.bind]
      cases hs : p.slot? role v <;> simp [hs]

/-- No slot is found when the variable is not there, or the operator is not, or it has no slot for
the variable, and the first of these is reported. -/
theorem slotOf_eq_error {e : GraphError} :
    g.slotOf role o v = .error e ↔
      (g.getVariable? v = none ∧ e = .unknownVariable v) ∨
      (∃ w, g.getVariable? v = some w ∧ g.getOperator? o = none ∧ e = .unknownOperator o) ∨
      ∃ w p, g.getVariable? v = some w ∧ g.getOperator? o = some p ∧ p.slot? role v = none ∧
        e = .notHeld role o v := by
  rw [slotOf_eq]
  cases hw : g.getVariable? v with
  | none => simp [findVariable_of_none hw, bind, Except.bind, eq_comm]
  | some w =>
    cases hp : g.getOperator? o with
    | none =>
      simp [findVariable_of_some hw, findOperator_of_none hp, bind, Except.bind, eq_comm]
    | some p =>
      simp only [findVariable_of_some hw, findOperator_of_some hp, bind, Except.bind]
      cases hs : p.slot? role v <;> simp [hs, eq_comm]

end Graph

end TensorGraph
