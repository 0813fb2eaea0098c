import TensorGraph.Graph.Call
import TensorGraph.Proofs.Addressable
import TensorGraph.Proofs.Results
import TensorGraph.Proofs.Roles

/-!
# Graphs with links at one end

A `Sketch` writes a link down in the slot of the operator and nowhere else. What a variable knows of
its links in a graph is found here by a scan of all slots of all operators: the producer of a
variable is the operator with an output slot that holds it, and a variable is in use while some slot
holds it. The calls on nodes and links are given once more on sketches, with the same checks in the
same order. A call that fails leaves no sketch behind.
-/

namespace TensorGraph

/-- What a variable carries, without its links. -/
structure Profile where
  /-- The id under which the variable was created. -/
  id : VariableId
  /-- Attributes and parameters. -/
  annotations : Annotations
  /-- A name for readers. -/
  name : Option String
  /-- The sizes of the tensor. -/
  shape : Shape
  /-- The axes that the sizes belong to. -/
  order : AxisOrder
  /-- The type of the elements. -/
  elementType : ElementType
deriving DecidableEq

/-- What a variable carries. -/
def Variable.profile (w : Variable) : Profile :=
  ⟨w.id, w.annotations, w.name, w.shape, w.order, w.elementType⟩

/-- The variable without links that carries what is given. -/
def Profile.unlinked (x : Profile) : Variable where
  id := x.id
  annotations := x.annotations
  name := x.name
  shape := x.shape
  order := x.order
  elementType := x.elementType

/-- A graph whose links are in the slots of the operators alone. -/
structure Sketch where
  /-- What the variables carry. -/
  vars : SortedMap VariableId Profile := ∅
  /-- The operators. -/
  ops : SortedMap OperatorId Operator := ∅
  /-- The id of the next new variable. -/
  nextVariable : VariableId := ⟨0⟩
  /-- The id of the next new operator. -/
  nextOperator : OperatorId := ⟨0⟩
deriving DecidableEq

/-- The sketch of a graph, without what the variables know of their links. -/
def Graph.sketch (g : Graph) : Sketch :=
  ⟨g.vars.map Variable.profile, g.ops, g.nextVariable, g.nextOperator⟩

/-- A call that reads or changes nodes and links. -/
inductive LinkCall where
  | addVariable (shape : Shape) (order : AxisOrder)
  | addOperator (name : String) (parameters : SortedMap String Parameter)
  | bind (role : Role) (o : OperatorId) (slot : String) (v : VariableId)
  | unbind (role : Role) (o : OperatorId) (v : VariableId)
  | rebind (role : Role) (o : OperatorId) (old new : VariableId)
  | slotOf (role : Role) (o : OperatorId) (v : VariableId)
  | removeOperator (o : OperatorId)
  | removeVariable (v : VariableId)
deriving DecidableEq

/-- The call on a graph. -/
def LinkCall.toCall : LinkCall → Call
  | addVariable shape order => .addVariable shape order
  | addOperator name parameters => .addOperator name parameters
  | bind .input o slot v => .bindInput o slot v
  | bind .output o slot v => .bindOutput o slot v
  | unbind .input o v => .unbindInput o v
  | unbind .output o v => .unbindOutput o v
  | rebind .input o old new => .rebindInput o old new
  | rebind .output o old new => .rebindOutput o old new
  | slotOf .input o v => .inputSlot o v
  | slotOf .output o v => .outputSlot o v
  | removeOperator o => .removeOperator o
  | removeVariable v => .removeVariable v

namespace Sketch

/-- The sketch without nodes. -/
def empty : Sketch := {}

instance : EmptyCollection Sketch := ⟨empty⟩

variable (s : Sketch)

/-! ## Scans -/

/-- The operator that writes the variable: the first one with an output slot that holds it. -/
def producer? (v : VariableId) : Option OperatorId :=
  (s.ops.toList.find? fun e => (e.2.slot? .output v).isSome).map (·.1)

/-- Whether some slot of some operator holds the variable. -/
def inUse (v : VariableId) : Bool :=
  s.ops.toList.any fun e => (e.2.slot? .input v).isSome || (e.2.slot? .output v).isSome

/-- The operator that keeps a slot of one side from taking the variable. -/
def rival? : Role → VariableId → Option OperatorId
  | .input, _ => none
  | .output, v => s.producer? v

/-! ## Calls -/

/-- The operator with the given id. -/
def findOperator (o : OperatorId) : Except Failure Operator :=
  match s.ops.get? o with
  | some p => .ok p
  | none => .error (.refused (.unknownOperator o))

/-- What the variable with the given id carries. -/
def findVariable (v : VariableId) : Except Failure Profile :=
  match s.vars.get? v with
  | some x => .ok x
  | none => .error (.refused (.unknownVariable v))

/-- The first slot by name of one side of an operator that holds the variable. -/
def slotOf (role : Role) (o : OperatorId) (v : VariableId) : Except Failure String := do
  let _ ← s.findVariable v
  let p ← s.findOperator o
  match p.slot? role v with
  | some slot => .ok slot
  | none => .error (.refused (.notHeld role o v))

/-- Puts another operator in place of the one under an id. -/
def putOperator (o : OperatorId) (p : Operator) : Sketch := { s with ops := s.ops.insert o p }

/-- Adds a variable. -/
def addVariable (shape : Shape) (order : AxisOrder) : Except Failure (VariableId × Sketch) := do
  let w ← (Variable.create s.nextVariable shape order).mapError .refused
  match s.nextVariable.succ? with
  | some next =>
    .ok (s.nextVariable, { s with
      vars := s.vars.insert s.nextVariable w.profile, nextVariable := next })
  | none => .error (.fault .counterExhausted)

/-- Adds an operator. -/
def addOperator (name : String) (parameters : SortedMap String Parameter) :
    Except Failure (OperatorId × Sketch) :=
  match s.nextOperator.succ? with
  | some next =>
    .ok (s.nextOperator, { s with
      ops := s.ops.insert s.nextOperator
        { id := s.nextOperator, name, annotations := { parameters } }
      nextOperator := next })
  | none => .error (.fault .counterExhausted)

/-- Binds a variable to a slot. -/
def bind (role : Role) (o : OperatorId) (slot : String) (v : VariableId) :
    Except Failure Sketch := do
  let p ← s.findOperator o
  let _ ← s.findVariable v
  match (p.slots role).get? slot with
  | some u => if u = v then .ok s else .error (.refused (.slotOccupied o slot u))
  | none =>
    match s.rival? role v with
    | some q => .error (.refused (.outputConflict v q))
    | none => .ok (s.putOperator o (p.setSlot role slot v))

/-- Empties the first slot that holds a variable. -/
def unbind (role : Role) (o : OperatorId) (v : VariableId) : Except Failure Sketch := do
  let slot ← s.slotOf role o v
  let p ← s.findOperator o
  .ok (s.putOperator o (p.clearSlot role slot))

/-- Puts one variable in place of another into the first slot that holds it. For an input the new
variable is looked up first, for an output last. -/
def rebind : Role → OperatorId → VariableId → VariableId → Except Failure Sketch
  | .input, o, old, new => do
    let _ ← s.findVariable new
    let slot ← s.slotOf .input o old
    if old = new then .ok s else
      let p ← s.findOperator o
      .ok (s.putOperator o (p.setSlot .input slot new))
  | .output, o, old, new => do
    let slot ← s.slotOf .output o old
    if old = new then .ok s else
      let _ ← s.findVariable new
      match s.producer? new with
      | some q => .error (.refused (.outputConflict new q))
      | none =>
        let p ← s.findOperator o
        .ok (s.putOperator o (p.setSlot .output slot new))

/-- Removes an operator. -/
def removeOperator (o : OperatorId) : Except Failure (Operator × Sketch) := do
  let p ← s.findOperator o
  .ok (p, { s with ops := s.ops.erase o })

/-- Removes a variable that no slot holds. -/
def removeVariable (v : VariableId) : Except Failure (Profile × Sketch) := do
  let x ← s.findVariable v
  if s.inUse v then .error (.refused (.variableInUse v))
  else .ok (x, { s with vars := s.vars.erase v })

/-- Carries out a call. -/
def perform : LinkCall → Except Failure (Answer × Sketch)
  | .addVariable shape order => (s.addVariable shape order).map fun (v, s) => (.variableId v, s)
  | .addOperator name parameters =>
    (s.addOperator name parameters).map fun (o, s) => (.operatorId o, s)
  | .bind role o slot v => (s.bind role o slot v).map (.done, ·)
  | .unbind role o v => (s.unbind role o v).map (.done, ·)
  | .rebind role o old new => (s.rebind role o old new).map (.done, ·)
  | .slotOf role o v => (s.slotOf role o v).map fun slot => (.slot slot, s)
  | .removeOperator o => (s.removeOperator o).map fun (p, s) => (.removedOperator p, s)
  | .removeVariable v => (s.removeVariable v).map fun (x, s) => (.removedVariable x.unlinked, s)

/-- The sketch after a call: the one that was there before, if the call fails. -/
def after (c : LinkCall) : Sketch :=
  match s.perform c with
  | .ok (_, s') => s'
  | .error _ => s

/-- The sketch after some calls, one after the other, whether they succeed or not. -/
def run (calls : List LinkCall) : Sketch := calls.foldl after s

/-! ## Conflicts -/

variable {s : Sketch} {role : Role} {o q : OperatorId} {slot : String} {u v : VariableId}
  {e : Failure}

/-- Looking an operator up fails when it is not there. -/
theorem findOperator_eq_error :
    s.findOperator o = .error e ↔ s.ops.get? o = none ∧ e = .refused (.unknownOperator o) := by
  unfold findOperator
  cases s.ops.get? o <;> simp [eq_comm]

/-- Looking a variable up fails when it is not there. -/
theorem findVariable_eq_error :
    s.findVariable v = .error e ↔ s.vars.get? v = none ∧ e = .refused (.unknownVariable v) := by
  unfold findVariable
  cases s.vars.get? v <;> simp [eq_comm]

/-- Looking a slot up reports no conflict. -/
theorem slotOf_ne_outputConflict :
    s.slotOf role o u ≠ .error (.refused (.outputConflict v q)) := by
  intro he
  rcases Result.bind_eq_error.1 he with hvar | ⟨x, -, he⟩
  · cases (findVariable_eq_error.1 hvar).2
  rcases Result.bind_eq_error.1 he with hop | ⟨p, -, he⟩
  · cases (findOperator_eq_error.1 hop).2
  split at he
  · cases he
  · cases role <;> cases he

/-- Binding reports a conflict with the producer that the scan finds. -/
theorem producer?_of_bind (he : s.bind role o slot u = .error (.refused (.outputConflict v q))) :
    s.producer? v = some q := by
  rcases Result.bind_eq_error.1 he with hop | ⟨p, -, he⟩
  · cases (findOperator_eq_error.1 hop).2
  rcases Result.bind_eq_error.1 he with hvar | ⟨x, -, he⟩
  · cases (findVariable_eq_error.1 hvar).2
  split at he
  · split at he <;> cases he
  · split at he
    · next q' hrival =>
      cases he
      cases role with
      | input => cases hrival
      | output => exact hrival
    · cases he

/-- Rebinding reports a conflict with the producer that the scan finds. -/
theorem producer?_of_rebind {old new : VariableId}
    (he : s.rebind role o old new = .error (.refused (.outputConflict v q))) :
    s.producer? v = some q := by
  cases role with
  | input =>
    rcases Result.bind_eq_error.1 he with hvar | ⟨x, -, he⟩
    · cases (findVariable_eq_error.1 hvar).2
    rcases Result.bind_eq_error.1 he with hslot | ⟨slot, -, he⟩
    · exact absurd hslot slotOf_ne_outputConflict
    split at he
    · cases he
    · rcases Result.bind_eq_error.1 he with hop | ⟨p, -, he⟩
      · cases (findOperator_eq_error.1 hop).2
      · cases he
  | output =>
    rcases Result.bind_eq_error.1 he with hslot | ⟨slot, -, he⟩
    · exact absurd hslot slotOf_ne_outputConflict
    split at he
    · cases he
    · rcases Result.bind_eq_error.1 he with hvar | ⟨x, -, he⟩
      · cases (findVariable_eq_error.1 hvar).2
      split at he
      · next q' hq =>
        cases he
        exact hq
      · rcases Result.bind_eq_error.1 he with hop | ⟨p, -, he⟩
        · cases (findOperator_eq_error.1 hop).2
        · cases he

/-- A conflict is reported with the producer that the scan finds. -/
theorem producer?_of_perform {c : LinkCall}
    (he : s.perform c = .error (.refused (.outputConflict v q))) : s.producer? v = some q := by
  cases c with
  | addVariable shape order =>
    rcases Result.bind_eq_error.1 (Result.map_eq_error.1 he) with hw | ⟨w, -, he⟩
    · obtain ⟨e, hw, he⟩ := Result.mapError_eq_error.1 hw
      cases he
      cases Variable.errorClass_of_create hw
    · split at he <;> cases he
  | addOperator name parameters =>
    have he := Result.map_eq_error.1 he
    unfold addOperator at he
    split at he <;> cases he
  | bind role o slot u => exact producer?_of_bind (Result.map_eq_error.1 he)
  | unbind role o u =>
    rcases Result.bind_eq_error.1 (Result.map_eq_error.1 he) with hslot | ⟨slot, -, he⟩
    · exact absurd hslot slotOf_ne_outputConflict
    rcases Result.bind_eq_error.1 he with hop | ⟨p, -, he⟩
    · cases (findOperator_eq_error.1 hop).2
    · cases he
  | rebind role o old new => exact producer?_of_rebind (Result.map_eq_error.1 he)
  | slotOf role o u => exact absurd (Result.map_eq_error.1 he) slotOf_ne_outputConflict
  | removeOperator o =>
    rcases Result.bind_eq_error.1 (Result.map_eq_error.1 he) with hop | ⟨p, -, he⟩
    · cases (findOperator_eq_error.1 hop).2
    · cases he
  | removeVariable u =>
    rcases Result.bind_eq_error.1 (Result.map_eq_error.1 he) with hvar | ⟨x, -, he⟩
    · cases (findVariable_eq_error.1 hvar).2
    · split at he <;> cases he

/-- A variable is reported to be in use when it is there and the scan finds a slot for it. -/
theorem removeVariable_eq_inUse :
    s.perform (.removeVariable v) = .error (.refused (.variableInUse v)) ↔
      (∃ x, s.vars.get? v = some x) ∧ s.inUse v = true := by
  rw [perform, Result.map_eq_error, removeVariable, Result.bind_eq_error, findVariable_eq_error]
  unfold findVariable
  cases s.vars.get? v with
  | none => simp
  | some x => simp

end Sketch

end TensorGraph
