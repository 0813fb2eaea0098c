import TensorGraph.Annotations
import TensorGraph.AxisSizes
import TensorGraph.GraphError

/-!
# Variables

A variable is a tensor-shaped value that flows between operators. It knows the operators that read
it and the one operator that writes it, if there is one.
-/

namespace TensorGraph

/-- A value that flows through a graph. -/
structure Variable where
  /-- The id under which the variable was created. -/
  id : VariableId
  /-- Attributes and parameters. -/
  annotations : Annotations := .blank
  /-- A name for readers. -/
  name : Option String := none
  /-- The sizes of the tensor. -/
  shape : Shape
  /-- The axes that the sizes belong to. -/
  order : AxisOrder
  /-- The type of the elements. -/
  elementType : ElementType := default
  /-- The operators that read the variable. -/
  consumers : SortedSet OperatorId := ∅
  /-- The operator that writes the variable. -/
  producer : Option OperatorId := none
deriving DecidableEq

namespace Variable

/-- Succeeds when tensors of the shape can be counted in bytes. -/
def checkBytes (shape : Shape) (elementType : ElementType) : Except GraphError UInt64 :=
  match shape.byteCount? elementType with
  | some n => .ok n
  | none => .error (.sizeOverflow shape elementType)

/-- A new variable without links, with elements of the default type. -/
def create (id : VariableId) (shape : Shape) (order : AxisOrder) : Except GraphError Variable :=
  if shape.length = order.rank then
    (checkBytes shape default).map fun _ => { id, shape, order }
  else .error (.axisCountMismatch order shape.length)

/-- The number of axes. -/
def rank (v : Variable) : Nat := v.shape.length

/-- The number of elements. -/
def elementCount (v : Variable) : Except Fault UInt64 :=
  match v.shape.elementCount? with
  | some n => .ok n
  | none => .error .productTooLarge

/-- The bytes that the elements take. -/
def byteCount (v : Variable) : Except Fault UInt64 :=
  match v.shape.elementCount?.bind (Count.mul? · v.elementType.byteSize) with
  | some n => .ok n
  | none => .error .productTooLarge

/-- The sizes by axis. -/
def sizes (v : Variable) : Except Fault AxisSizes := v.order.sizes v.shape

/-- Whether no operator writes or reads the variable. -/
def isUnlinked (v : Variable) : Bool := v.consumers.isEmpty && v.producer.isNone

/-- Whether some operator reads the variable and none writes it. -/
def isGraphInput (v : Variable) : Bool := v.producer.isNone && !v.consumers.isEmpty

/-- Whether some operator writes the variable and none reads it. -/
def isGraphOutput (v : Variable) : Bool := v.producer.isSome && v.consumers.isEmpty

/-- Gives the elements another type, if the tensor can still be counted in bytes. -/
def setElementType (v : Variable) (elementType : ElementType) : Except GraphError Variable :=
  (checkBytes v.shape elementType).map fun _ => { v with elementType }

/-- Reads the shape in another order of axes. An axis of both orders keeps its size, an axis that is
new gets size one, and an axis that is dropped must have size one. -/
def reorder (v : Variable) (target : AxisOrder) : Except Failure Variable :=
  match v.sizes with
  | .error f => .error (.fault f)
  | .ok current =>
    match current.entries.find? (fun e => !target.contains e.1 && decide (e.2 ≠ 1)) with
    | some (axis, size) => .error (.refused (.nonUnitAxisDropped axis size))
    | none =>
      .ok { v with order := target, shape := target.axes.map fun a => (current.get? a).getD 1 }

/-- Adds a consumer. -/
def addConsumer (v : Variable) (o : OperatorId) : Variable :=
  { v with consumers := v.consumers.insert o }

/-- Drops a consumer. -/
def dropConsumer (v : Variable) (o : OperatorId) : Variable :=
  { v with consumers := v.consumers.erase o }

/-- Sets or clears the producer. -/
def setProducer (v : Variable) (producer : Option OperatorId) : Variable := { v with producer }

/-- The variable as it is shown. -/
def text (v : Variable) : String :=
  "<Variable shape=" ++ Shape.text v.shape ++ ", order=\"" ++ v.order.name ++ "\">"

end Variable

end TensorGraph
