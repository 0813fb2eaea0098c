import TensorGraph.AxisOrder
import TensorGraph.Fault
import TensorGraph.Id
import TensorGraph.Shape

/-!
# Errors of a graph

Why a graph refuses a call, with the text of each reason and the coarse class that a caller may
decide by.
-/

namespace TensorGraph

/-- Why a graph refuses a call. -/
inductive GraphError where
  /-- The operator is not in the graph. -/
  | unknownOperator (o : OperatorId)
  /-- The variable is not in the graph. -/
  | unknownVariable (v : VariableId)
  /-- No input slot of the operator holds the variable. -/
  | notAnInput (o : OperatorId) (v : VariableId)
  /-- No output slot of the operator holds the variable. -/
  | notAnOutput (o : OperatorId) (v : VariableId)
  /-- The variable has a producer already. -/
  | outputConflict (v : VariableId) (producer : OperatorId)
  /-- The slot holds another variable. -/
  | slotOccupied (o : OperatorId) (slot : String) (occupant : VariableId)
  /-- The variable has a producer or a consumer. -/
  | variableInUse (v : VariableId)
  /-- The shape has not one size for each axis. -/
  | axisCountMismatch (order : AxisOrder) (sizes : Nat)
  /-- An axis whose size is not one would be dropped. -/
  | nonUnitAxisDropped (axis : Axis) (size : UInt64)
  /-- The bytes of the tensor cannot be counted in 64 bits. -/
  | sizeOverflow (shape : Shape) (elementType : ElementType)
deriving DecidableEq, Repr

/-- The classes of errors. -/
inductive ErrorClass where
  /-- A node is not there in the role that the caller assumed. -/
  | lookup
  /-- The call would clobber a link. -/
  | conflict
  /-- Shape, order and element type do not go together. -/
  | shapeInvariant
deriving DecidableEq, Repr

namespace GraphError

/-- The class of an error. -/
def errorClass : GraphError → ErrorClass
  | unknownOperator _ | unknownVariable _ | notAnInput _ _ | notAnOutput _ _ => .lookup
  | outputConflict _ _ | slotOccupied _ _ _ | variableInUse _ => .conflict
  | axisCountMismatch _ _ | nonUnitAxisDropped _ _ | sizeOverflow _ _ => .shapeInvariant

/-- The text of an error. -/
def message : GraphError → String
  | unknownOperator o => "Operator " ++ o.text ++ " is not part of this graph"
  | unknownVariable v => "Variable " ++ v.text ++ " is not part of this graph"
  | notAnInput o v => "Variable " ++ v.text ++ " is not an input of operator " ++ o.text
  | notAnOutput o v => "Variable " ++ v.text ++ " is not an output of operator " ++ o.text
  | outputConflict v o =>
    "Variable " ++ v.text ++ " is already an output of operator " ++ o.text
  | slotOccupied o slot v =>
    "Slot \"" ++ slot ++ "\" of operator " ++ o.text ++ " is already occupied by variable " ++
      v.text
  | variableInUse v => "Variable " ++ v.text ++ " is still linked to an operator"
  | axisCountMismatch order sizes =>
    "Axis order " ++ order.name ++ " has " ++ order.rank.repr ++ " axes but the shape has " ++
      sizes.repr
  | nonUnitAxisDropped axis size =>
    "Cannot drop axis " ++ axis.name ++ " of size " ++ size.toNat.repr ++
      ", only unit axes can be dropped"
  | sizeOverflow shape elementType =>
    "Shape " ++ Shape.text shape ++ " of " ++ elementType.title ++
      " elements is too large to address"

end GraphError

/-- Why a snapshot is not read. -/
inductive SnapshotError where
  /-- A value does not have the form that its place asks for. -/
  | malformed
  /-- A variable has the form of one but cannot exist. -/
  | impossible (reason : GraphError)
deriving DecidableEq, Repr

/-- How a call on a graph can fail. -/
inductive Failure where
  /-- The graph refuses the call. -/
  | refused (reason : GraphError)
  /-- The call ends without an answer. -/
  | fault (fault : Fault)
  /-- A snapshot is not read. -/
  | unreadable (reason : SnapshotError)
deriving DecidableEq, Repr

end TensorGraph
