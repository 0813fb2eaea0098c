import TensorGraph.Operator
import TensorGraph.Variable

/-!
# Graphs

A graph owns its variables and operators, each under its id, and knows the ids that it hands out
next. A link is written down on both of its ends: the operator holds the variable in a slot, and the
variable knows the operator.
-/

namespace TensorGraph

/-- A graph of operators and the variables between them. -/
structure Graph where
  /-- The variables. -/
  vars : SortedMap VariableId Variable := ∅
  /-- The operators. -/
  ops : SortedMap OperatorId Operator := ∅
  /-- The id of the next new variable. -/
  nextVariable : VariableId := ⟨0⟩
  /-- The id of the next new operator. -/
  nextOperator : OperatorId := ⟨0⟩
deriving DecidableEq

namespace Graph

/-- The graph without nodes. -/
def empty : Graph := {}

instance : EmptyCollection Graph := ⟨empty⟩

instance : Inhabited Graph := ⟨empty⟩

/-- The variable with the given id. -/
def getVariable? (g : Graph) (v : VariableId) : Option Variable := g.vars.get? v

/-- The operator with the given id. -/
def getOperator? (g : Graph) (o : OperatorId) : Option Operator := g.ops.get? o

/-- The variable with the given id, which the caller takes to be there. -/
def findVariable (g : Graph) (v : VariableId) : Except GraphError Variable :=
  match g.getVariable? v with
  | some w => .ok w
  | none => .error (.unknownVariable v)

/-- The operator with the given id, which the caller takes to be there. -/
def findOperator (g : Graph) (o : OperatorId) : Except GraphError Operator :=
  match g.getOperator? o with
  | some p => .ok p
  | none => .error (.unknownOperator o)

/-- The first slot by name under which the operator reads the variable. -/
def inputSlot (g : Graph) (o : OperatorId) (v : VariableId) : Except GraphError String := do
  let _ ← g.findVariable v
  let p ← g.findOperator o
  match p.inputSlot? v with
  | some slot => .ok slot
  | none => .error (.notAnInput o v)

/-- The first slot by name under which the operator writes the variable. -/
def outputSlot (g : Graph) (o : OperatorId) (v : VariableId) : Except GraphError String := do
  let _ ← g.findVariable v
  let p ← g.findOperator o
  match p.outputSlot? v with
  | some slot => .ok slot
  | none => .error (.notAnOutput o v)

end Graph

end TensorGraph
