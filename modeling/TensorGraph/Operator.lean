import TensorGraph.Annotations
import TensorGraph.Id

/-!
# Operators

An operator is a step of the computation. It reads variables through named input slots and writes
variables through named output slots.
-/

namespace TensorGraph

/-- The two sides of an operator. -/
inductive Role where
  /-- The side that reads. -/
  | input
  /-- The side that writes. -/
  | output
deriving DecidableEq, Repr

/-- Variables by slot name. -/
abbrev Slots := SortedMap String VariableId

/-- The slots as they are shown. -/
def Slots.text (s : Slots) : String :=
  "\x7b" ++ ", ".intercalate (s.toList.map fun (slot, v) => slot ++ ": " ++ v.text) ++ "\x7d"

/-- A step of the computation. -/
structure Operator where
  /-- The id under which the operator was created. -/
  id : OperatorId
  /-- Attributes and parameters. -/
  annotations : Annotations := .blank
  /-- What the operator does. -/
  name : String
  /-- The variables that it reads. -/
  inputs : Slots := ∅
  /-- The variables that it writes. -/
  outputs : Slots := ∅
deriving DecidableEq

namespace Operator

/-- The slots of one side. -/
def slots (o : Operator) : Role → Slots
  | .input => o.inputs
  | .output => o.outputs

/-- The first input slot by name that holds the variable. -/
def inputSlot? (o : Operator) (v : VariableId) : Option String := o.inputs.keyOf? v

/-- The first output slot by name that holds the variable. -/
def outputSlot? (o : Operator) (v : VariableId) : Option String := o.outputs.keyOf? v

/-- The variables read, by slot name. -/
def consumed (o : Operator) : List VariableId := o.inputs.values

/-- The variables written, by slot name. -/
def produced (o : Operator) : List VariableId := o.outputs.values

/-- Puts a variable into an input slot. -/
def setInput (o : Operator) (slot : String) (v : VariableId) : Operator :=
  { o with inputs := o.inputs.insert slot v }

/-- Empties an input slot. -/
def clearInput (o : Operator) (slot : String) : Operator :=
  { o with inputs := o.inputs.erase slot }

/-- Puts a variable into an output slot. -/
def setOutput (o : Operator) (slot : String) (v : VariableId) : Operator :=
  { o with outputs := o.outputs.insert slot v }

/-- Empties an output slot. -/
def clearOutput (o : Operator) (slot : String) : Operator :=
  { o with outputs := o.outputs.erase slot }

/-- The operator as it is shown. -/
def text (o : Operator) : String :=
  "<Operator " ++ o.name ++ " inputs=" ++ o.inputs.text ++ ", outputs=" ++ o.outputs.text ++ ">"

end Operator

end TensorGraph
