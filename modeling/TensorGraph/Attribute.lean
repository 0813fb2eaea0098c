import TensorGraph.SortedMap.Basic

/-!
# Attributes

The tags that a pass over the graph can attach to a node. A tag carries no data.
-/

namespace TensorGraph

/-- A capability tag of a node. -/
inductive Attribute where
  /-- An output element depends on the input elements at its own index alone. -/
  | elementwise
  /-- The output may reuse the buffer of an input. -/
  | inplace
  /-- The operator reads constant weights. -/
  | haveWeights
  /-- The operator works along one axis of its input. -/
  | axiswise
  /-- An elementwise operator may be fused behind this one. -/
  | postElementwise
  /-- An axiswise operator may be fused behind this one. -/
  | postAxiswise
  /-- The variable is fed from outside the graph. -/
  | input
  /-- The variable is read back after a run of the graph. -/
  | output
  /-- The variable holds data known before a run of the graph. -/
  | constant
deriving DecidableEq, Repr, Inhabited

namespace Attribute

/-- All attributes. -/
def all : List Attribute :=
  [elementwise, inplace, haveWeights, axiswise, postElementwise, postAxiswise, input, output,
    constant]

/-- The name of an attribute. -/
def name : Attribute → String
  | elementwise => "Elementwise"
  | inplace => "Inplace"
  | haveWeights => "HaveWeights"
  | axiswise => "Axiswise"
  | postElementwise => "PostElementwise"
  | postAxiswise => "PostAxiswise"
  | input => "Input"
  | output => "Output"
  | constant => "Constant"

/-- The attribute with the given name. -/
def ofName? (s : String) : Option Attribute := all.find? (fun a => decide (a.name = s))

/-- An attribute is found by its name. -/
@[simp]
theorem ofName?_name (a : Attribute) : ofName? a.name = some a := by cases a <;> decide

/-- Different attributes have different names. -/
theorem name_injective {a b : Attribute} (h : a.name = b.name) : a = b := by
  simpa using congrArg ofName? h

/-- Attributes are ordered by their names. -/
instance : Key Attribute where
  lt a b := a.name < b.name
  decidableLT a b := inferInstanceAs (Decidable (a.name < b.name))
  irrefl a := String.lt_irrefl a.name
  trans h h' := String.lt_trans h h'
  trichotomy a b := (Key.trichotomy a.name b.name).imp id (Or.imp name_injective id)

end Attribute

end TensorGraph
