import TensorGraph.Graph.Edit

/-!
# Editing what nodes carry

Names, shapes, element types, attributes and parameters. None of these calls touches a link.
-/

namespace TensorGraph

/-- A node of either kind. -/
inductive NodeId where
  | variable (id : VariableId)
  | operator (id : OperatorId)
deriving DecidableEq, Repr

namespace Edit

/-- Puts another variable in place of the one under an id. -/
def amendVariable (v : VariableId) (f : Variable → Except Failure Variable) : Edit Unit := do
  let w ← getVariable v
  let w ← ofExcept (f w)
  write (.putVariable v w)

/-- Reads the shape of a variable in another order of axes. -/
def reorder (v : VariableId) (target : AxisOrder) : Edit Unit := do
  let before ← getVariable v
  let after ← ofExcept (before.reorder target)
  report (.reordered before after)
  write (.putVariable v after)

/-- Gives the elements of a variable another type. -/
def setElementType (v : VariableId) (elementType : ElementType) : Edit Unit :=
  amendVariable v fun w => (w.setElementType elementType).mapError .refused

/-- Names a node. -/
def setName (node : NodeId) (name : String) : Edit Unit :=
  match node with
  | .variable v => amendVariable v fun w => .ok { w with name := some name }
  | .operator o => do
    let p ← getOperator o
    write (.putOperator o { p with name })

/-- The annotations of a node. -/
def annotations (node : NodeId) : Edit Annotations :=
  match node with
  | .variable v => do return (← getVariable v).annotations
  | .operator o => do return (← getOperator o).annotations

/-- Changes the annotations of a node, and gives back what they were. -/
def annotate (node : NodeId) (f : Annotations → Annotations) : Edit Annotations :=
  match node with
  | .variable v => do
    let w ← getVariable v
    write (.putVariable v { w with annotations := f w.annotations })
    pure w.annotations
  | .operator o => do
    let p ← getOperator o
    write (.putOperator o { p with annotations := f p.annotations })
    pure p.annotations

/-- Attaches an attribute, and tells whether it was missing. -/
def attach (node : NodeId) (a : Attribute) : Edit Bool := do
  return !(← annotate node (·.attach a)).has a

/-- Detaches an attribute, and tells whether it was there. -/
def detach (node : NodeId) (a : Attribute) : Edit Bool := do
  return (← annotate node (·.detach a)).has a

/-- Sets a parameter, and gives back its former value. -/
def setParameter (node : NodeId) (name : String) (value : Parameter) :
    Edit (Option Parameter) := do
  return (← annotate node (·.set name value)).parameter? name

/-- Drops a parameter, and gives back its value. -/
def unsetParameter (node : NodeId) (name : String) : Edit (Option Parameter) := do
  return (← annotate node (·.unset name)).parameter? name

end Edit

end TensorGraph
