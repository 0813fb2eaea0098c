import TensorGraph.Graph.Edit

/-!
# Adding and removing nodes

New nodes come without links, under ids that were never used before. An operator takes its links
with it when it is removed, and a variable can be removed once it has none.
-/

namespace TensorGraph.Edit

/-- The id after the given one, where the ids are not used up. -/
def nextId {kind : NodeKind} (i : Id kind) : Edit (Id kind) :=
  match i.succ? with
  | some j => pure j
  | none => throw (.fault .counterExhausted)

/-- Adds a variable with the given sizes along the given axes. -/
def addVariable (shape : Shape) (order : AxisOrder) : Edit VariableId := do
  let id := (← get).graph.nextVariable
  let v ← ask fun _ => Variable.create id shape order
  let next ← nextId id
  write (.nextVariable next)
  write (.putVariable id v)
  pure id

/-- Adds an operator with the given parameters. -/
def addOperator (name : String) (parameters : SortedMap String Parameter) : Edit OperatorId := do
  let id := (← get).graph.nextOperator
  let next ← nextId id
  write (.nextOperator next)
  write (.putOperator id { id, name, annotations := { parameters } })
  pure id

/-- Changes the variable under an id, if there is one. -/
def touchVariable (v : VariableId) (f : Variable → Variable) : Edit Unit := do
  match (← get).graph.getVariable? v with
  | some w => write (.putVariable v (f w))
  | none => pure ()

/-- Removes an operator with all of its links, and gives it back as it was. -/
def removeOperator (o : OperatorId) : Edit Operator := do
  let p ← getOperator o
  write (.dropOperator o)
  p.consumed.forM fun v => touchVariable v (·.dropConsumer o)
  p.produced.forM fun v => touchVariable v (·.setProducer none)
  report (.operatorRemoved p)
  pure p

/-- Removes a variable without links, and gives it back. -/
def removeVariable (v : VariableId) : Edit Variable := do
  let w ← getVariable v
  if w.isUnlinked then
    write (.dropVariable v)
    report (.variableRemoved v w)
    pure w
  else refuse (.variableInUse v)

end TensorGraph.Edit
