import TensorGraph.Graph.Edit

/-!
# Binding variables to slots

Links are made and broken from the side of the operator. Each call looks everything up that it
needs before it touches either end of a link, and keeps both ends in step: an operator is a consumer
of a variable while some input slot holds the variable, and its producer while an output slot does.
-/

namespace TensorGraph.Edit

/-- Reports a change of a slot. -/
def reportLink (o : OperatorId) (role : Role) (slot : String) (change : SlotChange) : Edit Unit :=
  report (.link ⟨o, role, slot, change⟩)

/-- Takes the operator off the consumers of a variable that none of its input slots holds. -/
def releaseInput (o : OperatorId) (p : Operator) (v : VariableId) (w : Variable) : Edit Unit :=
  if (p.inputSlot? v).isNone then write (.putVariable v (w.dropConsumer o)) else pure ()

/-- Binds a variable to an input slot. A slot that holds the variable already is left alone, and one
that holds another variable is not overwritten. -/
def bindInput (o : OperatorId) (slot : String) (v : VariableId) : Edit Unit := do
  let (p, w) ← getEnds o v
  match p.inputs.get? slot with
  | some occupant => if occupant = v then pure () else refuse (.slotOccupied o slot occupant)
  | none =>
    write (.putOperator o (p.setInput slot v))
    write (.putVariable v (w.addConsumer o))
    reportLink o .input slot (.bound v)

/-- Empties the first input slot by name that holds the variable. -/
def unbindInput (o : OperatorId) (v : VariableId) : Edit Unit := do
  let slot ← ask (·.inputSlot o v)
  let (p, w) ← getEnds o v
  let p := p.clearInput slot
  write (.putOperator o p)
  releaseInput o p v w
  reportLink o .input slot (.unbound v)

/-- Puts `new` in place of `old` into the first input slot by name that holds `old`. -/
def rebindInput (o : OperatorId) (old new : VariableId) : Edit Unit := do
  let _ ← getVariable new
  let slot ← ask (·.inputSlot o old)
  if old = new then pure () else
    let (p, w) ← getEnds o old
    let p := p.setInput slot new
    write (.putOperator o p)
    releaseInput o p old w
    let (_, w) ← getEnds o new
    write (.putVariable new (w.addConsumer o))
    reportLink o .input slot (.rebound new old)

/-- Binds a variable to an output slot. A slot that holds the variable already is left alone, one
that holds another variable is not overwritten, and a variable has one producer at most. -/
def bindOutput (o : OperatorId) (slot : String) (v : VariableId) : Edit Unit := do
  let (p, w) ← getEnds o v
  match p.outputs.get? slot with
  | some occupant => if occupant = v then pure () else refuse (.slotOccupied o slot occupant)
  | none =>
    match w.producer with
    | some producer => refuse (.outputConflict v producer)
    | none =>
      write (.putOperator o (p.setOutput slot v))
      write (.putVariable v (w.setProducer (some o)))
      reportLink o .output slot (.bound v)

/-- Empties the first output slot by name that holds the variable. -/
def unbindOutput (o : OperatorId) (v : VariableId) : Edit Unit := do
  let slot ← ask (·.outputSlot o v)
  let (p, w) ← getEnds o v
  write (.putOperator o (p.clearOutput slot))
  write (.putVariable v (w.setProducer none))
  reportLink o .output slot (.unbound v)

/-- Puts `new`, which must not have a producer, in place of `old` into the first output slot by name
that holds `old`. -/
def rebindOutput (o : OperatorId) (old new : VariableId) : Edit Unit := do
  let slot ← ask (·.outputSlot o old)
  if old = new then pure () else
    let w ← getVariable new
    match w.producer with
    | some producer => refuse (.outputConflict new producer)
    | none =>
      let (p, w) ← getEnds o old
      write (.putOperator o (p.setOutput slot new))
      write (.putVariable old (w.setProducer none))
      let (_, w) ← getEnds o new
      write (.putVariable new (w.setProducer (some o)))
      reportLink o .output slot (.rebound new old)

end TensorGraph.Edit
