import TensorGraph.Graph.Binding
import TensorGraph.Graph.Interface
import TensorGraph.Graph.Lifecycle
import TensorGraph.Graph.Metadata
import TensorGraph.Snapshot.Text

/-!
# Histories of calls

The calls on a graph as values, what each one answers, and what a list of calls makes of a graph.
-/

namespace TensorGraph

/-- A call on a graph. -/
inductive Call where
  | addVariable (shape : Shape) (order : AxisOrder)
  | addOperator (name : String) (parameters : SortedMap String Parameter)
  | bindInput (o : OperatorId) (slot : String) (v : VariableId)
  | unbindInput (o : OperatorId) (v : VariableId)
  | rebindInput (o : OperatorId) (old new : VariableId)
  | bindOutput (o : OperatorId) (slot : String) (v : VariableId)
  | unbindOutput (o : OperatorId) (v : VariableId)
  | rebindOutput (o : OperatorId) (old new : VariableId)
  | inputSlot (o : OperatorId) (v : VariableId)
  | outputSlot (o : OperatorId) (v : VariableId)
  | removeOperator (o : OperatorId)
  | removeVariable (v : VariableId)
  | reorder (v : VariableId) (target : AxisOrder)
  | setElementType (v : VariableId) (elementType : ElementType)
  | setName (node : NodeId) (name : String)
  | attach (node : NodeId) (a : Attribute)
  | detach (node : NodeId) (a : Attribute)
  | setParameter (node : NodeId) (name : String) (value : Parameter)
  | unsetParameter (node : NodeId) (name : String)
  | unlinked
  | inputs
  | outputs
  /-- Puts what is read from the text of the snapshot of the graph in its place. -/
  | reload
deriving DecidableEq

/-- The answer of a call that has succeeded. -/
inductive Answer where
  | done
  | variableId (v : VariableId)
  | operatorId (o : OperatorId)
  | slot (name : String)
  | removedOperator (o : Operator)
  | removedVariable (v : Variable)
  | flag (b : Bool)
  | parameter (value : Option Parameter)
  | ids (l : List VariableId)
deriving DecidableEq

namespace Edit

/-- Writes the snapshot of the graph as text and reads it again. -/
def reload : Edit Unit := do
  let g ← ofExcept ((← get).graph.reload.mapError .unreadable)
  write (.whole g)

/-- A call that only looks. -/
def look {α : Type} (f : Graph → α) : Edit α := do return f (← get).graph

end Edit

/-- What a call does. -/
def Call.edit : Call → Edit Answer
  | addVariable shape order => .variableId <$> Edit.addVariable shape order
  | addOperator name parameters => .operatorId <$> Edit.addOperator name parameters
  | bindInput o slot v => (fun _ => .done) <$> Edit.bindInput o slot v
  | unbindInput o v => (fun _ => .done) <$> Edit.unbindInput o v
  | rebindInput o old new => (fun _ => .done) <$> Edit.rebindInput o old new
  | bindOutput o slot v => (fun _ => .done) <$> Edit.bindOutput o slot v
  | unbindOutput o v => (fun _ => .done) <$> Edit.unbindOutput o v
  | rebindOutput o old new => (fun _ => .done) <$> Edit.rebindOutput o old new
  | inputSlot o v => .slot <$> Edit.ask (·.inputSlot o v)
  | outputSlot o v => .slot <$> Edit.ask (·.outputSlot o v)
  | removeOperator o => .removedOperator <$> Edit.removeOperator o
  | removeVariable v => .removedVariable <$> Edit.removeVariable v
  | reorder v target => (fun _ => .done) <$> Edit.reorder v target
  | setElementType v t => (fun _ => .done) <$> Edit.setElementType v t
  | setName node name => (fun _ => .done) <$> Edit.setName node name
  | attach node a => .flag <$> Edit.attach node a
  | detach node a => .flag <$> Edit.detach node a
  | setParameter node name value => .parameter <$> Edit.setParameter node name value
  | unsetParameter node name => .parameter <$> Edit.unsetParameter node name
  | unlinked => .ids <$> Edit.look (·.unlinked)
  | inputs => .ids <$> Edit.look (·.inputs)
  | outputs => .ids <$> Edit.look (·.outputs)
  | reload => (fun _ => .done) <$> Edit.reload

namespace Graph

/-- Carries out a call. -/
def perform (g : Graph) (c : Call) : Outcome Answer := c.edit.perform g

/-- The graph after a call. -/
def after (g : Graph) (c : Call) : Graph := (g.perform c).graph

/-- The graph after some calls, one after the other, whether they succeed or not. -/
def run (g : Graph) (calls : List Call) : Graph := calls.foldl after g

end Graph

end TensorGraph
