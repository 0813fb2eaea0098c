import TensorGraph.Graph.Basic

/-!
# The interface of a graph

Which nodes there are, and which variables connect the graph with the outside: those that are only
read come in, those that are only written go out, and the rest without links is left over.
-/

namespace TensorGraph.Graph

/-- The ids of the operators, ascending. -/
def operatorIds (g : Graph) : List OperatorId := g.ops.keys

/-- The ids of the variables, ascending. -/
def variableIds (g : Graph) : List VariableId := g.vars.keys

/-- Ids in ascending order. -/
def sortIds {kind : NodeKind} (ids : List (Id kind)) : List (Id kind) :=
  ids.mergeSort (fun i j => decide (i.toNat ≤ j.toNat))

/-- The ids that the variables themselves carry, ascending. -/
def ownVariableIds (g : Graph) : List VariableId := sortIds (g.vars.values.map (·.id))

/-- The ids that the operators themselves carry, ascending. -/
def ownOperatorIds (g : Graph) : List OperatorId := sortIds (g.ops.values.map (·.id))

/-- The variables without links, by the ids that they carry. -/
def unlinked (g : Graph) : List VariableId :=
  sortIds ((g.vars.values.filter (·.isUnlinked)).map (·.id))

/-- The ids under which a variable with the property `p` is stored, ascending. -/
def idsWhere (g : Graph) (p : Variable → Bool) : List VariableId :=
  (g.vars.toList.filter (fun e => p e.2)).map (·.1)

/-- The variables that some operator reads and none writes. -/
def inputs (g : Graph) : List VariableId := g.idsWhere (·.isGraphInput)

/-- The variables that some operator writes and none reads. -/
def outputs (g : Graph) : List VariableId := g.idsWhere (·.isGraphOutput)

/-- The links into the graph: each goes by the id of the variable that comes in. -/
def inputLinks (g : Graph) : List (VariableId × VariableId) := g.inputs.map fun v => (v, v)

/-- The links out of the graph: each goes by the id of the variable that goes out. -/
def outputLinks (g : Graph) : List (VariableId × VariableId) := g.outputs.map fun v => (v, v)

end TensorGraph.Graph
