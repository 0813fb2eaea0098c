import TensorGraph.Graph.Basic
import TensorGraph.LogEntry

/-!
# Editing a graph

A call on a graph is an `Edit`: it looks nodes up, writes nodes and reports what it has done, one
step after the other, and stops at the first step that fails. What was written until then stays
written, so that an edit leaves the graph alone on failure only if it looks before it writes.
-/

namespace TensorGraph

/-- One change of a graph's contents. -/
inductive Write where
  /-- Stores a variable under an id. -/
  | putVariable (key : VariableId) (v : Variable)
  /-- Drops the variable under an id. -/
  | dropVariable (key : VariableId)
  /-- Stores an operator under an id. -/
  | putOperator (key : OperatorId) (o : Operator)
  /-- Drops the operator under an id. -/
  | dropOperator (key : OperatorId)
  /-- Sets the id of the next new variable. -/
  | nextVariable (next : VariableId)
  /-- Sets the id of the next new operator. -/
  | nextOperator (next : OperatorId)
  /-- Puts another graph in place of this one. -/
  | whole (g : Graph)
deriving DecidableEq

/-- What a write makes of a graph. -/
def Write.apply (g : Graph) : Write → Graph
  | putVariable key v => { g with vars := g.vars.insert key v }
  | dropVariable key => { g with vars := g.vars.erase key }
  | putOperator key o => { g with ops := g.ops.insert key o }
  | dropOperator key => { g with ops := g.ops.erase key }
  | nextVariable next => { g with nextVariable := next }
  | nextOperator next => { g with nextOperator := next }
  | whole g' => g'

/-- A graph under edit: what it is by now, and what was written and reported on the way. -/
structure Draft where
  /-- The graph as it stands. -/
  graph : Graph
  /-- The writes so far, in order. -/
  writes : List Write := []
  /-- The reports so far, in order. -/
  log : List LogEntry := []

/-- A call on a graph. -/
abbrev Edit (α : Type) := EStateM Failure Draft α

namespace Edit

/-- Changes the graph. -/
def write (w : Write) : Edit Unit :=
  modify fun d => { d with graph := w.apply d.graph, writes := d.writes ++ [w] }

/-- Reports a change. -/
def report (e : LogEntry) : Edit Unit :=
  modify fun d => { d with log := d.log ++ [e] }

/-- Refuses the call. -/
def refuse {α : Type} (e : GraphError) : Edit α := throw (.refused e)

/-- Goes on with a result, or fails as it does. -/
def ofExcept {α : Type} : Except Failure α → Edit α
  | .ok a => pure a
  | .error e => throw e

/-- Asks the graph, and refuses the call where the graph has no answer. -/
def ask {α : Type} (f : Graph → Except GraphError α) : Edit α := do
  match f (← get).graph with
  | .ok a => pure a
  | .error e => refuse e

/-- Looks a variable up. -/
def getVariable (v : VariableId) : Edit Variable := ask (·.findVariable v)

/-- Looks an operator up. -/
def getOperator (o : OperatorId) : Edit Operator := ask (·.findOperator o)

/-- Looks both ends of a link up, the operator first. -/
def getEnds (o : OperatorId) (v : VariableId) : Edit (Operator × Variable) := do
  let p ← getOperator o
  let w ← getVariable v
  pure (p, w)

/-! ## What each step does to a draft -/

/-- A write changes the graph and is kept. -/
@[simp]
theorem run_write (w : Write) (d : Draft) :
    (write w).run d = .ok () { d with graph := w.apply d.graph, writes := d.writes ++ [w] } := rfl

/-- A report is kept. -/
@[simp]
theorem run_report (e : LogEntry) (d : Draft) :
    (report e).run d = .ok () { d with log := d.log ++ [e] } := rfl

/-- A refusal leaves the draft as it is. -/
@[simp]
theorem run_refuse {α : Type} (e : GraphError) (d : Draft) :
    (refuse e : Edit α).run d = .error (.refused e) d := rfl

/-- A question that the graph answers goes on with the answer. -/
theorem run_ask_of_ok {α : Type} {f : Graph → Except GraphError α} {d : Draft} {a : α}
    (h : f d.graph = .ok a) : (ask f).run d = .ok a d := by
  simp [ask, h]

/-- A question that the graph does not answer ends the call. -/
theorem run_ask_of_error {α : Type} {f : Graph → Except GraphError α} {d : Draft} {e : GraphError}
    (h : f d.graph = .error e) : (ask f).run d = .error (.refused e) d := by
  simp [ask, h]

end Edit

/-- How a call on a graph ended. -/
structure Outcome (α : Type) where
  /-- The answer, or why there is none. -/
  result : Except Failure α
  /-- The graph after the call. -/
  graph : Graph
  /-- What was written, in order. -/
  writes : List Write
  /-- What was reported, in order. -/
  log : List LogEntry

/-- Carries out a call on a graph. -/
def Edit.perform {α : Type} (x : Edit α) (g : Graph) : Outcome α :=
  match x.run { graph := g } with
  | .ok a d => ⟨.ok a, d.graph, d.writes, d.log⟩
  | .error e d => ⟨.error e, d.graph, d.writes, d.log⟩

end TensorGraph
