import TensorGraph.Operator
import TensorGraph.Variable

/-!
# Log entries

What a graph reports about its changes, and the line of text for each report.
-/

namespace TensorGraph

/-- What happens to a slot. -/
inductive SlotChange where
  /-- An empty slot takes a variable. -/
  | bound (v : VariableId)
  /-- A slot gives up its variable. -/
  | unbound (v : VariableId)
  /-- A slot takes `new` in place of `old`. -/
  | rebound (new old : VariableId)
deriving DecidableEq, Repr

/-- A change of one slot of an operator. -/
structure LinkChange where
  /-- The operator. -/
  operator : OperatorId
  /-- The side of the operator. -/
  role : Role
  /-- The slot. -/
  slot : String
  /-- What happens to the slot. -/
  change : SlotChange
deriving DecidableEq, Repr

/-- The word for a side of an operator. -/
def Role.word : Role → String
  | input => "input"
  | output => "output"

/-- The arrow of a link: data flows into an input and out of an output. -/
def Role.arrow : Role → String
  | input => "<-"
  | output => "->"

/-- What happens to a slot, as it is shown behind the slot. -/
def SlotChange.text (role : Role) : SlotChange → String
  | bound v => role.arrow ++ " " ++ v.text
  | unbound v => "-/- " ++ v.text
  | rebound new old => role.arrow ++ " " ++ new.text ++ " (was " ++ old.text ++ ")"

/-- A change of a link as it is shown. The slot stands between quotes as it is. -/
def LinkChange.text (c : LinkChange) : String :=
  c.operator.text ++ ": " ++ c.role.word ++ " \"" ++ c.slot ++ "\" " ++ c.change.text c.role

/-- How important a report is. -/
inductive LogLevel where
  | trace
  | debug
deriving DecidableEq, Repr

/-- The word for a level. -/
def LogLevel.word : LogLevel → String
  | trace => "TRACE"
  | debug => "DEBUG"

/-- A report of a graph about a change. -/
inductive LogEntry where
  /-- A slot has changed. -/
  | link (change : LinkChange)
  /-- The shape of a variable is read in another order. -/
  | reordered (before after : Variable)
  /-- An operator has left the graph. -/
  | operatorRemoved (removed : Operator)
  /-- The variable stored under `key` has left the graph. -/
  | variableRemoved (key : VariableId) (removed : Variable)
deriving DecidableEq

namespace LogEntry

/-- Changes of links are traced, and all else is for debugging. -/
def level : LogEntry → LogLevel
  | link _ => .trace
  | _ => .debug

/-- The text of a report. -/
def text : LogEntry → String
  | link change => change.text
  | reordered v w =>
    "Variable " ++ v.id.text ++ ": axis order " ++ v.order.name ++ " " ++ Shape.text v.shape ++
      " -> " ++ w.order.name ++ " " ++ Shape.text w.shape
  | operatorRemoved o => "Removed operator " ++ o.text
  | variableRemoved key v => "Removed variable " ++ key.text ++ " " ++ v.text

/-- The line of a report: its level and its text. -/
def line (e : LogEntry) : String := e.level.word ++ " " ++ e.text

end LogEntry

end TensorGraph
