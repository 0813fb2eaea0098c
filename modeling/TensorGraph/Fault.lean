import TensorGraph.Axis

/-!
# Faults

A fault is a broken promise of the caller or a number that has grown past 64 bits. It ends a
computation without an answer, where an error of the graph is an answer.
-/

namespace TensorGraph

/-- Why a computation ended without an answer. -/
inductive Fault where
  /-- A product left the 64 bits. -/
  | productTooLarge
  /-- A counter has no next value. -/
  | counterExhausted
  /-- The size of an axis was asked for that has none. -/
  | axisAbsent (axis : Axis)
  /-- A shape with `sizes` entries was paired with an order of `axes` axes. -/
  | unpaired (sizes axes : Nat)
deriving DecidableEq, Repr

/-- The text of a fault. -/
def Fault.message : Fault → String
  | productTooLarge => "attempt to multiply with overflow"
  | counterExhausted => "attempt to add with overflow"
  | axisAbsent a => "axis " ++ a.name ++ " is not present in shape dict"
  | unpaired sizes axes =>
    "assertion `left == right` failed\n  left: " ++ sizes.repr ++ "\n right: " ++ axes.repr

end TensorGraph
