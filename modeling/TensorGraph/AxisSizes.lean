import TensorGraph.AxisOrder
import TensorGraph.Fault
import TensorGraph.Shape

/-!
# Sizes by axis

A shape read through an axis order: which size each axis has.
-/

namespace TensorGraph

/-- Sizes by axis, in the order of the axis order that they come from. Where an axis is listed
twice, its first entry counts. -/
structure AxisSizes where
  /-- The axes with their sizes. -/
  entries : List (Axis × UInt64)
deriving DecidableEq, Repr

namespace AxisSizes

/-- The size of the axis `a`. -/
def get? (d : AxisSizes) (a : Axis) : Option UInt64 :=
  (d.entries.find? (fun e => decide (e.1 = a))).map (·.2)

/-- Whether the axis `a` has a size. -/
def contains (d : AxisSizes) (a : Axis) : Bool := (d.get? a).isSome

/-- The size of the axis `a`, which the caller promises to have one. -/
def size (d : AxisSizes) (a : Axis) : Except Fault UInt64 :=
  match d.get? a with
  | some n => .ok n
  | none => .error (.axisAbsent a)

/-- The number of entries. -/
def length (d : AxisSizes) : Nat := d.entries.length

/-- Whether there is no entry. -/
def isEmpty (d : AxisSizes) : Bool := d.entries.isEmpty

end AxisSizes

/-- Pairs the axes of an order with the sizes of a shape that has as many. -/
def AxisOrder.sizes (o : AxisOrder) (s : Shape) : Except Fault AxisSizes :=
  if s.length = o.rank then .ok ⟨o.axes.zip s⟩ else .error (.unpaired s.length o.rank)

end TensorGraph
