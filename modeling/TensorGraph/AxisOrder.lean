import TensorGraph.Axis

/-!
# Axis orders

The closed registry of orders in which the axes of a tensor can be laid out. An order is named by
the letters of its axes, outermost first.
-/

namespace TensorGraph

/-- An order of axes, outermost first. -/
inductive AxisOrder where
  | c | nc | cn | nt | ntc | chw | hwc | nhwc | hwnc | hwcn | nchw | cnhw | chwn
deriving DecidableEq, Repr, Inhabited

namespace AxisOrder

/-- The registry. -/
def all : List AxisOrder := [c, nc, cn, nt, ntc, chw, hwc, nhwc, hwnc, hwcn, nchw, cnhw, chwn]

/-- The name under which an order is registered. -/
def name : AxisOrder → String
  | c => "C"
  | nc => "NC"
  | cn => "CN"
  | nt => "NT"
  | ntc => "NTC"
  | chw => "CHW"
  | hwc => "HWC"
  | nhwc => "NHWC"
  | hwnc => "HWNC"
  | hwcn => "HWCN"
  | nchw => "NCHW"
  | cnhw => "CNHW"
  | chwn => "CHWN"

/-- The axes of an order, outermost first. -/
def axes : AxisOrder → List Axis
  | c => [.channel]
  | nc => [.batch, .channel]
  | cn => [.channel, .batch]
  | nt => [.batch, .time]
  | ntc => [.batch, .time, .channel]
  | chw => [.channel, .height, .width]
  | hwc => [.height, .width, .channel]
  | nhwc => [.batch, .height, .width, .channel]
  | hwnc => [.height, .width, .batch, .channel]
  | hwcn => [.height, .width, .channel, .batch]
  | nchw => [.batch, .channel, .height, .width]
  | cnhw => [.channel, .batch, .height, .width]
  | chwn => [.channel, .height, .width, .batch]

/-- The number of axes. -/
def rank (o : AxisOrder) : Nat := o.axes.length

/-- Whether an order has the axis `a`. -/
def contains (o : AxisOrder) (a : Axis) : Bool := decide (a ∈ o.axes)

/-- The place of the axis `a`, counted from the outermost one. -/
def indexOf? (o : AxisOrder) (a : Axis) : Option Nat := o.axes.findIdx? (fun b => decide (b = a))

/-- The registered order that has exactly the given axes, in the same order. -/
def ofAxes? (axes : List Axis) : Option AxisOrder := all.find? (fun o => decide (o.axes = axes))

/-- The order registered under the given name. -/
def ofName? (s : String) : Option AxisOrder := all.find? (fun o => decide (o.name = s))

/-- Every order is registered. -/
theorem mem_all (o : AxisOrder) : o ∈ all := by cases o <;> decide

/-- An order is found by its name. -/
@[simp]
theorem ofName?_name (o : AxisOrder) : ofName? o.name = some o := by cases o <;> decide

/-- An order is found by its axes. -/
@[simp]
theorem ofAxes?_axes (o : AxisOrder) : ofAxes? o.axes = some o := by cases o <;> decide

/-- No order has an axis twice. -/
theorem nodup_axes (o : AxisOrder) : o.axes.Nodup := by cases o <;> decide

/-- Different orders have different axes. -/
theorem axes_injective {o p : AxisOrder} (h : o.axes = p.axes) : o = p := by
  simpa using congrArg ofAxes? h

end AxisOrder

end TensorGraph
