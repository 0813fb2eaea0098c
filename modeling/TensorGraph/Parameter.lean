import TensorGraph.Binary64

/-!
# Parameters

The loosely typed values that a pass can attach to a node under a name. What has a fixed meaning
has a field of its own on the node instead.
-/

namespace TensorGraph

/-- The value of a parameter. -/
inductive Parameter where
  | bool (value : Bool)
  | int (value : Int64)
  | float (value : Binary64)
  | string (value : String)
  | ints (values : List Int64)
  | floats (values : List Binary64)
deriving DecidableEq, Inhabited

namespace Parameter

/-- Numeric equality of lists of numbers, place by place. -/
def equalFloats : List Binary64 → List Binary64 → Bool
  | [], [] => true
  | x :: xs, y :: ys => x.equal y && equalFloats xs ys
  | _, _ => false

/-- Equality as a program sees it: floats compare as numbers, and values of different types
differ. -/
def equal : Parameter → Parameter → Bool
  | float x, float y => x.equal y
  | floats xs, floats ys => equalFloats xs ys
  | p, q => decide (p = q)

/-- Whether every float in the value is finite. -/
def isFinite : Parameter → Bool
  | float x => x.isFinite
  | floats xs => xs.all Binary64.isFinite
  | _ => true

end Parameter

end TensorGraph
