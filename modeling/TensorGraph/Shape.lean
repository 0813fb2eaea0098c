import TensorGraph.Count
import TensorGraph.ElementType

/-!
# Shapes

The shape of a tensor is the list of its sizes, outermost axis first.
-/

namespace TensorGraph

/-- The sizes of a tensor along its axes. -/
abbrev Shape := List UInt64

namespace Shape

/-- The exact number of elements. -/
def volume (s : Shape) : Nat := (s.map UInt64.toNat).foldr (· * ·) 1

/-- The number of elements, multiplied from left to right, if no step leaves the 64 bits. -/
def elementCount? (s : Shape) : Option UInt64 := Count.product? 1 s

/-- The bytes that a tensor with elements of type `t` takes, if they can be addressed. A tensor
without elements takes none, however large its other sizes are. -/
def byteCount? (s : Shape) (t : ElementType) : Option UInt64 :=
  if 0 ∈ s then some 0 else Count.product? t.byteSize s

/-- The sizes as a bracketed list. -/
def text (s : Shape) : String := "[" ++ ", ".intercalate (s.map fun n => n.toNat.repr) ++ "]"

end Shape

end TensorGraph
