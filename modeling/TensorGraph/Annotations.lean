import TensorGraph.Attribute
import TensorGraph.Parameter
import TensorGraph.SortedSet

/-!
# Annotations

What operators and variables carry besides their own fields: a set of attributes, and parameters
by name. Each node has annotations of its own.
-/

namespace TensorGraph

/-- The attributes and parameters of a node. -/
@[ext]
structure Annotations where
  /-- The attributes. -/
  attributes : SortedSet Attribute := ∅
  /-- The parameters, by name. -/
  parameters : SortedMap String Parameter := ∅
deriving DecidableEq, Inhabited

namespace Annotations

/-- Annotations with neither attributes nor parameters. -/
def blank : Annotations := {}

/-- Whether the node has the attribute `a`. -/
def has (n : Annotations) (a : Attribute) : Bool := decide (a ∈ n.attributes)

/-- The value of a parameter. -/
def parameter? (n : Annotations) (name : String) : Option Parameter := n.parameters.get? name

/-- Attaches an attribute. -/
def attach (n : Annotations) (a : Attribute) : Annotations :=
  { n with attributes := n.attributes.insert a }

/-- Detaches an attribute. -/
def detach (n : Annotations) (a : Attribute) : Annotations :=
  { n with attributes := n.attributes.erase a }

/-- Sets a parameter. -/
def set (n : Annotations) (name : String) (value : Parameter) : Annotations :=
  { n with parameters := n.parameters.insert name value }

/-- Drops a parameter. -/
def unset (n : Annotations) (name : String) : Annotations :=
  { n with parameters := n.parameters.erase name }

/-- Whether there is neither an attribute nor a parameter. -/
def isEmpty (n : Annotations) : Bool := n.attributes.isEmpty && n.parameters.isEmpty

/-- Equality as a program sees it: the same attributes, and under the same names equal
parameters. -/
def equal (n m : Annotations) : Bool :=
  decide (n.attributes = m.attributes) &&
    (decide (n.parameters.keys = m.parameters.keys) &&
      (n.parameters.values.zip m.parameters.values).all fun (p, q) => p.equal q)

end Annotations

end TensorGraph
