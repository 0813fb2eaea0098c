import TensorGraph.Json.Numeral
import TensorGraph.Snapshot.Graph

/-!
# Snapshots as text

When a snapshot is written as text and read again, everything in it comes back as it was but the
double-precision numbers, which come back as what their numerals are read as. The floats of a graph
are in the parameters of its nodes, and nowhere else.
-/

namespace TensorGraph

/-- Changes the floats of a value. -/
def Parameter.mapFloats (f : Binary64 → Binary64) : Parameter → Parameter
  | float x => float (f x)
  | floats xs => floats (xs.map f)
  | p => p

/-- Changes the floats of all parameters. -/
def Annotations.mapFloats (f : Binary64 → Binary64) (n : Annotations) : Annotations :=
  { n with parameters := n.parameters.map (·.mapFloats f) }

/-- Changes the floats of the parameters of a variable. -/
def Variable.mapFloats (f : Binary64 → Binary64) (v : Variable) : Variable :=
  { v with annotations := v.annotations.mapFloats f }

/-- Changes the floats of the parameters of an operator. -/
def Operator.mapFloats (f : Binary64 → Binary64) (o : Operator) : Operator :=
  { o with annotations := o.annotations.mapFloats f }

namespace Graph

/-- Changes the floats of the parameters of all nodes. -/
def mapFloats (f : Binary64 → Binary64) (g : Graph) : Graph :=
  { g with vars := g.vars.map (·.mapFloats f), ops := g.ops.map (·.mapFloats f) }

/-- What is read from the text of the snapshot of a graph. A float whose numeral is too large is
refused like one that has no numeral. -/
def reload (g : Graph) : Except SnapshotError Graph := ofSnapshot (g.mapFloats (·.reread)).snapshot

end Graph

end TensorGraph
