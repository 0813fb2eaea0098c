import TensorGraph.Operator
import TensorGraph.Snapshot.Names
import TensorGraph.Variable

/-!
# Stored forms of nodes

A parameter is stored as an object with one member, named for the type of the value. Everything else
here is a record. A variable is read only if it can exist: it is created from its stored shape and
order, which checks them, and is given its stored element type, which checks that.
-/

namespace TensorGraph.Snapshot

open Stored

/-- Parameters are stored under the name of their type. -/
instance : Stored Parameter where
  toJson
    | .bool b => .object [("Bool", toJson b)]
    | .int n => .object [("Int", toJson n)]
    | .float x => .object [("Float", toJson x)]
    | .string s => .object [("String", toJson s)]
    | .ints l => .object [("Ints", toJson l)]
    | .floats l => .object [("Floats", toJson l)]
  ofJson
    | .object [("Bool", j)] => (ofJson j).map .bool
    | .object [("Int", j)] => (ofJson j).map .int
    | .object [("Float", j)] => (ofJson j).map .float
    | .object [("String", j)] => (ofJson j).map .string
    | .object [("Ints", j)] => (ofJson j).map .ints
    | .object [("Floats", j)] => (ofJson j).map .floats
    | _ => .error .malformed

/-- Annotations are a record. -/
instance : Stored Annotations where
  toJson n := .object [("attributes", toJson n.attributes), ("parameters", toJson n.parameters)]
  ofJson j :=
    match j.fields? ["attributes", "parameters"] with
    | some [some attributes, some parameters] => do
      let attributes ← ofJson attributes
      let parameters ← ofJson parameters
      pure { attributes, parameters }
    | _ => .error .malformed

/-- An axis and its size are stored as an array of two. -/
instance : Stored (Axis × UInt64) where
  toJson e := .array [toJson e.1, toJson e.2]
  ofJson
    | .array [axis, size] => do
      let axis ← ofJson axis
      let size ← ofJson size
      pure (axis, size)
    | _ => .error .malformed

/-- Sizes by axis are a record of their entries. -/
instance : Stored AxisSizes where
  toJson d := .object [("entries", toJson d.entries)]
  ofJson j :=
    match j.fields? ["entries"] with
    | some [some entries] => (ofJson entries).map (⟨·⟩)
    | _ => .error .malformed

/-- A variable with the given fields, if there can be one. -/
def restoreVariable (v : Variable) : Except SnapshotError Variable :=
  let checked := do
    let w ← Variable.create v.id v.shape v.order
    w.setElementType v.elementType
  match checked with
  | .ok w => .ok { w with
      annotations := v.annotations, name := v.name, consumers := v.consumers,
      producer := v.producer }
  | .error e => .error (.impossible e)

/-- A variable is a record. Its name and its producer may be left out. -/
instance : Stored Variable where
  toJson v := .object [
    ("id", toJson v.id), ("base", toJson v.annotations), ("name", toJson v.name),
    ("shape", toJson v.shape), ("axis_order", toJson v.order), ("dtype", toJson v.elementType),
    ("input_to", toJson v.consumers), ("output_from", toJson v.producer)]
  ofJson j :=
    match j.fields? ["id", "base", "name", "shape", "axis_order", "dtype", "input_to",
        "output_from"] with
    | some [some id, some annotations, name, some shape, some order, some elementType,
        some consumers, producer] => do
      let id ← ofJson id
      let annotations ← ofJson annotations
      let name ← ofField? name
      let shape ← ofJson shape
      let order ← ofJson order
      let elementType ← ofJson elementType
      let consumers ← ofJson consumers
      let producer ← ofField? producer
      restoreVariable { id, annotations, name, shape, order, elementType, consumers, producer }
    | _ => .error .malformed

/-- An operator is a record. -/
instance : Stored Operator where
  toJson o := .object [
    ("id", toJson o.id), ("base", toJson o.annotations), ("name", toJson o.name),
    ("inputs", toJson o.inputs), ("outputs", toJson o.outputs)]
  ofJson j :=
    match j.fields? ["id", "base", "name", "inputs", "outputs"] with
    | some [some id, some annotations, some name, some inputs, some outputs] => do
      let id ← ofJson id
      let annotations ← ofJson annotations
      let name ← ofJson name
      let inputs ← ofJson inputs
      let outputs ← ofJson outputs
      pure { id, annotations, name, inputs, outputs }
    | _ => .error .malformed

end TensorGraph.Snapshot
