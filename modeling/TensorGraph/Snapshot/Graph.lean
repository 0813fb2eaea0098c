import TensorGraph.Decimal
import TensorGraph.Graph.Basic
import TensorGraph.Snapshot.Nodes

/-!
# Snapshots of graphs

The stored form of a whole graph: its two arenas, by id, and the ids that it hands out next. Links
are not checked against each other, nor ids against the names that they are stored under.
-/

namespace TensorGraph

namespace Snapshot

open Stored

/-- The name under which a node is stored: the number of its id. -/
def idName {kind : NodeKind} (i : Id kind) : String := i.toNat.repr

/-- The id that a node is stored under. -/
def idOfName? {kind : NodeKind} (name : String) : Option (Id kind) :=
  (Decimal.read? name).bind Id.ofNat?

/-- An id is read back from its name. -/
@[simp]
theorem idOfName?_idName {kind : NodeKind} (i : Id kind) : idOfName? (idName i) = some i := by
  simp [idOfName?, idName, Id.ofNat?_eq_some]

/-- A map by ids is stored as an object. -/
instance {kind : NodeKind} {α : Type} [Stored α] : Stored (SortedMap (Id kind) α) where
  toJson := ofMap idName
  ofJson := toMap idOfName?

/-- Reads a field if it is there. -/
def readField? {α : Type} [Stored α] (field : Option Json) : Except SnapshotError (Option α) :=
  match field with
  | some j => (ofJson j).map some
  | none => .ok none

/-- A graph is a record. The fields of an object are read by name and those of an array from left to
right, the first one that is refused decides why the snapshot is, and a field that is missing is
noticed when all others have been read. -/
instance : Stored Graph where
  toJson g := .object [
    ("variables", toJson g.vars), ("operators", toJson g.ops),
    ("next_variable_id", toJson g.nextVariable), ("next_operator_id", toJson g.nextOperator)]
  ofJson
    | .object members => do
      let nextOperator ← readField? (members.lookup "next_operator_id")
      let nextVariable ← readField? (members.lookup "next_variable_id")
      let ops ← readField? (members.lookup "operators")
      let vars ← readField? (members.lookup "variables")
      let nextOperator ← expect nextOperator
      let nextVariable ← expect nextVariable
      let ops ← expect ops
      let vars ← expect vars
      pure { vars, ops, nextVariable, nextOperator }
    | .array items => do
      let vars ← expect items[0]? >>= ofJson
      let ops ← expect items[1]? >>= ofJson
      let nextVariable ← expect items[2]? >>= ofJson
      let nextOperator ← expect items[3]? >>= ofJson
      if items.length = 4 then pure { vars, ops, nextVariable, nextOperator }
      else .error .malformed
    | _ => .error .malformed

end Snapshot

/-- The snapshot of a graph. -/
def Graph.snapshot (g : Graph) : Json := Stored.toJson g

/-- The graph of a snapshot. -/
def Graph.ofSnapshot (j : Json) : Except SnapshotError Graph := Stored.ofJson j

end TensorGraph
