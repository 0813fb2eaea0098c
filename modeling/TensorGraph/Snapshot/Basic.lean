import TensorGraph.GraphError
import TensorGraph.Json.Basic
import TensorGraph.SortedSet

/-!
# Stored forms

A snapshot is a JSON value. A type that can be part of one has a stored form, with a writer that
always succeeds and a reader that refuses what does not have the form. This module holds the class
of such types, and the forms of numbers, strings, lists, sets and maps.
-/

namespace TensorGraph

/-- A type with a stored form. -/
class Stored (α : Type) where
  /-- The stored form of a value. -/
  toJson : α → Json
  /-- The value with the given stored form. -/
  ofJson : Json → Except SnapshotError α

namespace Snapshot

open Stored

/-- Takes a missing value for a wrong form. -/
def expect {α : Type} : Option α → Except SnapshotError α
  | some a => .ok a
  | none => .error .malformed

/-- A truth value is stored as itself. -/
instance : Stored Bool where
  toJson := .bool
  ofJson
    | .bool b => .ok b
    | _ => .error .malformed

/-- A string is stored as itself. -/
instance : Stored String where
  toJson := .string
  ofJson
    | .string s => .ok s
    | _ => .error .malformed

/-- A 64-bit number without a sign is stored as a whole number. -/
instance : Stored UInt64 where
  toJson := .ofUInt64
  ofJson
    | .whole n => if 0 ≤ n.value then .ok (.ofNat n.value.toNat) else .error .malformed
    | _ => .error .malformed

/-- A 64-bit number with a sign is stored as a whole number. -/
instance : Stored Int64 where
  toJson := .ofInt64
  ofJson
    | .whole n => if n.value < 9223372036854775808 then .ok (.ofInt n.value) else .error .malformed
    | _ => .error .malformed

/-- A double-precision number is stored as a number, and also read from a whole number. -/
instance : Stored Binary64 where
  toJson := .ofBinary64
  ofJson
    | .real x => .ok x.value
    | .whole n => .ok (.ofInt n.value)
    | _ => .error .malformed

/-- An id is stored as its number. -/
instance {kind : NodeKind} : Stored (Id kind) where
  toJson i := toJson i.value
  ofJson j := (ofJson j).map (⟨·⟩)

section

variable {α : Type} [Stored α]

/-- What may be missing is stored as null when it is. -/
instance : Stored (Option α) where
  toJson
    | some a => toJson a
    | none => .null
  ofJson
    | .null => .ok none
    | j => (ofJson j).map some

/-- A list is stored as an array. -/
instance : Stored (List α) where
  toJson l := .array (l.map toJson)
  ofJson
    | .array items => items.mapM ofJson
    | _ => .error .malformed

/-- Reads a field that may be left out. -/
def ofField? (field : Option Json) : Except SnapshotError (Option α) :=
  match field with
  | some j => ofJson j
  | none => .ok none

variable {κ : Type} [DecidableEq κ] [Key κ]

/-- A set is stored as the array of its members. Repeated members are read as one. -/
instance [Stored κ] : Stored (SortedSet κ) where
  toJson s := toJson s.toList
  ofJson j := (ofJson j).map SortedSet.ofList

/-- A map is stored as an object, with the keys as names. -/
def ofMap (name : κ → String) (m : SortedMap κ α) : Json :=
  .object (m.toList.map fun (k, a) => (name k, toJson a))

/-- Reads a map from an object. A member is refused for its name before its value is looked at. -/
def toMap (key? : String → Option κ) : Json → Except SnapshotError (SortedMap κ α)
  | .object members => do
    let entries ← members.mapM fun (name, j) => do
      let k ← expect (key? name)
      let a ← ofJson j
      pure (k, a)
    pure (.ofList entries)
  | _ => .error .malformed

/-- A map from names is stored as an object. -/
instance : Stored (SortedMap String α) where
  toJson := ofMap id
  ofJson := toMap some

end

end Snapshot

end TensorGraph
