import TensorGraph.Attribute
import TensorGraph.AxisOrder
import TensorGraph.ElementType
import TensorGraph.Snapshot.Basic

/-!
# Stored forms of names

The values of the small closed types are stored as their names. An object with the name as its only
member, and null as its value, is read as well.
-/

namespace TensorGraph.Snapshot

/-- The name that a value stands for. -/
def nameOf? : Json → Option String
  | .string s => some s
  | .object [(s, .null)] => some s
  | _ => none

/-- Reads one of the named values. -/
def ofNamed {α : Type} (ofName? : String → Option α) (j : Json) : Except SnapshotError α :=
  expect ((nameOf? j).bind ofName?)

/-- A value that is found by its name is read back from it. -/
theorem ofNamed_string {α : Type} {ofName? : String → Option α} {s : String} {a : α}
    (h : ofName? s = some a) : ofNamed ofName? (.string s) = .ok a := by
  simp [ofNamed, nameOf?, h, expect]

instance : Stored Axis := ⟨fun a => .string a.name, ofNamed Axis.ofName?⟩

instance : Stored AxisOrder := ⟨fun o => .string o.name, ofNamed AxisOrder.ofName?⟩

instance : Stored ElementType := ⟨fun t => .string t.name, ofNamed ElementType.ofName?⟩

instance : Stored Attribute := ⟨fun a => .string a.name, ofNamed Attribute.ofName?⟩

end TensorGraph.Snapshot
