/-!
# Axes

The meanings that an axis of a tensor can have, with one letter for each.
-/

namespace TensorGraph

/-- The text for a name that nothing is registered under. -/
def unknownNameMessage : String := "Matching variant not found"

/-- What an axis of a tensor counts. -/
inductive Axis where
  /-- Samples of a batch. -/
  | batch
  /-- Channels. -/
  | channel
  /-- Rows of an image. -/
  | height
  /-- Columns of an image. -/
  | width
  /-- Steps in time. -/
  | time
deriving DecidableEq, Repr, Inhabited

namespace Axis

/-- All axes, in ascending order. -/
def all : List Axis := [batch, channel, height, width, time]

/-- The letter of an axis. -/
def name : Axis → String
  | batch => "N"
  | channel => "C"
  | height => "H"
  | width => "W"
  | time => "T"

/-- The axis with the given letter. -/
def ofName? (s : String) : Option Axis := all.find? (fun a => decide (a.name = s))

/-- The place of an axis among all axes. -/
def rank : Axis → Nat
  | batch => 0
  | channel => 1
  | height => 2
  | width => 3
  | time => 4

instance : Ord Axis := ⟨fun a b => compare a.rank b.rank⟩

/-- The axes of a list in ascending order. -/
def sort (axes : List Axis) : List Axis := axes.mergeSort (fun a b => decide (a.rank ≤ b.rank))

/-- Every axis is listed. -/
theorem mem_all (a : Axis) : a ∈ all := by cases a <;> decide

/-- An axis is found by its letter. -/
@[simp]
theorem ofName?_name (a : Axis) : ofName? a.name = some a := by cases a <;> decide

/-- Different axes have different letters. -/
theorem name_injective {a b : Axis} (h : a.name = b.name) : a = b := by
  simpa using congrArg ofName? h

end Axis

end TensorGraph
