import TensorGraph.Count
import TensorGraph.SortedMap.Basic

/-!
# Ids of nodes

A graph hands out ids for its variables and its operators. An id is a 64-bit number together with
the kind of node that it names, so that the two cannot be confused.
-/

namespace TensorGraph

/-- The two kinds of node. -/
inductive NodeKind where
  /-- A value that flows through the graph. -/
  | variable
  /-- A step of the computation. -/
  | operator
deriving DecidableEq, Repr

/-- The letters that go before the number of an id. -/
def NodeKind.sigil : NodeKind → String
  | .variable => "v"
  | .operator => "op"

/-- The id of a node. -/
@[ext]
structure Id (kind : NodeKind) where
  /-- The number. -/
  value : UInt64
deriving DecidableEq, Repr, Inhabited

/-- The id of a variable. -/
abbrev VariableId := Id .variable

/-- The id of an operator. -/
abbrev OperatorId := Id .operator

namespace Id

variable {kind : NodeKind}

/-- Ids are ordered by their numbers. -/
instance : Key (Id kind) where
  lt a b := a.value < b.value
  decidableLT a b := inferInstanceAs (Decidable (a.value < b.value))
  irrefl a := UInt64.lt_irrefl a.value
  trans h h' := UInt64.lt_trans h h'
  trichotomy a b := (Std.lt_trichotomy a.value b.value).imp id (Or.imp Id.ext id)

/-- The number of an id. -/
def toNat (i : Id kind) : Nat := i.value.toNat

/-- The id with the given number, if the number fits in 64 bits. -/
def ofNat? (n : Nat) : Option (Id kind) := if n < UInt64.size then some ⟨.ofNat n⟩ else none

/-- The id after this one, if there is one. -/
def succ? (i : Id kind) : Option (Id kind) := (Count.succ? i.value).map (⟨·⟩)

/-- The id as it is shown: the letters of its kind and its number. -/
def text (i : Id kind) : String := kind.sigil ++ i.value.toNat.repr

/-- Ids with one number are the same. -/
theorem toNat_inj {i j : Id kind} : i.toNat = j.toNat ↔ i = j :=
  UInt64.toNat_inj.trans ⟨Id.ext, fun h => h ▸ rfl⟩

/-- One id precedes another when its number is smaller. -/
theorem lt_iff {i j : Id kind} : i < j ↔ i.toNat < j.toNat := UInt64.lt_iff_toNat_lt

/-- The next id has the next number. -/
theorem succ?_eq_some {i j : Id kind} : i.succ? = some j ↔ i.toNat + 1 = j.toNat := by
  simp only [succ?, Option.map_eq_some_iff, Count.succ?_eq_some]
  constructor
  · rintro ⟨n, h, rfl⟩
    exact h
  · exact fun h => ⟨j.value, h, rfl⟩

/-- An id has no next one only at the last number. -/
theorem succ?_eq_none {i : Id kind} : i.succ? = none ↔ i.toNat + 1 = UInt64.size := by
  rw [succ?, Option.map_eq_none_iff, Count.succ?_eq_none, toNat]

/-- The id of a number has that number. -/
theorem ofNat?_eq_some {n : Nat} {i : Id kind} : ofNat? n = some i ↔ n = i.toNat := by
  have hi := i.value.toNat_lt_size
  simp only [ofNat?, Option.ite_none_right_eq_some, Option.some.injEq]
  constructor
  · rintro ⟨h, rfl⟩
    exact (UInt64.toNat_ofNat_of_lt' h).symm
  · intro h
    refine ⟨h ▸ hi, toNat_inj.1 ?_⟩
    rw [h]
    exact UInt64.toNat_ofNat_of_lt' hi

end Id

end TensorGraph
