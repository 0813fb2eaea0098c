import TensorGraph.Binary64

/-!
# JSON values

The values of JSON, with whole numbers and other numbers kept apart: a numeral without fraction and
exponent is a whole number as long as it fits in 64 bits, with or without a sign, and every other
numeral is a finite double-precision number.
-/

namespace TensorGraph

/-- A whole number from `-2^63` to `2^64 - 1`. -/
@[ext]
structure Json.Whole where
  /-- The number. -/
  value : Int
  /-- A negative number fits in 64 bits with a sign. -/
  lower : -9223372036854775808 ≤ value
  /-- A positive number fits in 64 bits without a sign. -/
  upper : value < 18446744073709551616
deriving DecidableEq

/-- A finite double-precision number. -/
@[ext]
structure Json.Finite where
  /-- The number. -/
  value : Binary64
  /-- The number is finite. -/
  finite : value.isFinite = true
deriving DecidableEq

/-- A JSON value. -/
inductive Json where
  | null
  | bool (b : Bool)
  | whole (n : Json.Whole)
  | real (x : Json.Finite)
  | string (s : String)
  | array (items : List Json)
  | object (members : List (String × Json))

namespace Json

instance : Inhabited Json := ⟨null⟩

/-- A whole number, if it is in range. -/
def ofInt? (n : Int) : Option Json :=
  if h : -9223372036854775808 ≤ n ∧ n < 18446744073709551616 then some (whole ⟨n, h.1, h.2⟩)
  else none

/-- A 64-bit number without a sign. -/
def ofUInt64 (n : UInt64) : Json :=
  whole ⟨n.toNat, by omega, by have := n.toNat_lt; omega⟩

/-- A 64-bit number with a sign. -/
def ofInt64 (n : Int64) : Json :=
  whole ⟨n.toInt, n.le_toInt, by have := n.toInt_lt; omega⟩

/-- A double-precision number. What is not finite has no numeral and is written as null. -/
def ofBinary64 (x : Binary64) : Json :=
  if h : x.isFinite = true then real ⟨x, h⟩ else null

/-- The member of an object under a name, if the value is an object that has one. -/
def member? (j : Json) (name : String) : Option Json :=
  match j with
  | object members => members.lookup name
  | _ => none

/-- The fields of a record, by the names given. A record is an object with a member for each field,
though some may be missing, or an array of all fields in the order of the names. -/
def fields? (names : List String) : Json → Option (List (Option Json))
  | object members => some (names.map fun name => members.lookup name)
  | array items => if items.length = names.length then some (items.map some) else none
  | _ => none

end Json

end TensorGraph
