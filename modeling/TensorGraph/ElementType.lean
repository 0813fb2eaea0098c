/-!
# Element types

The types that the elements of a tensor can have, with the bytes that one element takes.
-/

namespace TensorGraph

/-- The type of the elements of a tensor. -/
inductive ElementType where
  | float64 | float32 | bfloat16 | float16
  | uint64 | int64 | uint32 | int32 | uint16 | int16 | uint8 | int8
  | bool
deriving DecidableEq, Repr

namespace ElementType

/-- Tensors hold single-precision numbers unless something else is asked for. -/
instance : Inhabited ElementType := ⟨float32⟩

/-- All element types, in ascending order. -/
def all : List ElementType :=
  [float64, float32, bfloat16, float16, uint64, int64, uint32, int32, uint16, int16, uint8, int8,
    bool]

/-- The short name, by which snapshots refer to a type. -/
def name : ElementType → String
  | float64 => "F64"
  | float32 => "F32"
  | bfloat16 => "BF16"
  | float16 => "F16"
  | uint64 => "U64"
  | int64 => "I64"
  | uint32 => "U32"
  | int32 => "I32"
  | uint16 => "U16"
  | int16 => "I16"
  | uint8 => "U8"
  | int8 => "I8"
  | bool => "BOOL"

/-- The long name, by which messages refer to a type. -/
def title : ElementType → String
  | float64 => "Float64"
  | float32 => "Float32"
  | bfloat16 => "BFloat16"
  | float16 => "Float16"
  | uint64 => "UInt64"
  | int64 => "Int64"
  | uint32 => "UInt32"
  | int32 => "Int32"
  | uint16 => "UInt16"
  | int16 => "Int16"
  | uint8 => "UInt8"
  | int8 => "Int8"
  | bool => "Bool"

/-- The bytes that one element takes. -/
def byteSize : ElementType → UInt64
  | float64 | uint64 | int64 => 8
  | float32 | uint32 | int32 => 4
  | bfloat16 | float16 | uint16 | int16 => 2
  | uint8 | int8 | bool => 1

/-- The place of a type among all types. -/
def rank (t : ElementType) : Nat := all.findIdx (fun u => decide (u = t))

instance : Ord ElementType := ⟨fun t u => compare t.rank u.rank⟩

/-- The type with the given short name. -/
def ofName? (s : String) : Option ElementType := all.find? (fun t => decide (t.name = s))

/-- A type is found by its short name. -/
@[simp]
theorem ofName?_name (t : ElementType) : ofName? t.name = some t := by cases t <;> decide

end ElementType

end TensorGraph
