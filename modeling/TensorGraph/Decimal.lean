/-!
# Decimal numerals

Numbers are written in decimal digits without sign, blanks or leading zeros, and only that form is
read back.
-/

namespace TensorGraph.Decimal

/-- The number that a string of decimal digits stands for, if the string is how it is written. -/
def read? (s : String) : Option Nat :=
  let n := Nat.ofDigitChars 10 s.toList 0
  if n.repr = s then some n else none

/-- Reading accepts exactly what writing gives. -/
theorem read?_eq_some {s : String} {n : Nat} : read? s = some n ↔ s = n.repr := by
  simp only [read?, Option.ite_none_right_eq_some, Option.some.injEq]
  constructor
  · rintro ⟨h, rfl⟩
    exact h.symm
  · rintro rfl
    have h : Nat.ofDigitChars 10 n.repr.toList 0 = n := by
      rw [Nat.repr_eq_ofList_toDigits, String.toList_ofList, Nat.ofDigitChars_ten_toDigits]
    exact ⟨by rw [h], h⟩

/-- A written number is read back. -/
@[simp]
theorem read?_repr (n : Nat) : read? n.repr = some n := read?_eq_some.2 rfl

end TensorGraph.Decimal
