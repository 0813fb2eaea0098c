/-!
# Counting in 64 bits

Sizes and counters are 64-bit words. The operations here give the exact result or nothing, and
never wrap around.
-/

namespace TensorGraph.Count

/-- The product of two counts, if it fits in 64 bits. -/
def mul? (a b : UInt64) : Option UInt64 :=
  if a.toNat * b.toNat < UInt64.size then some (a * b) else none

/-- The next count, if there is one. -/
def succ? (a : UInt64) : Option UInt64 :=
  if a.toNat + 1 < UInt64.size then some (a + 1) else none

/-- The product of some counts, multiplied from left to right onto `start`, if no step leaves the
64 bits. -/
def product? (start : UInt64) (counts : List UInt64) : Option UInt64 := counts.foldlM mul? start

/-- The checked product is the exact one. -/
theorem mul?_eq_some {a b c : UInt64} : mul? a b = some c ↔ a.toNat * b.toNat = c.toNat := by
  have hc := c.toNat_lt_size
  simp only [mul?, Option.ite_none_right_eq_some, Option.some.injEq]
  constructor
  · rintro ⟨h, rfl⟩
    rw [UInt64.toNat_mul, Nat.mod_eq_of_lt h]
  · intro h
    refine ⟨h ▸ hc, UInt64.toNat_inj.1 ?_⟩
    rw [UInt64.toNat_mul, Nat.mod_eq_of_lt (h ▸ hc), h]

/-- The checked product is refused when the exact one does not fit. -/
theorem mul?_eq_none {a b : UInt64} : mul? a b = none ↔ UInt64.size ≤ a.toNat * b.toNat := by
  simp only [mul?, ite_eq_right_iff, reduceCtorEq, imp_false, Nat.not_lt]

/-- The checked successor is the exact one. -/
theorem succ?_eq_some {a b : UInt64} : succ? a = some b ↔ a.toNat + 1 = b.toNat := by
  have hb := b.toNat_lt_size
  simp only [succ?, Option.ite_none_right_eq_some, Option.some.injEq]
  constructor
  · rintro ⟨h, rfl⟩
    rw [UInt64.toNat_add, UInt64.toNat_one, Nat.mod_eq_of_lt h]
  · intro h
    refine ⟨h ▸ hb, UInt64.toNat_inj.1 ?_⟩
    rw [UInt64.toNat_add, UInt64.toNat_one, Nat.mod_eq_of_lt (h ▸ hb), h]

/-- Only the greatest count has no successor. -/
theorem succ?_eq_none {a : UInt64} : succ? a = none ↔ a.toNat + 1 = UInt64.size := by
  have ha := a.toNat_lt_size
  simp only [succ?, ite_eq_right_iff, reduceCtorEq, imp_false]
  omega

end TensorGraph.Count
