import Mathlib.Algebra.Order.Ring.Nat
import Mathlib.Data.List.TakeWhile
import TensorGraph.Shape

/-!
# Volumes counted in 64 bits

`Shape.volume` is the exact number of elements of a tensor. This module compares it with the two
ways in which it is counted in 64 bits. `Shape.byteCount?` looks for a zero first, so that it is
exact for every shape (`byteCount?_eq_some`). `Shape.elementCount?` multiplies from left to right
and looks for nothing: it needs the product of the sizes in front of the first zero to fit, which
`Shape.leading` cuts off (`elementCount?_eq_some`).
-/

namespace TensorGraph

/-- A number that fits in 64 bits is a count. -/
theorem Count.exists_toNat_eq {k : Nat} (h : k < UInt64.size) : ∃ n : UInt64, n.toNat = k :=
  ⟨.ofNat k, UInt64.toNat_ofNat_of_lt' h⟩

/-- A product that fits is found. -/
theorem Count.mul?_of_lt {a b : UInt64} (h : a.toNat * b.toNat < UInt64.size) :
    ∃ c, Count.mul? a b = some c ∧ a.toNat * b.toNat = c.toNat := by
  cases hc : Count.mul? a b with
  | none => exact absurd (Count.mul?_eq_none.1 hc) (Nat.not_le.2 h)
  | some c => exact ⟨c, rfl, Count.mul?_eq_some.1 hc⟩

namespace Shape

/-! ## The exact volume -/

/-- A shape without axes has one element. -/
@[simp]
theorem volume_nil : volume [] = 1 := rfl

/-- One more axis multiplies the volume by its size. -/
@[simp]
theorem volume_cons (n : UInt64) (s : Shape) : volume (n :: s) = n.toNat * volume s := rfl

/-- The volume is the product of the sizes. -/
theorem volume_eq_prod (s : Shape) : s.volume = (s.map UInt64.toNat).prod := by
  induction s with
  | nil => rfl
  | cons n s ih => simp [ih]

/-- A tensor is without elements when one of its sizes is zero. -/
theorem volume_eq_zero {s : Shape} : s.volume = 0 ↔ 0 ∈ s := by
  induction s with
  | nil => simp
  | cons n s ih =>
    rw [volume_cons, Nat.mul_eq_zero, ih, List.mem_cons]
    exact or_congr_left ⟨fun h => (UInt64.toNat_inj.1 h).symm, fun h => h ▸ rfl⟩

/-- A shape without a zero has a positive volume. -/
theorem volume_pos {s : Shape} (h : 0 ∉ s) : 0 < s.volume :=
  Nat.pos_of_ne_zero fun h0 => h (volume_eq_zero.1 h0)

/-! ## The sizes in front of the first zero -/

/-- The sizes in front of the first zero. -/
def leading (s : Shape) : Shape := s.takeWhile (fun n => decide (n ≠ 0))

/-- Nothing stands in front of a zero that comes first. -/
@[simp]
theorem leading_zero_cons (s : Shape) : leading (0 :: s) = [] := by
  simp [leading]

/-- A first size that is not zero leads. -/
theorem leading_cons {n : UInt64} (h : n ≠ 0) (s : Shape) : leading (n :: s) = n :: leading s := by
  simp [leading, h]

/-- No leading size is zero. -/
theorem zero_not_mem_leading (s : Shape) : 0 ∉ leading s := fun h => by
  simpa using List.mem_takeWhile_imp h

/-- In a shape without a zero all sizes lead. -/
theorem leading_eq_self {s : Shape} (h : 0 ∉ s) : leading s = s := by
  refine List.takeWhile_eq_self_iff.2 fun n hn => ?_
  have hne : n ≠ 0 := fun h0 => h (h0 ▸ hn)
  simpa using hne

/-! ## Counting in 64 bits -/

/-- From zero on, every product is zero. -/
theorem product?_zero (s : Shape) : Count.product? 0 s = some 0 := by
  induction s with
  | nil => rfl
  | cons n s ih =>
    have hmul : Count.mul? 0 n = some 0 := Count.mul?_eq_some.2 (by simp)
    rw [Count.product?, List.foldlM_cons, hmul]
    exact ih

/-- A product from left to right is the exact one, and it is refused only where the sizes in front
of the first zero are too large: partial products do not shrink until a zero is met. -/
theorem product?_eq_some {a n : UInt64} {s : Shape} :
    Count.product? a s = some n ↔
      a.toNat * (leading s).volume < UInt64.size ∧ a.toNat * s.volume = n.toNat := by
  induction s generalizing a with
  | nil =>
    have ha := a.toNat_lt_size
    simp [Count.product?, leading, ha, UInt64.toNat_inj]
  | cons m s ih =>
    rw [Count.product?, List.foldlM_cons]
    by_cases hm : m = 0
    · -- The product is zero from here on, on both sides.
      subst hm
      have ha := a.toNat_lt_size
      have hmul : Count.mul? a 0 = some 0 := Count.mul?_eq_some.2 (by simp)
      have hrest : List.foldlM Count.mul? 0 s = some 0 := product?_zero s
      simp only [hmul, Option.bind_eq_bind, Option.bind_some, hrest, leading_zero_cons, volume_nil,
        Nat.mul_one, ha, true_and, volume_cons, UInt64.toNat_zero, Nat.zero_mul, Nat.mul_zero,
        Option.some.injEq]
      exact ⟨fun h => h ▸ rfl, fun h => UInt64.toNat_inj.1 h⟩
    · -- The sizes that lead the rest are positive, so the next product fits if the last one does.
      have hlead := volume_pos (zero_not_mem_leading s)
      simp only [Option.bind_eq_bind, Option.bind_eq_some_iff, leading_cons hm, volume_cons,
        Count.mul?_eq_some]
      constructor
      · rintro ⟨b, hb, hs⟩
        rw [← Nat.mul_assoc, ← Nat.mul_assoc, hb]
        exact ih.1 hs
      · rintro ⟨hlt, heq⟩
        rw [← Nat.mul_assoc] at hlt heq
        obtain ⟨b, -, hb⟩ := Count.mul?_of_lt (lt_of_le_of_lt (Nat.le_mul_of_pos_right _ hlead) hlt)
        exact ⟨b, hb, ih.2 ⟨hb ▸ hlt, hb ▸ heq⟩⟩

/-- The count of elements is exact where it is given. -/
theorem elementCount?_eq_some {s : Shape} {n : UInt64} :
    s.elementCount? = some n ↔ (leading s).volume < UInt64.size ∧ s.volume = n.toNat := by
  simp [elementCount?, product?_eq_some]

/-- Where the leading sizes are not too large, the volume is not either. -/
theorem volume_lt_of_leading {s : Shape} (h : (leading s).volume < UInt64.size) :
    s.volume < UInt64.size := by
  by_cases h0 : 0 ∈ s
  · rw [volume_eq_zero.2 h0]
    decide
  · rwa [leading_eq_self h0] at h

/-- The elements are not counted when the sizes in front of the first zero are too large. -/
theorem elementCount?_eq_none {s : Shape} :
    s.elementCount? = none ↔ UInt64.size ≤ (leading s).volume := by
  rw [← Nat.not_lt, Option.eq_none_iff_forall_ne_some]
  constructor
  · intro hnone hlt
    obtain ⟨n, hn⟩ := Count.exists_toNat_eq (volume_lt_of_leading hlt)
    exact hnone n (elementCount?_eq_some.2 ⟨hlt, hn.symm⟩)
  · exact fun hge n hn => hge (elementCount?_eq_some.1 hn).1

/-- The count of bytes is exact, and every shape whose exact count fits has one. -/
theorem byteCount?_eq_some {s : Shape} {t : ElementType} {n : UInt64} :
    s.byteCount? t = some n ↔ s.volume * t.byteSize.toNat = n.toNat := by
  rw [byteCount?]
  split
  · next h0 =>
    rw [volume_eq_zero.2 h0, Nat.zero_mul, Option.some.injEq]
    exact ⟨fun h => h ▸ rfl, fun h => UInt64.toNat_inj.1 h⟩
  · next h0 =>
    -- Without a zero all sizes lead.
    rw [product?_eq_some, leading_eq_self h0, Nat.mul_comm s.volume]
    exact and_iff_right_of_imp fun h => h ▸ n.toNat_lt_size

/-- The bytes are not counted when they do not fit in 64 bits. -/
theorem byteCount?_eq_none {s : Shape} {t : ElementType} :
    s.byteCount? t = none ↔ UInt64.size ≤ s.volume * t.byteSize.toNat := by
  rw [← Nat.not_lt, Option.eq_none_iff_forall_ne_some]
  constructor
  · intro hnone hlt
    obtain ⟨n, hn⟩ := Count.exists_toNat_eq hlt
    exact hnone n (byteCount?_eq_some.2 hn.symm)
  · exact fun hge n hn => hge (byteCount?_eq_some.1 hn ▸ n.toNat_lt_size)

end Shape

end TensorGraph
