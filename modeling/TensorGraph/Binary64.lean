/-!
# Double-precision numbers

A number in the 64-bit interchange format, carried as its bits: one sign bit, eleven bits of
exponent and 52 bits of fraction. The bits without the sign are the magnitude, and magnitudes grow
with the numbers that they stand for. Integers, products and quotients are rounded to the nearest
value, and to the one with an even fraction when two are equally near.
-/

namespace TensorGraph

/-- A double-precision number. -/
@[ext]
structure Binary64 where
  /-- The sign, the exponent and the fraction, most significant bit first. -/
  bits : UInt64
deriving DecidableEq, Repr, Inhabited

namespace Binary64

/-- The bits of positive infinity: all bits of the exponent, and no fraction. -/
def infinityBits : Nat := 0x7ff <<< 52

/-- The bits without the sign. -/
def magnitude (x : Binary64) : Nat := x.bits.toNat % (1 <<< 63)

/-- Whether the number is finite. -/
def isFinite (x : Binary64) : Bool := decide (x.magnitude < infinityBits)

/-- Whether the bits stand for no number. -/
def isNaN (x : Binary64) : Bool := decide (infinityBits < x.magnitude)

/-- Whether the number is one of the two zeros. -/
def isZero (x : Binary64) : Bool := decide (x.magnitude = 0)

/-- Numeric equality: the two zeros are equal, and what is no number equals nothing. -/
def equal (x y : Binary64) : Bool :=
  !x.isNaN && !y.isNaN && (decide (x = y) || (x.isZero && y.isZero))

/-- The number with the given sign and the given bits without the sign. -/
def ofMagnitude (negative : Bool) (magnitude : Nat) : Binary64 :=
  ⟨.ofNat ((if negative then 1 <<< 63 else 0) + magnitude)⟩

/-- The quotient rounded to the nearest integer, a half to the even neighbour. -/
def roundDiv (num den : Nat) : Nat :=
  let q := num / den
  let r := num % den
  if 2 * r < den ∨ (2 * r = den ∧ q % 2 = 0) then q else q + 1

/-- The largest `k` with `2 ^ k ≤ num / den`, for a positive quotient. -/
def log2Div (num den : Nat) : Int :=
  let k : Int := num.log2 - den.log2
  if den <<< k.toNat ≤ num <<< (-k).toNat then k else k - 1

/-- The bits of a positive quotient. Its last place is `2 ^ e`: 52 places below its first bit, but
not below the last place of the smallest numbers. Rounded to that place it is at most `2 ^ 53`
units, and the carry of the unit `2 ^ 52` into the exponent's bits puts the exponent right. -/
def magnitudeOfDiv (num den : Nat) : Nat :=
  let e := max (log2Div num den - 52) (-1074)
  let units := roundDiv (num <<< (-e).toNat) (den <<< e.toNat)
  min ((e + 1074).toNat <<< 52 + units) infinityBits

/-- The double-precision number nearest to an integer. -/
def ofInt (n : Int) : Binary64 :=
  ofMagnitude (decide (n < 0)) (if n = 0 then 0 else magnitudeOfDiv n.natAbs 1)

/-- A magnitude as a whole number of units of its last place, and the power of two of that place. -/
def parts (magnitude : Nat) : Nat × Int :=
  let e := magnitude >>> 52
  let fraction := magnitude % (1 <<< 52)
  if e = 0 then (fraction, -1074) else ((1 <<< 52) + fraction, e - 1075)

/-- The magnitude nearest to `m * 2 ^ q / n`. -/
def magnitudeOfScaled (m : Nat) (q : Int) (n : Nat) : Nat :=
  if m = 0 then 0 else magnitudeOfDiv (m <<< q.toNat) (n <<< (-q).toNat)

/-- The product of two finite numbers that are not negative. -/
def mul (x y : Binary64) : Binary64 :=
  let (m, q) := parts x.magnitude
  let (n, r) := parts y.magnitude
  ofMagnitude false (magnitudeOfScaled (m * n) (q + r) 1)

/-- The quotient of two finite numbers that are not negative, the second one not zero. -/
def div (x y : Binary64) : Binary64 :=
  let (m, q) := parts x.magnitude
  let (n, r) := parts y.magnitude
  ofMagnitude false (magnitudeOfScaled m (q - r) n)

/-- The number with the given sign in place of its own. -/
def withSign (x : Binary64) (negative : Bool) : Binary64 := ofMagnitude negative x.magnitude

/-- Whether the sign bit is set. -/
def isNegative (x : Binary64) : Bool := decide (1 <<< 63 ≤ x.bits.toNat)

end Binary64

end TensorGraph
