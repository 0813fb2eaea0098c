import Mathlib.Algebra.Order.Ring.Nat
import TensorGraph.Json.Basic

/-!
# Whole numbers as double-precision numbers

A whole number of 64 bits, with or without a sign, is far from the largest finite double-precision
number, so that the number nearest to it is finite. This is what keeps a parameter finite that is
read from a whole number.
-/

namespace TensorGraph.Binary64

/-- A rounded quotient exceeds the quotient by one at most. -/
theorem roundDiv_le (num den : Nat) : roundDiv num den ≤ num / den + 1 := by
  unfold roundDiv
  dsimp only
  split <;> omega

/-- The first bit of a quotient by one is the first bit of the number. -/
theorem log2Div_one {n : Nat} (hn : n ≠ 0) : log2Div n 1 = n.log2 := by
  have hone : Nat.log2 1 = 0 := by decide
  have hpow : 1 <<< n.log2 ≤ n := by
    rw [Nat.one_shiftLeft]
    exact Nat.log2_self_le hn
  have hzero : (n.log2 : Int) - (0 : Nat) = n.log2 := by omega
  unfold log2Div
  dsimp only
  rw [hone, hzero, if_pos]
  rwa [Int.toNat_natCast, Int.toNat_neg_natCast, Nat.shiftLeft_zero]

/-- A number scaled to 53 bits has 53 bits. -/
theorem scaled_lt (n : Nat) :
    n <<< (52 - n.log2) / 1 <<< (n.log2 - 52) < 2 ^ 53 := by
  have hlt : n < 2 ^ (n.log2 + 1) := Nat.lt_log2_self
  rw [Nat.one_shiftLeft, Nat.shiftLeft_eq, Nat.div_lt_iff_lt_mul (Nat.two_pow_pos _)]
  calc n * 2 ^ (52 - n.log2)
      < 2 ^ (n.log2 + 1) * 2 ^ (52 - n.log2) :=
        Nat.mul_lt_mul_of_pos_right hlt (Nat.two_pow_pos _)
    _ = 2 ^ 53 * 2 ^ (n.log2 - 52) := by
        rw [← Nat.pow_add, ← Nat.pow_add]
        congr 1
        omega

/-- The bits of a positive whole number of 64 bits are those of a finite number. -/
theorem magnitudeOfDiv_one_lt {n : Nat} (hn : n ≠ 0) (hlt : n < 2 ^ 64) :
    magnitudeOfDiv n 1 < infinityBits := by
  -- The exponent of the last bit, which is far from that of the smallest numbers.
  have hlog : n.log2 ≤ 63 := Nat.le_of_lt_succ ((Nat.log2_lt hn).2 hlt)
  have hexp : max ((n.log2 : Int) - 52) (-1074) = (n.log2 : Int) - 52 := by omega
  have hneg : (-((n.log2 : Int) - 52)).toNat = 52 - n.log2 := by omega
  have hpos : ((n.log2 : Int) - 52).toNat = n.log2 - 52 := by omega
  have hbias : ((n.log2 : Int) - 52 + 1074).toNat = n.log2 + 1022 := by omega
  -- The units: 53 bits, and one more when they are rounded up.
  have hround := roundDiv_le (n <<< (52 - n.log2)) (1 <<< (n.log2 - 52))
  have hscaled := scaled_lt n
  have hinfinity : infinityBits = 2047 * 4503599627370496 := by decide
  have hplace : (n.log2 + 1022) <<< 52 = (n.log2 + 1022) * 4503599627370496 :=
    Nat.shiftLeft_eq _ 52
  have hunits : roundDiv (n <<< (52 - n.log2)) (1 <<< (n.log2 - 52)) ≤ 2 * 4503599627370496 :=
    le_trans hround hscaled
  unfold magnitudeOfDiv
  rw [log2Div_one hn]
  dsimp only
  rw [hexp, hneg, hpos, hbias, hplace, hinfinity]
  exact lt_of_le_of_lt (min_le_left _ _) (by omega)

/-- The bits of a number that is put together are those that it is put together from. -/
theorem magnitude_ofMagnitude {negative : Bool} {m : Nat} (hm : m < 1 <<< 63) :
    (ofMagnitude negative m).magnitude = m := by
  have hshift : 1 <<< 63 = 9223372036854775808 := by decide
  rw [hshift] at hm
  unfold ofMagnitude magnitude
  rw [UInt64.toNat_ofNat', hshift]
  cases negative with
  | false =>
    rw [if_neg Bool.false_ne_true]
    omega
  | true =>
    rw [if_pos rfl]
    omega

/-- The number nearest to a whole number of 64 bits is finite. -/
theorem isFinite_ofInt {n : Int} (hlower : -9223372036854775808 ≤ n)
    (hupper : n < 18446744073709551616) : (ofInt n).isFinite = true := by
  have hbits : (if n = 0 then 0 else magnitudeOfDiv n.natAbs 1) < infinityBits := by
    split
    · decide
    · next hn => exact magnitudeOfDiv_one_lt (by omega) (by omega)
  unfold isFinite ofInt
  rw [decide_eq_true_iff, magnitude_ofMagnitude (lt_trans hbits (by decide))]
  exact hbits

end TensorGraph.Binary64
