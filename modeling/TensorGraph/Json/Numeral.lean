import TensorGraph.Binary64.Shortest
import TensorGraph.Json.Basic

/-!
# Numerals

How numbers are written in JSON text, and what numerals are read as. A numeral without fraction and
exponent is a whole number as long as it is in range. Every other numeral is read as a
double-precision number by computing with such numbers: the leading digits make a 64-bit number, and
that is multiplied or divided by a power of ten. Each step rounds, so that the result can be a few
units of the last place away from the nearest number, and a number that is written and read again
need not be the same.
-/

namespace TensorGraph.Json

/-- The parts of a numeral. -/
structure Numeral where
  /-- Whether there is a minus sign. -/
  negative : Bool
  /-- The digits before the point. -/
  digits : List Char
  /-- The digits after the point, if there is one. -/
  fraction : Option (List Char)
  /-- The exponent, if there is one. -/
  exponent : Option Int

namespace Numeral

/-- The number that decimal digits stand for. -/
def number (digits : List Char) : Nat := Nat.ofDigitChars 10 digits 0

/-- Appends digits to a number as long as it fits in 64 bits, and gives back those left over. -/
def gather (n : Nat) : List Char → Nat × List Char
  | [] => (n, [])
  | c :: rest =>
    let next := 10 * n + (c.toNat - '0'.toNat)
    if next < UInt64.size then gather next rest else (n, c :: rest)

/-- The power of ten nearest to `10 ^ k`. -/
def powerOfTen (k : Nat) : Binary64 := .ofInt (Nat.pow 10 k)

/-- Multiplies or divides a number by `10 ^ e`, rounding at each step. Powers of ten go up to `308`:
a larger one makes every number but zero too large, and a smaller one is divided by in two steps,
below which nothing is left of a 64-bit number. -/
def scale (x : Binary64) (e : Int) : Option Binary64 :=
  if 0 ≤ e then
    if e ≤ 308 then some (x.mul (powerOfTen e.toNat))
    else if x.isZero then some x
    else none
  else if -308 ≤ e then some (x.div (powerOfTen (-e).toNat))
  else if -616 ≤ e then some ((x.div (powerOfTen 308)).div (powerOfTen (-e - 308).toNat))
  else some (.ofInt 0)

/-- The double-precision number that a numeral is read as, if it is not too large. Digits left over
before the point count as zeros, and those left over after it do not count. -/
def real? (n : Numeral) : Option Finite :=
  let places := n.fraction.getD []
  let (leading, dropped) := gather 0 n.digits
  let (leading, ignored) := gather leading places
  let e := n.exponent.getD 0 + dropped.length - (places.length - ignored.length : Nat)
  match scale (.ofInt leading) e with
  | none => none
  | some x =>
    let x := x.withSign n.negative
    if h : x.isFinite = true then some ⟨x, h⟩ else none

/-- The whole number that a numeral stands for, if it has neither fraction nor exponent and is in
range. A negative zero is no whole number. -/
def whole? (n : Numeral) : Option Json :=
  if n.fraction.isSome ∨ n.exponent.isSome ∨ (n.negative ∧ number n.digits = 0) then none
  else ofInt? (if n.negative then -number n.digits else number n.digits)

/-- The value that a numeral is read as. -/
def value? (n : Numeral) : Option Json :=
  match n.whole? with
  | some j => some j
  | none => n.real?.map real

/-- The numeral of a double-precision number: its shortest decimal. The point is placed among the
digits, with at most four zeros behind it and at most sixteen digits before it, or after the first
digit and with an exponent. A number without places has a zero behind the point. -/
def ofFinite (x : Finite) : Numeral :=
  let negative := x.value.isNegative
  if x.value.isZero then ⟨negative, ['0'], some ['0'], none⟩
  else
    let (n, e) := x.value.shortest
    let digits := Nat.toDigits 10 n
    let top := digits.length + e
    if 0 ≤ e ∧ top ≤ 16 then
      ⟨negative, digits ++ List.replicate e.toNat '0', some ['0'], none⟩
    else if 0 < top ∧ top ≤ 16 then
      ⟨negative, digits.take top.toNat, some (digits.drop top.toNat), none⟩
    else if -5 < top ∧ top ≤ 0 then
      ⟨negative, ['0'], some (List.replicate (-top).toNat '0' ++ digits), none⟩
    else
      ⟨negative, digits.take 1, if digits.length = 1 then none else some (digits.drop 1),
        some (top - 1)⟩

end Numeral

end TensorGraph.Json

namespace TensorGraph

/-- What a double-precision number is read as when it is written as a numeral: infinity where the
numeral is too large, and what is not finite has no numeral and stays. -/
def Binary64.reread (x : Binary64) : Binary64 :=
  if h : x.isFinite = true then
    match (Json.Numeral.ofFinite ⟨x, h⟩).real? with
    | some y => y.value
    | none => .ofMagnitude x.isNegative infinityBits
  else x

end TensorGraph
