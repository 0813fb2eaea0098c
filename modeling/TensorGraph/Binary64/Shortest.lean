import TensorGraph.Binary64

/-!
# The shortest decimal of a double-precision number

A decimal stands for a double-precision number when it lies among the reals that round to it:
between the points halfway to its two neighbours, which belong to it when its last bit is even. The
shortest such decimal is a multiple of the coarsest power of ten that has one there. Of two
multiples the nearer one is taken, and of two equally near ones the even one.

All of this is exact. A quarter of the unit in the last place is a power of two, so it is a whole
number of units of some power of ten, and so are the number itself and the two points.
-/

namespace TensorGraph.Binary64

/-- The reals that round to a number, and the number itself, in units of some power of ten. -/
structure Interval where
  /-- The point halfway to the neighbour below. -/
  low : Nat
  /-- The number. -/
  value : Nat
  /-- The point halfway to the neighbour above. -/
  high : Nat
  /-- Whether the two points belong to the interval. -/
  closed : Bool

namespace Interval

/-- Whether a point belongs to the interval. -/
def contains (i : Interval) (n : Nat) : Bool :=
  if i.closed then decide (i.low ≤ n ∧ n ≤ i.high) else decide (i.low < n ∧ n < i.high)

/-- The multiple of `g` in the interval, as its factor: the one nearest to the value, and the even
one of two that are equally near. -/
def factor? (i : Interval) (g : Nat) : Option Nat :=
  let n := i.value / g
  match i.contains (n * g), i.contains ((n + 1) * g) with
  | true, true =>
    let twice := 2 * i.value
    let middle := (2 * n + 1) * g
    if twice < middle ∨ (twice = middle ∧ n % 2 = 0) then some n else some (n + 1)
  | true, false => some n
  | false, true => some (n + 1)
  | false, false => none

/-- The factor and the exponent of the coarsest power of ten, up to the given one, that has a
multiple in the interval. -/
def shortest (i : Interval) : (exponent : Nat) → Nat × Nat
  | 0 => (i.value, 0)
  | e + 1 =>
    match i.factor? (Nat.pow 10 (e + 1)) with
    | some n => (n, e + 1)
    | none => i.shortest e

end Interval

/-- The shortest decimal of a finite number that is not zero, without its sign: `n` and `e` for
`n * 10 ^ e`. The neighbour below a power of two is only half as far away, except at the bottom. -/
def shortest (x : Binary64) : Nat × Int :=
  let (m, q) := parts x.magnitude
  let narrow := decide (m = 1 <<< 52 ∧ -1074 < q)
  -- A quarter of the unit in the last place is `unit * 10 ^ e`.
  let unit := Nat.pow 2 (q - 2).toNat * Nat.pow 5 (2 - q).toNat
  let e := min (q - 2) 0
  let interval : Interval :=
    { low := (if narrow then 4 * m - 1 else 4 * m - 2) * unit
      value := 4 * m * unit
      high := (4 * m + 2) * unit
      closed := decide (m % 2 = 0) }
  let (n, k) := interval.shortest (Nat.toDigits 10 interval.value).length
  (n, e + k)

end TensorGraph.Binary64
