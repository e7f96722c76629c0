import Archetype.Number.Binary64

/-!
# The shortest decimal

A finite binary number is written with the fewest decimal digits that read back as it; of the decimals
with that many digits, with the one closest to it.

* **`Binary64.shortest`** — the digits, as a whole number, and the power of ten they are multiplied by.

For one digit, two digits and so on up to seventeen, the two decimals next to the number on the grid of
that many digits are tested against the interval of reals that round to the number. The first grid with
a decimal in the interval wins. All comparisons are exact, in whole numbers.
-/

namespace Archetype.Binary64

/-- Whether `num / den` is at least ten to the power `k`. -/
def atLeastPower (num den : Nat) (k : Int) : Bool :=
  den * Nat.pow 10 k.toNat ≤ num * Nat.pow 10 (-k).toNat

/-- How many digits stand before the decimal point of a positive quotient; negative if zeros follow the
point. The estimate from the binary logarithms is off by at most one. -/
def pointPosition (num den : Nat) : Int :=
  let estimate := ((num.log2 : Int) - den.log2) * 30103 / 100000
  if atLeastPower num den (estimate + 1) then estimate + 2
  else if atLeastPower num den estimate then estimate + 1
  else estimate

/-- The reals that round to a number, in quarters of the unit of its significand. -/
structure Interval where
  low : Nat
  value : Nat
  high : Nat
  /-- Whether the ends round to the number too. -/
  closed : Bool

/-- The reals that round to a finite nonzero number. The gap below is half as wide when the number is the
least of its power of two. -/
def interval (x : Binary64) : Interval :=
  let m := x.significand
  let narrow := m == impliedBit && 2 * impliedBit ≤ x.magnitude
  ⟨4 * m - (if narrow then 1 else 2), 4 * m, 4 * m + 2, m % 2 == 0⟩

/-- Whether `n * a`, against `b` times a quarter unit, lies in the interval. -/
def Interval.contains (i : Interval) (a b n : Nat) : Bool :=
  if i.closed then i.low * b ≤ n * a && n * a ≤ i.high * b
  else i.low * b < n * a && n * a < i.high * b

/-- The decimal of the interval on the grid of multiples of `10 ^ power` that is closest to its value;
of two equally close, the even one. `unit` is the binary exponent of a quarter unit. -/
def Interval.decimalOn? (i : Interval) (unit power : Int) : Option Nat :=
  let a := Nat.pow 10 power.toNat * Nat.pow 2 (-unit).toNat
  let b := Nat.pow 2 unit.toNat * Nat.pow 10 (-power).toNat
  let below := i.value * b / a
  let above := below + 1
  match i.contains a b below, i.contains a b above with
  | true, true =>
    let down := i.value * b - below * a
    let up := above * a - i.value * b
    if down < up then some below
    else if up < down then some above
    else some (below + below % 2)
  | true, false => some below
  | false, true => some above
  | false, false => none

/-- A decimal without the zeros it ends with. Each step takes a factor of ten, so `fuel` need not exceed
the number of digits. -/
def dropZeros (fuel : Nat) (digits : Nat) (power : Int) : Nat × Int :=
  match fuel with
  | 0 => (digits, power)
  | fuel + 1 =>
    if digits % 10 = 0 then dropZeros fuel (digits / 10) (power + 1) else (digits, power)

/-- The digits of a finite number, as a whole number, and the power of ten they are multiplied by. The
sign is left out, and zero is zero times one. Seventeen digits are enough for every number. -/
def shortest (x : Binary64) : Nat × Int :=
  if x.isZero then (0, 0)
  else
    let unit := x.exponent - 2
    let i := x.interval
    let point := pointPosition (i.value * Nat.pow 2 unit.toNat) (Nat.pow 2 (-unit).toNat)
    let found := (List.range 17).findSome? fun (places : Nat) =>
      let power := point - (places + 1)
      (i.decimalOn? unit power).map fun digits => (digits, power)
    match found with
    | some (digits, power) => dropZeros 17 digits power
    | none => (0, 0)

end Archetype.Binary64
