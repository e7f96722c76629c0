import Archetype.Number.Binary64

/-!
# The nearest binary number

A number written in decimal stands for the closest 64-bit binary number; of two that are equally close,
for the one with an even significand.

* **`roundDiv`** — a quotient rounded to the nearest whole number, a half to the even neighbour.
* **`Binary64.ofRatio`** — the binary number nearest to a quotient of whole numbers.
* **`Binary64.ofDecimal`** — the binary number nearest to a whole number times a power of ten.
-/

namespace Archetype

/-- The quotient rounded to the nearest whole number, a half to the even one. -/
def roundDiv (num den : Nat) : Nat :=
  let quotient := num / den
  let twice := 2 * (num % den)
  if twice < den then quotient
  else if den < twice then quotient + 1
  else quotient + quotient % 2

namespace Binary64

/-- Twice the power `k`, applied to a quotient as far as it is positive to the denominator, and else to
the numerator. -/
def dividedByPower (num den : Nat) (k : Int) : Nat × Nat :=
  (num * Nat.pow 2 (-k).toNat, den * Nat.pow 2 k.toNat)

/-- The greatest power of two that is at most the quotient, by its exponent. -/
def floorLog (num den : Nat) : Int :=
  let k : Int := (num.log2 : Int) - den.log2
  let (n, d) := dividedByPower num den k
  if n < d then k - 1 else k

/-- The number nearest to a positive quotient, with the given sign. Quotients beyond the greatest finite
number give an infinity. -/
def ofRatio (negative : Bool) (num den : Nat) : Binary64 :=
  let exponent := max (floorLog num den - 52) (-1074)
  let (n, d) := dividedByPower num den exponent
  let magnitude := (exponent + 1074).toNat * impliedBit + roundDiv n d
  if infinityMagnitude ≤ magnitude then infinity negative else ofMagnitude negative magnitude

/-- The number nearest to `digits * 10 ^ exponent`, with the given sign. Powers far outside the range of
the type are not computed. -/
def ofDecimal (negative : Bool) (digits : Nat) (exponent : Int) : Binary64 :=
  if digits = 0 then zero negative
  else if 400 < exponent then infinity negative
  else if exponent + digits.log2 < -400 then zero negative
  else if 0 ≤ exponent then ofRatio negative (digits * Nat.pow 10 exponent.toNat) 1
  else ofRatio negative digits (Nat.pow 10 (-exponent).toNat)

end Binary64

end Archetype
