/-!
# Binary floating point

The 64-bit binary numbers: a sign bit, eleven exponent bits and 52 fraction bits. No arithmetic is done
on them; they are read, compared and written.

* **`Binary64`** — a number by its bits, so that equality of the type tells the two zeros apart.
* **`Binary64.same`** — numeric equality: the two zeros are the same number, and a NaN is the same as
  nothing, itself included.
* **`Binary64.significand`**, **`Binary64.exponent`** — a finite number is its significand times two to its
  exponent.
-/

namespace Archetype

/-- A 64-bit binary floating-point number. -/
structure Binary64 where
  bits : UInt64
deriving DecidableEq, Repr

namespace Binary64

/-- The bit that is the sign. -/
def signBit : Nat := 0x8000000000000000

/-- The bit above the fraction, which is implied in most significands. -/
def impliedBit : Nat := 0x10000000000000

/-- The bits of the magnitude of infinity; larger ones are NaNs. -/
def infinityMagnitude : Nat := 0x7FF0000000000000

/-- Whether the sign bit is set. -/
def isNegative (x : Binary64) : Bool :=
  signBit ≤ x.bits.toNat

/-- The bits below the sign, as a number. Magnitudes are ordered as the numbers are. -/
def magnitude (x : Binary64) : Nat :=
  x.bits.toNat % signBit

def isNaN (x : Binary64) : Bool :=
  infinityMagnitude < x.magnitude

def isInfinite (x : Binary64) : Bool :=
  x.magnitude == infinityMagnitude

def isZero (x : Binary64) : Bool :=
  x.magnitude == 0

/-- The number with the given sign and magnitude bits. -/
def ofMagnitude (negative : Bool) (magnitude : Nat) : Binary64 :=
  ⟨.ofNat ((if negative then signBit else 0) + magnitude)⟩

/-- The zero of the given sign. -/
def zero (negative : Bool) : Binary64 :=
  ofMagnitude negative 0

/-- The infinity of the given sign. -/
def infinity (negative : Bool) : Binary64 :=
  ofMagnitude negative infinityMagnitude

/-- A NaN. -/
def nan : Binary64 :=
  ofMagnitude false (infinityMagnitude + impliedBit / 2)

/-- Numeric equality. -/
def same (x y : Binary64) : Bool :=
  !x.isNaN && !y.isNaN && (x.bits == y.bits || x.isZero && y.isZero)

/-- The whole number that a finite number is a power of two times of. The leading bit is implied unless
the exponent bits are all zero. -/
def significand (x : Binary64) : Nat :=
  let fraction := x.magnitude % impliedBit
  if x.magnitude < impliedBit then fraction else impliedBit + fraction

/-- The power of two that goes with the significand. -/
def exponent (x : Binary64) : Int :=
  (max (x.magnitude / impliedBit) 1 : Nat) - 1075

/-! ## Numeric equality -/

theorem same_comm (x y : Binary64) : x.same y = y.same x := by
  unfold same
  rw [Bool.and_comm (!x.isNaN), Bool.and_comm x.isZero,
    show (x.bits == y.bits) = (y.bits == x.bits) from Bool.beq_comm]

/-- Only a NaN differs from itself. -/
theorem same_self (x : Binary64) : x.same x = !x.isNaN := by
  simp [same]

theorem isZero_eq_of_bits {x y : Binary64} (h : x.bits = y.bits) : x.isZero = y.isZero := by
  simp [isZero, magnitude, h]

theorem same_trans {x y z : Binary64} (hxy : x.same y = true) (hyz : y.same z = true) :
    x.same z = true := by
  simp only [same, Bool.and_eq_true, Bool.or_eq_true, beq_iff_eq] at *
  obtain ⟨⟨hx, -⟩, hxy⟩ := hxy
  obtain ⟨⟨-, hz⟩, hyz⟩ := hyz
  refine ⟨⟨hx, hz⟩, ?_⟩
  rcases hxy with hxy | ⟨hx0, hy0⟩
  · rcases hyz with hyz | ⟨hy0, hz0⟩
    · exact Or.inl (hxy.trans hyz)
    · exact Or.inr ⟨(isZero_eq_of_bits hxy).trans hy0, hz0⟩
  · rcases hyz with hyz | ⟨-, hz0⟩
    · exact Or.inr ⟨hx0, (isZero_eq_of_bits hyz) ▸ hy0⟩
    · exact Or.inr ⟨hx0, hz0⟩

end Binary64

end Archetype
