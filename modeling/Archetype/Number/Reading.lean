import Archetype.Number.Nearest
import Archetype.Text.Digits

/-!
# Reading decimal numbers

* **`readInt`** — a whole number: an optional sign and one or more digits.
* **`readInt64`** — one that fits in 64 bits.
* **`readBinary64`** — a floating-point number: an optional sign, digits with or without a point, of which
  there is at least one, and an optional exponent; or, in either case, one of the words `inf`,
  `infinity` and `nan`.
-/

namespace Archetype

open Text

/-- An optional sign, as whether it is a minus, and the text after it. -/
def readSign : List Char → Bool × List Char
  | '-' :: cs => (true, cs)
  | '+' :: cs => (false, cs)
  | cs => (false, cs)

/-- The number with the sign put back. -/
def signed (negative : Bool) (n : Nat) : Int :=
  if negative then -n else n

/-- A whole number. -/
def readInt (cs : List Char) : Option Int :=
  let (negative, digits) := readSign cs
  (readNat 10 digits).map (signed negative)

/-- A whole number that fits in 64 bits with a sign. -/
def readInt64 (cs : List Char) : Option Int :=
  (readInt cs).filter fun n => -0x8000000000000000 ≤ n ∧ n < 0x8000000000000000

/-- Whether the character is one of the ten digits. -/
def isDigit (c : Char) : Bool :=
  (digitValue 10 c).isSome

/-- The exponent part after the digits; no text means the exponent zero. -/
def readExponent : List Char → Option Int
  | [] => some 0
  | c :: cs => if c = 'e' ∨ c = 'E' then readInt cs else none

/-- The digits after a point, if there is one, and the text after them. -/
def readFraction : List Char → List Char × List Char
  | '.' :: cs => (cs.takeWhile isDigit, cs.dropWhile isDigit)
  | cs => ([], cs)

/-- The words that stand for a number without digits. -/
def readNumberWord (negative : Bool) (cs : List Char) : Option Binary64 :=
  let word := cs.map Char.toLower
  if word = "inf".toList ∨ word = "infinity".toList then some (.infinity negative)
  else if word = "nan".toList then some .nan
  else none

/-- A floating-point number. -/
def readBinary64 (cs : List Char) : Option Binary64 :=
  let (negative, cs) := readSign cs
  let whole := cs.takeWhile isDigit
  let (fraction, tail) := readFraction (cs.dropWhile isDigit)
  match readNat 10 (whole ++ fraction), readExponent tail with
  | some digits, some exponent =>
    some (.ofDecimal negative digits (exponent - fraction.length))
  | _, _ => readNumberWord negative cs

end Archetype
