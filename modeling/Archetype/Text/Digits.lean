/-!
# Digits

Reading unsigned numbers written in ASCII digits, to any base up to sixteen.

* **`digitValue`** — the value of one digit, if it is below the base.
* **`readNat`** — the value of a text of one or more digits; any other character refuses the text.
-/

namespace Archetype.Text

/-- What a digit is worth: the letters A to F stand for ten to fifteen in either case. -/
def hexDigit (c : Char) : Option Nat :=
  if '0' ≤ c ∧ c ≤ '9' then some (c.toNat - '0'.toNat)
  else if 'a' ≤ c ∧ c ≤ 'f' then some (c.toNat - 'a'.toNat + 10)
  else if 'A' ≤ c ∧ c ≤ 'F' then some (c.toNat - 'A'.toNat + 10)
  else none

/-- The value of a digit, if it is one to the given base. -/
def digitValue (base : Nat) (c : Char) : Option Nat :=
  (hexDigit c).filter (· < base)

/-- Continues a number whose leading digits are worth `acc`. -/
def readDigits (base acc : Nat) : List Char → Option Nat
  | [] => some acc
  | c :: cs =>
    match digitValue base c with
    | some d => readDigits base (acc * base + d) cs
    | none => none

/-- The value of one or more digits. -/
def readNat (base : Nat) : List Char → Option Nat
  | [] => none
  | c :: cs => readDigits base 0 (c :: cs)

/-- A digit is worth less than the base. -/
theorem lt_of_digitValue {base : Nat} {c : Char} {d : Nat} (h : digitValue base c = some d) :
    d < base := by
  simpa using (Option.filter_eq_some_iff.1 h).2

end Archetype.Text
