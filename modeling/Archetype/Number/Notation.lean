import Archetype.Number.Shortest

/-!
# How a floating-point number is laid out

Digits and a power of ten become text in positional notation while the number is neither large nor
small, and in scientific notation beyond. Either way the text cannot be taken for a whole number: it has
a decimal point or an exponent.

* **`FloatLayout`** — what a format decides: the range of positional notation and the sign of a positive
  exponent.
* **`FloatLayout.write`** — the text of a finite number.
-/

namespace Archetype

/-- What a format decides about floating-point numbers. -/
structure FloatLayout where
  /-- The least and the greatest decimal exponent written positionally. -/
  positionalFrom : Int
  positionalTo : Int
  /-- What stands before the digits of a positive exponent. -/
  plusSign : String

namespace FloatLayout

/-- The given number of zeros. -/
def zeros (n : Nat) : String :=
  String.ofList (List.replicate n '0')

/-- `digits`, times ten to `power`, with a decimal point. -/
def positional (digits : String) (power : Int) : String :=
  let point := (digits.length : Int) + power
  if 0 ≤ power then digits ++ zeros power.toNat ++ ".0"
  else if 0 < point then
    String.ofList (digits.toList.take point.toNat) ++ "." ++
      String.ofList (digits.toList.drop point.toNat)
  else "0." ++ zeros (-point).toNat ++ digits

/-- `digits`, with a point after the first, and the exponent. -/
def scientific (layout : FloatLayout) (digits : String) (exponent : Int) : String :=
  let mantissa := match digits.toList with
    | [] => ""
    | [c] => String.ofList [c]
    | c :: cs => String.ofList (c :: '.' :: cs)
  let sign := if exponent < 0 then "-" else layout.plusSign
  mantissa ++ "e" ++ sign ++ toString exponent.natAbs

/-- The text of a finite number. -/
def write (layout : FloatLayout) (x : Binary64) : String :=
  let (n, power) := x.shortest
  let digits := toString n
  let exponent := (digits.length : Int) - 1 + power
  let sign := if x.isNegative then "-" else ""
  if layout.positionalFrom ≤ exponent ∧ exponent ≤ layout.positionalTo then
    sign ++ positional digits power
  else sign ++ layout.scientific digits exponent

end FloatLayout

end Archetype
