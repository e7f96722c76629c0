import Archetype.Text.Ranges

/-!
# Blanks

The White_Space property, and cutting blanks off both ends of a text.

* **`isBlank`** — the White_Space property. The byte-order mark and the zero-width space are not in it.
* **`trim`** — a text without its leading and trailing blanks.
-/

namespace Archetype.Text

/-- The code ranges with the White_Space property. -/
def blankRanges : List (Nat × Nat) :=
  [(0x0009, 0x000D), (0x0020, 0x0020), (0x0085, 0x0085), (0x00A0, 0x00A0), (0x1680, 0x1680),
   (0x2000, 0x200A), (0x2028, 0x2029), (0x202F, 0x202F), (0x205F, 0x205F), (0x3000, 0x3000)]

/-- The White_Space property. -/
def isBlank (c : Char) : Bool :=
  inRanges blankRanges c.toNat

/-- The text without the blanks it starts and ends with. -/
def trim (cs : List Char) : List Char :=
  ((cs.dropWhile isBlank).reverse.dropWhile isBlank).reverse

/-- `trim` on strings. -/
def trimmed (s : String) : String :=
  String.ofList (trim s.toList)

/-- Whether the text is empty or holds blanks alone. -/
def allBlank (s : String) : Bool :=
  s.toList.all isBlank

end Archetype.Text
