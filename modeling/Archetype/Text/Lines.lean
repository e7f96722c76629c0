import Archetype.Text.Bytes

/-!
# Lines

Where the lines of a text start, and which line and column a byte position falls on. Lines and
columns count from one; a newline belongs to the line it ends.

* **`Lines.ofText`** — the offsets at which the lines of a text start.
* **`Lines.line`** — the number of lines that start at or before a position.
* **`Lines.lineAndColumn`** — the line, and one plus the distance from its start in bytes.
-/

namespace Archetype.Text

/-- The offsets, ascending, at which the lines of a text start; the first is zero. -/
structure Lines where
  starts : List Nat

namespace Lines

/-- The starts of the lines after the first, for characters that begin at `offset`. -/
def startsFrom (offset : Nat) : List Char → List Nat
  | [] => []
  | c :: cs =>
    let next := offset + c.utf8Size
    if c = '\n' then next :: startsFrom next cs else startsFrom next cs

/-- The lines of a text. -/
def ofText (s : String) : Lines :=
  ⟨0 :: startsFrom 0 s.toList⟩

/-- The line that contains the byte position, counted from one. -/
def line (lines : Lines) (position : Nat) : Nat :=
  lines.starts.countP (· ≤ position)

/-- The line of the position, and its column in bytes, both counted from one. -/
def lineAndColumn (lines : Lines) (position : Nat) : Nat × Nat :=
  let number := lines.line position
  (number, position - lines.starts.getD (number - 1) 0 + 1)

end Lines

/-- The line and column of a byte position of a text. -/
def lineAndColumn (s : String) (position : Nat) : Nat × Nat :=
  (Lines.ofText s).lineAndColumn position

end Archetype.Text
