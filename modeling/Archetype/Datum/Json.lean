import Archetype.Datum.Basic
import Archetype.Number.Notation

/-!
# JSON

* **`Json.quote`** — a text between quotes. Quotes, backslashes and controls are escaped and all else is
  written as it is.
* **`Json.compact`** — a datum without blanks.
* **`Json.pretty`** — a datum with one entry or item a line, indented by two spaces a level.

An empty list or record is written without a line break in either form. Numbers that are not finite have
no place in the format and are written as `null`.
-/

namespace Archetype.Json

/-- A lower-case hexadecimal digit. -/
def hexDigit (n : Nat) : Char :=
  if n < 10 then Char.ofNat ('0'.toNat + n) else Char.ofNat ('a'.toNat + (n - 10))

/-- The characters a character is written as between quotes. -/
def escape (c : Char) : List Char :=
  if c = '"' then ['\\', '"']
  else if c = '\\' then ['\\', '\\']
  else if c = '\x08' then ['\\', 'b']
  else if c = '\t' then ['\\', 't']
  else if c = '\n' then ['\\', 'n']
  else if c = '\x0c' then ['\\', 'f']
  else if c = '\r' then ['\\', 'r']
  else if c.toNat < 0x20 then
    ['\\', 'u', '0', '0', hexDigit (c.toNat / 16), hexDigit (c.toNat % 16)]
  else [c]

/-- The text between quotes. -/
def quote (s : String) : String :=
  String.ofList ('"' :: (s.toList.flatMap escape ++ ['"']))

/-- Positional notation up to sixteen digits before the point and from five zeros after it; a positive
exponent has a plus sign. -/
def floatLayout : FloatLayout :=
  ⟨-5, 15, "+"⟩

/-- A floating-point number. -/
def float (x : Binary64) : String :=
  if x.isNaN || x.isInfinite then "null" else floatLayout.write x

/-- A truth value. -/
def bool (b : Bool) : String :=
  if b then "true" else "false"

mutual

/-- A datum without blanks. -/
def compact : Datum → String
  | .null => "null"
  | .bool b => bool b
  | .int n => toString n
  | .float x => float x
  | .text s => quote s
  | .list items => "[" ++ ",".intercalate (compactItems items) ++ "]"
  | .record entries => "\x7b" ++ ",".intercalate (compactEntries entries) ++ "\x7d"

/-- The items of a list, each without blanks. -/
def compactItems : List Datum → List String
  | [] => []
  | item :: items => compact item :: compactItems items

/-- The entries of a record, each without blanks. -/
def compactEntries : List (String × Datum) → List String
  | [] => []
  | (name, value) :: entries => (quote name ++ ":" ++ compact value) :: compactEntries entries

end

/-- A line break and the indentation of the given level. -/
def newline (level : Nat) : String :=
  String.ofList ('\n' :: List.replicate (2 * level) ' ')

/-- Parts on lines of their own between two brackets, or just the brackets. -/
def bracketed (level : Nat) (opening closing : String) (parts : List String) : String :=
  if parts.isEmpty then opening ++ closing
  else
    opening ++ newline (level + 1) ++ ("," ++ newline (level + 1)).intercalate parts ++
      newline level ++ closing

mutual

/-- A datum on lines of its own, from the given level of indentation on. -/
def prettyAt (level : Nat) : Datum → String
  | .null => "null"
  | .bool b => bool b
  | .int n => toString n
  | .float x => float x
  | .text s => quote s
  | .list items => bracketed level "[" "]" (prettyItems (level + 1) items)
  | .record entries => bracketed level "\x7b" "\x7d" (prettyEntries (level + 1) entries)

/-- The items of a list. -/
def prettyItems (level : Nat) : List Datum → List String
  | [] => []
  | item :: items => prettyAt level item :: prettyItems level items

/-- The entries of a record. -/
def prettyEntries (level : Nat) : List (String × Datum) → List String
  | [] => []
  | (name, value) :: entries =>
    (quote name ++ ": " ++ prettyAt level value) :: prettyEntries level entries

end

/-- A datum with one entry or item a line. -/
def pretty (d : Datum) : String :=
  prettyAt 0 d

end Archetype.Json
