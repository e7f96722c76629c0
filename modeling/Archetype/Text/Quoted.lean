import Archetype.Text.Printable

/-!
# Quoted text

Names in descriptions of a registry or a prototype stand between quotes, with everything escaped that
would be invisible or would end the quote.

* **`Quoted.escape`** — the characters one character is shown as.
* **`quoted`** — a text between quotes.
-/

namespace Archetype.Text

namespace Quoted

/-- A code in lower-case hexadecimal digits. -/
def hex (n : Nat) : List Char :=
  Nat.toDigits 16 n

/-- The characters a character is shown as: itself if it has a shape of its own, else an escape. -/
def escape (c : Char) : List Char :=
  if c = '\x00' then ['\\', '0']
  else if c = '\t' then ['\\', 't']
  else if c = '\n' then ['\\', 'n']
  else if c = '\r' then ['\\', 'r']
  else if c = '"' then ['\\', '"']
  else if c = '\\' then ['\\', '\\']
  else if extendsGrapheme c || !isPrintable c then
    ['\\', 'u', '\x7b'] ++ hex c.toNat ++ ['\x7d']
  else [c]

end Quoted

/-- The text between quotes. -/
def quoted (s : String) : String :=
  String.ofList ('"' :: (s.toList.flatMap Quoted.escape ++ ['"']))

/-- Quoted texts, between square brackets. -/
def quotedList (names : List String) : String :=
  "[" ++ ", ".intercalate (names.map quoted) ++ "]"

end Archetype.Text
