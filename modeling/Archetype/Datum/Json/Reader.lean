import Archetype.Text.Digits
import Archetype.Text.Mark

/-!
# Reading JSON

* **`Json.Tree`** — what a JSON text says, as far as settings need it: the value of a number is dropped, and a
  text that is not made of whole characters has none.
* **`Json.read`** — the tree of a text that holds one value and blanks around it.
-/

namespace Archetype.Json

open Text

/-- A value read from JSON. A text has no string when an escape in it stands for half a character. -/
inductive Tree
  | null
  | bool (value : Bool)
  | number
  | text (value : Option String)
  | list (items : List Tree)
  | record (entries : List (Option String × Tree))

namespace Reader

/-- The four characters that may stand between the parts of a text. -/
def isSpace (c : Char) : Bool :=
  c == ' ' || c == '\t' || c == '\n' || c == '\r'

/-- The text after the blanks at its front. -/
def skip (cs : List Char) : List Char :=
  cs.dropWhile isSpace

/-! ## Texts -/

/-- A unit of an escaped text: a character, or half of one. -/
inductive Piece
  | char (c : Char)
  /-- The first half of a character of the planes above the first. -/
  | high (code : Nat)
  /-- The second half. -/
  | low (code : Nat)

/-- The piece that a four-digit code stands for. -/
def Piece.ofCode (n : Nat) : Piece :=
  if 0xD800 ≤ n ∧ n < 0xDC00 then .high n
  else if 0xDC00 ≤ n ∧ n < 0xE000 then .low n
  else .char (Char.ofNat n)

/-- The escapes of one letter. -/
def letterEscape : Char → Option Char
  | '"' => some '"'
  | '\\' => some '\\'
  | '/' => some '/'
  | 'b' => some '\x08'
  | 'f' => some '\x0c'
  | 'n' => some '\n'
  | 'r' => some '\r'
  | 't' => some '\t'
  | _ => none

/-- The pieces of a text up to its closing quote, and what follows the quote. -/
def pieces : List Char → Option (List Piece × List Char)
  | [] => none
  | '"' :: rest => some ([], rest)
  | '\\' :: 'u' :: a :: b :: c :: d :: rest => do
    let code ← readNat 16 [a, b, c, d]
    let (more, rest) ← pieces rest
    return (.ofCode code :: more, rest)
  | '\\' :: c :: rest => do
    let e ← letterEscape c
    let (more, rest) ← pieces rest
    return (.char e :: more, rest)
  | c :: rest =>
    if c.toNat < 0x20 then none
    else do
      let (more, rest) ← pieces rest
      return (.char c :: more, rest)

/-- The characters the pieces make, if no half is alone. -/
def join : List Piece → Option (List Char)
  | [] => some []
  | .char c :: rest => (join rest).map (c :: ·)
  | .high h :: .low l :: rest =>
    (join rest).map (Char.ofNat (0x10000 + (h - 0xD800) * 0x400 + (l - 0xDC00)) :: ·)
  | _ => none

/-- A text whose opening quote has been read. -/
def text (cs : List Char) : Option (Option String × List Char) :=
  (pieces cs).map fun (found, rest) => ((join found).map String.ofList, rest)

/-! ## Numbers -/

def isDigit (c : Char) : Bool :=
  (digitValue 10 c).isSome

/-- The text after one or more digits. -/
def digits : List Char → Option (List Char)
  | [] => none
  | c :: cs => if isDigit c then some (cs.dropWhile isDigit) else none

/-- The text after the whole part of a number, which has no zeros at its front. -/
def wholePart : List Char → Option (List Char)
  | '0' :: cs => some cs
  | cs => digits cs

/-- The text after a fraction, if there is one. -/
def fraction : List Char → Option (List Char)
  | '.' :: cs => digits cs
  | cs => some cs

/-- The text after an exponent, if there is one. -/
def exponent : List Char → Option (List Char)
  | c :: cs =>
    if c = 'e' ∨ c = 'E' then
      match cs with
      | '+' :: ds => digits ds
      | '-' :: ds => digits ds
      | ds => digits ds
    else some (c :: cs)
  | [] => some []

/-- The text after a number. -/
def number (cs : List Char) : Option (List Char) := do
  let unsigned := match cs with
    | '-' :: rest => rest
    | rest => rest
  exponent (← fraction (← wholePart unsigned))

/-! ## Values -/

mutual

/-- The value at the front of a text, and the text after it. Every part of a value takes a character, so
`fuel` need not exceed the length of the text. -/
def value (fuel : Nat) (cs : List Char) : Option (Tree × List Char) :=
  match fuel with
  | 0 => none
  | fuel + 1 =>
    match skip cs with
    | [] => none
    | '"' :: rest => (text rest).map fun (s, rest) => (.text s, rest)
    | '[' :: rest =>
      match skip rest with
      | ']' :: rest => some (.list [], rest)
      | rest => (items fuel rest).map fun (xs, rest) => (.list xs, rest)
    | '\x7b' :: rest =>
      match skip rest with
      | '\x7d' :: rest => some (.record [], rest)
      | rest => (entries fuel rest).map fun (xs, rest) => (.record xs, rest)
    | c :: rest =>
      match dropMark "null".toList (c :: rest), dropMark "true".toList (c :: rest),
        dropMark "false".toList (c :: rest) with
      | some rest, _, _ => some (.null, rest)
      | _, some rest, _ => some (.bool true, rest)
      | _, _, some rest => some (.bool false, rest)
      | none, none, none => (number (c :: rest)).map fun rest => (.number, rest)

/-- The items of a list up to its closing bracket. -/
def items (fuel : Nat) (cs : List Char) : Option (List Tree × List Char) :=
  match fuel with
  | 0 => none
  | fuel + 1 => do
    let (item, rest) ← value fuel cs
    match skip rest with
    | ',' :: rest => do
      let (more, rest) ← items fuel rest
      return (item :: more, rest)
    | ']' :: rest => return ([item], rest)
    | _ => none

/-- The entries of a record up to its closing brace. -/
def entries (fuel : Nat) (cs : List Char) : Option (List (Option String × Tree) × List Char) :=
  match fuel with
  | 0 => none
  | fuel + 1 =>
    match skip cs with
    | '"' :: rest => do
      let (name, rest) ← text rest
      match skip rest with
      | ':' :: rest => do
        let (item, rest) ← value fuel rest
        match skip rest with
        | ',' :: rest => do
          let (more, rest) ← entries fuel rest
          return ((name, item) :: more, rest)
        | '\x7d' :: rest => return ([(name, item)], rest)
        | _ => none
      | _ => none
    | _ => none

end

end Reader

/-- The value of a text. -/
def read (s : String) : Option Tree :=
  match Reader.value (s.length + 1) s.toList with
  | some (tree, rest) => if (Reader.skip rest).isEmpty then some tree else none
  | none => none

end Archetype.Json
