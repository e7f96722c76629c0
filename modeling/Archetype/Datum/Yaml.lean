import Archetype.Datum.Basic
import Archetype.Number.Notation
import Archetype.Number.Reading
import Archetype.Text.Bytes

/-!
# YAML

Records and lists are written in block style, one entry or item a line, an item after a hyphen and a list
that is the value of an entry no deeper than the entry's key. Lines are never folded.

* **`Yaml.looksTyped`** — the texts that a reader could take for something other than a text.
* **`Yaml.Style.of`** — how a text is written: plain where that is safe, else between single quotes, else
  between double quotes; a text of several lines as a literal block where that is possible.
* **`Yaml.write`** — a datum as a document.
-/

namespace Archetype.Yaml

open Text

/-! ## Texts that look like something else -/

/-- A zero and further digits, with or without a sign: digits, but no number. -/
def isZeroPadded (cs : List Char) : Bool :=
  match (readSign cs).2 with
  | '0' :: c :: digits => (c :: digits).all isDigit
  | _ => false

/-- A whole number in hexadecimal, octal or binary digits, marked as such after its sign. -/
def isBasedInt (cs : List Char) : Bool :=
  let (negative, cs) := readSign cs
  let limit := if negative then Nat.pow 2 127 + 1 else Nat.pow 2 128
  let value := match cs with
    | '0' :: 'x' :: digits => readNat 16 digits
    | '0' :: 'o' :: digits => readNat 8 digits
    | '0' :: 'b' :: digits => readNat 2 digits
    | _ => none
  (value.filter (· < limit)).isSome

/-- A number in decimal notation that is finite. -/
def isFiniteNumber (cs : List Char) : Bool :=
  match readBinary64 cs with
  | some x => !x.isNaN && !x.isInfinite
  | none => false

/-- The words that stand for something other than a text. -/
def typedWords : List String :=
  ["", "~", "null", "Null", "NULL", "true", "True", "TRUE", "false", "False", "FALSE",
   ".inf", ".Inf", ".INF", "+.inf", "+.Inf", "+.INF", "-.inf", "-.Inf", "-.INF",
   ".nan", ".NaN", ".NAN"]

/-- Whether a reader could take the text for something other than a text. -/
def looksTyped (cs : List Char) : Bool :=
  typedWords.contains (String.ofList cs) || isBasedInt cs || isZeroPadded cs || isFiniteNumber cs

/-! ## The shape of a text -/

/-- The characters that end a line. -/
def isBreak (c : Char) : Bool :=
  c == '\n' || c == '\r' || c == '\x85' || c == '\u2028' || c == '\u2029'

/-- The characters that separate a mark from what follows it. -/
def isSeparator (c : Char) : Bool :=
  c == ' ' || c == '\t' || isBreak c

/-- The characters that may stand in a document as themselves. -/
def isPlainChar (c : Char) : Bool :=
  let n := c.toNat
  n == 0x0A || (0x20 ≤ n && n ≤ 0x7E) || (0xA0 ≤ n && n ≤ 0xFFFD && n != 0xFEFF) || 0x10000 ≤ n

/-- The marks that no plain text starts with. -/
def openingMarks : List Char :=
  ['#', ',', '[', ']', '\x7b', '\x7d', '&', '*', '!', '|', '>', '\'', '"', '%', '@', '\x60']

/-- Whether what follows separates: a separator, or the end of the text. -/
def separates : List Char → Bool
  | [] => true
  | c :: _ => isSeparator c

/-- Whether a colon that ends a key or a hash sign that starts a comment stands after the first
character; `previous` is the character before. -/
def hasInnerMark (previous : Char) : List Char → Bool
  | [] => false
  | c :: cs =>
    (c == ':' && separates cs) || (c == '#' && isSeparator previous) || hasInnerMark c cs

/-- Whether the text has a mark where a plain text must not have one. -/
def hasMark (cs : List Char) : Bool :=
  match cs with
  | [] => false
  | c :: rest =>
    openingMarks.contains c ||
      ((c == '?' || c == ':' || c == '-') && separates rest) ||
      cs.take 3 == ['-', '-', '-'] || cs.take 3 == ['.', '.', '.'] ||
      hasInnerMark c rest

/-- Whether two neighbouring characters have the given properties. -/
def hasPair (first second : Char → Bool) : List Char → Bool
  | c :: d :: cs => (first c && second d) || hasPair first second (d :: cs)
  | _ => false

/-- Whether the text can stand without quotes. -/
def plainAllowed (cs : List Char) : Bool :=
  cs.all isPlainChar && !cs.any isBreak && cs.head? != some ' ' && cs.getLast? != some ' ' &&
    !hasMark cs

/-- Whether the text can stand between single quotes, where nothing is escaped. -/
def singleAllowed (cs : List Char) : Bool :=
  cs.all isPlainChar && !hasPair (· == ' ') isBreak cs && !hasPair isBreak (· == ' ') cs

/-- Whether the text can stand as a literal block. -/
def literalAllowed (cs : List Char) : Bool :=
  cs.all isPlainChar && !hasPair (· == ' ') isBreak cs && cs.getLast? != some ' '

/-- The ways to write a text. -/
inductive Style
  | plain
  | single
  | double
  | literal
deriving DecidableEq, Repr

/-- The way the text is written. -/
def Style.of (cs : List Char) : Style :=
  if cs.contains '\n' then
    if literalAllowed cs then .literal else .double
  else if !looksTyped cs && plainAllowed cs then .plain
  else if singleAllowed cs then .single
  else .double

/-! ## Writing texts -/

/-- The spaces that indent by the given number of columns. -/
def indent (columns : Nat) : List Char :=
  List.replicate columns ' '

/-- An upper-case hexadecimal number of the given width. -/
def hex (width n : Nat) : List Char :=
  let digits := (Nat.toDigits 16 n).map Char.toUpper
  List.replicate (width - digits.length) '0' ++ digits

/-- The characters a character is written as between double quotes. -/
def escape (c : Char) : List Char :=
  if c = '\x00' then ['\\', '0']
  else if c = '\x07' then ['\\', 'a']
  else if c = '\x08' then ['\\', 'b']
  else if c = '\t' then ['\\', 't']
  else if c = '\n' then ['\\', 'n']
  else if c = '\x0b' then ['\\', 'v']
  else if c = '\x0c' then ['\\', 'f']
  else if c = '\r' then ['\\', 'r']
  else if c = '\x1b' then ['\\', 'e']
  else if c = '"' then ['\\', '"']
  else if c = '\\' then ['\\', '\\']
  else if c = '\x85' then ['\\', 'N']
  else if c = '\u2028' then ['\\', 'L']
  else if c = '\u2029' then ['\\', 'P']
  else if isPlainChar c then [c]
  else if c.toNat ≤ 0xFF then ['\\', 'x'] ++ hex 2 c.toNat
  else if c.toNat ≤ 0xFFFF then ['\\', 'u'] ++ hex 4 c.toNat
  else ['\\', 'U'] ++ hex 8 c.toNat

/-- The lines of a text, with those that follow a line break indented. A quote is written twice when
`quotes` is set, and a line feed after a line becomes two, so that reading folds them back into one. -/
def singleBody (columns : Nat) (afterBreak : Bool) : List Char → List Char
  | [] => if afterBreak then indent columns else []
  | c :: cs =>
    if isBreak c then
      (if !afterBreak && c == '\n' then ['\n'] else []) ++ c :: singleBody columns true cs
    else
      (if afterBreak then indent columns else []) ++
        (if c = '\'' then ['\'', '\''] else [c]) ++ singleBody columns false cs

/-- The lines of a literal block, each that is not empty indented. -/
def literalBody (columns : Nat) (afterBreak : Bool) : List Char → List Char
  | [] => []
  | c :: cs =>
    if isBreak c then c :: literalBody columns true cs
    else (if afterBreak then indent columns else []) ++ c :: literalBody columns false cs

/-- The marks after the bar of a literal block: the indentation, when the text does not show it itself,
and what becomes of the line breaks at its end. -/
def literalHints (cs : List Char) : List Char :=
  let indentation := match cs with
    | c :: _ => if c == ' ' || isBreak c then ['2'] else []
    | [] => []
  let ending := match cs.reverse with
    | c :: d :: _ => if !isBreak c then ['-'] else if isBreak d then ['+'] else []
    | [c] => if isBreak c then ['+'] else ['-']
    | [] => ['-']
  indentation ++ ending

/-- A text, in a block that is indented by the given number of columns, up to the end of its last line. -/
def text (columns : Nat) (s : String) : String :=
  let cs := s.toList
  let ended := match cs.getLast? with
    | some c => isBreak c
    | none => false
  String.ofList <| match Style.of cs with
    | .plain => cs ++ ['\n']
    | .single => '\'' :: (singleBody (columns + 2) false cs ++ ['\'', '\n'])
    | .double => '"' :: (cs.flatMap escape ++ ['"', '\n'])
    | .literal =>
      '|' :: (literalHints cs ++ '\n' :: literalBody (columns + 2) true cs ++
        (if ended then [] else ['\n']))

/-! ## Writing data -/

/-- Positional notation as in JSON; a positive exponent has no sign. -/
def floatLayout : FloatLayout :=
  ⟨-5, 15, ""⟩

/-- A floating-point number. -/
def float (x : Binary64) : String :=
  if x.isNaN then ".nan"
  else if x.isInfinite then (if x.isNegative then "-.inf" else ".inf")
  else floatLayout.write x

/-- Whether a datum is written on lines of its own when it is part of another. -/
def isBlock : Datum → Bool
  | .list items => !items.isEmpty
  | .record entries => !entries.isEmpty
  | _ => false

/-- Whether a datum is a list with items. -/
def isBlockList : Datum → Bool
  | .list items => !items.isEmpty
  | _ => false

/-- Whether a key fits on the line of its value. -/
def isSimpleKey (name : String) : Bool :=
  !name.toList.any isBreak && byteLength name.toList ≤ 128

/-- The spaces that indent by the given number of columns. -/
def margin (columns : Nat) : String :=
  String.ofList (indent columns)

/-- The key of an entry, up to its colon. A key that does not fit on the line of its value stands after a
question mark. -/
def key (columns : Nat) (name : String) : String :=
  if isSimpleKey name then String.ofList ((text columns name).toList.dropLast) ++ ":"
  else "? " ++ text columns name ++ margin columns ++ ":"

/-- The columns a value's own lines are indented by, as part of an entry. -/
def valueColumns (columns : Nat) (name : String) (value : Datum) : Nat :=
  if isBlock value && !(isSimpleKey name && isBlockList value) then columns + 2 else columns

/-- What stands between the colon of an entry and its value. -/
def valueLead (columns : Nat) (name : String) (value : Datum) : String :=
  if isBlock value && isSimpleKey name then "\n" ++ margin (valueColumns columns name value)
  else " "

/-- The columns an item's own lines are indented by. -/
def itemColumns (columns : Nat) (item : Datum) : Nat :=
  if isBlock item then columns + 2 else columns

mutual

/-- A datum from its first character to the end of its last line, in a block that is indented by the given
number of columns. -/
def block (columns : Nat) : Datum → String
  | .null => "null\n"
  | .bool b => if b then "true\n" else "false\n"
  | .int n => toString n ++ "\n"
  | .float x => float x ++ "\n"
  | .text s => text columns s
  | .list items =>
    if items.isEmpty then "[]\n" else (margin columns).intercalate (blockItems columns items)
  | .record entries =>
    if entries.isEmpty then "\x7b\x7d\n"
    else (margin columns).intercalate (blockEntries columns entries)

/-- The items of a list, each after its hyphen. -/
def blockItems (columns : Nat) : List Datum → List String
  | [] => []
  | item :: items =>
    ("- " ++ block (itemColumns columns item) item) :: blockItems columns items

/-- The entries of a record. -/
def blockEntries (columns : Nat) : List (String × Datum) → List String
  | [] => []
  | (name, value) :: entries =>
    (key columns name ++ valueLead columns name value ++
      block (valueColumns columns name value) value) :: blockEntries columns entries

end

/-- A datum as a document. -/
def write (d : Datum) : String :=
  block 0 d

end Archetype.Yaml
