import Archetype.Datum.Yaml.Scalar
import Archetype.Datum.Yaml.Token

/-!
# Cutting a YAML document into tokens

A key is known as one only by the colon after it. What may turn out to be a key is remembered until then, and
the token that starts a key, with the one that starts a record if the key is its first, is put in front of it
when the colon is found.

* **`Yaml.Scanner`** — the tokens found so far, and what has to be known to find the next one.
* **`Yaml.Scanner.next`** — the scanner after one more token.
* **`Yaml.tokens`** — the tokens of a document.
-/

namespace Archetype.Yaml

open Text

/-- A place from which a key may have been read. -/
structure PossibleKey where
  place : Place
  /-- How many tokens stand before it. -/
  before : Nat
  /-- Whether nothing else than a key can stand there. -/
  required : Bool
deriving DecidableEq, Repr

/-- The bytes that a key may take, up to its colon. -/
def keyLimit : Nat :=
  1024

/-- Whether a colon at a place is too far away to make it a key. -/
def PossibleKey.isStale (k : PossibleKey) (p : Place) : Bool :=
  k.place.line < p.line || k.place.bytes + keyLimit < p.bytes

/-- A document that is being cut into tokens. -/
structure Scanner where
  cursor : Cursor
  /-- The tokens so far, the last one first. -/
  found : List Token := []
  /-- The columns of the open block lists and block records, the innermost one first. -/
  columns : List Nat := []
  /-- What may be a key, within the innermost brackets. -/
  key : Option PossibleKey := none
  /-- The same for each pair of brackets that encloses them, and outside all, the innermost one first. -/
  outer : List (Option PossibleKey) := []

namespace Scanner

/-- The start of a document. -/
def start (text : List Char) : Scanner :=
  { cursor := .start text }

/-- Whether a bracket is open. -/
def inBrackets (s : Scanner) : Bool :=
  !s.outer.isEmpty

/-- The least column of what is deeper than the innermost block. -/
def depth (s : Scanner) : Nat :=
  match s.columns with
  | [] => 0
  | column :: _ => column + 1

/-- One more token, and the place after it. -/
def emit (s : Scanner) (token : Token) (cursor : Cursor) : Scanner :=
  { s with cursor, found := token :: s.found }

/-- One more token of some characters. A key may follow it where `fresh` is set. -/
def emitMark (s : Scanner) (count : Nat) (token : Token) (fresh : Bool) : Scanner :=
  s.emit token { s.cursor.past count with fresh }

/-- A token in front of those that came after the first few. -/
def insert (s : Scanner) (before : Nat) (token : Token) : Scanner :=
  let later := s.found.length - before
  { s with found := s.found.take later ++ token :: s.found.drop later }

/-! ## Blocks -/

/-- The blocks that are deeper than a column come to their ends, outside brackets. -/
def closeDeeper (s : Scanner) (column : Nat) : Scanner :=
  if s.inBrackets then s
  else
    let closed := s.columns.takeWhile (column < ·)
    { s with
      found := List.replicate closed.length .blockEnd ++ s.found
      columns := s.columns.drop closed.length }

/-- All blocks come to their ends, outside brackets. -/
def closeAll (s : Scanner) : Scanner :=
  if s.inBrackets then s
  else { s with found := List.replicate s.columns.length .blockEnd ++ s.found, columns := [] }

/-- A block starts at a column, in front of the tokens that came after the first few, unless one is open there
or a bracket is. -/
def openBlock (s : Scanner) (column before : Nat) (token : Token) : Scanner :=
  if s.inBrackets || column < s.depth then s
  else { s.insert before token with columns := column :: s.columns }

/-- A block starts here, unless one is open at this column or a bracket is. -/
def openHere (s : Scanner) (token : Token) : Scanner :=
  s.openBlock s.cursor.column s.found.length token

/-! ## Keys -/

/-- What may have been a key is none. -/
def dropKey (s : Scanner) : Option Scanner :=
  if s.key.any (·.required) then none else some { s with key := none }

/-- What comes next may be a key, if one may stand here. Outside brackets it must be one at the column of the
innermost block. -/
def saveKey (s : Scanner) : Option Scanner :=
  if s.cursor.fresh then do
    let required := !s.inBrackets && s.cursor.column + 1 == s.depth
    return { ← s.dropKey with key := some ⟨s.cursor.place, s.found.length, required⟩ }
  else some s

/-- What may have been a key is none where its colon would be too far away. -/
def dropStale (s : Scanner) : Option Scanner :=
  let current (k : PossibleKey) := !k.isStale s.cursor.place
  if (s.key :: s.outer).any (·.any fun k => k.required && !current k) then none
  else some { s with key := s.key.filter current, outer := s.outer.map (·.filter current) }

/-! ## Marks -/

/-- An opening bracket, which may be the start of a key. -/
def openBracket (s : Scanner) (token : Token) : Option Scanner := do
  let s ← s.saveKey
  return { s.emitMark 1 token true with key := none, outer := s.key :: s.outer }

/-- A closing bracket. -/
def closeBracket (s : Scanner) (token : Token) : Option Scanner := do
  let s := (← s.dropKey).emitMark 1 token false
  match s.outer with
  | [] => return s
  | key :: outer => return { s with key, outer }

/-- A comma. -/
def comma (s : Scanner) : Option Scanner := do
  return (← s.dropKey).emitMark 1 .comma true

/-- The hyphen of an item. -/
def hyphen (s : Scanner) : Option Scanner := do
  if s.inBrackets || s.cursor.fresh then
    return (← (s.openHere .listStart).dropKey).emitMark 1 .hyphen true
  else none

/-- The question mark of a key. -/
def question (s : Scanner) : Option Scanner := do
  if s.inBrackets || s.cursor.fresh then
    return (← (s.openHere .recordStart).dropKey).emitMark 1 .key !s.inBrackets
  else none

/-- The colon of a value. -/
def colon (s : Scanner) : Option Scanner :=
  match s.key with
  | some k =>
    let s := (s.insert k.before .key).openBlock k.place.column k.before .recordStart
    some ({ s with key := none }.emitMark 1 .value false)
  | none =>
    if s.inBrackets || s.cursor.fresh then
      some ((s.openHere .recordStart).emitMark 1 .value !s.inBrackets)
    else none

/-! ## Names, tags and scalars -/

/-- The name after an ampersand or an asterisk, and the place after it. -/
def name (c : Cursor) : Option (String × Cursor) :=
  let letters := (c.rest.drop 1).takeWhile isNameChar
  let next := c.past (letters.length + 1)
  if letters.isEmpty then none
  else if startsBlank next.rest || next.rest.head?.any "?:,]\x7d%@\x60".toList.contains then
    some (String.ofList letters, next)
  else none

/-- The mark that gives a node a name, or one that stands for a named node. -/
def named (s : Scanner) (token : String → Token) : Option Scanner := do
  let s ← s.saveKey
  let (name, next) ← name s.cursor
  return s.emit (token name) next

/-- A tag. -/
def tag (s : Scanner) : Option Scanner := do
  let s ← s.saveKey
  let (mark, rest) ← TagMark.read (s.cursor.rest.drop 1)
  if startsBlank rest || s.inBrackets && rest.head? == some ',' then
    return s.emit (.tag mark) (s.cursor.past (s.cursor.rest.length - rest.length))
  else none

/-- A scalar that is written as a block of lines. -/
def blockScalar (s : Scanner) (script : Script) : Option Scanner := do
  let s ← s.dropKey
  let (text, next) ← blockText s.depth s.cursor
  return s.emit (.scalar ⟨text, script⟩) next

/-- A scalar between quotes. -/
def quotedScalar (s : Scanner) : Option Scanner := do
  let s ← s.saveKey
  let (text, next) ← quoted s.cursor
  return s.emit (.scalar ⟨text, .quoted⟩) next

/-- A plain scalar. -/
def plainScalar (s : Scanner) : Option Scanner := do
  let s ← s.saveKey
  let (text, next) ← plain s.inBrackets s.depth s.cursor
  return s.emit (.scalar ⟨text, .plain⟩) next

/-! ## Directives and documents -/

/-- The most digits that a part of a version may have. -/
def versionDigits : Nat :=
  9

/-- A part of a version, and the text after it. -/
def versionPart (cs : List Char) : Option (Nat × List Char) := do
  let isDigit (c : Char) := (digitValue 10 c).isSome
  let digits := cs.takeWhile isDigit
  if digits.length ≤ versionDigits then return (← readNat 10 digits, cs.dropWhile isDigit) else none

/-- The version that a document asks for, and the text after it. -/
def version (cs : List Char) : Option (Token × List Char) := do
  let (major, cs) ← versionPart (cs.dropWhile isGapChar)
  match cs with
  | '.' :: cs =>
    let (minor, cs) ← versionPart cs
    return (.version major minor, cs)
  | _ => none

/-- What a document says about a handle of tags, and the text after it. A handle ends in an exclamation mark. -/
def handle (cs : List Char) : Option (Token × List Char) :=
  match cs.dropWhile isGapChar with
  | '!' :: cs => do
    let letters := cs.takeWhile isNameChar
    let (name, cs) ← match cs.dropWhile isNameChar with
      | '!' :: cs => some (String.ofList ('!' :: (letters ++ ['!'])), cs)
      | cs => if letters.isEmpty then some ("!", cs) else none
    if cs.head?.any isGapChar then
      let (meaning, cs) ← uri₁ true (cs.dropWhile isGapChar)
      if startsBlank cs then return (.handle name (beforeZero meaning), cs) else none
    else none
  | _ => none

/-- A line that says something about the document after it, with its end. No key may stand at the start of the
line that follows, so that a tab is a blank there. -/
def directive (s : Scanner) : Option Scanner := do
  let s ← s.closeAll.dropKey
  let cs := s.cursor.rest.drop 1
  let rest := cs.dropWhile isNameChar
  let (token, rest) ←
    if !startsBlank rest then none
    else if cs.takeWhile isNameChar = "YAML".toList then version rest
    else if cs.takeWhile isNameChar = "TAG".toList then handle rest
    else none
  if startsVoid rest then
    let later := (rest.dropWhile (!isLineEnd ·)).drop 1
    return s.emit token (s.cursor.past (s.cursor.rest.length - later.length))
  else none

/-- A marker of three characters. -/
def marker (s : Scanner) (token : Token) : Option Scanner := do
  return (← s.closeAll.dropKey).emitMark 3 token false

/-! ## All tokens -/

/-- The scanner after the token that starts at its place. -/
def next (s : Scanner) : Option Scanner :=
  match s.cursor.rest with
  | [] => none
  | c :: cs =>
    if s.cursor.column = 0 ∧ c = '%' then s.directive
    else if s.cursor.atMarker then s.marker (if c = '-' then .documentStart else .documentEnd)
    else if c = '[' then s.openBracket .openList
    else if c = '\x7b' then s.openBracket .openRecord
    else if c = ']' then s.closeBracket .closeList
    else if c = '\x7d' then s.closeBracket .closeRecord
    else if c = ',' then s.comma
    else if c = '-' ∧ startsBlank cs then s.hyphen
    else if c = '?' ∧ (s.inBrackets ∨ startsBlank cs) then s.question
    else if c = ':' ∧ (s.inBrackets ∨ startsBlank cs) then s.colon
    else if c = '*' then s.named .alias
    else if c = '&' then s.named .anchor
    else if c = '!' then s.tag
    else if c = '|' ∧ ¬s.inBrackets then s.blockScalar .literal
    else if c = '>' ∧ ¬s.inBrackets then s.blockScalar .folded
    else if c = '\'' ∨ c = '"' then s.quotedScalar
    else s.plainScalar

/-- The tokens so far and those of the rest of the document. Each token but the last takes a character, so that
`fuel` need not exceed the length of the rest by more than one. -/
def run (fuel : Nat) (s : Scanner) : Option (List Token) :=
  match fuel with
  | 0 => none
  | fuel + 1 => do
    let s ← { s with cursor := s.cursor.skip s.inBrackets }.dropStale
    let s := s.closeDeeper s.cursor.column
    if s.cursor.rest.isEmpty then
      return (← s.closeAll.dropKey).found.reverse
    else run fuel (← s.next)

end Scanner

/-- The tokens of a document, if it is made of any. -/
def tokens (text : List Char) : Option (List Token) :=
  (Scanner.start text).run (text.length + 1)

end Archetype.Yaml
