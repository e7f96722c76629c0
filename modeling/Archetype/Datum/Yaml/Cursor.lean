/-!
# Places in a YAML document

Where a thing stands matters as much as what it is: depth is told by columns, and a key must be short and
stand on one line.

* **`Yaml.Place`** — a line, and how far into it.
* **`Yaml.Cursor`** — what is left of a document, and where that is.
* **`Yaml.Cursor.skip`** — the place of the next thing that is neither blank nor a comment.
-/

namespace Archetype.Yaml

/-! ## Characters -/

/-- The characters that end a line, in a text whose line feeds and carriage returns have been made alike. -/
def isLineEnd (c : Char) : Bool :=
  c == '\n' || c == '\u2028' || c == '\u2029'

/-- The characters that may stand between words of a line. -/
def isGapChar (c : Char) : Bool :=
  c == ' ' || c == '\t'

/-- Whether a text begins with something that ends a mark: a blank, the end of the line or of the document. -/
def startsBlank : List Char → Bool
  | [] => true
  | c :: _ => isGapChar c || isLineEnd c

/-- Whether a text begins with a mark that starts or ends a document. -/
def startsMarker : List Char → Bool
  | '-' :: '-' :: '-' :: cs => startsBlank cs
  | '.' :: '.' :: '.' :: cs => startsBlank cs
  | _ => false

/-- Whether nothing but blanks and a comment are on the rest of a line. -/
def startsVoid (cs : List Char) : Bool :=
  match cs.dropWhile isGapChar with
  | [] => true
  | c :: _ => c == '#' || isLineEnd c

/-! ## Places -/

/-- A place in a document. Lines, columns and bytes are counted from zero. -/
structure Place where
  line : Nat
  /-- The characters before it on its line. -/
  column : Nat
  /-- The bytes that these characters take. -/
  bytes : Nat
deriving DecidableEq, Repr

namespace Place

/-- The place after a character. -/
def after (p : Place) (c : Char) : Place :=
  if isLineEnd c then ⟨p.line + 1, 0, 0⟩ else ⟨p.line, p.column + 1, p.bytes + c.utf8Size⟩

/-- The place after some characters. -/
def afterAll (p : Place) (cs : List Char) : Place :=
  cs.foldl after p

end Place

/-! ## Cursors -/

/-- What is left of a document. -/
structure Cursor where
  /-- The text from here on. -/
  rest : List Char
  place : Place
  /-- Whether a key, or the mark of an item or an entry, may stand here. -/
  fresh : Bool

namespace Cursor

/-- The start of a document. -/
def start (text : List Char) : Cursor :=
  ⟨text, ⟨0, 0, 0⟩, true⟩

/-- The column of the place. -/
def column (c : Cursor) : Nat :=
  c.place.column

/-- The place after some characters, where no key may stand. -/
def past (c : Cursor) (count : Nat) : Cursor :=
  ⟨c.rest.drop count, c.place.afterAll (c.rest.take count), false⟩

/-- Skips blanks, ends of lines and comments, and a byte-order mark at the start of a line. Outside brackets a
line end makes room for a key, and a tab does not count as a blank where a key may stand, so that depth is told
by spaces alone. -/
def skipFrom (bracketed comment : Bool) (p : Place) (fresh : Bool) : List Char → Cursor
  | [] => ⟨[], p, fresh⟩
  | c :: cs =>
    if isLineEnd c then skipFrom bracketed false (p.after c) (fresh || !bracketed) cs
    else if comment ∨ p.column = 0 ∧ c = '\ufeff' then skipFrom bracketed comment (p.after c) fresh cs
    else if c = ' ' ∨ c = '\t' ∧ (bracketed ∨ ¬fresh) then skipFrom bracketed false (p.after c) fresh cs
    else if c = '#' then skipFrom bracketed true (p.after c) fresh cs
    else ⟨c :: cs, p, fresh⟩

/-- The place of the next thing that is neither blank nor a comment. -/
def skip (c : Cursor) (bracketed : Bool) : Cursor :=
  skipFrom bracketed false c.place c.fresh c.rest

/-- Whether a document starts or ends here with its marker. -/
def atMarker (c : Cursor) : Bool :=
  c.column == 0 && startsMarker c.rest

end Cursor

end Archetype.Yaml
