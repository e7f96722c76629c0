/-!
# Tokens

A document is read as a row of tokens, each a lexeme and the byte offsets it spans.

* **`Lexeme`** — what a token is. Content, between tags, is made of text, sections and tag openers; a
  tag, from its opener to its closer, of names, values, equals signs and blanks.
* **`Token`** — a lexeme with the offsets of its first byte and of the byte after its last.
-/

namespace Archetype.Markup

/-- What a token is. -/
inductive Lexeme
  /-- The end of the text. -/
  | eof
  /-- A run of blanks inside a tag. -/
  | whitespace
  /-- A comment, with its body trimmed. -/
  | comment (body : String)
  /-- A processing instruction or a declaration. -/
  | declaration
  /-- A piece of text that begins nothing known. -/
  | unknown
  /-- Character data, its references decoded. -/
  | text (value : String)
  /-- The body of a character data section, as it is written. -/
  | cdata (body : String)
  /-- The name of an element or of an attribute. -/
  | name (value : String)
  /-- A quoted attribute value, its references decoded. -/
  | attrValue (value : String)
  /-- The `<` that opens a tag. -/
  | tagOpen
  /-- The `</` that opens a closing tag. -/
  | closeTagOpen
  /-- The `>` that ends a tag. -/
  | tagClose
  /-- The `/>` that ends the tag of an empty element. -/
  | emptyTagClose
  /-- The `=` between an attribute and its value. -/
  | equals
deriving DecidableEq, Repr

/-- A lexeme at its place: `start` is the offset of its first byte, `stop` that of the byte after. -/
structure Token where
  lexeme : Lexeme
  start : Nat
  stop : Nat
deriving DecidableEq, Repr

namespace Lexeme

/-- The name a lexeme's kind goes by, also in reports of what was expected. -/
def kindName : Lexeme → String
  | eof => "Eof"
  | whitespace => "Whitespace"
  | comment _ => "Comment"
  | declaration => "Declaration"
  | unknown => "Unknown"
  | text _ => "Text"
  | cdata _ => "CData"
  | name _ => "Name"
  | attrValue _ => "AttrValue"
  | tagOpen => "TagOpen"
  | closeTagOpen => "CloseTagOpen"
  | tagClose => "TagClose"
  | emptyTagClose => "EmptyTagClose"
  | equals => "Equals"

/-- The text a lexeme carries, for the kinds that carry one. -/
def payload? : Lexeme → Option String
  | comment body => some body
  | text value => some value
  | cdata body => some body
  | name value => some value
  | attrValue value => some value
  | _ => none

/-- Blanks, comments and declarations say nothing about the tree. -/
def isFiller : Lexeme → Bool
  | whitespace => true
  | comment _ => true
  | declaration => true
  | _ => false

end Lexeme

end Archetype.Markup
