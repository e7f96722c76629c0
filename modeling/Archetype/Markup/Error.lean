import Archetype.Markup.Token

/-!
# Syntax errors

Why a document is not well formed, where, and how that is put into words.

* **`Fault`** — the cause of a refusal.
* **`SyntaxError`** — a fault and the bytes it concerns.
* **`message`**, **`label`**, **`detail`**, **`help?`**, **`code`** — the words: a headline, a note for the place
  itself, the same note for a report without the text, advice, and a stable identifier.
-/

namespace Archetype.Markup

/-- What would have been acceptable where something else was found. -/
inductive Expectation
  | rootElement
  | markup
  | name
  | attributeValue
  | content
  /-- A token of the kind of this lexeme. -/
  | token (lexeme : Lexeme)
deriving DecidableEq, Repr

/-- The words for what was expected. -/
def Expectation.describe : Expectation → String
  | rootElement => "the root element"
  | markup => "markup, not text"
  | name => "a name"
  | attributeValue => "a quoted attribute value"
  | content => "text, an element or a closing tag"
  | token lexeme => lexeme.kindName

/-- Why a document is refused. -/
inductive Fault
  | unexpectedToken (expected : Expectation)
  | unexpectedEnd
  | mismatchedClosingTag (expected found : String)
  | duplicateAttribute (name : String)
  | nestingTooDeep (limit : Nat)
deriving DecidableEq, Repr

namespace Fault

/-- The headline. -/
def message : Fault → String
  | unexpectedToken _ => "Unexpected token"
  | unexpectedEnd => "Unexpected end of file"
  | mismatchedClosingTag _ _ => "Closing tag does not match"
  | duplicateAttribute name => s!"Attribute '{name}' is set twice"
  | nestingTooDeep _ => "Elements nest too deeply"

/-- The stable identifier of the kind of fault. -/
def code : Fault → String
  | unexpectedToken _ => "parser::unexpected_token"
  | unexpectedEnd => "parser::unexpected_eof"
  | mismatchedClosingTag _ _ => "parser::mismatched_closing_tag"
  | duplicateAttribute _ => "parser::duplicate_attribute"
  | nestingTooDeep _ => "parser::nesting_too_deep"

/-- Advice, where there is some. -/
def help? : Fault → Option String
  | unexpectedToken _ => some "The parser found a token it did not expect in this position."
  | unexpectedEnd => some "The document ended before every element was closed."
  | mismatchedClosingTag _ _ => some "Every element must be closed with a tag of the same name."
  | duplicateAttribute _ => none
  | nestingTooDeep limit =>
    some s!"Prototype documents may nest elements at most {limit} levels deep."

/-- The note for the place of the fault. -/
def label : Fault → String
  | unexpectedToken expected => s!"Expected {expected.describe}, but found this"
  | unexpectedEnd => "File ended unexpectedly here"
  | mismatchedClosingTag expected found => s!"Expected </{expected}>, found </{found}>"
  | duplicateAttribute name => s!"Second '{name}' here"
  | nestingTooDeep limit => s!"Nesting exceeds {limit} levels here"

/-- The note for reports that cannot show the place. -/
def detail : Fault → String
  | unexpectedToken expected => s!"expected {expected.describe}"
  | unexpectedEnd => "an element was never closed"
  | mismatchedClosingTag expected found => s!"expected </{expected}>, found </{found}>"
  | duplicateAttribute name => s!"'{name}' appears twice"
  | nestingTooDeep limit => s!"more than {limit} levels"

end Fault

/-- A fault and the bytes it concerns. -/
structure SyntaxError where
  fault : Fault
  offset : Nat
  length : Nat
deriving DecidableEq, Repr

end Archetype.Markup
