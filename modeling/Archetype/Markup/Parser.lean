import Archetype.Markup.Error
import Archetype.Markup.Scanner
import Archetype.Markup.Tree

/-!
# Parsing

A document is one element, with blank text, comments and declarations around it. The tokens are read
one at a time by a machine that keeps the elements still open, innermost first.

* **`State`** — what has been read of the element at hand, and the open elements around it.
* **`step`** — the move on one token: go on, accept the document, or refuse it.
* **`run`** — the moves on a row of tokens.
* **`Parser`** — a document being parsed. It keeps its place and its nesting depth from one call to the
  next, whatever the outcome; `Parser.ofText` starts at the front with depth zero.
-/

namespace Archetype.Markup

/-- The deepest nesting of an element below the root. -/
def maxDepth : Nat := 256

/-- An element whose end has not been read. -/
structure OpenElement where
  name : String
  attributes : List Attribute
  children : List Node
  start : Nat

namespace OpenElement

/-- An element of which only the name has been read. -/
def named (name : String) (start : Nat) : OpenElement :=
  ⟨name, [], [], start⟩

/-- The element with one more attribute. -/
def addAttribute (e : OpenElement) (a : Attribute) : OpenElement :=
  { e with attributes := e.attributes ++ [a] }

/-- The element with one more child. -/
def addChild (e : OpenElement) (node : Node) : OpenElement :=
  { e with children := e.children ++ [node] }

/-- Whether the element has an attribute of the given name. -/
def hasAttribute (e : OpenElement) (name : String) : Bool :=
  e.attributes.any (·.name == name)

/-- The element, ended just before the given offset. -/
def close (e : OpenElement) (stop : Nat) : Element :=
  ⟨e.name, e.attributes, e.children, e.start, stop⟩

end OpenElement

/-- What has been read last, and so what may come. -/
inductive Phase
  /-- Nothing but blank text. -/
  | prolog
  /-- The `<` of a first tag, at `start`. -/
  | opening (start : Nat)
  /-- The name of an element, and its attributes so far. -/
  | tag (element : OpenElement)
  /-- The name of an attribute. -/
  | attributeName (element : OpenElement) (name : String) (start : Nat)
  /-- The name of an attribute and its equals sign. -/
  | attributeEquals (element : OpenElement) (name : String) (start : Nat)
  /-- The first tag, and the children so far. -/
  | content (element : OpenElement)
  /-- The `</` of the last tag, at `start`. -/
  | closing (element : OpenElement) (start : Nat)
  /-- The `</` of the last tag and the name after it. -/
  | closingName (element : OpenElement) (start : Nat) (name : String)
  /-- The root element. -/
  | epilog (root : Element)

/-- The state of the machine. `ancestors` are the open elements around the one at hand, the innermost
first; `depth` counts them, and the elements left open by calls that were refused. -/
structure State where
  phase : Phase
  ancestors : List OpenElement
  depth : Nat

/-- What the machine does on a token. -/
inductive Move
  /-- The token is read. -/
  | next (state : State)
  /-- The token is read and the document is complete. -/
  | accept (root : Element)
  /-- The document is refused. `consumed` says whether the token is read all the same. -/
  | refuse (error : SyntaxError) (consumed : Bool) (depth : Nat)

namespace State

/-- The state before a document. -/
def initial (depth : Nat) : State :=
  ⟨.prolog, [], depth⟩

/-- Goes on to another phase with the same elements open. -/
def goto (s : State) (phase : Phase) : Move :=
  .next { s with phase }

/-- Refuses a token, which is kept. -/
def refuse (s : State) (fault : Fault) (start stop : Nat) : Move :=
  .refuse ⟨fault, start, stop - start⟩ false s.depth

/-- Refuses a token because something else was expected. -/
def unexpected (s : State) (t : Token) (expected : Expectation) : Move :=
  s.refuse (.unexpectedToken expected) t.start t.stop

/-- Refuses a token because only one kind of token may stand here. -/
def missing (s : State) (t : Token) (expected : Lexeme) : Move :=
  if t.lexeme = .eof then s.refuse .unexpectedEnd t.start t.start
  else s.unexpected t (.token expected)

/-- The element at hand is complete: it becomes a child of the innermost open element, or it is the
root. -/
def complete (s : State) (e : Element) : Move :=
  match s.ancestors with
  | [] => s.goto (.epilog e)
  | parent :: ancestors =>
    .next ⟨.content (parent.addChild (.element e)), ancestors, s.depth - 1⟩

/-- Moves on a token after the first tag of an element. -/
def stepContent (s : State) (e : OpenElement) (t : Token) : Move :=
  match t.lexeme with
  | .text value => s.goto (.content (e.addChild (.text ⟨value, t.start, false⟩)))
  | .cdata body => s.goto (.content (e.addChild (.text ⟨body, t.start, true⟩)))
  | .tagOpen =>
    if s.depth + 1 > maxDepth then
      .refuse ⟨.nestingTooDeep maxDepth, t.start, t.stop - t.start⟩ false (s.depth + 1)
    else .next ⟨.opening t.start, e :: s.ancestors, s.depth + 1⟩
  | .closeTagOpen => s.goto (.closing e t.start)
  | .eof => s.refuse .unexpectedEnd t.start t.start
  | _ => s.unexpected t .content

/-- Moves on a token. -/
def step (s : State) (t : Token) : Move :=
  match s.phase with
  | .prolog =>
    match t.lexeme with
    | .text value => if Text.allBlank value then .next s else s.unexpected t .markup
    | .tagOpen => s.goto (.opening t.start)
    | _ => s.unexpected t .rootElement
  | .opening start =>
    match t.lexeme with
    | .name name => s.goto (.tag (.named name start))
    | _ => s.unexpected t .name
  | .tag e =>
    match t.lexeme with
    | .name name => s.goto (.attributeName e name t.start)
    | .emptyTagClose => s.complete (e.close t.stop)
    | .tagClose => s.goto (.content e)
    | _ => s.missing t .tagClose
  | .attributeName e name start =>
    match t.lexeme with
    | .equals => s.goto (.attributeEquals e name start)
    | _ => s.missing t .equals
  | .attributeEquals e name start =>
    match t.lexeme with
    | .attrValue value =>
      if e.hasAttribute name then
        .refuse ⟨.duplicateAttribute name, start, t.stop - start⟩ true s.depth
      else s.goto (.tag (e.addAttribute ⟨name, value, start, t.stop⟩))
    | _ => s.unexpected t .attributeValue
  | .content e => s.stepContent e t
  | .closing e start =>
    match t.lexeme with
    | .name name => s.goto (.closingName e start name)
    | _ => s.unexpected t .name
  | .closingName e start name =>
    if name = e.name then
      match t.lexeme with
      | .tagClose => s.complete (e.close t.stop)
      | _ => s.missing t .tagClose
    else s.refuse (.mismatchedClosingTag e.name name) start t.stop
  | .epilog root =>
    match t.lexeme with
    | .text value => if Text.allBlank value then .next s else s.unexpected t .markup
    | .eof => .accept root
    | _ => s.missing t .eof

end State

/-- How a parse went: the root element or the error, the tokens that were not read, and the nesting
depth it ended at. -/
structure Progress where
  outcome : Except SyntaxError Element
  unread : List Token
  depth : Nat

/-- Moves on a row of tokens until the document is accepted or refused. Running out of tokens, which
takes a document that was accepted before, is an unexpected end at the last of its `size` bytes. -/
def run (size : Nat) (s : State) : List Token → Progress
  | [] => ⟨.error ⟨.unexpectedEnd, size - 1, 0⟩, [], s.depth⟩
  | t :: ts =>
    match s.step t with
    | .next s' => run size s' ts
    | .accept root => ⟨.ok root, ts, s.depth⟩
    | .refuse error consumed depth => ⟨.error error, if consumed then ts else t :: ts, depth⟩

/-- A document being parsed: the tokens that matter and are not read yet, the elements left open by
earlier calls, and the size of the text in bytes. -/
structure Parser where
  unread : List Token
  depth : Nat
  size : Nat

namespace Parser

/-- The tokens of a text without the filler. -/
def significant (text : String) : List Token :=
  (tokens text).filter fun t => !t.lexeme.isFiller

/-- The parser at the front of a text. -/
def ofText (text : String) : Parser :=
  ⟨significant text, 0, Text.byteLength text.toList⟩

/-- Parses one document. -/
def document (p : Parser) : Except SyntaxError Element × Parser :=
  let progress := run p.size (.initial p.depth) p.unread
  (progress.outcome, { p with unread := progress.unread, depth := progress.depth })

end Parser

/-- Parses a text that holds one document. -/
def parse (text : String) : Except SyntaxError Element :=
  (Parser.ofText text).document.1

end Archetype.Markup
