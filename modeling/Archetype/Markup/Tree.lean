import Archetype.Text.Blank

/-!
# Element trees

A document is one element, and an element holds attributes, character data and further elements, all
at their byte offsets.

* **`Element`**, **`Node`**, **`Attribute`**, **`CharData`** — the tree.
* **`Element.elements`**, **`Element.text`** — the two views of an element's children: the elements among
  them, and their character data run together.
* **`Element.strayText?`** — the first character data that an element meant to hold only elements should
  not have.
-/

namespace Archetype.Markup

/-- An attribute, from the first byte of its name to the last of its value. -/
structure Attribute where
  name : String
  value : String
  start : Nat
  stop : Nat
deriving DecidableEq, Repr

/-- A run of character data, either plain text or a character data section. -/
structure CharData where
  value : String
  start : Nat
  cdata : Bool
deriving DecidableEq, Repr

mutual

/-- An element, from the `<` of its first tag to the `>` of its last. -/
structure Element where
  name : String
  attributes : List Attribute
  children : List Node
  start : Nat
  stop : Nat

/-- A child of an element. -/
inductive Node
  | element (element : Element)
  | text (data : CharData)

end

namespace Node

/-- The element a node is. -/
def element? : Node → Option Element
  | element e => some e
  | text _ => none

/-- The character data a node is. -/
def text? : Node → Option CharData
  | element _ => none
  | text t => some t

end Node

/-- Whether the data says something: it was written as a section, or it is more than blanks. -/
def CharData.isStray (t : CharData) : Bool :=
  t.cdata || !Text.allBlank t.value

namespace Element

/-- The value of the attribute with the given name. -/
def attribute? (e : Element) (name : String) : Option String :=
  (e.attributes.find? (·.name == name)).map (·.value)

/-- The child elements, in document order. -/
def elements (e : Element) : List Element :=
  e.children.filterMap Node.element?

/-- Whether there are child elements. -/
def hasElements (e : Element) : Bool :=
  !e.elements.isEmpty

/-- The character data of the children, run together. -/
def text (e : Element) : String :=
  String.join ((e.children.filterMap Node.text?).map (·.value))

/-- The first character data that says something. -/
def strayText? (e : Element) : Option CharData :=
  (e.children.filterMap Node.text?).find? CharData.isStray

end Element

end Archetype.Markup
