import Archetype.Definition
import Archetype.Markup.Tree
import Archetype.Options
import Archetype.Schema.Registry
import Archetype.Text.Lines

/-!
# Staging

A document's tree is read against the registry. The root is a container that names a prototype type,
its children are items, and the children of an item are statements about the fields of its type. What
cannot be read is reported and left out; staging always goes on to the end of the document.

* **`Staging`** — the registry, the options, and the document being staged.
* **`Staging.value`** — the value an element gives to a field of some type.
* **`Staging.item?`** — the definition an item makes.
* **`Staging.container`** — the definitions of a document.
-/

namespace Archetype

open Markup

/-- What a document is staged against, and what its places are called. -/
structure Staging where
  registry : Registry
  options : Options
  /-- The namespace that is preferred when a type name stands in several. -/
  preferred : String
  file : String
  lines : Text.Lines

namespace Staging

/-! ## Places and reports -/

/-- The line of a byte offset of the document. -/
def lineAt (s : Staging) (offset : Nat) : Nat :=
  s.lines.line offset

/-- Where an element stands. -/
def location (s : Staging) (e : Element) : Location :=
  ⟨s.file, s.lineAt e.start⟩

/-- Reports an error at an element. -/
def error (s : Staging) (kind : DiagnosticKind) (e : Element) (message : String) : Noted Unit :=
  Noted.report .error kind s.file (s.lineAt e.start) message

/-- Reports an error at an element, which then gives nothing. -/
def reject {α : Type} (s : Staging) (kind : DiagnosticKind) (e : Element) (message : String) :
    Noted (Option α) := do
  s.error kind e message
  return none

/-- Reports malformed markup that does no harm. -/
def warn (s : Staging) (offset : Nat) (message : String) : Noted Unit :=
  Noted.report .warning .malformedNode s.file (s.lineAt offset) message

/-- Reports text in an element that should hold only elements. -/
def warnStrayText (s : Staging) (e : Element) (message : String) : Noted Unit :=
  match e.strayText? with
  | some data => s.warn data.start message
  | none => pure ()

/-- The type that a name in the document stands for. -/
def findType? (s : Staging) (name : String) : Option Descriptor :=
  s.registry.find? (Text.trimmed name) s.preferred

/-! ## Field values -/

/-- The value of a scalar field. -/
def scalar (s : Staging) (e : Element) (converter : String) : Noted (Option Staged) :=
  if e.hasElements then
    s.reject .malformedNode e s!"<{e.name}> holds a {converter} and cannot contain elements"
  else
    match s.registry.converters.best? converter with
    | none =>
      s.reject .missingSerializer e s!"no converter registered for type '{converter}'"
    | some c =>
      match c.convert e.text with
      | .ok v => pure (some (.scalar converter v))
      | .error err => s.reject .malformedNode e s!"<{e.name}>: {err.message}"

/-- The value of a reference field. -/
def reference (s : Staging) (e : Element) : Noted (Option Staged) :=
  if e.hasElements then
    s.reject .malformedNode e s!"<{e.name}> holds a reference id and cannot contain elements"
  else pure (some (.pending (Text.trimmed e.text)))

/-- The type of an inline object: the declared one, or one the element names that derives from it. -/
def objectType? (s : Staging) (e : Element) (declared : String) : Noted (Option Descriptor) :=
  let found : Noted (Option Descriptor) :=
    match e.attribute? "Type" with
    | none =>
      match s.registry.get? declared with
      | some type => pure (some type)
      | none => s.reject .unknownElementType e s!"unknown type '{declared}'"
    | some name =>
      match s.findType? name with
      | none => s.reject .unknownElementType e s!"unknown type '{name}'"
      | some type =>
        if type.isA declared then pure (some type)
        else s.reject .unknownElementType e
          s!"type '{type.qualified}' does not derive from '{declared}'"
  do
    match ← found with
    | none => return none
    | some type =>
      if type.isAbstract then
        s.reject .unknownElementType e
          s!"type '{type.qualified}' is abstract; give <{e.name}> a concrete Type"
      else return some type

/-- The override action an element states. An unknown one is reported and counts as none. -/
def overrideAction (s : Staging) (e : Element) : Noted (Option OverrideAction) :=
  match e.attribute? "OverrideAction" with
  | none => pure none
  | some word =>
    match OverrideAction.ofWord? (Text.trimmed word) with
    | some action => pure (some action)
    | none => s.reject .malformedNode e
        s!"OverrideAction=\"{word}\" on <{e.name}> must be Replace or Combine"

mutual

/-- The value an element gives to a field of the given type. -/
def value (s : Staging) : Element → FieldType → Noted (Option Staged)
  | ⟨name, attributes, children, start, stop⟩, type =>
    let e : Element := ⟨name, attributes, children, start, stop⟩
    match type with
    | .scalar converter => s.scalar e converter
    | .reference _ => s.reference e
    | .object declared => do
      match ← s.objectType? e declared with
      | none => return none
      | some objectType =>
        s.warnStrayText e s!"text inside <{name}> is ignored"
        return some (.object ⟨objectType, ← s.statements objectType children, s.location e⟩)
    | .collection kind element => do
      let action ← s.overrideAction e
      s.warnStrayText e s!"text inside collection <{name}> is ignored"
      return some (.collection kind action (← s.entries element children))

/-- The statements that the elements among some nodes make about an object of the given type. -/
def statements (s : Staging) (type : Descriptor) : List Node → Noted (List StagedField)
  | [] => pure []
  | .text _ :: rest => s.statements type rest
  | .element e :: rest => do
    let given : Option Staged ← (
      match type.field? e.name with
      | none => s.reject .unknownField e s!"type '{type.qualified}' has no field '{e.name}'"
      | some declared => s.value e declared.type)
    let field := given.map fun v => StagedField.mk e.name v (s.location e)
    return field.toList ++ (← s.statements type rest)

/-- The values that the elements among some nodes give to the elements of a collection. -/
def entries (s : Staging) (element : FieldType) : List Node → Noted (List Staged)
  | [] => pure []
  | .text _ :: rest => s.entries element rest
  | .element e :: rest => do
    let entry : Option Staged ← (
      if e.name = s.options.entryTag then s.value e element
      else s.reject .malformedNode e
        s!"collection entries must be <{s.options.entryTag}>, found <{e.name}>")
    return entry.toList ++ (← s.entries element rest)

end

/-- The statements that an element makes about an object of the given type. -/
def object (s : Staging) (e : Element) (type : Descriptor) : Noted StagedObject := do
  s.warnStrayText e s!"text inside <{e.name}> is ignored"
  return ⟨type, ← s.statements type e.children, s.location e⟩

/-! ## Items -/

/-- The attributes an item may have. -/
def itemAttributes : List String :=
  ["Id", "Inherits", "Abstract", "Type"]

/-- The trimmed value of an attribute, if there is one and it is not blank. -/
def word? (e : Element) (name : String) : Option String :=
  ((e.attribute? name).map Text.trimmed).filter (· ≠ "")

/-- Whether an item is marked abstract. -/
def abstractMark (s : Staging) (e : Element) (id : String) : Noted Bool :=
  match (e.attribute? "Abstract").map Text.trimmed with
  | none => pure false
  | some word =>
    if Text.sameIgnoringCase word "true" then pure true
    else if Text.sameIgnoringCase word "false" then pure false
    else do
      s.warn e.start s!"'{id}': Abstract=\"{word}\" is not True or False; treated as False"
      return false

/-- Reports the attributes that mean nothing on an item. -/
def warnAttributes (s : Staging) (id : String) : List Attribute → Noted Unit
  | [] => pure ()
  | a :: rest => do
    if !itemAttributes.contains a.name then
      s.warn a.start s!"'{id}': unknown attribute '{a.name}' ignored"
    s.warnAttributes id rest

/-- The type of an item: the one it names, or that of its container. -/
def itemType? (s : Staging) (e : Element) (id : String) (container : Descriptor) :
    Noted (Option Descriptor) :=
  match e.attribute? "Type" with
  | none => pure (some container)
  | some name =>
    match s.findType? name with
    | none => s.reject .unknownElementType e s!"'{id}': unknown type '{name}'"
    | some type =>
      if type.isPrototype then pure (some type)
      else s.reject .unknownElementType e
        s!"'{id}': type '{type.qualified}' is not a prototype type"

/-- The definition an item makes. -/
def item? (s : Staging) (container : Descriptor) (e : Element) : Noted (Option Definition) :=
  if e.name ≠ s.options.itemTag then
    s.reject .malformedNode e s!"expected <{s.options.itemTag}>, found <{e.name}>"
  else
    match word? e "Id" with
    | none => s.reject .missingIdentifier e s!"<{e.name}> has no Id attribute"
    | some id => do
      let isAbstract ← s.abstractMark e id
      s.warnAttributes id e.attributes
      match ← s.itemType? e id container with
      | none => return none
      | some type =>
        if type.isAbstract && !isAbstract then
          s.reject .unknownElementType e
            s!"'{id}': type '{type.qualified}' is abstract; mark the item Abstract or pick a concrete type"
        else
          let body ← s.object e type
          return some
            { id, inherits := word? e "Inherits", isAbstract, typeOverride := e.attribute? "Type",
              body }

/-- The definitions that the items among some elements make. -/
def items (s : Staging) (container : Descriptor) : List Element → Noted (List Definition)
  | [] => pure []
  | e :: rest => do
    let definition ← s.item? container e
    return definition.toList ++ (← s.items container rest)

/-! ## Documents -/

/-- The type of the items of a container. -/
def containerType? (s : Staging) (root : Element) : Noted (Option Descriptor) :=
  match root.attribute? "Type" with
  | none => s.reject .malformedNode root s!"container <{root.name}> has no Type attribute"
  | some name =>
    match s.findType? name with
    | none => s.reject .unknownContainerType root s!"unknown container type '{name}'"
    | some type =>
      if type.isPrototype then pure (some type)
      else s.reject .unknownContainerType root s!"container type '{name}' is not a prototype type"

/-- The definitions of a container. -/
def container (s : Staging) (root : Element) : Noted (List Definition) := do
  match ← s.containerType? root with
  | none => return []
  | some type =>
    s.warnStrayText root "text inside the container is ignored"
    s.items type root.elements

/-- The definitions of a document. -/
def document (s : Staging) (root : Element) : Noted (List Definition) := do
  let definitions ← s.container root
  Noted.record .debug s!"staged {definitions.length} definitions from {s.file}"
  return definitions

end Staging

end Archetype
