import Archetype.Value.Basic

/-!
# Type descriptors

A type as it is declared, and as a registry completes it: its head and its fields with their default
values.

* **`Field`** — a field's name, what it may hold, and the value a fresh instance starts with.
* **`Descriptor.declare`** — a type with one more field; a field declared again takes the place of the one
  before.
* **`Descriptor.defaults`** — the fields of a fresh instance.
-/

namespace Archetype

/-- A declared field. -/
structure Field where
  name : String
  type : FieldType
  default : Option Value := none

/-- A type with its fields. -/
structure Descriptor extends TypeHead where
  fields : List Field := []

/-- The fields with one more declared. One of the same name is replaced where it stands. -/
def Field.declareIn (field : Field) : List Field → List Field
  | [] => [field]
  | other :: rest =>
    if other.name = field.name then field :: rest else other :: field.declareIn rest

namespace Descriptor

/-- A type whose instances are prototypes. -/
def prototype (name : String) : Descriptor :=
  { name, kind := .prototype }

/-- A type whose instances are inline objects. -/
def composite (name : String) : Descriptor :=
  { name, kind := .composite }

/-- The type in a namespace. -/
def inScope (d : Descriptor) (scope : String) : Descriptor :=
  { d with scope }

/-- The type derived from the type of the given name. -/
def derivedFrom (d : Descriptor) (base : String) : Descriptor :=
  { d with base := some base }

/-- The type, marked as one without instances of its own. -/
def abstract (d : Descriptor) : Descriptor :=
  { d with isAbstract := true }

/-- The type with one more field. -/
def declare (d : Descriptor) (field : Field) : Descriptor :=
  { d with fields := field.declareIn d.fields }

/-- The field of the given name. -/
def field? (d : Descriptor) (name : String) : Option Field :=
  d.fields.find? (·.name == name)

/-- What instances know of the type. -/
def shape (d : Descriptor) : Shape :=
  { d.toTypeHead with fields := d.fields.map fun f => (f.name, f.type) }

/-- The fields of a fresh instance: those declared with a default value. -/
def defaults (d : Descriptor) : Fields :=
  d.fields.foldl (fun fields f =>
    match f.default with
    | some value => fields.set f.name value
    | none => fields) []

/-- A fresh inline object of the type. -/
def construct (d : Descriptor) : Value :=
  .object d.shape d.defaults

end Descriptor

end Archetype
