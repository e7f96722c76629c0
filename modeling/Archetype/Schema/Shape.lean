import Archetype.Schema.FieldType

/-!
# Shapes

What an instance knows of its type: what the type is called, where it stands among the other types, and
what each of its fields may hold.

* **`TypeHead`** — a type without its fields. `TypeHead.isA` holds of the type's own qualified name and of
  the names of its ancestors.
* **`Shape`** — a type with its fields, but without their default values. Instances carry the shape, so
  that values do not contain types that contain values.
-/

namespace Archetype

/-- What the instances of a type are: prototypes have an identity and can be referred to, composites
are stored inline. -/
inductive TypeKind
  | prototype
  | composite
deriving DecidableEq, Repr

/-- A type without its fields. `scope` is the namespace it is declared in, empty for none, `base` the name
of the type it derives from, and `ancestors` the qualified names of all types it derives from, the
nearest first. -/
structure TypeHead where
  name : String
  scope : String := ""
  kind : TypeKind
  base : Option String := none
  isAbstract : Bool := false
  ancestors : List String := []
deriving DecidableEq, Repr

namespace TypeHead

/-- The name with the namespace before it, if there is one. -/
def qualified (t : TypeHead) : String :=
  if t.scope = "" then t.name else t.scope ++ "." ++ t.name

/-- Whether the instances are prototypes. -/
def isPrototype (t : TypeHead) : Bool :=
  t.kind = .prototype

/-- Whether this is the type of the given qualified name, or derives from it. -/
def isA (t : TypeHead) (name : String) : Bool :=
  t.qualified == name || t.ancestors.contains name

end TypeHead

/-- A type and what its fields may hold. -/
structure Shape extends TypeHead where
  fields : List (String × FieldType)
deriving DecidableEq, Repr

/-- What the field of the given name may hold. -/
def Shape.field? (shape : Shape) (name : String) : Option FieldType :=
  (shape.fields.find? (·.1 == name)).map (·.2)

end Archetype
