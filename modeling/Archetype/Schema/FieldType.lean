/-!
# Field types

What a field of a type may hold.

* **`FieldType`** — a scalar, an inline object, a reference to a prototype, or a collection of these.
* **`FieldType.describe`** — the type as messages show it.
-/

namespace Archetype

/-- The kinds of collection. A set keeps only the first of equal elements. -/
inductive CollectionKind
  | array
  | list
  | set
deriving DecidableEq, Repr

/-- The name of a kind of collection. -/
def CollectionKind.name : CollectionKind → String
  | array => "Array"
  | list => "List"
  | set => "Set"

/-- What a field may hold. In a declaration an object type may name a prototype type; resolving the
declaration turns it into a reference. -/
inductive FieldType
  /-- A value that the converter of the given name makes of a text. -/
  | scalar (converter : String)
  /-- An inline object of the named type. -/
  | object (type : String)
  /-- A prototype of the named type, by its id. -/
  | reference (type : String)
  | collection (kind : CollectionKind) (element : FieldType)
deriving DecidableEq, Repr

/-- The type as messages show it. -/
def FieldType.describe : FieldType → String
  | scalar converter => converter
  | object type => type
  | reference type => "&" ++ type
  | collection .array element => element.describe ++ "[]"
  | collection .list element => "List<" ++ element.describe ++ ">"
  | collection .set element => "Set<" ++ element.describe ++ ">"

end Archetype
