import Archetype.Datum.Basic
import Archetype.Value.Store

/-!
# Values as plain data

References become the id of what they refer to, so the outline of a value is finite even where
prototypes refer to each other.

* **`Value.outline`** — a value; an object becomes a record of its type and its fields.
* **`Store.outline`** — a prototype: its id, its type and its fields.
-/

namespace Archetype

namespace Value

mutual

/-- A value as plain data. -/
def outline : Value → Datum
  | null => .null
  | bool b => .bool b
  | int n => .int n
  | float x => .float x
  | text s => .text s
  | variant s => .text s
  | object type fields =>
    .record [("type", .text type.qualified), ("fields", .record (outlineFields fields))]
  | reference target => .text target.id
  | list items => .list (outlineItems items)

/-- Fields as plain data. -/
def outlineFields : List (String × Value) → List (String × Datum)
  | [] => []
  | (name, value) :: fields => (name, outline value) :: outlineFields fields

/-- Items as plain data. -/
def outlineItems : List Value → List Datum
  | [] => []
  | value :: values => outline value :: outlineItems values

end

end Value

/-- A prototype as plain data. -/
def Store.outline (s : Store) (h : Handle) : Datum :=
  .record [("id", .text h.id), ("type", .text h.type.qualified),
    ("fields", .record (Value.outlineFields (s.fields h)))]

end Archetype
