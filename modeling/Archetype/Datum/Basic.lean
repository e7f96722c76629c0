import Archetype.Number.Binary64

/-!
# Plain data

What results are turned into before they are written: numbers, texts, lists and records. The two written
forms, in `Datum.Json` and `Datum.Yaml`, are functions of the datum alone.
-/

namespace Archetype

/-- A piece of plain data. The entries of a record keep their order. -/
inductive Datum
  | null
  | bool (value : Bool)
  | int (value : Int)
  | float (value : Binary64)
  | text (value : String)
  | list (items : List Datum)
  | record (entries : List (String × Datum))

end Archetype
