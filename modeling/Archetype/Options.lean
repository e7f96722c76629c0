/-!
# Options

* **`Options`** — what a session can be told about the documents it reads.
-/

namespace Archetype

/-- The settings of a session. -/
structure Options where
  /-- The name of the items of a container. -/
  itemTag : String := "Item"
  /-- The name of the entries of a collection. -/
  entryTag : String := "li"
  /-- Whether a reference to an unknown id is reported. -/
  reportUnresolved : Bool := true
deriving DecidableEq, Repr

end Archetype
