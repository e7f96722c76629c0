import Archetype.Value.Basic

/-!
# The store

Where the fields of prototypes are kept. A prototype is allocated once, at the next address, with its id
and its type for good; its fields can be written any number of times. So prototypes may refer to each
other before their fields are written, in circles too.

* **`Store.allocate`** — a new prototype; it has the first address not in use.
* **`Store.fields`**, **`Store.write`** — reading and writing the fields of one prototype. Writing changes the
  fields at one address and no others.
* **`Store.sameDeep`** — the comparison that looks at the fields of two prototypes.
-/

namespace Archetype

/-- The fields of all prototypes, by address. -/
structure Store where
  cells : Array Fields

namespace Store

/-- A store without prototypes. -/
def empty : Store :=
  ⟨#[]⟩

/-- A new prototype with the given fields, and the store that holds it. -/
def allocate (s : Store) (id : String) (type : Shape) (fields : Fields) : Handle × Store :=
  (⟨s.cells.size, id, type⟩, ⟨s.cells.push fields⟩)

/-- The fields of a prototype. -/
def fields (s : Store) (h : Handle) : Fields :=
  s.cells.getD h.address []

/-- The store after the fields of a prototype are replaced. -/
def write (s : Store) (h : Handle) (fields : Fields) : Store :=
  ⟨s.cells.setIfInBounds h.address fields⟩

/-- The store after the fields of a prototype are dropped. -/
def clear (s : Store) (h : Handle) : Store :=
  s.write h []

/-- The value of one field of a prototype. -/
def get? (s : Store) (h : Handle) (name : String) : Option Value :=
  (s.fields h).get? name

/-- Equality of prototypes by id, type and fields. Prototypes in the fields are compared by id, so this
ends; and a prototype equals itself, whatever its fields hold. -/
def sameDeep (s : Store) (h k : Handle) : Bool :=
  h.isSame k ||
    (h.id == k.id && h.type.qualified == k.type.qualified &&
      Value.sameFields (s.fields h) (s.fields k))

/-- Writing is seen at the address written, if it is in use, and nowhere else. -/
theorem fields_write (s : Store) (h k : Handle) (fields : Fields) (hin : h.address < s.cells.size) :
    (s.write h fields).fields k = if h.address = k.address then fields else s.fields k := by
  simp only [write, Store.fields, Array.getD_eq_getD_getElem?, Array.getElem?_setIfInBounds]
  split <;> simp_all

/-- Writing is not seen at another address. -/
theorem fields_write_of_ne (s : Store) {h k : Handle} (fields : Fields) (hne : h.address ≠ k.address) :
    (s.write h fields).fields k = s.fields k := by
  rw [write, Store.fields, Store.fields, Array.getD_eq_getD_getElem?, Array.getD_eq_getD_getElem?,
    Array.getElem?_setIfInBounds_ne hne]

/-- What is allocated can be read back, and nothing that was in use changes. -/
theorem fields_allocate (s : Store) (id : String) (type : Shape) (fields : Fields) (k : Handle) :
    (s.allocate id type fields).2.fields k =
      if k.address = s.cells.size then fields else s.fields k := by
  simp only [allocate, Store.fields, Array.getD_eq_getD_getElem?, Array.getElem?_push]
  split <;> rfl

end Store

end Archetype
