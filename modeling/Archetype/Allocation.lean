import Archetype.Definition
import Archetype.Journal
import Archetype.Value.Store

/-!
# Allocation

Every definition of a batch that is neither abstract nor excluded gets a prototype, in batch order, with
the defaults of its type for fields. This comes before any statement is applied, so that references can
point forward.

* **`Allocation.isConcrete`** — whether a definition gets a prototype.
* **`allocate`** — the new prototypes, the batch with each of them at its definition, and the store that holds
  them.
-/

namespace Archetype

namespace Allocation

/-- Whether a definition gets a prototype. -/
def isConcrete (d : Definition) : Bool :=
  !d.isAbstract && !d.isExcluded

/-- The new prototypes of a batch, the batch, and the store. -/
def each (store : Store) : List Definition → List Handle × List Definition × Store
  | [] => ([], [], store)
  | d :: rest =>
    if isConcrete d then
      let (handle, store) := store.allocate d.id d.type.shape d.type.defaults
      let (created, batch, store) := each store rest
      (handle :: created, { d with handle := some handle, state := .allocated } :: batch, store)
    else
      let (created, batch, store) := each store rest
      (created, d :: batch, store)

end Allocation

/-- Allocates the prototypes of a batch. -/
def allocate (store : Store) (batch : List Definition) :
    Noted (List Handle × List Definition × Store) := do
  let result := Allocation.each store batch
  Noted.record .debug s!"allocated {result.1.length} prototypes"
  return result

end Archetype
