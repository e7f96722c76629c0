import Archetype.Definition
import Archetype.Journal

/-!
# Binding references

Every pending reference in a batch is bound to the last prototype with its id, or to nothing. Nothing
else in the statements changes, and what has been bound is not bound again.

* **`Binding`** — the prototypes that references may be bound to, and whether a reference to an unknown id is
  reported. A reference with an empty id is bound to nothing without a report.
* **`Binding.definition`** — a definition with its references bound; excluded ones stay as they are.
* **`Binding.batch`** — all definitions of a batch.
-/

namespace Archetype

/-- What references are bound to. -/
structure Binding where
  prototypes : List Handle
  reports : Bool

namespace Binding

/-- The prototype that an id refers to. -/
def target? (b : Binding) (id : String) : Option Handle :=
  if id = "" then none else Handle.lastWithId? b.prototypes id

/-- Reports a reference that is bound to nothing although it has an id. -/
def reportUnknown (b : Binding) (id : String) (location : Location) : Noted Unit :=
  if b.reports ∧ id ≠ "" ∧ b.target? id = none then
    Noted.report .warning .unresolvedReference location.file location.line
      s!"no prototype with id '{id}'; the reference is left empty"
  else pure ()

mutual

/-- A value with its references bound. `location` is that of the field it stands in. -/
def value (b : Binding) (location : Location) : Staged → Noted Staged
  | .scalar converter v => pure (.scalar converter v)
  | .object ⟨type, fields, place⟩ => do return .object ⟨type, ← b.fields fields, place⟩
  | .collection kind action elements => do
    return .collection kind action (← b.elements location elements)
  | .pending id => do
    b.reportUnknown id location
    return .bound id (b.target? id)
  | .bound id target => pure (.bound id target)

/-- Statements with their references bound. -/
def fields (b : Binding) : List StagedField → Noted (List StagedField)
  | [] => pure []
  | ⟨name, v, location⟩ :: rest => do
    let v ← b.value location v
    return ⟨name, v, location⟩ :: (← b.fields rest)

/-- Elements with their references bound. -/
def elements (b : Binding) (location : Location) : List Staged → Noted (List Staged)
  | [] => pure []
  | v :: rest => do
    let v ← b.value location v
    return v :: (← b.elements location rest)

end

mutual

/-- How many references in a value are going to be bound to a prototype. -/
def hits (b : Binding) : Staged → Nat
  | .scalar _ _ => 0
  | .object ⟨_, fields, _⟩ => b.fieldHits fields
  | .collection _ _ elements => b.elementHits elements
  | .pending id => if (b.target? id).isSome then 1 else 0
  | .bound _ _ => 0

/-- `hits` of statements. -/
def fieldHits (b : Binding) : List StagedField → Nat
  | [] => 0
  | ⟨_, v, _⟩ :: rest => b.hits v + b.fieldHits rest

/-- `hits` of elements. -/
def elementHits (b : Binding) : List Staged → Nat
  | [] => 0
  | v :: rest => b.hits v + b.elementHits rest

end

/-- A definition with its references bound. -/
def definition (b : Binding) (d : Definition) : Noted Definition :=
  if d.isExcluded then pure d
  else do
    let fields ← b.fields d.body.fields
    return { d with body := { d.body with fields }, state := .referencesResolved }

/-- The definitions of a batch, one after the other. -/
def definitions (b : Binding) : List Definition → Noted (List Definition)
  | [] => pure []
  | d :: rest => do
    let d ← b.definition d
    return d :: (← b.definitions rest)

/-- How many references of a batch are going to be bound to a prototype. -/
def count (b : Binding) : List Definition → Nat
  | [] => 0
  | d :: rest => (if d.isExcluded then 0 else b.fieldHits d.body.fields) + b.count rest

/-- A batch with its references bound. -/
def batch (b : Binding) (batch : List Definition) : Noted (List Definition) := do
  let bound ← b.definitions batch
  Noted.record .debug s!"bound {b.count batch} references"
  return bound

end Binding

end Archetype
