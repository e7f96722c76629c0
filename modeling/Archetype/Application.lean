import Archetype.Lineage
import Archetype.Value.Store

/-!
# Applying statements

The fields of a prototype are written by the statements of all its ancestors, the eldest first, and then
by its own. A scalar or a reference takes the place of what was there. The statements about an inline
object are applied to the object that is there, as long as its type derives from the stated one, and
else to a fresh object. The elements of a collection take the place of the elements that are there, or
are added to them where the statement says so. A statement that does not fit the field is reported and
changes nothing.

* **`Application.statements`** — statements applied to fields, one after the other.
* **`Application.built`** — what one statement makes of a field.
* **`Application.definition`** — a definition applied to its prototype.
* **`Application.batch`** — definitions applied in a given order.
-/

namespace Archetype

namespace Application

/-- Reports a statement that does not fit, which makes nothing. -/
def mismatch (location : Location) (message : String) : Noted (Option Value) := do
  Noted.report .error .typeMismatchOnApply location.file location.line message
  return none

/-- What a reference makes of a field for references to the declared type. -/
def reference (declared : String) (location : Location) : Option Handle → Noted (Option Value)
  | none => pure (some .null)
  | some target =>
    if target.type.isA declared then pure (some (.reference target))
    else mismatch location s!"'{target.id}' is a {target.type.qualified}, not a {declared}"

/-- The object that statements about an object of the given type are applied to: the one that is there, if
its type derives from the stated one, else a fresh one. -/
def startingObject (stated : Descriptor) : Option Value → Shape × Fields
  | some (.object type fields) =>
    if type.isA stated.qualified then (type, fields) else (stated.shape, stated.defaults)
  | _ => (stated.shape, stated.defaults)

/-- The elements that a collection starts from: those that are there, if it is to be combined with them,
else none. -/
def startingElements (action : Option OverrideAction) : Option Value → List Value
  | some (.list items) => if action = some .combine then items else []
  | _ => []

/-- The elements with one more. A set does not take an element it has. -/
def addElement (kind : CollectionKind) (items : List Value) (element : Value) : List Value :=
  if kind = .set ∧ items.any (· == element) then items else items ++ [element]

mutual

/-- What a statement makes of a field of the given type, in which `existing` is what was there. -/
def built (type : FieldType) (existing : Option Value) (location : Location) :
    Staged → Noted (Option Value)
  | .scalar converter v =>
    match type with
    | .scalar declared =>
      if converter = declared then pure (some v)
      else mismatch location s!"a {converter} value cannot be stored in a {declared} field"
    | _ => mismatch location s!"a staged scalar cannot be stored in a {type.describe} field"
  | .bound _ target =>
    match type with
    | .reference declared => reference declared location target
    | _ => mismatch location s!"a staged reference cannot be stored in a {type.describe} field"
  | .object ⟨stated, staged, _⟩ =>
    match type with
    | .object declared =>
      if stated.isA declared then do
        let (shape, fields) := startingObject stated existing
        return some (.object shape (← statements shape fields staged))
      else mismatch location
        s!"a {stated.qualified} object cannot be stored in a {declared} field"
    | _ => mismatch location s!"a staged object cannot be stored in a {type.describe} field"
  | .collection stated action staged =>
    match type with
    | .collection kind element =>
      if stated = kind then do
        let start := startingElements action existing
        return some (.list (← elements kind element location start staged))
      else mismatch location s!"a {stated.name} cannot be stored in a {type.describe} field"
    | _ => mismatch location s!"a staged collection cannot be stored in a {type.describe} field"
  | .pending id => mismatch location s!"reference '{id}' was never resolved"

/-- Statements about an object of the given type, applied to its fields. -/
def statements (target : Shape) (fields : Fields) : List StagedField → Noted Fields
  | [] => pure fields
  | ⟨name, staged, location⟩ :: rest =>
    match target.field? name with
    | none => do
      let _ ← mismatch location s!"type '{target.qualified}' has no field '{name}'"
      statements target fields rest
    | some type => do
      Noted.record .trace s!"  {target.qualified}.{name}"
      match ← built type (fields.get? name) location staged with
      | some v => statements target (fields.set name v) rest
      | none => statements target fields rest

/-- The elements of a collection, added to the elements it has. -/
def elements (kind : CollectionKind) (element : FieldType) (location : Location)
    (items : List Value) : List Staged → Noted (List Value)
  | [] => pure items
  | staged :: rest => do
    match ← built element none location staged with
    | some v => elements kind element location (addElement kind items v) rest
    | none => elements kind element location items rest

end

/-- The statements of definitions, applied to the fields of a prototype one definition after the other. -/
def bodies (target : Shape) (fields : Fields) : List Definition → Noted Fields
  | [] => pure fields
  | d :: rest => do
    let fields ← statements target fields d.body.fields
    bodies target fields rest

/-- A definition applied to its prototype, if it has one. -/
def definition (c : Catalogue) (store : Store) (d : Definition) : Noted Store :=
  match d.handle with
  | none => pure store
  | some handle => do
    let line := c.lineage d
    line.report d
    Noted.record .trace s!"applying '{d.id}' over {line.ancestors.length} ancestors"
    let fields ← bodies handle.type (store.fields handle) (line.ancestors.reverse ++ [d])
    return store.write handle fields

/-- The definitions of the batch at the given positions, applied one after the other. -/
def each (c : Catalogue) (store : Store) : List Nat → Noted (List Nat × Store)
  | [] => pure ([], store)
  | i :: rest =>
    match (c.batch[i]?).filter fun d => d.handle.isSome with
    | none => each c store rest
    | some d => do
      let store ← definition c store d
      let (applied, store) ← each c store rest
      return (i :: applied, store)

/-- Definitions applied in the given order; the positions of those that have a prototype, and the store. -/
def batch (c : Catalogue) (store : Store) (order : List Nat) : Noted (List Nat × Store) := do
  let (applied, store) ← each c store order
  Noted.record .debug s!"applied {applied.length} definitions"
  return (applied, store)

end Application

end Archetype
