import Archetype.Schema.Descriptor
import Archetype.Text.Case

/-!
# Definitions

What each item of a document states about itself, before it is known what it inherits and what its
references point at.

* **`Staged`** — the value a field is given: a converted scalar, the statements about an inline object, the
  elements of a collection, or a reference, which is pending until it is bound.
* **`StagedObject`** — the statements about one object, in document order.
* **`Definition`** — an item: its id, what it inherits from, and the statements about it.
-/

namespace Archetype

/-- A line of a file. -/
structure Location where
  file : String
  line : Nat
deriving DecidableEq, Repr

/-- How a collection is put together with the one inherited. -/
inductive OverrideAction
  | replace
  | combine
deriving DecidableEq, Repr

/-- The action a word stands for, in any case. -/
def OverrideAction.ofWord? (word : String) : Option OverrideAction :=
  if Text.sameIgnoringCase word "replace" then some replace
  else if Text.sameIgnoringCase word "combine" then some combine
  else none

/-- The name of an action. -/
def OverrideAction.name : OverrideAction → String
  | replace => "Replace"
  | combine => "Combine"

mutual

/-- The value a field is given. -/
inductive Staged
  | scalar (converter : String) (value : Value)
  | object (object : StagedObject)
  | collection (kind : CollectionKind) (action : Option OverrideAction) (elements : List Staged)
  /-- A reference that has not been bound. -/
  | pending (id : String)
  /-- A reference that has been bound, to nothing if the id is unknown. -/
  | bound (id : String) (target : Option Handle)

/-- A field and the value it is given. -/
structure StagedField where
  name : String
  value : Staged
  location : Location

/-- The statements about one object of a type. -/
structure StagedObject where
  type : Descriptor
  fields : List StagedField
  location : Location

end

/-- The word for what a field is given. -/
def Staged.kindName : Staged → String
  | scalar _ _ => "scalar"
  | object _ => "object"
  | collection _ _ _ => "collection"
  | pending _ => "reference"
  | bound _ _ => "reference"

/-- The last statement about a field. -/
def StagedObject.field? (o : StagedObject) (name : String) : Option StagedField :=
  o.fields.reverse.find? (·.name == name)

/-- How far a definition has come. -/
inductive DefinitionState
  | staged
  | allocated
  | referencesResolved
  | applied
  /-- Left out of its batch. -/
  | excluded
deriving DecidableEq, Repr

/-- An item of a document. -/
structure Definition where
  id : String
  /-- The id of the definition it inherits from. -/
  inherits : Option String
  /-- Whether it is there only to be inherited from. -/
  isAbstract : Bool
  /-- The type the item names in place of the type of its container. -/
  typeOverride : Option String
  /-- What the item itself states. Nothing inherited is ever added. -/
  body : StagedObject
  state : DefinitionState := .staged
  /-- The prototype it defines, once that is allocated. -/
  handle : Option Handle := none

namespace Definition

/-- Where the item stands. -/
def location (d : Definition) : Location :=
  d.body.location

/-- The type of the item. -/
def type (d : Definition) : Descriptor :=
  d.body.type

/-- Whether the definition has been left out of its batch. -/
def isExcluded (d : Definition) : Bool :=
  d.state == .excluded

end Definition

end Archetype
