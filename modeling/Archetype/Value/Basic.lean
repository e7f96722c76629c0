import Archetype.Number.Binary64
import Archetype.Schema.Shape
import Archetype.Text.Quoted

/-!
# Values

What the fields of objects and prototypes hold.

* **`Handle`** — a prototype, by the address its fields are stored under. Its id and its type never change,
  so the handle carries them; its fields do, and are kept in a `Store`.
* **`Value`** — scalars, inline objects, references and lists.
* **`Fields`** — the values of named fields, in the order of their names.
* **`Value.same`** — equality by structure. References are compared by id alone, so the comparison ends
  even where prototypes refer to each other, and floating-point numbers as numbers.
-/

namespace Archetype

/-- A prototype. Two handles are the same prototype exactly when their addresses agree. -/
structure Handle where
  address : Nat
  id : String
  type : Shape
deriving DecidableEq, Repr

/-- What a field holds. -/
inductive Value
  | null
  | bool (value : Bool)
  | int (value : Int)
  | float (value : Binary64)
  | text (value : String)
  /-- A variant of an enumeration. -/
  | variant (name : String)
  /-- An inline object. -/
  | object (type : Shape) (fields : List (String × Value))
  | reference (target : Handle)
  | list (items : List Value)

/-- The values of named fields. -/
abbrev Fields := List (String × Value)

namespace Fields

/-- The value of a field. -/
def get? (fields : Fields) (name : String) : Option Value :=
  (fields.find? (·.1 == name)).map (·.2)

/-- The fields with the value of one that is there replaced. -/
def replace (fields : Fields) (name : String) (value : Value) : Fields :=
  match fields with
  | [] => []
  | (other, old) :: rest =>
    if other = name then (other, value) :: rest else (other, old) :: replace rest name value

/-- The fields with a new one, before the first name that is greater. -/
def insert (fields : Fields) (name : String) (value : Value) : Fields :=
  match fields with
  | [] => [(name, value)]
  | (other, old) :: rest =>
    if name < other then (name, value) :: (other, old) :: rest
    else (other, old) :: insert rest name value

/-- The fields with one value set: in place of the old value if there is one, else as a new field. -/
def set (fields : Fields) (name : String) (value : Value) : Fields :=
  if (fields.get? name).isSome then fields.replace name value else fields.insert name value

@[simp] theorem get?_nil (name : String) : get? [] name = none := rfl

theorem get?_cons (name other : String) (value : Value) (fields : Fields) :
    get? ((other, value) :: fields) name =
      if other = name then some value else get? fields name := by
  by_cases h : other = name <;> simp [get?, h]

/-- Replacing the value of a field changes that field alone. -/
theorem get?_replace {fields : Fields} {name : String} (h : (fields.get? name).isSome = true)
    (other : String) (value : Value) :
    (fields.replace name value).get? other = if name = other then some value else fields.get? other := by
  induction fields with
  | nil => cases h
  | cons entry rest ih =>
    obtain ⟨key, old⟩ := entry
    rw [get?_cons] at h
    rw [replace]
    split
    · rename_i hkey
      subst hkey
      by_cases hother : key = other <;> simp [get?_cons, hother]
    · rename_i hne
      rw [if_neg hne] at h
      rw [get?_cons, get?_cons, ih h]
      by_cases hother : key = other
      · subst hother; simp [Ne.symm hne]
      · simp [hother]

/-- A new field changes none of the others. -/
theorem get?_insert {fields : Fields} {name : String} (h : fields.get? name = none) (other : String)
    (value : Value) :
    (fields.insert name value).get? other = if name = other then some value else fields.get? other := by
  induction fields with
  | nil => simp [insert, get?_cons]
  | cons entry rest ih =>
    obtain ⟨key, old⟩ := entry
    rw [insert]
    split
    · rw [get?_cons]
    · rw [get?_cons] at h
      have hne : key ≠ name := fun hkey => by simp [hkey] at h
      rw [if_neg hne] at h
      rw [get?_cons, get?_cons, ih h]
      by_cases hother : key = other
      · subst hother; simp [Ne.symm hne]
      · simp [hother]

/-- Setting a field changes that field alone. -/
theorem get?_set (fields : Fields) (name other : String) (value : Value) :
    (fields.set name value).get? other = if name = other then some value else fields.get? other := by
  rw [set]
  split
  · rename_i h
    exact get?_replace h other value
  · rename_i h
    exact get?_insert (Option.not_isSome_iff_eq_none.mp h) other value

/-- Replacing the value of a field by itself changes nothing. -/
theorem replace_eq_self {fields : Fields} {name : String} {value : Value} (h : fields.get? name = some value) :
    fields.replace name value = fields := by
  induction fields with
  | nil => rfl
  | cons entry rest ih =>
    obtain ⟨key, old⟩ := entry
    rw [get?_cons] at h
    rw [replace]
    split
    · rename_i hkey
      rw [if_pos hkey] at h
      rw [Option.some.inj h]
    · rename_i hne
      rw [if_neg hne] at h
      rw [ih h]

/-- Setting a field to the value that it has changes nothing. -/
theorem set_eq_self {fields : Fields} {name : String} {value : Value} (h : fields.get? name = some value) :
    fields.set name value = fields := by
  rw [set, h, Option.isSome_some, if_pos rfl]
  exact replace_eq_self h

end Fields

namespace Value

mutual

/-- Equality by structure; references are compared by id. -/
def same : Value → Value → Bool
  | null, null => true
  | bool a, bool b => a == b
  | int a, int b => a == b
  | float a, float b => a.same b
  | text a, text b => a == b
  | variant a, variant b => a == b
  | object s fs, object t gs => s.qualified == t.qualified && sameFields fs gs
  | reference h, reference k => h.id == k.id
  | list xs, list ys => sameItems xs ys
  | _, _ => false

/-- `same` on fields: the same names with the same values. -/
def sameFields : List (String × Value) → List (String × Value) → Bool
  | [], [] => true
  | (n, v) :: fs, (m, w) :: gs => n == m && same v w && sameFields fs gs
  | _, _ => false

/-- `same` on lists, item by item. -/
def sameItems : List Value → List Value → Bool
  | [], [] => true
  | v :: vs, w :: ws => same v w && sameItems vs ws
  | _, _ => false

end

instance : BEq Value := ⟨same⟩

/-- Null, and the list without items, count as no collection. -/
def isEmptyCollection : Value → Bool
  | null => true
  | list items => items.isEmpty
  | _ => false

def isNull : Value → Bool
  | null => true
  | _ => false

def asBool? : Value → Option Bool
  | bool b => some b
  | _ => none

def asInt? : Value → Option Int
  | int n => some n
  | _ => none

def asFloat? : Value → Option Binary64
  | float x => some x
  | _ => none

/-- The text of a text or of a variant. -/
def asText? : Value → Option String
  | text s => some s
  | variant s => some s
  | _ => none

def asObject? : Value → Option (Shape × Fields)
  | object type fields => some (type, fields)
  | _ => none

def asReference? : Value → Option Handle
  | reference target => some target
  | _ => none

def asList? : Value → Option (List Value)
  | list items => some items
  | _ => none

end Value

namespace Handle

/-- Whether two handles are the same prototype. -/
def isSame (h k : Handle) : Bool :=
  h.address == k.address

/-- A handle as it is shown: its fields may lead back to it, so only the id is given. -/
def describe (h : Handle) : String :=
  "PrototypeRef(" ++ Text.quoted h.id ++ ")"

/-- The last prototype of a list that has the given id. -/
def lastWithId? (handles : List Handle) (id : String) : Option Handle :=
  handles.reverse.find? (·.id == id)

end Handle

end Archetype
