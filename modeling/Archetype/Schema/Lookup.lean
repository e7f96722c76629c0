import Archetype.Schema.Shape

/-!
# Looking up types by name

A type is referred to by its qualified name or, from anywhere, by its simple name. A simple name that
several namespaces declare stands for the type in the preferred namespace, or else for the one
declared first.

* **`qualified?`** — the type with a given qualified name.
* **`candidate?`** — the type a simple name stands for.
* **`lookup?`** — the type a name stands for. A dotted name is always a qualified name. The name of a type
  without a namespace is both, and is taken as qualified only where no namespace is preferred.
-/

namespace Archetype.Lookup

/-- Whether the name has a dot in it. -/
def isDotted (name : String) : Bool :=
  name.toList.contains '.'

/-- The position of the type with the given qualified name. -/
def qualified? (types : List TypeHead) (name : String) : Option Nat :=
  types.findIdx? (·.qualified == name)

/-- The position of the type that a simple name stands for. -/
def candidate? (types : List TypeHead) (name preferred : String) : Option Nat :=
  match types.findIdx? fun t => t.name == name && t.scope == preferred with
  | some i => some i
  | none => types.findIdx? (·.name == name)

/-- The position of the type that a name stands for. -/
def lookup? (types : List TypeHead) (name preferred : String) : Option Nat :=
  let bySimpleName := if isDotted name then none else candidate? types name preferred
  match qualified? types name with
  | some i =>
    if isDotted name || (types[i]?).any (·.scope == preferred) then some i else bySimpleName
  | none => bySimpleName

end Archetype.Lookup
