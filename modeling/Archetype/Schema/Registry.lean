import Archetype.Ancestry
import Archetype.Journal
import Archetype.Schema.Converter
import Archetype.Schema.Descriptor
import Archetype.Schema.Error
import Archetype.Schema.Lookup

/-!
# The registry

The types that documents are read against, and the converters for their scalar fields.

* **`Registry.ofDeclarations`** — the registry of a list of declarations. Qualified names must be pairwise
  different, every name that a declaration uses must stand for a declared type, and no type may derive from
  itself. Then the types are completed one after the other, each by its base, in an order in which bases come
  first (`Registry.baseOrder`, `Registry.completeAll`).
* **`Registry.find?`**, **`Registry.get?`** — types by name, and by qualified name.
* **`Draft`** — declarations and converters being collected.
-/

namespace Archetype

/-- Types, in the order of their declaration, and converters. -/
structure Registry where
  types : List Descriptor
  converters : ConverterSet

namespace Registry

/-! ## Checking declarations -/

/-- The first name that occurs among the names before it. -/
def firstRepeated? (seen : List String) : List String → Option String
  | [] => none
  | name :: names => if seen.contains name then some name else firstRepeated? (name :: seen) names

/-- The heads of declarations, which names are looked up in. -/
def heads (types : List Descriptor) : List TypeHead :=
  types.map (·.toTypeHead)

/-- The position of the base of a declared type. -/
def baseOf (declared : List TypeHead) (type : TypeHead) : Except SchemaError (Option Nat) :=
  match type.base with
  | none => .ok none
  | some base =>
    match Lookup.lookup? declared base type.scope with
    | some i => .ok (some i)
    | none => .error (.unknownBase type.qualified base)

/-- The declared type that a field's type names, looked up from the namespace of the type that declares
the field. -/
def named (declared : List TypeHead) (owner : TypeHead) (field name : String) :
    Except SchemaError TypeHead :=
  match (Lookup.lookup? declared name owner.scope).bind (declared[·]?) with
  | some target => .ok target
  | none => .error (.unknownFieldType owner.qualified field name)

/-- The type of a field with qualified names for the names it was declared with. An object type that names
a prototype type becomes a reference. -/
def resolveType (declared : List TypeHead) (owner : TypeHead) (field : String) :
    FieldType → Except SchemaError FieldType
  | .scalar converter => .ok (.scalar converter)
  | .object name => do
    let target ← named declared owner field name
    return if target.isPrototype then .reference target.qualified else .object target.qualified
  | .reference name => do
    let target ← named declared owner field name
    if target.isPrototype then return .reference target.qualified
    else .error (.invalidReference owner.qualified field target.qualified)
  | .collection kind element => do
    return .collection kind (← resolveType declared owner field element)

/-- A declared field with its type resolved. -/
def resolveField (declared : List TypeHead) (owner : TypeHead) (f : Field) :
    Except SchemaError Field := do
  return { f with type := ← resolveType declared owner f.name f.type }

/-- The fields of a declared type with their types resolved. -/
def resolveFields (declared : List TypeHead) (type : Descriptor) : Except SchemaError Descriptor := do
  return { type with fields := ← type.fields.mapM (resolveField declared type.toTypeHead) }

/-- The positions of declared types in an order in which each comes after its base. If there is none, a circle
of bases is what is wrong. -/
def baseOrder (declared : List TypeHead) (bases : List (Option Nat)) : Except SchemaError (List Nat) :=
  match Ancestry.sort bases with
  | .ok order => .ok order
  | .error circle => .error (.cyclicBase (circle.filterMap fun j => (declared[j]?).map (·.qualified)))

/-! ## Completing types by their bases -/

/-- The fields of a base, with the fields of a derived type declared after them. -/
def deriveFields (base own : List Field) : List Field :=
  own.foldl (fun fields f => f.declareIn fields) base

/-- A type completed by its base, if it has one. The base is complete already. -/
def complete (type : Descriptor) : Option Descriptor → Descriptor
  | none => { type with ancestors := [], fields := deriveFields [] type.fields }
  | some base =>
    { type with
      base := some base.qualified
      ancestors := base.qualified :: base.ancestors
      fields := deriveFields base.fields type.fields }

/-- The complete base of the type at a position, as far as the types have been built. -/
def builtBase? (bases : List (Option Nat)) (built : List (Option Descriptor)) (i : Nat) :
    Option Descriptor :=
  (bases[i]?).join.bind fun j => (built[j]?).join

/-- Builds the type at a position: what has been built of the others holds its base. -/
def completeAt (types : List Descriptor) (bases : List (Option Nat)) (built : List (Option Descriptor))
    (i : Nat) : List (Option Descriptor) :=
  match types[i]? with
  | none => built
  | some type => built.set i (some (complete type (builtBase? bases built i)))

/-- The types completed at the given positions, one after the other. -/
def completeAll (types : List Descriptor) (bases : List (Option Nat)) (order : List Nat) :
    List Descriptor :=
  (order.foldl (completeAt types bases) (List.replicate types.length none)).filterMap id

/-- The types of a list of declarations, or what is wrong with it. -/
def typesOf (declarations : List Descriptor) : Except SchemaError (List Descriptor) := do
  let declared := heads declarations
  match firstRepeated? [] (declared.map (·.qualified)) with
  | some name => throw (.duplicateType name)
  | none => pure ()
  let bases ← declared.mapM (baseOf declared)
  let types ← declarations.mapM (resolveFields declared)
  let order ← baseOrder declared bases
  return completeAll types bases order

/-- The registry of a list of declarations, or what is wrong with it. -/
def ofDeclarations (declarations : List Descriptor) (converters : ConverterSet) :
    Except SchemaError Registry := do
  return ⟨← typesOf declarations, converters⟩

/-! ## Using a registry -/

/-- The type a name stands for, with the types of one namespace preferred. -/
def find? (r : Registry) (name preferred : String) : Option Descriptor :=
  (Lookup.lookup? (heads r.types) name preferred).bind (r.types[·]?)

/-- The type with the given qualified name. -/
def get? (r : Registry) (name : String) : Option Descriptor :=
  (Lookup.qualified? (heads r.types) name).bind (r.types[·]?)

/-- The registry as it is shown. -/
def describe (r : Registry) : String :=
  "TypeRegistry \x7b types: " ++ Text.quotedList (r.types.map (·.qualified)) ++
    ", converters: " ++ r.converters.describe ++ " \x7d"

end Registry

/-! ## Collecting declarations -/

/-- Declarations and converters being collected. Without a word about converters the built-in ones are
meant. -/
structure Draft where
  declarations : List Descriptor := []
  converters : Option ConverterSet := none
  /-- Whether the types that are submitted with the program have been added. -/
  scanned : Bool := false

namespace Draft

/-- The draft with one more type. -/
def register (d : Draft) (type : Descriptor) : Draft :=
  { d with declarations := d.declarations ++ [type] }

/-- The draft with one more converter, beside the built-in ones. -/
def addConverter (d : Draft) (c : Converter) : Draft :=
  { d with converters := some ((d.converters.getD .builtin).insert c) }

/-- The draft with these converters and no others. -/
def withConverters (d : Draft) (set : ConverterSet) : Draft :=
  { d with converters := some set }

/-- The draft with the submitted types, which are added once however often this is done. -/
def scan (d : Draft) (submitted : List Descriptor) : Noted Draft :=
  if d.scanned then pure d
  else do
    Noted.record .debug s!"type scan found {submitted.length} registrations"
    return { d with declarations := d.declarations ++ submitted, scanned := true }

/-- The registry of the draft, or what is wrong with its declarations. -/
def build (d : Draft) : Noted (Except SchemaError Registry) :=
  match Registry.ofDeclarations d.declarations (d.converters.getD .builtin) with
  | .error e => pure (.error e)
  | .ok registry => do
    Noted.record .debug s!"type registry built with {registry.types.length} types"
    return .ok registry

end Draft

end Archetype
