import Archetype.Number.Reading
import Archetype.Text.Blank
import Archetype.Text.Case
import Archetype.Value.Basic

/-!
# Converters

What turns the text of a scalar field into a value.

* **`Converter`** — anything that does so, for the field type of some name. A program may bring converters
  of its own along, which may make values of any kind.
* **`Converter.bool`**, **`Converter.int`**, **`Converter.float`**, **`Converter.text`**,
  **`Converter.enumeration`** — those that come with the library. All but the text converter disregard the
  blanks around the text.
* **`ConverterSet`** — the converters of a registry, at most one for each type name. `ConverterSet.best?`
  looks up the name itself and then, for a dotted name, the part after its last dot.
-/

namespace Archetype

open Text

/-- Why a text has no value. -/
inductive ConversionError
  | invalid (text type : String)
  | unknownVariant (text enumeration : String)
deriving DecidableEq, Repr

/-- The words for a failed conversion. -/
def ConversionError.message : ConversionError → String
  | invalid text type => s!"'{text}' is not a valid {type}"
  | unknownVariant text enumeration => s!"'{text}' is not a variant of enum '{enumeration}'"

/-- What turns a text into a value. -/
structure Converter where
  /-- The name of the field type that the converter is for. -/
  typeName : String
  /-- The value of a text. -/
  convert : String → Except ConversionError Value

namespace Converter

/-- The converter that reads the word left of a text without the blanks around it. -/
def reading (typeName : String) (read : String → Option Value) : Converter where
  typeName := typeName
  convert s :=
    let word := trimmed s
    match read word with
    | some v => .ok v
    | none => .error (.invalid word typeName)

/-- A truth value: one of the words `true` and `false` in any case, or one of the digits 1 and 0. -/
def readBool (s : String) : Option Bool :=
  let word := lowered s
  if word = "true" ∨ word = "1" then some true
  else if word = "false" ∨ word = "0" then some false
  else none

/-- Truth values. -/
def bool : Converter :=
  reading "bool" fun word => (readBool word).map .bool

/-- Whole numbers. -/
def int : Converter :=
  reading "int" fun word => (readInt64 word.toList).map .int

/-- Floating-point numbers. -/
def float : Converter :=
  reading "float" fun word => (readBinary64 word.toList).map .float

/-- Texts, exactly as they are written. -/
def text : Converter where
  typeName := "string"
  convert s := .ok (.text s)

/-- The variants of an enumeration. -/
def enumeration (name : String) (variants : List String) : Converter where
  typeName := name
  convert s :=
    let word := trimmed s
    if variants.contains word then .ok (.variant word)
    else .error (.unknownVariant word name)

end Converter

/-- The part of a name after its last dot, if it has one. -/
def afterLastDot (name : String) : Option String :=
  if name.toList.contains '.' then
    some (String.ofList (name.toList.reverse.takeWhile (· != '.')).reverse)
  else none

/-- Converters, at most one for each type name. -/
structure ConverterSet where
  converters : List Converter

namespace ConverterSet

/-- No converters. -/
def empty : ConverterSet :=
  ⟨[]⟩

/-- The converter for exactly this type name. -/
def get? (set : ConverterSet) (typeName : String) : Option Converter :=
  set.converters.find? (·.typeName == typeName)

/-- The set with a converter, which replaces one for the same type name. -/
def insert (set : ConverterSet) (c : Converter) : ConverterSet :=
  ⟨c :: set.converters.filter (·.typeName != c.typeName)⟩

/-- The built-in converters. -/
def builtin : ConverterSet :=
  (((empty.insert .bool).insert .int).insert .float).insert .text

/-- The converter for a type name: the one for exactly this name, else the one for the part after its
last dot. -/
def best? (set : ConverterSet) (typeName : String) : Option Converter :=
  match set.get? typeName with
  | some c => some c
  | none => (afterLastDot typeName).bind set.get?

/-- Whether there is a converter for the type name. -/
def contains (set : ConverterSet) (typeName : String) : Bool :=
  (set.best? typeName).isSome

/-- The type names there are converters for, in order. -/
def typeNames (set : ConverterSet) : List String :=
  (set.converters.map (·.typeName)).mergeSort fun a b => decide (a ≤ b)

/-- The set as it is shown. -/
def describe (set : ConverterSet) : String :=
  "ConverterSet \x7b types: " ++ Text.quotedList set.typeNames ++ " \x7d"

end ConverterSet

end Archetype
