/-!
# Schema errors

Why a set of type declarations does not make a registry.
-/

namespace Archetype

/-- What is wrong with a set of declarations. -/
inductive SchemaError
  | duplicateType (type : String)
  | unknownBase (type base : String)
  /-- The types of a circle of bases, each followed by its base, and the first once more at the end. -/
  | cyclicBase (circle : List String)
  | unknownFieldType (owner field type : String)
  | invalidReference (owner field type : String)
deriving DecidableEq, Repr

/-- What stands between the members of a circle. -/
def circleArrow : String := " \u2192 "

namespace SchemaError

/-- The words for an error. -/
def message : SchemaError → String
  | duplicateType type => s!"Type '{type}' is registered twice"
  | unknownBase type base => s!"Type '{type}' derives from unknown type '{base}'"
  | cyclicBase circle => "Base type cycle detected: " ++ circleArrow.intercalate circle
  | unknownFieldType owner field type => s!"Field '{field}' of '{owner}' has unknown type '{type}'"
  | invalidReference owner field type =>
    s!"Field '{field}' of '{owner}' references '{type}', which is not a prototype type"

/-- The stable identifier of the kind of error. -/
def code : SchemaError → String
  | duplicateType _ => "registry::duplicate_type"
  | unknownBase _ _ => "registry::unknown_base"
  | cyclicBase _ => "registry::base_cycle"
  | unknownFieldType _ _ _ => "registry::unknown_field_type"
  | invalidReference _ _ _ => "registry::invalid_reference"

/-- Advice, where there is some. -/
def help? : SchemaError → Option String
  | invalidReference _ _ _ =>
    some "Reference fields must point at types registered with \x60TypeDescriptor::prototype\x60."
  | _ => none

end SchemaError

end Archetype
