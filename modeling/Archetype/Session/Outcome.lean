import Archetype.Session
import Archetype.Value.Outline

/-!
# Outcomes

What a session leaves behind: its prototypes and its diagnostics.

* **`Session.outcome`** — the outcome of a session.
* **`Outcome.outline`** — the outcome as plain data, which can then be written.
* **`Outcome.release`** — drops the fields of all prototypes, and with them the references among them.
-/

namespace Archetype

/-- The name of a severity in written outcomes. -/
def Severity.name : Severity → String
  | info => "Info"
  | warning => "Warning"
  | error => "Error"

/-- The name of a kind of problem. -/
def DiagnosticKind.name : DiagnosticKind → String
  | missingIdentifier => "MissingIdentifier"
  | unknownContainerType => "UnknownContainerType"
  | unknownElementType => "UnknownElementType"
  | unknownField => "UnknownField"
  | missingSerializer => "MissingSerializer"
  | typeMismatchOnApply => "TypeMismatchOnApply"
  | malformedNode => "MalformedNode"
  | unresolvedInheritanceTarget => "UnresolvedInheritanceTarget"
  | cyclicInheritance => "CyclicInheritance"
  | unresolvedReference => "UnresolvedReference"
  | duplicateIdentifier => "DuplicateIdentifier"

/-- A problem as plain data. -/
def Diagnostic.outline (d : Diagnostic) : Datum :=
  .record [("severity", .text d.severity.name), ("kind", .text d.kind.name),
    ("file", .text d.file), ("line", .int d.line), ("message", .text d.message)]

/-- Prototypes and problems, without the definitions they came from. -/
structure Outcome where
  prototypes : List Handle
  diagnostics : List Diagnostic

/-- What a session leaves behind. -/
def Session.outcome (s : Session) : Outcome :=
  ⟨s.prototypes, s.diagnostics⟩

namespace Outcome

/-- The last prototype with the given id. -/
def get? (o : Outcome) (id : String) : Option Handle :=
  Handle.lastWithId? o.prototypes id

/-- The outcome as plain data. -/
def outline (o : Outcome) (store : Store) : Datum :=
  .record [("prototypes", .list (o.prototypes.map store.outline)),
    ("diagnostics", .list (o.diagnostics.map (·.outline)))]

/-- The store after the fields of all prototypes are dropped. -/
def release (o : Outcome) (store : Store) : Store :=
  o.prototypes.foldl Store.clear store

end Outcome

/-- Parses one document in a session of its own, with the default options and no namespace preferred. -/
def parseOnce (registry : Registry) (store : Store) (document : Document) : Session :=
  ((Session.start registry {} store).parse [document] "").2

end Archetype
