/-!
# Diagnostics and the log

Problems in documents never stop a run: they are reported as diagnostics, and the run goes on. Every
diagnostic is also sent to the log, where the passes leave traces of their own. The two are written to
independently of each other: a record in the log is no diagnostic, and a diagnostic that is added to a list
is not logged by that.

* **`Diagnostic`** — a problem, at a line of a file. `Diagnostic.display` is its text.
* **`Journal`** — what a run adds to a list of diagnostics and what it adds to the log, each in order.
* **`Noted`** — a result with the journal of the run that led to it. What runs one after the other add is
  appended, in the list and in the log.
* **`Noted.record`**, **`Noted.extend`** — the two ways to write: to the log alone, and to the list alone.
  **`Noted.push`** does both, with a problem that was found just now.
* **`Noted.gather`** — a run with a list of its own, which is handed over with the result. Its records go to
  the log all the same.
-/

namespace Archetype

/-- How bad a problem is. -/
inductive Severity
  | info
  | warning
  | error
deriving DecidableEq, Repr

namespace Severity

/-- The severities in ascending order. -/
def rank : Severity → Nat
  | info => 0
  | warning => 1
  | error => 2

/-- The word for a severity. -/
def word : Severity → String
  | info => "info"
  | warning => "warning"
  | error => "error"

end Severity

/-- What a problem is about. -/
inductive DiagnosticKind
  | missingIdentifier
  | unknownContainerType
  | unknownElementType
  | unknownField
  | missingSerializer
  | typeMismatchOnApply
  | malformedNode
  | unresolvedInheritanceTarget
  | cyclicInheritance
  | unresolvedReference
  | duplicateIdentifier
deriving DecidableEq, Repr

/-- A problem that was found, and where. -/
structure Diagnostic where
  severity : Severity
  kind : DiagnosticKind
  file : String
  line : Nat
  message : String
deriving DecidableEq, Repr

/-- The diagnostic as a line of text. -/
def Diagnostic.display (d : Diagnostic) : String :=
  s!"{d.file}:{d.line}: {d.severity.word}: {d.message}"

/-- The level of a log record. -/
inductive Level
  | error
  | warn
  | info
  | debug
  | trace
deriving DecidableEq, Repr

/-- A line of the log. -/
structure LogRecord where
  level : Level
  text : String
deriving DecidableEq, Repr

/-- The level at which diagnostics of a severity are logged. -/
def Severity.level : Severity → Level
  | info => .info
  | warning => .warn
  | error => .error

/-- What a run adds to a list of diagnostics, and what it adds to the log. -/
structure Journal where
  diagnostics : List Diagnostic := []
  log : List LogRecord := []
deriving DecidableEq, Repr

namespace Journal

/-- The journal of two runs, one after the other. -/
protected def append (j k : Journal) : Journal :=
  ⟨j.diagnostics ++ k.diagnostics, j.log ++ k.log⟩

instance : Append Journal := ⟨Journal.append⟩

/-- The journal of a run that reports one problem: it is kept, and logged at the level of its severity. -/
def ofDiagnostic (d : Diagnostic) : Journal :=
  ⟨[d], [⟨d.severity.level, d.display⟩]⟩

@[simp] theorem diagnostics_append (j k : Journal) :
    (j ++ k).diagnostics = j.diagnostics ++ k.diagnostics := rfl

@[simp] theorem log_append (j k : Journal) : (j ++ k).log = j.log ++ k.log := rfl

end Journal

/-- Whether a problem was an error. -/
def hasErrors (diagnostics : List Diagnostic) : Bool :=
  diagnostics.any (·.severity == .error)

/-- The worst severity among the problems. -/
def worst? : List Diagnostic → Option Severity
  | [] => none
  | d :: ds =>
    match worst? ds with
    | some s => some (if s.rank < d.severity.rank then d.severity else s)
    | none => some d.severity

/-- The problems of one kind, in order. -/
def ofKind (kind : DiagnosticKind) (diagnostics : List Diagnostic) : List Diagnostic :=
  diagnostics.filter (·.kind == kind)

/-- A result and the journal of the run that led to it. -/
structure Noted (α : Type) where
  value : α
  journal : Journal

namespace Noted

instance : Monad Noted where
  pure a := ⟨a, {}⟩
  bind m f := ⟨(f m.value).value, m.journal ++ (f m.value).journal⟩

@[simp] theorem value_pure {α : Type} (a : α) : (pure a : Noted α).value = a := rfl

@[simp] theorem journal_pure {α : Type} (a : α) : (pure a : Noted α).journal = {} := rfl

@[simp] theorem value_bind {α β : Type} (m : Noted α) (f : α → Noted β) :
    (m >>= f).value = (f m.value).value := rfl

@[simp] theorem journal_bind {α β : Type} (m : Noted α) (f : α → Noted β) :
    (m >>= f).journal = m.journal ++ (f m.value).journal := rfl

/-- Leaves a record in the log, and no diagnostic, whatever the level of the record. -/
def record (level : Level) (text : String) : Noted Unit :=
  ⟨(), [], [⟨level, text⟩]⟩

/-- Adds problems to the diagnostics. Nothing is logged by that: they may have been when they were found. -/
def extend (found : List Diagnostic) : Noted Unit :=
  ⟨(), found, []⟩

/-- Takes a problem that was found: it is logged at the level of its severity, and added to the diagnostics. -/
def push (d : Diagnostic) : Noted Unit := do
  record d.severity.level d.display
  extend [d]

/-- Reports a problem. -/
def report (severity : Severity) (kind : DiagnosticKind) (file : String) (line : Nat)
    (message : String) : Noted Unit :=
  push ⟨severity, kind, file, line, message⟩

/-- Runs with a list of its own for the diagnostics, which comes with the result. What is logged is logged. -/
def gather {α : Type} (m : Noted α) : Noted (α × List Diagnostic) :=
  ⟨(m.value, m.journal.diagnostics), [], m.journal.log⟩

theorem journal_push (d : Diagnostic) : (push d).journal = .ofDiagnostic d := rfl

/-- Adding what was gathered comes to what would have been added at once. -/
theorem extend_gather {α : Type} (m : Noted α) :
    (do
      let (a, found) ← gather m
      extend found
      return a) = m := by
  obtain ⟨a, diagnostics, log⟩ := m
  have hdiagnostics : [] ++ (diagnostics ++ []) = diagnostics := List.append_nil diagnostics
  have hlog : log ++ ([] ++ []) = log := List.append_nil log
  show (⟨a, [] ++ (diagnostics ++ []), log ++ ([] ++ [])⟩ : Noted α) = _
  rw [hdiagnostics, hlog]

end Noted

end Archetype
