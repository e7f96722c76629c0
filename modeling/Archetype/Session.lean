import Archetype.Allocation
import Archetype.Application
import Archetype.Binding
import Archetype.Markup.Parser
import Archetype.Ordering
import Archetype.Staging

/-!
# Sessions

Documents are parsed in batches. Within a batch, inheritance and references may cross documents in either
direction; and what earlier batches defined can be inherited from and referred to by later ones.

* **`Session`** — the definitions and prototypes so far, and the journal, which only grows.
* **`Session.stage`** — the definitions of one document. Staging collects its diagnostics in a list of its
  own, which is added to those of the session. A document that is not well formed is reported and gives none.
* **`Session.settle`** — what becomes of a batch of definitions: they are put in order, allocated, bound,
  applied, and filed under their ids.
* **`Session.parse`** — a batch of documents.
-/

namespace Archetype

/-- A text and the name it is reported under. -/
structure Document where
  name : String
  text : String

/-- What has been parsed. -/
structure Session where
  registry : Registry
  options : Options
  /-- The definitions that were not excluded, at most one for each id. -/
  table : List Definition
  /-- The prototypes, in the order of their allocation. -/
  prototypes : List Handle
  journal : Journal
  /-- Where the fields of the prototypes are. -/
  store : Store

/-- What has become of a batch. -/
structure Settled where
  created : List Handle
  table : List Definition
  store : Store

namespace Session

/-- A session in which nothing has been parsed. Default values may hold references to prototypes that
are in `store` already. -/
def start (registry : Registry) (options : Options) (store : Store) : Session :=
  { registry, options, table := [], prototypes := [], journal := {}, store }

/-! ## Documents -/

/-- The definitions of one document, with the types of one namespace preferred. -/
def stage (registry : Registry) (options : Options) (preferred : String) (document : Document) :
    Noted (List Definition) :=
  let lines := Text.Lines.ofText document.text
  match Markup.parse document.text with
  | .ok root => do
    let (definitions, found) ←
      Noted.gather (Staging.document ⟨registry, options, preferred, document.name, lines⟩ root)
    Noted.extend found
    return definitions
  | .error e => do
    Noted.report .error .malformedNode document.name (lines.line e.offset)
      s!"document skipped: {e.fault.message}: {e.fault.detail}"
    return []

/-- The definitions of several documents, in order. -/
def stageAll (registry : Registry) (options : Options) (preferred : String) :
    List Document → Noted (List Definition)
  | [] => pure []
  | document :: rest => do
    let definitions ← stage registry options preferred document
    return definitions ++ (← stageAll registry options preferred rest)

/-! ## Batches -/

/-- The batch with the definitions at the given positions marked as applied. -/
def markApplied (applied : List Nat) (batch : List Definition) : List Definition :=
  batch.zipIdx.map fun (d, i) => if applied.contains i then { d with state := .applied } else d

/-- The table with a definition filed under its id, in place of an earlier one. -/
def file (d : Definition) : List Definition → List Definition
  | [] => [d]
  | other :: rest => if other.id = d.id then d :: rest else other :: file d rest

/-- Reports that a definition takes the place of an earlier one. -/
def reportDuplicate (table : List Definition) (d : Definition) : Noted Unit :=
  match table.find? (·.id == d.id) with
  | none => pure ()
  | some previous =>
    Noted.report .warning .duplicateIdentifier d.location.file d.location.line
      s!"id '{d.id}' is already defined at {previous.location.file}:{previous.location.line}; the later definition wins"

/-- The table with the definitions of a batch filed, excluded ones aside. -/
def fileAll (table : List Definition) : List Definition → Noted (List Definition)
  | [] => pure table
  | d :: rest =>
    if d.isExcluded then fileAll table rest
    else do
      reportDuplicate table d
      fileAll (file d table) rest

/-- What becomes of a batch of definitions. -/
def settle (s : Session) (batch : List Definition) : Noted Settled := do
  let (order, batch) ← Ordering.order batch
  let (created, batch, store) ← allocate s.store batch
  let prototypes := s.prototypes ++ created
  let batch ← Binding.batch ⟨prototypes, s.options.reportUnresolved⟩ batch
  let (applied, store) ← Application.batch ⟨batch, s.table⟩ store order
  let table ← fileAll s.table (markApplied applied batch)
  Noted.record .debug
    s!"batch produced {created.length} prototypes ({prototypes.length} total)"
  return ⟨created, table, store⟩

/-- Parses a batch of documents. The result is the prototypes it created, and the session after it. -/
def parse (s : Session) (documents : List Document) (preferred : String) :
    List Handle × Session :=
  let run : Noted Settled := do
    s.settle (← stageAll s.registry s.options preferred documents)
  (run.value.created,
    { s with
      table := run.value.table
      prototypes := s.prototypes ++ run.value.created
      journal := s.journal ++ run.journal
      store := run.value.store })

/-! ## What has been parsed -/

/-- The problems so far. -/
def diagnostics (s : Session) : List Diagnostic :=
  s.journal.diagnostics

/-- The last prototype with the given id. -/
def get? (s : Session) (id : String) : Option Handle :=
  Handle.lastWithId? s.prototypes id

/-- The definition with the given id, abstract ones included. -/
def definition? (s : Session) (id : String) : Option Definition :=
  s.table.find? (·.id == id)

end Session

end Archetype
