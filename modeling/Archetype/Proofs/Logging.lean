import Archetype.Proofs.History

/-! # What the log says of problems

    Diagnostics and the log are written to apart from each other.  A problem is pushed once, where it is found,
    which writes to both; the records that passes leave on their own account stand at the levels of traces
    (`Level.isTrace`); and the list that is gathered from a document is added to that of the session without
    being logged again.  So the other records of a log are the diagnostics of its journal, in order and each
    once (`Journal.Agrees`).

    What a single push or record does is looked at where it stands in each pass.  Neither half of a push agrees
    with the other list on its own, nor does a list that is gathered or added: it is the two steps together that
    do (`LogsProblems.merged`).  A session keeps the agreement through every history. -/

namespace Archetype

/-- Whether records of the level are the traces of a pass, and not about problems. -/
def Level.isTrace : Level → Bool
  | .error | .warn | .info => false
  | .debug | .trace => true

/-- The record that a problem is logged as. -/
def Diagnostic.record (d : Diagnostic) : LogRecord :=
  ⟨d.severity.level, d.display⟩

namespace Journal

/-- The records of the log that are about problems. -/
def problemRecords (j : Journal) : List LogRecord :=
  j.log.filter fun r => !r.level.isTrace

/-- The problems that were logged are those that were reported, in the same order. -/
def Agrees (j : Journal) : Prop :=
  j.problemRecords = j.diagnostics.map (·.record)

theorem problemRecords_append (j k : Journal) :
    (j ++ k).problemRecords = j.problemRecords ++ k.problemRecords :=
  List.filter_append _ _

theorem agrees_empty : Agrees {} := rfl

theorem Agrees.append {j k : Journal} (hj : j.Agrees) (hk : k.Agrees) : (j ++ k).Agrees := by
  rw [Agrees] at hj hk ⊢
  rw [problemRecords_append, diagnostics_append, List.map_append, hj, hk]

/-- No problem is logged at the level of a trace. -/
theorem isTrace_level (severity : Severity) : severity.level.isTrace = false := by
  cases severity <;> rfl

/-- What is pushed stands in both, as the last entry of each. -/
theorem agrees_ofDiagnostic (d : Diagnostic) : (ofDiagnostic d).Agrees := by
  have hkept : (!d.severity.level.isTrace) = true := by rw [isTrace_level]; rfl
  exact List.filter_cons_of_pos hkept

end Journal

namespace Noted

variable {α β : Type}

/-- The problems that a run logs are those that it reports. -/
def LogsProblems (m : Noted α) : Prop :=
  m.journal.Agrees

theorem logsProblems_pure (a : α) : (pure a : Noted α).LogsProblems := Journal.agrees_empty

/-- Recording a problem and adding it to the list agree when both are done. -/
theorem logsProblems_push (d : Diagnostic) : (push d).LogsProblems := by
  rw [LogsProblems, journal_push]
  exact Journal.agrees_ofDiagnostic d

theorem logsProblems_report (severity : Severity) (kind : DiagnosticKind) (file : String) (line : Nat)
    (message : String) : (report severity kind file line message).LogsProblems :=
  logsProblems_push _

/-- A record agrees with no diagnostic only at the level of a trace. -/
theorem logsProblems_record {level : Level} (hlevel : level.isTrace = true) (text : String) :
    (record level text).LogsProblems := by
  have hdropped : ¬(!level.isTrace) = true := by rw [hlevel]; exact Bool.false_ne_true
  exact List.filter_cons_of_neg hdropped

theorem LogsProblems.bind {m : Noted α} {f : α → Noted β} (hm : m.LogsProblems)
    (hf : (f m.value).LogsProblems) : (m >>= f).LogsProblems :=
  Journal.Agrees.append hm hf

/-- What a run does with its result at the end is not logged. -/
theorem LogsProblems.returning {m : Noted α} (hm : m.LogsProblems) (f : α → β) :
    (m >>= fun a => pure (f a)).LogsProblems :=
  hm.bind (logsProblems_pure _)

/-- While a run has a list of its own, the log receives what will be in that list. -/
theorem LogsProblems.problemRecords_gather {m : Noted α} (hm : m.LogsProblems) :
    (gather m).journal.problemRecords = (gather m).value.2.map (·.record) :=
  hm

/-- Adding problems to a list leaves the log alone. -/
theorem problemRecords_extend (found : List Diagnostic) : (extend found).journal.problemRecords = [] := rfl

/-- What a run has found in a list of its own is logged once, although it is added to another list after it. -/
theorem LogsProblems.merged {m : Noted α} (hm : m.LogsProblems) :
    (do
      let (a, found) ← gather m
      extend found
      return a).LogsProblems := by
  -- The records come from `gather` alone, the diagnostics from `extend` alone.
  rw [LogsProblems, Journal.Agrees, journal_bind, journal_bind, Journal.problemRecords_append,
    Journal.problemRecords_append, hm.problemRecords_gather, problemRecords_extend]
  show List.map _ _ ++ [] = List.map _ ([] ++ ((gather m).value.2 ++ []))
  rw [List.append_nil, List.nil_append, List.append_nil]

/-- Had the list been pushed instead of added, its problems would be in the log twice. -/
example :
    (do
      let (_, found) ← gather (report .warning .unknownField "a.xml" 3 "unknown field 'dmg'")
      found.forM push : Noted Unit).journal.log.length = 2 := rfl

end Noted

open Noted

/-! ## Staging -/

namespace Staging

open Markup

variable (s : Staging)

theorem logsProblems_reject {α : Type} (kind : DiagnosticKind) (e : Element) (message : String) :
    (s.reject kind e message : Noted (Option α)).LogsProblems :=
  (logsProblems_report _ _ _ _ _).returning _

theorem logsProblems_warnStrayText (e : Element) (message : String) :
    (s.warnStrayText e message).LogsProblems := by
  rw [warnStrayText]
  split
  · exact logsProblems_report _ _ _ _ _
  · exact logsProblems_pure _

theorem logsProblems_scalar (e : Element) (converter : String) :
    (s.scalar e converter).LogsProblems := by
  rw [scalar]
  split
  · exact s.logsProblems_reject _ e _
  · split
    · exact s.logsProblems_reject _ e _
    · split
      · exact logsProblems_pure _
      · exact s.logsProblems_reject _ e _

theorem logsProblems_reference (e : Element) : (s.reference e).LogsProblems := by
  rw [reference]
  split
  · exact s.logsProblems_reject _ e _
  · exact logsProblems_pure _

theorem logsProblems_objectType? (e : Element) (declared : String) :
    (s.objectType? e declared).LogsProblems := by
  refine LogsProblems.bind ?_ ?_
  · split
    · split
      · exact logsProblems_pure _
      · exact s.logsProblems_reject _ e _
    · split
      · exact s.logsProblems_reject _ e _
      · split
        · exact logsProblems_pure _
        · exact s.logsProblems_reject _ e _
  · split
    · exact logsProblems_pure _
    · split
      · exact s.logsProblems_reject _ e _
      · exact logsProblems_pure _

theorem logsProblems_overrideAction (e : Element) : (s.overrideAction e).LogsProblems := by
  rw [overrideAction]
  split
  · exact logsProblems_pure _
  · split
    · exact logsProblems_pure _
    · exact s.logsProblems_reject _ e _

mutual

theorem logsProblems_value : ∀ (e : Element) (type : FieldType), (s.value e type).LogsProblems
  | ⟨name, attributes, children, start, stop⟩, .scalar converter => by
      rw [value]
      exact s.logsProblems_scalar _ _
  | ⟨name, attributes, children, start, stop⟩, .reference _ => by
      rw [value]
      exact s.logsProblems_reference _
  | ⟨name, attributes, children, start, stop⟩, .object declared => by
      rw [value]
      refine (s.logsProblems_objectType? _ _).bind ?_
      split
      · exact logsProblems_pure _
      · exact (s.logsProblems_warnStrayText _ _).bind
          ((logsProblems_statements _ children).returning _)
  | ⟨name, attributes, children, start, stop⟩, .collection kind element => by
      rw [value]
      exact (s.logsProblems_overrideAction _).bind ((s.logsProblems_warnStrayText _ _).bind
        ((logsProblems_entries element children).returning _))

theorem logsProblems_statements (type : Descriptor) : ∀ children : List Node,
    (s.statements type children).LogsProblems
  | [] => logsProblems_pure _
  | .text _ :: rest => logsProblems_statements type rest
  | .element e :: rest => by
      rw [statements]
      refine LogsProblems.bind ?_ ((logsProblems_statements type rest).returning _)
      split
      · exact s.logsProblems_reject _ e _
      · exact logsProblems_value e _

theorem logsProblems_entries (element : FieldType) : ∀ children : List Node,
    (s.entries element children).LogsProblems
  | [] => logsProblems_pure _
  | .text _ :: rest => logsProblems_entries element rest
  | .element e :: rest => by
      rw [entries]
      refine LogsProblems.bind ?_ ((logsProblems_entries element rest).returning _)
      split
      · exact logsProblems_value e _
      · exact s.logsProblems_reject _ e _

end

theorem logsProblems_abstractMark (e : Element) (id : String) :
    (s.abstractMark e id).LogsProblems := by
  rw [abstractMark]
  split
  · exact logsProblems_pure _
  · split
    · exact logsProblems_pure _
    · split
      · exact logsProblems_pure _
      · exact (logsProblems_report _ _ _ _ _).returning _

theorem logsProblems_warnAttributes (id : String) (attributes : List Attribute) :
    (s.warnAttributes id attributes).LogsProblems := by
  induction attributes with
  | nil => exact logsProblems_pure _
  | cons a rest ih =>
      rw [warnAttributes]
      split
      · exact (logsProblems_report _ _ _ _ _).bind ih
      · exact ih

theorem logsProblems_itemType? (e : Element) (id : String) (container : Descriptor) :
    (s.itemType? e id container).LogsProblems := by
  rw [itemType?]
  split
  · exact logsProblems_pure _
  · split
    · exact s.logsProblems_reject _ e _
    · split
      · exact logsProblems_pure _
      · exact s.logsProblems_reject _ e _

theorem logsProblems_item? (container : Descriptor) (e : Element) :
    (s.item? container e).LogsProblems := by
  rw [item?]
  split
  · exact s.logsProblems_reject _ e _
  · split
    · exact s.logsProblems_reject _ e _
    · refine (s.logsProblems_abstractMark e _).bind ((s.logsProblems_warnAttributes _ _).bind
        ((s.logsProblems_itemType? e _ _).bind ?_))
      split
      · exact logsProblems_pure _
      · split
        · exact s.logsProblems_reject _ e _
        · refine LogsProblems.returning ?_ _
          exact (s.logsProblems_warnStrayText _ _).bind ((s.logsProblems_statements _ _).returning _)

theorem logsProblems_items (container : Descriptor) (es : List Element) :
    (s.items container es).LogsProblems := by
  induction es with
  | nil => exact logsProblems_pure _
  | cons e rest ih =>
      rw [items]
      exact (s.logsProblems_item? container e).bind (ih.returning _)

theorem logsProblems_containerType? (root : Element) : (s.containerType? root).LogsProblems := by
  rw [containerType?]
  split
  · exact s.logsProblems_reject _ root _
  · split
    · exact s.logsProblems_reject _ root _
    · split
      · exact logsProblems_pure _
      · exact s.logsProblems_reject _ root _

theorem logsProblems_document (root : Element) : (s.document root).LogsProblems := by
  refine LogsProblems.bind ?_ ((logsProblems_record rfl _).returning _)
  refine (s.logsProblems_containerType? root).bind ?_
  split
  · exact logsProblems_pure _
  · exact (s.logsProblems_warnStrayText _ _).bind (s.logsProblems_items _ _)

end Staging

/-! ## Ordering, allocating and binding -/

theorem Ordering.logsProblems_reportCircles (batch : List Definition) (parents : List (Option Nat))
    (numbered : List (Definition × Nat)) : (reportCircles batch parents numbered).LogsProblems := by
  induction numbered with
  | nil => exact logsProblems_pure _
  | cons entry rest ih =>
      obtain ⟨d, i⟩ := entry
      rw [reportCircles]
      split
      · exact (logsProblems_pure _).bind ih
      · exact (logsProblems_report _ _ _ _ _).bind ih

theorem Ordering.logsProblems_order (batch : List Definition) : (order batch).LogsProblems :=
  (logsProblems_reportCircles batch _ _).bind ((logsProblems_record rfl _).returning _)

theorem logsProblems_allocate (store : Store) (batch : List Definition) :
    (allocate store batch).LogsProblems :=
  (logsProblems_record rfl _).returning _

namespace Binding

theorem logsProblems_reportUnknown (b : Binding) (id : String) (location : Location) :
    (b.reportUnknown id location).LogsProblems := by
  rw [reportUnknown]
  split
  · exact logsProblems_report _ _ _ _ _
  · exact logsProblems_pure _

mutual

theorem logsProblems_value (b : Binding) (location : Location) :
    ∀ v : Staged, (b.value location v).LogsProblems
  | .scalar _ _ => logsProblems_pure _
  | .object ⟨_, fields, _⟩ => (logsProblems_fields b fields).returning _
  | .collection _ _ elements => (logsProblems_elements b location elements).returning _
  | .pending id => (b.logsProblems_reportUnknown id location).returning _
  | .bound _ _ => logsProblems_pure _

theorem logsProblems_fields (b : Binding) : ∀ fields : List StagedField,
    (b.fields fields).LogsProblems
  | [] => logsProblems_pure _
  | ⟨_, v, location⟩ :: rest =>
      (logsProblems_value b location v).bind ((logsProblems_fields b rest).returning _)

theorem logsProblems_elements (b : Binding) (location : Location) : ∀ elements : List Staged,
    (b.elements location elements).LogsProblems
  | [] => logsProblems_pure _
  | v :: rest =>
      (logsProblems_value b location v).bind ((logsProblems_elements b location rest).returning _)

end

theorem logsProblems_definition (b : Binding) (d : Definition) : (b.definition d).LogsProblems := by
  rw [Binding.definition]
  split
  · exact logsProblems_pure _
  · exact (b.logsProblems_fields _).returning _

theorem logsProblems_definitions (b : Binding) (ds : List Definition) :
    (b.definitions ds).LogsProblems := by
  induction ds with
  | nil => exact logsProblems_pure _
  | cons d rest ih => exact (b.logsProblems_definition d).bind (ih.returning _)

theorem logsProblems_batch (b : Binding) (batch : List Definition) :
    (b.batch batch).LogsProblems :=
  (b.logsProblems_definitions batch).bind ((logsProblems_record rfl _).returning _)

end Binding

/-! ## Applying -/

namespace Application

theorem logsProblems_mismatch (location : Location) (message : String) :
    (mismatch location message).LogsProblems :=
  (logsProblems_report _ _ _ _ _).returning _

theorem logsProblems_reference (declared : String) (location : Location) (target : Option Handle) :
    (reference declared location target).LogsProblems := by
  rw [reference.eq_def]
  split
  · exact logsProblems_pure _
  · split
    · exact logsProblems_pure _
    · exact logsProblems_mismatch _ _

mutual

theorem logsProblems_built (type : FieldType) (existing : Option Value) (location : Location) :
    ∀ v : Staged, (built type existing location v).LogsProblems
  | .scalar converter v => by
      rw [built_scalar]
      split
      · split
        · exact logsProblems_pure _
        · exact logsProblems_mismatch _ _
      · exact logsProblems_mismatch _ _
  | .bound id target => by
      rw [built_bound]
      split
      · exact logsProblems_reference _ _ _
      · exact logsProblems_mismatch _ _
  | .object ⟨stated, staged, place⟩ => by
      rw [built_object]
      split
      · split
        · exact (logsProblems_statements _ _ staged).returning _
        · exact logsProblems_mismatch _ _
      · exact logsProblems_mismatch _ _
  | .collection stated action staged => by
      rw [built_collection]
      split
      · split
        · exact (logsProblems_elements _ _ location _ staged).returning _
        · exact logsProblems_mismatch _ _
      · exact logsProblems_mismatch _ _
  | .pending id => by
      rw [built]
      exact logsProblems_mismatch _ _

theorem logsProblems_statements (target : Shape) (fields : Fields) :
    ∀ staged : List StagedField, (statements target fields staged).LogsProblems
  | [] => logsProblems_pure _
  | ⟨name, v, location⟩ :: rest => by
      rw [statements]
      split
      · exact (logsProblems_mismatch _ _).bind (logsProblems_statements target fields rest)
      · refine (logsProblems_record rfl _).bind
          ((logsProblems_built _ (fields.get? name) location v).bind ?_)
        split
        · exact logsProblems_statements target _ rest
        · exact logsProblems_statements target fields rest

theorem logsProblems_elements (kind : CollectionKind) (element : FieldType) (location : Location)
    (items : List Value) : ∀ staged : List Staged,
      (elements kind element location items staged).LogsProblems
  | [] => logsProblems_pure _
  | v :: rest => by
      rw [elements]
      refine (logsProblems_built element none location v).bind ?_
      split
      · exact logsProblems_elements kind element location _ rest
      · exact logsProblems_elements kind element location items rest

end

theorem logsProblems_bodies (target : Shape) (fields : Fields) (ds : List Definition) :
    (bodies target fields ds).LogsProblems := by
  induction ds generalizing fields with
  | nil => exact logsProblems_pure _
  | cons d rest ih => exact (logsProblems_statements target fields _).bind (ih _)

theorem logsProblems_lineage (line : Lineage) (d : Definition) : (line.report d).LogsProblems := by
  rw [Lineage.report]
  split
  · exact logsProblems_pure _
  · exact logsProblems_report _ _ _ _ _
  · exact logsProblems_report _ _ _ _ _

theorem logsProblems_definition (c : Catalogue) (store : Store) (d : Definition) :
    (definition c store d).LogsProblems := by
  rw [definition]
  split
  · exact logsProblems_pure _
  · exact (logsProblems_lineage _ d).bind ((logsProblems_record rfl _).bind
      ((logsProblems_bodies _ _ _).returning _))

theorem logsProblems_each (c : Catalogue) (store : Store) (order : List Nat) :
    (each c store order).LogsProblems := by
  induction order generalizing store with
  | nil => exact logsProblems_pure _
  | cons i rest ih =>
      rw [each]
      split
      · exact ih store
      · exact (logsProblems_definition c store _).bind ((ih _).returning _)

theorem logsProblems_batch (c : Catalogue) (store : Store) (order : List Nat) :
    (batch c store order).LogsProblems :=
  (logsProblems_each c store order).bind ((logsProblems_record rfl _).returning _)

end Application

/-! ## Sessions -/

namespace Session

theorem logsProblems_fileAll (table batch : List Definition) : (fileAll table batch).LogsProblems := by
  induction batch generalizing table with
  | nil => exact logsProblems_pure _
  | cons d rest ih =>
      rw [fileAll]
      split
      · exact ih table
      · refine LogsProblems.bind ?_ (ih _)
        rw [reportDuplicate]
        split
        · exact logsProblems_pure _
        · exact logsProblems_report _ _ _ _ _

theorem logsProblems_settle (s : Session) (batch : List Definition) :
    (s.settle batch).LogsProblems :=
  (Ordering.logsProblems_order batch).bind ((logsProblems_allocate _ _).bind
    ((Binding.logsProblems_batch _ _).bind ((Application.logsProblems_batch _ _ _).bind
      ((logsProblems_fileAll _ _).bind ((logsProblems_record rfl _).returning _)))))

/-- A document that is refused is reported, and the documents around it are staged all the same. -/
theorem logsProblems_stageAll (registry : Registry) (options : Options) (preferred : String)
    (documents : List Document) : (stageAll registry options preferred documents).LogsProblems := by
  induction documents with
  | nil => exact logsProblems_pure _
  | cons document rest ih =>
      refine LogsProblems.bind ?_ (ih.returning _)
      rw [stage]
      split
      · exact (Staging.logsProblems_document _ _).merged
      · exact (logsProblems_report _ _ _ _ _).returning _

/-- Parsing adds problems and records that agree. -/
theorem agrees_parse {s : Session} (documents : List Document) (preferred : String)
    (h : s.journal.Agrees) : (s.parse documents preferred).2.journal.Agrees :=
  h.append ((logsProblems_stageAll _ _ _ documents).bind (s.logsProblems_settle _))

/-- **LOGGED**: after every history, the records about problems are the diagnostics, in order and one to one,
    each at the level of its severity and with its text. -/
theorem problemRecords_answerAll (registry : Registry) (options : Options) (store : Store)
    (requests : List Request) :
    ((start registry options store).answerAll requests).journal.problemRecords
      = ((start registry options store).answerAll requests).diagnostics.map (·.record) :=
  answerAll_induction (motive := fun s => s.journal.Agrees) Journal.agrees_empty
    (fun _ documents preferred h => agrees_parse documents preferred h) requests

end Session

end Archetype
