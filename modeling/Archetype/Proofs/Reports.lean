import Archetype.Session
import Archetype.Proofs.Application
import Archetype.Proofs.Binding

/-! # Who reports what

    Each pass has its own kinds of diagnostics (`Noted.Reports`):

    * staging reports what it leaves out or disregards (`stagingKinds`);
    * ordering reports circles, binding reports unknown references, and filing reports duplicates;
    * applying reports how a line of descent ends, and statements that do not fit.

    A reference that is still pending when it is applied would be a statement that does not fit.  Statements
    without pending references are never reported so (`reports_statements`). -/

namespace Archetype

namespace Noted

/-- Every diagnostic that a run reports has the property. -/
def Reports {α : Type} (m : Noted α) (P : Diagnostic → Prop) : Prop :=
  ∀ d ∈ m.journal.diagnostics, P d

variable {α β : Type} {P Q : Diagnostic → Prop}

theorem reports_pure (a : α) : (pure a : Noted α).Reports P := fun _ h => nomatch h

theorem reports_record (level : Level) (text : String) : (record level text).Reports P :=
  fun _ h => nomatch h

theorem reports_report {severity : Severity} {kind : DiagnosticKind} {file : String} {line : Nat}
    {message : String} (h : P ⟨severity, kind, file, line, message⟩) :
    (report severity kind file line message).Reports P := by
  intro d hd
  rw [List.mem_singleton.mp hd]
  exact h

theorem Reports.bind {m : Noted α} {f : α → Noted β} (hm : m.Reports P)
    (hf : (f m.value).Reports P) : (m >>= f).Reports P := by
  intro d hd
  rcases List.mem_append.mp hd with hleft | hright
  · exact hm d hleft
  · exact hf d hright

end Noted

open Noted

/-! ## Staging -/

/-- The kinds of problems that staging reports. -/
def stagingKinds : List DiagnosticKind :=
  [.missingIdentifier, .unknownContainerType, .unknownElementType, .unknownField, .missingSerializer,
    .malformedNode]

namespace Staging

open Markup

/-- A diagnostic of a kind that staging reports. -/
def IsOwn (d : Diagnostic) : Prop := d.kind ∈ stagingKinds

variable (s : Staging)

theorem reports_reject {α : Type} {kind : DiagnosticKind} (e : Element) (message : String)
    (hkind : kind ∈ stagingKinds := by decide) :
    (s.reject kind e message : Noted (Option α)).Reports IsOwn :=
  (reports_report hkind).bind (reports_pure _)

theorem reports_warn (offset : Nat) (message : String) : (s.warn offset message).Reports IsOwn :=
  reports_report (by decide : DiagnosticKind.malformedNode ∈ stagingKinds)

theorem reports_warnStrayText (e : Element) (message : String) :
    (s.warnStrayText e message).Reports IsOwn := by
  rw [warnStrayText]
  split
  · exact s.reports_warn _ _
  · exact reports_pure _

theorem reports_scalar (e : Element) (converter : String) : (s.scalar e converter).Reports IsOwn := by
  rw [scalar]
  split
  · exact s.reports_reject e _
  · split
    · exact s.reports_reject e _
    · split
      · exact reports_pure _
      · exact s.reports_reject e _

theorem reports_reference (e : Element) : (s.reference e).Reports IsOwn := by
  rw [reference]
  split
  · exact s.reports_reject e _
  · exact reports_pure _

theorem reports_objectType? (e : Element) (declared : String) :
    (s.objectType? e declared).Reports IsOwn := by
  refine Reports.bind ?_ ?_
  · split
    · split
      · exact reports_pure _
      · exact s.reports_reject e _
    · split
      · exact s.reports_reject e _
      · split
        · exact reports_pure _
        · exact s.reports_reject e _
  · split
    · exact reports_pure _
    · split
      · exact s.reports_reject e _
      · exact reports_pure _

theorem reports_overrideAction (e : Element) : (s.overrideAction e).Reports IsOwn := by
  rw [overrideAction]
  split
  · exact reports_pure _
  · split
    · exact reports_pure _
    · exact s.reports_reject e _

mutual

theorem reports_value : ∀ (e : Element) (type : FieldType), (s.value e type).Reports IsOwn
  | ⟨name, attributes, children, start, stop⟩, .scalar converter => by
      rw [value]
      exact s.reports_scalar _ _
  | ⟨name, attributes, children, start, stop⟩, .reference _ => by
      rw [value]
      exact s.reports_reference _
  | ⟨name, attributes, children, start, stop⟩, .object declared => by
      rw [value]
      refine (s.reports_objectType? _ _).bind ?_
      split
      · exact reports_pure _
      · exact (s.reports_warnStrayText _ _).bind
          ((reports_statements _ children).bind (reports_pure _))
  | ⟨name, attributes, children, start, stop⟩, .collection kind element => by
      rw [value]
      exact (s.reports_overrideAction _).bind ((s.reports_warnStrayText _ _).bind
        ((reports_entries element children).bind (reports_pure _)))

theorem reports_statements (type : Descriptor) : ∀ children : List Node,
    (s.statements type children).Reports IsOwn
  | [] => reports_pure _
  | .text _ :: rest => reports_statements type rest
  | .element e :: rest => by
      rw [statements]
      refine Reports.bind ?_ ((reports_statements type rest).bind (reports_pure _))
      split
      · exact s.reports_reject e _
      · exact reports_value e _

theorem reports_entries (element : FieldType) : ∀ children : List Node,
    (s.entries element children).Reports IsOwn
  | [] => reports_pure _
  | .text _ :: rest => reports_entries element rest
  | .element e :: rest => by
      rw [entries]
      refine Reports.bind ?_ ((reports_entries element rest).bind (reports_pure _))
      split
      · exact reports_value e _
      · exact s.reports_reject e _

end

theorem reports_object (e : Element) (type : Descriptor) : (s.object e type).Reports IsOwn :=
  (s.reports_warnStrayText _ _).bind ((s.reports_statements type e.children).bind (reports_pure _))

theorem reports_abstractMark (e : Element) (id : String) : (s.abstractMark e id).Reports IsOwn := by
  rw [abstractMark]
  split
  · exact reports_pure _
  · split
    · exact reports_pure _
    · split
      · exact reports_pure _
      · exact (s.reports_warn _ _).bind (reports_pure _)

theorem reports_warnAttributes (id : String) (attributes : List Attribute) :
    (s.warnAttributes id attributes).Reports IsOwn := by
  induction attributes with
  | nil => exact reports_pure _
  | cons a rest ih =>
      rw [warnAttributes]
      split
      · exact (s.reports_warn _ _).bind ih
      · exact ih

theorem reports_itemType? (e : Element) (id : String) (container : Descriptor) :
    (s.itemType? e id container).Reports IsOwn := by
  rw [itemType?]
  split
  · exact reports_pure _
  · split
    · exact s.reports_reject e _
    · split
      · exact reports_pure _
      · exact s.reports_reject e _

theorem reports_item? (container : Descriptor) (e : Element) :
    (s.item? container e).Reports IsOwn := by
  rw [item?]
  split
  · exact s.reports_reject e _
  · split
    · exact s.reports_reject e _
    · refine (s.reports_abstractMark e _).bind ((s.reports_warnAttributes _ _).bind
        ((s.reports_itemType? e _ _).bind ?_))
      split
      · exact reports_pure _
      · split
        · exact s.reports_reject e _
        · exact (s.reports_object e _).bind (reports_pure _)

theorem reports_items (container : Descriptor) (es : List Element) :
    (s.items container es).Reports IsOwn := by
  induction es with
  | nil => exact reports_pure _
  | cons e rest ih =>
      rw [items]
      exact (s.reports_item? container e).bind (ih.bind (reports_pure _))

theorem reports_containerType? (root : Element) : (s.containerType? root).Reports IsOwn := by
  rw [containerType?]
  split
  · exact s.reports_reject root _
  · split
    · exact s.reports_reject root _
    · split
      · exact reports_pure _
      · exact s.reports_reject root _

/-- Staging a document reports problems of its own kinds only. -/
theorem reports_document (root : Element) : (s.document root).Reports IsOwn := by
  refine Reports.bind ?_ ((reports_record _ _).bind (reports_pure _))
  refine (s.reports_containerType? root).bind ?_
  split
  · exact reports_pure _
  · exact (s.reports_warnStrayText _ _).bind (s.reports_items _ _)

end Staging

/-- Staging documents reports problems of its own kinds only. -/
theorem Session.reports_stageAll (registry : Registry) (options : Options) (preferred : String)
    (documents : List Document) :
    (stageAll registry options preferred documents).Reports Staging.IsOwn := by
  induction documents with
  | nil => exact reports_pure _
  | cons document rest ih =>
      refine Reports.bind ?_ (ih.bind (reports_pure _))
      rw [stage]
      split
      · rw [extend_gather]
        exact Staging.reports_document _ _
      · exact (reports_report (by decide : DiagnosticKind.malformedNode ∈ stagingKinds)).bind
          (reports_pure _)

/-! ## Ordering, binding and filing -/

theorem Ordering.reports_reportCircles (batch : List Definition) (parents : List (Option Nat))
    (numbered : List (Definition × Nat)) :
    (reportCircles batch parents numbered).Reports (·.kind = .cyclicInheritance) := by
  induction numbered with
  | nil => exact reports_pure _
  | cons entry rest ih =>
      obtain ⟨d, i⟩ := entry
      rw [reportCircles]
      split
      · exact (reports_pure _).bind ih
      · refine Reports.bind ?_ ih
        exact reports_report rfl

namespace Binding

theorem reports_reportUnknown (b : Binding) (id : String) (location : Location) :
    (b.reportUnknown id location).Reports (·.kind = .unresolvedReference) := by
  rw [reportUnknown]
  split
  · exact reports_report rfl
  · exact reports_pure _

mutual

theorem reports_value (b : Binding) (location : Location) :
    ∀ v : Staged, (b.value location v).Reports (·.kind = .unresolvedReference)
  | .scalar _ _ => reports_pure _
  | .object ⟨_, fields, _⟩ => (reports_fields b fields).bind (reports_pure _)
  | .collection _ _ elements => (reports_elements b location elements).bind (reports_pure _)
  | .pending id => (b.reports_reportUnknown id location).bind (reports_pure _)
  | .bound _ _ => reports_pure _

theorem reports_fields (b : Binding) : ∀ fields : List StagedField,
    (b.fields fields).Reports (·.kind = .unresolvedReference)
  | [] => reports_pure _
  | ⟨_, v, location⟩ :: rest =>
      (reports_value b location v).bind ((reports_fields b rest).bind (reports_pure _))

theorem reports_elements (b : Binding) (location : Location) : ∀ elements : List Staged,
    (b.elements location elements).Reports (·.kind = .unresolvedReference)
  | [] => reports_pure _
  | v :: rest =>
      (reports_value b location v).bind ((reports_elements b location rest).bind (reports_pure _))

end

theorem reports_definition (b : Binding) (d : Definition) :
    (b.definition d).Reports (·.kind = .unresolvedReference) := by
  rw [Binding.definition]
  split
  · exact reports_pure _
  · exact (b.reports_fields _).bind (reports_pure _)

end Binding

theorem Session.reports_fileAll (table batch : List Definition) :
    (fileAll table batch).Reports (·.kind = .duplicateIdentifier) := by
  induction batch generalizing table with
  | nil => exact reports_pure _
  | cons d rest ih =>
      rw [fileAll]
      split
      · exact ih table
      · refine Reports.bind ?_ (ih _)
        rw [reportDuplicate]
        split
        · exact reports_pure _
        · exact reports_report rfl

/-! ## Applying

    What applying says of a statement that does not fit begins with `a`, with a quoted id, or with the word
    `type`, unless it is about a pending reference. -/

namespace Application

/-- The kinds of problems that applying reports. -/
def applyingKinds : List DiagnosticKind :=
  [.typeMismatchOnApply, .unresolvedInheritanceTarget, .cyclicInheritance]

/-- A diagnostic that does not say that a reference was still pending when it was applied. -/
def SaysResolved (d : Diagnostic) : Prop :=
  d.kind = .typeMismatchOnApply → ∀ id : String, d.message ≠ s!"reference '{id}' was never resolved"

/-- A diagnostic of a kind that applying reports, and not about a pending reference. -/
structure IsOwn (d : Diagnostic) : Prop where
  kind : d.kind ∈ applyingKinds
  resolved : SaysResolved d

/-- A text that does not start like the report about a pending reference. -/
private def StartsOtherwise (text : String) : Prop :=
  text.toList.head?.any (· != 'r') = true

private theorem StartsOtherwise.append {text : String} (h : StartsOtherwise text) (more : String) :
    StartsOtherwise (text ++ more) := by
  obtain ⟨c, hc, hne⟩ := (Option.any_eq_true ..).mp h
  rw [StartsOtherwise, String.toList_append, List.head?_append, hc]
  exact hne

private theorem ne_of_startsOtherwise {text : String} (h : StartsOtherwise text) (id : String) :
    text ≠ s!"reference '{id}' was never resolved" := by
  intro heq
  rw [heq, StartsOtherwise, String.toList_append, String.toList_append, List.append_assoc,
    List.head?_append] at h
  exact nomatch h

private theorem reports_mismatch (location : Location) {message : String}
    (h : StartsOtherwise message) : (mismatch location message).Reports IsOwn := by
  refine Reports.bind ?_ (reports_pure _)
  exact reports_report ⟨(by decide : DiagnosticKind.typeMismatchOnApply ∈ applyingKinds),
    fun _ => ne_of_startsOtherwise h⟩

private theorem reports_mismatch_one (location : Location) {start a stop : String}
    (h : StartsOtherwise start) : (mismatch location (start ++ a ++ stop)).Reports IsOwn :=
  reports_mismatch location ((h.append _).append _)

private theorem reports_mismatch_two (location : Location) {start a middle b stop : String}
    (h : StartsOtherwise start) :
    (mismatch location (start ++ a ++ middle ++ b ++ stop)).Reports IsOwn :=
  reports_mismatch_one location ((h.append _).append _)

private theorem reports_reference (declared : String) (location : Location) (target : Option Handle) :
    (reference declared location target).Reports IsOwn := by
  rw [reference.eq_def]
  split
  · exact reports_pure _
  · split
    · exact reports_pure _
    · refine reports_mismatch location (.append (.append (.append (.append (.append ?_ _) _) _) _) _)
      rfl

mutual

/-- A value without pending references is reported for what does not fit, and never for a pending one. -/
theorem reports_built (type : FieldType) (existing : Option Value) (location : Location) :
    ∀ v : Staged, v.pendingIds = [] → (built type existing location v).Reports IsOwn
  | .scalar converter v, _ => by
      rw [built_scalar]
      split
      · split
        · exact reports_pure _
        · exact reports_mismatch_two location rfl
      · exact reports_mismatch_one location rfl
  | .bound id target, _ => by
      rw [built_bound]
      split
      · exact reports_reference _ location target
      · exact reports_mismatch_one location rfl
  | .object ⟨stated, staged, place⟩, h => by
      rw [built_object]
      split
      · split
        · exact (reports_statements _ _ staged h).bind (reports_pure _)
        · exact reports_mismatch_two location rfl
      · exact reports_mismatch_one location rfl
  | .collection stated action staged, h => by
      rw [built_collection]
      split
      · split
        · exact (reports_elements _ _ location _ staged h).bind (reports_pure _)
        · exact reports_mismatch_two location rfl
      · exact reports_mismatch_one location rfl
  | .pending id, h => nomatch h

theorem reports_statements (target : Shape) (fields : Fields) :
    ∀ staged : List StagedField, Staged.pendingIdsOfFields staged = [] →
      (statements target fields staged).Reports IsOwn
  | [], _ => reports_pure _
  | ⟨name, v, location⟩ :: rest, h => by
      obtain ⟨hv, hrest⟩ := List.append_eq_nil_iff.mp h
      rw [statements]
      split
      · refine Reports.bind ?_ (reports_statements target fields rest hrest)
        exact reports_mismatch_two location rfl
      · refine (reports_record _ _).bind
          ((reports_built _ (fields.get? name) location v hv).bind ?_)
        split
        · exact reports_statements target _ rest hrest
        · exact reports_statements target fields rest hrest

theorem reports_elements (kind : CollectionKind) (element : FieldType) (location : Location)
    (items : List Value) : ∀ staged : List Staged, Staged.pendingIdsOfElements staged = [] →
      (elements kind element location items staged).Reports IsOwn
  | [], _ => reports_pure _
  | v :: rest, h => by
      obtain ⟨hv, hrest⟩ := List.append_eq_nil_iff.mp h
      rw [elements]
      refine (reports_built element none location v hv).bind ?_
      split
      · exact reports_elements kind element location _ rest hrest
      · exact reports_elements kind element location items rest hrest

end

theorem SaysResolved.of_kind {d : Diagnostic} (h : d.kind ≠ .typeMismatchOnApply) : SaysResolved d :=
  fun hkind => absurd hkind h

theorem reports_bodies (target : Shape) (fields : Fields) (ds : List Definition)
    (hds : ∀ d ∈ ds, d.pendingIds = []) : (bodies target fields ds).Reports IsOwn := by
  induction ds generalizing fields with
  | nil => exact reports_pure _
  | cons d rest ih =>
      refine (reports_statements target fields _ (hds d List.mem_cons_self)).bind ?_
      exact ih _ fun e he => hds e (List.mem_cons_of_mem _ he)

/-- How a line of descent ends is no statement that does not fit. -/
theorem reports_lineage (line : Lineage) (d : Definition) :
    (line.report d).Reports IsOwn := by
  rw [Lineage.report]
  split
  · exact reports_pure _
  · exact reports_report ⟨(by decide : DiagnosticKind.unresolvedInheritanceTarget ∈ applyingKinds),
      .of_kind fun hkind => (nomatch hkind)⟩
  · exact reports_report ⟨(by decide : DiagnosticKind.cyclicInheritance ∈ applyingKinds),
      .of_kind fun hkind => (nomatch hkind)⟩

/-- Where nothing is pending on a line of descent, nothing is reported to be. -/
theorem reports_outcome (c : Catalogue) (start : Fields) (h : Handle) (d : Definition)
    (hd : d.pendingIds = []) (hline : ∀ a ∈ (c.lineage d).ancestors, a.pendingIds = []) :
    (outcome c start h d).Reports IsOwn := by
  refine (reports_lineage _ d).bind ((reports_record _ _).bind ?_)
  refine reports_bodies h.type start _ fun a ha => ?_
  rcases List.mem_append.mp ha with hancestor | hself
  · exact hline a (List.mem_reverse.mp hancestor)
  · rw [List.mem_singleton.mp hself]
    exact hd

end Application

end Archetype
