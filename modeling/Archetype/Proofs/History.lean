import Archetype.Session.Requests
import Archetype.Proofs.Filing
import Archetype.Proofs.Settlement

/-! # Histories

    A session is reached from its start by requests, each of which parses some documents or is refused and
    changes nothing.  So what holds at the start and is kept by parsing holds after every history
    (`answerAll_induction`).  What parsing changes is told here once, in terms of the batch of definitions
    that was staged. -/

namespace Archetype

/-- Something a session can be asked to do. -/
inductive Request
  | document (document : Document) (preferred : String)
  | texts (texts names : List String) (preferred : String)
  | files (files : String → Option FileEntry) (paths : List String) (preferred : String)

namespace Session

/-- The session after a request.  One that is refused changes nothing. -/
def answer (s : Session) : Request → Session
  | .document document preferred => (s.parse [document] preferred).2
  | .texts texts names preferred =>
    match s.parseNamed texts names preferred with
    | .ok (_, after) => after
    | .error _ => s
  | .files files paths preferred =>
    match s.parseFiles files paths preferred with
    | .ok (_, after) => after
    | .error _ => s

/-- The session after requests, one after the other. -/
def answerAll (s : Session) (requests : List Request) : Session :=
  requests.foldl answer s

/-- A request is refused, or parses some documents. -/
theorem answer_cases (s : Session) (request : Request) :
    s.answer request = s ∨
      ∃ documents preferred, s.answer request = (s.parse documents preferred).2 := by
  cases request with
  | document document preferred => exact Or.inr ⟨[document], preferred, rfl⟩
  | texts texts names preferred =>
      rw [answer, parseNamed]
      by_cases hlength : texts.length = names.length
      · rw [if_pos hlength]
        exact Or.inr ⟨_, preferred, rfl⟩
      · rw [if_neg hlength]
        exact Or.inl rfl
  | files files paths preferred =>
      rw [answer, parseFiles]
      cases readAll files paths with
      | error _ => exact Or.inl rfl
      | ok documents => exact Or.inr ⟨documents, preferred, rfl⟩

/-- **HISTORIES**: what parsing keeps holds after every history if it holds at the start. -/
theorem answerAll_induction {motive : Session → Prop} {s : Session} (hstart : motive s)
    (hparse : ∀ s documents preferred, motive s → motive (s.parse documents preferred).2)
    (requests : List Request) : motive (s.answerAll requests) := by
  induction requests generalizing s with
  | nil => exact hstart
  | cons request rest ih =>
      refine @ih (s.answer request) ?_
      rcases answer_cases s request with hsame | ⟨documents, preferred, hparsed⟩
      · rw [hsame]
        exact hstart
      · rw [hparsed]
        exact hparse s documents preferred hstart

/-- A session that requests lead to. -/
def Reachable (s : Session) : Prop :=
  ∃ registry options store requests, s = (start registry options store).answerAll requests

/-! ## What parsing changes -/

variable {s : Session} {documents : List Document} {preferred : String}

/-- The definitions that documents are staged to. -/
def staged (s : Session) (documents : List Document) (preferred : String) : List Definition :=
  (stageAll s.registry s.options preferred documents).value

/-- Every definition is of a document, read with the namespace preferred. -/
theorem exists_of_mem_stageAll {registry : Registry} {options : Options} {d : Definition}
    (h : d ∈ (stageAll registry options preferred documents).value) :
    ∃ staging : Staging, staging.registry = registry ∧ ∃ root, d ∈ (staging.document root).value := by
  induction documents with
  | nil => exact nomatch h
  | cons document rest ih =>
      rw [stageAll] at h
      simp only [Noted.value_bind, Noted.value_pure] at h
      rcases List.mem_append.mp h with hhead | htail
      · rw [stage] at hhead
        split at hhead
        · exact ⟨_, rfl, _, hhead⟩
        · exact nomatch hhead
      · exact ih htail

theorem fits_of_mem_stageAll {registry : Registry} {options : Options} {d : Definition}
    (h : d ∈ (stageAll registry options preferred documents).value) : d.Fresh ∧ d.Fits registry := by
  obtain ⟨staging, rfl, root, hd⟩ := exists_of_mem_stageAll h
  exact Staging.fits_of_mem_document hd

theorem fits_of_mem_staged {d : Definition} (h : d ∈ s.staged documents preferred) :
    d.Fresh ∧ d.Fits s.registry := fits_of_mem_stageAll h

theorem fresh_staged (s : Session) (documents : List Document) (preferred : String) :
    ∀ d ∈ s.staged documents preferred, d.Fresh := fun _ h => (fits_of_mem_staged h).1

/-- The session after some documents are parsed. -/
theorem parse_eq (s : Session) (documents : List Document) (preferred : String) :
    s.parse documents preferred
      = (s.created (s.staged documents preferred),
          { s with
            table := (fileAll s.table ((s.bound (s.staged documents preferred)).map finish)).value
            prototypes := s.prototypes ++ s.created (s.staged documents preferred)
            journal := s.journal
              ++ ((stageAll s.registry s.options preferred documents).journal
                ++ (s.settle (s.staged documents preferred)).journal)
            store := s.appliedStore (s.staged documents preferred) }) := by
  have hsettle : (s.settle (s.staged documents preferred)).value = _ :=
    value_settle (fresh_staged s documents preferred)
  rw [parse]
  simp only [Noted.value_bind, Noted.journal_bind]
  rw [show (stageAll s.registry s.options preferred documents).value = s.staged documents preferred
    from rfl, hsettle]

@[simp] theorem registry_parse : (s.parse documents preferred).2.registry = s.registry := rfl

@[simp] theorem options_parse : (s.parse documents preferred).2.options = s.options := rfl

theorem created_parse :
    (s.parse documents preferred).1 = s.created (s.staged documents preferred) := by
  rw [parse_eq]

theorem table_parse : (s.parse documents preferred).2.table
    = (fileAll s.table ((s.bound (s.staged documents preferred)).map finish)).value := by
  rw [parse_eq]

theorem prototypes_parse : (s.parse documents preferred).2.prototypes
    = s.prototypes ++ s.created (s.staged documents preferred) := by
  rw [parse_eq]

theorem store_parse : (s.parse documents preferred).2.store
    = s.appliedStore (s.staged documents preferred) := by
  rw [parse_eq]

theorem diagnostics_parse : (s.parse documents preferred).2.diagnostics
    = s.diagnostics
      ++ ((stageAll s.registry s.options preferred documents).journal.diagnostics
        ++ (s.settle (s.staged documents preferred)).journal.diagnostics) := by
  rw [diagnostics, parse_eq]
  rfl

end Session

end Archetype
