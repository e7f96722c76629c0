import Archetype.Proofs.Consistency

/-! # What was there stays as it was

    A request adds to a session and takes nothing away: prototypes and diagnostics go behind those that were
    there, and the fields of a prototype are written by the batch that creates it and by no later one,
    although later batches inherit from it, refer to it and redefine its id (`Persists`).  What it adds is told
    exactly (`Adds`): one new prototype for each definition that is kept and not abstract, in the order of
    the batch, and in the table the definitions that are kept, each under its id.

    The heart is that a batch writes to its own prototypes alone, and that their addresses lie behind all
    addresses in use.  A request that is refused has read no document, and changes nothing. -/

namespace Archetype

/-! ## Requests and their replies -/

namespace Request

/-- The namespace whose types are preferred. -/
def preferred : Request → String
  | .document _ preferred => preferred
  | .texts _ _ preferred => preferred
  | .files _ _ preferred => preferred

/-- The documents of a request, or why it is refused. -/
def documents : Request → Except RequestError (List Document)
  | .document given _ => .ok [given]
  | .texts contents names _ =>
    if contents.length = names.length then .ok (List.zipWith Document.mk names contents)
    else .error (.mismatchedBatch contents.length names.length)
  | .files entries paths _ => Session.readAll entries paths

/-- Whether a request cannot be met: there are more texts than names or fewer, or a file cannot be read. -/
def Refused : Request → Prop
  | .document _ _ => False
  | .texts contents names _ => contents.length ≠ names.length
  | .files entries paths _ => ∃ path ∈ paths, ∃ fault, FileEntry.read (entries path) = .error fault

end Request

namespace Session

/-- What a request is answered with: the prototypes it creates and the session after it, or an error. -/
def reply (s : Session) : Request → Except RequestError (List Handle × Session)
  | .document document preferred => .ok (s.parse [document] preferred)
  | .texts texts names preferred => s.parseNamed texts names preferred
  | .files files paths preferred => s.parseFiles files paths preferred

section Replies

variable {s : Session} {request : Request}

/-- A request that is not refused has its documents parsed, as one batch. -/
theorem reply_eq (s : Session) (request : Request) :
    s.reply request = request.documents.map fun documents => s.parse documents request.preferred := by
  cases request with
  | document => rfl
  | texts texts names preferred =>
      rw [reply, parseNamed, Request.documents]
      by_cases hlength : texts.length = names.length
      · rw [if_pos hlength, if_pos hlength]
        rfl
      · rw [if_neg hlength, if_neg hlength]
        rfl
  | files => rfl

/-- A session goes on after a reply, and stays as it is after an error. -/
theorem answer_eq (s : Session) (request : Request) :
    s.answer request = match s.reply request with
      | .ok (_, after) => after
      | .error _ => s := by
  cases request <;> rfl

theorem answer_of_error {error : RequestError} (h : request.documents = .error error) :
    s.answer request = s := by
  rw [answer_eq, reply_eq, h]
  rfl

theorem answer_of_ok {documents : List Document} (h : request.documents = .ok documents) :
    s.answer request = (s.parse documents request.preferred).2 := by
  rw [answer_eq, reply_eq, h]
  rfl

theorem readAll_eq_error_iff (files : String → Option FileEntry) (paths : List String) :
    (∃ error, readAll files paths = .error error) ↔
      ∃ path ∈ paths, ∃ fault, FileEntry.read (files path) = .error fault := by
  induction paths with
  | nil =>
      constructor
      · rintro ⟨error, h⟩
        cases h
      · rintro ⟨path, hpath, -⟩
        cases hpath
  | cons path rest ih =>
      rw [readAll, List.exists_mem_cons_iff, ← ih]
      cases FileEntry.read (files path) with
      | error fault => exact ⟨fun _ => Or.inl ⟨fault, rfl⟩, fun _ => ⟨_, rfl⟩⟩
      | ok text =>
          cases readAll files rest with
          | error error => exact ⟨fun _ => Or.inr ⟨error, rfl⟩, fun _ => ⟨error, rfl⟩⟩
          | ok documents => simp [Except.map]

/-- A request is answered with an error exactly if it cannot be met. -/
theorem documents_eq_error_iff (request : Request) :
    (∃ error, request.documents = .error error) ↔ request.Refused := by
  cases request with
  | document =>
      constructor
      · rintro ⟨error, h⟩
        cases h
      · exact False.elim
  | texts texts names preferred =>
      rw [Request.documents, Request.Refused]
      by_cases hlength : texts.length = names.length
      · rw [if_pos hlength]
        constructor
        · rintro ⟨error, h⟩
          cases h
        · exact absurd hlength
      · rw [if_neg hlength]
        exact ⟨fun _ => hlength, fun _ => ⟨_, rfl⟩⟩
  | files files paths preferred => exact readAll_eq_error_iff files paths

end Replies

end Session

/-! ## What a batch adds -/

/-- A prototype has the id and the type of the definition it was created for. -/
structure Handle.InstanceOf (h : Handle) (d : Definition) : Prop where
  id : h.id = d.id
  type : h.type = d.type.shape

/-- A definition as it is filed: its references are bound, it may have a prototype, and else it is as it was
    staged. -/
def Definition.FiledAs (b : Binding) (d e : Definition) : Prop :=
  e = { b.resolved d with state := e.state, handle := e.handle }

theorem Definition.FiledAs.id_eq {b : Binding} {d e : Definition} (h : d.FiledAs b e) : e.id = d.id := by
  rw [h]
  rfl

/-- One prototype for each definition that is to have one. -/
theorem Allocation.forall₂_created (store : Store) (batch : List Definition) :
    List.Forall₂ Handle.InstanceOf (each store batch).1 (batch.filter isConcrete) := by
  induction batch generalizing store with
  | nil => exact .nil
  | cons d rest ih =>
      cases h : isConcrete d with
      | true =>
          rw [each_concrete h, List.filter_cons_of_pos h]
          exact .cons ⟨rfl, rfl⟩ (ih _)
      | false =>
          rw [each_other h, List.filter_cons_of_neg (by rw [h]; exact Bool.false_ne_true)]
          exact ih store

namespace Session

open Archetype.Ordering

/-- The definitions of a batch of documents that are not excluded, in their order. -/
def keptDefinitions (s : Session) (documents : List Document) (preferred : String) : List Definition :=
  (order (s.staged documents preferred)).value.2.filter fun d => !d.isExcluded

/-- What was there in a session is there in a later one, as it was.  A handle carries an id and a type, so
    a prototype that is still in the list has kept these too. -/
structure Persists (s after : Session) : Prop where
  prototypes : s.prototypes <+: after.prototypes
  diagnostics : s.diagnostics <+: after.diagnostics
  fields : ∀ h ∈ s.prototypes, after.store.fields h = s.store.fields h

/-- What parsing some documents changes: `returned` are new prototypes, one for each definition that is kept
    and not abstract, and an id stands for what it stood for, or for a kept definition that has it. -/
structure Adds (s : Session) (documents : List Document) (preferred : String) (returned : List Handle)
    (after : Session) : Prop extends Persists s after where
  appended : after.prototypes = s.prototypes ++ returned
  instances : List.Forall₂ Handle.InstanceOf returned
    ((s.keptDefinitions documents preferred).filter fun d => !d.isAbstract)
  fresh : ∀ h ∈ returned, ∀ k ∈ s.prototypes, h.isSame k = false
  filed : ∀ id, after.definition? id = s.definition? id ∨
    ∃ d ∈ s.keptDefinitions documents preferred, d.id = id ∧ ∃ e, after.definition? id = some e ∧
      d.FiledAs ⟨after.prototypes, s.options.reportUnresolved⟩ e

section Batch

variable {s : Session} {batch : List Definition}

/-- What is filed of a batch is one of its kept definitions. -/
theorem exists_filedAs (hfresh : ∀ d ∈ batch, d.Fresh) {e : Definition}
    (he : e ∈ (s.bound batch).map finish) (hkept : e.isExcluded = false) :
    ∃ d ∈ (order batch).value.2, d.isExcluded = false ∧ d.FiledAs (s.binding batch) e := by
  obtain ⟨a, ha, rfl⟩ := List.mem_map.mp he
  obtain ⟨i, hi⟩ := List.mem_iff_getElem?.mp ha
  obtain ⟨d, hd, hprepared⟩ := prepared_getElem? hfresh hi
  have hd' := hfresh d (List.mem_of_getElem? hd)
  have hstands (hcyclic : isCyclic (parents batch) i = false) : d ∈ (order batch).value.2 := by
    refine List.mem_of_getElem? (i := i) ?_
    show (excludeCircles batch (parents batch))[i]? = some d
    rw [getElem?_excludeCircles, hd, hcyclic]
    rfl
  cases hprepared with
  | excluded =>
      rw [finish, show Option.isSome _ = false from congrArg _ hd'.handle, if_neg Bool.false_ne_true]
        at hkept
      cases hkept
  | abstract hcyclic =>
      refine ⟨d, hstands hcyclic, hd'.isExcluded, ?_⟩
      rw [finish]
      split
      · rfl
      · rfl
  | concrete handle hcyclic => exact ⟨d, hstands hcyclic, hd'.isExcluded, rfl⟩

end Batch

section Parse

variable {s : Session} (documents : List Document) (preferred : String)

theorem mem_keptDefinitions {d : Definition} :
    d ∈ s.keptDefinitions documents preferred ↔
      d ∈ (order (s.staged documents preferred)).value.2 ∧ d.isExcluded = false := by
  rw [keptDefinitions, List.mem_filter, Bool.not_eq_true']

theorem instances_parse : List.Forall₂ Handle.InstanceOf (s.parse documents preferred).1
    ((s.keptDefinitions documents preferred).filter fun d => !d.isAbstract) := by
  have hconcrete : (s.keptDefinitions documents preferred).filter (fun d => !d.isAbstract)
      = (ordered (s.staged documents preferred)).filter Allocation.isConcrete := by
    rw [keptDefinitions, List.filter_filter]
    rfl
  rw [hconcrete, created_parse]
  exact Allocation.forall₂_created s.store _

theorem filed_parse (id : String) :
    (s.parse documents preferred).2.definition? id = s.definition? id ∨
      ∃ d ∈ s.keptDefinitions documents preferred, d.id = id ∧
        ∃ e, (s.parse documents preferred).2.definition? id = some e ∧
          d.FiledAs ⟨(s.parse documents preferred).2.prototypes, s.options.reportUnresolved⟩ e := by
  have hfresh := fresh_staged s documents preferred
  rw [definition?, table_parse, find?_fileAll, prototypes_parse]
  cases hlast : (((s.bound (s.staged documents preferred)).map finish).reverse.find?
      fun d => !d.isExcluded && d.id == id) with
  | none => exact Or.inl rfl
  | some e =>
      have hfound := List.find?_some hlast
      rw [Bool.and_eq_true, Bool.not_eq_true', beq_iff_eq] at hfound
      have hmem := List.mem_reverse.mp (List.mem_of_find?_eq_some hlast)
      obtain ⟨d, hd, hkept, hfiled⟩ := exists_filedAs hfresh hmem hfound.1
      refine Or.inr ⟨d, (mem_keptDefinitions documents preferred).mpr ⟨hd, hkept⟩, ?_, e, rfl, hfiled⟩
      rw [← hfiled.id_eq]
      exact hfound.2

/-- **ADDS**: what parsing some documents changes, and what it leaves alone. -/
theorem Coherent.adds (hs : s.Coherent) :
    Adds s documents preferred (s.parse documents preferred).1 (s.parse documents preferred).2 where
  prototypes := by
    rw [prototypes_parse]
    exact List.prefix_append ..
  diagnostics := by
    rw [diagnostics_parse]
    exact List.prefix_append ..
  fields := by
    intro h hh
    rw [store_parse]
    exact fields_appliedStore_of_lt (fresh_staged s documents preferred) (hs.inUse h hh)
  appended := by
    rw [prototypes_parse, created_parse]
  instances := instances_parse documents preferred
  fresh := by
    intro h hh k hk
    rw [created_parse] at hh
    -- new addresses lie behind those in use
    have hnew := (Allocation.address_created_bounds hh).1
    have hold := hs.inUse k hk
    exact beq_eq_false_iff_ne.mpr (by omega)
  filed := filed_parse documents preferred

end Parse

/-! ## Histories -/

/-- **UNDISTURBED**: whatever has been requested before, a request is refused exactly if it cannot be met, and
    then nothing changes.  Else its documents are parsed, and all that was there stays as it was. -/
theorem undisturbed (registry : Registry) (options : Options) (store : Store) (requests : List Request)
    (request : Request) :
    let s := (start registry options store).answerAll requests
    ((∃ error, s.reply request = .error error) ↔ request.Refused) ∧
      match s.reply request with
      | .error _ => s.answer request = s
      | .ok (returned, after) => s.answer request = after ∧
          ∃ documents, request.documents = .ok documents ∧
            Adds s documents request.preferred returned after := by
  intro s
  have hs : s.Coherent := coherent_answerAll registry options store requests
  have hrefused := documents_eq_error_iff request
  rw [reply_eq]
  cases hdocuments : request.documents with
  | error error =>
      refine ⟨⟨fun _ => hrefused.mp ⟨error, hdocuments⟩, fun _ => ⟨error, rfl⟩⟩, ?_⟩
      exact answer_of_error hdocuments
  | ok documents =>
      refine ⟨⟨fun h => ?_, fun h => ?_⟩, answer_of_ok hdocuments, documents, rfl, hs.adds ..⟩
      · obtain ⟨error, herror⟩ := h
        cases herror
      · obtain ⟨error, herror⟩ := hrefused.mpr h
        rw [hdocuments] at herror
        cases herror

end Session

end Archetype
