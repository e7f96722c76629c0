import Archetype.Proofs.Permutation
import Archetype.Proofs.Persistence

/-! # References lead to prototypes of the session

    Where the registry brings in no prototypes, the fields of a prototype refer to prototypes of the session and
    to no others (`closed_answerAll`).  The heart is that applying definitions brings in no prototype but those
    that they refer to (`bodies_within`): what was in a field before, what a registry brings in, and what
    references are bound to are the only places from which a part of a value can come.

    What references are bound to is settled when their definition is filed, and never again.  So it is told
    by the session in which the documents with the definition were parsed (`Parsed`), however many requests
    have been answered since. -/

namespace Archetype

/-! ## Where the prototypes in a value come from -/

/-- Every prototype in a value, at any depth, is of a kind. -/
def Value.Within (P : Handle → Prop) (v : Value) : Prop :=
  ∀ h ∈ v.handles, P h

/-- Every prototype in some fields, at any depth, is of a kind. -/
def Fields.Within (P : Handle → Prop) (fields : Fields) : Prop :=
  ∀ h ∈ Value.fieldHandles fields, P h

section Within

variable {r : Registry} {P : Handle → Prop} {fields : Fields} {v : Value}

theorem forall_mem_filterMap_handle? {parts : List Part} :
    (∀ h ∈ parts.filterMap Part.handle?, P h) ↔ ∀ x ∈ parts, ∀ h ∈ x.handle?, P h := by
  simp only [List.forall_mem_filterMap]
  exact ⟨fun h x hx k hk => h x hx k hk, fun h x hx k hk => h x hx k hk⟩

/-- The prototypes in a value are parts of it. -/
theorem Value.within_iff : v.Within P ↔ v.MadeOf fun x => ∀ h ∈ x.handle?, P h := by
  rw [Within, handles_eq]
  exact forall_mem_filterMap_handle?

theorem Fields.within_iff : fields.Within P ↔ fields.MadeOf fun x => ∀ h ∈ x.handle?, P h := by
  rw [Within, Value.fieldHandles_eq]
  exact forall_mem_filterMap_handle?

theorem Value.within_of_handles_eq_nil (h : v.handles = []) : v.Within P := by
  intro k hk
  rw [h] at hk
  cases hk

theorem Registry.Unreferring.madeOf (h : r.Unreferring) : r.MadeOf fun x => ∀ h ∈ x.handle?, P h where
  defaults := fun type htype f hf v hv =>
    Value.within_iff.mp (Value.within_of_handles_eq_nil (h.defaults type htype f hf v hv))
  converters := fun c hc text v hv =>
    Value.within_iff.mp (Value.within_of_handles_eq_nil (h.converters c hc text v hv))

end Within

/-- **WITHIN**: definitions bring in no prototype but those that they refer to. -/
theorem Application.bodies_within {r : Registry} {P : Handle → Prop} (hr : r.Unreferring) {target : Shape}
    {fields : Fields} {ds : List Definition} (hds : ∀ d ∈ ds, d.Fits r)
    (htargets : ∀ d ∈ ds, ∀ h ∈ Staged.fieldTargets d.body.fields, P h) (hfields : fields.Within P) :
    (bodies target fields ds).value.Within P := by
  refine Fields.within_iff.mpr (madeOf_bodies hr.madeOf hds (fun d hd => ?_) (Fields.within_iff.mp hfields))
  rw [← forall_mem_filterMap_handle?, ← Staged.fieldTargets_eq_parts]
  exact htargets d hd

namespace Session

open Archetype.Ordering Application

/-! ## Fields refer to prototypes of the session -/

/-- A session in which the fields of prototypes refer to prototypes of the session. -/
structure Closed (s : Session) : Prop where
  anchored : s.Anchored
  registry : s.registry.Unreferring
  fields : ∀ h ∈ s.prototypes, (s.store.fields h).Within (· ∈ s.prototypes)

theorem closed_start {registry : Registry} (h : registry.Unreferring) (options : Options) (store : Store) :
    (start registry options store).Closed where
  anchored := anchored_start options (h.refersInto store)
  registry := h
  fields := fun _ hmem => nomatch hmem

/-- A new prototype refers to prototypes that were there and to others that are new. -/
theorem Closed.created {s : Session} (hs : s.Closed) {documents : List Document} {preferred : String}
    {h : Handle} (hh : h ∈ s.created (s.staged documents preferred)) :
    ((s.appliedStore (s.staged documents preferred)).fields h).Within
      (· ∈ s.prototypes ++ s.created (s.staged documents preferred)) := by
  have hfresh := fresh_staged s documents preferred
  have hfits : ∀ d ∈ s.staged documents preferred, d.Fits s.registry := fun d hd => (fits_of_mem_staged hd).2
  obtain ⟨e, he, -, hfields⟩ := fields_of_mem_created hfresh hh
  have htype : e.type ∈ s.registry.types := (fits_of_mem_bound hfresh hfits he).registered
  rw [hfields]
  exact bodies_within hs.registry (fits_of_mem_line hfresh hfits hs.anchored.fits he)
    (fun a ha => targets_of_mem_line hs.anchored.targets he ha)
    (Fields.within_iff.mpr (hs.registry.madeOf.fresh htype))

theorem Closed.parse {s : Session} (hs : s.Closed) (documents : List Document) (preferred : String) :
    (s.parse documents preferred).2.Closed where
  anchored := hs.anchored.parse documents preferred
  registry := hs.registry
  fields := by
    intro h hh
    rw [prototypes_parse] at hh
    rw [store_parse, prototypes_parse]
    rcases List.mem_append.mp hh with hold | hnew
    · rw [fields_appliedStore_of_lt (fresh_staged s documents preferred) (hs.anchored.coherent.inUse h hold)]
      exact fun k hk => List.mem_append_left _ (hs.fields h hold k hk)
    · exact hs.created hnew

/-! ## The documents that definitions and prototypes came with -/

/-- In the course of some requests, some documents were parsed in the session `s`. -/
def Parsed (first : Session) (requests : List Request) (s : Session) (documents : List Document)
    (preferred : String) : Prop :=
  ∃ before request after, requests = before ++ request :: after ∧ first.answerAll before = s ∧
    request.documents = .ok documents ∧ request.preferred = preferred

/-- **ORIGINS**: what has become of a session came with some documents, if it is not there before they are
    parsed and is there afterwards. -/
theorem exists_parsed {P : Session → Prop} {Q : Session → List Document → String → Prop}
    (hparse : ∀ s documents preferred, P (s.parse documents preferred).2 → P s ∨ Q s documents preferred)
    {first : Session} (hfirst : ¬P first) {requests : List Request} (h : P (first.answerAll requests)) :
    ∃ s documents preferred, Parsed first requests s documents preferred ∧ Q s documents preferred := by
  induction requests generalizing first with
  | nil => exact absurd h hfirst
  | cons request rest ih =>
      by_cases hnext : P (first.answer request)
      · -- it came with the first request
        cases hdocuments : request.documents with
        | error error =>
            rw [answer_of_error hdocuments] at hnext
            exact absurd hnext hfirst
        | ok documents =>
            rw [answer_of_ok hdocuments] at hnext
            rcases hparse first documents request.preferred hnext with hold | hnew
            · exact absurd hold hfirst
            · exact ⟨first, documents, request.preferred,
                ⟨[], request, rest, rfl, rfl, hdocuments, rfl⟩, hnew⟩
      · obtain ⟨s, documents, preferred, ⟨before, answered, after, rfl, hs⟩, hcame⟩ := ih hnext h
        exact ⟨s, documents, preferred, ⟨request :: before, answered, after, rfl, hs⟩, hcame⟩

section Origins

variable {s : Session} {documents : List Document} {preferred : String}

/-- A kept definition is one of those staged, as it was staged. -/
theorem staged_of_mem_keptDefinitions {d : Definition} (hd : d ∈ s.keptDefinitions documents preferred) :
    d ∈ s.staged documents preferred := by
  obtain ⟨hmem, hkept⟩ := (mem_keptDefinitions documents preferred).mp hd
  obtain ⟨e, he, rfl | rfl⟩ := mem_excludeCircles hmem
  · exact he
  · cases hkept

/-- Ids are never empty: an item without one makes no definition. -/
theorem id_ne_empty_of_mem_staged {d : Definition} (hd : d ∈ s.staged documents preferred) : d.id ≠ "" := by
  obtain ⟨staging, -, root, hdocument⟩ := exists_of_mem_stageAll hd
  obtain ⟨container, -, e, hitem⟩ := Staging.of_mem_document hdocument
  obtain ⟨id, type, isAbstract, hid, -, rfl⟩ := Staging.of_item? hitem
  have hfilter := (Option.filter_eq_some_iff.mp hid).2
  exact of_decide_eq_true hfilter

/-- A prototype that was not there before is an instance of a kept definition. -/
theorem created_of_mem_parse {h : Handle} (hh : h ∈ (s.parse documents preferred).2.prototypes) :
    h ∈ s.prototypes ∨ h ∈ (s.parse documents preferred).1 ∧
      ∃ d ∈ s.keptDefinitions documents preferred, d.isAbstract = false ∧ h.InstanceOf d := by
  rw [prototypes_parse, ← created_parse] at hh
  rcases List.mem_append.mp hh with hold | hnew
  · exact Or.inl hold
  · have hinstances := instances_parse (s := s) documents preferred
    obtain ⟨i, hi, rfl⟩ := List.mem_iff_getElem.mp hnew
    have hi' := hinstances.length_eq ▸ hi
    obtain ⟨hkept, hconcrete⟩ := List.mem_filter.mp (List.getElem_mem hi')
    exact Or.inr ⟨hnew, _, hkept, (Bool.not_eq_true' _).mp hconcrete, hinstances.get hi hi'⟩

end Origins

section Histories

variable {registry : Registry} {options : Options} {store : Store} {requests : List Request}

/-- Every prototype came with documents, for one of their kept definitions. -/
theorem exists_instanceOf {h : Handle}
    (hh : h ∈ ((start registry options store).answerAll requests).prototypes) :
    ∃ s documents preferred, Parsed (start registry options store) requests s documents preferred ∧
      h ∈ (s.parse documents preferred).1 ∧
        ∃ d ∈ s.keptDefinitions documents preferred, d.isAbstract = false ∧ h.InstanceOf d :=
  exists_parsed (P := fun s => h ∈ s.prototypes) (fun _ _ _ => created_of_mem_parse)
    List.not_mem_nil hh

/-- Every filed definition came with documents, and is one of their kept definitions. -/
theorem exists_filed {d : Definition} (hd : d ∈ ((start registry options store).answerAll requests).table) :
    ∃ s documents preferred, Parsed (start registry options store) requests s documents preferred ∧
      ∃ e ∈ s.keptDefinitions documents preferred,
        e.FiledAs ⟨(s.parse documents preferred).2.prototypes, s.options.reportUnresolved⟩ d := by
  have hs := coherent_answerAll registry options store requests
  have hfind : ((start registry options store).answerAll requests).definition? d.id = some d :=
    find?_of_nodup_map hs.catalogued.ids hd
  refine exists_parsed (P := fun s => s.definition? d.id = some d) ?_ ?_ hfind
  · intro s documents preferred hnext
    rcases filed_parse (s := s) documents preferred d.id with hsame | ⟨e, he, -, other, hother, hfiled⟩
    · exact Or.inl (hsame.symm.trans hnext)
    · rw [Option.some.inj (hnext.symm.trans hother)]
      exact Or.inr ⟨e, he, hfiled⟩
  · intro hfirst
    cases hfirst

theorem id_ne_empty_of_mem_prototypes {h : Handle}
    (hh : h ∈ ((start registry options store).answerAll requests).prototypes) : h.id ≠ "" := by
  obtain ⟨s, documents, preferred, -, -, d, hd, -, hinstance⟩ := exists_instanceOf hh
  rw [hinstance.id]
  exact id_ne_empty_of_mem_staged (staged_of_mem_keptDefinitions hd)

/-- After documents are parsed, references with their ids have been bound to what the ids stand for. -/
theorem Parsed.target?_eq {s : Session} {documents : List Document} {preferred : String}
    (h : Parsed (start registry options store) requests s documents preferred) (reports : Bool)
    (id : String) :
    Binding.target? ⟨(s.parse documents preferred).2.prototypes, reports⟩ id
      = (s.parse documents preferred).2.get? id := by
  obtain ⟨before, request, after, -, rfl, hdocuments, rfl⟩ := h
  have hreached : (start registry options store).answerAll (before ++ [request])
      = (((start registry options store).answerAll before).parse documents request.preferred).2 := by
    rw [answerAll, List.foldl_append]
    exact answer_of_ok hdocuments
  rw [Binding.target?]
  split
  · -- no prototype has the empty id
    rename_i hempty
    refine (List.find?_eq_none.mpr fun k hk => ?_).symm
    rw [List.mem_reverse, ← hreached] at hk
    rw [hempty, beq_iff_eq]
    exact id_ne_empty_of_mem_prototypes hk
  · rfl

/-- The references of a filed definition are bound to what their ids stood for when it was filed. -/
theorem references_of_filedAs {s : Session} {documents : List Document} {preferred : String}
    (h : Parsed (start registry options store) requests s documents preferred) {d e : Definition}
    (he : e ∈ s.keptDefinitions documents preferred)
    (hfiled : e.FiledAs ⟨(s.parse documents preferred).2.prototypes, s.options.reportUnresolved⟩ d) :
    ∀ x ∈ Staged.fieldReferences d.body.fields, x.2 = (s.parse documents preferred).2.get? x.1 := by
  intro x hx
  obtain ⟨staging, -, root, hdocument⟩ := exists_of_mem_stageAll (staged_of_mem_keptDefinitions he)
  have hunbound := Staging.references_of_mem_document hdocument
  rw [hfiled] at hx
  rcases Binding.references_fields _ e.body.fields x hx with hold | hnew
  · rw [hunbound] at hold
    cases hold
  · rw [hnew, h.target?_eq]

end Histories

/-! ## What holds of every history -/

/-- A history after which every reference leads to a prototype of the session. -/
structure ReferentiallyClosed (first : Session) (requests : List Request) : Prop where
  /-- What a field refers to, at any depth, is one of the prototypes. -/
  fields : ∀ h ∈ (first.answerAll requests).prototypes,
    ∀ k ∈ Value.fieldHandles ((first.answerAll requests).store.fields h),
      k ∈ (first.answerAll requests).prototypes
  /-- What a definition refers to is what the id stood for after its documents were parsed. -/
  references : ∀ d ∈ (first.answerAll requests).table, ∃ s documents preferred,
    Parsed first requests s documents preferred ∧
      (∃ e ∈ s.keptDefinitions documents preferred,
        e.FiledAs ⟨(s.parse documents preferred).2.prototypes, s.options.reportUnresolved⟩ d) ∧
      ∀ x ∈ Staged.fieldReferences d.body.fields, x.2 = (s.parse documents preferred).2.get? x.1
  /-- What a field refers to is an instance of a definition that was kept and is not abstract. -/
  instances : ∀ h ∈ (first.answerAll requests).prototypes,
    ∀ k ∈ Value.fieldHandles ((first.answerAll requests).store.fields h), ∃ s documents preferred,
      Parsed first requests s documents preferred ∧ k ∈ (s.parse documents preferred).1 ∧
        ∃ d ∈ s.keptDefinitions documents preferred, d.isAbstract = false ∧ k.InstanceOf d
  /-- Definitions that were excluded or are abstract have no instances. -/
  concrete : ∀ s documents preferred, Parsed first requests s documents preferred →
    ∀ e ∈ s.bound (s.staged documents preferred), e.handle.isSome = true →
      e.isExcluded = false ∧ e.isAbstract = false

/-- **CLOSED**: where neither a default of a type refers to a prototype nor a value that a converter makes, every
    history is referentially closed. -/
theorem closed_answerAll {registry : Registry} (hregistry : registry.Unreferring) (options : Options)
    (store : Store) (requests : List Request) :
    ReferentiallyClosed (start registry options store) requests := by
  have hclosed : ((start registry options store).answerAll requests).Closed :=
    answerAll_induction (closed_start hregistry options store)
      (fun _ documents preferred hs => hs.parse documents preferred) requests
  refine ⟨hclosed.fields, ?_, ?_, ?_⟩
  · intro d hd
    obtain ⟨s, documents, preferred, hparsed, e, he, hfiled⟩ := exists_filed hd
    exact ⟨s, documents, preferred, hparsed, ⟨e, he, hfiled⟩, references_of_filedAs hparsed he hfiled⟩
  · intro h hh k hk
    exact exists_instanceOf (hclosed.fields h hh k hk)
  · intro s documents preferred _ e he hsome
    have hfresh := fresh_staged s documents preferred
    obtain ⟨d, hd, cyclic, hprepared⟩ := prepared_of_mem hfresh he
    rw [hprepared.isSome_handle (hfresh d hd), Bool.and_eq_true, Bool.not_eq_true', Bool.not_eq_true']
      at hsome
    exact hsome

/-! ### A thing that is defined again -/

/-- The later thing inherits a reference to the earlier one of its id. -/
theorem second_refers_to_earlier :
    let requests : List Request :=
      [.texts [firstDocument.text, secondDocument.text] ["first", "second"] "", .document secondDocument ""]
    let s := (start ⟨[plainType], .builtin⟩ {} .empty).answerAll requests
    s.prototypes.map (·.id) = ["a", "b", "b"] ∧
      (s.prototypes.map fun h => (Value.fieldHandles (s.store.fields h)).map (·.address)) = [[1], [1], [1]] ∧
      ReferentiallyClosed (start ⟨[plainType], .builtin⟩ {} .empty) requests := by
  exact ⟨by decide +kernel, by decide +kernel, closed_answerAll unreferring_plainType {} .empty _⟩

end Session

end Archetype
