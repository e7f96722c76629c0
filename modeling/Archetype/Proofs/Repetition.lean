import Archetype.Proofs.Closure

/-! # The same documents once more

    A batch of documents that is parsed a second time in a session shadows what it made the first time, and
    nothing else is different: it creates the same prototypes at higher addresses, and reports the same,
    but that each definition it keeps now takes the place of an earlier one.

    The heart is that the batch comes first wherever an id is looked up.  Allocation makes the same
    prototypes, moved up by as many addresses as the first run took (`each_raise`).  So references are bound
    to moved prototypes (`target?_again`), and ids stand for definitions with moved prototypes
    (`find?_again`), although the first run has left a prototype and a definition for every id: what is of
    the batch is found in the batch, and what is not was not filed by the first run either. -/

namespace Archetype

/-! ## Moving prototypes -/

/-- Prototypes from an address on, moved up by some addresses. -/
def Handle.raise (first count : Nat) (h : Handle) : Handle :=
  if first ≤ h.address then { h with address := h.address + count } else h

namespace Handle

theorem raise_of_lt {first count : Nat} {h : Handle} (hlt : h.address < first) :
    h.raise first count = h := if_neg (Nat.not_le.mpr hlt)

theorem raise_of_le {first count : Nat} {h : Handle} (hle : first ≤ h.address) :
    h.raise first count = { h with address := h.address + count } := if_pos hle

theorem id_raise (first count : Nat) (h : Handle) : (h.raise first count).id = h.id := by
  rw [raise]
  split <;> rfl

theorem type_raise (first count : Nat) (h : Handle) : (h.raise first count).type = h.type := by
  rw [raise]
  split <;> rfl

theorem lastWithId?_map {ρ : Handle → Handle} (hid : ∀ h, (ρ h).id = h.id) (hs : List Handle)
    (id : String) : lastWithId? (hs.map ρ) id = (lastWithId? hs id).map ρ := by
  rw [lastWithId?, ← List.map_reverse, List.find?_map, lastWithId?]
  refine congrArg (Option.map ρ) (List.find?_congr fun h _ => ?_)
  show ((ρ h).id == id) = _
  rw [hid]

end Handle

namespace Value

variable {ρ : Handle → Handle}

mutual

/-- The prototypes in a value that has been replaced are those in the value, replaced. -/
theorem handles_rename : ∀ v : Value, (v.rename ρ).handles = v.handles.map ρ
  | .null | .bool _ | .int _ | .float _ | .text _ | .variant _ | .reference _ => rfl
  | .object _ fields => fieldHandles_rename fields
  | .list items => itemHandles_rename items

theorem fieldHandles_rename : ∀ fields : List (String × Value),
    fieldHandles (renameFields ρ fields) = (fieldHandles fields).map ρ
  | [] => rfl
  | (_, v) :: rest => by
      rw [renameFields, fieldHandles, fieldHandles, List.map_append, handles_rename v,
        fieldHandles_rename rest]

theorem itemHandles_rename : ∀ items : List Value,
    itemHandles (renameItems ρ items) = (itemHandles items).map ρ
  | [] => rfl
  | v :: rest => by
      rw [renameItems, itemHandles, itemHandles, List.map_append, handles_rename v, itemHandles_rename rest]

end

end Value

/-- In a store with more addresses in use, a batch of definitions without prototypes gets the same ones,
    moved up. -/
theorem Allocation.each_raise {left right : Store} {first count : Nat} (hfirst : first ≤ left.cells.size)
    (hsize : right.cells.size = left.cells.size + count) {batch : List Definition}
    (hhandle : ∀ d ∈ batch, d.handle = none)
    (hunbound : ∀ d ∈ batch, Staged.fieldTargets d.body.fields = []) :
    (each right batch).1 = (each left batch).1.map (Handle.raise first count) ∧
      (each right batch).2.1 = (each left batch).2.1.map (·.rename (Handle.raise first count)) := by
  induction batch generalizing left right with
  | nil => exact ⟨rfl, rfl⟩
  | cons d rest ih =>
      obtain ⟨hnone, hrest⟩ := List.forall_mem_cons.mp hhandle
      obtain ⟨htargets, hmore⟩ := List.forall_mem_cons.mp hunbound
      -- what is staged refers to no prototype
      have hfields : Staged.renameFields (Handle.raise first count) d.body.fields = d.body.fields :=
        Staged.renameFields_eq_self _ fun k hk => by
          rw [htargets] at hk
          cases hk
      cases h : isConcrete d with
      | true =>
          have hnew : newHandle right d = (newHandle left d).raise first count := by
            rw [Handle.raise_of_le (show first ≤ (newHandle left d).address from hfirst), newHandle,
              newHandle, hsize]
          obtain ⟨hcreated, hbatch⟩ := @ih (grown left d) (grown right d)
            (by rw [size_grown]; omega) (by rw [size_grown, size_grown]; omega) hrest hmore
          rw [each_concrete h, each_concrete h, List.map_cons, List.map_cons, hcreated, hbatch, ← hnew,
            Definition.rename_allocated hfields, Option.map_some, ← hnew]
          exact ⟨rfl, rfl⟩
      | false =>
          have hsame : d.rename (Handle.raise first count) = d := by
            rw [Definition.rename_eq hfields, hnone, Option.map_none, ← hnone]
          obtain ⟨hcreated, hbatch⟩ := ih hfirst hsize hrest hmore
          rw [each_other h, each_other h, List.map_cons, hcreated, hbatch, hsame]
          exact ⟨rfl, rfl⟩

/-! ## Filing over what is filed -/

/-- The report that a definition takes the place of an earlier one of its id. -/
def Definition.takesPlaceOf (d previous : Definition) : Diagnostic :=
  ⟨.warning, .duplicateIdentifier, d.location.file, d.location.line,
    s!"id '{d.id}' is already defined at {previous.location.file}:{previous.location.line}; the later definition wins"⟩

/-- A definition at a later stage of its batch. -/
structure Definition.StageOf (e d : Definition) : Prop where
  id : e.id = d.id
  location : e.location = d.location
  isExcluded : e.isExcluded = d.isExcluded

theorem Definition.StageOf.takesPlaceOf_eq {d e f g : Definition} (h : e.StageOf d) (k : g.StageOf f) :
    e.takesPlaceOf g = d.takesPlaceOf f := by
  rw [takesPlaceOf, takesPlaceOf, h.id, h.location, k.location]

/-- Where an earlier definition is filed for every id of a batch, each kept definition is reported once, in
    their order. -/
theorem Session.forall₂_diagnostics_fileAll {known table batch ds : List Definition}
    (hstage : List.Forall₂ Definition.StageOf batch ds)
    (hknown : ∀ d ∈ ds, d.isExcluded = false → d ∈ known)
    (hfiled : ∀ d ∈ ds, d.isExcluded = false →
      ∃ p, table.find? (·.id == d.id) = some p ∧ ∃ k ∈ known, p.StageOf k) :
    List.Forall₂ (fun report d => ∃ k ∈ known, k.id = d.id ∧ report = d.takesPlaceOf k)
      (fileAll table batch).journal.diagnostics (ds.filter (!·.isExcluded)) := by
  induction hstage generalizing table with
  | nil => exact .nil
  | @cons e d batch ds he _ ih =>
      obtain ⟨hknownHead, hknownRest⟩ := List.forall_mem_cons.mp hknown
      obtain ⟨hfiledHead, hfiledRest⟩ := List.forall_mem_cons.mp hfiled
      cases h : d.isExcluded with
      | true =>
          rw [fileAll_excluded _ _ (he.isExcluded.trans h),
            List.filter_cons_of_neg (by rw [h]; exact Bool.false_ne_true)]
          exact ih hknownRest hfiledRest
      | false =>
          obtain ⟨p, hp, k, hk, hstage⟩ := hfiledHead h
          have hid := List.find?_some hp
          rw [beq_iff_eq] at hid
          rw [fileAll_kept _ _ (he.isExcluded.trans h), List.filter_cons_of_pos (by rw [h]; rfl)]
          simp only [Noted.journal_bind, Journal.diagnostics_append]
          rw [reportDuplicate, he.id, hp]
          refine .cons ⟨k, hk, hstage.id.symm.trans hid, ?_⟩ (ih hknownRest fun f hf hkept => ?_)
          · rw [← he.takesPlaceOf_eq hstage, Definition.takesPlaceOf, he.id]
          · -- an id that was filed stays filed, for the definition itself or for the earlier one
            rw [find?_file]
            by_cases hsame : e.id = f.id
            · rw [if_pos hsame]
              exact ⟨e, rfl, d, hknownHead h, he⟩
            · rw [if_neg hsame]
              exact hfiledRest f hf hkept

namespace Session

open Archetype.Ordering Application

/-! ## A batch, settled again -/

/-- A batch of staged definitions, and the session in which it has been settled once. -/
structure Again (s next : Session) (batch : List Definition) : Prop where
  anchored : s.Anchored
  follows : s.Follows next batch
  fresh : ∀ d ∈ batch, d.Fresh
  fits : ∀ d ∈ batch, d.Fits s.registry
  unbound : ∀ d ∈ batch, Staged.fieldTargets d.body.fields = []

/-- Takes each prototype that a batch creates to the one that it creates when it is settled again. -/
def again (s : Session) (batch : List Definition) : Handle → Handle :=
  Handle.raise s.store.cells.size (s.created batch).length

section Again

variable {s next : Session} {batch : List Definition}

theorem replaces_again (s : Session) (batch : List Definition) : s.Replaces (s.again batch) where
  id := Handle.id_raise _ _
  type := Handle.type_raise _ _
  earlier := fun _ => Handle.raise_of_lt

/-- Moved prototypes lie behind all prototypes of the first run. -/
theorem again_not_mem_created {h : Handle} (hh : h ∈ s.created batch) :
    s.again batch h ∉ s.created batch := by
  intro hmoved
  have hle := (Allocation.address_created_bounds hh).1
  have hlt := (Allocation.address_created_bounds hmoved).2
  rw [Allocation.size_each, again, Handle.raise_of_le hle] at hlt
  exact absurd (Nat.lt_of_add_lt_add_right hlt) (Nat.not_lt.mpr hle)

/-! ### Prototypes and references -/

theorem each_again (h : Again s next batch) :
    next.created batch = (s.created batch).map (s.again batch) ∧
      next.allocatedBatch batch = (s.allocatedBatch batch).map (·.rename (s.again batch)) := by
  refine Allocation.each_raise (Nat.le_refl _) ?_ (handle_of_mem_ordered h.fresh) fun d hd => ?_
  · rw [h.follows.store, size_appliedStore]
  · obtain ⟨e, he, rfl | rfl⟩ := mem_excludeCircles hd
    · exact h.unbound d he
    · exact h.unbound e he

/-- References are bound to moved prototypes: of two with an id, the batch has created the last one. -/
theorem target?_again (h : Again s next batch) (id : String) :
    (next.binding batch).target? id = ((s.binding batch).target? id).map (s.again batch) := by
  rw [Binding.target?, Binding.target?]
  split
  · rfl
  · show Handle.lastWithId? (next.prototypes ++ next.created batch) id
      = (Handle.lastWithId? (s.prototypes ++ s.created batch) id).map (s.again batch)
    rw [h.follows.prototypes, (each_again h).1, Handle.lastWithId?_append, Handle.lastWithId?_append,
      Handle.lastWithId?_map (replaces_again s batch).id, Option.map_or,
      (replaces_again s batch).lastWithId?_prototypes h.anchored]
    cases Handle.lastWithId? (s.created batch) id <;> rfl

theorem definition_again (h : Again s next batch) (d : Definition) :
    (next.binding batch).definition (d.rename (s.again batch))
      = ((s.binding batch).definition d).mapValue (·.rename (s.again batch)) :=
  Binding.definition_rename (congrArg Options.reportUnresolved h.follows.options) (target?_again h) d

/-- **THE SAME BATCH**: the definitions that are applied are the same, but that their prototypes are moved. -/
theorem bound_again (h : Again s next batch) :
    next.bound batch = (s.bound batch).map (·.rename (s.again batch)) := by
  rw [bound, bound, (each_again h).2, List.map_map, List.map_map]
  exact List.map_congr_left fun d _ => congrArg Noted.value (definition_again h d)

theorem bindings_again (h : Again s next batch) :
    ((next.allocatedBatch batch).flatMap fun d => ((next.binding batch).definition d).journal.diagnostics)
      = (s.allocatedBatch batch).flatMap fun d => ((s.binding batch).definition d).journal.diagnostics := by
  rw [(each_again h).2, List.flatMap_map]
  refine List.flatMap_congr fun d _ => ?_
  rw [definition_again h]
  rfl

/-! ### Lines of descent -/

/-- Ids stand for moved definitions.  What an excluded definition is named stands for what it stood for in
    the first run, which has not filed that definition either. -/
theorem find?_again (h : Again s next batch) (id : String) :
    (next.catalogue batch).find? id = ((s.catalogue batch).find? id).map (·.rename (s.again batch)) := by
  have hbatch : ((next.bound batch).reverse.find? fun d => !d.isExcluded && d.id == id)
      = ((s.bound batch).reverse.find? fun d => !d.isExcluded && d.id == id).map
          (·.rename (s.again batch)) := by
    rw [bound_again h, ← List.map_reverse, List.find?_map]
    rfl
  rw [Catalogue.find?_eq, Catalogue.find?_eq, catalogue, catalogue, hbatch, h.follows.table, find?_fileAll,
    find?_map_finish h.fresh, Option.map_or, (replaces_again s batch).find?_table h.anchored]
  cases (s.bound batch).reverse.find? fun d => !d.isExcluded && d.id == id <;> rfl

theorem carries_again (h : Again s next batch) : Carries (s.again batch) s next batch batch where
  rename := (replaces_again s batch).toRenaming h.anchored
  freshLeft := h.fresh
  freshRight := h.fresh
  fits := h.fits
  fitsTable := h.anchored.fits
  bound := by
    intro e he
    rw [bound_again h]
    exact List.mem_map_of_mem he
  find?_eq := find?_again h

/-! ### The diagnostics -/

/-- The same definitions are applied, one after the other. -/
theorem targets_again (h : Again s next batch) :
    targets (next.catalogue batch) (kept batch)
      = (targets (s.catalogue batch) (kept batch)).map (·.rename (s.again batch)) := by
  rw [targets, targets, List.map_filterMap]
  refine List.filterMap_congr fun i _ => ?_
  show ((next.bound batch)[i]?).filter _ = (((s.bound batch)[i]?).filter _).map _
  rw [bound_again h, List.getElem?_map]
  cases (s.bound batch)[i]? with
  | none => rfl
  | some e =>
      have hsome : (e.rename (s.again batch)).handle.isSome = e.handle.isSome := Option.isSome_map ..
      rw [Option.map_some, Option.filter_some, Option.filter_some, hsome]
      split <;> rfl

theorem reports_again (h : Again s next batch) :
    (targets (next.catalogue batch) (kept batch)).flatMap
        (reports (next.catalogue batch) (next.allocatedStore batch))
      = (targets (s.catalogue batch) (kept batch)).flatMap
          (reports (s.catalogue batch) (s.allocatedStore batch)) := by
  rw [targets_again h, List.flatMap_map]
  refine List.flatMap_congr fun e he => (carries_again h).reports_eq ?_
  exact (List.mem_filter.mp ((targets_perm h.fresh).mem_iff.mp he)).1

/-- The definitions that are filed are those of the batch, at a later stage. -/
theorem forall₂_stageOf (hfresh : ∀ d ∈ batch, d.Fresh) :
    List.Forall₂ Definition.StageOf ((s.bound batch).map finish) (ordered batch) := by
  have hlength : ((s.bound batch).map finish).length = (ordered batch).length := by
    rw [List.length_map, length_bound, ordered, length_excludeCircles]
  refine List.forall₂_iff_get.mpr ⟨hlength, fun i hi hother => ?_⟩
  rw [List.get_eq_getElem, List.get_eq_getElem, List.getElem_map]
  rw [List.length_map] at hi
  have he : (s.bound batch)[i]? = some (s.bound batch)[i] := List.getElem?_eq_getElem hi
  obtain ⟨d, hd, hprepared⟩ := prepared_getElem? hfresh he
  have hordered : (ordered batch)[i] = excludedIf (isCyclic (parents batch) i) d := by
    have hat := getElem?_excludeCircles batch (parents batch) i
    rw [hd, Option.map_some] at hat
    exact (List.getElem?_eq_some_iff.mp hat).2
  rw [hordered]
  refine ⟨?_, ?_, ?_⟩
  · rw [id_finish, hprepared.id_eq, excludedIf]
    split <;> rfl
  · rw [Definition.location, body_finish, ← Definition.location, hprepared.location_eq, excludedIf]
    split <;> rfl
  · rw [isExcluded_finish hfresh (List.mem_of_getElem? he), hprepared.isExcluded_eq]
    cases isCyclic (parents batch) i with
    | true => rfl
    | false => exact (hfresh d (List.mem_of_getElem? hd)).isExcluded.symm

/-- Each kept definition takes the place of one that is kept, of the first run or of the second. -/
theorem filings_again (h : Again s next batch) :
    List.Forall₂ (fun report d => ∃ k ∈ (ordered batch).filter (!·.isExcluded), k.id = d.id ∧
        report = d.takesPlaceOf k)
      (fileAll next.table ((next.bound batch).map finish)).journal.diagnostics
      ((ordered batch).filter (!·.isExcluded)) := by
  have hkept {d : Definition} (hd : d ∈ ordered batch) (hd' : d.isExcluded = false) :
      d ∈ (ordered batch).filter (!·.isExcluded) := List.mem_filter.mpr ⟨hd, by rw [hd']; rfl⟩
  refine forall₂_diagnostics_fileAll (forall₂_stageOf h.fresh) (fun _ => hkept) fun d hd hdkept => ?_
  have hstages := forall₂_stageOf (s := s) h.fresh
  -- the first run has filed a definition of that id, which is of the batch
  obtain ⟨e, he, hstage⟩ := exists_of_forall₂_right hstages hd
  have hsome : (((s.bound batch).map finish).reverse.find? fun e => !e.isExcluded && e.id == d.id).isSome :=
    List.find?_isSome.mpr ⟨e, List.mem_reverse.mpr he, by
      rw [hstage.isExcluded, hdkept, hstage.id, beq_self_eq_true]
      rfl⟩
  obtain ⟨p, hp⟩ := Option.isSome_iff_exists.mp hsome
  have hfound := List.find?_some hp
  rw [Bool.and_eq_true, Bool.not_eq_true'] at hfound
  obtain ⟨k, hk, hpk⟩ := exists_of_forall₂_left hstages
    (List.mem_reverse.mp (List.mem_of_find?_eq_some hp))
  refine ⟨p, ?_, k, hkept hk (hpk.isExcluded.symm.trans hfound.1), hpk⟩
  rw [h.follows.table, find?_fileAll, hp, Option.some_or]

/-- **THE SAME REPORTS**: all passes before filing report the same, and none of them an id that is defined
    already. -/
theorem diagnostics_settle_again (h : Again s next batch) :
    (next.settle batch).journal.diagnostics
      = (s.settle batch).journal.diagnostics.filter (·.kind ≠ .duplicateIdentifier)
        ++ (fileAll next.table ((next.bound batch).map finish)).journal.diagnostics := by
  have hkinds {ds : List Diagnostic} (hds : ∀ x ∈ ds, x.kind ≠ .duplicateIdentifier) :
      ds.filter (·.kind ≠ .duplicateIdentifier) = ds :=
    List.filter_eq_self.mpr fun x hx => decide_eq_true (hds x hx)
  have hcircles : ∀ x ∈ (reportCircles batch (parents batch) batch.zipIdx).journal.diagnostics,
      x.kind ≠ .duplicateIdentifier := by
    intro x hx
    rw [reports_reportCircles _ _ _ x hx]
    decide
  have hbindings : ∀ x ∈ (s.allocatedBatch batch).flatMap fun d =>
      ((s.binding batch).definition d).journal.diagnostics, x.kind ≠ .duplicateIdentifier := by
    intro x hx
    obtain ⟨d, -, hd⟩ := List.mem_flatMap.mp hx
    rw [Binding.reports_definition _ d x hd]
    decide
  have happlied : ∀ x ∈ (targets (s.catalogue batch) (kept batch)).flatMap
      (reports (s.catalogue batch) (s.allocatedStore batch)), x.kind ≠ .duplicateIdentifier := by
    intro x hx hkind
    have hown := (reports_of_mem_targets h.fresh
      (fun d hd => (h.anchored.coherent.catalogued.filed d hd).bound) hx).kind
    rw [hkind] at hown
    exact absurd hown (by decide)
  have hfilings : (fileAll s.table ((s.bound batch).map finish)).journal.diagnostics.filter
      (·.kind ≠ .duplicateIdentifier) = [] :=
    List.filter_eq_nil_iff.mpr fun x hx hkind =>
      absurd (reports_fileAll _ _ x hx) (of_decide_eq_true hkind)
  rw [diagnostics_settle h.fresh, diagnostics_settle h.fresh, bindings_again h, reports_again h,
    List.filter_append, List.filter_append, List.filter_append, hkinds hcircles, hkinds hbindings,
    hkinds happlied, hfilings, List.append_nil]

end Again

/-! ## Documents, parsed again -/

theorem again_staged {s : Session} (hs : s.Anchored) (documents : List Document) (preferred : String) :
    Again s (s.parse documents preferred).2 (s.staged documents preferred) where
  anchored := hs
  follows := follows_parse s documents preferred
  fresh := fresh_staged s documents preferred
  fits := fun _ hd => (fits_of_mem_staged hd).2
  unbound := fun _ hd => targets_of_mem_staged hd

/-- What parsing documents a second time comes to, where `kept` are the definitions that are not excluded:
    `ρ` takes each prototype of the first list to the one of the second that stands in its place. -/
structure Repeats (ρ : Handle → Handle) (kept : List Definition) (one two : List Handle × Session) :
    Prop where
  id : ∀ h, (ρ h).id = h.id
  type : ∀ h, (ρ h).type = h.type
  created : two.1 = one.1.map ρ
  /-- The second list has prototypes of its own, and those of the first keep their fields. -/
  apart : ∀ h ∈ one.1, ρ h ∉ one.1
  untouched : ∀ h ∈ one.1, two.2.store.fields h = one.2.store.fields h
  /-- The fields are the same, but that references lead to the second list. -/
  fields : ∀ h ∈ one.1, two.2.store.fields (ρ h) = Value.renameFields ρ (two.2.store.fields h)
  closed : ∀ h ∈ two.1, (two.2.store.fields h).Within (· ∈ two.1)
  /-- The reports are those of the first time, but for duplicates: each kept definition is one now. -/
  diagnostics : ∃ duplicates,
    two.2.diagnostics = one.2.diagnostics
      ++ (one.2.diagnostics.filter (·.kind ≠ .duplicateIdentifier) ++ duplicates) ∧
    List.Forall₂ (fun report d => ∃ k ∈ kept, k.id = d.id ∧ report = d.takesPlaceOf k) duplicates kept

/-- The diagnostics of the second time, where nothing was reported before the first. -/
theorem diagnostics_parse_again {s : Session} (hs : s.Anchored) (hnone : s.diagnostics = [])
    (documents : List Document) (preferred : String) :
    let batch := s.staged documents preferred
    let one := s.parse documents preferred
    (one.2.parse documents preferred).2.diagnostics
      = one.2.diagnostics
        ++ (one.2.diagnostics.filter (·.kind ≠ .duplicateIdentifier)
          ++ (fileAll one.2.table ((one.2.bound batch).map finish)).journal.diagnostics) := by
  intro batch one
  have hstaging : ((stageAll s.registry s.options preferred documents).journal.diagnostics.filter
      (·.kind ≠ .duplicateIdentifier))
        = (stageAll s.registry s.options preferred documents).journal.diagnostics := by
    refine List.filter_eq_self.mpr fun x hx => decide_eq_true fun hkind => ?_
    have hown : x.kind ∈ stagingKinds := reports_stageAll _ _ _ _ x hx
    rw [hkind] at hown
    exact absurd hown (by decide)
  have hone : one.2.diagnostics = (stageAll s.registry s.options preferred documents).journal.diagnostics
      ++ (s.settle (s.staged documents preferred)).journal.diagnostics := by
    rw [diagnostics_parse, hnone, List.nil_append]
  have htwo : (one.2.parse documents preferred).2.diagnostics = one.2.diagnostics
      ++ ((stageAll s.registry s.options preferred documents).journal.diagnostics
        ++ (one.2.settle (s.staged documents preferred)).journal.diagnostics) := diagnostics_parse
  rw [htwo, diagnostics_settle_again (again_staged hs documents preferred), hone, List.filter_append, hstaging,
    List.append_assoc (stageAll s.registry s.options preferred documents).journal.diagnostics (List.filter _ _)]

/-- **ONCE MORE**: where neither a default of a type refers to a prototype nor a value that a converter makes,
    parsing some documents twice in a new session creates the same prototypes twice, each time with references
    among themselves, and the second time reports what the first time did, but that each kept definition is
    reported to take the place of another and nothing else is. -/
theorem parse_again {registry : Registry} (hregistry : registry.Unreferring) (options : Options)
    (store : Store) (documents : List Document) (preferred : String) :
    let s := start registry options store
    let one := s.parse documents preferred
    ∃ ρ, Repeats ρ (s.keptDefinitions documents preferred) one (one.2.parse documents preferred) := by
  intro s one
  have hs : s.Closed := closed_start hregistry options store
  have h : Again s one.2 (s.staged documents preferred) := again_staged hs.anchored documents preferred
  have hρ := replaces_again s (s.staged documents preferred)
  have hcreated : (one.2.parse documents preferred).1
      = one.1.map (s.again (s.staged documents preferred)) := by
    rw [created_parse, created_parse]
    exact (each_again h).1
  have huntouched : ∀ k ∈ one.1,
      (one.2.parse documents preferred).2.store.fields k = one.2.store.fields k := by
    intro k hk
    refine ((hs.anchored.parse documents preferred).coherent.adds documents preferred).fields k ?_
    rw [prototypes_parse, ← created_parse]
    exact List.mem_append_right _ hk
  have hfields : ∀ k ∈ one.1, (one.2.parse documents preferred).2.store.fields
      (s.again (s.staged documents preferred) k)
        = Value.renameFields (s.again (s.staged documents preferred)) (one.2.store.fields k) := by
    intro k hk
    rw [created_parse] at hk
    rw [store_parse, store_parse]
    exact (carries_again h).fields_eq hk
  refine ⟨s.again (s.staged documents preferred), hρ.id, hρ.type, hcreated, ?_, huntouched, ?_, ?_, ?_⟩
  · intro k hk
    rw [created_parse] at hk ⊢
    exact again_not_mem_created hk
  · intro k hk
    rw [hfields k hk, huntouched k hk]
  · intro k hk target htarget
    rw [hcreated] at hk ⊢
    obtain ⟨old, hold, rfl⟩ := List.mem_map.mp hk
    -- what the moved prototype refers to is moved, and was of the first list
    rw [hfields old hold, Value.fieldHandles_rename] at htarget
    obtain ⟨before, hbefore, rfl⟩ := List.mem_map.mp htarget
    rw [created_parse] at hold ⊢
    rw [store_parse] at hbefore
    exact List.mem_map_of_mem (hs.created hold before hbefore)
  · exact ⟨_, diagnostics_parse_again hs.anchored rfl documents preferred, filings_again h⟩

/-! ### Things that refer and inherit, twice -/

theorem first_second_again :
    let s := start ⟨[plainType], .builtin⟩ {} .empty
    let one := s.parse [firstDocument, secondDocument] ""
    let two := one.2.parse [firstDocument, secondDocument] ""
    Registry.Unreferring ⟨[plainType], .builtin⟩ ∧ one.1.map (·.id) = ["a", "b"] ∧
      two.2.diagnostics.map (·.message) =
        ["id 'a' is already defined at first:1; the later definition wins",
          "id 'b' is already defined at second:1; the later definition wins"] ∧
      ∃ ρ, Repeats ρ (s.keptDefinitions [firstDocument, secondDocument] "") one two := by
  exact ⟨unreferring_plainType, by decide +kernel, by decide +kernel,
    parse_again unreferring_plainType {} .empty _ _⟩

end Session

end Archetype
