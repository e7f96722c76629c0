import Archetype.Proofs.History
import Archetype.Proofs.Lineage
import Archetype.Proofs.Reports

/-! # Sessions stay consistent

    After every history the table and the prototypes tell the same story.  The heart is filing: a batch is
    filed in the order in which its prototypes were allocated, so at every moment of it the prototype of a
    filed definition is the last one with its id (`Catalogued.file`).  A definition that takes the place of
    another brings its prototype along, or has none, and the prototypes of other ids change nothing.

    The other clauses need no order: addresses are never given twice, and no filed definition and nothing
    in a batch has a pending reference left when a batch is applied. -/

namespace Archetype

/-! ## The last prototype with an id -/

namespace Handle

theorem lastWithId?_append (xs ys : List Handle) (id : String) :
    lastWithId? (xs ++ ys) id = (lastWithId? ys id).or (lastWithId? xs id) := by
  rw [lastWithId?, List.reverse_append, List.find?_append]
  rfl

theorem lastWithId?_singleton (h : Handle) (id : String) :
    lastWithId? [h] id = if h.id = id then some h else none := by
  show [h].find? (·.id == id) = _
  rw [List.find?_singleton]
  by_cases heq : h.id = id
  · rw [if_pos heq, if_pos (beq_iff_eq.mpr heq)]
  · rw [if_neg heq, if_neg (fun hbeq => heq (beq_iff_eq.mp hbeq))]

theorem mem_of_lastWithId? {hs : List Handle} {id : String} {h : Handle}
    (hlast : lastWithId? hs id = some h) : h ∈ hs :=
  List.mem_reverse.mp (List.mem_of_find?_eq_some hlast)

end Handle

/-! ## What is filed -/

/-- The state that a definition is filed in. -/
def Definition.lastState (d : Definition) : DefinitionState :=
  if d.isAbstract then .referencesResolved else .applied

/-- A definition that is ready to be filed, if it is not excluded. -/
structure Definition.Ready (d : Definition) : Prop where
  state : d.isExcluded = false → d.state = d.lastState
  bound : d.isExcluded = false → d.pendingIds = []
  isSome_handle : d.handle.isSome = (!d.isExcluded && !d.isAbstract)
  handle : ∀ h, d.handle = some h → h.id = d.id ∧ h.type = d.type.shape

/-- What holds of a filed definition where these are the prototypes so far. -/
structure Definition.Filed (prototypes : List Handle) (d : Definition) : Prop where
  state : d.state = d.lastState
  bound : d.pendingIds = []
  isSome_handle : d.handle.isSome = !d.isAbstract
  handle : ∀ h, d.handle = some h → h.id = d.id ∧ h.type = d.type.shape
  latest : ∀ h, d.handle = some h → Handle.lastWithId? prototypes d.id = some h

/-- A table in which every definition is filed, at most one for each id. -/
structure Catalogued (prototypes : List Handle) (table : List Definition) : Prop where
  ids : (table.map (·.id)).Nodup
  filed : ∀ d ∈ table, d.Filed prototypes

section Filing

variable {prototypes : List Handle} {table batch : List Definition} {d e : Definition}

/-- A definition that is filed, with its prototype the latest. -/
theorem Definition.Ready.filed (h : d.Ready) (hkept : d.isExcluded = false) :
    d.Filed (prototypes ++ d.handle.toList) where
  state := h.state hkept
  bound := h.bound hkept
  isSome_handle := by
    rw [h.isSome_handle, hkept]
    rfl
  handle := h.handle
  latest := by
    intro k hk
    rw [hk]
    show Handle.lastWithId? (prototypes ++ [k]) d.id = some k
    rw [Handle.lastWithId?_append, Handle.lastWithId?_singleton, if_pos (h.handle k hk).1]
    rfl

/-- A definition stays filed when a prototype with another id is added. -/
theorem Definition.Filed.mono (h : e.Filed prototypes) (hd : d.Ready) (hne : e.id ≠ d.id) :
    e.Filed (prototypes ++ d.handle.toList) where
  state := h.state
  bound := h.bound
  isSome_handle := h.isSome_handle
  handle := h.handle
  latest := by
    intro k hk
    cases hhandle : d.handle with
    | none =>
        show Handle.lastWithId? (prototypes ++ []) e.id = some k
        rw [List.append_nil]
        exact h.latest k hk
    | some new =>
        have hother : new.id ≠ e.id := fun heq => hne (heq.symm.trans (hd.handle new hhandle).1)
        show Handle.lastWithId? (prototypes ++ [new]) e.id = some k
        rw [Handle.lastWithId?_append, Handle.lastWithId?_singleton, if_neg hother, Option.none_or]
        exact h.latest k hk

/-- Filing a definition, one step. -/
theorem Catalogued.file (h : Catalogued prototypes table) (hd : d.Ready)
    (hkept : d.isExcluded = false) :
    Catalogued (prototypes ++ d.handle.toList) (Session.file d table) where
  ids := Session.nodup_file d h.ids
  filed := by
    intro e he
    rcases Session.mem_file h.ids he with rfl | ⟨hmem, hne⟩
    · exact hd.filed hkept
    · exact (h.filed e hmem).mono hd hne

/-- **CATALOGUED**: after a batch is filed, with its prototypes in the order of the batch. -/
theorem Catalogued.fileAll (h : Catalogued prototypes table) (hbatch : ∀ d ∈ batch, d.Ready) :
    Catalogued (prototypes ++ batch.filterMap (·.handle)) (Session.fileAll table batch).value := by
  induction batch generalizing prototypes table with
  | nil =>
      rw [List.filterMap_nil, List.append_nil]
      exact h
  | cons d rest ih =>
      have hd : d.Ready := hbatch d List.mem_cons_self
      have hrest : ∀ e ∈ rest, e.Ready := fun e he => hbatch e (List.mem_cons_of_mem _ he)
      cases hexcluded : d.isExcluded with
      | true =>
          -- an excluded definition has no prototype and is not filed: both sides skip it
          have hnone : d.handle = none := by
            rw [← Option.not_isSome_iff_eq_none, hd.isSome_handle, hexcluded]
            exact Bool.false_ne_true
          rw [Session.fileAll_excluded _ _ hexcluded, List.filterMap_cons_none hnone]
          exact ih h hrest
      | false =>
          have hsplit : (d :: rest).filterMap (·.handle)
              = d.handle.toList ++ rest.filterMap (·.handle) := by
            rw [List.filterMap_cons]
            cases d.handle <;> rfl
          rw [Session.fileAll_kept _ _ hexcluded, hsplit, ← List.append_assoc]
          exact ih (h.file hd hexcluded) hrest

end Filing

namespace Session

open Application

/-! ## One batch -/

section Batch

variable {s : Session} {batch : List Definition}

private theorem ready_finish {b : Binding} {cyclic : Bool} {d e : Definition} (hd : d.Fresh)
    (h : Prepared b cyclic d e) : (finish e).Ready := by
  have hhandle := h.isSome_handle hd
  have hnamed := fun k (hk : e.handle = some k) => h.handle_eq hd hk
  rw [finish]
  -- `finish` looks at the handle, `Ready` at whether the definition is abstract
  cases hsome : e.handle.isSome with
  | true =>
      rw [hsome] at hhandle
      obtain ⟨hkept, hconcrete⟩ := Bool.and_eq_true_iff.mp hhandle.symm
      rw [Bool.not_eq_true'] at hkept hconcrete
      rw [if_pos rfl]
      refine ⟨fun _ => ?_, fun _ => (h.state_eq hkept).2, ?_, hnamed⟩
      · show DefinitionState.applied = if e.isAbstract then _ else _
        rw [hconcrete]
        rfl
      · show e.handle.isSome = (true && !e.isAbstract)
        rw [hsome, hconcrete]
        rfl
  | false =>
      rw [if_neg Bool.false_ne_true]
      refine ⟨fun hkept => ?_, fun hkept => (h.state_eq hkept).2, h.isSome_handle hd, hnamed⟩
      rw [hsome, hkept] at hhandle
      have habstract : e.isAbstract = true := by
        cases habs : e.isAbstract with
        | true => rfl
        | false => rw [habs] at hhandle; cases hhandle
      rw [(h.state_eq hkept).1, Definition.lastState, habstract]
      rfl

/-- The batch as it is filed is ready for it. -/
theorem ready_of_mem (hfresh : ∀ d ∈ batch, d.Fresh) :
    ∀ d ∈ (s.bound batch).map finish, d.Ready := by
  intro d hd
  obtain ⟨e, he, rfl⟩ := List.mem_map.mp hd
  obtain ⟨original, horiginal, cyclic, hprepared⟩ := prepared_of_mem hfresh he
  exact ready_finish (hfresh original horiginal) hprepared

theorem handles_finish (ds : List Definition) :
    (ds.map finish).filterMap (·.handle) = ds.filterMap (·.handle) := by
  rw [List.filterMap_map]
  refine List.filterMap_congr fun d _ => ?_
  show (finish d).handle = d.handle
  rw [finish]
  cases hsome : d.handle.isSome with
  | true => rw [if_pos rfl]
  | false => rw [if_neg Bool.false_ne_true]

/-- Nothing is pending in what can be inherited while a batch is applied. -/
theorem pendingIds_of_find? (hfresh : ∀ d ∈ batch, d.Fresh)
    (htable : ∀ d ∈ s.table, d.pendingIds = []) {id : String} {a : Definition}
    (h : (s.catalogue batch).find? id = some a) : a.pendingIds = [] := by
  rcases (Catalogue.of_find? h).2 with ⟨hmem, hkept⟩ | hmem
  · obtain ⟨d, -, _, hprepared⟩ := prepared_of_mem hfresh hmem
    exact (hprepared.state_eq hkept).2
  · exact htable a hmem

/-- While a batch is applied, nothing is reported but how lines of descent end and what does not fit. -/
theorem reports_of_mem_targets (hfresh : ∀ d ∈ batch, d.Fresh)
    (htable : ∀ d ∈ s.table, d.pendingIds = []) {x : Diagnostic}
    (hx : x ∈ (targets (s.catalogue batch) (Ordering.kept batch)).flatMap
      (reports (s.catalogue batch) (s.allocatedStore batch))) : Application.IsOwn x := by
  obtain ⟨e, he, hreport⟩ := List.mem_flatMap.mp hx
  obtain ⟨hmem, hsome⟩ := List.mem_filter.mp ((targets_perm hfresh).mem_iff.mp he)
  obtain ⟨h, hh⟩ := Option.isSome_iff_exists.mp hsome
  obtain ⟨d, hd, _, hprepared⟩ := prepared_of_mem hfresh hmem
  have hkept : e.isExcluded = false := by
    rw [hprepared.isSome_handle (hfresh d hd), Bool.and_eq_true, Bool.not_eq_true'] at hsome
    exact hsome.1
  rw [reports_some hh] at hreport
  refine reports_outcome _ _ h e (hprepared.state_eq hkept).2 ?_ x hreport
  intro a ha
  obtain ⟨id, hfind⟩ := Catalogue.find?_of_mem_ancestors ha
  exact pendingIds_of_find? hfresh htable hfind

/-- Settling a batch never reports a pending reference. -/
theorem settle_reports_resolved (hfresh : ∀ d ∈ batch, d.Fresh)
    (htable : ∀ d ∈ s.table, d.pendingIds = []) : (s.settle batch).Reports SaysResolved := by
  intro x hx
  rw [diagnostics_settle hfresh] at hx
  rcases List.mem_append.mp hx with hx | hfiled
  · rcases List.mem_append.mp hx with hx | happlied
    · rcases List.mem_append.mp hx with hordered | hbound
      · have hkind := Ordering.reports_reportCircles _ _ _ x hordered
        exact .of_kind (by rw [hkind]; decide)
      · obtain ⟨d, -, hd⟩ := List.mem_flatMap.mp hbound
        have hkind := Binding.reports_definition _ d x hd
        exact .of_kind (by rw [hkind]; decide)
    · exact (reports_of_mem_targets hfresh htable happlied).resolved
  · have hkind := reports_fileAll _ _ x hfiled
    exact .of_kind (by rw [hkind]; decide)

end Batch

/-! ## Histories -/

/-- What every request keeps. -/
structure Coherent (s : Session) : Prop where
  catalogued : Catalogued s.prototypes s.table
  distinct : (s.prototypes.map (·.address)).Nodup
  inUse : ∀ h ∈ s.prototypes, h.address < s.store.cells.size
  resolved : ∀ x ∈ s.diagnostics, SaysResolved x

theorem coherent_start (registry : Registry) (options : Options) (store : Store) :
    (start registry options store).Coherent where
  catalogued := ⟨List.nodup_nil, fun _ h => nomatch h⟩
  distinct := List.nodup_nil
  inUse := fun _ h => nomatch h
  resolved := fun _ h => nomatch h

theorem Coherent.parse {s : Session} (hs : s.Coherent) (documents : List Document)
    (preferred : String) : (s.parse documents preferred).2.Coherent := by
  have hfresh := fresh_staged s documents preferred
  refine ⟨?_, ?_, ?_, ?_⟩
  · rw [table_parse, prototypes_parse, created_eq hfresh, ← handles_finish]
    exact hs.catalogued.fileAll (ready_of_mem hfresh)
  · rw [prototypes_parse, List.map_append]
    refine List.nodup_append.mpr ⟨hs.distinct, Allocation.nodup_address_created .., ?_⟩
    -- the addresses in use are below those that are given out
    intro old hold new hnew heq
    obtain ⟨h, hh, rfl⟩ := List.mem_map.mp hold
    obtain ⟨k, hk, rfl⟩ := List.mem_map.mp hnew
    have hlt := hs.inUse h hh
    have hge := (Allocation.address_created_bounds hk).1
    omega
  · intro h hh
    rw [prototypes_parse] at hh
    rw [store_parse, size_appliedStore]
    rcases List.mem_append.mp hh with hold | hnew
    · have hlt := hs.inUse h hold
      omega
    · have hlt := (Allocation.address_created_bounds hnew).2
      rw [Allocation.size_each] at hlt
      exact hlt
  · intro x hx
    rw [diagnostics_parse] at hx
    rcases List.mem_append.mp hx with hold | hnew
    · exact hs.resolved x hold
    · rcases List.mem_append.mp hnew with hstaged | hsettled
      · refine .of_kind fun hkind => ?_
        have hown : x.kind ∈ stagingKinds := reports_stageAll _ _ _ _ x hstaged
        rw [hkind] at hown
        exact absurd hown (by decide)
      · exact settle_reports_resolved hfresh (fun d hd => (hs.catalogued.filed d hd).bound) x hsettled

theorem coherent_answerAll (registry : Registry) (options : Options) (store : Store)
    (requests : List Request) : ((start registry options store).answerAll requests).Coherent :=
  answerAll_induction (coherent_start registry options store)
    (fun _ documents preferred hs => hs.parse documents preferred) requests

theorem Reachable.coherent {s : Session} (hs : s.Reachable) : s.Coherent := by
  obtain ⟨registry, options, store, requests, rfl⟩ := hs
  exact coherent_answerAll registry options store requests

/-- A session whose definitions and prototypes tell the same story. -/
structure Consistent (s : Session) : Prop where
  /-- Each definition is stored under its own id, and under no other. -/
  stored : ∀ d ∈ s.table, s.definition? d.id = some d
  named : ∀ id d, s.definition? id = some d → d.id = id
  /-- A definition has been applied, or bound if it is abstract. -/
  applied : ∀ d ∈ s.table, d.state = .applied ↔ d.isAbstract = false
  bound : ∀ d ∈ s.table, d.state = .referencesResolved ↔ d.isAbstract = true
  instantiated : ∀ d ∈ s.table, d.handle.isSome = true ↔ d.isAbstract = false
  /-- No reference is pending, at any depth, and none was when it was applied. -/
  nothingPending : ∀ d ∈ s.table, d.pendingIds = []
  neverPending : ∀ x ∈ s.diagnostics, x.kind = .typeMismatchOnApply →
    ∀ id : String, x.message ≠ s!"reference '{id}' was never resolved"
  /-- Prototypes are pairwise different. -/
  distinct : s.prototypes.Pairwise fun h k => h.isSame k = false
  /-- The prototype of a definition is the one that its id stands for. -/
  latest : ∀ d ∈ s.table, ∀ h, d.handle = some h →
    h ∈ s.prototypes ∧ h.id = d.id ∧ h.type = d.type.shape ∧ s.get? d.id = some h

/-- **CONSISTENT**: every session that requests lead to is consistent. -/
theorem consistent_answerAll (registry : Registry) (options : Options) (store : Store)
    (requests : List Request) : ((start registry options store).answerAll requests).Consistent := by
  have hs := coherent_answerAll registry options store requests
  refine ⟨?_, ?_, ?_, ?_, ?_, ?_, hs.resolved, ?_, ?_⟩
  · exact fun d hd => find?_of_nodup_map hs.catalogued.ids hd
  · intro id d hfind
    have hid := List.find?_some hfind
    rw [beq_iff_eq] at hid
    exact hid
  · intro d hd
    rw [(hs.catalogued.filed d hd).state, Definition.lastState]
    cases d.isAbstract <;> decide
  · intro d hd
    rw [(hs.catalogued.filed d hd).state, Definition.lastState]
    cases d.isAbstract <;> decide
  · intro d hd
    rw [(hs.catalogued.filed d hd).isSome_handle, Bool.not_eq_true']
  · exact fun d hd => (hs.catalogued.filed d hd).bound
  · refine List.Pairwise.imp ?_ (List.pairwise_map.mp hs.distinct)
    intro h k hne
    exact beq_eq_false_iff_ne.mpr hne
  · intro d hd h hh
    have hfiled := hs.catalogued.filed d hd
    have hlatest := hfiled.latest h hh
    exact ⟨Handle.mem_of_lastWithId? hlatest, (hfiled.handle h hh).1, (hfiled.handle h hh).2, hlatest⟩

end Session

end Archetype
