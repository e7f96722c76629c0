import Archetype.Proofs.Arrangement
import Archetype.Proofs.Parts
import Archetype.Proofs.References
import Archetype.Proofs.Soundness
import Archetype.Proofs.Splitting

/-! # Documents in another order

    Where no id stands twice among the definitions of a batch of documents, their order makes no difference:
    the same prototypes are created, filed and reported, up to their addresses.

    The heart is that every pass commutes with one replacement of prototypes, the one that takes each new
    prototype to the new one of the same id (`matching`).  Ordering and allocation do (`allocatedBatch_perm`),
    references are bound to matching prototypes (`target?_eq`), and from there on nothing depends on where
    in the batch a definition stands: an id stands for one definition, so the lines of descent match, and
    what is reported and written is told definition by definition.

    What was there before is not replaced.  That needs to be known of all that a new prototype can take over:
    of earlier prototypes, of what filed definitions refer to, and of what the registry brings in
    (`Anchored`). -/

namespace Archetype

/-! ## What sessions refer to -/

/-- The prototypes that a registry brings in, in the defaults of its types and in what its converters make, are
    in the store.  A registry is built before anything is parsed, so neither refers to a prototype that a
    session creates. -/
structure Registry.RefersInto (r : Registry) (store : Store) : Prop where
  defaults : ∀ type ∈ r.types, ∀ f ∈ type.fields, ∀ v ∈ f.default, ∀ h ∈ v.handles,
    h.address < store.cells.size
  converters : ∀ c ∈ r.converters.converters, ∀ text v, c.convert text = .ok v → ∀ h ∈ v.handles,
    h.address < store.cells.size

/-- A registry brings in no prototypes: no default of a type refers to one, and no converter makes a value that
    does. -/
structure Registry.Unreferring (r : Registry) : Prop where
  defaults : ∀ type ∈ r.types, ∀ f ∈ type.fields, ∀ v ∈ f.default, v.handles = []
  converters : ∀ c ∈ r.converters.converters, ∀ text v, c.convert text = .ok v → v.handles = []

theorem Registry.Unreferring.refersInto {r : Registry} (h : r.Unreferring) (store : Store) :
    r.RefersInto store where
  defaults := by
    intro type htype f hf v hv k hk
    rw [h.defaults type htype f hf v hv] at hk
    cases hk
  converters := by
    intro c hc text v hv k hk
    rw [h.converters c hc text v hv] at hk
    cases hk

/-- What a registry refers to in a store it refers to in a larger one. -/
theorem Registry.RefersInto.mono {r : Registry} {store larger : Store} (h : r.RefersInto store)
    (hle : store.cells.size ≤ larger.cells.size) : r.RefersInto larger where
  defaults := fun type htype f hf v hv k hk => Nat.lt_of_lt_of_le (h.defaults type htype f hf v hv k hk) hle
  converters := fun c hc text v hv k hk => Nat.lt_of_lt_of_le (h.converters c hc text v hv k hk) hle

theorem Value.mem_fieldHandles {fields : Fields} {h : Handle} :
    h ∈ fieldHandles fields ↔ ∃ entry ∈ fields, h ∈ entry.2.handles := by
  induction fields with
  | nil => simp only [fieldHandles, List.not_mem_nil, false_and, exists_false]
  | cons entry rest ih =>
      rw [fieldHandles, List.mem_append, ih, List.exists_mem_cons_iff]

/-- What a fresh instance refers to stands in a default. -/
theorem Descriptor.exists_of_mem_handles_defaults {type : Descriptor} {h : Handle}
    (hh : h ∈ Value.fieldHandles type.defaults) :
    ∃ f ∈ type.fields, ∃ v ∈ f.default, h ∈ v.handles := by
  obtain ⟨entry, hentry, hh⟩ := Value.mem_fieldHandles.mp hh
  obtain ⟨f, hf, hv⟩ := Descriptor.exists_of_mem_defaults hentry
  exact ⟨f, hf, entry.2, hv, hh⟩

namespace Session

open Archetype.Ordering Application

theorem targets_of_mem_staged {s : Session} {documents : List Document} {preferred : String}
    {d : Definition} (h : d ∈ s.staged documents preferred) : Staged.fieldTargets d.body.fields = [] := by
  obtain ⟨staging, -, root, hd⟩ := exists_of_mem_stageAll h
  exact Staging.targets_of_mem_document hd

/-- A session that refers to nothing but its own prototypes and those that were there before it. -/
structure Anchored (s : Session) : Prop where
  coherent : s.Coherent
  registry : s.registry.RefersInto s.store
  fits : ∀ d ∈ s.table, d.Fits s.registry
  targets : ∀ d ∈ s.table, ∀ h ∈ Staged.fieldTargets d.body.fields, h ∈ s.prototypes

theorem anchored_start {registry : Registry} {store : Store} (options : Options)
    (h : registry.RefersInto store) : (start registry options store).Anchored where
  coherent := coherent_start registry options store
  registry := h
  fits := fun _ hd => nomatch hd
  targets := fun _ hd => nomatch hd

/-- What a definition refers to when it is applied is a prototype of the session. -/
theorem targets_of_mem_bound {s : Session} {documents : List Document} {preferred : String}
    {e : Definition} (he : e ∈ s.bound (s.staged documents preferred)) :
    ∀ h ∈ Staged.fieldTargets e.body.fields,
      h ∈ s.prototypes ++ s.created (s.staged documents preferred) := by
  intro h hh
  obtain ⟨d, hd, _, hprepared⟩ := prepared_of_mem (fresh_staged s documents preferred) he
  have hunbound := targets_of_mem_staged hd
  -- nothing was bound before, so what is referred to comes from the binding
  have hbound (hresolved : h ∈ Staged.fieldTargets
      ((s.binding (s.staged documents preferred)).fields d.body.fields).value) :
      h ∈ s.prototypes ++ s.created (s.staged documents preferred) := by
    rcases Binding.targets_fields _ d.body.fields h hresolved with hold | hnew
    · rw [hunbound] at hold
      cases hold
    · exact hnew
  cases hprepared with
  | excluded =>
      rw [show Staged.fieldTargets _ = [] from hunbound] at hh
      cases hh
  | abstract => exact hbound hh
  | concrete => exact hbound hh

/-- Neither a definition nor its ancestors refer to anything else. -/
theorem targets_of_mem_line {s : Session} {documents : List Document} {preferred : String}
    (htable : ∀ d ∈ s.table, ∀ h ∈ Staged.fieldTargets d.body.fields, h ∈ s.prototypes) {e a : Definition}
    (he : e ∈ s.bound (s.staged documents preferred))
    (ha : a ∈ ((s.catalogue (s.staged documents preferred)).lineage e).ancestors.reverse ++ [e]) :
    ∀ h ∈ Staged.fieldTargets a.body.fields,
      h ∈ s.prototypes ++ s.created (s.staged documents preferred) := by
  intro h hh
  rcases mem_bound_or_table_of_mem_line he ha with hbatch | hfiled
  · exact targets_of_mem_bound hbatch h hh
  · exact List.mem_append_left _ (htable a hfiled h hh)

theorem body_finish (e : Definition) : (finish e).body = e.body := by
  rw [finish]
  split <;> rfl

/-- Filed definitions refer to prototypes of the session after a batch if they did before it. -/
theorem targets_table_parse {s : Session} (hs : s.Coherent)
    (htable : ∀ d ∈ s.table, ∀ h ∈ Staged.fieldTargets d.body.fields, h ∈ s.prototypes)
    (documents : List Document) (preferred : String) :
    ∀ d ∈ (s.parse documents preferred).2.table, ∀ h ∈ Staged.fieldTargets d.body.fields,
      h ∈ (s.parse documents preferred).2.prototypes := by
  intro d hd h hh
  rw [prototypes_parse]
  rw [table_parse] at hd
  rcases mem_fileAll hs.catalogued.ids hd with hnew | hold
  · obtain ⟨e, he, rfl⟩ := List.mem_map.mp hnew
    rw [body_finish] at hh
    exact targets_of_mem_bound he h hh
  · exact List.mem_append_left _ (htable d hold h hh)

theorem Anchored.parse {s : Session} (hs : s.Anchored) (documents : List Document) (preferred : String) :
    (s.parse documents preferred).2.Anchored where
  coherent := hs.coherent.parse documents preferred
  registry := by
    refine hs.registry.mono ?_
    rw [store_parse, size_appliedStore]
    exact Nat.le_add_right ..
  fits := fits_table_parse rfl hs.coherent hs.fits documents preferred
  targets := targets_table_parse hs.coherent hs.targets documents preferred

theorem anchored_answerAll {registry : Registry} {store : Store} (options : Options)
    (h : registry.RefersInto store) (requests : List Request) :
    ((start registry options store).answerAll requests).Anchored :=
  answerAll_induction (anchored_start options h)
    (fun _ documents preferred hs => hs.parse documents preferred) requests

/-! ## New prototypes replaced -/

theorem finish_rename (ρ : Handle → Handle) (e : Definition) :
    finish (e.rename ρ) = (finish e).rename ρ := by
  have hsome : (e.rename ρ).handle.isSome = e.handle.isSome := Option.isSome_map ..
  rw [finish, finish, hsome]
  split <;> rfl

/-- A replacement of prototypes by prototypes of the same id and type.  Those that were in the store before
    stand for themselves. -/
structure Replaces (s : Session) (ρ : Handle → Handle) : Prop where
  id : ∀ h, (ρ h).id = h.id
  type : ∀ h, (ρ h).type = h.type
  earlier : ∀ h, h.address < s.store.cells.size → ρ h = h

section Replacing

variable {s t : Session} {ρ : Handle → Handle} {xs ys : List Definition}

theorem Replaces.toRenaming (h : s.Replaces ρ) (hs : s.Anchored) : Renaming s.registry ρ where
  id := h.id
  type := h.type
  defaults := by
    intro type htype
    refine Value.renameFields_eq_self _ fun k hk => ?_
    obtain ⟨f, hf, v, hv, hk⟩ := Descriptor.exists_of_mem_handles_defaults hk
    exact h.earlier k (hs.registry.defaults type htype f hf v hv k hk)
  converters := by
    intro c hc text v hv
    exact Value.rename_eq_self v fun k hk => h.earlier k (hs.registry.converters c hc text v hv k hk)

/-- Filed definitions stay as they are. -/
theorem Replaces.rename_of_mem_table (h : s.Replaces ρ) (hs : s.Anchored) {d : Definition}
    (hd : d ∈ s.table) : d.rename ρ = d := by
  have hfields : Staged.renameFields ρ d.body.fields = d.body.fields :=
    Staged.renameFields_eq_self _ fun k hk => h.earlier k (hs.coherent.inUse k (hs.targets d hd k hk))
  have hhandle : d.handle.map ρ = d.handle := by
    cases hk : d.handle with
    | none => rfl
    | some k =>
        have hlatest := (hs.coherent.catalogued.filed d hd).latest k hk
        exact congrArg some (h.earlier k (hs.coherent.inUse k (Handle.mem_of_lastWithId? hlatest)))
  rw [Definition.rename_eq hfields, hhandle]

theorem Replaces.find?_table (h : s.Replaces ρ) (hs : s.Anchored) (id : String) :
    (s.table.find? (·.id == id)).map (·.rename ρ) = s.table.find? (·.id == id) := by
  cases hfind : s.table.find? (·.id == id) with
  | none => rfl
  | some d => exact congrArg some (h.rename_of_mem_table hs (List.mem_of_find?_eq_some hfind))

/-- Earlier prototypes with an id are not replaced. -/
theorem Replaces.lastWithId?_prototypes (h : s.Replaces ρ) (hs : s.Anchored) (id : String) :
    (Handle.lastWithId? s.prototypes id).map ρ = Handle.lastWithId? s.prototypes id := by
  cases hlast : Handle.lastWithId? s.prototypes id with
  | none => rfl
  | some k =>
      exact congrArg some (h.earlier k (hs.coherent.inUse k (Handle.mem_of_lastWithId? hlast)))

/-- A batch that is settled in one session as another is in another, up to a replacement: each definition
    has a replaced one there, and ids stand for replaced definitions. -/
structure Carries (ρ : Handle → Handle) (s t : Session) (xs ys : List Definition) : Prop where
  rename : Renaming s.registry ρ
  freshLeft : ∀ d ∈ xs, d.Fresh
  freshRight : ∀ d ∈ ys, d.Fresh
  fits : ∀ d ∈ xs, d.Fits s.registry
  fitsTable : ∀ d ∈ s.table, d.Fits s.registry
  bound : ∀ e ∈ s.bound xs, e.rename ρ ∈ t.bound ys
  find?_eq : ∀ id, (t.catalogue ys).find? id = ((s.catalogue xs).find? id).map (·.rename ρ)

namespace Carries

/-- **THE SAME OUTCOMES**: a definition comes to the same outcome, up to the prototypes in it. -/
theorem outcome_eq (h : Carries ρ s t xs ys) {e : Definition} (he : e ∈ s.bound xs) (k : Handle) :
    outcome (t.catalogue ys) e.type.defaults (ρ k) (e.rename ρ)
      = (outcome (s.catalogue xs) e.type.defaults k e).mapValue (Value.renameFields ρ) := by
  have hline := fits_of_mem_line h.freshLeft h.fits h.fitsTable he
  have htype : e.type ∈ s.registry.types := (fits_of_mem_bound h.freshLeft h.fits he).registered
  -- both runs start from the defaults of the type, which are not replaced
  have hrun := outcome_rename h.rename h.find?_eq hline e.type.defaults k
  rw [h.rename.defaults _ htype] at hrun
  exact hrun

/-- **THE SAME FIELDS**: a replaced prototype ends with the same fields, up to the prototypes in them. -/
theorem fields_eq (h : Carries ρ s t xs ys) {k : Handle} (hk : k ∈ s.created xs) :
    (t.appliedStore ys).fields (ρ k) = Value.renameFields ρ ((s.appliedStore xs).fields k) := by
  rw [created_eq h.freshLeft] at hk
  obtain ⟨e, he, hhandle⟩ := List.mem_filterMap.mp hk
  have hother : (e.rename ρ).handle = some (ρ k) := congrArg (Option.map _) hhandle
  rw [fields_appliedStore h.freshRight (h.bound e he) hother, fields_appliedStore h.freshLeft he hhandle]
  exact congrArg Noted.value (h.outcome_eq he k)

theorem reports_eq (h : Carries ρ s t xs ys) {e : Definition} (he : e ∈ s.bound xs) :
    reports (t.catalogue ys) (t.allocatedStore ys) (e.rename ρ)
      = reports (s.catalogue xs) (s.allocatedStore xs) e := by
  cases hhandle : e.handle with
  | none =>
      have hother : (e.rename ρ).handle = none := congrArg (Option.map _) hhandle
      rw [reports, reports, hhandle, hother]
  | some k =>
      have hother : (e.rename ρ).handle = some (ρ k) := congrArg (Option.map _) hhandle
      rw [reports_some hhandle, reports_some hother,
        fields_allocatedStore h.freshRight (h.bound e he) hother,
        fields_allocatedStore h.freshLeft he hhandle]
      exact congrArg (·.journal.diagnostics) (h.outcome_eq he k)

end Carries

end Replacing

/-! ## One batch in two orders -/

/-- Two orders of a batch of staged definitions, in which no id stands twice, for one session. -/
structure Exchange (s : Session) (xs ys : List Definition) : Prop where
  anchored : s.Anchored
  rearranged : Rearranged xs ys
  fresh : ∀ d ∈ xs, d.Fresh
  fits : ∀ d ∈ xs, d.Fits s.registry
  unbound : ∀ d ∈ xs, Staged.fieldTargets d.body.fields = []

/-- Takes each prototype that one order creates to the one of its id that the other creates. -/
def matching (s : Session) (xs ys : List Definition) : Handle → Handle :=
  Handle.matching (s.created xs) (s.created ys)

section Exchanging

variable {s : Session} {xs ys batch : List Definition}

theorem Exchange.freshRight (h : Exchange s xs ys) : ∀ d ∈ ys, d.Fresh := fun d hd =>
  h.fresh d (h.rearranged.perm.mem_iff.mpr hd)

/-! ### The replacement -/

theorem alike_created (h : Exchange s xs ys) : Handle.Alike (s.created xs) (s.created ys) :=
  Allocation.alike_created s.store (rearranged_excludeCircles h.rearranged)

/-- Prototypes that were there before are not replaced. -/
theorem matching_of_lt {k : Handle} (hold : k.address < s.store.cells.size) :
    s.matching xs ys k = k := by
  refine Handle.matching_of_not_mem fun hk => ?_
  -- new prototypes have the addresses behind those in use
  exact absurd (Allocation.address_created_bounds hk).1 (Nat.not_le.mpr hold)

theorem replaces_matching (h : Exchange s xs ys) : s.Replaces (s.matching xs ys) where
  id := (alike_created h).id_matching
  type := (alike_created h).type_matching
  earlier := fun _ => matching_of_lt

/-! ### Allocation -/

theorem allocatedBatch_eq (hids : (batch.map (·.id)).Nodup) (hfresh : ∀ d ∈ batch, d.Fresh) :
    s.allocatedBatch batch = (ordered batch).map (Allocation.placed (s.created batch)) := by
  refine Allocation.batch_each s.store ?_ (handle_of_mem_ordered hfresh)
  rw [ordered, map_id_excludeCircles]
  exact hids

/-- A definition gets matching prototypes in both orders. -/
theorem placed_matching (h : Exchange s xs ys) {d : Definition} (hd : d ∈ ordered xs) :
    Allocation.placed (s.created ys) d
      = (Allocation.placed (s.created xs) d).rename (s.matching xs ys) := by
  -- what is staged refers to no prototype, so only the handle is replaced
  have hfields : Staged.renameFields (s.matching xs ys) d.body.fields = d.body.fields := by
    refine Staged.renameFields_eq_self _ fun k hk => ?_
    obtain ⟨e, he, hde⟩ := mem_excludeCircles hd
    have hbody : d.body = e.body := by rcases hde with rfl | rfl <;> rfl
    rw [hbody, h.unbound e he] at hk
    cases hk
  rw [Allocation.placed, Allocation.placed]
  split
  · rw [Definition.rename_allocated hfields, (alike_created h).lastWithId?_eq]
    rfl
  · rw [Definition.rename_eq hfields, handle_of_mem_ordered h.fresh d hd, Option.map_none,
      ← handle_of_mem_ordered h.fresh d hd]

theorem allocatedBatch_perm (h : Exchange s xs ys) :
    ((s.allocatedBatch xs).map (·.rename (s.matching xs ys))).Perm (s.allocatedBatch ys) := by
  rw [allocatedBatch_eq h.rearranged.ids h.fresh, allocatedBatch_eq h.rearranged.idsRight h.freshRight,
    List.map_map]
  refine List.Perm.trans (List.Perm.of_eq (List.map_congr_left fun d hd => ?_))
    ((rearranged_excludeCircles h.rearranged).perm.map _)
  exact (placed_matching h hd).symm

/-! ### Binding -/

/-- An id stands for matching prototypes after the batch. -/
theorem lastWithId?_matching (h : Exchange s xs ys) (id : String) :
    Handle.lastWithId? (s.prototypes ++ s.created ys) id
      = (Handle.lastWithId? (s.prototypes ++ s.created xs) id).map (s.matching xs ys) := by
  rw [Handle.lastWithId?_append, Handle.lastWithId?_append, (alike_created h).lastWithId?_eq, Option.map_or,
    (replaces_matching h).lastWithId?_prototypes h.anchored]
  rfl

/-- References are bound to matching prototypes. -/
theorem target?_eq (h : Exchange s xs ys) (id : String) :
    (s.binding ys).target? id = ((s.binding xs).target? id).map (s.matching xs ys) := by
  rw [Binding.target?, Binding.target?]
  split
  · rfl
  · exact lastWithId?_matching h id

theorem definition_matching (h : Exchange s xs ys) (d : Definition) :
    (s.binding ys).definition (d.rename (s.matching xs ys))
      = ((s.binding xs).definition d).mapValue (·.rename (s.matching xs ys)) :=
  @Binding.definition_rename (s.binding xs) (s.binding ys) _ rfl (target?_eq h) d

/-- **THE SAME DEFINITIONS**: the definitions that are applied are the same, up to their prototypes. -/
theorem bound_perm (h : Exchange s xs ys) :
    ((s.bound xs).map (·.rename (s.matching xs ys))).Perm (s.bound ys) := by
  rw [bound, bound, List.map_map]
  refine List.Perm.trans (List.Perm.of_eq ?_) ((allocatedBatch_perm h).map _)
  rw [List.map_map]
  refine List.map_congr_left fun d _ => ?_
  exact (congrArg Noted.value (definition_matching h d)).symm

/-- References are reported alike. -/
theorem bindings_perm (h : Exchange s xs ys) :
    ((s.allocatedBatch xs).flatMap fun d => ((s.binding xs).definition d).journal.diagnostics).Perm
      ((s.allocatedBatch ys).flatMap fun d => ((s.binding ys).definition d).journal.diagnostics) := by
  refine List.Perm.trans (List.Perm.of_eq ?_) ((allocatedBatch_perm h).flatMap_right _)
  rw [List.flatMap_map]
  refine List.flatMap_congr fun d _ => ?_
  rw [definition_matching h]
  rfl

/-! ### Lines of descent -/

theorem map_id_bound (hfresh : ∀ d ∈ batch, d.Fresh) :
    (s.bound batch).map (·.id) = batch.map (·.id) := by
  refine List.ext_getElem? fun i => ?_
  rw [List.getElem?_map, List.getElem?_map]
  cases he : (s.bound batch)[i]? with
  | none =>
      have hle : batch.length ≤ i := length_bound s batch ▸ List.getElem?_eq_none_iff.mp he
      rw [List.getElem?_eq_none hle]
  | some e =>
      obtain ⟨d, hd, hprepared⟩ := prepared_getElem? hfresh he
      rw [hd, Option.map_some, Option.map_some, hprepared.id_eq]

/-- What an id stands for in the batch. -/
theorem find?_bound (h : Exchange s xs ys) (id : String) :
    ((s.bound ys).reverse.find? fun d => !d.isExcluded && d.id == id)
      = ((s.bound xs).reverse.find? fun d => !d.isExcluded && d.id == id).map
          (·.rename (s.matching xs ys)) := by
  have hperm : ((s.bound xs).reverse.map (·.rename (s.matching xs ys))).Perm (s.bound ys).reverse :=
    ((List.reverse_perm _).map _).trans ((bound_perm h).trans (List.reverse_perm _).symm)
  have hids : ((s.bound ys).map (·.id)).Nodup := by
    rw [map_id_bound h.freshRight]
    exact h.rearranged.idsRight
  rw [← List.find?_eq_find?_of_perm hperm, List.find?_map]
  · rfl
  · -- at most one definition has the id
    rintro d ⟨hd, hdid⟩ e ⟨he, heid⟩
    rw [Bool.and_eq_true, beq_iff_eq] at hdid heid
    have hmem {f : Definition} (hf : f ∈ (s.bound xs).reverse.map (·.rename (s.matching xs ys))) :
        f ∈ s.bound ys := List.mem_reverse.mp (hperm.mem_iff.mp hf)
    exact List.inj_on_of_nodup_map hids (hmem hd) (hmem he) (hdid.2.trans heid.2.symm)

/-- What an id stands for while the batch is applied. -/
theorem find?_catalogue (h : Exchange s xs ys) (id : String) :
    (s.catalogue ys).find? id = ((s.catalogue xs).find? id).map (·.rename (s.matching xs ys)) := by
  rw [Catalogue.find?_eq, Catalogue.find?_eq, catalogue, catalogue, find?_bound h, Option.map_or,
    (replaces_matching h).find?_table h.anchored]

/-! ### What becomes of the batch -/

theorem carries_matching (h : Exchange s xs ys) : Carries (s.matching xs ys) s s xs ys where
  rename := (replaces_matching h).toRenaming h.anchored
  freshLeft := h.fresh
  freshRight := h.freshRight
  fits := h.fits
  fitsTable := h.anchored.fits
  bound := fun _ he => (bound_perm h).mem_iff.mp (List.mem_map_of_mem he)
  find?_eq := find?_catalogue h

/-- **THE SAME TABLE**: an id stands for the same definition, up to its prototype and what it refers to. -/
theorem find?_filed (h : Exchange s xs ys) (id : String) :
    (fileAll s.table ((s.bound ys).map finish)).value.find? (·.id == id)
      = ((fileAll s.table ((s.bound xs).map finish)).value.find? (·.id == id)).map
          (·.rename (s.matching xs ys)) := by
  rw [find?_fileAll, find?_fileAll, find?_map_finish h.freshRight, find?_map_finish h.fresh,
    find?_bound h, Option.map_or, (replaces_matching h).find?_table h.anchored, Option.map_map,
    Option.map_map]
  refine congrArg (Option.or · _) (congrArg (Option.map · _) (funext fun e => ?_))
  exact finish_rename (s.matching xs ys) e

/-! ### The diagnostics -/

theorem bound_reports_perm (h : Exchange s xs ys) :
    ((s.bound xs).flatMap (reports (s.catalogue xs) (s.allocatedStore xs))).Perm
      ((s.bound ys).flatMap (reports (s.catalogue ys) (s.allocatedStore ys))) := by
  refine List.Perm.trans (List.Perm.of_eq ?_) ((bound_perm h).flatMap_right _)
  rw [List.flatMap_map]
  exact List.flatMap_congr fun e he => ((carries_matching h).reports_eq he).symm

theorem map_id_finish (hfresh : ∀ d ∈ batch, d.Fresh) :
    ((s.bound batch).map finish).map (·.id) = batch.map (·.id) := by
  rw [List.map_map, ← map_id_bound (s := s) hfresh]
  exact List.map_congr_left fun e _ => id_finish e

/-- Ids that were defined before are reported alike. -/
theorem filings_perm (h : Exchange s xs ys) :
    (fileAll s.table ((s.bound xs).map finish)).journal.diagnostics.Perm
      (fileAll s.table ((s.bound ys).map finish)).journal.diagnostics := by
  have hperm : (((s.bound xs).map finish).map (·.rename (s.matching xs ys))).Perm
      ((s.bound ys).map finish) := by
    refine List.Perm.trans (List.Perm.of_eq ?_) ((bound_perm h).map finish)
    rw [List.map_map, List.map_map]
    exact List.map_congr_left fun e _ => (finish_rename (s.matching xs ys) e).symm
  rw [diagnostics_fileAll (by rw [map_id_finish h.fresh]; exact h.rearranged.ids),
    diagnostics_fileAll (by rw [map_id_finish h.freshRight]; exact h.rearranged.idsRight)]
  refine List.Perm.trans (List.Perm.of_eq ?_) ((hperm.filter _).flatMap_right _)
  conv_rhs => rw [List.filter_map, List.flatMap_map]
  rfl

/-- **THE SAME REPORTS**: each pass reports the same, up to its order. -/
theorem diagnostics_settle_perm (h : Exchange s xs ys) :
    (s.settle xs).journal.diagnostics.Perm (s.settle ys).journal.diagnostics := by
  rw [diagnostics_settle h.fresh, diagnostics_settle h.freshRight]
  -- ordering, binding, applying and filing report one after the other
  refine List.Perm.append (List.Perm.append (List.Perm.append ?_ ?_) ?_) (filings_perm h)
  · exact diagnostics_reportCircles_perm h.rearranged
  · exact bindings_perm h
  · exact (reports_perm h.fresh).trans ((bound_reports_perm h).trans (reports_perm h.freshRight).symm)

end Exchanging

/-! ## Documents in two orders -/

theorem staged_perm (s : Session) {documents permuted : List Document} (hperm : documents.Perm permuted)
    (preferred : String) : (s.staged documents preferred).Perm (s.staged permuted preferred) := by
  rw [staged, staged, value_stageAll, value_stageAll]
  exact hperm.flatMap_right _

theorem exchange_staged {s : Session} (hs : s.Anchored) {documents permuted : List Document}
    (hperm : documents.Perm permuted) {preferred : String}
    (hids : ((s.staged documents preferred).map (·.id)).Nodup) :
    Exchange s (s.staged documents preferred) (s.staged permuted preferred) where
  anchored := hs
  rearranged := ⟨staged_perm s hperm preferred, hids⟩
  fresh := fresh_staged s documents preferred
  fits := fun _ hd => (fits_of_mem_staged hd).2
  unbound := fun _ hd => targets_of_mem_staged hd

/-- What a session comes to by two orders of a batch, where `ρ` takes each prototype that the one order
    creates to the one that the other creates in its place. -/
structure Matches (s : Session) (ρ : Handle → Handle) (one two : List Handle × Session) : Prop where
  id : ∀ h, (ρ h).id = h.id
  type : ∀ h, (ρ h).type = h.type
  /-- Prototypes that were in the store before stand for themselves, and keep their fields. -/
  earlier : ∀ h, h.address < s.store.cells.size → ρ h = h
  untouched : ∀ h, h.address < s.store.cells.size → two.2.store.fields h = one.2.store.fields h
  created : (one.1.map ρ).Perm two.1
  /-- The fields are the same, but for references to new prototypes. -/
  fields : ∀ h ∈ one.1, two.2.store.fields (ρ h) = Value.renameFields ρ (one.2.store.fields h)
  latest : ∀ id, two.2.get? id = (one.2.get? id).map ρ
  table : ∀ id, two.2.definition? id = (one.2.definition? id).map (·.rename ρ)
  diagnostics : one.2.diagnostics.Perm two.2.diagnostics

/-- **IN ANY ORDER**: where no two definitions of some documents have the same id and the registry refers to
    nothing that is not in the store, all orders of the documents exclude the same definitions, create the
    same prototypes up to their addresses, file the same definitions, and report the same. -/
theorem parse_perm {registry : Registry} {store : Store} (hregistry : registry.RefersInto store)
    (options : Options) (requests : List Request) {documents permuted : List Document}
    (hperm : documents.Perm permuted) (preferred : String) :
    let s := (start registry options store).answerAll requests
    ((s.staged documents preferred).map (·.id)).Nodup →
      (order (s.staged documents preferred)).value.2.Perm (order (s.staged permuted preferred)).value.2 ∧
        ∃ ρ, Matches s ρ (s.parse documents preferred) (s.parse permuted preferred) := by
  intro s hids
  have h : Exchange s (s.staged documents preferred) (s.staged permuted preferred) :=
    exchange_staged (anchored_answerAll options hregistry requests) hperm hids
  refine ⟨(rearranged_excludeCircles h.rearranged).perm,
    s.matching (s.staged documents preferred) (s.staged permuted preferred), ?_⟩
  have hρ := replaces_matching h
  refine ⟨hρ.id, hρ.type, hρ.earlier, ?_, ?_, ?_, ?_, ?_, ?_⟩
  · intro k hold
    rw [store_parse, store_parse, fields_appliedStore_of_lt h.fresh hold,
      fields_appliedStore_of_lt h.freshRight hold]
  · rw [created_parse, created_parse]
    exact (alike_created h).map_matching_perm
  · intro k hk
    rw [created_parse] at hk
    rw [store_parse, store_parse]
    exact (carries_matching h).fields_eq hk
  · intro id
    rw [get?, get?, prototypes_parse, prototypes_parse]
    exact lastWithId?_matching h id
  · intro id
    rw [definition?, definition?, table_parse, table_parse]
    exact find?_filed h id
  · rw [diagnostics_parse, diagnostics_parse, diagnostics_stageAll, diagnostics_stageAll]
    exact .append_left _ ((hperm.flatMap_right _).append (diagnostics_settle_perm h))

/-! ### A thing and one that comes before it -/

/-- It refers to a thing of the other document. -/
def firstDocument : Document where
  name := "first"
  text := "<T Type=\"Thing\"><Item Id=\"a\"><next>b</next></Item></T>"

/-- It inherits from a thing of the other document. -/
def secondDocument : Document where
  name := "second"
  text := "<T Type=\"Thing\"><Item Id=\"b\" Inherits=\"a\"/></T>"

/-- Neither the type of things nor the built-in converters bring in prototypes. -/
theorem unreferring_plainType : Registry.Unreferring ⟨[plainType], .builtin⟩ where
  defaults := by decide +kernel
  converters := fun _ hc _ _ => ConverterSet.plain_builtin.handles_eq_nil hc

theorem first_second_swapped :
    let s := (start ⟨[plainType], .builtin⟩ {} .empty).answerAll []
    (s.parse [firstDocument, secondDocument] "").1.map (·.id) = ["a", "b"] ∧
      (s.parse [secondDocument, firstDocument] "").1.map (·.id) = ["b", "a"] ∧
      (order (s.staged [firstDocument, secondDocument] "")).value.2.Perm
        (order (s.staged [secondDocument, firstDocument] "")).value.2 ∧
      ∃ ρ, Matches s ρ (s.parse [firstDocument, secondDocument] "")
        (s.parse [secondDocument, firstDocument] "") := by
  exact ⟨by decide +kernel, by decide +kernel,
    parse_perm (unreferring_plainType.refersInto .empty) {} [] (.swap secondDocument firstDocument []) "" (by decide +kernel)⟩

end Session

end Archetype
