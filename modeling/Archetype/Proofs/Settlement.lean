import Archetype.Session
import Archetype.Proofs.Allocation
import Archetype.Proofs.Application
import Archetype.Proofs.Binding
import Archetype.Proofs.Ordering
import Archetype.Proofs.Staging

/-! # A batch, settled

    `settle` runs the passes one after the other, over positions of the batch.  Here its result is told
    again without positions, for a batch of freshly staged definitions:

    * `bound` is the batch as it is applied, and `Prepared` says how each of its definitions got there: it
      was excluded, or bound, and in the latter case it has a prototype exactly if it is not abstract;
    * `value_settle` — the prototypes created are the handles of that batch, the store is the one after a run
      over its definitions, and what is filed are its definitions, those with a prototype marked applied;
    * `fields_appliedStore` — each prototype ends with the outcome of its definition;
    * `diagnostics_settle` — the diagnostics of the four passes. -/

namespace Archetype

namespace Session

open Archetype.Ordering Application

variable {s : Session} {batch : List Definition}

/-! ## The stages of a batch -/

/-- The batch, with the members of circles excluded. -/
def ordered (batch : List Definition) : List Definition :=
  excludeCircles batch (parents batch)

/-- The prototypes a batch creates. -/
def created (s : Session) (batch : List Definition) : List Handle :=
  (Allocation.each s.store (ordered batch)).1

/-- The store in which the prototypes of a batch hold their defaults. -/
def allocatedStore (s : Session) (batch : List Definition) : Store :=
  (Allocation.each s.store (ordered batch)).2.2

/-- The batch, with its prototypes at its definitions. -/
def allocatedBatch (s : Session) (batch : List Definition) : List Definition :=
  (Allocation.each s.store (ordered batch)).2.1

/-- What the references of a batch are bound to. -/
def binding (s : Session) (batch : List Definition) : Binding :=
  ⟨s.prototypes ++ s.created batch, s.options.reportUnresolved⟩

/-- The batch as it is applied. -/
def bound (s : Session) (batch : List Definition) : List Definition :=
  (s.allocatedBatch batch).map fun d => ((s.binding batch).definition d).value

/-- The definitions that can be inherited from while a batch is applied. -/
def catalogue (s : Session) (batch : List Definition) : Catalogue :=
  ⟨s.bound batch, s.table⟩

/-- The store after a batch is applied. -/
def appliedStore (s : Session) (batch : List Definition) : Store :=
  run (s.catalogue batch) (s.allocatedStore batch) (targets (s.catalogue batch) (kept batch))

/-- A definition, marked as applied if it has a prototype. -/
def finish (d : Definition) : Definition :=
  if d.handle.isSome then { d with state := .applied } else d

/-! ## What has become of each definition -/

/-- How a fresh definition gets ready to be applied. -/
inductive Prepared (b : Binding) (cyclic : Bool) : Definition → Definition → Prop
  | excluded (d : Definition) (hcyclic : cyclic = true) : Prepared b cyclic d { d with state := .excluded }
  | abstract (d : Definition) (hcyclic : cyclic = false) (habstract : d.isAbstract = true) :
      Prepared b cyclic d (b.resolved d)
  | concrete (d : Definition) (handle : Handle) (hcyclic : cyclic = false)
      (habstract : d.isAbstract = false) (hid : handle.id = d.id) (htype : handle.type = d.type.shape) :
      Prepared b cyclic d { b.resolved d with handle := some handle }

private theorem prepared_of_allocated {b : Binding} {cyclic : Bool} {d e : Definition} (hd : d.Fresh)
    (h : Allocation.Allocated (excludedIf cyclic d) e) : Prepared b cyclic d (b.definition e).value := by
  cases cyclic with
  | true =>
      rw [show excludedIf true d = { d with state := .excluded } from rfl] at h
      have hexcluded : ({ d with state := .excluded } : Definition).isExcluded = true := rfl
      cases h with
      | concrete handle hconcrete =>
          rw [Allocation.isConcrete, hexcluded, Bool.not_true, Bool.and_false] at hconcrete
          exact nomatch hconcrete
      | other =>
          rw [Binding.definition_excluded b hexcluded]
          exact .excluded d rfl
  | false =>
      rw [show excludedIf false d = d from rfl] at h
      cases h with
      | concrete handle hconcrete hid htype =>
          rw [Allocation.isConcrete, hd.isExcluded, Bool.not_false, Bool.and_true,
            Bool.not_eq_true'] at hconcrete
          exact .concrete d handle rfl hconcrete hid htype
      | other hother =>
          rw [Allocation.isConcrete, hd.isExcluded, Bool.not_false, Bool.and_true, Bool.not_eq_false']
            at hother
          rw [Binding.value_definition b hd.isExcluded]
          exact .abstract d rfl hother

/-- **PREPARED**: what stands in the batch as it is applied, and what stood there before. -/
theorem prepared_getElem? (hfresh : ∀ d ∈ batch, d.Fresh) {i : Nat} {e : Definition}
    (h : (s.bound batch)[i]? = some e) :
    ∃ d, batch[i]? = some d ∧ Prepared (s.binding batch) (isCyclic (parents batch) i) d e := by
  rw [bound, List.getElem?_map] at h
  obtain ⟨a, ha, rfl⟩ := Option.map_eq_some_iff.mp h
  obtain ⟨o, ho, hallocated⟩ := Allocation.allocated_getElem? ha
  rw [ordered, getElem?_excludeCircles] at ho
  obtain ⟨d, hd, rfl⟩ := Option.map_eq_some_iff.mp ho
  exact ⟨d, hd, prepared_of_allocated (hfresh d (List.mem_of_getElem? hd)) hallocated⟩

theorem prepared_of_mem (hfresh : ∀ d ∈ batch, d.Fresh) {e : Definition} (h : e ∈ s.bound batch) :
    ∃ d ∈ batch, ∃ cyclic, Prepared (s.binding batch) cyclic d e := by
  obtain ⟨i, hi⟩ := List.mem_iff_getElem?.mp h
  obtain ⟨d, hd, hprepared⟩ := prepared_getElem? hfresh hi
  exact ⟨d, List.mem_of_getElem? hd, _, hprepared⟩

namespace Prepared

variable {b : Binding} {cyclic : Bool} {d e : Definition}

theorem id_eq (h : Prepared b cyclic d e) : e.id = d.id := by
  cases h <;> rfl

theorem type_eq (h : Prepared b cyclic d e) : e.type = d.type := by
  cases h <;> rfl

theorem location_eq (h : Prepared b cyclic d e) : e.location = d.location := by
  cases h <;> rfl

theorem inherits_eq (h : Prepared b cyclic d e) : e.inherits = d.inherits := by
  cases h <;> rfl

theorem isExcluded_eq (h : Prepared b cyclic d e) : e.isExcluded = cyclic := by
  cases h with
  | excluded hcyclic => rw [hcyclic]; rfl
  | abstract hcyclic => rw [hcyclic]; rfl
  | concrete handle hcyclic => rw [hcyclic]; rfl

/-- A definition has a prototype exactly if it is neither excluded nor abstract. -/
theorem isSome_handle (h : Prepared b cyclic d e) (hd : d.Fresh) :
    e.handle.isSome = (!e.isExcluded && !e.isAbstract) := by
  rw [h.isExcluded_eq]
  cases h with
  | excluded hcyclic =>
      rw [hcyclic]
      show d.handle.isSome = _
      rw [hd.handle]
      rfl
  | abstract hcyclic habstract =>
      rw [hcyclic]
      show d.handle.isSome = (!false && !d.isAbstract)
      rw [hd.handle, habstract]
      rfl
  | concrete handle hcyclic habstract =>
      rw [hcyclic]
      show true = (!false && !d.isAbstract)
      rw [habstract]
      rfl

/-- A prototype has the id and the type of its definition. -/
theorem handle_eq (h : Prepared b cyclic d e) (hd : d.Fresh) {k : Handle} (hk : e.handle = some k) :
    k.id = e.id ∧ k.type = e.type.shape := by
  cases h with
  | excluded => exact absurd (hd.handle.symm.trans hk) (Option.some_ne_none k).symm
  | abstract => exact absurd (hd.handle.symm.trans hk) (Option.some_ne_none k).symm
  | concrete handle _ _ hid htype =>
      rw [← Option.some.inj hk]
      exact ⟨hid, htype⟩

/-- A definition that is not excluded has been bound. -/
theorem state_eq (h : Prepared b cyclic d e) (he : e.isExcluded = false) :
    e.state = .referencesResolved ∧ e.pendingIds = [] := by
  rw [h.isExcluded_eq] at he
  cases h with
  | excluded hcyclic => exact absurd (hcyclic.symm.trans he) (fun h => nomatch h)
  | abstract => exact ⟨rfl, Binding.pendingIdsOfFields_fields b d.body.fields⟩
  | concrete => exact ⟨rfl, Binding.pendingIdsOfFields_fields b d.body.fields⟩

end Prepared

/-! ## The prototypes -/

private theorem handle_value_definition (b : Binding) (d : Definition) :
    (b.definition d).value.handle = d.handle := by
  cases h : d.isExcluded with
  | true => rw [Binding.definition_excluded b h]; rfl
  | false => rw [Binding.value_definition b h]; rfl

theorem handle_of_mem_ordered (hfresh : ∀ d ∈ batch, d.Fresh) :
    ∀ d ∈ ordered batch, d.handle = none := by
  intro d hd
  obtain ⟨e, he, rfl | rfl⟩ := mem_excludeCircles hd
  · exact (hfresh d he).handle
  · exact (hfresh e he).handle

/-- The prototypes created are the handles of the batch. -/
theorem created_eq (hfresh : ∀ d ∈ batch, d.Fresh) :
    s.created batch = (s.bound batch).filterMap (·.handle) := by
  rw [created, Allocation.created_eq_filterMap (handle_of_mem_ordered hfresh), bound,
    List.filterMap_map]
  exact List.filterMap_congr fun d _ => (handle_value_definition _ d).symm

theorem length_bound (s : Session) (batch : List Definition) :
    (s.bound batch).length = batch.length := by
  rw [bound, List.length_map, allocatedBatch, Allocation.length_each, ordered,
    length_excludeCircles]

/-- The definitions of a batch are placed in the store they are applied to. -/
theorem placed_bound (hfresh : ∀ d ∈ batch, d.Fresh) :
    Placed (s.allocatedStore batch) (s.bound batch) where
  distinct := by
    rw [← created_eq hfresh]
    exact Allocation.nodup_address_created ..
  inUse := by
    rw [← created_eq hfresh]
    exact fun h hh => (Allocation.address_created_bounds hh).2

/-- Before a batch is applied its prototypes hold the defaults of their types. -/
theorem fields_allocatedStore (hfresh : ∀ d ∈ batch, d.Fresh) {e : Definition} {h : Handle}
    (he : e ∈ s.bound batch) (hh : e.handle = some h) :
    (s.allocatedStore batch).fields h = e.type.defaults := by
  obtain ⟨a, ha, rfl⟩ := List.mem_map.mp he
  rw [handle_value_definition] at hh
  have htype : ((s.binding batch).definition a).value.type = a.type := by
    cases hex : a.isExcluded with
    | true => rw [Binding.definition_excluded _ hex]; rfl
    | false => rw [Binding.value_definition _ hex]; rfl
  rw [htype]
  exact Allocation.fields_each_of_handle (handle_of_mem_ordered hfresh) ha hh

/-! ## From positions to definitions -/

private theorem filterMap_range_getElem? {α : Type} (xs : List α) (p : α → Bool) :
    ((List.range xs.length).filterMap fun i => (xs[i]?).filter p) = xs.filter p := by
  induction xs with
  | nil => rfl
  | cons x rest ih =>
      rw [List.length_cons, List.range_succ_eq_map, List.filterMap_cons, List.filterMap_map]
      show (match (some x).filter p with
        | none => List.filterMap (fun i => (rest[i]?).filter p) (List.range rest.length)
        | some b => b :: List.filterMap (fun i => (rest[i]?).filter p) (List.range rest.length)) = _
      rw [ih, List.filter_cons]
      cases hx : p x with
      | true => rw [Option.filter_some, if_pos hx]; rfl
      | false => rw [Option.filter_some, if_neg (by rw [hx]; exact Bool.false_ne_true)]; rfl

/-- A position with a prototype is kept. -/
private theorem isCyclic_of_handle (hfresh : ∀ d ∈ batch, d.Fresh) {i : Nat} {e : Definition}
    (he : (s.bound batch)[i]? = some e) (hh : e.handle.isSome = true) :
    isCyclic (parents batch) i = false := by
  obtain ⟨d, hd, hprepared⟩ := prepared_getElem? hfresh he
  rw [hprepared.isSome_handle (hfresh d (List.mem_of_getElem? hd)), hprepared.isExcluded_eq,
    Bool.and_eq_true, Bool.not_eq_true'] at hh
  exact hh.1

/-- Up to their order, the definitions applied are those with a prototype. -/
theorem targets_perm (hfresh : ∀ d ∈ batch, d.Fresh) :
    (targets (s.catalogue batch) (kept batch)).Perm ((s.bound batch).filter (·.handle.isSome)) := by
  refine ((kept_perm batch).filterMap _).trans (List.Perm.of_eq ?_)
  rw [List.filterMap_filter, ← filterMap_range_getElem?, length_bound]
  refine List.filterMap_congr fun i _ => ?_
  cases hcyclic : isCyclic (parents batch) i with
  | false => rfl
  | true =>
      -- a cyclic position holds no prototype, so leaving it out changes nothing
      cases he : (s.bound batch)[i]? with
      | none => rfl
      | some e =>
          have hnone : e.handle.isSome = false := by
            by_contra hsome
            have := isCyclic_of_handle hfresh he (Bool.not_eq_false _ ▸ hsome)
            exact absurd (this.symm.trans hcyclic) Bool.false_ne_true
          show none = (some e).filter _
          rw [Option.filter_some, hnone]
          rfl

theorem mem_taken {c : Catalogue} {order : List Nat} {i : Nat} {e : Definition}
    (he : c.batch[i]? = some e) :
    i ∈ taken c order ↔ i ∈ order ∧ e.handle.isSome = true := by
  rw [taken, List.mem_filter, he, Option.filter_some]
  cases e.handle.isSome <;> simp

/-- The positions that are marked as applied are those with a prototype. -/
theorem markApplied_bound (hfresh : ∀ d ∈ batch, d.Fresh) :
    markApplied (taken (s.catalogue batch) (kept batch)) (s.bound batch)
      = (s.bound batch).map finish := by
  refine List.ext_getElem? fun i => ?_
  rw [markApplied, List.getElem?_map, List.getElem?_map, List.getElem?_zipIdx, Option.map_map,
    Nat.zero_add]
  cases he : (s.bound batch)[i]? with
  | none => rfl
  | some e =>
      have hlt : i < batch.length := by
        rw [← length_bound s batch]
        exact (List.getElem?_eq_some_iff.mp he).1
      have hiff : i ∈ taken (s.catalogue batch) (kept batch) ↔ e.handle.isSome = true := by
        rw [mem_taken (c := s.catalogue batch) he, mem_kept]
        exact ⟨fun h => h.2, fun h => ⟨⟨hlt, isCyclic_of_handle hfresh he h⟩, h⟩⟩
      show some (if (taken _ _).contains i then { e with state := .applied } else e) = some (finish e)
      rw [finish]
      by_cases hsome : e.handle.isSome = true
      · rw [if_pos hsome, if_pos (List.contains_iff_mem.mpr (hiff.mpr hsome))]
      · rw [if_neg hsome, if_neg (fun h => hsome (hiff.mp (List.contains_iff_mem.mp h)))]

/-! ## The result -/

/-- The passes of a batch, one after the other. -/
private theorem settle_eq (s : Session) (batch : List Definition) :
    s.settle batch = (do
      let _ ← order batch
      let _ ← allocate s.store (ordered batch)
      let bound ← Binding.batch (s.binding batch) (s.allocatedBatch batch)
      let (applied, store) ← Application.batch ⟨bound, s.table⟩ (s.allocatedStore batch) (kept batch)
      let table ← fileAll s.table (markApplied applied bound)
      Noted.record .debug
        s!"batch produced {(s.created batch).length} prototypes ({(s.prototypes ++ s.created batch).length} total)"
      return ⟨s.created batch, table, store⟩) := rfl

/-- **SETTLED**: what becomes of a batch of fresh definitions. -/
theorem value_settle (hfresh : ∀ d ∈ batch, d.Fresh) :
    (s.settle batch).value
      = ⟨s.created batch, (fileAll s.table ((s.bound batch).map finish)).value,
          s.appliedStore batch⟩ := by
  have hbound : (Binding.batch (s.binding batch) (s.allocatedBatch batch)).value = s.bound batch :=
    Binding.value_batch ..
  have happlied : (Application.batch ⟨s.bound batch, s.table⟩ (s.allocatedStore batch)
      (kept batch)).value = (taken (s.catalogue batch) (kept batch), s.appliedStore batch) :=
    Application.value_batch ..
  rw [settle_eq]
  simp only [Noted.value_bind, Noted.value_pure]
  rw [hbound, happlied, markApplied_bound hfresh]

/-- The definitions that are applied are placed in the store they are applied to. -/
theorem placed_targets (hfresh : ∀ d ∈ batch, d.Fresh) :
    Placed (s.allocatedStore batch) (targets (s.catalogue batch) (kept batch)) := by
  refine Placed.perm ?_ (targets_perm hfresh).symm
  have hplaced := placed_bound (s := s) hfresh
  have hsame : ((s.bound batch).filter (·.handle.isSome)).filterMap (·.handle)
      = (s.bound batch).filterMap (·.handle) := by
    rw [List.filterMap_filter]
    refine List.filterMap_congr fun d _ => ?_
    cases d.handle <;> rfl
  exact ⟨hsame ▸ hplaced.distinct, hsame ▸ hplaced.inUse⟩

/-- **OUTCOMES**: each prototype of a batch ends with the outcome of its definition. -/
theorem fields_appliedStore (hfresh : ∀ d ∈ batch, d.Fresh) {e : Definition} {h : Handle}
    (he : e ∈ s.bound batch) (hh : e.handle = some h) :
    (s.appliedStore batch).fields h = (outcome (s.catalogue batch) e.type.defaults h e).value := by
  have hmem : e ∈ targets (s.catalogue batch) (kept batch) :=
    (targets_perm hfresh).mem_iff.mpr (List.mem_filter.mpr ⟨he, by rw [hh]; rfl⟩)
  rw [appliedStore, fields_run (placed_targets hfresh) hmem hh, fields_allocatedStore hfresh he hh]

theorem size_appliedStore (s : Session) (batch : List Definition) :
    (s.appliedStore batch).cells.size = s.store.cells.size + (s.created batch).length := by
  rw [appliedStore, size_run]
  exact Allocation.size_each ..

/-- The prototypes there were keep their fields. -/
theorem fields_appliedStore_of_lt (hfresh : ∀ d ∈ batch, d.Fresh) {h : Handle}
    (hold : h.address < s.store.cells.size) : (s.appliedStore batch).fields h = s.store.fields h := by
  have hne : ∀ k ∈ (targets (s.catalogue batch) (kept batch)).filterMap (·.handle),
      k.address ≠ h.address := by
    intro k hk
    have hcreated : k ∈ s.created batch := by
      rw [created_eq hfresh]
      obtain ⟨e, he, hek⟩ := List.mem_filterMap.mp hk
      exact List.mem_filterMap.mpr
        ⟨e, (List.mem_filter.mp ((targets_perm hfresh).mem_iff.mp he)).1, hek⟩
    have := (Allocation.address_created_bounds hcreated).1
    omega
  rw [appliedStore, fields_run_of_ne hne]
  exact Allocation.fields_each_of_lt hold

/-! ## The diagnostics -/

private theorem flatMap_filter_handle (c : Catalogue) (store : Store) (ds : List Definition) :
    (ds.filter (·.handle.isSome)).flatMap (reports c store) = ds.flatMap (reports c store) := by
  induction ds with
  | nil => rfl
  | cons d rest ih =>
      rw [List.filter_cons, List.flatMap_cons, ← ih]
      cases hd : d.handle with
      | none =>
          rw [if_neg (by rw [Option.isSome_none]; exact Bool.false_ne_true), reports, hd,
            List.nil_append]
      | some h => rw [if_pos Option.isSome_some, List.flatMap_cons]

/-- The diagnostics of a batch, pass by pass. -/
theorem diagnostics_settle (hfresh : ∀ d ∈ batch, d.Fresh) :
    (s.settle batch).journal.diagnostics
      = (reportCircles batch (parents batch) batch.zipIdx).journal.diagnostics
        ++ ((s.allocatedBatch batch).flatMap fun d =>
              ((s.binding batch).definition d).journal.diagnostics)
        ++ (targets (s.catalogue batch) (kept batch)).flatMap
              (reports (s.catalogue batch) (s.allocatedStore batch))
        ++ (fileAll s.table ((s.bound batch).map finish)).journal.diagnostics := by
  have hbound : (Binding.batch (s.binding batch) (s.allocatedBatch batch)).value = s.bound batch :=
    Binding.value_batch ..
  have happlied : (Application.batch ⟨s.bound batch, s.table⟩ (s.allocatedStore batch)
      (kept batch)).value = (taken (s.catalogue batch) (kept batch), s.appliedStore batch) :=
    Application.value_batch ..
  have horder : (order batch).journal.diagnostics
      = (reportCircles batch (parents batch) batch.zipIdx).journal.diagnostics := by
    show _ ++ ([] ++ []) = _
    rw [List.append_nil, List.append_nil]
  have hallocate : (allocate s.store (ordered batch)).journal.diagnostics = [] := rfl
  have hrecord (level : Level) (text : String) :
      (Noted.record level text).journal.diagnostics = [] := rfl
  rw [settle_eq]
  simp only [Noted.journal_bind, Noted.journal_pure, Journal.diagnostics_append]
  rw [hbound, happlied, markApplied_bound hfresh, horder, hallocate, Binding.diagnostics_batch]
  rw [show (⟨s.bound batch, s.table⟩ : Catalogue) = s.catalogue batch from rfl,
    Application.diagnostics_batch (placed_targets hfresh).distinct]
  simp only [hrecord, List.append_nil, List.nil_append, List.append_assoc]

/-- Up to their order, what is reported while a batch is applied is what each of its definitions reports. -/
theorem reports_perm (hfresh : ∀ d ∈ batch, d.Fresh) :
    ((targets (s.catalogue batch) (kept batch)).flatMap
        (reports (s.catalogue batch) (s.allocatedStore batch))).Perm
      ((s.bound batch).flatMap (reports (s.catalogue batch) (s.allocatedStore batch))) := by
  rw [← flatMap_filter_handle _ _ (s.bound batch)]
  exact (targets_perm hfresh).flatMap_right _

end Session

end Archetype
