import Archetype.Proofs.Concatenation
import Archetype.Proofs.Consistency
import Mathlib.Data.List.Find

/-! # One batch or two

    Documents may be parsed in one batch or in two, one after the other, as long as the first ones need
    nothing from the second (`Separate`): the prototypes, their fields and the definitions are the same, and
    what is reported is the same up to its order.

    The passes are compared one by one.  The only difference that lasts is where a definition of the first
    batch is found while the second is applied: in the batch, or in the table under its id.  There it stands
    marked as applied, so lines of descent differ by marks alone, and outcomes do not depend on marks. -/

namespace Archetype

namespace Handle

theorem lastWithId?_eq_none {hs : List Handle} {id : String} (h : ∀ k ∈ hs, k.id ≠ id) :
    lastWithId? hs id = none := by
  refine List.find?_eq_none.mpr fun k hk heq => ?_
  rw [beq_iff_eq] at heq
  exact h k (List.mem_reverse.mp hk) heq

end Handle

namespace Session

open Archetype.Ordering Application

/-- A session in which a batch has been settled. -/
structure Follows (s next : Session) (batch : List Definition) : Prop where
  options : next.options = s.options
  prototypes : next.prototypes = s.prototypes ++ s.created batch
  store : next.store = s.appliedStore batch
  table : next.table = (fileAll s.table ((s.bound batch).map finish)).value

/-- Two batches of fresh definitions that are settled one after the other, from a session without
    definitions, where the first needs nothing from the second. -/
structure Split (s next : Session) (xs ys : List Definition) : Prop where
  follows : s.Follows next xs
  separate : Separate xs ys
  freshLeft : ∀ d ∈ xs, d.Fresh
  freshRight : ∀ d ∈ ys, d.Fresh
  table : s.table = []

theorem Split.fresh {s next : Session} {xs ys : List Definition} (h : Split s next xs ys) :
    ∀ d ∈ xs ++ ys, d.Fresh := by
  intro d hd
  rcases List.mem_append.mp hd with hleft | hright
  · exact h.freshLeft d hleft
  · exact h.freshRight d hright

/-! ## One batch -/

section Batch

variable {s : Session} {batch : List Definition}

/-- New prototypes have ids of the batch. -/
theorem id_of_mem_created (hfresh : ∀ d ∈ batch, d.Fresh) {h : Handle} (hh : h ∈ s.created batch) :
    ∃ d ∈ batch, h.id = d.id := by
  rw [created_eq hfresh] at hh
  obtain ⟨e, he, hhandle⟩ := List.mem_filterMap.mp hh
  obtain ⟨d, hd, _, hprepared⟩ := prepared_of_mem hfresh he
  exact ⟨d, hd, (hprepared.handle_eq (hfresh d hd) hhandle).1.trans hprepared.id_eq⟩

/-- Allocation keeps what definitions state. -/
theorem body_of_mem_allocatedBatch {a : Definition} (ha : a ∈ s.allocatedBatch batch) :
    ∃ d ∈ batch, a.body = d.body := by
  obtain ⟨i, hi⟩ := List.mem_iff_getElem?.mp ha
  obtain ⟨o, ho, hallocated⟩ := Allocation.allocated_getElem? hi
  obtain ⟨d, hd, hod⟩ := mem_excludeCircles (List.mem_of_getElem? ho)
  have hbody : a.body = o.body := by cases hallocated <;> rfl
  refine ⟨d, hd, hbody.trans ?_⟩
  rcases hod with rfl | rfl <;> rfl

/-- Being marked as applied excludes nothing. -/
theorem isExcluded_finish (hfresh : ∀ d ∈ batch, d.Fresh) {e : Definition} (he : e ∈ s.bound batch) :
    (finish e).isExcluded = e.isExcluded := by
  obtain ⟨d, hd, _, hprepared⟩ := prepared_of_mem hfresh he
  rw [finish]
  split
  · rename_i hsome
    rw [hprepared.isSome_handle (hfresh d hd), Bool.and_eq_true, Bool.not_eq_true'] at hsome
    rw [hsome.1]
    rfl
  · rfl

theorem id_finish (e : Definition) : (finish e).id = e.id := by
  rw [finish]
  split <;> rfl

theorem unmarked_finish (e : Definition) : (finish e).unmarked = e.unmarked := by
  rw [finish]
  split <;> rfl

/-- What an id stands for in a batch that is filed. -/
theorem find?_map_finish (hfresh : ∀ d ∈ batch, d.Fresh) (id : String) :
    ((s.bound batch).map finish).reverse.find? (fun d => !d.isExcluded && d.id == id)
      = ((s.bound batch).reverse.find? fun d => !d.isExcluded && d.id == id).map finish := by
  rw [← List.map_reverse, List.find?_map]
  refine congrArg (Option.map finish) (List.find?_congr fun e he => ?_)
  show (!(finish e).isExcluded && (finish e).id == id) = _
  rw [isExcluded_finish hfresh (List.mem_reverse.mp he), id_finish]

end Batch

section Splitting

variable {s next : Session} {xs ys : List Definition}

/-! ## Prototypes and references -/

theorem ordered_append (h : Separate xs ys) : ordered (xs ++ ys) = ordered xs ++ ordered ys :=
  excludeCircles_append h

/-- The second batch is allocated alike behind the first, before and after that is applied. -/
theorem each_next (h : Split s next xs ys) :
    (Allocation.each (s.allocatedStore xs) (ordered ys)).1 = next.created ys ∧
      (Allocation.each (s.allocatedStore xs) (ordered ys)).2.1 = next.allocatedBatch ys := by
  refine Allocation.each_congr ?_ _
  rw [h.follows.store, size_appliedStore]
  exact Allocation.size_each ..

theorem created_append (h : Split s next xs ys) :
    s.created (xs ++ ys) = s.created xs ++ next.created ys := by
  rw [created, ordered_append h.separate, Allocation.each_append, ← (each_next h).1]
  rfl

theorem allocatedBatch_append (h : Split s next xs ys) :
    s.allocatedBatch (xs ++ ys) = s.allocatedBatch xs ++ next.allocatedBatch ys := by
  rw [allocatedBatch, ordered_append h.separate, Allocation.each_append, ← (each_next h).2]
  rfl

/-- The references of the second batch are bound to the same prototypes. -/
theorem binding_right (h : Split s next xs ys) : s.binding (xs ++ ys) = next.binding ys := by
  rw [binding, binding, created_append h, h.follows.prototypes, h.follows.options, List.append_assoc]

/-- The references of the first batch are to none of the second. -/
theorem agree_left (h : Split s next xs ys) {d : Definition} (hd : d ∈ xs) :
    Binding.Agree (s.binding (xs ++ ys)) (s.binding xs) d.pendingIds := by
  refine ⟨rfl, fun id hid => ?_⟩
  have hnone : Handle.lastWithId? (next.created ys) id = none := by
    refine Handle.lastWithId?_eq_none fun k hk heq => ?_
    obtain ⟨e, he, hke⟩ := id_of_mem_created h.freshRight hk
    exact h.separate.references d hd id hid e he (heq.symm.trans hke)
  rw [Binding.target?, Binding.target?, binding, binding, created_append h, ← List.append_assoc,
    Handle.lastWithId?_append _ (next.created ys), hnone, Option.none_or]

theorem definition_left (h : Split s next xs ys) {a : Definition} (ha : a ∈ s.allocatedBatch xs) :
    (s.binding (xs ++ ys)).definition a = (s.binding xs).definition a := by
  obtain ⟨d, hd, hbody⟩ := body_of_mem_allocatedBatch ha
  have hpending : a.pendingIds = d.pendingIds := by
    rw [Definition.pendingIds, Definition.pendingIds, hbody]
  refine Binding.definition_congr ?_
  rw [hpending]
  exact agree_left h hd

/-- The definitions that are applied are the same. -/
theorem bound_append (h : Split s next xs ys) :
    s.bound (xs ++ ys) = s.bound xs ++ next.bound ys := by
  rw [bound, allocatedBatch_append h, List.map_append, bound, bound, ← binding_right h]
  refine congrArg (· ++ _) (List.map_congr_left fun a ha => ?_)
  rw [definition_left h ha]

/-! ## Lines of descent -/

/-- The first batch finds its parents in itself. -/
theorem similar_left (h : Split s next xs ys) :
    Catalogue.Similar (s.catalogue (xs ++ ys)) (s.catalogue xs) fun d e => d = e ∧ d ∈ s.bound xs where
  unmarked := by
    rintro d e ⟨rfl, -⟩
    rfl
  find := by
    rintro d e id ⟨rfl, hd⟩ hinherits
    -- no definition of the second batch has the id
    obtain ⟨original, horiginal, _, hprepared⟩ := prepared_of_mem h.freshLeft hd
    have hnone : ((next.bound ys).reverse.find? fun d => !d.isExcluded && d.id == id) = none := by
      refine List.find?_eq_none.mpr fun e he heq => ?_
      rw [Bool.and_eq_true, beq_iff_eq] at heq
      obtain ⟨f, hf, _, hother⟩ := prepared_of_mem h.freshRight (List.mem_reverse.mp he)
      refine h.separate.inherits original horiginal f hf ?_
      rw [← hprepared.inherits_eq, hinherits, ← heq.2, hother.id_eq]
    have hsame : (s.catalogue (xs ++ ys)).find? id = (s.catalogue xs).find? id := by
      rw [Catalogue.find?_eq, Catalogue.find?_eq, catalogue, catalogue, bound_append h,
        List.reverse_append, List.find?_append, hnone, Option.none_or]
    rw [hsame]
    cases hfind : (s.catalogue xs).find? id with
    | none => exact Or.inl ⟨rfl, rfl⟩
    | some a =>
        refine Or.inr ⟨a, a, rfl, rfl, rfl, ?_⟩
        rcases (Catalogue.of_find? hfind).2 with ⟨hmem, -⟩ | hmem
        · exact hmem
        · have : a ∈ s.table := hmem
          rw [h.table] at this
          exact nomatch this

/-- The second batch finds its parents in itself or in the first, be that in the batch or in the table. -/
theorem similar_right (h : Split s next xs ys) :
    Catalogue.Similar (s.catalogue (xs ++ ys)) (next.catalogue ys) fun d e => d.unmarked = e.unmarked where
  unmarked := fun _ _ heq => heq
  find := by
    intro d e id _ _
    rw [Catalogue.find?_eq, Catalogue.find?_eq, catalogue, catalogue, bound_append h,
      List.reverse_append, List.find?_append, h.follows.table, find?_fileAll, find?_map_finish h.freshLeft]
    -- the last one with the id is of the second batch, of the first, or older than both
    cases (next.bound ys).reverse.find? fun d => !d.isExcluded && d.id == id with
    | some a => exact Or.inr ⟨a, a, rfl, rfl, rfl⟩
    | none =>
        cases (s.bound xs).reverse.find? fun d => !d.isExcluded && d.id == id with
        | some a => exact Or.inr ⟨a, finish a, rfl, rfl, (unmarked_finish a).symm⟩
        | none =>
            cases s.table.find? (·.id == id) with
            | some a => exact Or.inr ⟨a, a, rfl, rfl, rfl⟩
            | none => exact Or.inl ⟨rfl, rfl⟩

theorem outcome_left (h : Split s next xs ys) {e : Definition} (he : e ∈ s.bound xs)
    (start : Fields) (k : Handle) :
    outcome (s.catalogue (xs ++ ys)) start k e = outcome (s.catalogue xs) start k e :=
  outcome_congr start k (Catalogue.follow_unmarked (similar_left h) ⟨rfl, he⟩) rfl

theorem outcome_right (h : Split s next xs ys) (e : Definition) (start : Fields) (k : Handle) :
    outcome (s.catalogue (xs ++ ys)) start k e = outcome (next.catalogue ys) start k e :=
  outcome_congr start k (Catalogue.follow_unmarked (similar_right h) rfl) rfl

/-! ## The store -/

private theorem fields_eq_of_address {store : Store} {h k : Handle} (heq : h.address = k.address) :
    store.fields h = store.fields k := by
  rw [Store.fields, Store.fields, heq]

/-- Stores are the same if they have the same addresses in use, with the same fields. -/
private theorem store_ext {left right : Store} (hsize : left.cells.size = right.cells.size)
    (hfields : ∀ k : Handle, k.address < left.cells.size → left.fields k = right.fields k) :
    left = right := by
  refine congrArg Store.mk (Array.ext hsize fun i hi hj => ?_)
  rw [Array.getElem_eq_getD [], Array.getElem_eq_getD []]
  exact hfields ⟨i, "", (Descriptor.composite "").shape⟩ hi

/-- A prototype of the first batch ends with the same fields, and the second batch does not touch it. -/
theorem fields_left (h : Split s next xs ys) {k : Handle} (hk : k ∈ s.created xs) :
    (s.appliedStore (xs ++ ys)).fields k = (next.appliedStore ys).fields k := by
  have hin : k.address < next.store.cells.size := by
    have hlt := (Allocation.address_created_bounds hk).2
    rw [Allocation.size_each] at hlt
    rw [h.follows.store, size_appliedStore]
    exact hlt
  rw [created_eq h.freshLeft] at hk
  obtain ⟨e, he, hhandle⟩ := List.mem_filterMap.mp hk
  have hjoint : e ∈ s.bound (xs ++ ys) := by
    rw [bound_append h]
    exact List.mem_append_left _ he
  rw [fields_appliedStore_of_lt h.freshRight hin, h.follows.store, fields_appliedStore h.fresh hjoint hhandle,
    fields_appliedStore h.freshLeft he hhandle, outcome_left h he]

/-- A prototype of the second batch ends with the same fields. -/
theorem fields_right (h : Split s next xs ys) {k : Handle} (hk : k ∈ next.created ys) :
    (s.appliedStore (xs ++ ys)).fields k = (next.appliedStore ys).fields k := by
  rw [created_eq h.freshRight] at hk
  obtain ⟨e, he, hhandle⟩ := List.mem_filterMap.mp hk
  have hjoint : e ∈ s.bound (xs ++ ys) := by
    rw [bound_append h]
    exact List.mem_append_right _ he
  rw [fields_appliedStore h.fresh hjoint hhandle, fields_appliedStore h.freshRight he hhandle,
    outcome_right h]

/-- **THE SAME STORE**: every prototype ends with the same fields. -/
theorem appliedStore_append (h : Split s next xs ys) :
    s.appliedStore (xs ++ ys) = next.appliedStore ys := by
  have hsize : (s.appliedStore (xs ++ ys)).cells.size = (next.appliedStore ys).cells.size := by
    rw [size_appliedStore, size_appliedStore, h.follows.store, size_appliedStore, created_append h,
      List.length_append, Nat.add_assoc]
  refine store_ext hsize fun k hk => ?_
  by_cases hold : k.address < s.store.cells.size
  · have hlt : k.address < next.store.cells.size := by
      rw [h.follows.store, size_appliedStore]
      omega
    rw [fields_appliedStore_of_lt h.fresh hold, fields_appliedStore_of_lt h.freshRight hlt, h.follows.store,
      fields_appliedStore_of_lt h.freshLeft hold]
  · -- every address that is not old is that of a new prototype
    obtain ⟨new, hnew, haddress⟩ : ∃ new ∈ s.created (xs ++ ys), new.address = k.address := by
      refine List.mem_map.mp ?_
      rw [created, Allocation.map_address_created, List.mem_range'_1]
      rw [size_appliedStore] at hk
      exact ⟨Nat.not_lt.mp hold, hk⟩
    rw [← fields_eq_of_address haddress, ← fields_eq_of_address haddress]
    rw [created_append h] at hnew
    rcases List.mem_append.mp hnew with hleft | hright
    · exact fields_left h hleft
    · exact fields_right h hright

/-! ## The table -/

/-- **THE SAME TABLE**: the same definitions are filed. -/
theorem table_append (h : Split s next xs ys) :
    (fileAll s.table ((s.bound (xs ++ ys)).map finish)).value
      = (fileAll next.table ((next.bound ys).map finish)).value := by
  rw [bound_append h, List.map_append, (fileAll_append ..).1, h.follows.table]

/-! ## The diagnostics -/

theorem bindings_append (h : Split s next xs ys) :
    ((s.allocatedBatch (xs ++ ys)).flatMap fun d =>
        ((s.binding (xs ++ ys)).definition d).journal.diagnostics)
      = ((s.allocatedBatch xs).flatMap fun d => ((s.binding xs).definition d).journal.diagnostics)
        ++ ((next.allocatedBatch ys).flatMap fun d =>
            ((next.binding ys).definition d).journal.diagnostics) := by
  rw [allocatedBatch_append h, List.flatMap_append, ← binding_right h]
  refine congrArg (· ++ _) (List.flatMap_congr fun a ha => ?_)
  rw [definition_left h ha]

theorem reports_append (h : Split s next xs ys) :
    ((s.bound (xs ++ ys)).flatMap (reports (s.catalogue (xs ++ ys)) (s.allocatedStore (xs ++ ys))))
      = ((s.bound xs).flatMap (reports (s.catalogue xs) (s.allocatedStore xs)))
        ++ ((next.bound ys).flatMap (reports (next.catalogue ys) (next.allocatedStore ys))) := by
  have hbound := bound_append h
  rw [hbound, List.flatMap_append]
  -- each definition starts from the defaults of its type, in either store
  refine congrArg₂ (· ++ ·) (List.flatMap_congr fun e he => ?_) (List.flatMap_congr fun e he => ?_)
  · have hjoint : e ∈ s.bound (xs ++ ys) := hbound ▸ List.mem_append_left _ he
    refine reports_congr fun k hhandle => ?_
    rw [fields_allocatedStore h.fresh hjoint hhandle, fields_allocatedStore h.freshLeft he hhandle,
      outcome_left h he]
  · have hjoint : e ∈ s.bound (xs ++ ys) := hbound ▸ List.mem_append_right _ he
    refine reports_congr fun k hhandle => ?_
    rw [fields_allocatedStore h.fresh hjoint hhandle, fields_allocatedStore h.freshRight he hhandle,
      outcome_right h]

/-- **THE SAME REPORTS**: each pass reports of two batches what it reports of each. -/
theorem diagnostics_append (h : Split s next xs ys) :
    (s.settle (xs ++ ys)).journal.diagnostics.Perm
      ((s.settle xs).journal.diagnostics ++ (next.settle ys).journal.diagnostics) := by
  have hfiled : (fileAll s.table ((s.bound (xs ++ ys)).map finish)).journal.diagnostics
      = (fileAll s.table ((s.bound xs).map finish)).journal.diagnostics
        ++ (fileAll next.table ((next.bound ys).map finish)).journal.diagnostics := by
    rw [bound_append h, List.map_append, (fileAll_append ..).2, h.follows.table]
  -- the passes interleave differently, so the diagnostics are counted
  refine List.perm_iff_count.mpr fun x => ?_
  have hjoint := (reports_perm (s := s) h.fresh).count_eq x
  have hleft := (reports_perm (s := s) h.freshLeft).count_eq x
  have hright := (reports_perm (s := next) h.freshRight).count_eq x
  rw [reports_append h, List.count_append] at hjoint
  rw [diagnostics_settle h.fresh, diagnostics_settle h.freshLeft, diagnostics_settle h.freshRight,
    diagnostics_reportCircles_append h.separate, bindings_append h, hfiled]
  simp only [List.count_append]
  omega

end Splitting

/-! ## Documents -/

theorem value_stageAll (registry : Registry) (options : Options) (preferred : String)
    (documents : List Document) :
    (stageAll registry options preferred documents).value
      = documents.flatMap fun document => (stage registry options preferred document).value := by
  induction documents with
  | nil => rfl
  | cons document rest ih => rw [List.flatMap_cons, ← ih]; rfl

theorem diagnostics_stageAll (registry : Registry) (options : Options) (preferred : String)
    (documents : List Document) :
    (stageAll registry options preferred documents).journal.diagnostics
      = documents.flatMap fun document =>
          (stage registry options preferred document).journal.diagnostics := by
  induction documents with
  | nil => rfl
  | cons document rest ih =>
      rw [List.flatMap_cons, ← ih, stageAll]
      simp only [Noted.journal_bind, Noted.journal_pure, Journal.diagnostics_append, List.append_nil]

theorem follows_parse (s : Session) (documents : List Document) (preferred : String) :
    s.Follows (s.parse documents preferred).2 (s.staged documents preferred) where
  options := options_parse
  prototypes := prototypes_parse
  store := store_parse
  table := table_parse

/-- **ONE BATCH OR TWO**: where the first documents need nothing from the second and share no id with them,
    parsing them one after the other gives the prototypes, with their fields and the references among them,
    and the definitions that parsing them together gives, and up to its order the same is reported. -/
theorem parse_append (registry : Registry) (options : Options) (store : Store) (preferred : String)
    (documents more : List Document)
    (h : Separate (stageAll registry options preferred documents).value
      (stageAll registry options preferred more).value) :
    let fresh := start registry options store
    let split := ((fresh.parse documents preferred).2.parse more preferred).2
    let whole := (fresh.parse (documents ++ more) preferred).2
    split.prototypes = whole.prototypes ∧ split.store = whole.store ∧ split.table = whole.table ∧
      split.diagnostics.Perm whole.diagnostics := by
  intro fresh split whole
  have hmore : (fresh.parse documents preferred).2.staged more preferred
      = (stageAll registry options preferred more).value := by
    rw [staged, registry_parse, options_parse]
    rfl
  have hwhole : fresh.staged (documents ++ more) preferred
      = fresh.staged documents preferred ++ (fresh.parse documents preferred).2.staged more preferred := by
    rw [hmore]
    rw [staged, value_stageAll, List.flatMap_append, ← value_stageAll, ← value_stageAll]
    rfl
  rw [← hmore] at h
  have hsplit : Split fresh (fresh.parse documents preferred).2 (fresh.staged documents preferred)
      ((fresh.parse documents preferred).2.staged more preferred) :=
    ⟨follows_parse fresh documents preferred, h, fresh_staged fresh documents preferred,
      fresh_staged (fresh.parse documents preferred).2 more preferred, rfl⟩
  refine ⟨?_, ?_, ?_, ?_⟩
  · rw [prototypes_parse, prototypes_parse, prototypes_parse, hwhole, created_append hsplit,
      List.append_assoc]
  · rw [store_parse, store_parse, hwhole, appliedStore_append hsplit]
  · have hparts : split.table = (fileAll (fresh.parse documents preferred).2.table _).value := table_parse
    have hjoint : whole.table = (fileAll fresh.table _).value := table_parse
    rw [hparts, hjoint, hwhole, table_append hsplit]
  · have hsettled := diagnostics_append hsplit
    rw [diagnostics_parse, diagnostics_parse, diagnostics_parse, hwhole, registry_parse, options_parse]
    refine List.perm_iff_count.mpr fun x => ?_
    have hcount := hsettled.count_eq x
    rw [List.count_append] at hcount
    rw [diagnostics_stageAll _ _ _ (documents ++ more), List.flatMap_append, ← diagnostics_stageAll,
      ← diagnostics_stageAll]
    simp only [List.count_append]
    omega

/-! ### A file of its own for a derived item -/

def plainType : Descriptor :=
  (Descriptor.prototype "Thing").declare ⟨"next", .reference "Thing", none⟩

def plainDocument : Document where
  name := "base"
  text := "<T Type=\"Thing\"><Item Id=\"a\"><next>a</next></Item></T>"

def derivedDocument : Document where
  name := "derived"
  text := "<T Type=\"Thing\"><Item Id=\"b\" Inherits=\"a\"/></T>"

theorem plain_append_derived :
    let fresh := start ⟨[plainType], .builtin⟩ {} .empty
    let split := ((fresh.parse [plainDocument] "").2.parse [derivedDocument] "").2
    let whole := (fresh.parse [plainDocument, derivedDocument] "").2
    whole.prototypes.length = 2 ∧ split.prototypes = whole.prototypes ∧ split.store = whole.store ∧
      split.table = whole.table ∧ split.diagnostics.Perm whole.diagnostics :=
  ⟨by decide +kernel,
    parse_append ⟨[plainType], .builtin⟩ {} .empty "" [plainDocument] [derivedDocument]
      ⟨by decide +kernel, by decide +kernel, by decide +kernel⟩⟩

end Session

end Archetype
