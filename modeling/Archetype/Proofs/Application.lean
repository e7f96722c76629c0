import Archetype.Application
import Mathlib.Data.List.Perm.Basic

/-! # Applying a batch, whatever the order

    Applying a definition reads and writes the fields of its own prototype and of no other.  So where the
    prototypes of a batch are pairwise different (`Apart`), what a definition leaves in its prototype
    (`outcome`) and what it reports depend on the store the batch started from, and not on what was applied
    before it:

    * `fields_run` — the fields of each prototype of the batch are the outcome of its definition;
    * `fields_run_of_ne` — the fields of all other prototypes stay;
    * `diagnostics_each` — the reports are those each definition makes on the first store. -/

namespace Archetype

namespace Application

variable {c : Catalogue} {store : Store} {ds : List Definition}

/-! ## One statement -/

section Built

variable (type : FieldType) (existing : Option Value) (location : Location)

theorem built_scalar (converter : String) (v : Value) :
    built type existing location (.scalar converter v)
      = match type with
        | .scalar declared =>
          if converter = declared then pure (some v)
          else mismatch location s!"a {converter} value cannot be stored in a {declared} field"
        | _ => mismatch location s!"a staged scalar cannot be stored in a {type.describe} field" :=
  built.eq_def ..

theorem built_bound (id : String) (target : Option Handle) :
    built type existing location (.bound id target)
      = match type with
        | .reference declared => reference declared location target
        | _ => mismatch location s!"a staged reference cannot be stored in a {type.describe} field" :=
  built.eq_def ..

theorem built_object (stated : Descriptor) (staged : List StagedField) (place : Location) :
    built type existing location (.object ⟨stated, staged, place⟩)
      = match type with
        | .object declared =>
          if stated.isA declared then do
            let (shape, fields) := startingObject stated existing
            return some (.object shape (← statements shape fields staged))
          else mismatch location
            s!"a {stated.qualified} object cannot be stored in a {declared} field"
        | _ => mismatch location s!"a staged object cannot be stored in a {type.describe} field" :=
  built.eq_def ..

theorem built_collection (stated : CollectionKind) (action : Option OverrideAction)
    (staged : List Staged) :
    built type existing location (.collection stated action staged)
      = match type with
        | .collection kind element =>
          if stated = kind then do
            let start := startingElements action existing
            return some (.list (← elements kind element location start staged))
          else mismatch location s!"a {stated.name} cannot be stored in a {type.describe} field"
        | _ => mismatch location s!"a staged collection cannot be stored in a {type.describe} field" :=
  built.eq_def ..

end Built

/-! ## One definition -/

/-- Applying further definitions goes on from the fields that the ones before have left. -/
theorem bodies_append (target : Shape) (fields : Fields) (xs ys : List Definition) :
    (bodies target fields (xs ++ ys)).value = (bodies target (bodies target fields xs).value ys).value := by
  induction xs generalizing fields with
  | nil => rfl
  | cons d rest ih => exact ih _

theorem bodies_singleton (target : Shape) (fields : Fields) (d : Definition) :
    (bodies target fields [d]).value = (statements target fields d.body.fields).value := rfl

/-- What a definition makes of the fields its prototype starts with. -/
def outcome (c : Catalogue) (start : Fields) (h : Handle) (d : Definition) : Noted Fields := do
  let line := c.lineage d
  line.report d
  Noted.record .trace s!"applying '{d.id}' over {line.ancestors.length} ancestors"
  bodies h.type start (line.ancestors.reverse ++ [d])

theorem value_outcome (c : Catalogue) (start : Fields) (h : Handle) (d : Definition) :
    (outcome c start h d).value
      = (bodies h.type start ((c.lineage d).ancestors.reverse ++ [d])).value := rfl

theorem diagnostics_outcome (c : Catalogue) (start : Fields) (h : Handle) (d : Definition) :
    (outcome c start h d).journal.diagnostics
      = ((c.lineage d).report d).journal.diagnostics
        ++ (bodies h.type start ((c.lineage d).ancestors.reverse ++ [d])).journal.diagnostics := by
  show _ ++ ([] ++ _) = _
  rw [List.nil_append]

theorem value_definition_none {d : Definition} (hd : d.handle = none) :
    (definition c store d).value = store := by
  rw [definition, hd]
  rfl

theorem value_definition {d : Definition} {h : Handle} (hd : d.handle = some h) :
    (definition c store d).value = store.write h (outcome c (store.fields h) h d).value := by
  rw [definition, hd]
  rfl

/-- What a definition reports, applied to the prototypes of a store. -/
def reports (c : Catalogue) (store : Store) (d : Definition) : List Diagnostic :=
  match d.handle with
  | none => []
  | some h => (outcome c (store.fields h) h d).journal.diagnostics

theorem reports_some {d : Definition} {h : Handle} (hd : d.handle = some h) :
    reports c store d = (outcome c (store.fields h) h d).journal.diagnostics := by
  rw [reports, hd]

/-- Reports are the same where outcomes are. -/
theorem reports_congr {c other : Catalogue} {store otherStore : Store} {d : Definition}
    (h : ∀ k, d.handle = some k →
      outcome c (store.fields k) k d = outcome other (otherStore.fields k) k d) :
    reports c store d = reports other otherStore d := by
  cases hd : d.handle with
  | none => rw [reports, reports, hd]
  | some k => rw [reports_some hd, reports_some hd, h k hd]

theorem diagnostics_definition (c : Catalogue) (store : Store) (d : Definition) :
    (definition c store d).journal.diagnostics = reports c store d := by
  cases hd : d.handle with
  | none =>
      rw [definition, hd, reports, hd]
      rfl
  | some h =>
      rw [reports_some hd, diagnostics_outcome, definition, hd]
      show _ ++ ([] ++ (_ ++ [])) = _
      rw [List.nil_append, List.append_nil]

/-! ## Definitions one after the other -/

/-- The store after definitions are applied one after the other. -/
def run (c : Catalogue) (store : Store) : List Definition → Store
  | [] => store
  | d :: rest => run c (definition c store d).value rest

/-- No two of some definitions have the same prototype. -/
def Apart (ds : List Definition) : Prop :=
  ((ds.filterMap (·.handle)).map (·.address)).Nodup

instance (ds : List Definition) : Decidable (Apart ds) :=
  inferInstanceAs (Decidable ((ds.filterMap (·.handle)).map (·.address)).Nodup)

/-- The prototypes of some definitions are in use and pairwise different. -/
structure Placed (store : Store) (ds : List Definition) : Prop where
  distinct : ((ds.filterMap (·.handle)).map (·.address)).Nodup
  inUse : ∀ h ∈ ds.filterMap (·.handle), h.address < store.cells.size

theorem size_value_definition (c : Catalogue) (store : Store) (d : Definition) :
    (definition c store d).value.cells.size = store.cells.size := by
  cases hd : d.handle with
  | none => rw [value_definition_none hd]
  | some h =>
      rw [value_definition hd]
      exact Array.size_setIfInBounds ..

theorem size_run (c : Catalogue) (store : Store) (ds : List Definition) :
    (run c store ds).cells.size = store.cells.size := by
  induction ds generalizing store with
  | nil => rfl
  | cons d rest ih =>
      rw [run, ih]
      exact size_value_definition c store d

/-- A definition leaves all prototypes but its own as they are. -/
theorem fields_value_definition_of_ne {d : Definition} {k : Handle}
    (hne : ∀ h, d.handle = some h → h.address ≠ k.address) :
    (definition c store d).value.fields k = store.fields k := by
  cases hd : d.handle with
  | none => rw [value_definition_none hd]
  | some h =>
      rw [value_definition hd, Store.fields_write_of_ne _ _ (hne h hd)]

theorem fields_run_of_ne {k : Handle}
    (hne : ∀ h ∈ ds.filterMap (·.handle), h.address ≠ k.address) :
    (run c store ds).fields k = store.fields k := by
  induction ds generalizing store with
  | nil => rfl
  | cons d rest ih =>
      have hhead : ∀ h, d.handle = some h → h.address ≠ k.address := fun h hd =>
        hne h (List.mem_filterMap.mpr ⟨d, List.mem_cons_self, hd⟩)
      have hrest : ∀ h ∈ rest.filterMap (·.handle), h.address ≠ k.address := by
        intro h hh
        obtain ⟨e, he, heq⟩ := List.mem_filterMap.mp hh
        exact hne h (List.mem_filterMap.mpr ⟨e, List.mem_cons_of_mem _ he, heq⟩)
      rw [run, ih hrest, fields_value_definition_of_ne hhead]

/-! ## Prototypes of their own -/

theorem Apart.tail {d : Definition} (h : Apart (d :: ds)) : Apart ds := by
  cases hd : d.handle with
  | none =>
      rw [Apart, List.filterMap_cons_none hd] at h
      exact h
  | some k =>
      rw [Apart, List.filterMap_cons_some hd, List.map_cons, List.nodup_cons] at h
      exact h.2

/-- The prototype of the first definition is none of the others. -/
theorem Apart.head_ne {d : Definition} {h : Handle} (hapart : Apart (d :: ds)) (hd : d.handle = some h) :
    ∀ k ∈ ds.filterMap (·.handle), k.address ≠ h.address := by
  rw [Apart, List.filterMap_cons_some hd, List.map_cons] at hapart
  intro k hk heq
  exact (List.nodup_cons.mp hapart).1 (heq ▸ List.mem_map_of_mem hk)

theorem Apart.perm {es : List Definition} (h : Apart ds) (hperm : ds.Perm es) : Apart es :=
  (((hperm.filterMap _).map _).nodup_iff).mp h

/-- The prototype of a definition still holds what it started with when its turn comes. -/
theorem Apart.fields_of_mem_tail {d e : Definition} {h : Handle} (hapart : Apart (d :: ds)) (he : e ∈ ds)
    (hh : e.handle = some h) : (definition c store d).value.fields h = store.fields h :=
  fields_value_definition_of_ne fun _ hd =>
    (hapart.head_ne hd h (List.mem_filterMap.mpr ⟨e, he, hh⟩)).symm

theorem Placed.tail {d : Definition} (h : Placed store (d :: ds)) :
    Placed (definition c store d).value ds where
  distinct := Apart.tail h.distinct
  inUse := by
    intro k hk
    rw [size_value_definition]
    obtain ⟨e, he, hek⟩ := List.mem_filterMap.mp hk
    exact h.inUse k (List.mem_filterMap.mpr ⟨e, List.mem_cons_of_mem d he, hek⟩)

theorem Placed.perm {es : List Definition} (h : Placed store ds) (hperm : ds.Perm es) :
    Placed store es where
  distinct := Apart.perm h.distinct hperm
  inUse := fun k hk => h.inUse k ((hperm.filterMap _).mem_iff.mpr hk)

/-- **FRAME**: each prototype ends with what its own definition makes of what it started with. -/
theorem fields_run (hp : Placed store ds) {d : Definition} {h : Handle} (hd : d ∈ ds)
    (hh : d.handle = some h) :
    (run c store ds).fields h = (outcome c (store.fields h) h d).value := by
  induction ds generalizing store with
  | nil => exact nomatch hd
  | cons e rest ih =>
      rw [run]
      rcases List.mem_cons.mp hd with rfl | hmem
      · -- its own turn comes first, and no later one writes to its prototype
        have hin : h.address < store.cells.size :=
          hp.inUse h (List.mem_filterMap.mpr ⟨d, List.mem_cons_self, hh⟩)
        rw [fields_run_of_ne (Apart.head_ne hp.distinct hh), value_definition hh, Store.fields_write _ _ _ _ hin]
        exact if_pos rfl
      · -- the turn of another definition, which leaves what this one starts from
        rw [ih hp.tail hmem, Apart.fields_of_mem_tail hp.distinct hmem hh]

/-! ## Positions -/

/-- The definitions at the given positions that have a prototype. -/
def targets (c : Catalogue) (order : List Nat) : List Definition :=
  order.filterMap fun i => (c.batch[i]?).filter fun d => d.handle.isSome

/-- The positions among the given ones whose definition has a prototype. -/
def taken (c : Catalogue) (order : List Nat) : List Nat :=
  order.filter fun i => ((c.batch[i]?).filter fun d => d.handle.isSome).isSome

theorem value_each (c : Catalogue) (store : Store) (order : List Nat) :
    (each c store order).value = (taken c order, run c store (targets c order)) := by
  induction order generalizing store with
  | nil => rfl
  | cons i rest ih =>
      rw [each, taken, targets, List.filter_cons, List.filterMap_cons]
      cases (c.batch[i]?).filter fun d => d.handle.isSome with
      | none => exact ih store
      | some d =>
          show (i :: (each c _ rest).value.1, (each c _ rest).value.2) = _
          rw [ih]
          rfl

theorem value_batch (c : Catalogue) (store : Store) (order : List Nat) :
    (batch c store order).value = (taken c order, run c store (targets c order)) :=
  value_each c store order

theorem diagnostics_each (hapart : Apart (targets c order)) :
    (each c store order).journal.diagnostics = (targets c order).flatMap (reports c store) := by
  induction order generalizing store with
  | nil => rfl
  | cons i rest ih =>
      rw [targets, List.filterMap_cons] at hapart ⊢
      rw [each]
      cases htarget : (c.batch[i]?).filter fun d => d.handle.isSome with
      | none =>
          rw [htarget] at hapart
          exact ih hapart
      | some d =>
          rw [htarget] at hapart
          have hrest : ((targets c rest).flatMap (reports c (definition c store d).value))
              = (targets c rest).flatMap (reports c store) := by
            refine List.flatMap_congr fun e he => reports_congr fun h hh => ?_
            rw [hapart.fields_of_mem_tail he hh]
          show (definition c store d).journal.diagnostics
            ++ ((each c (definition c store d).value rest).journal.diagnostics ++ []) = _
          rw [List.append_nil, diagnostics_definition, ih hapart.tail, hrest]
          rfl

theorem diagnostics_batch (hapart : Apart (targets c order)) :
    (batch c store order).journal.diagnostics = (targets c order).flatMap (reports c store) := by
  rw [← diagnostics_each hapart]
  show (each c store order).journal.diagnostics ++ ([] ++ []) = _
  rw [List.append_nil, List.append_nil]

end Application

end Archetype
