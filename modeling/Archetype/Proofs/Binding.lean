import Archetype.Binding

/-! # What binding does to a batch

    Binding rewrites the pending references of a tree of statements and keeps everything else.  The ids that
    are pending in a tree (`pendingIds`) are all it depends on:

    * after binding there are none;
    * two bindings that agree on them bind the tree alike, and report alike.

    A batch is bound one definition after the other, so these carry over to batches. -/

namespace Archetype

/-- The last member of a list with a property. -/
theorem find?_reverse_eq_some_iff {α : Type} {p : α → Bool} {xs : List α} {x : α} :
    xs.reverse.find? p = some x ↔
      ∃ before after, xs = before ++ x :: after ∧ p x = true ∧ ∀ y ∈ after, p y = false := by
  rw [List.find?_eq_some_iff_append]
  constructor
  · rintro ⟨hx, later, earlier, hsplit, hlater⟩
    refine ⟨earlier.reverse, later.reverse, ?_, hx, fun y hy => ?_⟩
    · rw [← List.reverse_reverse xs, hsplit, List.reverse_append, List.reverse_cons, List.append_assoc]
      rfl
    · exact (Bool.not_eq_true' _).mp (hlater y (List.mem_reverse.mp hy))
  · rintro ⟨before, after, rfl, hx, hafter⟩
    refine ⟨hx, after.reverse, before.reverse, ?_, fun y hy => ?_⟩
    · rw [List.reverse_append, List.reverse_cons, List.append_assoc]
      rfl
    · exact (Bool.not_eq_true' _).mpr (hafter y (List.mem_reverse.mp hy))

namespace Staged

mutual

/-- The ids of the references in a value that have not been bound, at any depth. -/
def pendingIds : Staged → List String
  | .scalar _ _ => []
  | .object ⟨_, fields, _⟩ => pendingIdsOfFields fields
  | .collection _ _ elements => pendingIdsOfElements elements
  | .pending id => [id]
  | .bound _ _ => []

/-- `pendingIds` of statements. -/
def pendingIdsOfFields : List StagedField → List String
  | [] => []
  | ⟨_, v, _⟩ :: rest => pendingIds v ++ pendingIdsOfFields rest

/-- `pendingIds` of elements. -/
def pendingIdsOfElements : List Staged → List String
  | [] => []
  | v :: rest => pendingIds v ++ pendingIdsOfElements rest

end

end Staged

/-- The ids of the references in a definition that have not been bound, at any depth. -/
def Definition.pendingIds (d : Definition) : List String :=
  Staged.pendingIdsOfFields d.body.fields

namespace Binding

open Staged

/-! ## Nothing stays pending -/

mutual

/-- Binding a value leaves no reference in it pending. -/
theorem pendingIds_value (b : Binding) (location : Location) :
    ∀ v : Staged, pendingIds (b.value location v).value = []
  | .scalar _ _ => rfl
  | .object ⟨_, fields, _⟩ => pendingIdsOfFields_fields b fields
  | .collection _ _ elements => pendingIdsOfElements_elements b location elements
  | .pending _ => rfl
  | .bound _ _ => rfl

theorem pendingIdsOfFields_fields (b : Binding) :
    ∀ fields : List StagedField, pendingIdsOfFields (b.fields fields).value = []
  | [] => rfl
  | ⟨_, v, location⟩ :: rest => by
      show pendingIds (b.value location v).value ++ pendingIdsOfFields (b.fields rest).value = []
      rw [pendingIds_value b location v, pendingIdsOfFields_fields b rest]
      rfl

theorem pendingIdsOfElements_elements (b : Binding) (location : Location) :
    ∀ elements : List Staged, pendingIdsOfElements (b.elements location elements).value = []
  | [] => rfl
  | v :: rest => by
      show pendingIds (b.value location v).value
        ++ pendingIdsOfElements (b.elements location rest).value = []
      rw [pendingIds_value b location v, pendingIdsOfElements_elements b location rest]
      rfl

end

/-! ## Bindings that agree -/

/-- Two bindings that report alike and bind the given ids alike. -/
structure Agree (b c : Binding) (ids : List String) : Prop where
  reports : b.reports = c.reports
  target : ∀ id ∈ ids, b.target? id = c.target? id

theorem Agree.left {b c : Binding} {ids more : List String} (h : Agree b c (ids ++ more)) :
    Agree b c ids :=
  ⟨h.reports, fun id hid => h.target id (List.mem_append_left _ hid)⟩

theorem Agree.right {b c : Binding} {ids more : List String} (h : Agree b c (ids ++ more)) :
    Agree b c more :=
  ⟨h.reports, fun id hid => h.target id (List.mem_append_right _ hid)⟩

private theorem reportUnknown_congr {b c : Binding} {id : String} (h : Agree b c [id])
    (location : Location) : b.reportUnknown id location = c.reportUnknown id location := by
  rw [reportUnknown, reportUnknown, h.reports, h.target id List.mem_cons_self]

mutual

/-- Bindings that agree on what is pending in a value bind it alike. -/
theorem value_congr {b c : Binding} (location : Location) :
    ∀ v : Staged, Agree b c (pendingIds v) → b.value location v = c.value location v
  | .scalar _ _, _ => rfl
  | .object ⟨type, fields, place⟩, h => by
      rw [Binding.value, Binding.value, fields_congr fields h]
  | .collection kind action elements, h => by
      rw [Binding.value, Binding.value, elements_congr location elements h]
  | .pending id, h => by
      rw [Binding.value, Binding.value, reportUnknown_congr h, h.target id List.mem_cons_self]
  | .bound _ _, _ => rfl

theorem fields_congr {b c : Binding} :
    ∀ fields : List StagedField, Agree b c (pendingIdsOfFields fields) →
      b.fields fields = c.fields fields
  | [], _ => rfl
  | ⟨name, v, location⟩ :: rest, h => by
      rw [Binding.fields, Binding.fields, value_congr location v h.left, fields_congr rest h.right]

theorem elements_congr {b c : Binding} (location : Location) :
    ∀ elements : List Staged, Agree b c (pendingIdsOfElements elements) →
      b.elements location elements = c.elements location elements
  | [], _ => rfl
  | v :: rest, h => by
      rw [Binding.elements, Binding.elements, value_congr location v h.left,
        elements_congr location rest h.right]

end

/-! ## Definitions and batches -/

/-- A definition that is not excluded, after binding. -/
def resolved (b : Binding) (d : Definition) : Definition :=
  { d with body := { d.body with fields := (b.fields d.body.fields).value }, state := .referencesResolved }

theorem definition_excluded (b : Binding) {d : Definition} (h : d.isExcluded = true) :
    b.definition d = pure d := by
  rw [Binding.definition, if_pos h]

theorem value_definition (b : Binding) {d : Definition} (h : d.isExcluded = false) :
    (b.definition d).value = b.resolved d := by
  rw [Binding.definition, if_neg (by rw [h]; exact Bool.false_ne_true)]
  rfl

theorem definition_congr {b c : Binding} {d : Definition} (h : Agree b c d.pendingIds) :
    b.definition d = c.definition d := by
  rw [Binding.definition, Binding.definition, fields_congr d.body.fields h]

theorem value_definitions (b : Binding) (batch : List Definition) :
    (b.definitions batch).value = batch.map fun d => (b.definition d).value := by
  induction batch with
  | nil => rfl
  | cons d rest ih =>
      rw [List.map_cons, ← ih]
      rfl

theorem diagnostics_definitions (b : Binding) (batch : List Definition) :
    (b.definitions batch).journal.diagnostics
      = batch.flatMap fun d => (b.definition d).journal.diagnostics := by
  induction batch with
  | nil => rfl
  | cons d rest ih =>
      rw [List.flatMap_cons, ← ih]
      show (b.definition d).journal.diagnostics
        ++ ((b.definitions rest).journal.diagnostics ++ []) = _
      rw [List.append_nil]

@[simp] theorem value_batch (b : Binding) (batch : List Definition) :
    (b.batch batch).value = batch.map fun d => (b.definition d).value := value_definitions b batch

theorem diagnostics_batch (b : Binding) (batch : List Definition) :
    (b.batch batch).journal.diagnostics
      = batch.flatMap fun d => (b.definition d).journal.diagnostics := by
  rw [← diagnostics_definitions]
  show (b.definitions batch).journal.diagnostics ++ ([] ++ []) = _
  rw [List.append_nil, List.append_nil]

end Binding

end Archetype
