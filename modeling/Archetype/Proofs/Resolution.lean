import Archetype.Proofs.Binding

/-! # Every reference is bound, and nothing else

    What binding makes of a value is told here by rules that do not mention it (`Binds`): a pending reference is
    bound to the last prototype with its id, if there is one, and all else is kept as it is, at every depth.  The
    rules also list the references that stay empty although they have an id, in document order, each with the
    place of the field that it stands in.

    Binding follows these rules, and reports just what they list, if it is to report at all (`binds_value`).
    Where nothing is pending it does nothing (`value_eq_pure`), so a second pass changes nothing, whatever there
    is to bind to. -/

namespace Archetype

namespace Binding

open Staged

variable {b : Binding}

/-! ## The rules -/

mutual

/-- A value before and after its references are bound, and the references in it that stay empty although they
have an id.  The place is that of the field it stands in. -/
inductive Binds (prototypes : List Handle) : Location → Staged → Staged → List (Location × String) → Prop
  | scalar {place : Location} {converter : String} {v : Value} :
      Binds prototypes place (.scalar converter v) (.scalar converter v) []
  | bound {place : Location} {id : String} {target : Option Handle} :
      Binds prototypes place (.bound id target) (.bound id target) []
  | found {place : Location} {id : String} {before after : List Handle} {target : Handle} (hne : id ≠ "")
      (hsplit : prototypes = before ++ target :: after) (hid : target.id = id)
      (hlast : ∀ p ∈ after, p.id ≠ id) :
      Binds prototypes place (.pending id) (.bound id (some target)) []
  | missing {place : Location} {id : String} (hne : id ≠ "") (hunknown : ∀ p ∈ prototypes, p.id ≠ id) :
      Binds prototypes place (.pending id) (.bound id none) [(place, id)]
  | empty {place : Location} : Binds prototypes place (.pending "") (.bound "" none) []
  | object {place own : Location} {type : Descriptor} {fields boundFields : List StagedField}
      {missing : List (Location × String)} (hfields : BindsFields prototypes fields boundFields missing) :
      Binds prototypes place (.object ⟨type, fields, own⟩) (.object ⟨type, boundFields, own⟩) missing
  | collection {place : Location} {kind : CollectionKind} {action : Option OverrideAction}
      {elements boundElements : List Staged} {missing : List (Location × String)}
      (helements : BindsElements prototypes place elements boundElements missing) :
      Binds prototypes place (.collection kind action elements) (.collection kind action boundElements)
        missing

/-- `Binds` for statements, in order.  Each has its own place. -/
inductive BindsFields (prototypes : List Handle) :
    List StagedField → List StagedField → List (Location × String) → Prop
  | nil : BindsFields prototypes [] [] []
  | cons {name : String} {place : Location} {v w : Staged} {rest boundRest : List StagedField}
      {missing more : List (Location × String)} (hv : Binds prototypes place v w missing)
      (hrest : BindsFields prototypes rest boundRest more) :
      BindsFields prototypes (⟨name, v, place⟩ :: rest) (⟨name, w, place⟩ :: boundRest) (missing ++ more)

/-- `Binds` for elements, in order. -/
inductive BindsElements (prototypes : List Handle) :
    Location → List Staged → List Staged → List (Location × String) → Prop
  | nil {place : Location} : BindsElements prototypes place [] [] []
  | cons {place : Location} {v w : Staged} {rest boundRest : List Staged}
      {missing more : List (Location × String)} (hv : Binds prototypes place v w missing)
      (hrest : BindsElements prototypes place rest boundRest more) :
      BindsElements prototypes place (v :: rest) (w :: boundRest) (missing ++ more)

end

/-- The definitions of a batch before and after: an excluded one stays as it is, and of the others only the
values that they state change, and how far they have come. -/
inductive BindsBatch (prototypes : List Handle) :
    List Definition → List Definition → List (Location × String) → Prop
  | nil : BindsBatch prototypes [] [] []
  | excluded {d : Definition} {rest boundRest : List Definition} {missing : List (Location × String)}
      (hd : d.isExcluded = true) (hrest : BindsBatch prototypes rest boundRest missing) :
      BindsBatch prototypes (d :: rest) (d :: boundRest) missing
  | kept {d : Definition} {fields : List StagedField} {rest boundRest : List Definition}
      {missing more : List (Location × String)} (hd : d.isExcluded = false)
      (hfields : BindsFields prototypes d.body.fields fields missing)
      (hrest : BindsBatch prototypes rest boundRest more) :
      BindsBatch prototypes (d :: rest)
        ({ d with body := { d.body with fields }, state := .referencesResolved } :: boundRest)
        (missing ++ more)

/-- What is reported of the references that stay empty. -/
def reported (b : Binding) (missing : List (Location × String)) : List Diagnostic :=
  if b.reports then
    missing.map fun (place, id) =>
      ⟨.warning, .unresolvedReference, place.file, place.line,
        s!"no prototype with id '{id}'; the reference is left empty"⟩
  else []

@[simp] theorem reported_nil (b : Binding) : b.reported [] = [] := by
  rw [reported, List.map_nil, ite_self]

theorem reported_append (b : Binding) (missing more : List (Location × String)) :
    b.reported (missing ++ more) = b.reported missing ++ b.reported more := by
  rw [reported, reported, reported]
  cases b.reports
  · rfl
  · exact List.map_append

/-! ## Binding follows the rules -/

theorem diagnostics_value_pending (b : Binding) (place : Location) (id : String) :
    (b.value place (.pending id)).journal.diagnostics = (b.reportUnknown id place).journal.diagnostics := by
  show (b.reportUnknown id place).journal.diagnostics ++ [] = _
  rw [List.append_nil]

theorem reportUnknown_of_empty (b : Binding) (place : Location) : b.reportUnknown "" place = pure () :=
  if_neg fun h => h.2.1 rfl

theorem reportUnknown_of_some {place : Location} {id : String} {target : Handle}
    (h : b.target? id = some target) : b.reportUnknown id place = pure () := by
  refine if_neg fun hreports => ?_
  rw [h] at hreports
  cases hreports.2.2

theorem diagnostics_reportUnknown_of_none {place : Location} {id : String} (hne : id ≠ "")
    (h : b.target? id = none) :
    (b.reportUnknown id place).journal.diagnostics = b.reported [(place, id)] := by
  rw [reportUnknown, reported]
  by_cases hreports : b.reports = true
  · rw [if_pos ⟨hreports, hne, h⟩, if_pos hreports]
    rfl
  · rw [if_neg fun hall => hreports hall.1, if_neg hreports]
    rfl

/-- A pending reference is bound to the last prototype with its id, or stays empty and is reported. -/
theorem binds_pending (b : Binding) (place : Location) (id : String) :
    ∃ missing, Binds b.prototypes place (.pending id) (.bound id (b.target? id)) missing ∧
      (b.value place (.pending id)).journal.diagnostics = b.reported missing := by
  rw [diagnostics_value_pending]
  by_cases hempty : id = ""
  · subst hempty
    refine ⟨[], .empty, ?_⟩
    rw [reportUnknown_of_empty, reported_nil]
    rfl
  · have htarget : b.target? id = Handle.lastWithId? b.prototypes id := if_neg hempty
    cases hlast : Handle.lastWithId? b.prototypes id with
    | none =>
        rw [hlast] at htarget
        refine ⟨[(place, id)], ?_, diagnostics_reportUnknown_of_none hempty htarget⟩
        rw [htarget]
        refine .missing hempty fun p hp heq => ?_
        exact List.find?_eq_none.mp hlast p (List.mem_reverse.mpr hp) (beq_iff_eq.mpr heq)
    | some target =>
        rw [hlast] at htarget
        obtain ⟨before, after, hsplit, hid, hafter⟩ := find?_reverse_eq_some_iff.mp hlast
        refine ⟨[], ?_, ?_⟩
        · rw [htarget]
          exact .found hempty hsplit (beq_iff_eq.mp hid) fun p hp => beq_eq_false_iff_ne.mp (hafter p hp)
        · rw [reportUnknown_of_some htarget, reported_nil]
          rfl

mutual

/-- Binding a value follows the rules, and reports what they list. -/
theorem binds_value (b : Binding) (place : Location) : ∀ v : Staged,
    ∃ missing, Binds b.prototypes place v (b.value place v).value missing ∧
      (b.value place v).journal.diagnostics = b.reported missing
  | .scalar _ _ => ⟨[], .scalar, (reported_nil b).symm⟩
  | .bound _ _ => ⟨[], .bound, (reported_nil b).symm⟩
  | .pending id => binds_pending b place id
  | .object ⟨_, fields, _⟩ => by
      obtain ⟨missing, hfields, hreports⟩ := binds_fields b fields
      refine ⟨missing, .object hfields, ?_⟩
      show (b.fields fields).journal.diagnostics ++ [] = _
      rw [List.append_nil, hreports]
  | .collection _ _ elements => by
      obtain ⟨missing, helements, hreports⟩ := binds_elements b place elements
      refine ⟨missing, .collection helements, ?_⟩
      show (b.elements place elements).journal.diagnostics ++ [] = _
      rw [List.append_nil, hreports]

theorem binds_fields (b : Binding) : ∀ fields : List StagedField,
    ∃ missing, BindsFields b.prototypes fields (b.fields fields).value missing ∧
      (b.fields fields).journal.diagnostics = b.reported missing
  | [] => ⟨[], .nil, (reported_nil b).symm⟩
  | ⟨_, v, place⟩ :: rest => by
      obtain ⟨missing, hv, hreports⟩ := binds_value b place v
      obtain ⟨more, hrest, hreportsRest⟩ := binds_fields b rest
      refine ⟨missing ++ more, .cons hv hrest, ?_⟩
      show (b.value place v).journal.diagnostics ++ ((b.fields rest).journal.diagnostics ++ []) = _
      rw [List.append_nil, hreports, hreportsRest, reported_append]

theorem binds_elements (b : Binding) (place : Location) : ∀ elements : List Staged,
    ∃ missing, BindsElements b.prototypes place elements (b.elements place elements).value missing ∧
      (b.elements place elements).journal.diagnostics = b.reported missing
  | [] => ⟨[], .nil, (reported_nil b).symm⟩
  | v :: rest => by
      obtain ⟨missing, hv, hreports⟩ := binds_value b place v
      obtain ⟨more, hrest, hreportsRest⟩ := binds_elements b place rest
      refine ⟨missing ++ more, .cons hv hrest, ?_⟩
      show (b.value place v).journal.diagnostics ++ ((b.elements place rest).journal.diagnostics ++ []) = _
      rw [List.append_nil, hreports, hreportsRest, reported_append]

end

theorem binds_definitions (b : Binding) (batch : List Definition) :
    ∃ missing, BindsBatch b.prototypes batch (b.definitions batch).value missing ∧
      (b.definitions batch).journal.diagnostics = b.reported missing := by
  induction batch with
  | nil => exact ⟨[], .nil, (reported_nil b).symm⟩
  | cons d rest ih =>
      obtain ⟨more, hrest, hreportsRest⟩ := ih
      have hvalue : (b.definitions (d :: rest)).value = (b.definition d).value :: (b.definitions rest).value :=
        rfl
      have hdiagnostics : (b.definitions (d :: rest)).journal.diagnostics
          = (b.definition d).journal.diagnostics ++ (b.definitions rest).journal.diagnostics := by
        rw [diagnostics_definitions, List.flatMap_cons, ← diagnostics_definitions]
      rw [hvalue, hdiagnostics, hreportsRest]
      by_cases hd : d.isExcluded = true
      · rw [definition_excluded b hd]
        exact ⟨more, .excluded hd hrest, rfl⟩
      · have hkept : d.isExcluded = false := Bool.eq_false_iff.mpr hd
        obtain ⟨missing, hfields, hreports⟩ := binds_fields b d.body.fields
        refine ⟨missing ++ more, ?_, ?_⟩
        · rw [value_definition b hkept]
          exact .kept hkept hfields hrest
        · rw [reported_append, ← hreports, Binding.definition, if_neg hd]
          show (b.fields d.body.fields).journal.diagnostics ++ [] ++ _ = _
          rw [List.append_nil]

/-! ## A second pass -/

mutual

/-- Binding a value in which nothing is pending does nothing. -/
theorem value_eq_pure (b : Binding) (place : Location) :
    ∀ v : Staged, pendingIds v = [] → b.value place v = pure v
  | .scalar _ _, _ => rfl
  | .bound _ _, _ => rfl
  | .pending _, h => nomatch h
  | .object ⟨_, fields, _⟩, h => by
      rw [Binding.value, fields_eq_pure b fields h]
      rfl
  | .collection _ _ elements, h => by
      rw [Binding.value, elements_eq_pure b place elements h]
      rfl

theorem fields_eq_pure (b : Binding) :
    ∀ fields : List StagedField, pendingIdsOfFields fields = [] → b.fields fields = pure fields
  | [], _ => rfl
  | ⟨_, v, place⟩ :: rest, h => by
      obtain ⟨hv, hrest⟩ := List.append_eq_nil_iff.mp h
      rw [Binding.fields, value_eq_pure b place v hv, fields_eq_pure b rest hrest]
      rfl

theorem elements_eq_pure (b : Binding) (place : Location) :
    ∀ elements : List Staged, pendingIdsOfElements elements = [] → b.elements place elements = pure elements
  | [], _ => rfl
  | v :: rest, h => by
      obtain ⟨hv, hrest⟩ := List.append_eq_nil_iff.mp h
      rw [Binding.elements, value_eq_pure b place v hv, elements_eq_pure b place rest hrest]
      rfl

end

/-- A definition that binding has nothing more to do with. -/
def Done (d : Definition) : Prop :=
  d.isExcluded = true ∨ d.state = .referencesResolved ∧ d.pendingIds = []

theorem definition_eq_pure {d : Definition} (h : Done d) : b.definition d = pure d := by
  rcases h with hexcluded | ⟨hstate, hpending⟩
  · exact definition_excluded b hexcluded
  · have hkept : ¬ d.isExcluded = true := by
      rw [Definition.isExcluded, hstate]
      exact Bool.false_ne_true
    rw [Binding.definition, if_neg hkept, fields_eq_pure b d.body.fields hpending]
    obtain ⟨id, inherits, isAbstract, typeOverride, ⟨type, fields, place⟩, state, handle⟩ := d
    obtain rfl : state = .referencesResolved := hstate
    rfl

theorem done_definition (b : Binding) (d : Definition) : Done (b.definition d).value := by
  by_cases hd : d.isExcluded = true
  · rw [definition_excluded b hd]
    exact Or.inl hd
  · rw [value_definition b (Bool.eq_false_iff.mpr hd)]
    exact Or.inr ⟨rfl, pendingIdsOfFields_fields b d.body.fields⟩

theorem definitions_eq_pure {batch : List Definition} (h : ∀ d ∈ batch, Done d) :
    b.definitions batch = pure batch := by
  induction batch with
  | nil => rfl
  | cons d rest ih =>
      rw [Binding.definitions, definition_eq_pure (h d List.mem_cons_self),
        ih fun e he => h e (List.mem_cons_of_mem _ he)]
      rfl

theorem done_of_mem_batch (b : Binding) (batch : List Definition) :
    ∀ d ∈ (b.batch batch).value, Done d := by
  intro d hd
  rw [value_batch] at hd
  obtain ⟨e, -, rfl⟩ := List.mem_map.mp hd
  exact done_definition b e

/-- **BOUND**: binding follows the rules and reports just what they list, in order, or nothing if it is not to
    report.  Nothing stays pending in a definition that is not excluded, and binding once more, whatever there
    is to bind to, changes nothing and reports nothing. -/
theorem binds_batch (b : Binding) (batch : List Definition) :
    ∃ missing, BindsBatch b.prototypes batch (b.batch batch).value missing ∧
      (b.batch batch).journal.diagnostics = b.reported missing ∧
      (∀ d ∈ (b.batch batch).value, d.isExcluded = false → d.pendingIds = []) ∧
      ∀ again : Binding, (again.batch (b.batch batch).value).value = (b.batch batch).value ∧
        (again.batch (b.batch batch).value).journal.diagnostics = [] := by
  obtain ⟨missing, hbinds, hreports⟩ := binds_definitions b batch
  have hdone := done_of_mem_batch b batch
  refine ⟨missing, hbinds, ?_, fun d hd hkept => ?_, fun again => ⟨?_, ?_⟩⟩
  · rw [← hreports, diagnostics_batch, diagnostics_definitions]
  · rcases hdone d hd with hexcluded | ⟨-, hpending⟩
    · cases hkept.symm.trans hexcluded
    · exact hpending
  · show (again.definitions _).value = _
    rw [definitions_eq_pure hdone]
    rfl
  · show (again.definitions _).journal.diagnostics ++ _ = []
    rw [definitions_eq_pure hdone]
    rfl

end Binding

end Archetype
