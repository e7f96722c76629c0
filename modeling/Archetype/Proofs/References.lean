import Archetype.Proofs.Renaming
import Archetype.Proofs.Staging

/-! # What statements refer to

    A reference is pending when it is staged, and is bound once.  So the references of a bound definition
    (`references`) are those that stood in it as it was staged, each bound to what its id stood for among the
    prototypes of that moment (`Binding.references_fields`); and staging binds none
    (`references_of_mem_document`).

    The prototypes that statements refer to (`targets`) are what their references are bound to. -/

namespace Archetype

namespace Staged

mutual

/-- The references in a value that have been bound, at any depth: each id, and what it is bound to. -/
def references : Staged → List (String × Option Handle)
  | scalar _ _ => []
  | object ⟨_, fields, _⟩ => fieldReferences fields
  | collection _ _ elements => elementReferences elements
  | pending _ => []
  | bound id target => [(id, target)]

/-- `references` of statements. -/
def fieldReferences : List StagedField → List (String × Option Handle)
  | [] => []
  | ⟨_, v, _⟩ :: rest => references v ++ fieldReferences rest

/-- `references` of elements. -/
def elementReferences : List Staged → List (String × Option Handle)
  | [] => []
  | v :: rest => references v ++ elementReferences rest

end

mutual

theorem targets_eq : ∀ v : Staged, v.targets = v.references.filterMap (·.2)
  | .scalar _ _ => rfl
  | .object ⟨_, fields, _⟩ => fieldTargets_eq fields
  | .collection _ _ elements => elementTargets_eq elements
  | .pending _ => rfl
  | .bound _ none => rfl
  | .bound _ (some _) => rfl

theorem fieldTargets_eq : ∀ fields : List StagedField,
    fieldTargets fields = (fieldReferences fields).filterMap (·.2)
  | [] => rfl
  | ⟨_, v, _⟩ :: rest => by
      rw [fieldTargets, fieldReferences, List.filterMap_append, targets_eq v, fieldTargets_eq rest]

theorem elementTargets_eq : ∀ elements : List Staged,
    elementTargets elements = (elementReferences elements).filterMap (·.2)
  | [] => rfl
  | v :: rest => by
      rw [elementTargets, elementReferences, List.filterMap_append, targets_eq v, elementTargets_eq rest]

end

theorem fieldReferences_eq_nil {fields : List StagedField} (h : ∀ f ∈ fields, f.value.references = []) :
    fieldReferences fields = [] := by
  induction fields with
  | nil => rfl
  | cons f rest ih =>
      obtain ⟨name, v, location⟩ := f
      rw [fieldReferences, h _ List.mem_cons_self, ih fun g hg => h g (List.mem_cons_of_mem _ hg)]
      rfl

theorem elementReferences_eq_nil {elements : List Staged} (h : ∀ v ∈ elements, v.references = []) :
    elementReferences elements = [] := by
  induction elements with
  | nil => rfl
  | cons v rest ih =>
      rw [elementReferences, h v List.mem_cons_self, ih fun w hw => h w (List.mem_cons_of_mem _ hw)]
      rfl

end Staged

/-! ## Staging binds no reference -/

namespace Staging

open Markup

variable {s : Staging}

mutual

/-- What staging makes of an element has no references but pending ones. -/
theorem references_value (s : Staging) : ∀ (e : Element) (type : FieldType) (v : Staged),
    (s.value e type).value = some v → v.references = []
  | ⟨name, attributes, children, start, stop⟩, .scalar converter, v, h => by
      rw [value] at h
      cases fits_scalar h
      rfl
  | ⟨name, attributes, children, start, stop⟩, .reference type, v, h => by
      rw [value, reference] at h
      split at h
      · cases h
      · rw [← Option.some.inj h]
        rfl
  | ⟨name, attributes, children, start, stop⟩, .object declared, v, h => by
      rw [value] at h
      simp only [Noted.value_bind] at h
      cases htype : (s.objectType? ⟨name, attributes, children, start, stop⟩ declared).value with
      | none => rw [htype] at h; cases h
      | some objectType =>
          rw [htype] at h
          rw [← Option.some.inj h]
          exact Staged.fieldReferences_eq_nil (references_statements s objectType children)
  | ⟨name, attributes, children, start, stop⟩, .collection kind element, v, h => by
      rw [value] at h
      simp only [Noted.value_bind] at h
      rw [← Option.some.inj h]
      exact Staged.elementReferences_eq_nil (references_entries s element children)

theorem references_statements (s : Staging) (type : Descriptor) : ∀ children : List Node,
    ∀ f ∈ (s.statements type children).value, f.value.references = []
  | [] => fun f hf => nomatch hf
  | .text _ :: rest => references_statements s type rest
  | .element e :: rest => by
      intro f hf
      rw [statements] at hf
      simp only [Noted.value_bind, Noted.value_pure] at hf
      rcases List.mem_append.mp hf with hhead | htail
      · obtain ⟨v, hv, rfl⟩ := Option.map_eq_some_iff.mp (Option.mem_toList.mp hhead)
        cases hfield : type.field? e.name with
        | none => rw [hfield] at hv; cases hv
        | some field =>
            rw [hfield] at hv
            exact references_value s e field.type v hv
      · exact references_statements s type rest f htail

theorem references_entries (s : Staging) (element : FieldType) : ∀ children : List Node,
    ∀ v ∈ (s.entries element children).value, v.references = []
  | [] => fun v hv => nomatch hv
  | .text _ :: rest => references_entries s element rest
  | .element e :: rest => by
      intro v hv
      rw [entries] at hv
      simp only [Noted.value_bind, Noted.value_pure] at hv
      rcases List.mem_append.mp hv with hhead | htail
      · have hentry := Option.mem_toList.mp hhead
        by_cases htag : e.name = s.options.entryTag
        · rw [if_pos htag] at hentry
          exact references_value s e element v hentry
        · rw [if_neg htag] at hentry
          cases hentry
      · exact references_entries s element rest v htail

end

theorem references_of_mem_document {root : Element} {d : Definition} (h : d ∈ (s.document root).value) :
    Staged.fieldReferences d.body.fields = [] := by
  obtain ⟨container, -, e, hitem⟩ := of_mem_document h
  obtain ⟨id, type, isAbstract, -, -, rfl⟩ := of_item? hitem
  exact Staged.fieldReferences_eq_nil (references_statements s type e.children)

theorem targets_of_mem_document {root : Element} {d : Definition} (h : d ∈ (s.document root).value) :
    Staged.fieldTargets d.body.fields = [] := by
  rw [Staged.fieldTargets_eq, references_of_mem_document h]
  rfl

end Staging

/-! ## What references are bound to -/

namespace Binding

theorem mem_prototypes_of_target? {b : Binding} {id : String} {h : Handle} (htarget : b.target? id = some h) :
    h ∈ b.prototypes := by
  rw [target?] at htarget
  split at htarget
  · cases htarget
  · exact List.mem_reverse.mp (List.mem_of_find?_eq_some htarget)

mutual

/-- A reference was bound before, or is bound to what its id stands for. -/
theorem references_value (b : Binding) (location : Location) :
    ∀ v : Staged, ∀ x ∈ (b.value location v).value.references, x ∈ v.references ∨ x.2 = b.target? x.1
  | .scalar _ _, _, hx => nomatch hx
  | .object ⟨_, fields, _⟩, x, hx => references_fields b fields x hx
  | .collection _ _ elements, x, hx => references_elements b location elements x hx
  | .pending _, x, hx => by
      rw [List.mem_singleton.mp hx]
      exact Or.inr rfl
  | .bound _ _, _, hx => Or.inl hx

theorem references_fields (b : Binding) : ∀ fields : List StagedField,
    ∀ x ∈ Staged.fieldReferences (b.fields fields).value,
      x ∈ Staged.fieldReferences fields ∨ x.2 = b.target? x.1
  | [], _, hx => nomatch hx
  | ⟨_, v, location⟩ :: rest, x, hx => by
      rcases List.mem_append.mp hx with hhead | hrest
      · exact (references_value b location v x hhead).imp_left (List.mem_append_left _)
      · exact (references_fields b rest x hrest).imp_left (List.mem_append_right _)

theorem references_elements (b : Binding) (location : Location) : ∀ elements : List Staged,
    ∀ x ∈ Staged.elementReferences (b.elements location elements).value,
      x ∈ Staged.elementReferences elements ∨ x.2 = b.target? x.1
  | [], _, hx => nomatch hx
  | v :: rest, x, hx => by
      rcases List.mem_append.mp hx with hhead | hrest
      · exact (references_value b location v x hhead).imp_left (List.mem_append_left _)
      · exact (references_elements b location rest x hrest).imp_left (List.mem_append_right _)

end

/-- What statements refer to afterwards they referred to before, or is one of the prototypes. -/
theorem targets_fields (b : Binding) (fields : List StagedField) :
    ∀ h ∈ Staged.fieldTargets (b.fields fields).value, h ∈ Staged.fieldTargets fields ∨ h ∈ b.prototypes := by
  intro h hh
  rw [Staged.fieldTargets_eq] at hh ⊢
  obtain ⟨x, hx, htarget⟩ := List.mem_filterMap.mp hh
  rcases references_fields b fields x hx with hold | hnew
  · exact Or.inl (List.mem_filterMap.mpr ⟨x, hold, htarget⟩)
  · exact Or.inr (mem_prototypes_of_target? (hnew.symm.trans htarget))

end Binding

end Archetype
