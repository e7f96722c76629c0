import Archetype.Proofs.Registry
import Archetype.Staging

/-! # What staging makes fits the types

    Staging reads every element against the declared type of the field it stands for.  What it keeps fits
    that type (`Staged.Fits`): a scalar is what the converter of its type makes of some text, an inline object
    is of a registered concrete type that derives from the declared one and states only fields of that type,
    and the elements of a collection fit its element type.  A reference always fits a reference field; what it
    is bound to is not known yet.

    Every definition staged from an item therefore states fitting values for fields of its own type, and its
    own type is registered (`Definition.Fits`). -/

namespace Archetype

/-- A value that a field of the given type may be given. -/
inductive Staged.Fits (r : Registry) : FieldType → Staged → Prop
  | scalar {name : String} {c : Converter} {text : String} {v : Value}
      (hbest : r.converters.best? name = some c) (hconvert : c.convert text = .ok v) :
      Fits r (.scalar name) (.scalar name v)
  | pending {type id : String} : Fits r (.reference type) (.pending id)
  | bound {type id : String} {target : Option Handle} : Fits r (.reference type) (.bound id target)
  | object {declared : String} {o : StagedObject} (hmem : o.type ∈ r.types)
      (hisA : o.type.isA declared = true) (hconcrete : o.type.isAbstract = false)
      (hdeclared : ∀ f ∈ o.fields, (o.type.field? f.name).isSome = true)
      (hfields : ∀ f ∈ o.fields, ∀ field, o.type.field? f.name = some field → Fits r field.type f.value) :
      Fits r (.object declared) (.object o)
  | collection {kind : CollectionKind} {element : FieldType} {action : Option OverrideAction}
      {elements : List Staged} (helements : ∀ v ∈ elements, Fits r element v) :
      Fits r (.collection kind element) (.collection kind action elements)

/-- Statements about fields of a type, each with a value that fits. -/
def StagedField.AllFit (r : Registry) (type : Descriptor) (fields : List StagedField) : Prop :=
  ∀ f ∈ fields, ∃ field, type.field? f.name = some field ∧ f.value.Fits r field.type

theorem Staged.Fits.ofObject {r : Registry} {declared : String} {o : StagedObject}
    (hmem : o.type ∈ r.types) (hisA : o.type.isA declared = true)
    (hconcrete : o.type.isAbstract = false) (hfields : StagedField.AllFit r o.type o.fields) :
    Staged.Fits r (.object declared) (.object o) := by
  refine .object hmem hisA hconcrete ?_ ?_
  · intro f hf
    obtain ⟨field, hfield, -⟩ := hfields f hf
    rw [hfield]
    rfl
  · intro f hf field hfield
    obtain ⟨other, hother, hfits⟩ := hfields f hf
    rw [Option.some.inj (hfield.symm.trans hother)]
    exact hfits

theorem Staged.Fits.allFit {r : Registry} {declared : String} {o : StagedObject}
    (h : Staged.Fits r (.object declared) (.object o)) : StagedField.AllFit r o.type o.fields := by
  cases h with
  | object _ _ _ hdeclared hfields =>
      intro f hf
      obtain ⟨field, hfield⟩ := Option.isSome_iff_exists.mp (hdeclared f hf)
      exact ⟨field, hfield, hfields f hf field hfield⟩

/-- A definition of a registered type that states fitting values for fields of its type. -/
structure Definition.Fits (r : Registry) (d : Definition) : Prop where
  registered : d.type ∈ r.types
  fields : StagedField.AllFit r d.type d.body.fields

/-- A definition as staging makes it: nothing has happened to it yet. -/
structure Definition.Fresh (d : Definition) : Prop where
  state : d.state = .staged
  handle : d.handle = none

theorem Definition.Fresh.isExcluded {d : Definition} (h : d.Fresh) : d.isExcluded = false := by
  rw [Definition.isExcluded, h.state]
  rfl

namespace Staging

open Markup

variable {s : Staging}

@[simp] theorem value_reject {α : Type} (s : Staging) (kind : DiagnosticKind) (e : Element)
    (message : String) : (s.reject kind e message : Noted (Option α)).value = none := rfl

/-- The type of an inline object is registered, concrete, and derives from the declared one. -/
theorem of_objectType? {e : Element} {declared : String} {type : Descriptor}
    (h : (s.objectType? e declared).value = some type) :
    type ∈ s.registry.types ∧ type.isA declared = true ∧ type.isAbstract = false := by
  rw [objectType?] at h
  simp only [Noted.value_bind] at h
  split at h
  · cases h
  · rename_i found hfound
    -- the type found, before it is asked whether it is abstract
    have hderives : found ∈ s.registry.types ∧ found.isA declared = true := by
      split at hfound
      · split at hfound
        · rename_i hget
          obtain ⟨hmem, hname⟩ := Registry.of_get? hget
          rw [← Option.some.inj hfound]
          refine ⟨hmem, ?_⟩
          rw [TypeHead.isA, hname, beq_self_eq_true]
          rfl
        · cases hfound
      · split at hfound
        · cases hfound
        · rename_i hfind
          split at hfound
          · rename_i hisA
            rw [← Option.some.inj hfound]
            exact ⟨Registry.mem_types_of_find? hfind, hisA⟩
          · cases hfound
    split at h
    · cases h
    · rename_i hconcrete
      rw [← Option.some.inj h]
      exact ⟨hderives.1, hderives.2, Bool.eq_false_iff.mpr hconcrete⟩

theorem fits_scalar {e : Element} {converter : String} {v : Staged}
    (h : (s.scalar e converter).value = some v) : v.Fits s.registry (.scalar converter) := by
  rw [scalar] at h
  split at h
  · exact nomatch h
  · cases hbest : s.registry.converters.best? converter with
    | none => simp [hbest] at h
    | some c =>
        cases hconvert : c.convert e.text with
        | error err => simp [hbest, hconvert] at h
        | ok value =>
            simp [hbest, hconvert] at h
            rw [← h]
            exact .scalar hbest hconvert

theorem fits_reference {e : Element} {type : String} {v : Staged}
    (h : (s.reference e).value = some v) : v.Fits s.registry (.reference type) := by
  rw [reference] at h
  split at h
  · exact nomatch h
  · rw [← Option.some.inj h]
    exact .pending

mutual

/-- What staging makes of an element fits the type it was read against. -/
theorem fits_value (s : Staging) : ∀ (e : Element) (type : FieldType) (v : Staged),
    (s.value e type).value = some v → v.Fits s.registry type
  | ⟨name, attributes, children, start, stop⟩, .scalar converter, v, h => by
      rw [value] at h
      exact fits_scalar h
  | ⟨name, attributes, children, start, stop⟩, .reference type, v, h => by
      rw [value] at h
      exact fits_reference h
  | ⟨name, attributes, children, start, stop⟩, .object declared, v, h => by
      rw [value] at h
      simp only [Noted.value_bind] at h
      cases htype : (s.objectType? ⟨name, attributes, children, start, stop⟩ declared).value with
      | none => rw [htype] at h; exact nomatch h
      | some objectType =>
          rw [htype] at h
          obtain ⟨hmem, hisA, hconcrete⟩ := of_objectType? htype
          rw [← Option.some.inj h]
          exact .ofObject hmem hisA hconcrete (fits_statements s objectType children)
  | ⟨name, attributes, children, start, stop⟩, .collection kind element, v, h => by
      rw [value] at h
      simp only [Noted.value_bind] at h
      rw [← Option.some.inj h]
      exact .collection (fits_entries s element children)

theorem fits_statements (s : Staging) (type : Descriptor) : ∀ children : List Node,
    StagedField.AllFit s.registry type (s.statements type children).value
  | [] => fun f hf => nomatch hf
  | .text _ :: rest => fits_statements s type rest
  | .element e :: rest => by
      intro f hf
      rw [statements] at hf
      simp only [Noted.value_bind, Noted.value_pure] at hf
      rcases List.mem_append.mp hf with hhead | htail
      · obtain ⟨v, hv, rfl⟩ := Option.map_eq_some_iff.mp (Option.mem_toList.mp hhead)
        cases hfield : type.field? e.name with
        | none => rw [hfield] at hv; exact nomatch hv
        | some field =>
            rw [hfield] at hv
            exact ⟨field, rfl, fits_value s e field.type v hv⟩
      · exact fits_statements s type rest f htail

theorem fits_entries (s : Staging) (element : FieldType) : ∀ children : List Node,
    ∀ v ∈ (s.entries element children).value, v.Fits s.registry element
  | [] => fun v hv => nomatch hv
  | .text _ :: rest => fits_entries s element rest
  | .element e :: rest => by
      intro v hv
      rw [entries] at hv
      simp only [Noted.value_bind, Noted.value_pure] at hv
      rcases List.mem_append.mp hv with hhead | htail
      · have hentry := Option.mem_toList.mp hhead
        by_cases htag : e.name = s.options.entryTag
        · rw [if_pos htag] at hentry
          exact fits_value s e element v hentry
        · rw [if_neg htag] at hentry
          exact nomatch hentry
      · exact fits_entries s element rest v htail

end

/-! ## Items and documents -/

theorem mem_types_of_itemType? {e : Element} {id : String} {container type : Descriptor}
    (hcontainer : container ∈ s.registry.types)
    (h : (s.itemType? e id container).value = some type) : type ∈ s.registry.types := by
  rw [itemType?] at h
  split at h
  · rw [← Option.some.inj h]
    exact hcontainer
  · split at h
    · cases h
    · rename_i hfind
      split at h
      · rw [← Option.some.inj h]
        exact Registry.mem_types_of_find? hfind
      · cases h

/-- The definition an item makes: its body is what the item states about its type. -/
theorem of_item? {container : Descriptor} {e : Element} {d : Definition}
    (h : (s.item? container e).value = some d) :
    ∃ id type isAbstract, word? e "Id" = some id ∧ (s.itemType? e id container).value = some type ∧
      d = { id, inherits := word? e "Inherits", isAbstract, typeOverride := e.attribute? "Type",
            body := (s.object e type).value } := by
  rw [item?] at h
  split at h
  · cases h
  · split at h
    · cases h
    · rename_i id hid
      simp only [Noted.value_bind] at h
      cases htype : (s.itemType? e id container).value with
      | none => rw [htype] at h; cases h
      | some type =>
          rw [htype] at h
          simp only at h
          split at h
          · cases h
          · exact ⟨id, type, _, hid, htype, (Option.some.inj h).symm⟩

theorem of_mem_items {container : Descriptor} {es : List Element} {d : Definition}
    (h : d ∈ (s.items container es).value) : ∃ e ∈ es, (s.item? container e).value = some d := by
  induction es with
  | nil => cases h
  | cons e rest ih =>
      rw [items] at h
      simp only [Noted.value_bind, Noted.value_pure] at h
      rcases List.mem_append.mp h with hhead | htail
      · exact ⟨e, List.mem_cons_self, Option.mem_toList.mp hhead⟩
      · obtain ⟨f, hf, hd⟩ := ih htail
        exact ⟨f, List.mem_cons_of_mem _ hf, hd⟩

theorem mem_types_of_containerType? {root : Element} {type : Descriptor}
    (h : (s.containerType? root).value = some type) : type ∈ s.registry.types := by
  rw [containerType?] at h
  split at h
  · cases h
  · split at h
    · cases h
    · rename_i hfind
      split at h
      · rw [← Option.some.inj h]
        exact Registry.mem_types_of_find? hfind
      · cases h

/-- Every definition of a document is made by an item, read against a registered container type. -/
theorem of_mem_document {root : Element} {d : Definition} (h : d ∈ (s.document root).value) :
    ∃ container ∈ s.registry.types, ∃ e, (s.item? container e).value = some d := by
  have hcontainer : d ∈ (s.container root).value := h
  rw [container] at hcontainer
  simp only [Noted.value_bind] at hcontainer
  cases htype : (s.containerType? root).value with
  | none => rw [htype] at hcontainer; cases hcontainer
  | some type =>
      rw [htype] at hcontainer
      obtain ⟨e, -, hd⟩ := of_mem_items hcontainer
      exact ⟨type, mem_types_of_containerType? htype, e, hd⟩

/-- **STAGED**: the definitions of a document are fresh, and fit the registry. -/
theorem fits_of_mem_document {root : Element} {d : Definition} (h : d ∈ (s.document root).value) :
    d.Fresh ∧ d.Fits s.registry := by
  obtain ⟨container, hcontainer, e, hitem⟩ := of_mem_document h
  obtain ⟨id, type, isAbstract, -, htype, rfl⟩ := of_item? hitem
  exact ⟨⟨rfl, rfl⟩, mem_types_of_itemType? hcontainer htype, fits_statements s type e.children⟩

end Staging

end Archetype
