import Archetype.Proofs.Application
import Archetype.Proofs.Staging
import Archetype.Proofs.Values

/-! # Fields that conform to their types

    The type of an instance says what its fields may hold: `Conforms` for a field type, `Holds` for a field,
    which in a scalar field may also be the declared default, and `FieldsConform` for all fields at once.

    The heart is that applying statements keeps this (`statements_conforms`), although the statements were
    staged against another type than the one they are applied to: an ancestor's, or the stated type of an
    object in whose place an object of a derived type stands.  So what a statement was staged for is
    of no use here, only that it fits *something*; the checks made when it is applied must do the rest.  The
    induction is on the statements, and what stands in a field already conforms to its type. -/

namespace Archetype

mutual

/-- A value that conforms to a field type.  The types of inline objects are among `types`. -/
inductive Conforms (converters : ConverterSet) (types : List Descriptor) : FieldType → Value → Prop
  | scalar {name : String} {c : Converter} {text : String} {v : Value}
      (hbest : converters.best? name = some c) (hconvert : c.convert text = .ok v) :
      Conforms converters types (.scalar name) v
  | object {declared : String} {type : Descriptor} {fields : List (String × Value)}
      (hmem : type ∈ types) (hisA : type.isA declared = true) (hconcrete : type.isAbstract = false)
      (hdeclared : ∀ entry ∈ fields, (type.field? entry.1).isSome = true)
      (hfields : ∀ entry ∈ fields, ∀ field, type.field? entry.1 = some field →
        Holds converters types field entry.2) :
      Conforms converters types (.object declared) (.object type.shape fields)
  | null {declared : String} : Conforms converters types (.reference declared) .null
  | reference {declared : String} {target : Handle} (hisA : target.type.isA declared = true) :
      Conforms converters types (.reference declared) (.reference target)
  | collection {kind : CollectionKind} {element : FieldType} {items : List Value}
      (hitems : ∀ v ∈ items, Conforms converters types element v)
      (hset : kind = .set → items.Pairwise fun v w => (v == w) = false ∧ (w == v) = false) :
      Conforms converters types (.collection kind element) (.list items)

/-- A value that a field may hold: one that conforms to its type or, in a scalar field, its default. -/
inductive Holds (converters : ConverterSet) (types : List Descriptor) : Field → Value → Prop
  | default {field : Field} {name : String} {v : Value} (hscalar : field.type = .scalar name)
      (hdefault : field.default = some v) : Holds converters types field v
  | conforms {field : Field} {v : Value} (h : Conforms converters types field.type v) :
      Holds converters types field v

end

/-- Fields that are declared by a type, each with a value that it may hold. -/
def FieldsConform (converters : ConverterSet) (types : List Descriptor) (type : Descriptor)
    (fields : Fields) : Prop :=
  ∀ entry ∈ fields, ∃ field, type.field? entry.1 = some field ∧ Holds converters types field entry.2

section Conforming

variable {converters : ConverterSet} {types : List Descriptor} {type : Descriptor} {fields : Fields}

/-- Only a scalar field holds values that do not conform to its type. -/
theorem Holds.conforms_of_ne {field : Field} {v : Value} (h : Holds converters types field v)
    (hne : ∀ name, field.type ≠ .scalar name) : Conforms converters types field.type v := by
  cases h with
  | default hscalar => exact absurd hscalar (hne _)
  | conforms h => exact h

theorem Conforms.ofObject {declared : String} (hmem : type ∈ types) (hisA : type.isA declared = true)
    (hconcrete : type.isAbstract = false) (hfields : FieldsConform converters types type fields) :
    Conforms converters types (.object declared) (.object type.shape fields) := by
  refine .object hmem hisA hconcrete ?_ ?_
  · intro entry hentry
    obtain ⟨field, hfield, -⟩ := hfields entry hentry
    rw [hfield]
    rfl
  · intro entry hentry field hfield
    obtain ⟨other, hother, hholds⟩ := hfields entry hentry
    rw [Option.some.inj (hfield.symm.trans hother)]
    exact hholds

/-- An inline object that conforms has a type of its own that its fields conform to. -/
theorem Conforms.exists_type {declared : String} {shape : Shape}
    (h : Conforms converters types (.object declared) (.object shape fields)) :
    ∃ type ∈ types, shape = type.shape ∧ type.isA declared = true ∧ type.isAbstract = false ∧
      FieldsConform converters types type fields := by
  cases h with
  | object hmem hisA hconcrete hdeclared hfields =>
      refine ⟨_, hmem, rfl, hisA, hconcrete, ?_⟩
      intro entry hentry
      obtain ⟨field, hfield⟩ := Option.isSome_iff_exists.mp (hdeclared entry hentry)
      exact ⟨field, hfield, hfields entry hentry field hfield⟩

theorem FieldsConform.set {name : String} {field : Field} {v : Value}
    (h : FieldsConform converters types type fields) (hfield : type.field? name = some field)
    (hv : Holds converters types field v) :
    FieldsConform converters types type (fields.set name v) := by
  intro entry hentry
  rcases Fields.mem_set hentry with rfl | hold
  · exact ⟨field, hfield, hv⟩
  · exact h entry hold

/-- Fresh instances conform if each declared default may stand in its field. -/
theorem FieldsConform.defaults (hunique : ∀ f ∈ type.fields, type.field? f.name = some f)
    (hdefaults : ∀ f ∈ type.fields, ∀ v, f.default = some v → Holds converters types f v) :
    FieldsConform converters types type type.defaults := by
  refine List.foldlRecOn (motive := FieldsConform converters types type) type.fields _ ?_ ?_
  · intro entry hentry
    cases hentry
  · intro fields h f hf
    cases hdefault : f.default with
    | none => exact h
    | some v => exact h.set (hunique f hf) (hdefaults f hf v hdefault)

end Conforming

theorem Descriptor.field?_shape (type : Descriptor) (name : String) :
    type.shape.field? name = (type.field? name).map (·.type) := by
  rw [Shape.field?, Descriptor.field?, shape, List.find?_map, Option.map_map]
  rfl

/-- The types of a registry are among `types`, and their defaults conform. -/
structure Registry.Grounded (r : Registry) (types : List Descriptor) : Prop where
  registered : ∀ type ∈ r.types, type ∈ types
  defaults : ∀ type ∈ r.types, FieldsConform r.converters types type type.defaults

namespace Application

variable {r : Registry} {types : List Descriptor}

/-! ## One statement -/

/-- The object that statements are applied to conforms to the declared type, be it there or fresh. -/
theorem startingObject_conforms (hr : r.Grounded types) {declared : String} {stated : Descriptor}
    {existing : Option Value} (hmem : stated ∈ r.types) (hisA : stated.isA declared = true)
    (hconcrete : stated.isAbstract = false)
    (hexisting : ∀ old, existing = some old → Conforms r.converters types (.object declared) old) :
    ∃ type ∈ types, (startingObject stated existing).1 = type.shape ∧ type.isA declared = true ∧
      type.isAbstract = false ∧
      FieldsConform r.converters types type (startingObject stated existing).2 := by
  have hfresh : ∃ type ∈ types, stated.shape = type.shape ∧ type.isA declared = true ∧
      type.isAbstract = false ∧ FieldsConform r.converters types type stated.defaults :=
    ⟨stated, hr.registered stated hmem, rfl, hisA, hconcrete, hr.defaults stated hmem⟩
  rw [startingObject.eq_def]
  split
  · rename_i shape fields
    split
    · exact (hexisting _ rfl).exists_type
    · exact hfresh
  · exact hfresh

/-- The elements that a collection starts from conform, and those of a set are distinct. -/
theorem startingElements_conforms {action : Option OverrideAction} {kind : CollectionKind}
    {element : FieldType} {existing : Option Value}
    (hexisting : ∀ old, existing = some old →
      Conforms r.converters types (.collection kind element) old) :
    Conforms r.converters types (.collection kind element)
      (.list (startingElements action existing)) := by
  have hnone : Conforms r.converters types (.collection kind element) (.list []) :=
    .collection (fun _ h => nomatch h) fun _ => .nil
  rw [startingElements.eq_def]
  split
  · split
    · exact hexisting _ rfl
    · exact hnone
  · exact hnone

/-- One more element keeps a collection conforming. -/
theorem addElement_conforms {kind : CollectionKind} {element : FieldType} {items : List Value}
    {v : Value} (hitems : Conforms r.converters types (.collection kind element) (.list items))
    (hv : Conforms r.converters types element v) :
    Conforms r.converters types (.collection kind element) (.list (addElement kind items v)) := by
  rw [addElement]
  split
  · exact hitems
  · rename_i hadded
    cases hitems with
    | collection hitems hset =>
        refine .collection ?_ ?_
        · intro w hw
          rcases List.mem_append.mp hw with hold | hnew
          · exact hitems w hold
          · rw [List.mem_singleton.mp hnew]
            exact hv
        · intro hkind
          refine List.pairwise_append.mpr ⟨hset hkind, List.pairwise_singleton .., ?_⟩
          intro w hw x hx
          rw [List.mem_singleton.mp hx]
          -- the set was asked for an equal element, in one direction
          have hne : (w == v) = false := by
            cases heq : w == v with
            | false => rfl
            | true => exact absurd ⟨hkind, List.any_eq_true.mpr ⟨w, hw, heq⟩⟩ hadded
          exact ⟨hne, (Value.beq_symm v w).trans hne⟩

/-- What a field was staged to hold does not matter, as long as it fits something. -/
def Fitting (r : Registry) (fields : List StagedField) : Prop :=
  ∀ f ∈ fields, ∃ type, f.value.Fits r type

theorem Fitting.ofAllFit {type : Descriptor} {fields : List StagedField}
    (h : StagedField.AllFit r type fields) : Fitting r fields := by
  intro f hf
  obtain ⟨field, -, hfits⟩ := h f hf
  exact ⟨field.type, hfits⟩

mutual

/-- What a statement makes of a field conforms to the type of the field. -/
theorem built_conforms (hr : r.Grounded types) (type : FieldType) (existing : Option Value)
    (location : Location)
    (hexisting : ∀ old, existing = some old → (∀ name, type ≠ .scalar name) →
      Conforms r.converters types type old) :
    ∀ (v : Staged) (staged : FieldType), v.Fits r staged →
      ∀ w, (built type existing location v).value = some w → Conforms r.converters types type w
  | .scalar converter v, staged, hfits, w, hw => by
      rw [built_scalar] at hw
      split at hw
      · rename_i declared
        split at hw
        · -- the statement was converted for the very name that the field declares
          rename_i hsame
          cases hfits with
          | scalar hbest hconvert =>
              rw [← Option.some.inj hw, ← hsame]
              exact .scalar hbest hconvert
        · exact nomatch hw
      · exact nomatch hw
  | .bound id target, staged, hfits, w, hw => by
      rw [built_bound] at hw
      split at hw
      · rename_i declared
        cases target with
        | none =>
            rw [← Option.some.inj hw]
            exact .null
        | some target =>
            rw [reference] at hw
            split at hw
            · rename_i hisA
              rw [← Option.some.inj hw]
              exact .reference hisA
            · exact nomatch hw
      · exact nomatch hw
  | .object ⟨stated, fields, place⟩, staged, hfits, w, hw => by
      rw [built_object] at hw
      split at hw
      · rename_i declared
        split at hw
        · rename_i hisA
          cases hfits with
          | object hmem hstated hconcrete hdeclared hfields =>
              have hfitting : Fitting r fields :=
                .ofAllFit (Staged.Fits.object hmem hstated hconcrete hdeclared hfields).allFit
              -- from here on the type is that of the object, which may be derived from the stated one
              obtain ⟨target, htarget, hshape, htargetIsA, htargetConcrete, hstart⟩ :=
                startingObject_conforms hr hmem hisA hconcrete fun old hold =>
                  hexisting old hold fun _ h => nomatch h
              rw [← Option.some.inj hw]
              show Conforms _ _ _ (.object (startingObject stated existing).1
                (statements (startingObject stated existing).1 _ fields).value)
              rw [hshape]
              exact .ofObject htarget htargetIsA htargetConcrete
                (statements_conforms hr htarget fields hfitting hstart)
        · exact nomatch hw
      · exact nomatch hw
  | .collection stated action items, staged, hfits, w, hw => by
      rw [built_collection] at hw
      split at hw
      · rename_i kind element
        split at hw
        · cases hfits with
          | collection hitems =>
              rw [← Option.some.inj hw]
              refine elements_conforms hr kind element location items
                (fun v hv => ⟨_, hitems v hv⟩) (startingElements_conforms ?_)
              exact fun old hold => hexisting old hold fun _ h => nomatch h
        · exact nomatch hw
      · exact nomatch hw
  | .pending id, staged, hfits, w, hw => nomatch hw

/-- **PRESERVED**: statements keep the fields of an instance conforming, whatever type they were staged
    against. -/
theorem statements_conforms (hr : r.Grounded types) {target : Descriptor} (htarget : target ∈ types)
    {fields : Fields} : ∀ staged : List StagedField, Fitting r staged →
      FieldsConform r.converters types target fields →
      FieldsConform r.converters types target (statements target.shape fields staged).value
  | [], _, hfields => hfields
  | ⟨name, v, location⟩ :: rest, hfitting, hfields => by
      have hrest : Fitting r rest := fun f hf => hfitting f (List.mem_cons_of_mem _ hf)
      rw [statements]
      split
      · exact statements_conforms hr htarget rest hrest hfields
      · rename_i type htype
        rw [Descriptor.field?_shape] at htype
        obtain ⟨field, hfield, rfl⟩ := Option.map_eq_some_iff.mp htype
        obtain ⟨staged, hfits⟩ := hfitting _ List.mem_cons_self
        -- what is there conforms, unless it is the default of a scalar, which statements replace
        have hexisting : ∀ old, fields.get? name = some old → (∀ name, field.type ≠ .scalar name) →
            Conforms r.converters types field.type old := by
          intro old hold hne
          obtain ⟨other, hother, hholds⟩ := hfields _ (Fields.mem_of_get? hold)
          rw [← Option.some.inj (hfield.symm.trans hother)] at hholds
          exact hholds.conforms_of_ne hne
        simp only [Noted.value_bind]
        split
        · rename_i w hw
          have hconforms := built_conforms hr field.type (fields.get? name) location hexisting v staged
            hfits w hw
          exact statements_conforms hr htarget rest hrest (hfields.set hfield (.conforms hconforms))
        · exact statements_conforms hr htarget rest hrest hfields

theorem elements_conforms (hr : r.Grounded types) (kind : CollectionKind) (element : FieldType)
    (location : Location) {items : List Value} : ∀ staged : List Staged,
      (∀ v ∈ staged, ∃ type, v.Fits r type) →
      Conforms r.converters types (.collection kind element) (.list items) →
      Conforms r.converters types (.collection kind element)
        (.list (elements kind element location items staged).value)
  | [], _, hitems => hitems
  | v :: rest, hfitting, hitems => by
      have hrest : ∀ w ∈ rest, ∃ type, w.Fits r type := fun w hw =>
        hfitting w (List.mem_cons_of_mem _ hw)
      obtain ⟨staged, hfits⟩ := hfitting v List.mem_cons_self
      rw [elements]
      simp only [Noted.value_bind]
      split
      · rename_i w hw
        have hconforms := built_conforms hr element none location (fun _ h => nomatch h) v staged hfits
          w hw
        exact elements_conforms hr kind element location rest hrest
          (addElement_conforms hitems hconforms)
      · exact elements_conforms hr kind element location rest hrest hitems

end

/-! ## Definitions -/

theorem bodies_conforms (hr : r.Grounded types) {target : Descriptor} (htarget : target ∈ types)
    {fields : Fields} {ds : List Definition} (hds : ∀ d ∈ ds, d.Fits r)
    (hfields : FieldsConform r.converters types target fields) :
    FieldsConform r.converters types target (bodies target.shape fields ds).value := by
  induction ds generalizing fields with
  | nil => exact hfields
  | cons d rest ih =>
      have hd := Fitting.ofAllFit (hds d List.mem_cons_self).fields
      exact ih (fun e he => hds e (List.mem_cons_of_mem _ he))
        (statements_conforms hr htarget d.body.fields hd hfields)

end Application

end Archetype
