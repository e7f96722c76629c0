import Archetype.Proofs.Declarations
import Archetype.Proofs.Renaming

/-! # What values are made of

    Apart from scalars, a value is made of the prototypes that it refers to and of inline objects, at any depth
    (`Value.parts`), and so is what a statement says (`Staged.parts`).

    Applying statements makes up no parts.  Each part of what comes out was there before, or is said by the
    statements, or is brought in by the registry, in the defaults of a type that they speak of or in what a
    converter has made of a text (`madeOf_statements`).  So a property of parts that these three have is kept by
    everything that is applied, and it does not matter which statements went before. -/

namespace Archetype

/-- What a value is made of: a prototype that it refers to, or an inline object, told by its type. -/
inductive Part
  | prototype (handle : Handle)
  | object (type : Shape)

/-- The prototype that a part is. -/
def Part.handle? : Part → Option Handle
  | .prototype handle => some handle
  | .object _ => none

/-- The type of the inline object that a part is. -/
def Part.object? : Part → Option Shape
  | .prototype _ => none
  | .object type => some type

/-! ## Values -/

namespace Value

mutual

/-- The parts of a value, at any depth. -/
def parts : Value → List Part
  | null => []
  | bool _ => []
  | int _ => []
  | float _ => []
  | text _ => []
  | variant _ => []
  | object type fields => .object type :: fieldParts fields
  | reference target => [.prototype target]
  | list items => itemParts items

/-- `parts` of fields. -/
def fieldParts : List (String × Value) → List Part
  | [] => []
  | (_, v) :: rest => parts v ++ fieldParts rest

/-- `parts` of items. -/
def itemParts : List Value → List Part
  | [] => []
  | v :: rest => parts v ++ itemParts rest

end

mutual

theorem handles_eq : ∀ v : Value, v.handles = v.parts.filterMap Part.handle?
  | .null | .bool _ | .int _ | .float _ | .text _ | .variant _ | .reference _ => rfl
  | .object _ fields => fieldHandles_eq fields
  | .list items => itemHandles_eq items

theorem fieldHandles_eq : ∀ fields : List (String × Value),
    fieldHandles fields = (fieldParts fields).filterMap Part.handle?
  | [] => rfl
  | (_, v) :: rest => by
      rw [fieldHandles, fieldParts, List.filterMap_append, handles_eq v, fieldHandles_eq rest]

theorem itemHandles_eq : ∀ items : List Value,
    itemHandles items = (itemParts items).filterMap Part.handle?
  | [] => rfl
  | v :: rest => by
      rw [itemHandles, itemParts, List.filterMap_append, handles_eq v, itemHandles_eq rest]

end

/-- A value all parts of which are of a kind. -/
def MadeOf (P : Part → Prop) (v : Value) : Prop :=
  ∀ x ∈ v.parts, P x

theorem mem_fieldParts {fields : Fields} {x : Part} :
    x ∈ fieldParts fields ↔ ∃ entry ∈ fields, x ∈ entry.2.parts := by
  induction fields with
  | nil => simp only [fieldParts, List.not_mem_nil, false_and, exists_false]
  | cons entry rest ih => rw [fieldParts, List.mem_append, ih, List.exists_mem_cons_iff]

theorem mem_itemParts {items : List Value} {x : Part} :
    x ∈ itemParts items ↔ ∃ v ∈ items, x ∈ v.parts := by
  induction items with
  | nil => simp only [itemParts, List.not_mem_nil, false_and, exists_false]
  | cons v rest ih => rw [itemParts, List.mem_append, ih, List.exists_mem_cons_iff]

end Value

/-- Fields all parts of which are of a kind. -/
def Fields.MadeOf (P : Part → Prop) (fields : Fields) : Prop :=
  ∀ x ∈ Value.fieldParts fields, P x

section Values

variable {P : Part → Prop} {fields : Fields} {items : List Value} {name : String} {v : Value} {type : Shape}

theorem Value.madeOf_list : (Value.list items).MadeOf P ↔ ∀ v ∈ items, v.MadeOf P := by
  constructor
  · intro h v hv x hx
    exact h x (mem_itemParts.mpr ⟨v, hv, hx⟩)
  · intro h x hx
    obtain ⟨v, hv, hx⟩ := mem_itemParts.mp hx
    exact h v hv x hx

theorem Value.madeOf_object : (Value.object type fields).MadeOf P ↔ P (.object type) ∧ fields.MadeOf P :=
  List.forall_mem_cons

theorem Fields.madeOf_iff : fields.MadeOf P ↔ ∀ entry ∈ fields, entry.2.MadeOf P := by
  constructor
  · intro h entry hentry x hx
    exact h x (Value.mem_fieldParts.mpr ⟨entry, hentry, hx⟩)
  · intro h x hx
    obtain ⟨entry, hentry, hx⟩ := Value.mem_fieldParts.mp hx
    exact h entry hentry x hx

theorem Fields.MadeOf.get? (h : fields.MadeOf P) (hv : fields.get? name = some v) : v.MadeOf P :=
  madeOf_iff.mp h _ (mem_of_get? hv)

theorem Fields.MadeOf.set (h : fields.MadeOf P) (hv : v.MadeOf P) : (fields.set name v).MadeOf P := by
  refine madeOf_iff.mpr fun entry hentry => ?_
  rcases mem_set hentry with rfl | hold
  · exact hv
  · exact madeOf_iff.mp h entry hold

/-- What stands in the fields of a fresh instance is a default. -/
theorem Descriptor.exists_of_mem_defaults {type : Descriptor} {entry : String × Value}
    (hentry : entry ∈ type.defaults) : ∃ f ∈ type.fields, entry.2 ∈ f.default := by
  revert entry
  refine List.foldlRecOn (motive := fun fields : Fields =>
    ∀ {entry}, entry ∈ fields → ∃ f ∈ type.fields, entry.2 ∈ f.default) type.fields _ ?_ ?_
  · exact fun hentry => by cases hentry
  · intro fields hfields f hf entry hentry
    cases hdefault : f.default with
    | none =>
        rw [hdefault] at hentry
        exact hfields hentry
    | some v =>
        rw [hdefault] at hentry
        rcases Fields.mem_set hentry with rfl | hold
        · exact ⟨f, hf, hdefault⟩
        · exact hfields hold

/-- A registry that brings in parts of a kind only: in the defaults of its types, and in what its converters
    make. -/
structure Registry.MadeOf (P : Part → Prop) (r : Registry) : Prop where
  defaults : ∀ type ∈ r.types, ∀ f ∈ type.fields, ∀ v ∈ f.default, v.MadeOf P
  converters : ∀ c ∈ r.converters.converters, ∀ text v, c.convert text = .ok v → v.MadeOf P

theorem Registry.MadeOf.fresh {r : Registry} (h : r.MadeOf P) {type : Descriptor} (htype : type ∈ r.types) :
    type.defaults.MadeOf P := by
  refine Fields.madeOf_iff.mpr fun entry hentry => ?_
  obtain ⟨f, hf, hv⟩ := Descriptor.exists_of_mem_defaults hentry
  exact h.defaults type htype f hf entry.2 hv

end Values

/-! ## Converters of plain values -/

/-- A converter that returns values without references and objects, at any depth. -/
def Converter.Plain (c : Converter) : Prop :=
  ∀ text v, c.convert text = .ok v → v.parts = []

namespace Converter

variable {typeName : String} {read : String → Option Value}

theorem plain_reading (h : ∀ word v, read word = some v → v.parts = []) : (reading typeName read).Plain := by
  intro text v hconvert
  simp only [reading] at hconvert
  split at hconvert
  · rename_i hread
    rw [← Except.ok.inj hconvert]
    exact h _ _ hread
  · cases hconvert

theorem plain_reading_map {α : Type} {read : String → Option α} {f : α → Value} (h : ∀ a, (f a).parts = []) :
    (reading typeName fun word => (read word).map f).Plain := by
  refine plain_reading fun word v hread => ?_
  obtain ⟨a, -, rfl⟩ := Option.map_eq_some_iff.mp hread
  exact h a

theorem plain_text : text.Plain := by
  intro s v hconvert
  rw [← Except.ok.inj hconvert]
  rfl

theorem plain_enumeration (name : String) (variants : List String) : (enumeration name variants).Plain := by
  intro s v hconvert
  simp only [enumeration] at hconvert
  split at hconvert
  · rw [← Except.ok.inj hconvert]
    rfl
  · cases hconvert

end Converter

/-- Converters return values without references and objects, at any depth.  Those that come with the library
    do; a program may bring others. -/
def ConverterSet.Plain (set : ConverterSet) : Prop :=
  ∀ c ∈ set.converters, c.Plain

namespace ConverterSet

theorem Plain.handles_eq_nil {set : ConverterSet} (h : set.Plain) {c : Converter} (hc : c ∈ set.converters)
    {text : String} {v : Value} (hv : c.convert text = .ok v) : v.handles = [] := by
  rw [Value.handles_eq, h c hc text v hv]
  rfl

theorem Plain.insert {set : ConverterSet} (h : set.Plain) {c : Converter} (hc : c.Plain) :
    (set.insert c).Plain :=
  List.forall_mem_cons.mpr ⟨hc, fun d hd => h d (List.mem_of_mem_filter hd)⟩

/-- **BUILT IN**: the built-in converters return values without references and objects. -/
theorem plain_builtin : builtin.Plain := by
  have hempty : empty.Plain := List.forall_mem_nil _
  have hbool : Converter.bool.Plain := Converter.plain_reading_map fun _ => rfl
  have hint : Converter.int.Plain := Converter.plain_reading_map fun _ => rfl
  have hfloat : Converter.float.Plain := Converter.plain_reading_map fun _ => rfl
  exact (((hempty.insert hbool).insert hint).insert hfloat).insert Converter.plain_text

end ConverterSet

/-! ## Statements -/

namespace Staged

mutual

/-- The parts of what a statement says, at any depth. -/
def parts : Staged → List Part
  | scalar _ _ => []
  | object ⟨stated, fields, _⟩ => .object stated.shape :: fieldParts fields
  | collection _ _ elements => elementParts elements
  | pending _ => []
  | bound _ target => (target.map Part.prototype).toList

/-- `parts` of statements. -/
def fieldParts : List StagedField → List Part
  | [] => []
  | ⟨_, v, _⟩ :: rest => parts v ++ fieldParts rest

/-- `parts` of elements. -/
def elementParts : List Staged → List Part
  | [] => []
  | v :: rest => parts v ++ elementParts rest

end

mutual

theorem targets_eq_parts : ∀ v : Staged, v.targets = v.parts.filterMap Part.handle?
  | .scalar _ _ | .pending _ | .bound _ none | .bound _ (some _) => rfl
  | .object ⟨_, fields, _⟩ => fieldTargets_eq_parts fields
  | .collection _ _ elements => elementTargets_eq_parts elements

theorem fieldTargets_eq_parts : ∀ fields : List StagedField,
    fieldTargets fields = (fieldParts fields).filterMap Part.handle?
  | [] => rfl
  | ⟨_, v, _⟩ :: rest => by
      rw [fieldTargets, fieldParts, List.filterMap_append, targets_eq_parts v, fieldTargets_eq_parts rest]

theorem elementTargets_eq_parts : ∀ elements : List Staged,
    elementTargets elements = (elementParts elements).filterMap Part.handle?
  | [] => rfl
  | v :: rest => by
      rw [elementTargets, elementParts, List.filterMap_append, targets_eq_parts v,
        elementTargets_eq_parts rest]

end

variable {r : Registry} {P : Part → Prop} {Q : String → Prop}

mutual

/-- What a fitting statement says is made of the prototypes that it refers to, and of inline objects of
    registered types that derive from those that fields declare. -/
theorem madeOf_of_fits
    (hdeclared : ∀ type ∈ r.types, ∀ f ∈ type.fields, ∀ name, f.type.core = .object name → Q name)
    (hstated : ∀ name, Q name → ∀ stated ∈ r.types, stated.isA name = true → P (.object stated.shape)) :
    ∀ (v : Staged) (type : FieldType), v.Fits r type → (∀ name, type.core = .object name → Q name) →
      (∀ h ∈ v.targets, P (.prototype h)) → ∀ x ∈ v.parts, P x
  | .scalar _ _, _, _, _, _ => fun x hx => nomatch hx
  | .pending _, _, _, _, _ => fun x hx => nomatch hx
  | .bound _ none, _, _, _, _ => fun x hx => nomatch hx
  | .bound _ (some target), _, _, _, htargets => by
      intro x hx
      rw [List.mem_singleton.mp hx]
      exact htargets target List.mem_cons_self
  | .object ⟨stated, fields, place⟩, _, hfits, hcore, htargets => by
      have hfields := fieldsMadeOf_of_fits hdeclared hstated stated fields
      cases hfits with
      | object hmem hisA hconcrete hknown hinside =>
          refine List.forall_mem_cons.mpr ⟨hstated _ (hcore _ rfl) stated hmem hisA, ?_⟩
          exact hfields hmem (Staged.Fits.object hmem hisA hconcrete hknown hinside).allFit htargets
  | .collection kind action elements, _, hfits, hcore, htargets => by
      have helements := elementsMadeOf_of_fits hdeclared hstated elements
      cases hfits with
      | collection hinside => exact helements _ hinside hcore htargets

theorem fieldsMadeOf_of_fits
    (hdeclared : ∀ type ∈ r.types, ∀ f ∈ type.fields, ∀ name, f.type.core = .object name → Q name)
    (hstated : ∀ name, Q name → ∀ stated ∈ r.types, stated.isA name = true → P (.object stated.shape))
    (type : Descriptor) : ∀ fields : List StagedField, type ∈ r.types → StagedField.AllFit r type fields →
      (∀ h ∈ fieldTargets fields, P (.prototype h)) → ∀ x ∈ fieldParts fields, P x
  | [], _, _, _ => fun x hx => nomatch hx
  | ⟨name, v, location⟩ :: rest, hmem, hfits, htargets => by
      obtain ⟨hhere, hmore⟩ := List.forall_mem_append.mp htargets
      obtain ⟨⟨field, hfield, hfit⟩, hrest⟩ := List.forall_mem_cons.mp hfits
      have hcore := hdeclared type hmem field (Descriptor.of_field? hfield).1
      exact List.forall_mem_append.mpr
        ⟨madeOf_of_fits hdeclared hstated v field.type hfit hcore hhere,
          fieldsMadeOf_of_fits hdeclared hstated type rest hmem hrest hmore⟩

theorem elementsMadeOf_of_fits
    (hdeclared : ∀ type ∈ r.types, ∀ f ∈ type.fields, ∀ name, f.type.core = .object name → Q name)
    (hstated : ∀ name, Q name → ∀ stated ∈ r.types, stated.isA name = true → P (.object stated.shape)) :
    ∀ (elements : List Staged) (element : FieldType), (∀ v ∈ elements, v.Fits r element) →
      (∀ name, element.core = .object name → Q name) →
      (∀ h ∈ elementTargets elements, P (.prototype h)) → ∀ x ∈ elementParts elements, P x
  | [], _, _, _, _ => fun x hx => nomatch hx
  | v :: rest, element, hfits, hcore, htargets => by
      obtain ⟨hhere, hmore⟩ := List.forall_mem_append.mp htargets
      obtain ⟨hfit, hrest⟩ := List.forall_mem_cons.mp hfits
      exact List.forall_mem_append.mpr
        ⟨madeOf_of_fits hdeclared hstated v element hfit hcore hhere,
          elementsMadeOf_of_fits hdeclared hstated rest element hrest hcore hmore⟩

end

end Staged

namespace Application

variable {r : Registry} {P : Part → Prop}

/-! ## Applying statements -/

theorem madeOf_startingObject (hr : r.MadeOf P) {stated : Descriptor} (hmem : stated ∈ r.types)
    (hstated : P (.object stated.shape)) {existing : Option Value}
    (hexisting : ∀ old, existing = some old → old.MadeOf P) :
    P (.object (startingObject stated existing).1) ∧ (startingObject stated existing).2.MadeOf P := by
  rw [startingObject.eq_def]
  split
  · split
    · exact Value.madeOf_object.mp (hexisting _ rfl)
    · exact ⟨hstated, hr.fresh hmem⟩
  · exact ⟨hstated, hr.fresh hmem⟩

theorem madeOf_startingElements {action : Option OverrideAction} {existing : Option Value}
    (hexisting : ∀ old, existing = some old → old.MadeOf P) :
    ∀ v ∈ startingElements action existing, v.MadeOf P := by
  have hnone : ∀ v ∈ ([] : List Value), v.MadeOf P := by
    intro v hv
    cases hv
  rw [startingElements.eq_def]
  split
  · split
    · exact Value.madeOf_list.mp (hexisting _ rfl)
    · exact hnone
  · exact hnone

theorem madeOf_addElement {kind : CollectionKind} {items : List Value} {v : Value}
    (hitems : ∀ w ∈ items, w.MadeOf P) (hv : v.MadeOf P) : ∀ w ∈ addElement kind items v, w.MadeOf P := by
  intro w hw
  rw [addElement] at hw
  split at hw
  · exact hitems w hw
  · rcases List.mem_append.mp hw with hold | hnew
    · exact hitems w hold
    · rw [List.mem_singleton.mp hnew]
      exact hv

mutual

/-- What a statement makes of a field is made of what was there, of what the statement says, and of what the
    registry brings in. -/
theorem madeOf_built (hr : r.MadeOf P) (type : FieldType) (existing : Option Value)
    (location : Location) (hexisting : ∀ old, existing = some old → old.MadeOf P) :
    ∀ (v : Staged) (staged : FieldType), v.Fits r staged → (∀ x ∈ v.parts, P x) →
      ∀ w, (built type existing location v).value = some w → w.MadeOf P
  | .scalar converter v, staged, hfits, _, w, hw => by
      rw [built_scalar] at hw
      split at hw
      · split at hw
        · cases hfits with
          | scalar hbest hconvert =>
              rw [← Option.some.inj hw]
              exact hr.converters _ (ConverterSet.mem_of_best? hbest) _ v hconvert
        · cases hw
      · cases hw
  | .bound id target, staged, _, hparts, w, hw => by
      rw [built_bound] at hw
      split at hw
      · cases target with
        | none =>
            rw [← Option.some.inj hw]
            exact fun x hx => nomatch hx
        | some target =>
            rw [reference] at hw
            split at hw
            · rw [← Option.some.inj hw]
              exact hparts
            · cases hw
      · cases hw
  | .object ⟨stated, fields, place⟩, staged, hfits, hparts, w, hw => by
      rw [built_object] at hw
      split at hw
      · split at hw
        · have hfitting : Fitting r fields ∧ stated ∈ r.types := by
            cases hfits with
            | object hmem hstated hconcrete hdeclared hfields =>
                exact ⟨.ofAllFit (Staged.Fits.object hmem hstated hconcrete hdeclared hfields).allFit, hmem⟩
          obtain ⟨hstated, hfields⟩ := List.forall_mem_cons.mp hparts
          obtain ⟨hshape, hstart⟩ := madeOf_startingObject hr hfitting.2 hstated hexisting
          rw [← Option.some.inj hw]
          exact Value.madeOf_object.mpr ⟨hshape, madeOf_statements hr fields hfitting.1 hfields hstart⟩
        · cases hw
      · cases hw
  | .collection stated action items, staged, hfits, hparts, w, hw => by
      rw [built_collection] at hw
      split at hw
      · rename_i kind element
        split at hw
        · cases hfits with
          | collection hitems =>
              rw [← Option.some.inj hw]
              exact Value.madeOf_list.mpr (madeOf_elements hr kind element location items
                (fun v hv => ⟨_, hitems v hv⟩) hparts (madeOf_startingElements hexisting))
        · cases hw
      · cases hw
  | .pending id, staged, _, _, w, hw => nomatch hw

/-- **MADE OF**: statements bring in no parts but those that they say and those of the registry. -/
theorem madeOf_statements (hr : r.MadeOf P) {target : Shape} {fields : Fields} :
    ∀ staged : List StagedField, Fitting r staged → (∀ x ∈ Staged.fieldParts staged, P x) →
      fields.MadeOf P → (statements target fields staged).value.MadeOf P
  | [], _, _, hfields => hfields
  | ⟨name, v, location⟩ :: rest, hfitting, hparts, hfields => by
      have hrest : Fitting r rest := fun f hf => hfitting f (List.mem_cons_of_mem _ hf)
      obtain ⟨hhere, hmore⟩ := List.forall_mem_append.mp hparts
      rw [statements]
      split
      · exact madeOf_statements hr rest hrest hmore hfields
      · rename_i type htype
        obtain ⟨staged, hfits⟩ := hfitting _ List.mem_cons_self
        simp only [Noted.value_bind]
        split
        · rename_i w hw
          have hmade := madeOf_built hr type (fields.get? name) location (fun _ hold => hfields.get? hold)
            v staged hfits hhere w hw
          exact madeOf_statements hr rest hrest hmore (hfields.set hmade)
        · exact madeOf_statements hr rest hrest hmore hfields

theorem madeOf_elements (hr : r.MadeOf P) (kind : CollectionKind) (element : FieldType)
    (location : Location) {items : List Value} : ∀ staged : List Staged,
      (∀ v ∈ staged, ∃ type, v.Fits r type) → (∀ x ∈ Staged.elementParts staged, P x) →
      (∀ v ∈ items, v.MadeOf P) → ∀ v ∈ (elements kind element location items staged).value, v.MadeOf P
  | [], _, _, hitems => hitems
  | v :: rest, hfitting, hparts, hitems => by
      have hrest : ∀ w ∈ rest, ∃ type, w.Fits r type := fun w hw =>
        hfitting w (List.mem_cons_of_mem _ hw)
      obtain ⟨hhere, hmore⟩ := List.forall_mem_append.mp hparts
      obtain ⟨staged, hfits⟩ := hfitting v List.mem_cons_self
      rw [elements]
      simp only [Noted.value_bind]
      split
      · rename_i w hw
        have hmade := madeOf_built hr element none location (fun _ h => nomatch h) v staged hfits hhere w hw
        exact madeOf_elements hr kind element location rest hrest hmore (madeOf_addElement hitems hmade)
      · exact madeOf_elements hr kind element location rest hrest hmore hitems

end

theorem madeOf_bodies (hr : r.MadeOf P) {target : Shape} {fields : Fields} {ds : List Definition}
    (hds : ∀ d ∈ ds, d.Fits r) (hparts : ∀ d ∈ ds, ∀ x ∈ Staged.fieldParts d.body.fields, P x)
    (hfields : fields.MadeOf P) : (bodies target fields ds).value.MadeOf P := by
  induction ds generalizing fields with
  | nil => exact hfields
  | cons d rest ih =>
      obtain ⟨hd, hrest⟩ := List.forall_mem_cons.mp hds
      obtain ⟨hhere, hmore⟩ := List.forall_mem_cons.mp hparts
      exact ih hrest hmore (madeOf_statements hr d.body.fields (.ofAllFit hd.fields) hhere hfields)

end Application

end Archetype
