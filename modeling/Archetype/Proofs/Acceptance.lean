import Archetype.Proofs.Flattening
import Archetype.Proofs.Parts
import Archetype.Proofs.Soundness

/-! # Where statements fit

    Staging checks a statement against the type of the item that states it, applying checks it against the
    type of the prototype it is applied to, and inside an inline object against that of whatever object was
    left there.  Where the types of ancestors are types that the prototype derives from, and no type declares
    an inherited field again with another type, the two checks come to the same: what staging let through is
    not refused, but for references, of which staging does not know yet what they are bound to.

    What carries this through inline objects is that each object in a field for objects has the fields that
    statements about it were staged for (`Shape.Serves`), with the same types.  An object of a registered type
    has them, and so has any object that a default has in store for a field, if it was made for that.  What
    stands in other fields does not matter, not even an object that a converter has made: statements about
    them never go on from what is there. -/

namespace Archetype

/-! ## Registries without surprises -/

/-- No type declares an inherited field again with another type. -/
def Registry.Stable (r : Registry) : Prop :=
  ∀ type ∈ r.types, ∀ base ∈ r.types, type.isA base.qualified = true →
    ∀ f ∈ base.fields, ∀ g ∈ type.fields, g.name = f.name → g.type = f.type

/-- No default value is an inline object. -/
def Registry.PlainDefaults (r : Registry) : Prop :=
  ∀ type ∈ r.types, ∀ f ∈ type.fields, ∀ v ∈ f.default, v.asObject?.isNone = true

instance (r : Registry) : Decidable r.Stable :=
  inferInstanceAs (Decidable (∀ type ∈ r.types, ∀ base ∈ r.types, type.isA base.qualified = true →
    ∀ f ∈ base.fields, ∀ g ∈ type.fields, g.name = f.name → g.type = f.type))

instance (r : Registry) : Decidable r.PlainDefaults :=
  inferInstanceAs (Decidable
    (∀ type ∈ r.types, ∀ f ∈ type.fields, ∀ v ∈ f.default, v.asObject?.isNone = true))

/-- An object of this type has the fields of every registered type that it derives from, with their types. -/
def Shape.Serves (r : Registry) (shape : Shape) : Prop :=
  ∀ stated ∈ r.types, shape.isA stated.qualified = true →
    ∀ f ∈ stated.fields, shape.field? f.name = some f.type

instance (r : Registry) (shape : Shape) : Decidable (shape.Serves r) :=
  inferInstanceAs (Decidable (∀ stated ∈ r.types, shape.isA stated.qualified = true →
    ∀ f ∈ stated.fields, shape.field? f.name = some f.type))

/-- An object of this type has the fields of a type, with their types. -/
def Shape.Knows (shape : Shape) (stated : Descriptor) : Prop :=
  ∀ name field, stated.field? name = some field → shape.field? name = some field.type

theorem Shape.Serves.knows {r : Registry} {shape : Shape} (h : shape.Serves r) {stated : Descriptor}
    (hstated : stated ∈ r.types) (hisA : shape.isA stated.qualified = true) : shape.Knows stated := by
  intro name field hfield
  obtain ⟨hmem, rfl⟩ := Descriptor.of_field? hfield
  exact h stated hstated hisA field hmem

theorem Descriptor.knows_shape (type : Descriptor) : type.shape.Knows type := by
  intro name field hfield
  rw [field?_shape, hfield]
  rfl

namespace Value

mutual

/-- The types of the inline objects that statements about a value can be applied to: of the value itself, and of
    those in its fields for objects.  What stands in other fields and in lists is never written to. -/
def reach : Value → List Shape
  | null => []
  | bool _ => []
  | int _ => []
  | float _ => []
  | text _ => []
  | variant _ => []
  | object type fields => type :: fieldReach type fields
  | reference _ => []
  | list _ => []

/-- `reach` of the fields of an object of the given type. -/
def fieldReach (type : Shape) : List (String × Value) → List Shape
  | [] => []
  | (name, v) :: rest =>
    (match type.field? name with
    | some (.object _) => reach v
    | _ => []) ++ fieldReach type rest

end

theorem mem_fieldReach {type : Shape} {fields : Fields} {shape : Shape} :
    shape ∈ fieldReach type fields ↔
      ∃ entry ∈ fields, ∃ declared, type.field? entry.1 = some (.object declared) ∧
        shape ∈ entry.2.reach := by
  induction fields with
  | nil => simp only [fieldReach, List.not_mem_nil, false_and, exists_false]
  | cons entry rest ih =>
      rw [fieldReach, List.mem_append, ih, List.exists_mem_cons_iff]
      refine or_congr_left ?_
      split
      · rename_i declared htype
        exact ⟨fun h => ⟨declared, htype, h⟩, fun ⟨_, _, h⟩ => h⟩
      · rename_i hother
        refine ⟨fun h => absurd h List.not_mem_nil, ?_⟩
        rintro ⟨declared, htype, -⟩
        exact absurd htype (hother declared)

theorem reach_of_plain {v : Value} (h : v.asObject?.isNone = true) : v.reach = [] := by
  cases v with
  | object type fields => cases h
  | _ => rfl

/-- A value with objects only that statements about them can be applied to. -/
def Served (r : Registry) (v : Value) : Prop :=
  ∀ shape ∈ v.reach, shape.Serves r

instance (r : Registry) (v : Value) : Decidable (v.Served r) :=
  inferInstanceAs (Decidable (∀ shape ∈ v.reach, shape.Serves r))

theorem served_of_plain {r : Registry} {v : Value} (h : v.asObject?.isNone = true) : v.Served r := by
  rw [Served, reach_of_plain h]
  exact fun shape hshape => nomatch hshape

end Value

/-- Fields of an object, with objects only that statements about them can be applied to. -/
def Fields.Served (r : Registry) (type : Shape) (fields : Fields) : Prop :=
  ∀ entry ∈ fields, ∀ declared, type.field? entry.1 = some (.object declared) → entry.2.Served r

theorem Fields.Served.set {r : Registry} {type : Shape} {fields : Fields} {name : String} {v : Value}
    (h : fields.Served r type) (hv : ∀ declared, type.field? name = some (.object declared) → v.Served r) :
    Fields.Served r type (fields.set name v) := by
  intro entry hentry
  rcases Fields.mem_set hentry with rfl | hold
  · exact hv
  · exact h entry hold

theorem Value.served_object {r : Registry} {type : Shape} {fields : Fields} :
    (Value.object type fields).Served r ↔ type.Serves r ∧ fields.Served r type := by
  rw [Served, reach, List.forall_mem_cons]
  refine and_congr_right fun _ => ⟨?_, ?_⟩
  · intro h entry hentry declared htype shape hshape
    exact h shape (mem_fieldReach.mpr ⟨entry, hentry, declared, htype, hshape⟩)
  · intro h shape hshape
    obtain ⟨entry, hentry, declared, htype, hshape⟩ := mem_fieldReach.mp hshape
    exact h entry hentry declared htype shape hshape

namespace Registry

/-- Every object in a default is one that statements about it can be applied to. -/
def DefaultsServe (r : Registry) : Prop :=
  ∀ type ∈ r.types, ∀ f ∈ type.fields, ∀ v ∈ f.default, v.Served r

instance (r : Registry) : Decidable r.DefaultsServe :=
  inferInstanceAs (Decidable (∀ type ∈ r.types, ∀ f ∈ type.fields, ∀ v ∈ f.default, v.Served r))

theorem PlainDefaults.serve {r : Registry} (h : r.PlainDefaults) : r.DefaultsServe :=
  fun type htype f hf v hv => Value.served_of_plain (h type htype f hf v hv)

theorem DefaultsServe.defaults {r : Registry} (h : r.DefaultsServe) {type : Descriptor}
    (htype : type ∈ r.types) : Fields.Served r type.shape type.defaults := by
  intro entry hentry _ _
  obtain ⟨f, hf, hv⟩ := Descriptor.exists_of_mem_defaults hentry
  exact h type htype f hf entry.2 hv

/-- An object of a registered type is one that statements about it can be applied to. -/
def TypesServe (r : Registry) : Prop :=
  ∀ type ∈ r.types, type.shape.Serves r

theorem typesServe_of_stable {declarations : List Descriptor} {converters : ConverterSet} {r : Registry}
    (h : ofDeclarations declarations converters = .ok r) (hstable : r.Stable) : r.TypesServe := by
  intro type htype base hbase hisA f hf
  obtain ⟨g, hg⟩ := exists_field_of_isA h htype hbase hisA (field?_of_mem h hbase hf)
  obtain ⟨hgmem, hgname⟩ := Descriptor.of_field? hg
  rw [Descriptor.field?_shape, hg, ← hstable type htype base hbase hisA f hf g hgmem hgname]
  rfl

end Registry

/-- What applying needs of a registry: objects of its types, and those in its defaults, are ones that statements
    about them can be applied to. -/
structure Registry.Steady (r : Registry) : Prop where
  types : r.TypesServe
  defaults : ∀ type ∈ r.types, Fields.Served r type.shape type.defaults

theorem Registry.steady_of_stable {declarations : List Descriptor} {converters : ConverterSet}
    {r : Registry} (h : ofDeclarations declarations converters = .ok r) (hstable : r.Stable)
    (hplain : r.PlainDefaults) : r.Steady where
  types := typesServe_of_stable h hstable
  defaults := fun _ htype => hplain.serve.defaults htype

/-! ## Statements about one field -/

namespace Staged

mutual

/-- Whether no object in a value has two statements about one field, at any depth. -/
def unrepeated : Staged → Bool
  | .scalar _ _ => true
  | .object ⟨_, fields, _⟩ => fieldsUnrepeated fields
  | .collection _ _ elements => elementsUnrepeated elements
  | .pending _ => true
  | .bound _ _ => true

/-- `unrepeated` of statements. -/
def fieldsUnrepeated : List StagedField → Bool
  | [] => true
  | ⟨name, v, _⟩ :: rest => rest.all (·.name != name) && (unrepeated v && fieldsUnrepeated rest)

/-- `unrepeated` of elements. -/
def elementsUnrepeated : List Staged → Bool
  | [] => true
  | v :: rest => unrepeated v && elementsUnrepeated rest

end

/-- What the first of some statements leaves behind for those after it. -/
theorem fieldsUnrepeated_cons {name : String} {v : Staged} {location : Location} {rest : List StagedField} :
    fieldsUnrepeated (⟨name, v, location⟩ :: rest) = true ↔
      (∀ f ∈ rest, f.name ≠ name) ∧ v.unrepeated = true ∧ fieldsUnrepeated rest = true := by
  simp only [fieldsUnrepeated, Bool.and_eq_true, List.all_eq_true, bne_iff_ne]

theorem elementsUnrepeated_cons {v : Staged} {rest : List Staged} :
    elementsUnrepeated (v :: rest) = true ↔ v.unrepeated = true ∧ elementsUnrepeated rest = true := by
  simp only [elementsUnrepeated, Bool.and_eq_true]

end Staged

/-! ## Misbound references -/

/-- A reference that is bound to a prototype of a type that does not derive from the declared one. -/
inductive Staged.Misbound : FieldType → Staged → Prop
  | intro {declared id : String} {target : Handle} (h : target.type.isA declared = false) :
      Misbound (.reference declared) (.bound id (some target))

/-- The report of a reference that is misbound. -/
def misfit (declared : String) (location : Location) : Option Handle → List Diagnostic
  | none => []
  | some target =>
    if target.type.isA declared then []
    else [⟨.error, .typeMismatchOnApply, location.file, location.line,
      s!"'{target.id}' is a {target.type.qualified}, not a {declared}"⟩]

mutual

/-- The reports of the misbound references in a value that a field of the given type is given, each at the
    line of the field it stands in. -/
def Staged.misfits (type : FieldType) (location : Location) : Staged → List Diagnostic
  | .scalar _ _ => []
  | .object ⟨stated, fields, _⟩ => fieldMisfits stated fields
  | .collection _ _ elements =>
    match type with
    | .collection _ element => elementMisfits element location elements
    | _ => []
  | .pending _ => []
  | .bound _ target =>
    match type with
    | .reference declared => misfit declared location target
    | _ => []

/-- `misfits` of statements about an object of the given type. -/
def Staged.fieldMisfits (type : Descriptor) : List StagedField → List Diagnostic
  | [] => []
  | ⟨name, v, location⟩ :: rest =>
    (match type.field? name with
    | some field => misfits field.type location v
    | none => []) ++ fieldMisfits type rest

/-- `misfits` of elements. -/
def Staged.elementMisfits (element : FieldType) (location : Location) : List Staged → List Diagnostic
  | [] => []
  | v :: rest => misfits element location v ++ elementMisfits element location rest

end

namespace Application

open Staged

variable {r : Registry}

/-! ## Statements that fit

    What applying makes of a statement whose value is of the kind that the field holds. -/

section Fitting

variable (existing : Option Value) (location : Location)

theorem built_scalar_fit (converter : String) (v : Value) :
    built (.scalar converter) existing location (.scalar converter v) = pure (some v) := by
  rw [built_scalar]
  exact if_pos rfl

theorem built_reference_fit (declared id : String) (target : Option Handle) :
    built (.reference declared) existing location (.bound id target)
      = reference declared location target := by
  rw [built_bound]

theorem built_object_fit {declared : String} {stated : Descriptor} (hisA : stated.isA declared = true)
    (staged : List StagedField) (place : Location) :
    built (.object declared) existing location (.object ⟨stated, staged, place⟩) = (do
      let fields ← statements (startingObject stated existing).1 (startingObject stated existing).2 staged
      return some (.object (startingObject stated existing).1 fields)) := by
  rw [built_object]
  exact if_pos hisA

theorem built_collection_fit (kind : CollectionKind) (element : FieldType)
    (action : Option OverrideAction) (staged : List Staged) :
    built (.collection kind element) existing location (.collection kind action staged) = (do
      return some (.list
        (← elements kind element location (startingElements action existing) staged))) := by
  rw [built_collection]
  exact if_pos rfl

end Fitting

/-- What was staged for a field is not refused by one of the same type, unless it is a misbound reference. -/
theorem isSome_built {type : FieldType} (existing : Option Value) (location : Location) :
    ∀ v : Staged, v.Fits r type → v.pendingIds = [] →
      (built type existing location v).value.isSome = true ∨ v.Misbound type
  | .scalar converter v, hfits, _ => by
      cases hfits
      rw [built_scalar_fit]
      exact Or.inl rfl
  | .object ⟨stated, staged, place⟩, hfits, _ => by
      cases hfits with
      | object hmem hisA =>
          rw [built_object_fit existing location hisA]
          exact Or.inl rfl
  | .collection kind action staged, hfits, _ => by
      cases hfits
      rw [built_collection_fit]
      exact Or.inl rfl
  | .bound id none, hfits, _ => by
      cases hfits
      rw [built_reference_fit]
      exact Or.inl rfl
  | .bound id (some target), hfits, _ => by
      cases hfits with
      | @bound declared =>
          rw [built_reference_fit, reference]
          cases hisA : target.type.isA declared with
          | true => exact Or.inl rfl
          | false => exact Or.inr ⟨hisA⟩
  | .pending id, _, hbound => by cases hbound

/-! ## What is reported -/

theorem diagnostics_reference (declared : String) (location : Location) (target : Option Handle) :
    (reference declared location target).journal.diagnostics = misfit declared location target := by
  cases target with
  | none => rfl
  | some target =>
      rw [reference, misfit]
      split <;> rfl

/-- Statements about an object of some type are applied to one that has the fields of that type, and in whose
    fields there are only objects that statements can be applied to in turn. -/
theorem startingObject_served (hdefaults : ∀ type ∈ r.types, Fields.Served r type.shape type.defaults)
    {stated : Descriptor} (hmem : stated ∈ r.types) {existing : Option Value}
    (hexisting : ∀ old, existing = some old → old.Served r) :
    (startingObject stated existing).1.Knows stated ∧
      Fields.Served r (startingObject stated existing).1 (startingObject stated existing).2 ∧
      (r.TypesServe → (startingObject stated existing).1.Serves r) := by
  have hfresh : stated.shape.Knows stated ∧ Fields.Served r stated.shape stated.defaults ∧
      (r.TypesServe → stated.shape.Serves r) :=
    ⟨stated.knows_shape, hdefaults stated hmem, fun htypes => htypes stated hmem⟩
  rw [startingObject.eq_def]
  split
  · split
    · rename_i hisA
      obtain ⟨hserves, hfields⟩ := Value.served_object.mp (hexisting _ rfl)
      exact ⟨hserves.knows hmem hisA, hfields, fun _ => hserves⟩
    · exact hfresh
  · exact hfresh

/-- A run that makes something of a field of some type, and reports what is expected.  Where objects of registered
    types are ones that statements can be applied to, so are those that it makes for a field for objects. -/
structure Accepted (r : Registry) (type : FieldType) (m : Noted (Option Value)) (expected : List Diagnostic) :
    Prop where
  diagnostics : m.journal.diagnostics = expected
  served : r.TypesServe → ∀ declared, type = .object declared → ∀ v, m.value = some v → v.Served r

mutual

/-- What was staged for a field of some type is accepted by a field of the same type. -/
theorem built_accepted (hdefaults : ∀ type ∈ r.types, Fields.Served r type.shape type.defaults)
    (location : Location) {existing : Option Value} : ∀ (v : Staged) (type : FieldType),
      (∀ declared, type = .object declared → ∀ old, existing = some old → old.Served r) →
      v.Fits r type → v.pendingIds = [] → (r.TypesServe ∨ v.unrepeated = true) →
      Accepted r type (built type existing location v) (v.misfits type location)
  | .scalar converter v, _, _, hfits, _, _ => by
      cases hfits
      rw [built_scalar_fit]
      exact ⟨rfl, fun _ _ htype => by cases htype⟩
  | .bound id target, _, _, hfits, _, _ => by
      cases hfits with
      | @bound declared =>
          rw [built_reference_fit]
          exact ⟨diagnostics_reference declared location target, fun _ _ htype => by cases htype⟩
  | .object ⟨stated, fields, place⟩, _, hexisting, hfits, hbound, honce => by
      have hfit : StagedField.AllFit r stated fields := by
        cases hfits with
        | object hmem hisA hconcrete hdeclared hfields =>
            exact (Staged.Fits.object hmem hisA hconcrete hdeclared hfields).allFit
      cases hfits with
      | object hmem hisA =>
          -- from here on the type is that of the object that the statements are applied to
          obtain ⟨hknows, hstart, hserves⟩ := startingObject_served hdefaults hmem (hexisting _ rfl)
          obtain ⟨hdiagnostics, hserved⟩ := statements_accepted hdefaults hmem hknows fields hfit hbound honce
            fun f _ declared htype old hold => hstart _ (Fields.mem_of_get? hold) declared htype
          rw [built_object_fit existing location hisA]
          refine ⟨?_, fun htypes _ _ w hw => ?_⟩
          · rw [Noted.journal_bind, Journal.diagnostics_append, hdiagnostics]
            exact List.append_nil _
          · rw [← Option.some.inj hw]
            exact Value.served_object.mpr ⟨hserves htypes, hserved htypes hstart⟩
  | .collection kind action staged, _, _, hfits, hbound, honce => by
      cases hfits with
      | @collection _ element _ _ hfits =>
          have hdiagnostics := elements_accepted hdefaults kind element location
            (startingElements action existing) staged hfits hbound honce
          rw [built_collection_fit]
          refine ⟨?_, fun _ _ htype => by cases htype⟩
          rw [Noted.journal_bind, Journal.diagnostics_append, hdiagnostics]
          exact List.append_nil _
  | .pending id, _, _, _, hbound, _ => nomatch hbound

/-- **ACCEPTED**: what was staged against one type is accepted by an object that has the fields of that type, as
    long as each statement finds only objects in its field that it can be applied to.  It does if it is the only
    one about the field, or if those that come before it cannot leave others behind. -/
theorem statements_accepted (hdefaults : ∀ type ∈ r.types, Fields.Served r type.shape type.defaults)
    {target : Shape} {stated : Descriptor} (hstated : stated ∈ r.types) (hknows : target.Knows stated)
    {fields : Fields} : ∀ staged : List StagedField, StagedField.AllFit r stated staged →
      pendingIdsOfFields staged = [] → (r.TypesServe ∨ fieldsUnrepeated staged = true) →
      (∀ f ∈ staged, ∀ declared, target.field? f.name = some (.object declared) →
        ∀ old, fields.get? f.name = some old → old.Served r) →
      (statements target fields staged).journal.diagnostics = fieldMisfits stated staged ∧
        (r.TypesServe → Fields.Served r target fields →
          Fields.Served r target (statements target fields staged).value)
  | [], _, _, _, _ => ⟨rfl, fun _ hserved => hserved⟩
  | ⟨name, v, location⟩ :: rest, hfit, hbound, honce, hfound => by
      obtain ⟨hv, hrest⟩ := List.append_eq_nil_iff.mp hbound
      obtain ⟨⟨field, hfield, hfits⟩, hfitRest⟩ := List.forall_mem_cons.mp hfit
      obtain ⟨hhere, hlater⟩ := List.forall_mem_cons.mp hfound
      have honceHere := honce.imp_right fun h => (fieldsUnrepeated_cons.mp h).2.1
      have honceRest := honce.imp_right fun h => (fieldsUnrepeated_cons.mp h).2.2
      have hknown : target.field? name = some field.type := hknows name field hfield
      obtain ⟨hdiagnostics, hvalue⟩ := built_accepted hdefaults location v field.type
        (fun declared htype => hhere declared (htype ▸ hknown)) hfits hv honceHere
      rw [statements, hknown, fieldMisfits, hfield]
      simp only [Noted.journal_bind, Noted.value_bind, Journal.diagnostics_append, hdiagnostics]
      cases hbuilt : (built field.type (fields.get? name) location v).value with
      | none =>
          obtain ⟨hreports, hserved⟩ :=
            statements_accepted hdefaults hstated hknows rest hfitRest hrest honceRest hlater
          exact ⟨congrArg (misfits field.type location v ++ ·) hreports, hserved⟩
      | some w =>
          have hmade (htypes : r.TypesServe) (declared : String)
              (htype : target.field? name = some (.object declared)) : w.Served r :=
            hvalue htypes declared (Option.some.inj (hknown.symm.trans htype)) w hbuilt
          have hnext : ∀ f ∈ rest, ∀ declared, target.field? f.name = some (.object declared) →
              ∀ old, (fields.set name w).get? f.name = some old → old.Served r := by
            intro f hf declared htype old hold
            rw [Fields.get?_set] at hold
            split at hold
            · -- the field was stated before, so what was made of it can be applied to
              rename_i hsame
              rw [← Option.some.inj hold]
              rcases honce with htypes | honce
              · exact hmade htypes declared (hsame ▸ htype)
              · exact absurd hsame.symm ((fieldsUnrepeated_cons.mp honce).1 f hf)
            · exact hlater f hf declared htype old hold
          obtain ⟨hreports, hserved⟩ :=
            statements_accepted hdefaults hstated hknows rest hfitRest hrest honceRest hnext
          exact ⟨congrArg (misfits field.type location v ++ ·) hreports,
            fun htypes hfields => hserved htypes (hfields.set (hmade htypes))⟩

theorem elements_accepted (hdefaults : ∀ type ∈ r.types, Fields.Served r type.shape type.defaults)
    (kind : CollectionKind) (element : FieldType) (location : Location) (items : List Value) :
    ∀ staged : List Staged, (∀ v ∈ staged, v.Fits r element) → pendingIdsOfElements staged = [] →
      (r.TypesServe ∨ elementsUnrepeated staged = true) →
      (elements kind element location items staged).journal.diagnostics
        = elementMisfits element location staged
  | [], _, _, _ => rfl
  | v :: rest, hfit, hbound, honce => by
      obtain ⟨hv, hrest⟩ := List.append_eq_nil_iff.mp hbound
      have hfitRest : ∀ w ∈ rest, w.Fits r element := fun w hw => hfit w (List.mem_cons_of_mem _ hw)
      have honceHere := honce.imp_right fun h => (elementsUnrepeated_cons.mp h).1
      have honceRest := honce.imp_right fun h => (elementsUnrepeated_cons.mp h).2
      obtain ⟨hdiagnostics, -⟩ := @built_accepted hdefaults location none v element
        (fun _ _ _ h => by cases h) (hfit v List.mem_cons_self) hv honceHere
      rw [elements, elementMisfits]
      simp only [Noted.journal_bind, Journal.diagnostics_append, hdiagnostics]
      cases (built element none location v).value with
      | none =>
          exact congrArg (_ ++ ·)
            (elements_accepted hdefaults kind element location items rest hfitRest hrest honceRest)
      | some w =>
          exact congrArg (_ ++ ·)
            (elements_accepted hdefaults kind element location (addElement kind items w) rest hfitRest hrest
              honceRest)

end

/-! ## Definitions -/

/-- Statements keep a value in each field that has one. -/
theorem isSome_get?_statements (target : Shape) {fields : Fields} {name : String}
    (h : (fields.get? name).isSome = true) (staged : List StagedField) :
    ((statements target fields staged).value.get? name).isSome = true := by
  induction staged generalizing fields with
  | nil => exact h
  | cons f rest ih =>
      obtain ⟨other, v, location⟩ := f
      rw [statements]
      split
      · exact ih h
      · simp only [Noted.value_bind]
        split
        · refine ih ?_
          rw [Fields.get?_set]
          split
          · rfl
          · exact h
        · exact ih h

theorem isSome_get?_bodies (target : Shape) {fields : Fields} {name : String}
    (h : (fields.get? name).isSome = true) (ds : List Definition) :
    ((bodies target fields ds).value.get? name).isSome = true := by
  induction ds generalizing fields with
  | nil => exact h
  | cons d rest ih => exact ih (isSome_get?_statements target h d.body.fields)

/-- What was staged against one type is stored by the instances of the types that derive from it, misbound
    references aside. -/
theorem isSome_get?_of_mem_statements (hr : r.Steady) {target stated : Descriptor}
    (htarget : target ∈ r.types) (hstated : stated ∈ r.types)
    (hisA : target.isA stated.qualified = true) {staged : List StagedField}
    (hfit : StagedField.AllFit r stated staged) (hbound : pendingIdsOfFields staged = [])
    {f : StagedField} (hf : f ∈ staged) (fields : Fields) :
    ((statements target.shape fields staged).value.get? f.name).isSome = true ∨
      ∃ field, stated.field? f.name = some field ∧ f.value.Misbound field.type := by
  induction staged generalizing fields with
  | nil => cases hf
  | cons head rest ih =>
      obtain ⟨name, v, location⟩ := head
      obtain ⟨hv, hrest⟩ := List.append_eq_nil_iff.mp hbound
      obtain ⟨field, hfield, hfits⟩ := hfit _ List.mem_cons_self
      rw [statements, (hr.types target htarget).knows hstated hisA name field hfield]
      simp only [Noted.value_bind]
      rcases List.mem_cons.mp hf with rfl | hmem
      · rcases isSome_built (fields.get? name) location v hfits hv with hsome | hmisbound
        · obtain ⟨w, hw⟩ := Option.isSome_iff_exists.mp hsome
          rw [hw]
          refine Or.inl (isSome_get?_statements target.shape ?_ rest)
          rw [Fields.get?_set, if_pos rfl]
          rfl
        · exact Or.inr ⟨field, hfield, hmisbound⟩
      · have hfitRest : StagedField.AllFit r stated rest := fun g hg => hfit g (List.mem_cons_of_mem _ hg)
        split
        · exact ih hfitRest hrest hmem _
        · exact ih hfitRest hrest hmem _

/-- A definition whose bound statements were staged against a type that the target derives from. -/
structure Applicable (r : Registry) (target : Descriptor) (d : Definition) : Prop where
  fits : d.Fits r
  bound : d.pendingIds = []
  derived : target.isA d.type.qualified = true

theorem bodies_accepted (hr : r.Steady) {target : Descriptor} (htarget : target ∈ r.types)
    {ds : List Definition} (hds : ∀ d ∈ ds, Applicable r target d) {fields : Fields}
    (hserved : Fields.Served r target.shape fields) :
    (bodies target.shape fields ds).journal.diagnostics
      = ds.flatMap fun d => fieldMisfits d.type d.body.fields := by
  induction ds generalizing fields with
  | nil => rfl
  | cons d rest ih =>
      have hd := hds d List.mem_cons_self
      have hknows := (hr.types target htarget).knows hd.fits.registered hd.derived
      obtain ⟨hdiagnostics, hfields⟩ := statements_accepted hr.defaults hd.fits.registered hknows _ hd.fits.fields
        hd.bound (Or.inl hr.types)
        fun f _ declared htype old hold => hserved _ (Fields.mem_of_get? hold) declared htype
      rw [bodies, Noted.journal_bind, Journal.diagnostics_append, hdiagnostics,
        ih (fun e he => hds e (List.mem_cons_of_mem _ he)) (hfields hr.types hserved)]
      rfl

theorem isSome_get?_of_mem_bodies (hr : r.Steady) {target : Descriptor} (htarget : target ∈ r.types)
    {ds : List Definition} (hds : ∀ d ∈ ds, Applicable r target d) {d : Definition} (hd : d ∈ ds)
    {f : StagedField} (hf : f ∈ d.body.fields) (fields : Fields) :
    ((bodies target.shape fields ds).value.get? f.name).isSome = true ∨
      ∃ field, d.type.field? f.name = some field ∧ f.value.Misbound field.type := by
  induction ds generalizing fields with
  | nil => cases hd
  | cons head rest ih =>
      have hhead := hds head List.mem_cons_self
      rcases List.mem_cons.mp hd with rfl | hmem
      · exact (isSome_get?_of_mem_statements hr htarget hhead.fits.registered hhead.derived hhead.fits.fields
          hhead.bound hf fields).imp_left fun hsome => isSome_get?_bodies target.shape hsome rest
      · exact ih (fun e he => hds e (List.mem_cons_of_mem _ he)) hmem _

end Application

namespace Session

open Application

/-! ## Sessions -/

/-- The references of a definition that has a prototype are bound. -/
theorem pendingIds_of_handle {s : Session} {documents : List Document} {preferred : String} {d : Definition}
    {h : Handle} (hd : d ∈ s.bound (s.staged documents preferred)) (hh : d.handle = some h) :
    d.pendingIds = [] := by
  have hfresh := fresh_staged s documents preferred
  obtain ⟨o, ho, _, hprepared⟩ := prepared_of_mem hfresh hd
  have hsome : d.handle.isSome = true := by rw [hh]; rfl
  rw [hprepared.isSome_handle (hfresh o ho), Bool.and_eq_true, Bool.not_eq_true'] at hsome
  exact (hprepared.state_eq hsome.1).2

/-- In a session, what stands on the line of a definition of a batch fits the registry and is bound. -/
theorem applicable_of_mem_line {r : Registry} {s : Session} (hregistry : s.registry = r) (hs : s.Coherent)
    (htable : ∀ d ∈ s.table, d.Fits r) {documents : List Document} {preferred : String} {d : Definition}
    {h : Handle} (hd : d ∈ s.bound (s.staged documents preferred)) (hh : d.handle = some h)
    (hchain : ∀ a ∈ ((s.catalogue (s.staged documents preferred)).lineage d).ancestors,
      d.type.isA a.type.qualified = true) :
    ∀ a ∈ ((s.catalogue (s.staged documents preferred)).lineage d).ancestors.reverse ++ [d],
      Applicable r d.type a := by
  have hfresh := fresh_staged s documents preferred
  have hfits : ∀ a ∈ ((s.catalogue (s.staged documents preferred)).lineage d).ancestors.reverse ++ [d],
      a.Fits r :=
    fits_of_mem_line hfresh (fun o ho => hregistry ▸ (fits_of_mem_staged ho).2) htable hd
  intro a ha
  suffices h : a.pendingIds = [] ∧ d.type.isA a.type.qualified = true from ⟨hfits a ha, h.1, h.2⟩
  rcases List.mem_append.mp ha with hancestor | hself
  · have hmem := List.mem_reverse.mp hancestor
    obtain ⟨id, hfind⟩ := Catalogue.find?_of_mem_ancestors hmem
    exact ⟨pendingIds_of_find? hfresh (fun e he => (hs.catalogued.filed e he).bound) hfind, hchain a hmem⟩
  · rw [List.mem_singleton.mp hself]
    refine ⟨pendingIds_of_handle hd hh, ?_⟩
    rw [TypeHead.isA, beq_self_eq_true, Bool.true_or]

/-- **ONLY MISFITS**: where no type declares an inherited field again with another type and no default is an
    object, and the type of a definition derives from the types of all its ancestors, applying it reports how
    its line ends and its misbound references, and nothing else.  Every field that it or an ancestor states,
    other than by a misbound reference, has a value in the end. -/
theorem misfits_only {declarations : List Descriptor} {converters : ConverterSet} {r : Registry}
    (hr : Registry.ofDeclarations declarations converters = .ok r) (hstable : r.Stable)
    (hplain : r.PlainDefaults) (options : Options) (store : Store) (requests : List Request)
    (documents : List Document) (preferred : String) :
    let s := (start r options store).answerAll requests
    let batch := s.staged documents preferred
    ∀ d ∈ s.bound batch, ∀ h, d.handle = some h →
      (∀ a ∈ ((s.catalogue batch).lineage d).ancestors, d.type.isA a.type.qualified = true) →
      reports (s.catalogue batch) (s.allocatedStore batch) d
          = (((s.catalogue batch).lineage d).report d).journal.diagnostics
            ++ (((s.catalogue batch).lineage d).ancestors.reverse ++ [d]).flatMap
                (fun a => Staged.fieldMisfits a.type a.body.fields) ∧
        ∀ a ∈ ((s.catalogue batch).lineage d).ancestors.reverse ++ [d], ∀ f ∈ a.body.fields,
          (((s.parse documents preferred).2.store.fields h).get? f.name).isSome = true ∨
            ∃ field, a.type.field? f.name = some field ∧ f.value.Misbound field.type := by
  intro s batch d hd h hh hchain
  have hsteady := Registry.steady_of_stable hr hstable hplain
  have hfresh : ∀ e ∈ batch, e.Fresh := fresh_staged s documents preferred
  have hsession : s.registry = r ∧ s.Coherent ∧ ∀ e ∈ s.table, e.Fits r := by
    refine answerAll_induction (motive := fun s => s.registry = r ∧ s.Coherent ∧ ∀ e ∈ s.table, e.Fits r)
      ⟨rfl, coherent_start r options store, fun _ h => by cases h⟩ ?_ requests
    rintro s documents preferred ⟨hregistry, hcoherent, htable⟩
    exact ⟨hregistry, hcoherent.parse documents preferred,
      fits_table_parse hregistry hcoherent htable documents preferred⟩
  obtain ⟨hregistry, hcoherent, htable⟩ := hsession
  have hline := applicable_of_mem_line hregistry hcoherent htable hd hh hchain
  have htype : d.type ∈ r.types :=
    (hline d (List.mem_append_right _ (List.mem_singleton_self d))).fits.registered
  have hshape : h.type = d.type.shape := by
    obtain ⟨o, ho, _, hprepared⟩ := prepared_of_mem hfresh hd
    exact (hprepared.handle_eq (hfresh o ho) hh).2
  constructor
  · rw [reports_some hh, diagnostics_outcome, fields_allocatedStore hfresh hd hh, hshape,
      bodies_accepted hsteady htype hline (hsteady.defaults _ htype)]
  · intro a ha f hf
    rw [store_parse, fields_appliedStore hfresh hd hh, value_outcome, hshape]
    exact isSome_get?_of_mem_bodies hsteady htype hline ha hf _

/-! ### A knight who takes a stone for a friend -/

def gearType : Descriptor :=
  (Descriptor.composite "Gear").declare ⟨"weight", .scalar "int", none⟩

def bladeType : Descriptor :=
  ((Descriptor.composite "Blade").derivedFrom "Gear").declare ⟨"edge", .scalar "string", none⟩

def fighterType : Descriptor :=
  ((Descriptor.prototype "Fighter").declare ⟨"gear", .object "Gear", none⟩).declare
    ⟨"friend", .reference "Fighter", some .null⟩

def knightType : Descriptor :=
  ((Descriptor.prototype "Knight").derivedFrom "Fighter").declare ⟨"rank", .scalar "int", none⟩

def stoneType : Descriptor :=
  Descriptor.prototype "Stone"

def knightRegistry : Registry where
  types := [gearType, Registry.complete bladeType (some gearType), fighterType,
    Registry.complete knightType (some fighterType), stoneType]
  converters := .builtin

/-- The gear of the squire is a blade; the knight says how heavy it is. -/
def knightDocument : Document where
  name := "knights"
  text := "<F Type=\"Fighter\"><Item Id=\"s\"><gear Type=\"Blade\"/></Item>" ++
    "<Item Id=\"k\" Type=\"Knight\" Inherits=\"s\"><gear><weight>3</weight></gear>" ++
    "<friend>t</friend></Item><Item Id=\"t\" Type=\"Stone\"/></F>"

private theorem built_knightRegistry :
    Registry.ofDeclarations [gearType, bladeType, fighterType, knightType, stoneType] .builtin
      = .ok knightRegistry := by
  with_unfolding_all rfl

theorem knight_accepted :
    let s := (start knightRegistry {} .empty).answerAll []
    let batch := s.staged [knightDocument] ""
    ∃ d ∈ s.bound batch, ∃ h, d.id = "k" ∧ d.handle = some h ∧
      ((s.catalogue batch).lineage d).ancestors.length = 1 ∧
      (reports (s.catalogue batch) (s.allocatedStore batch) d).length = 1 ∧
      reports (s.catalogue batch) (s.allocatedStore batch) d
          = (((s.catalogue batch).lineage d).report d).journal.diagnostics
            ++ (((s.catalogue batch).lineage d).ancestors.reverse ++ [d]).flatMap
                (fun a => Staged.fieldMisfits a.type a.body.fields) ∧
        ∀ a ∈ ((s.catalogue batch).lineage d).ancestors.reverse ++ [d], ∀ f ∈ a.body.fields,
          (((s.parse [knightDocument] "").2.store.fields h).get? f.name).isSome = true ∨
            ∃ field, a.type.field? f.name = some field ∧ f.value.Misbound field.type := by
  intro s batch
  have hchecked : ((s.bound batch).any fun d => (d.id == "k" && d.handle.isSome) &&
      (((s.catalogue batch).lineage d).ancestors.all (fun a => d.type.isA a.type.qualified) &&
        (((s.catalogue batch).lineage d).ancestors.length == 1 &&
          (reports (s.catalogue batch) (s.allocatedStore batch) d).length == 1))) = true := by
    decide +kernel
  obtain ⟨d, hd, hchecked⟩ := List.any_eq_true.mp hchecked
  simp only [Bool.and_eq_true, beq_iff_eq, List.all_eq_true] at hchecked
  obtain ⟨⟨hid, hsome⟩, hchain, hancestors, hreports⟩ := hchecked
  obtain ⟨h, hh⟩ := Option.isSome_iff_exists.mp hsome
  exact ⟨d, hd, h, hid, hh, hancestors, hreports,
    misfits_only built_knightRegistry (by decide +kernel) (by decide +kernel) {} .empty []
      [knightDocument] "" d hd h hh hchain⟩

end Session

end Archetype
