import Archetype.Proofs.Acceptance
import Archetype.Proofs.Statements

/-! # Inline objects in defaults

    A default may be an inline object, and then the statements of a definition are applied to that object.
    They were staged for a registered type, but the object brings a type of its own along, as it was when the
    default was declared: without the fields that its registered namesake has from its base, without the
    names of ancestors, and with the names in the types of its fields as they were written.

    So the statements are applied as to any other object if the default was made for that: if each object in
    it that statements reach, through fields for objects and at any depth, has the fields of the registered
    types that it derives from, with their types (`Registry.DefaultsServe`).  Then nothing is refused but misbound references, and what the statements say
    inside a field is what happens to the object in it (`default_objects_served`). -/

namespace Archetype

/-- The statements that a statement makes about the inline object in its field. -/
def StagedField.inside (f : StagedField) : List StagedField :=
  match f.value with
  | .object o => o.fields
  | _ => []

namespace Application

variable {shape : Shape} {fields : Fields} {declared : String}

/-- Statements about a field with an object in it are applied to the object, as long as its type derives from
    the stated ones: what they all say inside of it is one run over its fields. -/
theorem foldl_built_object {r : Registry} (staged : List StagedField)
    (hfits : ∀ f ∈ staged, f.value.Fits r (.object declared))
    (hisA : ∀ f ∈ staged, ∀ o, f.value = .object o → shape.isA o.type.qualified = true) :
    staged.foldl (fun existing f => (built (.object declared) existing f.location f.value).value.or existing)
        (some (.object shape fields))
      = some (.object shape (statements shape fields (staged.flatMap (·.inside))).value) := by
  induction staged generalizing fields with
  | nil => rfl
  | cons f rest ih =>
      obtain ⟨hfit, hfitRest⟩ := List.forall_mem_cons.mp hfits
      obtain ⟨hderives, hderivesRest⟩ := List.forall_mem_cons.mp hisA
      obtain ⟨name, v, location⟩ := f
      cases hfit with
      | @object _ o hmem hstated =>
          obtain ⟨stated, inner, place⟩ := o
          have hstart : startingObject stated (some (.object shape fields)) = (shape, fields) :=
            if_pos (hderives _ rfl)
          rw [List.foldl_cons, List.flatMap_cons, value_statements_append, ← ih hfitRest hderivesRest,
            built_object_fit _ _ hstated, hstart]
          rfl

end Application

namespace Session

open Application

/-- Where a definition inherits nothing, only its own statements are applied. -/
theorem stated_of_root {c : Catalogue} {d : Definition} (h : d.inherits = none) :
    c.stated d = d.body.fields := by
  rw [Catalogue.stated, Catalogue.lineage, Catalogue.follow_root h]
  exact List.append_nil _

/-- **SERVED**: where every inline object in a default has the fields that statements about it are staged for,
    applying a definition that inherits nothing reports its misbound references and nothing else, if it has no
    two statements about one field, or if no type declares an inherited field again with another type.  And
    where a default is an object, and of a type that derives from those stated for it, the field ends with that
    object, after what the statements say inside of it. -/
theorem default_objects_served {declarations : List Descriptor} {converters : ConverterSet} {r : Registry}
    (hr : Registry.ofDeclarations declarations converters = .ok r) (hserve : r.DefaultsServe)
    (options : Options) (store : Store) (requests : List Request) (documents : List Document)
    (preferred : String) :
    let s := (start r options store).answerAll requests
    let batch := s.staged documents preferred
    ∀ d ∈ s.bound batch, ∀ h, d.handle = some h → d.inherits = none →
      (r.Stable ∨ Staged.fieldsUnrepeated d.body.fields = true) →
      reports (s.catalogue batch) (s.allocatedStore batch) d = Staged.fieldMisfits d.type d.body.fields ∧
        ∀ field ∈ d.type.fields, ∀ declared shape fields, field.type = .object declared →
          field.default = some (.object shape fields) →
          (∀ f ∈ d.body.fields, f.name = field.name → ∀ o, f.value = .object o →
            shape.isA o.type.qualified = true) →
          ((s.parse documents preferred).2.store.fields h).get? field.name
            = some (.object shape (statements shape fields
                ((d.body.fields.filter (·.name == field.name)).flatMap (·.inside))).value) := by
  intro s batch d hd h hh hroot honce
  have hregistry : s.registry = r := registry_answerAll r options store requests
  have hfits : d.Fits r :=
    fits_of_mem_bound (fresh_staged s documents preferred)
      (fun o ho => hregistry ▸ (fits_of_mem_staged ho).2) hd
  constructor
  · have hdefaults : ∀ type ∈ r.types, Fields.Served r type.shape type.defaults :=
      fun _ htype => hserve.defaults htype
    have haccepted := statements_accepted hdefaults hfits.registered d.type.knows_shape d.body.fields
      hfits.fields (pendingIds_of_handle hd hh) (honce.imp_left (Registry.typesServe_of_stable hr))
      fun f _ declared htype old hold =>
        hdefaults _ hfits.registered _ (Fields.mem_of_get? hold) declared htype
    rw [reports_eq_statements hd hh, stated_of_root hroot, haccepted.1, Catalogue.lineage,
      Catalogue.follow_root hroot]
    rfl
  · intro field hfield declared shape fields htype hdefault hisA
    have hknown := Registry.field?_of_mem hr hfits.registered hfield
    rw [get?_parse hr hregistry hd hh hknown, stated_of_root hroot, htype, hdefault]
    refine foldl_built_object (r := r) _ (fun f hf => ?_) fun f hf => ?_
    · obtain ⟨hmem, hname⟩ := List.mem_filter.mp hf
      obtain ⟨other, hother, hfit⟩ := hfits.fields f hmem
      rw [beq_iff_eq.mp hname] at hother
      rw [← htype, Option.some.inj (hknown.symm.trans hother)]
      exact hfit
    · obtain ⟨hmem, hname⟩ := List.mem_filter.mp hf
      exact hisA f hmem (beq_iff_eq.mp hname)

/-! ### Lanterns and beacons -/

def flameType : Descriptor :=
  (Descriptor.composite "Flame").declare ⟨"heat", .scalar "int", none⟩

/-- A lantern has a flame from the start. -/
def lanternType : Descriptor :=
  ((Descriptor.composite "Lantern").declare ⟨"flame", .object "Flame", some flameType.construct⟩).declare
    ⟨"bearer", .reference "Watchman", none⟩

/-- A watchman has a lantern from the start. -/
def watchmanType : Descriptor :=
  (Descriptor.prototype "Watchman").declare ⟨"lantern", .object "Lantern", some lanternType.construct⟩

/-- A dog bears the lantern. -/
def watchDocument : Document where
  name := "watch"
  text := "<W Type=\"Watchman\"><Item Id=\"w\"><lantern><flame><heat>9</heat></flame>" ++
    "<bearer>d</bearer></lantern></Item><Item Id=\"d\" Type=\"Dog\"/></W>"

def watchRegistry : Registry :=
  ⟨[flameType, lanternType, watchmanType, Descriptor.prototype "Dog"], .builtin⟩

private theorem built_watchRegistry :
    Registry.ofDeclarations [flameType, lanternType, watchmanType, Descriptor.prototype "Dog"] .builtin
      = .ok watchRegistry := by
  with_unfolding_all rfl

theorem watchman_served :
    let s := (start watchRegistry {} .empty).answerAll []
    let batch := s.staged [watchDocument] ""
    ∃ d ∈ s.bound batch, ∃ h, d.id = "w" ∧ d.handle = some h ∧ d.inherits = none ∧ d.type = watchmanType ∧
      (reports (s.catalogue batch) (s.allocatedStore batch) d).length = 1 ∧
      reports (s.catalogue batch) (s.allocatedStore batch) d = Staged.fieldMisfits d.type d.body.fields ∧
      ((s.parse [watchDocument] "").2.store.fields h).get? "lantern"
        = some (.object lanternType.shape (statements lanternType.shape lanternType.defaults
            ((d.body.fields.filter (·.name == "lantern")).flatMap (·.inside))).value) := by
  intro s batch
  have hchecked : ((s.bound batch).any fun d => (d.id == "w" && (d.handle.isSome && d.inherits.isNone)) &&
      (d.type.qualified == "Watchman" && (d.body.fields.all fun f => match f.value with
        | .object o => lanternType.shape.isA o.type.qualified
        | _ => true)) &&
      (reports (s.catalogue batch) (s.allocatedStore batch) d).length == 1) = true := by
    decide +kernel
  obtain ⟨d, hd, hchecked⟩ := List.any_eq_true.mp hchecked
  simp only [Bool.and_eq_true, beq_iff_eq, Option.isNone_iff_eq_none] at hchecked
  obtain ⟨⟨⟨hid, hsome, hroot⟩, hname, hisA⟩, hreports⟩ := hchecked
  obtain ⟨h, hh⟩ := Option.isSome_iff_exists.mp hsome
  have htype : d.type = watchmanType := by
    have hregistered : d.type ∈ watchRegistry.types :=
      (fits_of_mem_bound (fresh_staged s _ _) (fun _ ho => (fits_of_mem_staged ho).2) hd).registered
    simp only [watchRegistry, List.mem_cons, List.not_mem_nil, or_false] at hregistered
    rcases hregistered with heq | heq | heq | heq
    case inr.inr.inl => exact heq
    all_goals exact absurd (heq ▸ hname) (by decide)
  obtain ⟨hsaid, hkept⟩ := default_objects_served built_watchRegistry (by decide +kernel) {} .empty []
    [watchDocument] "" d hd h hh hroot (Or.inl (by decide +kernel))
  have hfield : ⟨"lantern", .object "Lantern", some lanternType.construct⟩ ∈ d.type.fields := by
    rw [htype]
    exact List.mem_cons_self
  refine ⟨d, hd, h, hid, hh, hroot, htype, hreports, hsaid, hkept _ hfield _ _ _ rfl rfl fun f hf _ o ho => ?_⟩
  simpa only [ho] using List.all_eq_true.mp hisA f hf

/-- A beacon is a flame, and has what a flame has once it is registered. -/
def beaconType : Descriptor :=
  ((Descriptor.composite "Beacon").derivedFrom "Flame").declare ⟨"range", .scalar "int", none⟩

/-- A tower has a beacon from the start. -/
def towerType : Descriptor :=
  (Descriptor.prototype "Tower").declare ⟨"fire", .object "Flame", some beaconType.construct⟩

def towerDocument : Document where
  name := "towers"
  text := "<T Type=\"Tower\"><Item Id=\"t\"><fire Type=\"Beacon\"><heat>3</heat></fire></Item></T>"

/-- The beacon that is a default knows nothing of flames. -/
theorem inherited_field_refused :
    ∃ r, Registry.ofDeclarations [flameType, beaconType, towerType] .builtin = .ok r ∧
      (∃ type ∈ r.types, type.qualified = "Beacon" ∧ type.isPrototype = false ∧ type.isA "Flame" = true) ∧
        let s := (start r {} .empty).answerAll []
        let batch := s.staged [towerDocument] ""
        ∃ d ∈ s.bound batch, d.handle.isSome = true ∧ d.inherits = none ∧
          Staged.fieldMisfits d.type d.body.fields = [] ∧
          (reports (s.catalogue batch) (s.allocatedStore batch) d).map (fun x => (x.kind, x.message))
            = [(.typeMismatchOnApply, "type 'Beacon' has no field 'heat'")] := by
  have hchecked : ((Registry.ofDeclarations [flameType, beaconType, towerType] .builtin).toOption.any fun r =>
      let s := (start r {} .empty).answerAll []
      let batch := s.staged [towerDocument] ""
      decide ((∃ type ∈ r.types,
          type.qualified = "Beacon" ∧ type.isPrototype = false ∧ type.isA "Flame" = true) ∧
        ∃ d ∈ s.bound batch, d.handle.isSome = true ∧ d.inherits = none ∧
          Staged.fieldMisfits d.type d.body.fields = [] ∧
          (reports (s.catalogue batch) (s.allocatedStore batch) d).map (fun x => (x.kind, x.message))
            = [(.typeMismatchOnApply, "type 'Beacon' has no field 'heat'")])) = true := by
    decide +kernel
  obtain ⟨r, hr, hchecked⟩ := (Option.any_eq_true ..).mp hchecked
  exact ⟨r, Registry.eq_ok_of_toOption hr, of_decide_eq_true hchecked⟩

end Session

end Archetype
