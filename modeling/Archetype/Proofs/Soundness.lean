import Archetype.Proofs.Conformity
import Archetype.Proofs.Consistency
import Archetype.Proofs.Flattening

/-! # What prototypes hold, they may hold

    Type soundness of whole sessions: after every history, the fields of every prototype conform to its
    type.  Staged definitions fit the registry, and still do when they are bound and filed; a prototype
    starts with defaults that conform, and every definition that is applied to it, its own or an ancestor of
    whatever type and from whichever batch, keeps its fields conforming.  Prototypes of earlier batches are
    not written to. -/

namespace Archetype

/-! ## Binding keeps what fits -/

namespace Binding

variable {r : Registry}

mutual

/-- A value fits the same type after its references are bound. -/
theorem fits_value (b : Binding) (location : Location) :
    ∀ (v : Staged) (type : FieldType), v.Fits r type → (b.value location v).value.Fits r type
  | .scalar _ _, _, h => h
  | .object ⟨type, fields, place⟩, _, h => by
      have hfields := fits_fields b type fields
      cases h with
      | object hmem hisA hconcrete hdeclared hfits =>
          exact .ofObject hmem hisA hconcrete
            (hfields (Staged.Fits.object hmem hisA hconcrete hdeclared hfits).allFit)
  | .collection kind action elements, _, h => by
      have helements := fits_elements b location elements
      cases h with
      | collection hfits => exact .collection (helements _ hfits)
  | .pending id, _, h => by
      cases h
      exact .bound
  | .bound _ _, _, h => h

theorem fits_fields (b : Binding) (type : Descriptor) : ∀ fields : List StagedField,
    StagedField.AllFit r type fields → StagedField.AllFit r type (b.fields fields).value
  | [], _ => fun f hf => nomatch hf
  | ⟨name, v, location⟩ :: rest, h => by
      intro f hf
      rcases List.mem_cons.mp hf with rfl | hmem
      · obtain ⟨field, hfield, hfits⟩ := h _ List.mem_cons_self
        exact ⟨field, hfield, fits_value b location v field.type hfits⟩
      · exact fits_fields b type rest (fun g hg => h g (List.mem_cons_of_mem _ hg)) f hmem

theorem fits_elements (b : Binding) (location : Location) :
    ∀ (elements : List Staged) (element : FieldType), (∀ v ∈ elements, v.Fits r element) →
      ∀ v ∈ (b.elements location elements).value, v.Fits r element
  | [], _, _ => fun v hv => nomatch hv
  | v :: rest, element, h => by
      intro w hw
      rcases List.mem_cons.mp hw with rfl | hmem
      · exact fits_value b location v element (h v List.mem_cons_self)
      · exact fits_elements b location rest element (fun x hx => h x (List.mem_cons_of_mem _ hx)) w hmem

end

end Binding

/-! ## Defaults -/

/-- Every declared default may stand in its field.  Inline objects in defaults are of registered types, or
    of `foreign` ones. -/
def Registry.DefaultsHold (r : Registry) (foreign : List Descriptor) : Prop :=
  ∀ type ∈ r.types, ∀ f ∈ type.fields, ∀ v, f.default = some v →
    Holds r.converters (r.types ++ foreign) f v

theorem Registry.grounded_of_defaultsHold {declarations foreign : List Descriptor}
    {converters : ConverterSet} {r : Registry} (h : ofDeclarations declarations converters = .ok r)
    (hdefaults : r.DefaultsHold foreign) : r.Grounded (r.types ++ foreign) where
  registered := fun _ hmem => List.mem_append_left _ hmem
  defaults := fun type hmem =>
    .defaults (fun _ hf => field?_of_mem h hmem hf) (hdefaults type hmem)

namespace Session

open Application

/-! ## One batch -/

section Batch

variable {r : Registry} {types : List Descriptor} {s : Session} {batch : List Definition}

theorem Prepared.fits {b : Binding} {cyclic : Bool} {d e : Definition} (h : Prepared b cyclic d e)
    (hd : d.Fits r) : e.Fits r := by
  cases h with
  | excluded => exact ⟨hd.registered, hd.fields⟩
  | abstract => exact ⟨hd.registered, b.fits_fields _ _ hd.fields⟩
  | concrete => exact ⟨hd.registered, b.fits_fields _ _ hd.fields⟩

theorem fits_of_mem_bound (hfresh : ∀ d ∈ batch, d.Fresh) (hfits : ∀ d ∈ batch, d.Fits r)
    {e : Definition} (he : e ∈ s.bound batch) : e.Fits r := by
  obtain ⟨d, hd, _, hprepared⟩ := prepared_of_mem hfresh he
  exact hprepared.fits (hfits d hd)

theorem fits_finish {e : Definition} (he : e.Fits r) : (finish e).Fits r := by
  rw [finish]
  split
  · exact ⟨he.registered, he.fields⟩
  · exact he

/-- Filed definitions fit the registry after a batch if they did before it. -/
theorem fits_table_parse (hregistry : s.registry = r) (hs : s.Coherent) (htable : ∀ d ∈ s.table, d.Fits r)
    (documents : List Document) (preferred : String) :
    ∀ d ∈ (s.parse documents preferred).2.table, d.Fits r := by
  intro d hd
  rw [table_parse] at hd
  rcases mem_fileAll hs.catalogued.ids hd with hnew | hold
  · obtain ⟨e, he, rfl⟩ := List.mem_map.mp hnew
    refine fits_finish (fits_of_mem_bound (fresh_staged s documents preferred) ?_ he)
    exact fun o ho => hregistry ▸ (fits_of_mem_staged ho).2
  · exact htable d hold

/-- What stands on the line of a definition of a batch is of the batch, or was filed after an earlier one. -/
theorem mem_bound_or_table_of_mem_line {e : Definition} (he : e ∈ s.bound batch) {a : Definition}
    (ha : a ∈ ((s.catalogue batch).lineage e).ancestors.reverse ++ [e]) :
    a ∈ s.bound batch ∨ a ∈ s.table := by
  rcases List.mem_append.mp ha with hancestor | hself
  · obtain ⟨id, hfind⟩ := Catalogue.find?_of_mem_ancestors (List.mem_reverse.mp hancestor)
    exact (Catalogue.of_find? hfind).2.imp_left And.left
  · rw [List.mem_singleton.mp hself]
    exact Or.inl he

theorem fits_of_mem_line (hfresh : ∀ d ∈ batch, d.Fresh) (hfits : ∀ d ∈ batch, d.Fits r)
    (htable : ∀ d ∈ s.table, d.Fits r) {e : Definition} (he : e ∈ s.bound batch) :
    ∀ a ∈ ((s.catalogue batch).lineage e).ancestors.reverse ++ [e], a.Fits r := by
  intro a ha
  rcases mem_bound_or_table_of_mem_line he ha with hbatch | hfiled
  · exact fits_of_mem_bound hfresh hfits hbatch
  · exact htable a hfiled

/-- A new prototype is that of a definition of the batch, and its fields are what the line of the definition
    makes of the defaults. -/
theorem fields_of_mem_created (hfresh : ∀ d ∈ batch, d.Fresh) {h : Handle} (hh : h ∈ s.created batch) :
    ∃ e ∈ s.bound batch, h.type = e.type.shape ∧
      (s.appliedStore batch).fields h = (bodies e.type.shape e.type.defaults
        (((s.catalogue batch).lineage e).ancestors.reverse ++ [e])).value := by
  rw [created_eq hfresh] at hh
  obtain ⟨e, he, hhandle⟩ := List.mem_filterMap.mp hh
  obtain ⟨d, hd, _, hprepared⟩ := prepared_of_mem hfresh he
  have hshape : h.type = e.type.shape := (hprepared.handle_eq (hfresh d hd) hhandle).2
  refine ⟨e, he, hshape, ?_⟩
  rw [fields_appliedStore hfresh he hhandle, value_outcome, hshape]

/-- A new prototype has a registered type, and its fields conform to that. -/
theorem created_conforms (hr : r.Grounded types) (hfresh : ∀ d ∈ batch, d.Fresh)
    (hfits : ∀ d ∈ batch, d.Fits r) (htable : ∀ d ∈ s.table, d.Fits r) {h : Handle}
    (hh : h ∈ s.created batch) :
    ∃ type ∈ r.types, h.type = type.shape ∧
      FieldsConform r.converters types type ((s.appliedStore batch).fields h) := by
  obtain ⟨e, he, hshape, hfields⟩ := fields_of_mem_created hfresh hh
  have hfit : e.Fits r := fits_of_mem_bound hfresh hfits he
  refine ⟨e.type, hfit.registered, hshape, ?_⟩
  rw [hfields]
  exact bodies_conforms hr (hr.registered _ hfit.registered) (fits_of_mem_line hfresh hfits htable he)
    (hr.defaults _ hfit.registered)

end Batch

/-! ## Histories -/

/-- What every request keeps: filed definitions fit the registry, and the prototypes have registered types
    that their fields conform to. -/
structure Sound (r : Registry) (types : List Descriptor) (s : Session) : Prop where
  registry : s.registry = r
  coherent : s.Coherent
  table : ∀ d ∈ s.table, d.Fits r
  prototypes : ∀ h ∈ s.prototypes, ∃ type ∈ r.types, h.type = type.shape ∧
    FieldsConform r.converters types type (s.store.fields h)

theorem sound_start (r : Registry) (types : List Descriptor) (options : Options) (store : Store) :
    (start r options store).Sound r types where
  registry := rfl
  coherent := coherent_start r options store
  table := fun _ h => nomatch h
  prototypes := fun _ h => nomatch h

theorem Sound.parse {r : Registry} {types : List Descriptor} (hr : r.Grounded types) {s : Session}
    (hs : s.Sound r types) (documents : List Document) (preferred : String) :
    (s.parse documents preferred).2.Sound r types := by
  have hfresh := fresh_staged s documents preferred
  have hfits : ∀ d ∈ s.staged documents preferred, d.Fits r := fun d hd =>
    hs.registry ▸ (fits_of_mem_staged hd).2
  refine ⟨?_, hs.coherent.parse documents preferred, ?_, ?_⟩
  · rw [registry_parse, hs.registry]
  · exact fits_table_parse hs.registry hs.coherent hs.table documents preferred
  · intro h hh
    rw [prototypes_parse] at hh
    rw [store_parse]
    rcases List.mem_append.mp hh with hold | hnew
    · -- earlier prototypes are not written to
      rw [fields_appliedStore_of_lt hfresh (hs.coherent.inUse h hold)]
      exact hs.prototypes h hold
    · exact created_conforms hr hfresh hfits hs.table hnew

/-- **SOUND**: where declared defaults may stand in their fields, every prototype that requests lead to has
    a registered type, and its fields conform to that type. -/
theorem fields_conform_answerAll {declarations : List Descriptor} {converters : ConverterSet}
    {r : Registry} (hr : Registry.ofDeclarations declarations converters = .ok r)
    (foreign : List Descriptor) (hdefaults : r.DefaultsHold foreign) (options : Options) (store : Store)
    (requests : List Request) :
    ∀ h ∈ ((start r options store).answerAll requests).prototypes,
      ∃ type ∈ r.types, h.type = type.shape ∧
        FieldsConform r.converters (r.types ++ foreign) type
          (((start r options store).answerAll requests).store.fields h) := by
  have hgrounded := Registry.grounded_of_defaultsHold hr hdefaults
  have hsound : ((start r options store).answerAll requests).Sound r (r.types ++ foreign) :=
    answerAll_induction (sound_start r _ options store)
      (fun _ documents preferred hs => hs.parse hgrounded documents preferred) requests
  exact hsound.prototypes

/-! ### A soldier with a weapon -/

/-- The default is no number, and may stand there only because it is the default. -/
def weaponType : Descriptor :=
  (Descriptor.composite "Weapon").declare ⟨"damage", .scalar "int", some .null⟩

def soldierType : Descriptor :=
  (((Descriptor.prototype "Soldier").declare
      ⟨"weapon", .object "Weapon", some weaponType.construct⟩).declare
      ⟨"tags", .collection .set (.scalar "string"), some (.list [.text "a"])⟩).declare
      ⟨"ally", .reference "Soldier", some .null⟩

def soldierRegistry : Registry :=
  ⟨[weaponType, soldierType], .builtin⟩

def soldierDocument : Document where
  name := "soldiers"
  text := "<S Type=\"Soldier\"><Item Id=\"x\"><tags OverrideAction=\"Combine\"><li>a</li></tags>" ++
    "<weapon><damage>3</damage></weapon><ally>x</ally></Item></S>"

private theorem built_soldierRegistry :
    Registry.ofDeclarations [weaponType, soldierType] .builtin = .ok soldierRegistry := by
  with_unfolding_all rfl

private theorem defaultsHold_soldierRegistry : soldierRegistry.DefaultsHold [] := by
  have hweapon : FieldsConform soldierRegistry.converters (soldierRegistry.types ++ []) weaponType
      weaponType.defaults := by
    intro entry hentry
    rw [List.mem_singleton.mp hentry]
    exact ⟨_, rfl, .default rfl rfl⟩
  intro type htype f hf v hv
  rcases List.mem_pair.mp htype with rfl | rfl
  · rw [List.mem_singleton.mp hf] at hv ⊢
    exact .default rfl hv
  · rcases List.mem_cons.mp hf with rfl | hf
    · rw [← Option.some.inj hv]
      exact .conforms (.ofObject List.mem_cons_self rfl rfl hweapon)
    · rcases List.mem_pair.mp hf with rfl | rfl
      · rw [← Option.some.inj hv]
        refine .conforms (.collection ?_ fun _ => List.pairwise_singleton ..)
        intro w hw
        rw [List.mem_singleton.mp hw]
        exact @Conforms.scalar _ _ "string" .text "a" _ rfl rfl
      · rw [← Option.some.inj hv]
        exact .conforms .null

theorem soldier_conforms :
    ((start soldierRegistry {} .empty).answerAll [.document soldierDocument ""]).prototypes.length = 1 ∧
      ∀ h ∈ ((start soldierRegistry {} .empty).answerAll [.document soldierDocument ""]).prototypes,
        ∃ type ∈ soldierRegistry.types, h.type = type.shape ∧
          FieldsConform soldierRegistry.converters (soldierRegistry.types ++ []) type
            (((start soldierRegistry {} .empty).answerAll [.document soldierDocument ""]).store.fields h) :=
  ⟨by decide +kernel,
    fields_conform_answerAll built_soldierRegistry [] defaultsHold_soldierRegistry {} .empty
      [.document soldierDocument ""]⟩

end Session

end Archetype
