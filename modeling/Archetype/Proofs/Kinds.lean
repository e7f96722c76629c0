import Archetype.Proofs.Permutation
import Archetype.Proofs.Typing

/-! # Prototypes and inline objects are of their kinds

    Prototypes are of prototype types, and inline objects of composite ones.  Where a field may hold an inline
    object, the type that it names is composite, which is checked when the registry is built
    (`Registry.composed_of_build`).  But the type that an element chooses in its place need only derive from
    that one, and nothing keeps a prototype type from deriving from a composite type.

    So the kinds are kept with two exceptions, which the registry alone can bring in (`Registry.Excepts`).
    Nothing else that a session does does: the types of items are checked, references are bound to the
    prototypes of items, and whatever else is in a field was said by a statement or is a default
    (`kinds_kept`).  What converters make is not checked at all, so of them it is asked that they return values
    without references and objects (`ConverterSet.Plain`). -/

namespace Archetype

/-! ## Kinds -/

/-- A part of the kind that it should be of: prototypes are of prototype types, inline objects of composite
    ones. -/
def Part.OfKind : Part → Prop
  | .prototype handle => handle.type.isPrototype = true
  | .object type => type.isPrototype = false

namespace Registry

/-- No default of a type holds an inline object, at any depth. -/
def Objectless (r : Registry) : Prop :=
  ∀ type ∈ r.types, ∀ f ∈ type.fields, ∀ v ∈ f.default, v.parts.filterMap Part.object? = []

instance (r : Registry) : Decidable r.Objectless :=
  inferInstanceAs (Decidable (∀ type ∈ r.types, ∀ f ∈ type.fields, ∀ v ∈ f.default,
    v.parts.filterMap Part.object? = []))

/-- The defaults of types refer to prototypes of prototype types. -/
def RefersToPrototypes (r : Registry) : Prop :=
  ∀ type ∈ r.types, ∀ f ∈ type.fields, ∀ v ∈ f.default, ∀ h ∈ v.handles, h.type.isPrototype = true

instance (r : Registry) : Decidable r.RefersToPrototypes :=
  inferInstanceAs (Decidable (∀ type ∈ r.types, ∀ f ∈ type.fields, ∀ v ∈ f.default, ∀ h ∈ v.handles,
    h.type.isPrototype = true))

/-- No prototype type derives from a composite one. -/
def Uncrossed (r : Registry) : Prop :=
  ∀ type ∈ r.types, type.isPrototype = true →
    ∀ base ∈ r.types, type.isA base.qualified = true → base.isPrototype = true

instance (r : Registry) : Decidable r.Uncrossed :=
  inferInstanceAs (Decidable (∀ type ∈ r.types, type.isPrototype = true →
    ∀ base ∈ r.types, type.isA base.qualified = true → base.isPrototype = true))

/-- What the registry lets through: an instance of a prototype type in the place of an object of a composite
    type that it derives from, and the targets of references in defaults, whatever they are. -/
def Excepts (r : Registry) : Part → Prop
  | .prototype handle => ∃ type ∈ r.types, ∃ f ∈ type.fields, ∃ v ∈ f.default, handle ∈ v.handles
  | .object shape => ∃ type ∈ r.types, shape = type.shape ∧ type.isPrototype = true ∧
      ∃ base ∈ r.types, base.isPrototype = false ∧ type.isA base.qualified = true

/-- A part is of its kind, or let through. -/
def Keeps (r : Registry) (x : Part) : Prop :=
  x.OfKind ∨ r.Excepts x

/-- A composite type is registered under a name. -/
def HasComposite (r : Registry) (name : String) : Prop :=
  ∃ base ∈ r.types, base.qualified = name ∧ base.isPrototype = false

/-- The inline objects that the fields of registered types name are of composite types. -/
def ComposedOfComposites (r : Registry) : Prop :=
  ∀ type ∈ r.types, ∀ f ∈ type.fields, ∀ name, f.type.core = .object name → r.HasComposite name

end Registry

section Kinds

variable {r : Registry}

theorem Registry.composed_of_build {d : Draft} (h : d.build.value = .ok r) : r.ComposedOfComposites := by
  intro type htype f hf name hcore
  obtain ⟨base, hbase, hname, hkind⟩ :=
    (Draft.completions_of_build h).exists_target htype hf (Or.inl ⟨hcore, rfl⟩)
  exact ⟨base, hbase, hname, by rw [TypeHead.isPrototype, hkind]; rfl⟩

theorem Registry.Objectless.keeps (h : r.Objectless) (hconverters : r.converters.Plain) :
    r.MadeOf r.Keeps where
  defaults := by
    intro type htype f hf v hv x hx
    cases x with
    | prototype handle =>
        refine Or.inr ⟨type, htype, f, hf, v, hv, ?_⟩
        rw [Value.handles_eq]
        exact List.mem_filterMap.mpr ⟨_, hx, rfl⟩
    | object shape =>
        have hnone : shape ∈ v.parts.filterMap Part.object? := List.mem_filterMap.mpr ⟨_, hx, rfl⟩
        rw [h type htype f hf v hv] at hnone
        cases hnone
  converters := by
    intro c hc text v hv x hx
    rw [hconverters c hc text v hv] at hx
    cases hx

/-- Where nothing is let through, every part is of its kind. -/
theorem Registry.Keeps.ofKind {x : Part} (h : r.Keeps x) (huncrossed : r.Uncrossed)
    (hreferences : r.RefersToPrototypes) : x.OfKind := by
  rcases h with hkind | hexcepts
  · exact hkind
  · cases x with
    | prototype handle =>
        obtain ⟨type, htype, f, hf, v, hv, hmem⟩ := hexcepts
        exact hreferences type htype f hf v hv handle hmem
    | object shape =>
        obtain ⟨type, htype, -, hprototype, base, hbase, hkind, hisA⟩ := hexcepts
        exact absurd (huncrossed type htype hprototype base hbase hisA) (Bool.eq_false_iff.mp hkind)

/-- The type that is stated for an inline object is of a kind that the registry keeps. -/
theorem Registry.keeps_stated (name : String) (hname : r.HasComposite name) (stated : Descriptor)
    (hmem : stated ∈ r.types) (hisA : stated.isA name = true) : r.Keeps (.object stated.shape) := by
  obtain ⟨base, hbase, rfl, hkind⟩ := hname
  cases hprototype : stated.isPrototype with
  | false => exact Or.inl hprototype
  | true => exact Or.inr ⟨stated, hmem, rfl, hprototype, base, hbase, hkind, hisA⟩

/-- The items of a document make definitions of prototype types. -/
theorem Staging.isPrototype_of_mem_document {s : Staging} {root : Markup.Element} {d : Definition}
    (h : d ∈ (s.document root).value) : d.type.isPrototype = true := by
  rw [value_document] at h
  cases settles_containerType? (s := s) root with
  | refused x hvalue =>
      rw [hvalue] at h
      cases h
  | staged container hvalue hopens =>
      rw [hvalue] at h
      obtain ⟨⟨name, -, hfind, hprototype⟩, -⟩ := hopens
      obtain ⟨e, -, hitem⟩ := of_mem_items h
      cases settles_item? container e with
      | refused x hnone =>
          rw [hnone] at hitem
          cases hitem
      | staged found hfound hyields =>
          rw [← Option.some.inj (hfound.symm.trans hitem)]
          exact (hyields.1.named.registered (Registry.mem_types_of_find? hfind) hprototype).2

end Kinds

namespace Session

open Application

/-! ## Histories -/

/-- What every request keeps: prototypes are of prototype types, and made of what the registry keeps. -/
structure Kept (r : Registry) (s : Session) : Prop where
  registry : s.registry = r
  coherent : s.Coherent
  fits : ∀ d ∈ s.table, d.Fits r
  targets : ∀ d ∈ s.table, ∀ h ∈ Staged.fieldTargets d.body.fields, h ∈ s.prototypes
  prototypes : ∀ h ∈ s.prototypes, h.type.isPrototype = true ∧ (s.store.fields h).MadeOf r.Keeps

theorem kept_start (r : Registry) (options : Options) (store : Store) : (start r options store).Kept r where
  registry := rfl
  coherent := coherent_start r options store
  fits := fun _ h => nomatch h
  targets := fun _ h => nomatch h
  prototypes := fun _ h => nomatch h

section Batch

variable {r : Registry} {s : Session} {documents : List Document} {preferred : String}

/-- A new prototype is of a prototype type. -/
theorem isPrototype_of_mem_created {h : Handle} (hh : h ∈ s.created (s.staged documents preferred)) :
    h.type.isPrototype = true := by
  have hfresh := fresh_staged s documents preferred
  obtain ⟨e, he, hshape, -⟩ := fields_of_mem_created hfresh hh
  obtain ⟨d, hd, _, hprepared⟩ := prepared_of_mem hfresh he
  obtain ⟨staging, -, root, hdocument⟩ := exists_of_mem_stageAll hd
  have htype : e.type = d.type := by
    cases hprepared <;> rfl
  rw [hshape, htype]
  exact Staging.isPrototype_of_mem_document hdocument

/-- A new prototype is made of what the registry keeps. -/
theorem Kept.created (hs : s.Kept r) (hcomposed : r.ComposedOfComposites) (hregistry : r.MadeOf r.Keeps)
    {h : Handle} (hh : h ∈ s.created (s.staged documents preferred)) :
    ((s.appliedStore (s.staged documents preferred)).fields h).MadeOf r.Keeps := by
  have hfresh := fresh_staged s documents preferred
  have hfits : ∀ d ∈ s.staged documents preferred, d.Fits r := fun d hd =>
    hs.registry ▸ (fits_of_mem_staged hd).2
  obtain ⟨e, he, -, hfields⟩ := fields_of_mem_created hfresh hh
  have hline := fits_of_mem_line hfresh hfits hs.fits he
  rw [hfields]
  refine madeOf_bodies hregistry hline (fun a ha => ?_)
    (hregistry.fresh (fits_of_mem_bound hfresh hfits he).registered)
  refine Staged.fieldsMadeOf_of_fits hcomposed Registry.keeps_stated a.type _ (hline a ha).registered
    (hline a ha).fields fun k hk => Or.inl ?_
  -- what is referred to was there before the batch, or is new
  rcases List.mem_append.mp (targets_of_mem_line hs.targets he ha k hk) with hold | hnew
  · exact (hs.prototypes k hold).1
  · exact isPrototype_of_mem_created hnew

theorem Kept.parse (hs : s.Kept r) (hcomposed : r.ComposedOfComposites) (hregistry : r.MadeOf r.Keeps)
    (documents : List Document) (preferred : String) : (s.parse documents preferred).2.Kept r where
  registry := by rw [registry_parse, hs.registry]
  coherent := hs.coherent.parse documents preferred
  fits := fits_table_parse hs.registry hs.coherent hs.fits documents preferred
  targets := targets_table_parse hs.coherent hs.targets documents preferred
  prototypes := by
    intro h hh
    rw [prototypes_parse] at hh
    rw [store_parse]
    rcases List.mem_append.mp hh with hold | hnew
    · -- earlier prototypes are not written to
      rw [fields_appliedStore_of_lt (fresh_staged s documents preferred) (hs.coherent.inUse h hold)]
      exact hs.prototypes h hold
    · exact ⟨isPrototype_of_mem_created hnew, hs.created hcomposed hregistry hnew⟩

end Batch

/-- **KINDS**: where no default holds an inline object, and converters return values without references and
    objects, every prototype is of a prototype type after every history, and its fields refer to prototypes of
    such types and hold inline objects of composite ones, at any depth, apart from what the registry lets
    through.  It lets nothing through if none of its prototype types derives from a composite one, and its
    defaults refer to prototypes of prototype types. -/
theorem kinds_kept {d : Draft} {r : Registry} (hbuilt : d.build.value = .ok r) (hobjects : r.Objectless)
    (hconverters : r.converters.Plain) (options : Options) (store : Store) (requests : List Request) :
    let s := (start r options store).answerAll requests
    ∀ h ∈ s.prototypes, h.type.isPrototype = true ∧ (s.store.fields h).MadeOf r.Keeps ∧
      (r.Uncrossed → r.RefersToPrototypes → (s.store.fields h).MadeOf Part.OfKind) := by
  have hkept : ((start r options store).answerAll requests).Kept r :=
    answerAll_induction (kept_start r options store)
      (fun _ documents preferred hs =>
        hs.parse (Registry.composed_of_build hbuilt) (hobjects.keeps hconverters) documents preferred)
      requests
  intro s h hh
  obtain ⟨hprototype, hparts⟩ := hkept.prototypes h hh
  exact ⟨hprototype, hparts, fun huncrossed hreferences x hx =>
    (hparts x hx).ofKind huncrossed hreferences⟩

/-! ### Riders -/

/-- Horses are a part of their riders. -/
def horseType : Descriptor :=
  ((Descriptor.composite "Horse").declare ⟨"foals", .collection .list (.object "Horse"), none⟩).declare
    ⟨"coat", .scalar "Coat", none⟩

/-- The coats that horses have. -/
def coats : Converter :=
  .enumeration "Coat" ["bay", "dun"]

def riderType : Descriptor :=
  ((Descriptor.prototype "Rider").declare ⟨"horse", .object "Horse", none⟩).declare
    ⟨"guide", .reference "Rider", none⟩

/-- A centaur is a horse, and no part of anything. -/
def centaurType : Descriptor :=
  (Descriptor.prototype "Centaur").derivedFrom "Horse"

def ridersDraft : Draft where
  declarations := [horseType, riderType]
  converters := some (ConverterSet.builtin.insert coats)

def centaursDraft : Draft where
  declarations := [horseType, riderType, centaurType]

def ridersDocument : Document where
  name := "riders"
  text := "<R Type=\"Rider\"><Item Id=\"a\"><horse><foals><li><coat>dun</coat></li></foals></horse>" ++
    "<guide>b</guide></Item><Item Id=\"b\"/></R>"

def centaursDocument : Document where
  name := "centaurs"
  text := "<R Type=\"Rider\"><Item Id=\"a\"><horse Type=\"Centaur\"/></Item></R>"

/-- The type of a part, and whether it is that of a prototype. -/
def told : Part → String × Bool
  | .prototype handle => (handle.type.qualified, true)
  | .object type => (type.qualified, false)

theorem riders_kept :
    ∃ r, ridersDraft.build.value = .ok r ∧ r.Objectless ∧ r.converters.Plain ∧ r.Uncrossed ∧
      r.RefersToPrototypes ∧
        let s := (start r {} .empty).answerAll [.document ridersDocument ""]
        s.prototypes.map (fun h => (Value.fieldParts (s.store.fields h)).map told)
            = [[("Rider", true), ("Horse", false), ("Horse", false)], []] ∧
          ∀ h ∈ s.prototypes, h.type.isPrototype = true ∧ (s.store.fields h).MadeOf r.Keeps ∧
            (r.Uncrossed → r.RefersToPrototypes → (s.store.fields h).MadeOf Part.OfKind) := by
  have hchecked : (ridersDraft.build.value.toOption.any fun r =>
      let s := (start r {} .empty).answerAll [.document ridersDocument ""]
      decide (r.Objectless ∧ r.Uncrossed ∧ r.RefersToPrototypes ∧
        s.prototypes.map (fun h => (Value.fieldParts (s.store.fields h)).map told)
          = [[("Rider", true), ("Horse", false), ("Horse", false)], []])) = true := by
    decide +kernel
  obtain ⟨r, hr, hchecked⟩ := (Option.any_eq_true ..).mp hchecked
  obtain ⟨hobjects, huncrossed, hreferences, hparts⟩ := of_decide_eq_true hchecked
  have hbuilt := Registry.eq_ok_of_toOption hr
  have hconverters : r.converters.Plain := by
    rw [Draft.converters_of_build hbuilt]
    exact ConverterSet.plain_builtin.insert (Converter.plain_enumeration "Coat" ["bay", "dun"])
  exact ⟨r, hbuilt, hobjects, hconverters, huncrossed, hreferences, hparts,
    kinds_kept hbuilt hobjects hconverters {} .empty _⟩

/-- An element may choose a prototype type for an inline object, and nothing is said about it. -/
theorem centaur_ridden :
    ∃ r, centaursDraft.build.value = .ok r ∧ r.Objectless ∧ r.converters.Plain ∧
      r.RefersToPrototypes ∧
        let s := (start r {} .empty).answerAll [.document centaursDocument ""]
        s.diagnostics = [] ∧ ∃ h ∈ s.prototypes, ∃ shape : Shape,
          .object shape ∈ Value.fieldParts (s.store.fields h) ∧ shape.isPrototype = true := by
  have hchecked : (centaursDraft.build.value.toOption.any fun r =>
      let s := (start r {} .empty).answerAll [.document centaursDocument ""]
      decide (r.Objectless ∧ r.RefersToPrototypes ∧ s.diagnostics = [] ∧
        ∃ h ∈ s.prototypes, ∃ x ∈ (Value.fieldParts (s.store.fields h)).filterMap Part.object?,
          x.isPrototype = true)) = true := by
    decide +kernel
  obtain ⟨r, hr, hchecked⟩ := (Option.any_eq_true ..).mp hchecked
  obtain ⟨hobjects, hreferences, hquiet, h, hh, shape, hshape, hprototype⟩ := of_decide_eq_true hchecked
  obtain ⟨x, hx, hobject⟩ := List.mem_filterMap.mp hshape
  have hbuilt := Registry.eq_ok_of_toOption hr
  have hconverters : r.converters.Plain := by
    rw [Draft.converters_of_build hbuilt]
    exact ConverterSet.plain_builtin
  refine ⟨r, hbuilt, hobjects, hconverters, hreferences, hquiet, h, hh, shape, ?_, hprototype⟩
  cases x with
  | prototype handle => cases hobject
  | object type =>
      cases hobject
      exact hx

end Session

end Archetype
