import Archetype.Proofs.Binding
import Archetype.Proofs.Conformity
import Archetype.Proofs.Lineage

/-! # Other prototypes of the same names

    Nothing that is done with a prototype depends on its address: values are compared and checked by the ids
    and types of the prototypes in them.  So where each prototype is replaced by one of the same id and type
    (`Renaming`), in fields, in statements and in the definitions of a catalogue, applying makes the same
    fields with the same replacements, and reports the same.

    A value is as it was where the prototypes in it are not replaced.  That is asked of what a registry brings
    in: of the defaults of its types, and of what its converters make, which is why scalars in statements are
    left alone. -/

namespace Archetype

/-! ## Values -/

namespace Value

mutual

/-- A value with `ρ h` for every prototype `h`. -/
def rename (ρ : Handle → Handle) : Value → Value
  | null => null
  | bool b => bool b
  | int n => int n
  | float x => float x
  | text s => text s
  | variant s => variant s
  | object type fields => object type (renameFields ρ fields)
  | reference target => reference (ρ target)
  | list items => list (renameItems ρ items)

/-- `rename` on fields. -/
def renameFields (ρ : Handle → Handle) : List (String × Value) → List (String × Value)
  | [] => []
  | (name, v) :: rest => (name, rename ρ v) :: renameFields ρ rest

/-- `rename` on items. -/
def renameItems (ρ : Handle → Handle) : List Value → List Value
  | [] => []
  | v :: rest => rename ρ v :: renameItems ρ rest

end

mutual

/-- The prototypes in a value, at any depth. -/
def handles : Value → List Handle
  | null => []
  | bool _ => []
  | int _ => []
  | float _ => []
  | text _ => []
  | variant _ => []
  | object _ fields => fieldHandles fields
  | reference target => [target]
  | list items => itemHandles items

/-- `handles` of fields. -/
def fieldHandles : List (String × Value) → List Handle
  | [] => []
  | (_, v) :: rest => handles v ++ fieldHandles rest

/-- `handles` of items. -/
def itemHandles : List Value → List Handle
  | [] => []
  | v :: rest => handles v ++ itemHandles rest

end

variable {ρ : Handle → Handle}

mutual

/-- A value in which no prototype is replaced is as it was. -/
theorem rename_eq_self : ∀ v : Value, (∀ h ∈ v.handles, ρ h = h) → v.rename ρ = v
  | .null, _ | .bool _, _ | .int _, _ | .float _, _ | .text _, _ | .variant _, _ => rfl
  | .object type fields, h => congrArg (object type) (renameFields_eq_self fields h)
  | .reference target, h => congrArg reference (h target (List.mem_singleton_self target))
  | .list items, h => congrArg list (renameItems_eq_self items h)

theorem renameFields_eq_self : ∀ fields : List (String × Value),
    (∀ h ∈ fieldHandles fields, ρ h = h) → renameFields ρ fields = fields
  | [], _ => rfl
  | (name, v) :: rest, h => by
      rw [renameFields, rename_eq_self v fun k hk => h k (List.mem_append_left _ hk),
        renameFields_eq_self rest fun k hk => h k (List.mem_append_right _ hk)]

theorem renameItems_eq_self : ∀ items : List Value,
    (∀ h ∈ itemHandles items, ρ h = h) → renameItems ρ items = items
  | [], _ => rfl
  | v :: rest, h => by
      rw [renameItems, rename_eq_self v fun k hk => h k (List.mem_append_left _ hk),
        renameItems_eq_self rest fun k hk => h k (List.mem_append_right _ hk)]

end

mutual

/-- Values are compared by ids: the prototypes on one side may be replaced by others of the same ids. -/
theorem same_rename_left (hid : ∀ h, (ρ h).id = h.id) :
    ∀ v w : Value, same (v.rename ρ) w = same v w
  | .null, w | .bool _, w | .int _, w | .float _, w | .text _, w | .variant _, w => by
      cases w <;> simp only [rename, same]
  | .object s fs, w => by
      cases w with
      | object t gs => rw [rename, same, same, sameFields_rename_left hid fs gs]
      | _ => simp only [rename, same]
  | .reference h, w => by
      cases w with
      | reference k => rw [rename, same, same, hid]
      | _ => simp only [rename, same]
  | .list xs, w => by
      cases w with
      | list ys => rw [rename, same, same, sameItems_rename_left hid xs ys]
      | _ => simp only [rename, same]

theorem sameFields_rename_left (hid : ∀ h, (ρ h).id = h.id) : ∀ fs gs : List (String × Value),
    sameFields (renameFields ρ fs) gs = sameFields fs gs
  | [], [] => rfl
  | [], _ :: _ => rfl
  | _ :: _, [] => rfl
  | (n, v) :: fs, (m, w) :: gs => by
      rw [renameFields, sameFields, sameFields, same_rename_left hid v w, sameFields_rename_left hid fs gs]

theorem sameItems_rename_left (hid : ∀ h, (ρ h).id = h.id) : ∀ xs ys : List Value,
    sameItems (renameItems ρ xs) ys = sameItems xs ys
  | [], [] => rfl
  | [], _ :: _ => rfl
  | _ :: _, [] => rfl
  | v :: xs, w :: ys => by
      rw [renameItems, sameItems, sameItems, same_rename_left hid v w, sameItems_rename_left hid xs ys]

end

theorem same_rename (hid : ∀ h, (ρ h).id = h.id) (v w : Value) :
    same (v.rename ρ) (w.rename ρ) = same v w := by
  rw [same_rename_left hid, same_symm, same_rename_left hid, same_symm]

theorem renameItems_eq_map (ρ : Handle → Handle) (items : List Value) :
    renameItems ρ items = items.map (rename ρ) := by
  induction items with
  | nil => rfl
  | cons v rest ih => rw [renameItems, ih, List.map_cons]

end Value

namespace Fields

open Value

variable {ρ : Handle → Handle}

theorem get?_rename (fields : Fields) (name : String) :
    get? (renameFields ρ fields) name = (fields.get? name).map (rename ρ) := by
  induction fields with
  | nil => rfl
  | cons entry rest ih =>
      obtain ⟨other, v⟩ := entry
      rw [renameFields, get?_cons, get?_cons, ih]
      split <;> rfl

theorem replace_rename (fields : Fields) (name : String) (v : Value) :
    renameFields ρ (fields.replace name v) = replace (renameFields ρ fields) name (v.rename ρ) := by
  induction fields with
  | nil => rfl
  | cons entry rest ih =>
      obtain ⟨other, old⟩ := entry
      rw [replace, renameFields, replace]
      split
      · rfl
      · rw [renameFields, ih]

theorem insert_rename (fields : Fields) (name : String) (v : Value) :
    renameFields ρ (fields.insert name v) = insert (renameFields ρ fields) name (v.rename ρ) := by
  induction fields with
  | nil => rfl
  | cons entry rest ih =>
      obtain ⟨other, old⟩ := entry
      rw [insert, renameFields, insert]
      split
      · rfl
      · rw [renameFields, ih]

theorem set_rename (fields : Fields) (name : String) (v : Value) :
    renameFields ρ (fields.set name v) = set (renameFields ρ fields) name (v.rename ρ) := by
  rw [set, set, get?_rename, Option.isSome_map]
  split
  · exact replace_rename fields name v
  · exact insert_rename fields name v

end Fields

/-! ## Statements and definitions -/

namespace Staged

mutual

/-- A staged value with `ρ h` for every prototype `h` that a reference is bound to. -/
def rename (ρ : Handle → Handle) : Staged → Staged
  | scalar converter v => scalar converter v
  | object ⟨type, fields, location⟩ => object ⟨type, renameFields ρ fields, location⟩
  | collection kind action elements => collection kind action (renameElements ρ elements)
  | pending id => pending id
  | bound id target => bound id (target.map ρ)

/-- `rename` on statements. -/
def renameFields (ρ : Handle → Handle) : List StagedField → List StagedField
  | [] => []
  | ⟨name, v, location⟩ :: rest => ⟨name, rename ρ v, location⟩ :: renameFields ρ rest

/-- `rename` on elements. -/
def renameElements (ρ : Handle → Handle) : List Staged → List Staged
  | [] => []
  | v :: rest => rename ρ v :: renameElements ρ rest

end

mutual

/-- The prototypes that references in a value are bound to, at any depth. -/
def targets : Staged → List Handle
  | scalar _ _ => []
  | object ⟨_, fields, _⟩ => fieldTargets fields
  | collection _ _ elements => elementTargets elements
  | pending _ => []
  | bound _ target => target.toList

/-- `targets` of statements. -/
def fieldTargets : List StagedField → List Handle
  | [] => []
  | ⟨_, v, _⟩ :: rest => targets v ++ fieldTargets rest

/-- `targets` of elements. -/
def elementTargets : List Staged → List Handle
  | [] => []
  | v :: rest => targets v ++ elementTargets rest

end

variable {ρ : Handle → Handle}

mutual

/-- A staged value in which no prototype is replaced is as it was. -/
theorem rename_eq_self : ∀ v : Staged, (∀ h ∈ v.targets, ρ h = h) → v.rename ρ = v
  | .scalar _ _, _ | .pending _, _ | .bound _ none, _ => rfl
  | .object ⟨type, fields, location⟩, h => by
      rw [rename, renameFields_eq_self fields h]
  | .collection kind action elements, h =>
      congrArg (collection kind action) (renameElements_eq_self elements h)
  | .bound id (some target), h =>
      congrArg (bound id ∘ some) (h target (List.mem_singleton_self target))

theorem renameFields_eq_self : ∀ fields : List StagedField,
    (∀ h ∈ fieldTargets fields, ρ h = h) → renameFields ρ fields = fields
  | [], _ => rfl
  | ⟨name, v, location⟩ :: rest, h => by
      rw [renameFields, rename_eq_self v fun k hk => h k (List.mem_append_left _ hk),
        renameFields_eq_self rest fun k hk => h k (List.mem_append_right _ hk)]

theorem renameElements_eq_self : ∀ elements : List Staged,
    (∀ h ∈ elementTargets elements, ρ h = h) → renameElements ρ elements = elements
  | [], _ => rfl
  | v :: rest, h => by
      rw [renameElements, rename_eq_self v fun k hk => h k (List.mem_append_left _ hk),
        renameElements_eq_self rest fun k hk => h k (List.mem_append_right _ hk)]

end

end Staged

/-- A definition with `ρ h` for every prototype `h`. -/
def Definition.rename (ρ : Handle → Handle) (d : Definition) : Definition :=
  { d with
    body := { d.body with fields := Staged.renameFields ρ d.body.fields }
    handle := d.handle.map ρ }

/-- A definition that states nothing about replaced prototypes. -/
theorem Definition.rename_eq {ρ : Handle → Handle} {d : Definition}
    (hfields : Staged.renameFields ρ d.body.fields = d.body.fields) :
    d.rename ρ = { d with handle := d.handle.map ρ } := by
  obtain ⟨id, inherits, isAbstract, typeOverride, ⟨type, fields, location⟩, state, handle⟩ := d
  exact congrArg (fun fields => Definition.mk id inherits isAbstract typeOverride ⟨type, fields, location⟩
    state (handle.map ρ)) hfields

/-- Such a definition, once it has got its prototype. -/
theorem Definition.rename_allocated {ρ : Handle → Handle} {d : Definition}
    (hfields : Staged.renameFields ρ d.body.fields = d.body.fields) (handle : Option Handle) :
    ({ d with handle, state := .allocated } : Definition).rename ρ
      = { d with handle := handle.map ρ, state := .allocated } :=
  @rename_eq ρ { d with handle, state := .allocated } hfields

/-! ## Applying -/

/-- The run with another result. -/
def Noted.mapValue {α β : Type} (f : α → β) (m : Noted α) : Noted β :=
  ⟨f m.value, m.journal⟩

/-- What goes on to another result. -/
theorem Noted.mapValue_bind {α γ δ : Type} {m : Noted α} {g : γ → δ} {next : α → Noted γ}
    {other : α → Noted δ} (h : other m.value = (next m.value).mapValue g) :
    (m >>= other) = (m >>= next).mapValue g := by
  show Noted.mk (other m.value).value (m.journal ++ (other m.value).journal) = _
  rw [h]
  rfl

/-- What goes on from another result, to another result. -/
theorem Noted.bind_mapValue {α β γ δ : Type} {m : Noted α} {f : α → β} {g : γ → δ} {next : α → Noted γ}
    {other : β → Noted δ} (h : other (f m.value) = (next m.value).mapValue g) :
    (m.mapValue f >>= other) = (m >>= next).mapValue g := by
  show (m >>= fun a => other (f a)) = _
  exact mapValue_bind h

/-- A replacement of prototypes by prototypes of the same id and type, which leaves alone what a registry
    brings in. -/
structure Renaming (r : Registry) (ρ : Handle → Handle) : Prop where
  id : ∀ h, (ρ h).id = h.id
  type : ∀ h, (ρ h).type = h.type
  defaults : ∀ type ∈ r.types, Value.renameFields ρ type.defaults = type.defaults
  converters : ∀ c ∈ r.converters.converters, ∀ text v, c.convert text = .ok v → v.rename ρ = v

namespace Application

variable {r : Registry} {ρ : Handle → Handle}

theorem startingObject_rename {stated : Descriptor}
    (hdefaults : Value.renameFields ρ stated.defaults = stated.defaults) (existing : Option Value) :
    startingObject stated (existing.map (Value.rename ρ))
      = ((startingObject stated existing).1, Value.renameFields ρ (startingObject stated existing).2) := by
  have hfresh : (stated.shape, stated.defaults) = (stated.shape, Value.renameFields ρ stated.defaults) := by
    rw [hdefaults]
  cases existing with
  | none => exact hfresh
  | some old =>
      cases old with
      | object type fields =>
          show (if type.isA stated.qualified then _ else _) = _
          rw [startingObject]
          split
          · rfl
          · exact hfresh
      | _ => exact hfresh

theorem startingElements_rename (action : Option OverrideAction) (existing : Option Value) :
    startingElements action (existing.map (Value.rename ρ))
      = Value.renameItems ρ (startingElements action existing) := by
  cases existing with
  | none => rfl
  | some old =>
      cases old with
      | list items =>
          show (if action = some .combine then _ else _) = _
          rw [startingElements]
          split <;> rfl
      | _ => rfl

theorem addElement_rename (hid : ∀ h, (ρ h).id = h.id) (kind : CollectionKind) (items : List Value)
    (v : Value) :
    addElement kind (Value.renameItems ρ items) (v.rename ρ)
      = Value.renameItems ρ (addElement kind items v) := by
  have hany : (Value.renameItems ρ items).any (· == v.rename ρ) = items.any (· == v) := by
    rw [Value.renameItems_eq_map, List.any_map]
    exact congrArg (items.any ·) (funext fun w => Value.same_rename hid w v)
  rw [addElement, addElement, hany]
  split
  · rfl
  · rw [Value.renameItems_eq_map, Value.renameItems_eq_map, List.map_append]
    rfl

theorem reference_rename (hρ : Renaming r ρ) (declared : String) (location : Location)
    (target : Option Handle) :
    reference declared location (target.map ρ)
      = (reference declared location target).mapValue (Option.map (Value.rename ρ)) := by
  cases target with
  | none => rfl
  | some target =>
      rw [Option.map_some, reference, reference, hρ.type, hρ.id]
      split <;> rfl

mutual

/-- A statement makes of a field the same, up to the replacement. -/
theorem built_rename (hρ : Renaming r ρ) (type : FieldType) (existing : Option Value)
    (location : Location) : ∀ v : Staged, (∃ staged, v.Fits r staged) →
      built type (existing.map (Value.rename ρ)) location (v.rename ρ)
        = (built type existing location v).mapValue (Option.map (Value.rename ρ))
  | .scalar converter v, hfits => by
      have hv : v.rename ρ = v := by
        obtain ⟨_, hfits⟩ := hfits
        cases hfits with
        | scalar hbest hconvert => exact hρ.converters _ (ConverterSet.mem_of_best? hbest) _ v hconvert
      rw [Staged.rename, built_scalar, built_scalar]
      cases type with
      | scalar declared =>
          show (if converter = declared then _ else _)
            = Noted.mapValue _ (if converter = declared then _ else _)
          split
          · show _ = Noted.mk (some (v.rename ρ)) _
            rw [hv]
            rfl
          · rfl
      | _ => rfl
  | .bound id target, _ => by
      rw [Staged.rename, built_bound, built_bound]
      cases type with
      | reference declared => exact reference_rename hρ declared location target
      | _ => rfl
  | .object ⟨stated, staged, place⟩, hfits => by
      obtain ⟨_, hfits⟩ := hfits
      rw [Staged.rename, built_object, built_object]
      cases type with
      | object declared =>
          show (if stated.isA declared = true then _ else _)
            = Noted.mapValue _ (if stated.isA declared = true then _ else _)
          split
          · cases hfits with
            | object hmem hisA hconcrete hdeclared hfields =>
                have hfitting : Fitting r staged :=
                  .ofAllFit (Staged.Fits.object hmem hisA hconcrete hdeclared hfields).allFit
                have hrun := statements_rename hρ (startingObject stated existing).1
                  (startingObject stated existing).2 staged hfitting
                rw [startingObject_rename (hρ.defaults stated hmem) existing]
                show (statements _ _ _ >>= _) = _
                rw [hrun]
                rfl
          · rfl
      | _ => rfl
  | .collection stated action staged, hfits => by
      obtain ⟨_, hfits⟩ := hfits
      rw [Staged.rename, built_collection, built_collection]
      cases type with
      | collection kind element =>
          show (if stated = kind then _ else _) = Noted.mapValue _ (if stated = kind then _ else _)
          split
          · cases hfits with
            | collection hfits =>
                have hrun := elements_rename hρ kind element location (startingElements action existing)
                  staged fun v hv => ⟨_, hfits v hv⟩
                rw [startingElements_rename action existing]
                show (elements _ _ _ _ _ >>= _) = _
                rw [hrun]
                rfl
          · rfl
      | _ => rfl
  | .pending id, _ => rfl

/-- **REPLACED**: statements make the same fields, up to the replacement, and report the same. -/
theorem statements_rename (hρ : Renaming r ρ) (target : Shape) (fields : Fields) :
    ∀ staged : List StagedField, Fitting r staged →
      statements target (Value.renameFields ρ fields) (Staged.renameFields ρ staged)
        = (statements target fields staged).mapValue (Value.renameFields ρ)
  | [], _ => rfl
  | ⟨name, v, location⟩ :: rest, hfitting => by
      have hrest : Fitting r rest := fun f hf => hfitting f (List.mem_cons_of_mem _ hf)
      rw [Staged.renameFields, statements, statements]
      cases target.field? name with
      | none =>
          show (mismatch _ _ >>= fun _ => statements _ _ _) = _
          rw [statements_rename hρ target fields rest hrest]
          rfl
      | some type =>
          have hbuilt := built_rename hρ type (fields.get? name) location v (hfitting _ List.mem_cons_self)
          -- what is built goes on from what stands in the field, replaced
          rw [Fields.get?_rename]
          show (Noted.record _ _ >>= _) = Noted.mapValue _ (Noted.record _ _ >>= _)
          refine Noted.mapValue_bind ?_
          rw [hbuilt]
          refine Noted.bind_mapValue ?_
          cases (built type (fields.get? name) location v).value with
          | none => exact statements_rename hρ target fields rest hrest
          | some w =>
              show statements target (Fields.set _ name (w.rename ρ)) _ = _
              rw [← Fields.set_rename]
              exact statements_rename hρ target (fields.set name w) rest hrest

theorem elements_rename (hρ : Renaming r ρ) (kind : CollectionKind) (element : FieldType)
    (location : Location) (items : List Value) :
    ∀ staged : List Staged, (∀ v ∈ staged, ∃ type, v.Fits r type) →
      elements kind element location (Value.renameItems ρ items) (Staged.renameElements ρ staged)
        = (elements kind element location items staged).mapValue (Value.renameItems ρ)
  | [], _ => rfl
  | v :: rest, hfitting => by
      have hrest : ∀ w ∈ rest, ∃ type, w.Fits r type := fun w hw =>
        hfitting w (List.mem_cons_of_mem _ hw)
      have hbuilt := built_rename hρ element none location v (hfitting v List.mem_cons_self)
      rw [Staged.renameElements, elements, elements]
      rw [Option.map_none] at hbuilt
      rw [hbuilt]
      refine Noted.bind_mapValue ?_
      cases (built element none location v).value with
      | none => exact elements_rename hρ kind element location items rest hrest
      | some w =>
          show elements kind element location (addElement kind _ (w.rename ρ)) _ = _
          rw [addElement_rename hρ.id]
          exact elements_rename hρ kind element location (addElement kind items w) rest hrest

end

theorem bodies_rename (hρ : Renaming r ρ) (target : Shape) (fields : Fields) {ds : List Definition}
    (hds : ∀ d ∈ ds, d.Fits r) :
    bodies target (Value.renameFields ρ fields) (ds.map (·.rename ρ))
      = (bodies target fields ds).mapValue (Value.renameFields ρ) := by
  induction ds generalizing fields with
  | nil => rfl
  | cons d rest ih =>
      have hd := statements_rename hρ target fields d.body.fields
        (.ofAllFit (hds d List.mem_cons_self).fields)
      rw [List.map_cons, bodies, bodies]
      show (statements target _ (Staged.renameFields ρ d.body.fields) >>= _) = _
      rw [hd]
      exact Noted.bind_mapValue (ih _ fun e he => hds e (List.mem_cons_of_mem _ he))

end Application

/-! ## Binding -/

namespace Binding

variable {b other : Binding} {ρ : Handle → Handle}

mutual

/-- Binding to replaced prototypes is replacing what is bound. -/
theorem value_rename (hreports : other.reports = b.reports)
    (htarget : ∀ id, other.target? id = (b.target? id).map ρ) (location : Location) :
    ∀ v : Staged, other.value location (v.rename ρ) = (b.value location v).mapValue (Staged.rename ρ)
  | .scalar _ _ => rfl
  | .object ⟨type, fields, place⟩ => by
      rw [Staged.rename, Binding.value, Binding.value, fields_rename hreports htarget fields]
      exact Noted.bind_mapValue rfl
  | .collection kind action elements => by
      rw [Staged.rename, Binding.value, Binding.value, elements_rename hreports htarget location elements]
      exact Noted.bind_mapValue rfl
  | .pending id => by
      have hreport : other.reportUnknown id location = b.reportUnknown id location := by
        simp only [reportUnknown, hreports, htarget, Option.map_eq_none_iff]
      rw [Staged.rename, Binding.value, Binding.value, hreport, htarget]
      exact Noted.mapValue_bind rfl
  | .bound _ _ => rfl

theorem fields_rename (hreports : other.reports = b.reports)
    (htarget : ∀ id, other.target? id = (b.target? id).map ρ) :
    ∀ fields : List StagedField,
      other.fields (Staged.renameFields ρ fields) = (b.fields fields).mapValue (Staged.renameFields ρ)
  | [] => rfl
  | ⟨name, v, location⟩ :: rest => by
      rw [Staged.renameFields, Binding.fields, Binding.fields, value_rename hreports htarget location v,
        fields_rename hreports htarget rest]
      exact Noted.bind_mapValue (Noted.bind_mapValue rfl)

theorem elements_rename (hreports : other.reports = b.reports)
    (htarget : ∀ id, other.target? id = (b.target? id).map ρ) (location : Location) :
    ∀ elements : List Staged, other.elements location (Staged.renameElements ρ elements)
      = (b.elements location elements).mapValue (Staged.renameElements ρ)
  | [] => rfl
  | v :: rest => by
      rw [Staged.renameElements, Binding.elements, Binding.elements,
        value_rename hreports htarget location v, elements_rename hreports htarget location rest]
      exact Noted.bind_mapValue (Noted.bind_mapValue rfl)

end

theorem definition_rename (hreports : other.reports = b.reports)
    (htarget : ∀ id, other.target? id = (b.target? id).map ρ) (d : Definition) :
    other.definition (d.rename ρ) = (b.definition d).mapValue (·.rename ρ) := by
  rw [Binding.definition, Binding.definition]
  show (if d.isExcluded = true then _ else _) = Noted.mapValue _ (if d.isExcluded = true then _ else _)
  split
  · rfl
  · show (other.fields (Staged.renameFields ρ d.body.fields) >>= _) = _
    rw [fields_rename hreports htarget]
    exact Noted.bind_mapValue rfl

end Binding

/-! ## Lines of descent -/

/-- How a line ends, with its last definition replaced. -/
def LineEnd.map (f : Definition → Definition) : LineEnd → LineEnd
  | root => root
  | unknown child id => unknown (f child) id
  | circle id => circle id

/-- A line with its definitions replaced. -/
def Lineage.map (f : Definition → Definition) (line : Lineage) : Lineage :=
  ⟨line.ancestors.map f, line.ending.map f⟩

namespace Catalogue

variable {c other : Catalogue} {f : Definition → Definition}

/-- Where ids stand for replaced definitions, the line of a replaced definition is its line replaced. -/
theorem follow_map (hid : ∀ d, (f d).id = d.id) (hinherits : ∀ d, (f d).inherits = d.inherits)
    (hfind : ∀ id, other.find? id = (c.find? id).map f) (path : List String) (d : Definition) :
    other.follow path (f d) = (c.follow path d).map f := by
  fun_induction follow c path d with
  | case1 path d hroot => exact follow_root ((hinherits d).trans hroot)
  | case2 path d id hparent hnone =>
      refine follow_unknown ((hinherits d).trans hparent) ?_
      rw [hfind, hnone]
      rfl
  | case3 path d id hparent parent hfound hseen =>
      have hother : other.find? id = some (f parent) := by
        rw [hfind, hfound]
        rfl
      rw [follow_circle ((hinherits d).trans hparent) hother (by rw [hid]; exact hseen), hid]
      rfl
  | case4 path d id hparent parent hfound hnew _ above ih =>
      have hother : other.find? id = some (f parent) := by
        rw [hfind, hfound]
        rfl
      have hfresh : path.contains (f parent).id = false := by
        rw [hid]
        exact Bool.eq_false_iff.mpr hnew
      rw [follow_parent ((hinherits d).trans hparent) hother hfresh, hid, ih]
      rfl

end Catalogue

namespace Application

variable {r : Registry} {ρ : Handle → Handle}

theorem report_rename (line : Lineage) (d : Definition) :
    (line.map (·.rename ρ)).report (d.rename ρ) = line.report d := by
  obtain ⟨ancestors, ending⟩ := line
  cases ending with
  | root => rfl
  | unknown child id => rfl
  | circle id =>
      have hids : (ancestors.map (·.rename ρ)).map (·.id) = ancestors.map (·.id) := List.map_map ..
      show Noted.report _ _ _ _ s!"'{d.id}' inherits in a cycle: {circleArrow.intercalate
        (d.id :: ((ancestors.map (·.rename ρ)).map (·.id) ++ [id]))}" = _
      rw [hids]
      rfl

/-- **REPLACED OUTCOMES**: where ids stand for the replaced definitions, a definition comes to the same
    outcome, up to the replacement. -/
theorem outcome_rename {c other : Catalogue} (hρ : Renaming r ρ)
    (hfind : ∀ id, other.find? id = (c.find? id).map (·.rename ρ)) {d : Definition}
    (hline : ∀ a ∈ (c.lineage d).ancestors.reverse ++ [d], a.Fits r) (start : Fields) (h : Handle) :
    outcome other (Value.renameFields ρ start) (ρ h) (d.rename ρ)
      = (outcome c start h d).mapValue (Value.renameFields ρ) := by
  have hlineage : other.lineage (d.rename ρ) = (c.lineage d).map (·.rename ρ) :=
    Catalogue.follow_map (f := Definition.rename ρ) (fun _ => rfl) (fun _ => rfl) hfind [d.id] d
  have hbodies : ((c.lineage d).map (·.rename ρ)).ancestors.reverse ++ [d.rename ρ]
      = ((c.lineage d).ancestors.reverse ++ [d]).map (·.rename ρ) := by
    rw [List.map_append, List.map_reverse]
    rfl
  have hlength : ((c.lineage d).map (·.rename ρ)).ancestors.length = (c.lineage d).ancestors.length :=
    List.length_map ..
  rw [outcome, outcome, hlineage, report_rename, hbodies, hlength, hρ.type,
    bodies_rename hρ h.type start hline]
  rfl

end Application

end Archetype
