import Archetype.Markup.Parser
import Archetype.Proofs.Accounts
import Archetype.Proofs.Registration

/-! # Staged trees are well typed

    Staging reads a tree of elements against the types of a registry, and the two are followed down together:
    the declared type of a field says how the element of its name is read, and the type that an inline object
    turns out to be of says what its own children mean.  `Typed` is the judgement that comes of it.  It relates
    an element and the type it is read against to the value it gives, or to the error where it gives none, and
    it holds at every element that staging reads, at any depth.

    Nothing is read against a type that names an unknown inline object.  That is not checked on the way down:
    the names in the types of fields are resolved when a registry is built (`Registry.Closed`), and every type
    that staging follows is taken from the registry, so what it declares is registered in turn. -/

namespace Archetype

namespace Registry

variable {r : Registry}

/-- A field's type that names no unknown inline object, also as what a collection holds. -/
def Knows (r : Registry) (type : FieldType) : Prop :=
  ∀ name, type.core = .object name → ∃ target, r.get? name = some target

/-- The inline objects that the fields of registered types name are registered. -/
def Closed (r : Registry) : Prop :=
  ∀ type ∈ r.types, ∀ f ∈ type.fields, r.Knows f.type

theorem Closed.field? {type : Descriptor} {name : String} {field : Field} (h : r.Closed)
    (htype : type ∈ r.types) (hfield : type.field? name = some field) : r.Knows field.type :=
  h type htype field (Descriptor.of_field? hfield).1

theorem closed_of_build {d : Draft} (h : d.build.value = .ok r) : r.Closed := by
  intro type htype f hf name hcore
  have hcompletions := Draft.completions_of_build h
  obtain ⟨target, htarget, hname, -⟩ := hcompletions.exists_target htype hf (Or.inl ⟨hcore, rfl⟩)
  exact ⟨target, (get?_eq_some_iff hcompletions.distinct).mpr ⟨htarget, hname⟩⟩

end Registry

namespace Staging

open Markup

variable {s : Staging} {e : Element} {type : FieldType}

/-! ## The judgement -/

mutual

/-- What an element gives where a value of the given type is read, with the errors inside it.  The declared
type of an inline object is registered, whether an object is read from the element or not; an element that
names no type is only refused because the declared one is abstract. -/
inductive Typed (s : Staging) : Element → FieldType → Option Staged → List Diagnostic → Prop
  | scalar {e : Element} {converter : String} {c : Converter} {v : Value}
      (hbest : s.registry.converters.best? converter = some c) (hconvert : c.convert e.text = .ok v) :
      Typed s e (.scalar converter) (some (.scalar converter v)) []
  | reference {e : Element} {type : String} :
      Typed s e (.reference type) (some (.pending (Text.trimmed e.text))) []
  | object {e : Element} {declared : String} {target : Descriptor} {o : StagedObject}
      {errors : List Diagnostic} (hdeclared : s.registry.get? declared = some target)
      (hregistered : o.type ∈ s.registry.types) (hisA : o.type.isA declared = true)
      (hconcrete : o.type.isAbstract = false) (hfields : TypedFields s o.type e.elements o.fields errors) :
      Typed s e (.object declared) (some (.object o)) errors
  | collection {e : Element} {kind : CollectionKind} {element : FieldType}
      {action : Option OverrideAction} {values : List Staged} {own errors : List Diagnostic}
      (haction : s.ActionOf e action own) (hvalues : TypedElements s element e.elements values errors) :
      Typed s e (.collection kind element) (some (.collection kind action values)) (own ++ errors)
  | refused {e : Element} {type : FieldType} {x : Diagnostic}
      (hdeclared : ∀ declared, type = .object declared →
        ∃ target, s.registry.get? declared = some target ∧
          (e.attribute? "Type" = none → target.isAbstract = true))
      (hunread : ¬ s.Reads e type) (hx : s.ErrorAt e x) : Typed s e type none [x]

/-- The statements that the children of an object make: each is about a field that the object's type declares,
and read against the type of that field. -/
inductive TypedFields (s : Staging) :
    Descriptor → List Element → List StagedField → List Diagnostic → Prop
  | done {type : Descriptor} : TypedFields s type [] [] []
  | declared {type : Descriptor} {e : Element} {rest : List Element} {field : Field} {given : Option Staged}
      {fields : List StagedField} {inside errors : List Diagnostic}
      (hfield : type.field? e.name = some field) (hgiven : Typed s e field.type given inside)
      (hrest : TypedFields s type rest fields errors) :
      TypedFields s type (e :: rest) ((given.map (⟨e.name, ·, s.location e⟩)).toList ++ fields)
        (inside ++ errors)
  | undeclared {type : Descriptor} {e : Element} {rest : List Element} {x : Diagnostic}
      {fields : List StagedField} {errors : List Diagnostic} (hfield : type.field? e.name = none)
      (hx : s.ErrorAt e x) (hrest : TypedFields s type rest fields errors) :
      TypedFields s type (e :: rest) fields (x :: errors)

/-- The values that the children of a collection give to its elements: each is read against the type of the
elements. -/
inductive TypedElements (s : Staging) : FieldType → List Element → List Staged → List Diagnostic → Prop
  | done {element : FieldType} : TypedElements s element [] [] []
  | entry {element : FieldType} {e : Element} {rest : List Element} {given : Option Staged}
      {values : List Staged} {inside errors : List Diagnostic} (htag : e.name = s.options.entryTag)
      (hgiven : Typed s e element given inside) (hrest : TypedElements s element rest values errors) :
      TypedElements s element (e :: rest) (given.toList ++ values) (inside ++ errors)
  | stranger {element : FieldType} {e : Element} {rest : List Element} {x : Diagnostic}
      {values : List Staged} {errors : List Diagnostic} (htag : e.name ≠ s.options.entryTag)
      (hx : s.ErrorAt e x) (hrest : TypedElements s element rest values errors) :
      TypedElements s element (e :: rest) values (x :: errors)

end

/-- The definitions that the items of a container make.  Each is of a registered prototype type, which is
abstract only if the definition is, and makes statements about an object of that type. -/
inductive TypedItems (s : Staging) (container : Descriptor) :
    List Element → List Definition → List Diagnostic → Prop
  | done : TypedItems s container [] [] []
  | item {e : Element} {rest : List Element} {d : Definition} {ds : List Definition}
      {inside errors : List Diagnostic} (hregistered : d.type ∈ s.registry.types)
      (hprototype : d.type.isPrototype = true) (habstract : d.type.isAbstract = true → d.isAbstract = true)
      (hfields : s.TypedFields d.type e.elements d.body.fields inside)
      (hrest : TypedItems s container rest ds errors) :
      TypedItems s container (e :: rest) (d :: ds) (inside ++ errors)
  | refused {e : Element} {rest : List Element} {x : Diagnostic} {ds : List Definition}
      {errors : List Diagnostic} (hunread : ∀ id type, ¬ s.Admits container e id type)
      (hx : s.ErrorAt e x) (hrest : TypedItems s container rest ds errors) :
      TypedItems s container (e :: rest) ds (x :: errors)

/-! ## Elements within elements -/

/-- The type that an element chooses is taken from the registry, by either of its names. -/
theorem Chooses.derives {declared : String} {chosen : Descriptor} (h : s.Chooses e declared chosen) :
    chosen ∈ s.registry.types ∧ chosen.isA declared = true := by
  cases hattribute : e.attribute? "Type" with
  | none =>
      obtain ⟨hmem, rfl⟩ := Registry.of_get? (h.named.implicit hattribute)
      exact ⟨hmem, by rw [TypeHead.isA, beq_self_eq_true, Bool.true_or]⟩
  | some name =>
      obtain ⟨hfind, hisA⟩ := h.named.explicit name hattribute
      exact ⟨Registry.mem_types_of_find? hfind, hisA⟩

/-- An element that gives no object is refused for what it says, never for the declared type it is read
    against. -/
theorem typed_refused {x : Diagnostic} (hknown : s.registry.Knows type) (hunread : ¬ s.Reads e type)
    (hx : s.ErrorAt e x) : s.Typed e type none [x] := by
  refine .refused ?_ hunread hx
  rintro declared rfl
  obtain ⟨target, htarget⟩ := hknown declared rfl
  refine ⟨target, htarget, fun hattribute => ?_⟩
  by_contra habstract
  have hnamed : s.Names e declared target := by
    refine ⟨fun _ => htarget, fun name hname => ?_⟩
    cases hattribute.symm.trans hname
  exact hunread ⟨target, hnamed, Bool.eq_false_iff.mpr habstract⟩

mutual

/-- The value that an element yields is of the type it is read against. -/
theorem Yields.typed (hclosed : s.registry.Closed) {e : Element} {type : FieldType} {v : Staged}
    {errors : List Diagnostic} (hknown : s.registry.Knows type) (h : s.Yields e type v errors) :
    s.Typed e type (some v) errors := by
  cases h with
  | scalar _ hbest hconvert => exact .scalar hbest hconvert
  | reference _ => exact .reference
  | object hchosen hfields =>
      -- the type it turns out to be of is from the registry, so what its fields name is known again
      obtain ⟨target, htarget⟩ := hknown _ rfl
      obtain ⟨hregistered, hisA⟩ := hchosen.derives
      exact .object htarget hregistered hisA hchosen.concrete (hfields.typed hclosed hregistered)
  | collection haction hvalues => exact .collection haction (hvalues.typed hclosed hknown)

/-- The children of an object of a registered type state fields of that type. -/
theorem Stated.typed (hclosed : s.registry.Closed) {type : Descriptor} {es : List Element}
    {fields : List StagedField} {errors : List Diagnostic} (htype : type ∈ s.registry.types)
    (h : s.Stated type es fields errors) : s.TypedFields type es fields errors := by
  cases h with
  | done => exact .done
  | kept hfield hv hrest =>
      exact .declared hfield (hv.typed hclosed (hclosed.field? htype hfield)) (hrest.typed hclosed htype)
  | @dropped _ e _ _ _ _ hunread hx hrest =>
      -- either there is no such field, or the element was read against its type in vain
      cases hfield : type.field? e.name with
      | none => exact .undeclared hfield hx (hrest.typed hclosed htype)
      | some field =>
          have hgiven := typed_refused (hclosed.field? htype hfield) (hunread field hfield) hx
          exact .declared hfield hgiven (hrest.typed hclosed htype)

/-- The children of a collection give values of the type of its elements. -/
theorem Listed.typed (hclosed : s.registry.Closed) {element : FieldType} {es : List Element}
    {values : List Staged} {errors : List Diagnostic} (hknown : s.registry.Knows element)
    (h : s.Listed element es values errors) : s.TypedElements element es values errors := by
  cases h with
  | done => exact .done
  | kept htag hv hrest => exact .entry htag (hv.typed hclosed hknown) (hrest.typed hclosed hknown)
  | @dropped _ e _ _ _ _ hunread hx hrest =>
      by_cases htag : e.name = s.options.entryTag
      · exact .entry htag (typed_refused hknown (hunread htag) hx) (hrest.typed hclosed hknown)
      · exact .stranger htag hx (hrest.typed hclosed hknown)

end

/-! ## Items and documents -/

/-- A definition is abstract exactly if its item says so. -/
theorem isAbstract_of_item? {container : Descriptor} {d : Definition}
    (h : (s.item? container e).value = some d) : d.isAbstract = true ↔ Marked e := by
  rw [item?] at h
  split at h
  · cases h
  · split at h
    · cases h
    · rename_i id _
      simp only [Noted.value_bind] at h
      split at h
      · cases h
      · split at h
        · cases h
        · rw [← Option.some.inj h]
          exact value_abstractMark s e id

/-- An item is of a registered prototype type if its container is. -/
theorem ItemNames.registered {container type : Descriptor} (h : s.ItemNames container e type)
    (hmem : container ∈ s.registry.types) (hprototype : container.isPrototype = true) :
    type ∈ s.registry.types ∧ type.isPrototype = true := by
  cases hattribute : e.attribute? "Type" with
  | none =>
      rw [h.implicit hattribute]
      exact ⟨hmem, hprototype⟩
  | some name =>
      obtain ⟨hfind, htype⟩ := h.explicit name hattribute
      exact ⟨Registry.mem_types_of_find? hfind, htype⟩

theorem typed_items (hclosed : s.registry.Closed) {container : Descriptor}
    (hmem : container ∈ s.registry.types) (hprototype : container.isPrototype = true) (es : List Element) :
    s.TypedItems container es (s.items container es).value (s.items container es).errors := by
  induction es with
  | nil => exact .done
  | cons e rest ih =>
      rw [items, Noted.errors_bind, Noted.errors_bind, Noted.errors_pure, List.append_nil]
      simp only [Noted.value_bind, Noted.value_pure]
      cases settles_item? container e with
      | staged d hvalue hyields =>
          obtain ⟨hadmits, -, hstated⟩ := hyields
          obtain ⟨hregistered, hkind⟩ := hadmits.named.registered hmem hprototype
          rw [hvalue]
          exact .item hregistered hkind
            (fun habstract => (isAbstract_of_item? hvalue).mpr (hadmits.marked habstract))
            (hstated.typed hclosed hregistered) ih
      | refused x hvalue hunread herrors hx _ =>
          rw [hvalue, herrors]
          exact .refused (fun id type h => hunread ⟨id, type, h⟩) hx ih

theorem value_document (root : Element) :
    (s.document root).value
      = (s.containerType? root).value.elim [] fun container => (s.items container root.elements).value := by
  show (s.container root).value = _
  rw [container, Noted.value_bind]
  cases (s.containerType? root).value <;> rfl

/-- The errors of a document are those about its container and about the items. -/
theorem errors_document (root : Element) :
    (s.document root).errors = (s.containerType? root).errors ++
      (s.containerType? root).value.elim [] fun container => (s.items container root.elements).errors := by
  rw [document, Noted.errors_bind, Noted.errors_bind, Noted.errors_record, Noted.errors_pure,
    List.append_nil, List.append_nil, container, Noted.errors_bind]
  cases (s.containerType? root).value with
  | none => rfl
  | some container =>
      simp only [Option.elim_some]
      rw [Noted.errors_bind, errors_warnStrayText, List.nil_append]

/-- **WELL TYPED**: whatever a document says, what is staged from it against a registry that has been built is
    well typed, from the type of each definition down to the last element of a collection in a collection.
    Every element is read against a type whose names are registered. -/
theorem typed_document {d : Draft} (hbuilt : d.build.value = .ok s.registry) (root : Element) :
    (∃ container ∈ s.registry.types, container.isPrototype = true ∧ s.Opens root container ∧
        s.TypedItems container root.elements (s.document root).value (s.document root).errors) ∨
      ((s.document root).value = [] ∧ ∃ x, (s.document root).errors = [x] ∧ s.ErrorAt root x) := by
  rw [value_document, errors_document]
  cases settles_containerType? (s := s) root with
  | staged container hvalue hopens =>
      obtain ⟨hopens, hnone⟩ := hopens
      obtain ⟨name, -, hfind, hprototype⟩ := id hopens
      have hmem := Registry.mem_types_of_find? hfind
      rw [hvalue, hnone]
      exact Or.inl ⟨container, hmem, hprototype, hopens,
        typed_items (Registry.closed_of_build hbuilt) hmem hprototype root.elements⟩
  | refused x hvalue _ herrors hx _ =>
      rw [hvalue, herrors]
      exact Or.inr ⟨rfl, x, rfl, hx⟩

/-! ### A scene of shapes within shapes -/

/-- The shapes of a scene lie in layers. -/
def sceneType : Descriptor :=
  (Descriptor.prototype "Scene").declare
    ⟨"layers", .collection .array (.collection .list (.object "Shape")), none⟩

def shapeType : Descriptor :=
  (Descriptor.composite "Shape").abstract

def circleType : Descriptor :=
  ((Descriptor.composite "Circle").derivedFrom "Shape").declare ⟨"radius", .scalar "int", none⟩

/-- A shape that holds shapes. -/
def groupType : Descriptor :=
  ((Descriptor.composite "Group").derivedFrom "Shape").declare
    ⟨"parts", .collection .list (.object "Shape"), none⟩

def shapesDraft : Draft where
  declarations := [sceneType, shapeType, circleType, groupType]

/-- The group has two parts, of which the second does not say what kind of shape it is. -/
def sceneText : String :=
  "<Scenes Type=\"Scene\"><Item Id=\"s\"><layers><li><li Type=\"Circle\"><radius>3</radius></li>" ++
    "<li Type=\"Group\"><parts><li Type=\"Circle\"/><li/></parts></li></li></layers></Item></Scenes>"

theorem scene_typed :
    ∃ r root, shapesDraft.build.value = .ok r ∧ Markup.parse sceneText = .ok root ∧
      let s : Staging := ⟨r, {}, "", "scenes", .ofText sceneText⟩
      (s.document root).value.map (fun d => (d.type.qualified, d.body.fields.map fun f => f.name))
          = [("Scene", ["layers"])] ∧
        (s.document root).errors.map (·.message) = ["type 'Shape' is abstract; give <li> a concrete Type"] ∧
        ((∃ container ∈ s.registry.types, container.isPrototype = true ∧ s.Opens root container ∧
            s.TypedItems container root.elements (s.document root).value (s.document root).errors) ∨
          ((s.document root).value = [] ∧ ∃ x, (s.document root).errors = [x] ∧ s.ErrorAt root x)) := by
  have hchecked : (shapesDraft.build.value.toOption.any fun r =>
      (Markup.parse sceneText).toOption.any fun root =>
        let s : Staging := ⟨r, {}, "", "scenes", .ofText sceneText⟩
        (s.document root).value.map (fun d => (d.type.qualified, d.body.fields.map fun f => f.name))
            == [("Scene", ["layers"])] &&
          (s.document root).errors.map (·.message)
            == ["type 'Shape' is abstract; give <li> a concrete Type"]) = true := by
    decide +kernel
  obtain ⟨r, hr, hchecked⟩ := (Option.any_eq_true ..).mp hchecked
  obtain ⟨root, hroot, hchecked⟩ := (Option.any_eq_true ..).mp hchecked
  obtain ⟨hvalue, herrors⟩ := Bool.and_eq_true_iff.mp hchecked
  have hbuilt := Registry.eq_ok_of_toOption hr
  refine ⟨r, root, hbuilt, Registry.eq_ok_of_toOption hroot, beq_iff_eq.mp hvalue, beq_iff_eq.mp herrors, ?_⟩
  exact typed_document hbuilt root

end Staging

end Archetype
