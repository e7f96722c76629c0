import Archetype.Proofs.Staging

/-! # Every element is staged or reported

    Staging never drops an element silently.  What becomes of an element is told here by rules that do not
    mention staging: an element that can be read (`Reads`, `Admits`, `Opens`) is staged, each of its children
    in turn is staged or reported, in document order, and the errors inside it are exactly those of its
    children; an element that cannot be read is reported by one error at its own line, and nothing inside it
    is looked at.  The one error that comes with a staged element is about its override action.

    The heart is that every way out of staging an element reports once (`Settles`).  The recursion through
    objects and collections then only has to add up lists of errors. -/

namespace Archetype

/-- The errors of a run, in order. -/
def Noted.errors {α : Type} (m : Noted α) : List Diagnostic :=
  m.journal.diagnostics.filter (·.severity == .error)

namespace Noted

@[simp] theorem errors_pure {α : Type} (a : α) : (pure a : Noted α).errors = [] := rfl

@[simp] theorem errors_bind {α β : Type} (m : Noted α) (f : α → Noted β) :
    (m >>= f).errors = m.errors ++ (f m.value).errors := List.filter_append ..

@[simp] theorem errors_warning (kind : DiagnosticKind) (file : String) (line : Nat) (message : String) :
    (report .warning kind file line message).errors = [] := rfl

@[simp] theorem errors_record (level : Level) (text : String) : (record level text).errors = [] := rfl

end Noted

namespace Staging

open Markup

variable {s : Staging} {e : Element}

/-! ## What can be read -/

/-- An error of the document, at the line of an element. -/
structure ErrorAt (s : Staging) (e : Element) (x : Diagnostic) : Prop where
  severity : x.severity = .error
  file : x.file = s.file
  line : x.line = s.lineAt e.start

/-- The type that an inline object names, where one of the declared type may stand. -/
structure Names (s : Staging) (e : Element) (declared : String) (type : Descriptor) : Prop where
  implicit : e.attribute? "Type" = none → s.registry.get? declared = some type
  explicit : ∀ name, e.attribute? "Type" = some name →
    s.findType? name = some type ∧ type.isA declared = true

/-- The type of the inline object that an element states. -/
structure Chooses (s : Staging) (e : Element) (declared : String) (type : Descriptor) : Prop where
  named : s.Names e declared type
  concrete : type.isAbstract = false

/-- An element from which a value of the given type can be read. -/
def Reads (s : Staging) (e : Element) : FieldType → Prop
  | .scalar converter => e.hasElements = false ∧
      ∃ c v, s.registry.converters.best? converter = some c ∧ c.convert e.text = .ok v
  | .reference _ => e.hasElements = false
  | .object declared => ∃ type, s.Chooses e declared type
  | .collection _ _ => True

/-- The override action of a collection, and the error about a word that is none. -/
inductive ActionOf (s : Staging) (e : Element) : Option OverrideAction → List Diagnostic → Prop
  | absent (h : e.attribute? "OverrideAction" = none) : ActionOf s e none []
  | known {word : String} {action : OverrideAction} (h : e.attribute? "OverrideAction" = some word)
      (hword : OverrideAction.ofWord? (Text.trimmed word) = some action) : ActionOf s e (some action) []
  | unknown {word : String} {x : Diagnostic} (h : e.attribute? "OverrideAction" = some word)
      (hword : OverrideAction.ofWord? (Text.trimmed word) = none) (hx : s.ErrorAt e x) :
      ActionOf s e none [x]

mutual

/-- The value that an element yields where one of the given type is read, with the errors inside it. -/
inductive Yields (s : Staging) : Element → FieldType → Staged → List Diagnostic → Prop
  | scalar {e : Element} {converter : String} {c : Converter} {v : Value} (hempty : e.hasElements = false)
      (hbest : s.registry.converters.best? converter = some c) (hconvert : c.convert e.text = .ok v) :
      Yields s e (.scalar converter) (.scalar converter v) []
  | reference {e : Element} {type : String} (hempty : e.hasElements = false) :
      Yields s e (.reference type) (.pending (Text.trimmed e.text)) []
  | object {e : Element} {declared : String} {type : Descriptor} {fields : List StagedField}
      {errors : List Diagnostic} (htype : s.Chooses e declared type)
      (hfields : Stated s type e.elements fields errors) :
      Yields s e (.object declared) (.object ⟨type, fields, s.location e⟩) errors
  | collection {e : Element} {kind : CollectionKind} {element : FieldType}
      {action : Option OverrideAction} {values : List Staged} {own errors : List Diagnostic}
      (haction : s.ActionOf e action own) (hvalues : Listed s element e.elements values errors) :
      Yields s e (.collection kind element) (.collection kind action values) (own ++ errors)

/-- What the children of an object of the given type yield: each a statement about the field of its name,
or one error. -/
inductive Stated (s : Staging) : Descriptor → List Element → List StagedField → List Diagnostic → Prop
  | done {type : Descriptor} : Stated s type [] [] []
  | kept {type : Descriptor} {e : Element} {rest : List Element} {field : Field} {v : Staged}
      {fields : List StagedField} {inside errors : List Diagnostic}
      (hfield : type.field? e.name = some field) (hv : Yields s e field.type v inside)
      (hrest : Stated s type rest fields errors) :
      Stated s type (e :: rest) (⟨e.name, v, s.location e⟩ :: fields) (inside ++ errors)
  | dropped {type : Descriptor} {e : Element} {rest : List Element} {x : Diagnostic}
      {fields : List StagedField} {errors : List Diagnostic}
      (hunread : ∀ field, type.field? e.name = some field → ¬ s.Reads e field.type) (hx : s.ErrorAt e x)
      (hrest : Stated s type rest fields errors) : Stated s type (e :: rest) fields (x :: errors)

/-- What the children of a collection yield: each an element of it, or one error. -/
inductive Listed (s : Staging) : FieldType → List Element → List Staged → List Diagnostic → Prop
  | done {element : FieldType} : Listed s element [] [] []
  | kept {element : FieldType} {e : Element} {rest : List Element} {v : Staged} {values : List Staged}
      {inside errors : List Diagnostic} (htag : e.name = s.options.entryTag)
      (hv : Yields s e element v inside) (hrest : Listed s element rest values errors) :
      Listed s element (e :: rest) (v :: values) (inside ++ errors)
  | dropped {element : FieldType} {e : Element} {rest : List Element} {x : Diagnostic}
      {values : List Staged} {errors : List Diagnostic}
      (hunread : e.name = s.options.entryTag → ¬ s.Reads e element) (hx : s.ErrorAt e x)
      (hrest : Listed s element rest values errors) : Listed s element (e :: rest) values (x :: errors)

end

/-- The type of an item: the one it names, or that of its container. -/
structure ItemNames (s : Staging) (container : Descriptor) (e : Element) (type : Descriptor) : Prop where
  implicit : e.attribute? "Type" = none → type = container
  explicit : ∀ name, e.attribute? "Type" = some name →
    s.findType? name = some type ∧ type.isPrototype = true

/-- An item that says of itself that it is abstract. -/
def Marked (e : Element) : Prop :=
  ∃ word, e.attribute? "Abstract" = some word ∧ Text.sameIgnoringCase (Text.trimmed word) "true" = true

/-- An item that makes a definition with this id and of this type. -/
structure Admits (s : Staging) (container : Descriptor) (e : Element) (id : String) (type : Descriptor) :
    Prop where
  tag : e.name = s.options.itemTag
  id : ∃ word, e.attribute? "Id" = some word ∧ id = Text.trimmed word ∧ id ≠ ""
  named : s.ItemNames container e type
  marked : type.isAbstract = true → Marked e

/-- The kinds of errors about an item that makes no definition. -/
def itemKinds : List DiagnosticKind :=
  [.malformedNode, .missingIdentifier, .unknownElementType]

/-- What the items of a container make: each one definition, or one error. -/
inductive Defined (s : Staging) (container : Descriptor) :
    List Element → List Definition → List Diagnostic → Prop
  | done : Defined s container [] [] []
  | kept {e : Element} {rest : List Element} {d : Definition} {ds : List Definition}
      {inside errors : List Diagnostic} (hd : s.Admits container e d.id d.type)
      (hlocation : d.location = s.location e) (hbody : s.Stated d.type e.elements d.body.fields inside)
      (hrest : Defined s container rest ds errors) :
      Defined s container (e :: rest) (d :: ds) (inside ++ errors)
  | dropped {e : Element} {rest : List Element} {x : Diagnostic} {ds : List Definition}
      {errors : List Diagnostic} (hunread : ∀ id type, ¬ s.Admits container e id type)
      (hx : s.ErrorAt e x)
      (hkind : x.kind ∈ itemKinds)
      (hrest : Defined s container rest ds errors) : Defined s container (e :: rest) ds (x :: errors)

/-- The kinds of errors about a container that cannot be opened. -/
def containerKinds : List DiagnosticKind :=
  [.malformedNode, .unknownContainerType]

/-- A container whose items are of the given type unless they name another. -/
def Opens (s : Staging) (root : Element) (type : Descriptor) : Prop :=
  ∃ name, root.attribute? "Type" = some name ∧ s.findType? name = some type ∧ type.isPrototype = true

/-! ## One element -/

/-- The kinds of errors about an element that no value can be read from. -/
def valueKinds : List DiagnosticKind :=
  [.malformedNode, .missingSerializer, .unknownElementType]

/-- A run that stages an element, or reports it once because it cannot be read. -/
inductive Settles {α : Type} (s : Staging) (e : Element) (kinds : List DiagnosticKind) (readable : Prop)
    (yields : α → List Diagnostic → Prop) (m : Noted (Option α)) : Prop
  | staged (a : α) (hvalue : m.value = some a) (hyields : yields a m.errors)
  | refused (x : Diagnostic) (hvalue : m.value = none) (hunread : ¬ readable) (herrors : m.errors = [x])
      (hx : s.ErrorAt e x) (hkind : x.kind ∈ kinds)

@[simp] theorem errors_reject {α : Type} (s : Staging) (kind : DiagnosticKind) (e : Element)
    (message : String) :
    (s.reject kind e message : Noted (Option α)).errors
      = [⟨.error, kind, s.file, s.lineAt e.start, message⟩] := rfl

@[simp] theorem errors_warn (s : Staging) (offset : Nat) (message : String) :
    (s.warn offset message).errors = [] := rfl

@[simp] theorem errors_warnStrayText (s : Staging) (e : Element) (message : String) :
    (s.warnStrayText e message).errors = [] := by
  rw [warnStrayText]
  cases e.strayText? <;> rfl

section Settling

variable {α : Type} {kinds : List DiagnosticKind} {readable : Prop} {yields : α → List Diagnostic → Prop}

theorem settles_reject {kind : DiagnosticKind} {message : String} (hunread : ¬ readable)
    (hkind : kind ∈ kinds) :
    Settles s e kinds readable yields (s.reject kind e message : Noted (Option α)) :=
  .refused _ rfl hunread rfl ⟨rfl, rfl, rfl⟩ hkind

theorem settles_pure {a : α} (hyields : yields a []) :
    Settles s e kinds readable yields (pure (some a) : Noted (Option α)) :=
  .staged a rfl hyields

theorem Settles.imp {m : Noted (Option α)} {wanted : Prop} {more : α → List Diagnostic → Prop}
    (h : Settles s e kinds readable yields m) (hwanted : wanted → readable)
    (hmore : ∀ a errors, yields a errors → more a errors) : Settles s e kinds wanted more m := by
  cases h with
  | staged a hvalue hyields => exact .staged a hvalue (hmore a _ hyields)
  | refused x hvalue hunread herrors hx hkind =>
      exact .refused x hvalue (fun h => hunread (hwanted h)) herrors hx hkind

/-- What comes before an element is settled may warn, but reports no error. -/
theorem Settles.after {β : Type} {first : Noted β} {m : β → Noted (Option α)} (hfirst : first.errors = [])
    (h : Settles s e kinds readable yields (m first.value)) :
    Settles s e kinds readable yields (first >>= m) := by
  cases h with
  | staged a hvalue hyields =>
      refine .staged a hvalue ?_
      rw [Noted.errors_bind, hfirst, List.nil_append]
      exact hyields
  | refused x hvalue hunread herrors hx hkind =>
      refine .refused x hvalue hunread ?_ hx hkind
      rw [Noted.errors_bind, hfirst, List.nil_append]
      exact herrors

/-- What comes before an element is settled may also refuse it. -/
theorem Settles.andThen {β : Type} {first : Noted (Option β)} {m : Option β → Noted (Option α)}
    (found : Prop) (names : β → Prop)
    (hfirst : Settles s e kinds found (fun b errors => names b ∧ errors = []) first)
    (hfound : readable → found) (hnone : m none = pure none)
    (hsome : ∀ b, names b → Settles s e kinds readable yields (m (some b))) :
    Settles s e kinds readable yields (first >>= m) := by
  cases hfirst with
  | staged b hvalue hyields =>
      refine Settles.after hyields.2 ?_
      rw [hvalue]
      exact hsome b hyields.1
  | refused x hvalue hunread herrors hx hkind =>
      refine .refused x ?_ (fun h => hunread (hfound h)) ?_ hx hkind
      · rw [Noted.value_bind, hvalue, hnone]
        rfl
      · rw [Noted.errors_bind, hvalue, hnone, herrors]
        rfl

end Settling

theorem settles_scalar (e : Element) (converter : String) :
    Settles s e valueKinds (s.Reads e (.scalar converter)) (s.Yields e (.scalar converter))
      (s.scalar e converter) := by
  rw [scalar]
  by_cases helements : e.hasElements = true
  · rw [if_pos helements]
    refine settles_reject (fun hreads => ?_) (by decide)
    exact Bool.false_ne_true (hreads.1.symm.trans helements)
  · have hempty : e.hasElements = false := Bool.eq_false_iff.mpr helements
    rw [if_neg helements]
    cases hbest : s.registry.converters.best? converter with
    | none =>
        refine settles_reject (fun hreads => ?_) (by decide)
        obtain ⟨-, c, v, hc, -⟩ := hreads
        cases hbest.symm.trans hc
    | some c =>
        cases hconvert : c.convert e.text with
        | ok v =>
            simp only [hconvert]
            exact settles_pure (.scalar hempty hbest hconvert)
        | error err =>
            simp only [hconvert]
            refine settles_reject (fun hreads => ?_) (by decide)
            obtain ⟨-, other, v, hc, hv⟩ := hreads
            rw [← Option.some.inj (hbest.symm.trans hc), hconvert] at hv
            cases hv

theorem settles_reference (e : Element) (type : String) :
    Settles s e valueKinds (s.Reads e (.reference type)) (s.Yields e (.reference type)) (s.reference e) := by
  rw [reference]
  by_cases helements : e.hasElements = true
  · rw [if_pos helements]
    refine settles_reject (fun hempty => ?_) (by decide)
    exact Bool.false_ne_true (hempty.symm.trans helements)
  · rw [if_neg helements]
    exact settles_pure (.reference (Bool.eq_false_iff.mpr helements))

/-- A type that is named is looked up, or reported where it is unknown or not accepted. -/
theorem settles_findType? {kinds : List DiagnosticKind} {kind : DiagnosticKind} (hkind : kind ∈ kinds)
    (e : Element) (name : String) (accepts : Descriptor → Bool) (unknown : String)
    (unfit : Descriptor → String) :
    Settles s e kinds (∃ type, s.findType? name = some type ∧ accepts type = true)
      (fun type errors => (s.findType? name = some type ∧ accepts type = true) ∧ errors = [])
      (match s.findType? name with
        | none => s.reject kind e unknown
        | some type => if accepts type then pure (some type) else s.reject kind e (unfit type)) := by
  cases hfind : s.findType? name with
  | none =>
      refine settles_reject ?_ hkind
      rintro ⟨type, htype, -⟩
      cases htype
  | some type =>
      by_cases haccepts : accepts type = true
      · simp only [haccepts, if_true]
        exact settles_pure ⟨⟨rfl, haccepts⟩, rfl⟩
      · simp only [haccepts]
        refine settles_reject ?_ hkind
        rintro ⟨other, hother, hfits⟩
        rw [← Option.some.inj hother] at hfits
        exact haccepts hfits

theorem Names.ofName {declared name : String} {type : Descriptor}
    (hattribute : e.attribute? "Type" = some name)
    (h : s.findType? name = some type ∧ type.isA declared = true) : s.Names e declared type where
  implicit := fun hnone => by cases hattribute.symm.trans hnone
  explicit := fun _ hother => Option.some.inj (hattribute.symm.trans hother) ▸ h

/-- An element names at most one type. -/
theorem Names.unique {declared : String} {type other : Descriptor} (h : s.Names e declared type)
    (hother : s.Names e declared other) : type = other := by
  cases hattribute : e.attribute? "Type" with
  | none => exact Option.some.inj ((h.implicit hattribute).symm.trans (hother.implicit hattribute))
  | some name =>
      exact Option.some.inj ((h.explicit name hattribute).1.symm.trans (hother.explicit name hattribute).1)

theorem settles_objectType? (e : Element) (declared : String) :
    Settles s e valueKinds (∃ type, s.Chooses e declared type)
      (fun type errors => s.Chooses e declared type ∧ errors = []) (s.objectType? e declared) := by
  rw [objectType?]
  refine Settles.andThen (∃ type, s.Names e declared type) (s.Names e declared) ?_
    (Exists.imp fun _ h => h.named) rfl fun type hnamed => ?_
  · cases hattribute : e.attribute? "Type" with
    | none =>
        cases hget : s.registry.get? declared with
        | none =>
            refine settles_reject ?_ (by decide)
            rintro ⟨type, h⟩
            cases hget.symm.trans (h.implicit hattribute)
        | some type =>
            refine settles_pure ⟨⟨fun _ => hget, fun name hname => ?_⟩, rfl⟩
            cases hattribute.symm.trans hname
    | some name =>
        refine (settles_findType? (by decide) e name (·.isA declared) _ _).imp ?_ ?_
        · rintro ⟨type, h⟩
          exact ⟨type, h.explicit name hattribute⟩
        · rintro type errors ⟨h, hnone⟩
          exact ⟨.ofName hattribute h, hnone⟩
  · by_cases habstract : type.isAbstract = true
    · simp only [habstract, if_true]
      refine settles_reject ?_ (by decide)
      rintro ⟨other, h⟩
      have hconcrete := h.concrete
      rw [← hnamed.unique h.named, habstract] at hconcrete
      cases hconcrete
    · simp only [habstract]
      exact settles_pure ⟨⟨hnamed, Bool.eq_false_iff.mpr habstract⟩, rfl⟩

theorem actionOf_overrideAction (e : Element) :
    s.ActionOf e (s.overrideAction e).value (s.overrideAction e).errors := by
  rw [overrideAction]
  cases hattribute : e.attribute? "OverrideAction" with
  | none => exact .absent hattribute
  | some word =>
      cases hword : OverrideAction.ofWord? (Text.trimmed word) with
      | some action =>
          simp only [hword]
          exact .known hattribute hword
      | none =>
          simp only [hword]
          exact .unknown hattribute hword ⟨rfl, rfl, rfl⟩

/-! ## Elements within elements -/

mutual

/-- A value is read from an element, or the element is reported. -/
theorem settles_value (s : Staging) : ∀ (e : Element) (type : FieldType),
    Settles s e valueKinds (s.Reads e type) (s.Yields e type) (s.value e type)
  | ⟨name, attributes, children, start, stop⟩, .scalar converter => by
      rw [value]
      exact settles_scalar _ converter
  | ⟨name, attributes, children, start, stop⟩, .reference type => by
      rw [value]
      exact settles_reference _ type
  | ⟨name, attributes, children, start, stop⟩, .object declared => by
      rw [value]
      -- stray text is only warned about, so the errors are those of the statements
      refine Settles.andThen _ _ (settles_objectType? _ declared) (fun h => h) rfl fun type hchosen => ?_
      refine Settles.after (errors_warnStrayText ..) (.staged _ rfl ?_)
      rw [Noted.errors_bind, Noted.errors_pure, List.append_nil]
      exact .object hchosen (stated_statements s type children)
  | ⟨name, attributes, children, start, stop⟩, .collection kind element => by
      rw [value]
      refine .staged _ rfl ?_
      rw [Noted.errors_bind, Noted.errors_bind, Noted.errors_bind, errors_warnStrayText, Noted.errors_pure,
        List.append_nil, List.nil_append]
      exact .collection (actionOf_overrideAction _) (listed_entries s element children)

/-- Each child of an object makes a statement, or is reported. -/
theorem stated_statements (s : Staging) (type : Descriptor) : ∀ children : List Node,
    s.Stated type (children.filterMap Node.element?) (s.statements type children).value
      (s.statements type children).errors
  | [] => .done
  | .text _ :: rest => stated_statements s type rest
  | .element e :: rest => by
      have hrest := stated_statements s type rest
      rw [statements, Noted.errors_bind, Noted.errors_bind, Noted.errors_pure, List.append_nil]
      simp only [Noted.value_bind, Noted.value_pure]
      cases hfield : type.field? e.name with
      | none =>
          refine .dropped (fun field hdeclared => ?_) ⟨rfl, rfl, rfl⟩ hrest
          cases hfield.symm.trans hdeclared
      | some field =>
          cases settles_value s e field.type with
          | staged v hvalue hyields =>
              simp only [hvalue]
              exact .kept hfield hyields hrest
          | refused x hvalue hunread herrors hx _ =>
              simp only [hvalue, herrors]
              refine .dropped (fun other hdeclared => ?_) hx hrest
              rw [← Option.some.inj (hfield.symm.trans hdeclared)]
              exact hunread

/-- Each child of a collection is an element of it, or is reported. -/
theorem listed_entries (s : Staging) (element : FieldType) : ∀ children : List Node,
    s.Listed element (children.filterMap Node.element?) (s.entries element children).value
      (s.entries element children).errors
  | [] => .done
  | .text _ :: rest => listed_entries s element rest
  | .element e :: rest => by
      have hrest := listed_entries s element rest
      rw [entries, Noted.errors_bind, Noted.errors_bind, Noted.errors_pure, List.append_nil]
      simp only [Noted.value_bind, Noted.value_pure]
      by_cases htag : e.name = s.options.entryTag
      · rw [if_pos htag]
        cases settles_value s e element with
        | staged v hvalue hyields =>
            rw [hvalue]
            exact .kept htag hyields hrest
        | refused x hvalue hunread herrors hx _ =>
            rw [hvalue, herrors]
            exact .dropped (fun _ => hunread) hx hrest
      · rw [if_neg htag]
        exact .dropped (fun hsame => absurd hsame htag) ⟨rfl, rfl, rfl⟩ hrest

end

/-! ## Items and documents -/

theorem word?_eq_some {name id : String} :
    word? e name = some id ↔ ∃ word, e.attribute? name = some word ∧ id = Text.trimmed word ∧ id ≠ "" := by
  rw [word?, Option.filter_eq_some_iff, Option.map_eq_some_iff, decide_eq_true_iff]
  constructor
  · rintro ⟨⟨word, hword, htrimmed⟩, hne⟩
    exact ⟨word, hword, htrimmed.symm, hne⟩
  · rintro ⟨word, hword, htrimmed, hne⟩
    exact ⟨⟨word, hword, htrimmed.symm⟩, hne⟩

theorem errors_abstractMark (s : Staging) (e : Element) (id : String) :
    (s.abstractMark e id).errors = [] := by
  rw [abstractMark]
  split
  · rfl
  · split
    · rfl
    · split <;> rfl

theorem value_abstractMark (s : Staging) (e : Element) (id : String) :
    (s.abstractMark e id).value = true ↔ Marked e := by
  rw [abstractMark, Marked]
  cases hattribute : e.attribute? "Abstract" with
  | none =>
      constructor
      · intro h
        cases h
      · rintro ⟨_, h, -⟩
        cases h
  | some word =>
      simp only [Option.map_some]
      by_cases htrue : Text.sameIgnoringCase (Text.trimmed word) "true" = true
      · rw [if_pos htrue]
        exact ⟨fun _ => ⟨word, rfl, htrue⟩, fun _ => rfl⟩
      · rw [if_neg htrue]
        refine ⟨fun h => ?_, fun ⟨other, hother, h⟩ => ?_⟩
        · split at h <;> cases h
        · rw [← Option.some.inj hother] at h
          exact absurd h htrue

theorem errors_warnAttributes (s : Staging) (id : String) (attributes : List Attribute) :
    (s.warnAttributes id attributes).errors = [] := by
  induction attributes with
  | nil => rfl
  | cons a rest ih =>
      rw [warnAttributes]
      split
      · rw [Noted.errors_bind, errors_warn, ih]
        rfl
      · exact ih

theorem ItemNames.ofName {container type : Descriptor} {name : String}
    (hattribute : e.attribute? "Type" = some name)
    (h : s.findType? name = some type ∧ type.isPrototype = true) : s.ItemNames container e type where
  implicit := fun hnone => by cases hattribute.symm.trans hnone
  explicit := fun _ hother => Option.some.inj (hattribute.symm.trans hother) ▸ h

theorem settles_itemType? (e : Element) (id : String) (container : Descriptor) :
    Settles s e itemKinds (∃ type, s.ItemNames container e type)
      (fun type errors => s.ItemNames container e type ∧ errors = []) (s.itemType? e id container) := by
  rw [itemType?]
  cases hattribute : e.attribute? "Type" with
  | none =>
      refine settles_pure ⟨⟨fun _ => rfl, fun name hname => ?_⟩, rfl⟩
      cases hattribute.symm.trans hname
  | some name =>
      refine (settles_findType? (by decide) e name (·.isPrototype) _ _).imp ?_ ?_
      · rintro ⟨type, h⟩
        exact ⟨type, h.explicit name hattribute⟩
      · rintro type errors ⟨h, hnone⟩
        exact ⟨.ofName hattribute h, hnone⟩

/-- An item has at most one type. -/
theorem ItemNames.unique {container type other : Descriptor} (h : s.ItemNames container e type)
    (hother : s.ItemNames container e other) : type = other := by
  cases hattribute : e.attribute? "Type" with
  | none => exact (h.implicit hattribute).trans (hother.implicit hattribute).symm
  | some name =>
      exact Option.some.inj ((h.explicit name hattribute).1.symm.trans (hother.explicit name hattribute).1)

/-- A definition is made of an item, or the item is reported. -/
theorem settles_item? (container : Descriptor) (e : Element) :
    Settles s e itemKinds (∃ id type, s.Admits container e id type)
      (fun d errors => s.Admits container e d.id d.type ∧ d.location = s.location e ∧
        s.Stated d.type e.elements d.body.fields errors) (s.item? container e) := by
  rw [item?]
  by_cases htag : e.name = s.options.itemTag
  · rw [if_neg (not_not_intro htag)]
    cases hid : word? e "Id" with
    | none =>
        refine settles_reject ?_ (by decide)
        rintro ⟨id, type, h⟩
        cases hid.symm.trans (word?_eq_some.mpr h.id)
    | some id =>
        refine Settles.after (errors_abstractMark ..) (Settles.after (errors_warnAttributes ..) ?_)
        refine Settles.andThen _ _ (settles_itemType? e id container)
          (Exists.elim · fun _ => Exists.imp fun _ h => h.named) rfl fun type hnamed => ?_
        have hmark := value_abstractMark s e id
        show Settles s e itemKinds _ _
          (if (type.isAbstract && !(s.abstractMark e id).value) = true then _ else _)
        by_cases hmarked : (type.isAbstract && !(s.abstractMark e id).value) = true
        · rw [if_pos hmarked]
          refine settles_reject ?_ (by decide)
          rintro ⟨_, other, h⟩
          obtain ⟨habstract, hunmarked⟩ := Bool.and_eq_true_iff.mp hmarked
          rw [hnamed.unique h.named] at habstract
          rw [hmark.mpr (h.marked habstract)] at hunmarked
          cases hunmarked
        · rw [if_neg hmarked]
          refine .staged _ rfl ⟨⟨htag, word?_eq_some.mp hid, hnamed, fun habstract => ?_⟩, rfl, ?_⟩
          · have habstract : type.isAbstract = true := habstract
            rw [habstract, Bool.true_and, Bool.not_eq_true', Bool.not_eq_false] at hmarked
            exact hmark.mp hmarked
          · rw [Noted.errors_bind, Noted.errors_pure, List.append_nil, object, Noted.errors_bind,
              Noted.errors_bind, errors_warnStrayText, Noted.errors_pure, List.append_nil, List.nil_append]
            exact stated_statements s type e.children
  · rw [if_pos htag]
    refine settles_reject ?_ (by decide)
    rintro ⟨id, type, h⟩
    exact htag h.tag

theorem defined_items (s : Staging) (container : Descriptor) (es : List Element) :
    s.Defined container es (s.items container es).value (s.items container es).errors := by
  induction es with
  | nil => exact .done
  | cons e rest ih =>
      rw [items, Noted.errors_bind, Noted.errors_bind, Noted.errors_pure, List.append_nil]
      simp only [Noted.value_bind, Noted.value_pure]
      cases settles_item? container e with
      | staged d hvalue hyields =>
          rw [hvalue]
          exact .kept hyields.1 hyields.2.1 hyields.2.2 ih
      | refused x hvalue hunread herrors hx hkind =>
          rw [hvalue, herrors]
          exact .dropped (fun id type h => hunread ⟨id, type, h⟩) hx hkind ih

/-- A container is opened, or reported and nothing else. -/
theorem settles_containerType? (root : Element) :
    Settles s root containerKinds (∃ type, s.Opens root type)
      (fun type errors => s.Opens root type ∧ errors = []) (s.containerType? root) := by
  rw [containerType?]
  cases hattribute : root.attribute? "Type" with
  | none =>
      refine settles_reject ?_ (by decide)
      rintro ⟨type, name, h, _⟩
      cases hattribute.symm.trans h
  | some name =>
      refine (settles_findType? (by decide) root name (·.isPrototype) _ _).imp ?_ ?_
      · rintro ⟨type, word, hword, h⟩
        exact ⟨type, Option.some.inj (hattribute.symm.trans hword) ▸ h⟩
      · rintro type errors ⟨h, hnone⟩
        exact ⟨⟨name, hattribute, h⟩, hnone⟩

/-- **EVERY ELEMENT ACCOUNTED FOR**: a container that cannot be opened gives one error and no definition.
    Otherwise each of its items is defined or reported once, and so is, at every depth, each child of an item,
    of an inline object and of a collection; and nothing else is an error but an unknown override action. -/
theorem accounted_document (s : Staging) (root : Element) :
    (∃ type, s.Opens root type ∧
        s.Defined type root.elements (s.document root).value (s.document root).errors) ∨
      ((∀ type, ¬ s.Opens root type) ∧ (s.document root).value = [] ∧
        ∃ x, (s.document root).errors = [x] ∧ s.ErrorAt root x ∧ x.kind ∈ containerKinds) := by
  have hcontainer : (s.document root).errors = (s.container root).errors := by
    rw [document, Noted.errors_bind, Noted.errors_bind, Noted.errors_record, Noted.errors_pure,
      List.append_nil, List.append_nil]
  have hvalue : (s.document root).value = (s.container root).value := rfl
  rw [hcontainer, hvalue, container, Noted.errors_bind, Noted.value_bind]
  cases settles_containerType? (s := s) root with
  | staged type htype hopens =>
      refine Or.inl ⟨type, hopens.1, ?_⟩
      rw [htype, hopens.2, List.nil_append]
      show s.Defined type root.elements (s.items type root.elements).value (_ >>= fun _ => _ : Noted _).errors
      rw [Noted.errors_bind, errors_warnStrayText, List.nil_append]
      exact defined_items s type root.elements
  | refused x htype hclosed herrors hx hkind =>
      rw [htype, herrors]
      exact Or.inr ⟨fun type h => hclosed ⟨type, h⟩, rfl, x, rfl, hx, hkind⟩

end Staging

end Archetype
