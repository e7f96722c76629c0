import Archetype.Proofs.Acceptance
import Archetype.Proofs.Statements

/-! # What statements leave alone

    An inline object is merged field by field with the object that is there, and so are the objects in its
    fields, as deep as statements go.  What stands at the end of a path of field names is therefore left alone
    unless it is stated: by a statement that gives the whole field anew, at some point of the path, or by one
    that goes on from the object there and states the rest of the path (`Staged.states`).

    Whether a path is stated is told from the fields before the first statement.  That the statements see
    other fields, those that the statements before them have left, makes no difference: along a path that is
    not stated the types of the objects stay, and nothing else of them is looked at (`statements_agree`,
    `fieldsState_congr`). -/

namespace Archetype

/-! ## Paths -/

namespace Value

/-- A value, of an object its type alone: its fields have paths of their own. -/
def outer : Value → Value
  | object type _ => object type []
  | v => v

/-- The value of a field of an object. -/
def field? : Value → String → Option Value
  | object _ fields, name => Fields.get? fields name
  | _, _ => none

/-- The value at the end of a path of field names. -/
def at? (v : Value) : List String → Option Value
  | [] => some v
  | name :: below => (v.field? name).bind fun w => w.at? below

theorem bind_at?_nil (v : Option Value) : v.bind (·.at? []) = v :=
  Option.bind_fun_some v

end Value

/-- The value at the end of a path of field names. -/
def Fields.at? (fields : Fields) : List String → Option Value
  | [] => none
  | name :: below => (fields.get? name).bind (·.at? below)

namespace Staged

mutual

/-- Whether a statement about a field gives the value at the end of a path below the field anew, where
    `existing` is what is in the field. -/
def states (type : FieldType) (existing : Option Value) (below : List String) : Staged → Bool
  | .scalar converter _ => type == .scalar converter
  | .bound _ target =>
    match type with
    | .reference declared => target.all (·.type.isA declared)
    | _ => false
  | .collection stated _ _ =>
    match type with
    | .collection kind _ => stated == kind
    | _ => false
  | .object ⟨stated, staged, _⟩ =>
    match type with
    | .object declared =>
      stated.isA declared &&
        match existing with
        | some (.object shape fields) => !shape.isA stated.qualified || fieldsState shape fields below staged
        | _ => true
    | _ => false
  | .pending _ => false

/-- Whether one of the statements about an object gives the value at the end of a path anew. -/
def fieldsState (target : Shape) (fields : Fields) (path : List String) : List StagedField → Bool
  | [] => false
  | ⟨name, v, _⟩ :: rest =>
    (match target.field? name with
      | some type => path.head? == some name && states type (fields.get? name) path.tail v
      | none => false) || fieldsState target fields path rest

end

end Staged

/-! ## Agreement along a path -/

/-- Two values that are alike at each point of a path: the same, or objects of the same type. -/
def AgreeAlong : List String → Option Value → Option Value → Prop
  | [], v, w => v.map Value.outer = w.map Value.outer
  | name :: below, v, w => v.map Value.outer = w.map Value.outer ∧
      AgreeAlong below (v.bind (·.field? name)) (w.bind (·.field? name))

namespace AgreeAlong

variable {u v w : Option Value} {path : List String}

theorem refl (path : List String) (v : Option Value) : AgreeAlong path v v := by
  induction path generalizing v with
  | nil => rfl
  | cons name below ih => exact ⟨rfl, ih _⟩

theorem symm (h : AgreeAlong path v w) : AgreeAlong path w v := by
  induction path generalizing v w with
  | nil => exact Eq.symm h
  | cons name below ih => exact ⟨h.1.symm, ih h.2⟩

theorem trans (huv : AgreeAlong path u v) (hvw : AgreeAlong path v w) : AgreeAlong path u w := by
  induction path generalizing u v w with
  | nil => exact Eq.trans huv hvw
  | cons name below ih => exact ⟨huv.1.trans hvw.1, ih huv.2 hvw.2⟩

theorem outer (h : AgreeAlong path v w) : v.map Value.outer = w.map Value.outer := by
  cases path with
  | nil => exact h
  | cons name below => exact h.1

/-- They are alike at the end of the path. -/
theorem at? (h : AgreeAlong path v w) :
    (v.bind (·.at? path)).map Value.outer = (w.bind (·.at? path)).map Value.outer := by
  induction path generalizing v w with
  | nil => cases v <;> cases w <;> exact h
  | cons name below ih =>
      have hbelow := ih h.2
      rw [Option.bind_assoc, Option.bind_assoc] at hbelow
      exact hbelow

/-- What stands in place of an object is an object of the same type. -/
theorem exists_object {type : Shape} {fields : Fields} (h : AgreeAlong path (some (.object type fields)) w) :
    ∃ others, w = some (.object type others) := by
  have houter := h.outer
  cases w with
  | none => cases houter
  | some w =>
      cases w with
      | object shape others =>
          have hshape : Value.object type [] = .object shape [] := Option.some.inj houter
          cases hshape
          exact ⟨others, rfl⟩
      | _ => cases houter

end AgreeAlong

namespace Staged

/-! ## What is stated -/

section States

variable {type : FieldType} {existing : Option Value} {below : List String}

theorem states_object (stated : Descriptor) (staged : List StagedField) (place : Location) :
    states type existing below (.object ⟨stated, staged, place⟩)
      = match type with
        | .object declared =>
          stated.isA declared &&
            match existing with
            | some (.object shape fields) =>
              !shape.isA stated.qualified || fieldsState shape fields below staged
            | _ => true
        | _ => false :=
  states.eq_def ..

theorem fieldsState_nil (target : Shape) (fields : Fields) (staged : List StagedField) :
    fieldsState target fields [] staged = false := by
  induction staged with
  | nil => rfl
  | cons f rest ih =>
      obtain ⟨name, v, location⟩ := f
      rw [fieldsState, ih, Bool.or_false]
      split <;> rfl

/-- What one of several statements does not state, neither does the first one nor those that follow. -/
theorem of_fieldsState_cons {target : Shape} {fields : Fields} {path : List String} {f : StagedField}
    {rest : List StagedField} (h : fieldsState target fields path (f :: rest) = false) :
    (∀ type below, target.field? f.name = some type → path = f.name :: below →
        f.value.states type (fields.get? f.name) below = false) ∧
      fieldsState target fields path [f] = false ∧ fieldsState target fields path rest = false := by
  obtain ⟨name, v, location⟩ := f
  rw [fieldsState, Bool.or_eq_false_iff] at h
  refine ⟨?_, ?_, h.2⟩
  · intro type below htype hpath
    have hown := h.1
    rw [htype, hpath] at hown
    simpa using hown
  · rw [fieldsState, h.1]
    rfl

variable {declared : String} {stated : Descriptor} {staged : List StagedField} {place : Location}

/-- A statement about an object that fits and does not state all of it goes on from an object that is there,
    of a type that derives from the stated one. -/
theorem exists_merged (hisA : stated.isA declared = true)
    (h : states (.object declared) existing below (.object ⟨stated, staged, place⟩) = false) :
    ∃ shape fields, existing = some (.object shape fields) ∧ shape.isA stated.qualified = true := by
  rw [states_object] at h
  simp only [hisA, Bool.true_and] at h
  split at h
  · rename_i shape fields
    rw [Bool.or_eq_false_iff, Bool.not_eq_false'] at h
    exact ⟨shape, fields, rfl, h.1⟩
  · cases h

/-- It states what its own statements state. -/
theorem states_merged (hisA : stated.isA declared = true) {shape : Shape} {fields : Fields}
    (hshape : shape.isA stated.qualified = true) :
    states (.object declared) (some (.object shape fields)) below (.object ⟨stated, staged, place⟩)
      = fieldsState shape fields below staged := by
  rw [states_object]
  show (stated.isA declared && (!shape.isA stated.qualified || fieldsState shape fields below staged)) = _
  rw [hisA, hshape]
  rfl

end States

mutual

/-- What a statement states below a field is told by the types of the objects along the path. -/
theorem states_congr : ∀ (v : Staged) (type : FieldType) {existing other : Option Value}
    {below : List String}, AgreeAlong below existing other →
      v.states type existing below = v.states type other below
  | .scalar _ _, _, _, _, _, _ => by rw [states, states]
  | .bound _ _, _, _, _, _, _ => by rw [states.eq_def, states.eq_def]
  | .collection _ _ _, _, _, _, _, _ => by rw [states.eq_def, states.eq_def]
  | .pending _, _, _, _, _, _ => by rw [states, states]
  | .object ⟨stated, staged, place⟩, type, existing, other, below, hagree => by
      rw [states_object, states_object]
      cases type with
      | object declared =>
          refine congrArg (stated.isA declared && ·) ?_
          split
          · rename_i shape fields
            obtain ⟨others, rfl⟩ := hagree.exists_object
            show _ = (!shape.isA stated.qualified || fieldsState shape others below staged)
            cases below with
            | nil => rw [fieldsState_nil, fieldsState_nil]
            | cons first below => rw [fieldsState_congr staged shape hagree.2]
          · rename_i hnone
            split
            · rename_i shape others
              obtain ⟨fields, rfl⟩ := hagree.symm.exists_object
              exact absurd rfl (hnone shape fields)
            · rfl
      | _ => rfl

theorem fieldsState_congr : ∀ (staged : List StagedField) (target : Shape) {fields others : Fields}
    {first : String} {below : List String}, AgreeAlong below (fields.get? first) (others.get? first) →
      fieldsState target fields (first :: below) staged = fieldsState target others (first :: below) staged
  | [], _, _, _, _, _, _ => rfl
  | ⟨name, v, location⟩ :: rest, target, fields, others, first, below, hagree => by
      rw [fieldsState, fieldsState, fieldsState_congr rest target hagree]
      refine congrArg (· || fieldsState target others (first :: below) rest) ?_
      cases target.field? name with
      | none => rfl
      | some type =>
          by_cases hname : first = name
          · subst hname
            exact congrArg (some first == some first && ·) (states_congr v type hagree)
          · have hne : (some first == some name) = false :=
              beq_eq_false_iff_ne.mpr fun h => hname (Option.some.inj h)
            simp only [List.head?_cons, hne, Bool.false_and]

end

end Staged

namespace Application

open Staged

section Built

variable {type : FieldType} {existing : Option Value} {below : List String} {location : Location}

/-- A statement about no object that does not state what is in the field does not fit it. -/
theorem value_built_eq_none {v : Staged} (hv : ∀ o, v ≠ .object o)
    (h : v.states type existing below = false) : (built type existing location v).value = none := by
  cases v with
  | scalar converter u =>
      rw [built_scalar]
      cases type with
      | scalar declared =>
          have hne : ¬ converter = declared := by
            rintro rfl
            rw [states, beq_self_eq_true] at h
            cases h
          simp only [if_neg hne]
          rfl
      | _ => rfl
  | bound id target =>
      rw [built_bound]
      cases type with
      | reference declared =>
          cases target with
          | none =>
              rw [states.eq_def] at h
              cases h
          | some target =>
              rw [states.eq_def] at h
              have hisA : ¬ target.type.isA declared = true := Bool.eq_false_iff.mp h
              simp only [reference, if_neg hisA]
              rfl
      | _ => rfl
  | collection stated action staged =>
      rw [built_collection]
      cases type with
      | collection kind element =>
          have hne : ¬ stated = kind := by
            rintro rfl
            rw [states.eq_def] at h
            exact absurd (beq_self_eq_true stated) (Bool.eq_false_iff.mp h)
          simp only [if_neg hne]
          rfl
      | _ => rfl
  | object o => exact absurd rfl (hv o)
  | pending id =>
      rw [built.eq_def]
      rfl

/-- A statement about an object makes something only of a field for objects of a type that the stated one
    derives from. -/
theorem of_value_built {stated : Descriptor} {staged : List StagedField} {place : Location} {w : Value}
    (h : (built type existing location (.object ⟨stated, staged, place⟩)).value = some w) :
    ∃ declared, type = .object declared ∧ stated.isA declared = true ∧
      w = .object (startingObject stated existing).1
        (statements (startingObject stated existing).1 (startingObject stated existing).2 staged).value := by
  rw [built_object] at h
  cases type with
  | object declared =>
      by_cases hisA : stated.isA declared = true
      · simp only [if_pos hisA] at h
        exact ⟨declared, rfl, hisA, (Option.some.inj h).symm⟩
      · simp only [if_neg hisA] at h
        cases h
  | _ => cases h

theorem startingObject_merged {stated : Descriptor} {shape : Shape} {fields : Fields}
    (hshape : shape.isA stated.qualified = true) :
    startingObject stated (some (.object shape fields)) = (shape, fields) :=
  if_pos hshape

end Built

/-- One statement leaves all fields as they are, or sets the one that it is about. -/
theorem value_statement_cases (target : Shape) (fields : Fields) (f : StagedField) :
    (statements target fields [f]).value = fields ∨
      ∃ type w, target.field? f.name = some type ∧
        (built type (fields.get? f.name) f.location f.value).value = some w ∧
        (statements target fields [f]).value = fields.set f.name w := by
  cases htype : target.field? f.name with
  | none =>
      obtain ⟨name, v, location⟩ := f
      rw [statements, htype]
      exact Or.inl rfl
  | some type =>
      rw [value_statement htype]
      cases hbuilt : (built type (fields.get? f.name) f.location f.value).value with
      | none => exact Or.inl rfl
      | some w => exact Or.inr ⟨type, w, rfl, hbuilt, rfl⟩

/-- What is made of an object whose fields are not stated as a whole: it keeps its type. -/
theorem exists_merged_of_value_built {type : FieldType} {existing : Option Value} {below : List String}
    {location : Location} {stated : Descriptor} {staged : List StagedField} {place : Location} {w : Value}
    (hw : (built type existing location (.object ⟨stated, staged, place⟩)).value = some w)
    (hstates : states type existing below (.object ⟨stated, staged, place⟩) = false) :
    ∃ shape fields, existing = some (.object shape fields) ∧
      w = .object shape (statements shape fields staged).value ∧
      ∀ path, states type existing path (.object ⟨stated, staged, place⟩)
        = fieldsState shape fields path staged := by
  obtain ⟨declared, rfl, hisA, rfl⟩ := of_value_built hw
  obtain ⟨shape, fields, rfl, hshape⟩ := exists_merged hisA hstates
  rw [startingObject_merged hshape]
  exact ⟨shape, fields, rfl, rfl, fun path => states_merged hisA hshape⟩

mutual

/-- Along a path that a statement does not state, what it makes of a field is like what was there. -/
theorem built_agree (location : Location) : ∀ (v : Staged) (type : FieldType) {existing : Option Value}
    {below : List String}, v.states type existing below = false →
      ∀ w, (built type existing location v).value = some w → AgreeAlong below existing (some w)
  | .object ⟨stated, staged, place⟩, type, existing, below, hstates, w, hw => by
      obtain ⟨shape, fields, rfl, rfl, hnested⟩ := exists_merged_of_value_built hw hstates
      rw [hnested] at hstates
      cases below with
      | nil => rfl
      | cons first below => exact ⟨rfl, statements_agree staged shape hstates⟩
  | .scalar _ _, _, _, _, hstates, _, hw => by
      rw [value_built_eq_none (fun _ h => by cases h) hstates] at hw
      cases hw
  | .bound _ _, _, _, _, hstates, _, hw => by
      rw [value_built_eq_none (fun _ h => by cases h) hstates] at hw
      cases hw
  | .collection _ _ _, _, _, _, hstates, _, hw => by
      rw [value_built_eq_none (fun _ h => by cases h) hstates] at hw
      cases hw
  | .pending _, _, _, _, hstates, _, hw => by
      rw [value_built_eq_none (fun _ h => by cases h) hstates] at hw
      cases hw

/-- **TYPES STAY**: along a path that statements do not state, what they leave is like what was there. -/
theorem statements_agree : ∀ (staged : List StagedField) (target : Shape) {fields : Fields} {first : String}
    {below : List String}, fieldsState target fields (first :: below) staged = false →
      AgreeAlong below (fields.get? first) ((statements target fields staged).value.get? first)
  | [], _, _, _, _, _ => .refl ..
  | ⟨name, v, location⟩ :: rest, target, fields, first, below, hstates => by
      obtain ⟨hown, -, hrest⟩ := of_fieldsState_cons hstates
      have hone : AgreeAlong below (fields.get? first)
          ((statements target fields [⟨name, v, location⟩]).value.get? first) := by
        rcases value_statement_cases target fields ⟨name, v, location⟩ with
          heq | ⟨type, w, htype, hbuilt, heq⟩
        · rw [heq]
          exact .refl ..
        · rw [heq, Fields.get?_set]
          split
          · rename_i hname
            subst hname
            exact built_agree location v type (hown type below htype rfl) w hbuilt
          · exact .refl ..
      rw [← List.singleton_append, value_statements_append]
      -- the statements that follow state of the path what they would have stated before
      rw [fieldsState_congr rest target hone] at hrest
      exact hone.trans (statements_agree rest target hrest)

end

mutual

/-- Where a statement states neither the value at the end of a path nor anything below it, what it makes of
    a field has that value too. -/
theorem built_unchanged (location : Location) : ∀ (v : Staged) (type : FieldType) {existing : Option Value}
    {below : List String}, (∀ more, v.states type existing (below ++ more) = false) →
      ∀ w, (built type existing location v).value = some w → w.at? below = existing.bind (·.at? below)
  | .object ⟨stated, staged, place⟩, type, existing, below, hstates, w, hw => by
      obtain ⟨shape, fields, rfl, rfl, hnested⟩ := exists_merged_of_value_built hw (hstates [])
      simp only [hnested] at hstates
      cases below with
      | nil =>
          show some (Value.object shape (statements shape fields staged).value) = some (.object shape fields)
          rw [statements_eq_self staged shape hstates]
      | cons first below => exact statements_unchanged staged shape hstates
  | .scalar _ _, _, _, _, hstates, _, hw => by
      rw [value_built_eq_none (fun _ h => by cases h) (hstates [])] at hw
      cases hw
  | .bound _ _, _, _, _, hstates, _, hw => by
      rw [value_built_eq_none (fun _ h => by cases h) (hstates [])] at hw
      cases hw
  | .collection _ _ _, _, _, _, hstates, _, hw => by
      rw [value_built_eq_none (fun _ h => by cases h) (hstates [])] at hw
      cases hw
  | .pending _, _, _, _, hstates, _, hw => by
      rw [value_built_eq_none (fun _ h => by cases h) (hstates [])] at hw
      cases hw

/-- Statements that state nothing at all leave an object as it is. -/
theorem statements_eq_self : ∀ (staged : List StagedField) (target : Shape) {fields : Fields},
    (∀ path, fieldsState target fields path staged = false) → (statements target fields staged).value = fields
  | [], _, _, _ => rfl
  | ⟨name, v, location⟩ :: rest, target, fields, hstates => by
      have hone : (statements target fields [⟨name, v, location⟩]).value = fields := by
        rcases value_statement_cases target fields ⟨name, v, location⟩ with
          heq | ⟨type, w, htype, hbuilt, heq⟩
        · exact heq
        · have hsame : w.at? [] = (fields.get? name).bind (·.at? []) :=
            built_unchanged location v type
              (fun more => (of_fieldsState_cons (hstates (name :: more))).1 type more htype rfl) w hbuilt
          rw [Value.bind_at?_nil] at hsame
          rw [heq]
          exact Fields.set_eq_self hsame.symm
      rw [← List.singleton_append, value_statements_append, hone]
      exact statements_eq_self rest target fun path => (of_fieldsState_cons (hstates path)).2.2

/-- **UNCHANGED**: where statements state neither the value at the end of a path nor anything below it, they
    leave it as it was. -/
theorem statements_unchanged : ∀ (staged : List StagedField) (target : Shape) {fields : Fields}
    {first : String} {below : List String},
      (∀ more, fieldsState target fields (first :: (below ++ more)) staged = false) →
      ((statements target fields staged).value.get? first).bind (·.at? below)
        = (fields.get? first).bind (·.at? below)
  | [], _, _, _, _, _ => rfl
  | ⟨name, v, location⟩ :: rest, target, fields, first, below, hstates => by
      have hone : ((statements target fields [⟨name, v, location⟩]).value.get? first).bind (·.at? below)
          = (fields.get? first).bind (·.at? below) := by
        rcases value_statement_cases target fields ⟨name, v, location⟩ with
          heq | ⟨type, w, htype, hbuilt, heq⟩
        · rw [heq]
        · rw [heq, Fields.get?_set]
          split
          · rename_i hname
            subst hname
            exact built_unchanged location v type
              (fun more => (of_fieldsState_cons (hstates more)).1 type _ htype rfl) w hbuilt
          · rfl
      rw [← List.singleton_append, value_statements_append, ← hone]
      refine statements_unchanged rest target ?_
      intro more
      obtain ⟨-, hfirst, hrest⟩ := of_fieldsState_cons (hstates more)
      rw [← fieldsState_congr rest target (statements_agree _ target hfirst)]
      exact hrest

end

/-! ## Objects -/

/-- What a statement about an object makes of the fields, where the field it is about is declared for objects:
    nothing if the type does not fit; else the object there, with its own type and its fields gone on from, or
    if there is none of a type that derives from the stated one, a fresh one of that type. -/
structure ObjectApplied (fields : Fields) (name declared : String) (o : StagedObject) (after : Fields) :
    Prop where
  refused : o.type.isA declared = false → after = fields
  merged : o.type.isA declared = true → ∀ shape old, fields.get? name = some (.object shape old) →
    shape.isA o.type.qualified = true →
    after = fields.set name (.object shape (statements shape old o.fields).value)
  fresh : o.type.isA declared = true →
    (∀ shape old, fields.get? name = some (.object shape old) → shape.isA o.type.qualified = false) →
    after = fields.set name (.object o.type.shape (statements o.type.shape o.type.defaults o.fields).value)

theorem startingObject_fresh {stated : Descriptor} {existing : Option Value}
    (h : ∀ shape old, existing = some (.object shape old) → shape.isA stated.qualified = false) :
    startingObject stated existing = (stated.shape, stated.defaults) := by
  rw [startingObject.eq_def]
  split
  · rename_i shape old
    exact if_neg (Bool.eq_false_iff.mp (h shape old rfl))
  · rfl

theorem objectApplied {target : Shape} (fields : Fields) {f : StagedField} {declared : String}
    {o : StagedObject} (htype : target.field? f.name = some (.object declared)) (hf : f.value = .object o) :
    ObjectApplied fields f.name declared o (statements target fields [f]).value := by
  obtain ⟨stated, inner, place⟩ := o
  rw [value_statement htype, hf]
  constructor
  · intro hisA
    rw [built_object]
    simp only [hisA, Bool.false_eq_true, if_false]
    rfl
  · intro hisA shape old hold hshape
    rw [built_object_fit _ _ hisA, hold, startingObject_merged hshape]
    rfl
  · intro hisA hnone
    rw [built_object_fit _ _ hisA, startingObject_fresh hnone]
    rfl

/-- What statements about an object leave of its fields. -/
structure Framed (target : Shape) (fields : Fields) (staged : List StagedField) (after : Fields) : Prop where
  /-- No field is taken away. -/
  kept : ∀ name, (fields.get? name).isSome = true → (after.get? name).isSome = true
  /-- What is not stated is as it was: the same value or, since the fields of an object have paths of their
      own, an object of the same type. -/
  alike : ∀ path, fieldsState target fields path staged = false →
    (after.at? path).map Value.outer = (fields.at? path).map Value.outer
  /-- An object of whose fields none is stated either is the same as a whole. -/
  unchanged : ∀ path, (∀ below, fieldsState target fields (path ++ below) staged = false) →
    after.at? path = fields.at? path
  /-- Each statement about an object, when its turn comes. -/
  objects : ∀ before f o declared, before ++ [f] <+: staged → f.value = .object o →
    target.field? f.name = some (.object declared) →
    ObjectApplied (statements target fields before).value f.name declared o
      (statements target fields (before ++ [f])).value

/-- **FRAMED**: statements change what they state, and nothing else. -/
theorem framed_statements (target : Shape) (fields : Fields) (staged : List StagedField) :
    Framed target fields staged (statements target fields staged).value where
  kept := fun _ h => isSome_get?_statements target h staged
  alike := by
    intro path hstates
    cases path with
    | nil => rfl
    | cons first below => exact (statements_agree staged target hstates).at?.symm
  unchanged := by
    intro path hstates
    cases path with
    | nil => rfl
    | cons first below => exact statements_unchanged staged target hstates
  objects := by
    intro before f o declared _ hf htype
    rw [value_statements_append]
    exact objectApplied _ htype hf

/-- The squire's blade gets a weight from a statement about gear, and keeps its edge and its type. -/
example :
    let bladeShape := (Registry.complete Session.bladeType (some Session.gearType)).shape
    let blade : Value := .object bladeShape [("edge", .text "keen")]
    let weight : StagedField := ⟨"weight", .scalar "int" (.int 3), ⟨"knights", 1⟩⟩
    let staged : List StagedField :=
      [⟨"gear", .object ⟨Session.gearType, [weight], ⟨"knights", 1⟩⟩, ⟨"knights", 1⟩⟩]
    [["gear"], ["gear", "edge"], ["gear", "weight"]].map
        (fun path => fieldsState Session.fighterType.shape [("gear", blade)] path staged)
      = [false, false, true] := by
  decide

end Application

end Archetype
