import Archetype.Proofs.Declarations
import Archetype.Proofs.Redeclaration
import Mathlib.Order.Defs.Unbundled

/-! # What declarations are flattened to

    A built registry has one type for each declaration, and says of it what the declarations say
    (`Flattens`): where the base stands, which fields of the base are kept, which are declared again, and
    what the names in them stand for.

    The registry builds the types one after the other, in an order with bases first, and looks up the base of
    each among those that it has built.  A type that has been built stays as it is, and so does its base
    (`Built.completeAt`).  So in the end each type is its base with its own fields joined to it
    (`Completions`), and what is to be said of all types goes by induction from base to derived type
    (`Completions.induction`). -/

namespace Archetype

namespace Registry

/-! ## What a field type is resolved to -/

/-- The declared type that a name stands for where another type uses it. -/
def StandsFor (declarations : List Descriptor) (user : TypeHead) (name : String) (target : Descriptor) :
    Prop :=
  ∃ i, standsFor? declarations user name = some i ∧ declarations[i]? = some target

/-- A field type as it is declared, and with the names in it resolved from where it is declared: an object
    type has the qualified name of a composite type, or becomes a reference to a prototype type. -/
inductive Resolves (declarations : List Descriptor) (owner : TypeHead) : FieldType → FieldType → Prop
  | scalar (converter : String) : Resolves declarations owner (.scalar converter) (.scalar converter)
  | object {name : String} {target : Descriptor} (hname : StandsFor declarations owner name target)
      (hkind : target.kind = .composite) :
      Resolves declarations owner (.object name) (.object target.qualified)
  | turned {name : String} {target : Descriptor} (hname : StandsFor declarations owner name target)
      (hkind : target.kind = .prototype) :
      Resolves declarations owner (.object name) (.reference target.qualified)
  | reference {name : String} {target : Descriptor} (hname : StandsFor declarations owner name target)
      (hkind : target.kind = .prototype) :
      Resolves declarations owner (.reference name) (.reference target.qualified)
  | collection {element resolved : FieldType} (kind : CollectionKind)
      (helement : Resolves declarations owner element resolved) :
      Resolves declarations owner (.collection kind element) (.collection kind resolved)

/-- A field as it is declared, and with its type resolved. -/
structure ResolvesField (declarations : List Descriptor) (owner : TypeHead) (declared resolved : Field) :
    Prop where
  name : resolved.name = declared.name
  default : resolved.default = declared.default
  type : Resolves declarations owner declared.type resolved.type

/-- The fields that a type declares itself, in order and with their types resolved. -/
def OwnFields (declarations : List Descriptor) (type : Descriptor) (own : List Field) : Prop :=
  List.Forall₂ (ResolvesField declarations type.toTypeHead) type.declared own

variable {declarations types : List Descriptor}

theorem kind_of_isPrototype {type : TypeHead} :
    (type.isPrototype = true → type.kind = .prototype) ∧
      (¬type.isPrototype = true → type.kind = .composite) := by
  rw [TypeHead.isPrototype]
  cases type.kind <;> simp

theorem resolves_of_ok {owner : TypeHead} {field : String} {type resolved : FieldType}
    (h : resolveType (heads declarations) owner field type = .ok resolved) :
    Resolves declarations owner type resolved := by
  induction type generalizing resolved with
  | scalar converter =>
      cases h
      exact .scalar converter
  | object name =>
      obtain ⟨target, htarget, h⟩ := bind_eq_ok_iff.mp h
      obtain ⟨i, type, hi, htype, rfl⟩ := named_eq_ok_iff.mp htarget
      by_cases hkind : type.isPrototype = true
      · rw [if_pos hkind] at h
        cases h
        exact .turned ⟨i, hi, htype⟩ (kind_of_isPrototype.1 hkind)
      · rw [if_neg hkind] at h
        cases h
        exact .object ⟨i, hi, htype⟩ (kind_of_isPrototype.2 hkind)
  | reference name =>
      obtain ⟨target, htarget, h⟩ := bind_eq_ok_iff.mp h
      obtain ⟨i, type, hi, htype, rfl⟩ := named_eq_ok_iff.mp htarget
      split at h
      · rename_i hkind
        cases h
        exact .reference ⟨i, hi, htype⟩ (kind_of_isPrototype.1 hkind)
      · cases h
  | collection kind element ih =>
      obtain ⟨inner, hinner, h⟩ := bind_eq_ok_iff.mp h
      cases h
      exact .collection kind (ih hinner)

theorem ownFields_of_ok {type resolved : Descriptor}
    (h : resolveFields (heads declarations) type = .ok resolved) :
    OwnFields declarations type (deriveFields [] resolved.fields) ∧
      resolved.toTypeHead = type.toTypeHead := by
  refine ⟨?_, head_of_resolveFields h⟩
  obtain ⟨fields, hfields, h⟩ := bind_eq_ok_iff.mp h
  cases h
  refine forall₂_deriveFields (fun _ _ h => h.name.symm) ?_ .nil
  refine (forall₂_of_mapM hfields).imp fun f g hfield => ?_
  obtain ⟨type, htype, h⟩ := bind_eq_ok_iff.mp hfield
  cases h
  exact ⟨rfl, rfl, resolves_of_ok htype⟩

theorem OwnFields.names {type : Descriptor} {own : List Field} (h : OwnFields declarations type own) :
    own.map (·.name) = type.declared.map (·.name) := by
  rw [OwnFields] at h
  generalize type.declared = fields at h ⊢
  induction h with
  | nil => rfl
  | cons hfield _ ih => exact congrArg₂ List.cons hfield.name ih

theorem OwnFields.nodup {type : Descriptor} {own : List Field} (h : OwnFields declarations type own) :
    (own.map (·.name)).Nodup := by
  rw [h.names]
  exact nodup_deriveFields type.fields List.nodup_nil

/-! ## Types completed one step at a time -/

/-- A declared type with its own fields, completed by the type that it derives from. -/
def completedBy (d : Descriptor) (own : List Field) : Option Descriptor → Descriptor
  | none => { d with ancestors := [], fields := own }
  | some b =>
    { d with
      base := some b.qualified
      ancestors := b.qualified :: b.ancestors
      fields := joined b.fields own }

/-- Completing replaces the fields. -/
theorem completedBy_congr {d e : Descriptor} (h : d.toTypeHead = e.toTypeHead) {own : List Field}
    {b : Option Descriptor} : completedBy d own b = completedBy e own b := by
  obtain ⟨head, fields⟩ := d
  obtain ⟨head', fields'⟩ := e
  obtain rfl : head = head' := h
  cases b <;> rfl

theorem isA_completedBy_none {d : Descriptor} {own : List Field} {name : String} :
    (completedBy d own none).isA name = true ↔ d.qualified = name := by
  show (d.qualified == name || false) = true ↔ _
  rw [Bool.or_false, beq_iff_eq]

theorem isA_completedBy_some {d b : Descriptor} {own : List Field} {name : String} :
    (completedBy d own (some b)).isA name = true ↔ d.qualified = name ∨ b.isA name = true := by
  show (d.qualified == name || (b.qualified :: b.ancestors).contains name) = true ↔ _
  rw [List.contains_cons, Bool.or_eq_true_iff, beq_iff_eq, BEq.comm]
  rfl

/-- How the type at a position comes about: it derives from nothing, or from the type that stands at the
    position of its base. -/
def CompletedFrom (declarations types : List Descriptor) (i : Nat) (d : Descriptor) (own : List Field) :
    Prop :=
  (d.base = none ∧ types[i]? = some (completedBy d own none)) ∨
    ∃ j b, IsBase declarations i j ∧ types[j]? = some b ∧ types[i]? = some (completedBy d own (some b))

/-- Types that stand at the positions of their declarations, each of them completed by its base. -/
structure Completions (declarations types : List Descriptor) : Prop where
  wellFormed : WellFormed declarations
  length : types.length = declarations.length
  each : ∀ i d, declarations[i]? = some d →
    ∃ own, OwnFields declarations d own ∧ CompletedFrom declarations types i d own

/-- A type is completed by its base as it is with its own fields joined to those of the base. -/
theorem complete_eq_completedBy (d : Descriptor) {base : Option Descriptor}
    (h : ∀ b, base = some b → (b.fields.map (·.name)).Nodup) :
    complete d base = completedBy d (deriveFields [] d.fields) base := by
  cases base with
  | none => rfl
  | some b =>
      show { d with base := _, ancestors := _, fields := deriveFields b.fields d.fields } = _
      rw [deriveFields_eq_joined (h b rfl)]
      rfl

/-! ## Types built one after the other -/

section Building

variable {resolved : List Descriptor} {bases : List (Option Nat)} {built : List (Option Descriptor)}
  {done order : List Nat} {i j : Nat}

/-- How far the types have been built: those at the positions that are done are complete, each by what has been
    built at the position of its base. -/
structure Built (resolved : List Descriptor) (bases : List (Option Nat)) (done : List Nat)
    (built : List (Option Descriptor)) : Prop where
  length : built.length = resolved.length
  complete : ∀ i ∈ done, ∀ d, resolved[i]? = some d →
    built[i]? = some (some (complete d (builtBase? bases built i)))
  nodup : ∀ (i : Nat) (t : Descriptor), built[i]? = some (some t) → (t.fields.map (·.name)).Nodup

/-- Nothing has been built. -/
theorem built_replicate (resolved : List Descriptor) (bases : List (Option Nat)) :
    Built resolved bases [] (List.replicate resolved.length none) where
  length := List.length_replicate
  complete := fun _ hi => absurd hi List.not_mem_nil
  nodup := by
    intro i t ht
    rw [List.getElem?_replicate] at ht
    split at ht <;> cases ht

theorem builtBase?_eq_some_iff {b : Descriptor} :
    builtBase? bases built i = some b ↔ ∃ j, Ancestry.Step bases i j ∧ built[j]? = some (some b) := by
  rw [builtBase?, Option.bind_eq_some_iff]
  simp only [Option.join_eq_some_iff]
  rfl

theorem Built.nodup_base (h : Built resolved bases done built) (b : Descriptor)
    (hb : builtBase? bases built i = some b) : (b.fields.map (·.name)).Nodup := by
  obtain ⟨j, -, hj⟩ := builtBase?_eq_some_iff.mp hb
  exact h.nodup j b hj

/-- What is built at one position is not seen by types whose bases stand elsewhere. -/
theorem builtBase?_set {t : Option Descriptor} (hne : ∀ k, Ancestry.Step bases j k → k ≠ i) :
    builtBase? bases (built.set i t) j = builtBase? bases built j := by
  rw [builtBase?, builtBase?]
  cases hbase : (bases[j]?).join with
  | none => rfl
  | some k =>
      have hk : i ≠ k := Ne.symm (hne k (Option.join_eq_some_iff.mp hbase))
      show ((built.set i t)[k]?).join = (built[k]?).join
      rw [List.getElem?_set_ne hk]

/-- **STEP**: building one more type, after its base, leaves those that are complete as they are. -/
theorem Built.completeAt (h : Built resolved bases done built) (hdone : Ancestry.Sorted bases done)
    (hi : i < resolved.length) (hnew : i ∉ done) (hbase : ∀ k, Ancestry.Step bases i k → k ∈ done) :
    Built resolved bases (done ++ [i]) (completeAt resolved bases built i) := by
  have hd : resolved[i]? = some resolved[i] := List.getElem?_eq_getElem hi
  have hlt : i < built.length := h.length.symm ▸ hi
  rw [Registry.completeAt, hd]
  -- the base of no type that is done, nor of this one, stands where the new one is built
  have hbases {j : Nat} (hj : j ∈ done ∨ j = i) : ∀ k, Ancestry.Step bases j k → k ≠ i := by
    rintro k hstep rfl
    rcases hj with hold | rfl
    · exact hnew (hdone.closed hold hstep)
    · exact hnew (hbase _ hstep)
  refine ⟨by rw [List.length_set, h.length], fun j hj d hjd => ?_, fun j t ht => ?_⟩
  · rcases List.mem_append.mp hj with hold | hlast
    · have hne : i ≠ j := fun heq => hnew (heq ▸ hold)
      rw [List.getElem?_set_ne hne, builtBase?_set (hbases (Or.inl hold)), h.complete j hold d hjd]
    · obtain rfl := List.mem_singleton.mp hlast
      obtain rfl := Option.some.inj (hd.symm.trans hjd)
      rw [List.getElem?_set_self hlt, builtBase?_set (hbases (Or.inr rfl))]
  · rw [List.getElem?_set] at ht
    split at ht
    · rw [← Option.some.inj (Option.some.inj ht)]
      exact nodup_complete _ h.nodup_base
    · exact h.nodup j t ht

/-- **RUN**: after an order with bases first, all types in it are complete. -/
theorem built_foldl (hlength : bases.length = resolved.length) (horder : Ancestry.Sorted bases order) :
    Built resolved bases order
      (order.foldl (completeAt resolved bases) (List.replicate resolved.length none)) := by
  induction horder with
  | nil => exact built_replicate resolved bases
  | snoc horder hi hnew hparent ih =>
      rw [List.foldl_append]
      exact ih.completeAt horder (hlength ▸ hi) hnew hparent

end Building

/-- What the types are built from when the checks have passed: the declarations with the names in their fields
    resolved, the table of their bases, and an order with bases first. -/
structure Checked (declarations resolved : List Descriptor) (bases : List (Option Nat)) (order : List Nat) :
    Prop where
  table : (heads declarations).mapM (baseOf (heads declarations)) = .ok bases
  fields : declarations.mapM (resolveFields (heads declarations)) = .ok resolved
  sorted : Ancestry.Sorted bases order
  all : ∀ i < bases.length, i ∈ order

theorem exists_checked (h : typesOf declarations = .ok types) :
    ∃ resolved bases order, Checked declarations resolved bases order ∧
      types = completeAll resolved bases order := by
  obtain ⟨-, bases, hbases, resolved, hresolved, order, horder, rfl⟩ := typesOf_eq_ok_iff.mp h
  obtain ⟨hsorted, hall⟩ := Ancestry.sorted_of_sort (inside_bases hbases) (baseOrder_eq_ok_iff.mp horder)
  exact ⟨resolved, bases, order, ⟨hbases, hresolved, hsorted, hall⟩, rfl⟩

namespace Checked

variable {resolved : List Descriptor} {bases : List (Option Nat)} {order : List Nat} {i j : Nat}
  {d : Descriptor}

theorem length_resolved (h : Checked declarations resolved bases order) :
    resolved.length = declarations.length :=
  (forall₂_of_mapM h.fields).length_eq.symm

/-- A declaration has its position with its own fields resolved, and is otherwise as it was. -/
theorem exists_resolved (h : Checked declarations resolved bases order) (hd : declarations[i]? = some d) :
    ∃ r, resolved[i]? = some r ∧ OwnFields declarations d (deriveFields [] r.fields) ∧
      ∀ own b, completedBy r own b = completedBy d own b := by
  obtain ⟨hi, rfl⟩ := List.getElem?_eq_some_iff.mp hd
  have hin : i < resolved.length := h.length_resolved ▸ hi
  have hpair := (List.forall₂_iff_get.mp (forall₂_of_mapM h.fields)).2 i hi hin
  obtain ⟨hown, hhead⟩ := ownFields_of_ok hpair
  exact ⟨_, List.getElem?_eq_getElem hin, hown, fun _ _ => completedBy_congr hhead⟩

/-- The types that have been built in the end. -/
theorem exists_built (h : Checked declarations resolved bases order) :
    ∃ built, Built resolved bases order built ∧ completeAll resolved bases order = built.filterMap id := by
  have hlength : bases.length = resolved.length := by
    rw [length_bases h.table, h.length_resolved]
  exact ⟨_, built_foldl hlength h.sorted, rfl⟩

/-- Each declaration has been built: completed by nothing if it has no base, else by what has been built of its
    base. -/
theorem exists_completed (h : Checked declarations resolved bases order) {built : List (Option Descriptor)}
    (hbuilt : Built resolved bases order built) (hd : declarations[i]? = some d) :
    ∃ own, OwnFields declarations d own ∧
      built[i]? = some (some (completedBy d own (builtBase? bases built i))) := by
  obtain ⟨r, hr, hown, hsame⟩ := h.exists_resolved hd
  have hi : i ∈ order := h.all i (length_bases h.table ▸ (List.getElem?_eq_some_iff.mp hd).1)
  refine ⟨_, hown, ?_⟩
  rw [hbuilt.complete i hi r hr, complete_eq_completedBy r hbuilt.nodup_base, hsame]

/-- So there are no gaps between the types. -/
theorem map_some_types (h : Checked declarations resolved bases order) {built : List (Option Descriptor)}
    (hbuilt : Built resolved bases order built) : (built.filterMap id).map some = built := by
  have hall : ∀ entry ∈ built, (id entry).isSome = true := by
    intro entry hentry
    obtain ⟨j, hj⟩ := List.mem_iff_getElem?.mp hentry
    have hlt : j < declarations.length := by
      rw [← h.length_resolved, ← hbuilt.length]
      exact (List.getElem?_eq_some_iff.mp hj).1
    obtain ⟨own, -, hat⟩ := h.exists_completed hbuilt (List.getElem?_eq_getElem hlt)
    rw [Option.some.inj (hj.symm.trans hat)]
    rfl
  rw [map_some_filterMap hall, List.map_id]

theorem length_types (h : Checked declarations resolved bases order) {built : List (Option Descriptor)}
    (hbuilt : Built resolved bases order built) : (built.filterMap id).length = declarations.length := by
  have hlength := congrArg List.length (h.map_some_types hbuilt)
  rwa [List.length_map, hbuilt.length, h.length_resolved] at hlength

/-- A type stands where it has been built. -/
theorem getElem?_types (h : Checked declarations resolved bases order) {built : List (Option Descriptor)}
    (hbuilt : Built resolved bases order built) {t : Descriptor} (ht : built[i]? = some (some t)) :
    (built.filterMap id)[i]? = some t := by
  have hat := congrArg (·[i]?) (h.map_some_types hbuilt)
  simp only [List.getElem?_map] at hat
  obtain ⟨u, hu, heq⟩ := Option.map_eq_some_iff.mp (hat.trans ht)
  rw [hu, heq]

end Checked

/-- **COMPLETIONS**: what is built from declarations are their types, each completed by its base. -/
theorem completions_of_typesOf (h : typesOf declarations = .ok types) :
    Completions declarations types := by
  have hwellFormed := exists_typesOf_iff.mp ⟨types, h⟩
  obtain ⟨resolved, bases, order, hchecked, rfl⟩ := exists_checked h
  obtain ⟨built, hbuilt, htypes⟩ := hchecked.exists_built
  rw [htypes]
  refine ⟨hwellFormed, hchecked.length_types hbuilt, fun i d hd => ?_⟩
  obtain ⟨own, hown, hcompleted⟩ := hchecked.exists_completed hbuilt hd
  obtain ⟨base, hbase, hok⟩ := baseOf_getElem? hchecked.table hd
  refine ⟨own, hown, ?_⟩
  rcases baseOf_eq_ok_iff.mp hok with ⟨hnone, rfl⟩ | ⟨name, j, hname, hj, rfl⟩
  · refine Or.inl ⟨hnone, hchecked.getElem?_types hbuilt ?_⟩
    rw [hcompleted, builtBase?, hbase]
    rfl
  · obtain ⟨e, he⟩ := exists_of_standsFor? hj
    obtain ⟨above, -, hb⟩ := hchecked.exists_completed hbuilt he
    rw [builtBase?_eq_some_iff.mpr ⟨j, hbase, hb⟩] at hcompleted
    exact Or.inr ⟨j, _, ⟨d, name, hd, hname, hj⟩, hchecked.getElem?_types hbuilt hb,
      hchecked.getElem?_types hbuilt hcompleted⟩

/-! ## From base to derived type -/

theorem IsBase.unique {i j k : Nat} (hj : IsBase declarations i j) (hk : IsBase declarations i k) :
    j = k := by
  obtain ⟨d, name, hd, hname, hj⟩ := hj
  obtain ⟨e, other, he, hother, hk⟩ := hk
  obtain rfl := Option.some.inj (hd.symm.trans he)
  obtain rfl := Option.some.inj (hname.symm.trans hother)
  exact Option.some.inj (hj.symm.trans hk)

theorem not_isBase_of_root {i j : Nat} {d : Descriptor} (hd : declarations[i]? = some d)
    (hroot : d.base = none) : ¬IsBase declarations i j := by
  rintro ⟨e, name, he, hname, -⟩
  obtain rfl := Option.some.inj (hd.symm.trans he)
  cases hroot.symm.trans hname

namespace Completions

variable {i j : Nat} {t u : Descriptor}

/-- A type stands where its declaration does. -/
theorem exists_declaration (h : Completions declarations types) (ht : types[i]? = some t) :
    ∃ d, declarations[i]? = some d := by
  have hi := (List.getElem?_eq_some_iff.mp ht).1
  exact ⟨_, List.getElem?_eq_getElem (h.length ▸ hi)⟩

/-- What holds of a type that derives from nothing, and of a type if it holds of its base, holds of every
    type. -/
theorem induction (h : Completions declarations types)
    {motive : (i : Nat) → (t : Descriptor) → types[i]? = some t → Prop}
    (root : ∀ i d own, declarations[i]? = some d → d.base = none → OwnFields declarations d own →
      ∀ hat : types[i]? = some (completedBy d own none), motive i _ hat)
    (derived : ∀ i j d own b, declarations[i]? = some d → IsBase declarations i j →
      OwnFields declarations d own → ∀ (hb : types[j]? = some b)
        (hat : types[i]? = some (completedBy d own (some b))), motive j b hb → motive i _ hat)
    (i : Nat) (t : Descriptor) (ht : types[i]? = some t) : motive i t ht := by
  -- a base has fewer ancestors
  induction hn : t.ancestors.length using Nat.strong_induction_on generalizing i t with
  | _ n ih =>
      obtain ⟨d, hd⟩ := h.exists_declaration ht
      obtain ⟨own, hown, ⟨hroot, hat⟩ | ⟨j, b, hbase, hb, hat⟩⟩ := h.each i d hd
      · obtain rfl := Option.some.inj (ht.symm.trans hat)
        exact root i d own hd hroot hown hat
      · obtain rfl := Option.some.inj (ht.symm.trans hat)
        have hfewer : b.ancestors.length < n := by
          rw [← hn]
          exact Nat.lt_succ_self _
        exact derived i j d own b hd hbase hown hb hat (ih _ hfewer j b hb rfl)

theorem head (h : Completions declarations types) {d : Descriptor} (hd : declarations[i]? = some d)
    (ht : types[i]? = some t) :
    t.name = d.name ∧ t.scope = d.scope ∧ t.kind = d.kind ∧ t.isAbstract = d.isAbstract := by
  obtain ⟨own, -, ⟨-, hat⟩ | ⟨j, b, -, -, hat⟩⟩ := h.each i d hd
  · obtain rfl := Option.some.inj (ht.symm.trans hat)
    exact ⟨rfl, rfl, rfl, rfl⟩
  · obtain rfl := Option.some.inj (ht.symm.trans hat)
    exact ⟨rfl, rfl, rfl, rfl⟩

theorem qualified_eq (h : Completions declarations types) {d : Descriptor} (hd : declarations[i]? = some d)
    (ht : types[i]? = some t) : t.qualified = d.qualified := by
  obtain ⟨hname, hscope, -⟩ := h.head hd ht
  rw [TypeHead.qualified, TypeHead.qualified, hname, hscope]

/-- What types and their declarations have in common, they have in the same order. -/
theorem map_eq {α : Type} {f : Descriptor → α} (h : Completions declarations types)
    (hsame : ∀ (i : Nat) (d t : Descriptor), declarations[i]? = some d → types[i]? = some t → f t = f d) :
    types.map f = declarations.map f := by
  refine List.ext_getElem? fun i => ?_
  rw [List.getElem?_map, List.getElem?_map]
  cases ht : types[i]? with
  | none =>
      have hi := List.getElem?_eq_none_iff.mp ht
      rw [List.getElem?_eq_none_iff.mpr (h.length ▸ hi)]
  | some t =>
      obtain ⟨d, hd⟩ := h.exists_declaration ht
      rw [hd]
      exact congrArg some (hsame i d t hd ht)

theorem map_qualified (h : Completions declarations types) :
    types.map (·.qualified) = declarations.map (·.qualified) :=
  h.map_eq fun _ _ _ => h.qualified_eq

theorem distinct (h : Completions declarations types) : (types.map (·.qualified)).Nodup := by
  rw [h.map_qualified]
  exact h.wellFormed.distinct

theorem eq_of_qualified (h : Completions declarations types) (ht : t ∈ types) (hu : u ∈ types)
    (hsame : t.qualified = u.qualified) : t = u :=
  List.inj_on_of_nodup_map h.distinct ht hu hsame

theorem position_unique (h : Completions declarations types) (ht : types[i]? = some t)
    (hu : types[j]? = some u) (hsame : t.qualified = u.qualified) : i = j := by
  have hi := (List.getElem?_eq_some_iff.mp ht).1
  refine (List.getElem?_inj (by rwa [List.length_map]) h.distinct).mp ?_
  rw [List.getElem?_map, List.getElem?_map, ht, hu]
  exact congrArg some hsame

/-- No two fields of a type have one name. -/
theorem nodup_fields (h : Completions declarations types) (ht : types[i]? = some t) :
    (t.fields.map (·.name)).Nodup := by
  induction i, t, ht using h.induction with
  | root i d own hd hroot hown hat => exact hown.nodup
  | derived i j d own b hd hbase hown hb hat ih => exact nodup_joined ih hown.nodup

/-- Every field is one that the type or a type above it declares, with the names in it resolved there. -/
theorem exists_declared (h : Completions declarations types) (ht : types[i]? = some t) {f : Field}
    (hf : f ∈ t.fields) :
    ∃ j d, Relation.ReflTransGen (IsBase declarations) i j ∧ declarations[j]? = some d ∧
      ∃ g ∈ d.declared, ResolvesField declarations d.toTypeHead g f := by
  have hpair {d : Descriptor} {own : List Field} (hown : OwnFields declarations d own) (hf : f ∈ own) :
      ∃ g ∈ d.declared, ResolvesField declarations d.toTypeHead g f :=
    exists_of_forall₂_right hown hf
  induction i, t, ht using h.induction with
  | root i d own hd hroot hown hat => exact ⟨i, d, .refl, hd, hpair hown hf⟩
  | derived i j d own b hd hbase hown hb hat ih =>
      rcases mem_joined hf with hkept | hnew
      · obtain ⟨k, e, habove, he, hdeclared⟩ := ih hkept
        exact ⟨k, e, .head hbase habove, he, hdeclared⟩
      · exact ⟨i, d, .refl, hd, hpair hown hnew⟩

/-- A type is the types that are reached from it by going from base to base. -/
theorem isA_iff (h : Completions declarations types) (ht : types[i]? = some t) (name : String) :
    t.isA name = true ↔
      ∃ j u, Relation.ReflTransGen (IsBase declarations) i j ∧ types[j]? = some u ∧ u.qualified = name := by
  induction i, t, ht using h.induction with
  | root i d own hd hroot hown hat =>
      rw [isA_completedBy_none]
      constructor
      · intro hself
        exact ⟨i, _, .refl, hat, hself⟩
      · rintro ⟨j, u, hreach, hu, rfl⟩
        rcases hreach.cases_head with rfl | ⟨k, hbase, -⟩
        · rw [← Option.some.inj (hat.symm.trans hu)]
          rfl
        · exact absurd hbase (not_isBase_of_root hd hroot)
  | derived i j d own b hd hbase hown hb hat ih =>
      rw [isA_completedBy_some, ih]
      constructor
      · rintro (hself | ⟨k, u, hreach, hu, hname⟩)
        · exact ⟨i, _, .refl, hat, hself⟩
        · exact ⟨k, u, .head hbase hreach, hu, hname⟩
      · rintro ⟨k, u, hreach, hu, rfl⟩
        rcases hreach.cases_head with rfl | ⟨next, hnext, habove⟩
        · rw [← Option.some.inj (hat.symm.trans hu)]
          exact Or.inl rfl
        · obtain rfl := hbase.unique hnext
          exact Or.inr ⟨k, u, habove, hu, rfl⟩

theorem isA_qualified_iff (h : Completions declarations types) (ht : types[i]? = some t)
    (hu : types[j]? = some u) :
    t.isA u.qualified = true ↔ Relation.ReflTransGen (IsBase declarations) i j := by
  rw [h.isA_iff ht]
  constructor
  · rintro ⟨k, v, hreach, hv, hname⟩
    rwa [h.position_unique hu hv hname.symm]
  · intro hreach
    exact ⟨j, u, hreach, hu, rfl⟩

/-- Deriving orders the types: no type is led back to by going from base to base. -/
theorem isPartialOrder (h : Completions declarations types) :
    IsPartialOrder {t // t ∈ types} fun t u => t.1.isA u.1.qualified = true where
  refl := by
    rintro ⟨t, ht⟩
    obtain ⟨i, hi⟩ := List.mem_iff_getElem?.mp ht
    exact (h.isA_qualified_iff hi hi).mpr .refl
  trans := by
    rintro ⟨t, ht⟩ ⟨u, hu⟩ ⟨v, hv⟩ htu huv
    obtain ⟨i, hi⟩ := List.mem_iff_getElem?.mp ht
    obtain ⟨j, hj⟩ := List.mem_iff_getElem?.mp hu
    obtain ⟨k, hk⟩ := List.mem_iff_getElem?.mp hv
    have hij := (h.isA_qualified_iff hi hj).mp htu
    have hjk := (h.isA_qualified_iff hj hk).mp huv
    exact (h.isA_qualified_iff hi hk).mpr (hij.trans hjk)
  antisymm := by
    rintro ⟨t, ht⟩ ⟨u, hu⟩ htu hut
    obtain ⟨i, hi⟩ := List.mem_iff_getElem?.mp ht
    obtain ⟨j, hj⟩ := List.mem_iff_getElem?.mp hu
    have hij := (h.isA_qualified_iff hi hj).mp htu
    have hji := (h.isA_qualified_iff hj hi).mp hut
    refine Subtype.ext ?_
    rcases Relation.reflTransGen_iff_eq_or_transGen.mp hij with rfl | hsteps
    · exact Option.some.inj (hi.symm.trans hj)
    · exact absurd (hsteps.trans_left hji) (h.wellFormed.acyclic i)

/-- A type has the fields of a type above it. -/
theorem names_of_reflTransGen (h : Completions declarations types) (ht : types[i]? = some t)
    (hu : types[j]? = some u) (habove : Relation.ReflTransGen (IsBase declarations) i j) {name : String}
    (hname : name ∈ u.fields.map (·.name)) : name ∈ t.fields.map (·.name) := by
  induction i, t, ht using h.induction with
  | root i d own hd hroot hown hat =>
      rcases habove.cases_head with rfl | ⟨k, hbase, -⟩
      · rwa [Option.some.inj (hat.symm.trans hu)]
      · exact absurd hbase (not_isBase_of_root hd hroot)
  | derived i k d own b hd hbase hown hb hat ih =>
      rcases habove.cases_head with rfl | ⟨next, hnext, habove⟩
      · rwa [Option.some.inj (hat.symm.trans hu)]
      · obtain rfl := hbase.unique hnext
        exact mem_name_joined (ih habove)

end Completions

/-! ## Fields of built registries -/

section Built

variable {converters : ConverterSet} {r : Registry}

theorem completions_of_ok (h : ofDeclarations declarations converters = .ok r) :
    Completions declarations r.types := by
  obtain ⟨types, htypes, h⟩ := bind_eq_ok_iff.mp h
  cases h
  exact completions_of_typesOf htypes

/-- In a built registry the name of a field determines it. -/
theorem field?_of_mem (h : ofDeclarations declarations converters = .ok r) {type : Descriptor}
    (hmem : type ∈ r.types) {f : Field} (hf : f ∈ type.fields) : type.field? f.name = some f := by
  obtain ⟨i, hi⟩ := List.mem_iff_getElem?.mp hmem
  exact find?_of_nodup_map ((completions_of_ok h).nodup_fields hi) hf

/-- **DERIVED**: a type has every field of a type that it derives from. -/
theorem exists_field_of_isA (h : ofDeclarations declarations converters = .ok r) {type base : Descriptor}
    (htype : type ∈ r.types) (hbase : base ∈ r.types) (hisA : type.isA base.qualified = true)
    {name : String} {f : Field} (hf : base.field? name = some f) : ∃ g, type.field? name = some g := by
  have hcompletions := completions_of_ok h
  obtain ⟨i, hi⟩ := List.mem_iff_getElem?.mp htype
  obtain ⟨j, hj⟩ := List.mem_iff_getElem?.mp hbase
  have habove := (hcompletions.isA_qualified_iff hi hj).mp hisA
  have hname := Descriptor.exists_field?_iff.mp ⟨f, hf⟩
  exact Descriptor.exists_field?_iff.mpr (hcompletions.names_of_reflTransGen hi hj habove hname)

end Built

/-! ## The flattening of declarations -/

/-- Types that say what declarations say. -/
structure Flattens (declarations types : List Descriptor) : Prop where
  /-- There is one type for each declaration, in their order. -/
  length : types.length = declarations.length
  head : ∀ (i : Nat) (d t : Descriptor), declarations[i]? = some d → types[i]? = some t →
    t.name = d.name ∧ t.scope = d.scope ∧ t.kind = d.kind ∧ t.isAbstract = d.isAbstract
  /-- A type that derives from nothing has the fields that it declares. -/
  root : ∀ (i : Nat) (d t : Descriptor), declarations[i]? = some d → types[i]? = some t → d.base = none →
    t.base = none ∧ t.ancestors = [] ∧ OwnFields declarations d t.fields
  /-- A type that derives from another has the fields of that one, in order, those that it declares again in
      their places, and after them the other ones that it declares. -/
  derived : ∀ (i : Nat) (d t : Descriptor), declarations[i]? = some d → types[i]? = some t →
    d.base ≠ none →
      ∃ j b own, IsBase declarations i j ∧ types[j]? = some b ∧ OwnFields declarations d own ∧
        t.base = some b.qualified ∧ t.ancestors = b.qualified :: b.ancestors ∧
          t.fields = b.fields.map (redeclared own)
            ++ own.filter fun f => f.name ∉ b.fields.map (·.name)
  distinct : ∀ t ∈ types, (t.fields.map (·.name)).Nodup
  /-- A field is declared by the type or by one above it, and the names in its type are resolved there. -/
  resolved : ∀ i t, types[i]? = some t → ∀ f ∈ t.fields,
    ∃ j d, Relation.ReflTransGen (IsBase declarations) i j ∧ declarations[j]? = some d ∧
      ∃ g ∈ d.declared, ResolvesField declarations d.toTypeHead g f
  objects : ∀ t ∈ types, ∀ f ∈ t.fields, ∀ name, f.type.core = .object name →
    ∃ u ∈ types, u.qualified = name ∧ u.kind = .composite
  references : ∀ t ∈ types, ∀ f ∈ t.fields, ∀ name, f.type.core = .reference name →
    ∃ u ∈ types, u.qualified = name ∧ u.kind = .prototype
  isA : ∀ i t, types[i]? = some t → ∀ name, t.isA name = true ↔
    ∃ j u, Relation.ReflTransGen (IsBase declarations) i j ∧ types[j]? = some u ∧ u.qualified = name
  order : IsPartialOrder {t // t ∈ types} fun t u => t.1.isA u.1.qualified = true

/-- What a resolved type names is declared, and of the kind that it is named as. -/
theorem Resolves.exists_target {owner : TypeHead} {type resolved : FieldType} {name : String}
    {kind : TypeKind} (h : Resolves declarations owner type resolved)
    (hcore : resolved.core = .object name ∧ kind = .composite ∨
      resolved.core = .reference name ∧ kind = .prototype) :
    ∃ target ∈ declarations, target.qualified = name ∧ target.kind = kind := by
  induction h with
  | scalar converter => rcases hcore with ⟨hcore, -⟩ | ⟨hcore, -⟩ <;> cases hcore
  | object hname hkind =>
      obtain ⟨i, -, htarget⟩ := hname
      rcases hcore with ⟨hcore, rfl⟩ | ⟨hcore, -⟩
      · exact ⟨_, List.mem_of_getElem? htarget, FieldType.object.inj hcore, hkind⟩
      · cases hcore
  | turned hname hkind | reference hname hkind =>
      obtain ⟨i, -, htarget⟩ := hname
      rcases hcore with ⟨hcore, -⟩ | ⟨hcore, rfl⟩
      · cases hcore
      · exact ⟨_, List.mem_of_getElem? htarget, FieldType.reference.inj hcore, hkind⟩
  | collection kind helement ih => exact ih hcore

/-- What a field of a type names is a type of the kind that it is named as. -/
theorem Completions.exists_target (h : Completions declarations types) {t : Descriptor} (ht : t ∈ types)
    {f : Field} (hf : f ∈ t.fields) {name : String} {kind : TypeKind}
    (hcore : f.type.core = .object name ∧ kind = .composite ∨
      f.type.core = .reference name ∧ kind = .prototype) :
    ∃ u ∈ types, u.qualified = name ∧ u.kind = kind := by
  obtain ⟨i, hi⟩ := List.mem_iff_getElem?.mp ht
  obtain ⟨j, d, -, -, g, -, hfield⟩ := h.exists_declared hi hf
  obtain ⟨target, htarget, hname, hkind⟩ := hfield.type.exists_target hcore
  obtain ⟨k, hk⟩ := List.mem_iff_getElem?.mp htarget
  have hin : k < types.length := h.length ▸ (List.getElem?_eq_some_iff.mp hk).1
  have hu := List.getElem?_eq_getElem hin
  obtain ⟨-, -, hsameKind, -⟩ := h.head hk hu
  exact ⟨types[k], List.getElem_mem hin, (h.qualified_eq hk hu).trans hname, hsameKind.trans hkind⟩

theorem Completions.flattens (h : Completions declarations types) : Flattens declarations types where
  length := h.length
  head := fun _ _ _ => h.head
  root := by
    intro i d t hd ht hroot
    obtain ⟨own, hown, ⟨-, hat⟩ | ⟨j, b, hbase, -, -⟩⟩ := h.each i d hd
    · obtain rfl := Option.some.inj (ht.symm.trans hat)
      exact ⟨hroot, rfl, hown⟩
    · exact absurd hbase (not_isBase_of_root hd hroot)
  derived := by
    intro i d t hd ht hderived
    obtain ⟨own, hown, ⟨hroot, -⟩ | ⟨j, b, hbase, hb, hat⟩⟩ := h.each i d hd
    · exact absurd hroot hderived
    · obtain rfl := Option.some.inj (ht.symm.trans hat)
      exact ⟨j, b, own, hbase, hb, hown, rfl, rfl, rfl⟩
  distinct := by
    intro t ht
    obtain ⟨i, hi⟩ := List.mem_iff_getElem?.mp ht
    exact h.nodup_fields hi
  resolved := fun _ _ ht _ hf => h.exists_declared ht hf
  objects := fun _ ht _ hf _ hcore => h.exists_target ht hf (Or.inl ⟨hcore, rfl⟩)
  references := fun _ ht _ hf _ hcore => h.exists_target ht hf (Or.inr ⟨hcore, rfl⟩)
  isA := fun _ _ ht name => h.isA_iff ht name
  order := h.isPartialOrder

end Registry

namespace Draft

variable {d : Draft} {r : Registry}

theorem completions_of_build (h : d.build.value = .ok r) : Registry.Completions d.declarations r.types :=
  Registry.completions_of_ok (d.value_build ▸ h)

/-- **FLATTENED**: the types of a registry that is built say what its declarations say, in whatever order
    they are registered. -/
theorem flattens_of_build (h : d.build.value = .ok r) : Registry.Flattens d.declarations r.types :=
  (completions_of_build h).flattens

/-! ### A chieftain, declared before the warrior it derives from -/

/-- The rank is declared again, and the followers are the warriors of the same namespace. -/
def chieftainType : Descriptor :=
  (((Descriptor.prototype "Chieftain").inScope "Clan").derivedFrom "Clan.Warrior").declare
    ⟨"followers", .collection .list (.object "Warrior"), none⟩ |>.declare
    ⟨"rank", .scalar "int", some (.int 1)⟩

def warriorType : Descriptor :=
  ((Descriptor.prototype "Warrior").inScope "Clan").declare ⟨"rank", .scalar "string", none⟩ |>.declare
    ⟨"weapon", .object "Axe", none⟩

def axeType : Descriptor :=
  ((Descriptor.composite "Axe").inScope "Arms").declare ⟨"weight", .scalar "int", none⟩

def clanDraft : Draft where
  declarations := [chieftainType, warriorType, axeType]

theorem clan_flattened :
    ∃ r, clanDraft.build.value = .ok r ∧ Registry.Flattens clanDraft.declarations r.types ∧
      r.types.map (fun t => (t.qualified, t.ancestors, t.fields.map fun f => (f.name, f.type)))
        = [("Clan.Chieftain", ["Clan.Warrior"],
            [("rank", .scalar "int"), ("weapon", .object "Arms.Axe"),
              ("followers", .collection .list (.reference "Clan.Warrior"))]),
          ("Clan.Warrior", [], [("rank", .scalar "string"), ("weapon", .object "Arms.Axe")]),
          ("Arms.Axe", [], [("weight", .scalar "int")])] := by
  have hchecked : (clanDraft.build.value.toOption.any fun r =>
      r.types.map (fun t => (t.qualified, t.ancestors, t.fields.map fun f => (f.name, f.type)))
        == [("Clan.Chieftain", ["Clan.Warrior"],
            [("rank", .scalar "int"), ("weapon", .object "Arms.Axe"),
              ("followers", .collection .list (.reference "Clan.Warrior"))]),
          ("Clan.Warrior", [], [("rank", .scalar "string"), ("weapon", .object "Arms.Axe")]),
          ("Arms.Axe", [], [("weight", .scalar "int")])]) = true := by
    decide +kernel
  obtain ⟨r, hr, hsays⟩ := (Option.any_eq_true ..).mp hchecked
  have hbuilt := Registry.eq_ok_of_toOption hr
  exact ⟨r, hbuilt, flattens_of_build hbuilt, beq_iff_eq.mp hsays⟩

end Draft

end Archetype
