import Archetype.Proofs.Registry
import Archetype.Proofs.Sorting

/-! # Declarations that make a registry

    A list of declarations makes a registry exactly if it is well formed (`WellFormed`), which is said of the
    declarations alone: of their names, of what the names in them stand for, and of the relation of a type to
    its base.

    Each check asks for one of these things, and a traversal succeeds where it does so at each element.  Only
    the last check looks at more than one type.  It searches a table of positions for an order with bases first;
    that table is the relation (`step_iff_isBase`), so the search succeeds exactly where no type is led back to
    (`exists_sort_iff`), and what it runs into otherwise is a circle of bases (`circle_of_sort`). -/

namespace Archetype

theorem Lookup.lookup?_lt {types : List TypeHead} {name preferred : String} {i : Nat}
    (h : lookup? types name preferred = some i) : i < types.length := by
  have hfound {p : TypeHead → Bool} {j : Nat} (h : types.findIdx? p = some j) : j < types.length :=
    (List.findIdx?_eq_some_iff_findIdx_eq.mp h).1
  have hsimple {j : Nat} (h : candidate? types name preferred = some j) : j < types.length := by
    rw [candidate?] at h
    split at h
    · rename_i found hscope
      exact Option.some.inj h ▸ hfound hscope
    · exact hfound h
  rw [lookup?] at h
  -- the qualified name, or else the simple one if it has no dot
  split at h
  · rename_i found hqualified
    split at h
    · exact Option.some.inj h ▸ hfound hqualified
    · split at h
      · cases h
      · exact hsimple h
  · split at h
    · cases h
    · exact hsimple h

/-- What the elements of a collection are, and of the collections in it; any other type is itself. -/
def FieldType.core : FieldType → FieldType
  | .collection _ element => element.core
  | type => type

namespace Registry

/-- The position of the declared type that a name stands for where another type uses it. -/
def standsFor? (declarations : List Descriptor) (user : TypeHead) (name : String) : Option Nat :=
  Lookup.lookup? (heads declarations) name user.scope

/-- The type at position `j` is the base of the type at position `i`. -/
def IsBase (declarations : List Descriptor) (i j : Nat) : Prop :=
  ∃ type base, declarations[i]? = some type ∧ type.base = some base ∧
    standsFor? declarations type.toTypeHead base = some j

/-- What is asked of the names in the type of a field, in collections too: an object or a reference names a
    declared type, and a reference a prototype type. -/
structure Named (declarations : List Descriptor) (owner : TypeHead) (type : FieldType) : Prop where
  object : ∀ name, type.core = .object name → ∃ i, standsFor? declarations owner name = some i
  reference : ∀ name, type.core = .reference name →
    ∃ i target, standsFor? declarations owner name = some i ∧ declarations[i]? = some target ∧
      target.isPrototype = true

/-- Declarations that make a registry. -/
structure WellFormed (declarations : List Descriptor) : Prop where
  distinct : (declarations.map (·.qualified)).Nodup
  /-- The base of each type is declared. -/
  bases : ∀ type ∈ declarations, ∀ base, type.base = some base →
    ∃ i, standsFor? declarations type.toTypeHead base = some i
  /-- No type is led back to by going from base to base. -/
  acyclic : ∀ i, ¬Relation.TransGen (IsBase declarations) i i
  fields : ∀ type ∈ declarations, ∀ f ∈ type.fields, Named declarations type.toTypeHead f.type

/-- The names of types on a circle: each type is followed by its base, and the first stands once more at the
    end. -/
def IsCircle (declarations : List Descriptor) (names : List String) : Prop :=
  ∃ start between, (start :: (between ++ [start])).IsChain (IsBase declarations) ∧
    names.map some = (start :: (between ++ [start])).map fun i => (declarations[i]?).map (·.qualified)

section Checks

variable {declarations : List Descriptor}

/-! ## The checks, one by one -/

/-- A traversal succeeds if it does so at each element. -/
theorem exists_mapM_iff {α β : Type} {f : α → Except SchemaError β} {xs : List α} :
    (∃ ys, xs.mapM f = .ok ys) ↔ ∀ x ∈ xs, ∃ y, f x = .ok y := by
  induction xs with
  | nil => exact ⟨fun _ _ h => (nomatch h), fun _ => ⟨[], rfl⟩⟩
  | cons x rest ih =>
      rw [List.forall_mem_cons, ← ih]
      simp only [List.mapM_cons, bind_eq_ok_iff]
      constructor
      · rintro ⟨_, y, hy, ys, hys, -⟩
        exact ⟨⟨y, hy⟩, ys, hys⟩
      · rintro ⟨⟨y, hy⟩, ys, hys⟩
        exact ⟨y :: ys, y, hy, ys, hys, rfl⟩

/-- A traversal fails as one of its elements does. -/
theorem exists_of_mapM_error {α β : Type} {f : α → Except SchemaError β} {xs : List α} {e : SchemaError}
    (h : xs.mapM f = .error e) : ∃ x ∈ xs, f x = .error e := by
  induction xs with
  | nil => exact nomatch (show Except.ok [] = Except.error e from h)
  | cons x rest ih =>
      rw [List.mapM_cons] at h
      rcases bind_eq_error_iff.mp h with hx | ⟨y, -, h⟩
      · exact ⟨x, List.mem_cons_self, hx⟩
      · rcases bind_eq_error_iff.mp h with hrest | ⟨ys, -, h⟩
        · obtain ⟨z, hz, hfails⟩ := ih hrest
          exact ⟨z, List.mem_cons_of_mem _ hz, hfails⟩
        · exact nomatch (show Except.ok (y :: ys) = Except.error e from h)

theorem map_some_filterMap {α β : Type} {f : α → Option β} {xs : List α}
    (h : ∀ x ∈ xs, (f x).isSome = true) : (xs.filterMap f).map some = xs.map f := by
  induction xs with
  | nil => rfl
  | cons x rest ih =>
      obtain ⟨y, hy⟩ := Option.isSome_iff_exists.mp (h x List.mem_cons_self)
      rw [List.filterMap_cons_some hy, List.map_cons, List.map_cons, hy,
        ih fun z hz => h z (List.mem_cons_of_mem _ hz)]

theorem getElem?_heads (declarations : List Descriptor) (i : Nat) :
    (heads declarations)[i]? = (declarations[i]?).map (·.toTypeHead) :=
  List.getElem?_map ..

/-- What a name stands for is declared. -/
theorem exists_of_standsFor? {user : TypeHead} {name : String} {i : Nat}
    (h : standsFor? declarations user name = some i) : ∃ type, declarations[i]? = some type := by
  have hlt := Lookup.lookup?_lt h
  rw [heads, List.length_map] at hlt
  exact ⟨declarations[i], List.getElem?_eq_getElem hlt⟩

theorem named_eq_ok_iff {owner target : TypeHead} {field name : String} :
    named (heads declarations) owner field name = .ok target ↔
      ∃ i type, standsFor? declarations owner name = some i ∧ declarations[i]? = some type ∧
        type.toTypeHead = target := by
  rw [named]
  cases hname : standsFor? declarations owner name with
  | none =>
      rw [show Lookup.lookup? (heads declarations) name owner.scope = none from hname]
      exact ⟨fun h => (nomatch h), fun ⟨_, _, h, _⟩ => (nomatch h)⟩
  | some i =>
      obtain ⟨type, htype⟩ := exists_of_standsFor? hname
      rw [show Lookup.lookup? (heads declarations) name owner.scope = some i from hname,
        Option.bind_some, getElem?_heads, htype]
      constructor
      · exact fun h => ⟨i, type, rfl, htype, Except.ok.inj h⟩
      · rintro ⟨_, other, hi, hother, rfl⟩
        cases hi
        rw [Option.some.inj (htype.symm.trans hother)]
        rfl

theorem exists_resolveType_iff (owner : TypeHead) (field : String) (type : FieldType) :
    (∃ resolved, resolveType (heads declarations) owner field type = .ok resolved) ↔
      Named declarations owner type := by
  induction type with
  | scalar converter =>
      exact ⟨fun _ => ⟨fun _ h => (nomatch h), fun _ h => (nomatch h)⟩, fun _ => ⟨_, rfl⟩⟩
  | object name =>
      simp only [resolveType, bind_eq_ok_iff, named_eq_ok_iff]
      constructor
      · rintro ⟨_, _, ⟨i, _, hi, -⟩, -⟩
        exact ⟨fun other hother => FieldType.object.inj hother ▸ ⟨i, hi⟩, fun _ h => (nomatch h)⟩
      · intro h
        obtain ⟨i, hi⟩ := h.object name rfl
        obtain ⟨target, htarget⟩ := exists_of_standsFor? hi
        exact ⟨_, _, ⟨i, target, hi, htarget, rfl⟩, rfl⟩
  | reference name =>
      simp only [resolveType, bind_eq_ok_iff, named_eq_ok_iff]
      constructor
      · rintro ⟨_, _, ⟨i, target, hi, htarget, rfl⟩, h⟩
        split at h
        · rename_i hprototype
          exact ⟨fun _ h => (nomatch h),
            fun other hother => FieldType.reference.inj hother ▸ ⟨i, target, hi, htarget, hprototype⟩⟩
        · cases h
      · intro h
        obtain ⟨i, target, hi, htarget, hprototype⟩ := h.reference name rfl
        exact ⟨_, _, ⟨i, target, hi, htarget, rfl⟩, if_pos hprototype⟩
  | collection kind element ih =>
      have hsame : Named declarations owner (.collection kind element) ↔ Named declarations owner element :=
        ⟨fun h => ⟨h.object, h.reference⟩, fun h => ⟨h.object, h.reference⟩⟩
      rw [hsame, ← ih]
      simp only [resolveType, bind_eq_ok_iff]
      constructor
      · rintro ⟨_, resolved, h, -⟩
        exact ⟨resolved, h⟩
      · rintro ⟨resolved, h⟩
        exact ⟨_, resolved, h, rfl⟩

theorem exists_resolveFields_iff (type : Descriptor) :
    (∃ resolved, resolveFields (heads declarations) type = .ok resolved) ↔
      ∀ f ∈ type.fields, Named declarations type.toTypeHead f.type := by
  have hfield (f : Field) :
      (∃ resolved, resolveField (heads declarations) type.toTypeHead f = .ok resolved) ↔
        Named declarations type.toTypeHead f.type := by
    rw [← exists_resolveType_iff type.toTypeHead f.name]
    simp only [resolveField, bind_eq_ok_iff]
    constructor
    · rintro ⟨_, resolved, h, -⟩
      exact ⟨resolved, h⟩
    · rintro ⟨resolved, h⟩
      exact ⟨_, resolved, h, rfl⟩
  simp only [← hfield]
  rw [← exists_mapM_iff]
  simp only [resolveFields, bind_eq_ok_iff]
  constructor
  · rintro ⟨_, fields, h, -⟩
    exact ⟨fields, h⟩
  · rintro ⟨fields, h⟩
    exact ⟨_, fields, h, rfl⟩

/-! ## Bases -/

theorem baseOf_eq_ok_iff {type : TypeHead} {base : Option Nat} :
    baseOf (heads declarations) type = .ok base ↔
      (type.base = none ∧ base = none) ∨
        ∃ name i, type.base = some name ∧ standsFor? declarations type name = some i ∧ base = some i := by
  rw [baseOf]
  split
  · rename_i hbase
    simp [hbase, eq_comm]
  · rename_i name hbase
    split
    · rename_i i hname
      have hname : standsFor? declarations type name = some i := hname
      simp [hbase, hname, eq_comm]
    · rename_i hname
      have hname : standsFor? declarations type name = none := hname
      simp [hbase, hname]

theorem exists_bases_iff :
    (∃ bases, (heads declarations).mapM (baseOf (heads declarations)) = .ok bases) ↔
      ∀ type ∈ declarations, ∀ base, type.base = some base →
        ∃ i, standsFor? declarations type.toTypeHead base = some i := by
  have hmem : (∀ head ∈ heads declarations, ∃ base, baseOf (heads declarations) head = .ok base) ↔
      ∀ type ∈ declarations, ∃ base, baseOf (heads declarations) type.toTypeHead = .ok base :=
    List.forall_mem_map
  rw [exists_mapM_iff, hmem]
  refine forall₂_congr fun type _ => ?_
  simp only [baseOf_eq_ok_iff]
  constructor
  · rintro ⟨_, ⟨hnone, -⟩ | ⟨name, i, hname, hi, -⟩⟩ base hbase
    · cases hnone.symm.trans hbase
    · rw [← Option.some.inj (hname.symm.trans hbase)]
      exact ⟨i, hi⟩
  · intro h
    cases hbase : type.base with
    | none => exact ⟨none, Or.inl ⟨rfl, rfl⟩⟩
    | some name =>
        obtain ⟨i, hi⟩ := h name hbase
        exact ⟨some i, Or.inr ⟨name, i, rfl, hi, rfl⟩⟩

theorem baseOrder_eq_ok_iff {bases : List (Option Nat)} {order : List Nat} :
    baseOrder (heads declarations) bases = .ok order ↔ Ancestry.sort bases = .ok order := by
  rw [baseOrder]
  split
  · rename_i found hfound
    rw [hfound, Except.ok.injEq, Except.ok.injEq]
  · rename_i circle hcircle
    rw [hcircle]
    constructor
    · intro h
      cases h
    · intro h
      cases h

section Table

variable {bases : List (Option Nat)}
  (hbases : (heads declarations).mapM (baseOf (heads declarations)) = .ok bases)

include hbases

theorem length_bases : bases.length = declarations.length := by
  rw [← (forall₂_of_mapM hbases).length_eq, heads, List.length_map]

/-- The table of bases holds what the bases stand for. -/
theorem baseOf_getElem? {i : Nat} {type : Descriptor} (htype : declarations[i]? = some type) :
    ∃ base, bases[i]? = some base ∧ baseOf (heads declarations) type.toTypeHead = .ok base := by
  obtain ⟨hlt, rfl⟩ := List.getElem?_eq_some_iff.mp htype
  have hin : i < bases.length := (length_bases hbases).symm ▸ hlt
  have hpair := (List.forall₂_iff_get.mp (forall₂_of_mapM hbases)).2 i (by simpa [heads] using hlt) hin
  refine ⟨bases[i], List.getElem?_eq_getElem hin, ?_⟩
  simpa [heads] using hpair

/-- A step in the table of bases goes from a type to its base. -/
theorem step_iff_isBase {i j : Nat} : Ancestry.Step bases i j ↔ IsBase declarations i j := by
  constructor
  · intro hstep
    have hin := (List.getElem?_eq_some_iff.mp hstep).1
    rw [length_bases hbases] at hin
    have htype := List.getElem?_eq_getElem hin
    obtain ⟨base, hbase, hok⟩ := baseOf_getElem? hbases htype
    rw [← Option.some.inj (hstep.symm.trans hbase)] at hok
    rcases baseOf_eq_ok_iff.mp hok with ⟨-, hnone⟩ | ⟨name, k, hname, hk, heq⟩
    · cases hnone
    · cases heq
      exact ⟨_, name, htype, hname, hk⟩
  · rintro ⟨type, name, htype, hname, hj⟩
    obtain ⟨base, hbase, hok⟩ := baseOf_getElem? hbases htype
    rcases baseOf_eq_ok_iff.mp hok with ⟨hnone, -⟩ | ⟨other, k, hother, hk, rfl⟩
    · cases hnone.symm.trans hname
    · rw [← Option.some.inj (hother.symm.trans hname), hk] at hj
      rw [Ancestry.Step, hbase, Option.some.inj hj]

theorem inside_bases : Ancestry.Inside bases := by
  intro i j hstep
  obtain ⟨type, name, -, -, hj⟩ := (step_iff_isBase hbases).mp hstep
  have hlt := Lookup.lookup?_lt hj
  rwa [heads, List.length_map, ← length_bases hbases] at hlt

/-- **NO CIRCLES**: there is an order with bases first exactly if no type is led back to. -/
theorem exists_baseOrder_iff : (∃ order, baseOrder (heads declarations) bases = .ok order) ↔
    ∀ i, ¬Relation.TransGen (IsBase declarations) i i := by
  have hsame : Ancestry.Step bases = IsBase declarations :=
    funext₂ fun _ _ => propext (step_iff_isBase hbases)
  rw [← hsame, ← Ancestry.exists_sort_iff (inside_bases hbases)]
  simp only [baseOrder_eq_ok_iff]

/-- **A REAL CIRCLE**: what the search runs into is a circle of bases. -/
theorem isCircle_of_baseOrder {names : List String}
    (h : baseOrder (heads declarations) bases = .error (.cyclicBase names)) :
    IsCircle declarations names := by
  rw [baseOrder] at h
  split at h
  · cases h
  rename_i circle hcircle
  cases h
  obtain ⟨start, between, rfl, hchain⟩ := Ancestry.circle_of_sort (inside_bases hbases) hcircle
  replace hchain := hchain.imp fun _ _ => (step_iff_isBase hbases).mp
  refine ⟨start, between, hchain, ?_⟩
  -- every type on the circle is declared: the first has a base, and each other one is a base
  have hdeclared : ∀ j ∈ start :: (between ++ [start]), ∃ type, declarations[j]? = some type := by
    refine hchain.induction _ _ (fun _ _ ⟨_, _, _, _, hj⟩ _ => exists_of_standsFor? hj) fun _ => ?_
    cases between with
    | nil =>
        obtain ⟨type, _, htype, -⟩ := (List.isChain_cons_cons.mp hchain).1
        exact ⟨type, htype⟩
    | cons next _ =>
        obtain ⟨type, _, htype, -⟩ := (List.isChain_cons_cons.mp hchain).1
        exact ⟨type, htype⟩
  have hname (j : Nat) :
      ((heads declarations)[j]?).map (·.qualified) = (declarations[j]?).map (·.qualified) := by
    rw [getElem?_heads, Option.map_map]
    rfl
  simp only [hname]
  refine map_some_filterMap fun j hj => ?_
  obtain ⟨type, htype⟩ := hdeclared j hj
  rw [htype]
  rfl

end Table

/-! ## All checks -/

/-- **WELL FORMED**: declarations are accepted exactly if they are well formed. -/
theorem exists_typesOf_iff : (∃ types, typesOf declarations = .ok types) ↔ WellFormed declarations := by
  have hnames : firstRepeated? [] ((heads declarations).map (·.qualified)) = none ↔
      (declarations.map (·.qualified)).Nodup := by
    rw [firstRepeated?_eq_none_iff, heads, List.map_map]
    exact ⟨fun h => h.1, fun h => ⟨h, fun _ _ => List.not_mem_nil⟩⟩
  have hfields :
      (∃ resolved, declarations.mapM (resolveFields (heads declarations)) = .ok resolved) ↔
        ∀ type ∈ declarations, ∀ f ∈ type.fields, Named declarations type.toTypeHead f.type := by
    simp only [exists_mapM_iff, exists_resolveFields_iff]
  constructor
  · rintro ⟨types, htypes⟩
    obtain ⟨hdistinct, bases, hbases, resolved, hresolved, order, horder, -⟩ := typesOf_eq_ok_iff.mp htypes
    exact ⟨hnames.mp hdistinct, exists_bases_iff.mp ⟨bases, hbases⟩,
      (exists_baseOrder_iff hbases).mp ⟨order, horder⟩, hfields.mp ⟨resolved, hresolved⟩⟩
  · intro h
    obtain ⟨bases, hbases⟩ := exists_bases_iff.mpr h.bases
    obtain ⟨resolved, hresolved⟩ := hfields.mpr h.fields
    obtain ⟨order, horder⟩ := (exists_baseOrder_iff hbases).mpr h.acyclic
    exact ⟨_, typesOf_eq_ok_iff.mpr
      ⟨hnames.mpr h.distinct, bases, hbases, resolved, hresolved, order, horder, rfl⟩⟩

/-- Only the search for circles reports one. -/
theorem resolveFields_ne_cyclicBase {type : Descriptor} {names : List String} :
    resolveFields (heads declarations) type ≠ .error (.cyclicBase names) := by
  have htype (field : String) (t : FieldType) :
      resolveType (heads declarations) type.toTypeHead field t ≠ .error (.cyclicBase names) := by
    have hnamed (name : String) :
        named (heads declarations) type.toTypeHead field name ≠ .error (.cyclicBase names) := by
      rw [named]
      split <;> simp
    induction t with
    | scalar converter => simp [resolveType]
    | object name =>
        rw [resolveType, Ne, bind_eq_error_iff]
        rintro (h | ⟨target, -, h⟩)
        · exact hnamed name h
        · cases h
    | reference name =>
        rw [resolveType, Ne, bind_eq_error_iff]
        rintro (h | ⟨target, -, h⟩)
        · exact hnamed name h
        · split at h <;> cases h
    | collection kind element ih =>
        rw [resolveType, Ne, bind_eq_error_iff]
        rintro (h | ⟨resolved, -, h⟩)
        · exact ih h
        · cases h
  intro h
  rcases bind_eq_error_iff.mp h with hfields | ⟨fields, -, hdone⟩
  · obtain ⟨f, -, hf⟩ := exists_of_mapM_error hfields
    rcases bind_eq_error_iff.mp hf with hresolve | ⟨resolved, -, hdone⟩
    · exact htype _ _ hresolve
    · cases hdone
  · cases hdone

theorem baseOf_ne_cyclicBase {type : TypeHead} {names : List String} :
    baseOf (heads declarations) type ≠ .error (.cyclicBase names) := by
  rw [baseOf]
  split
  · simp
  · split <;> simp

theorem isCircle_of_typesOf {names : List String} (h : typesOf declarations = .error (.cyclicBase names)) :
    IsCircle declarations names := by
  rw [typesOf] at h
  dsimp only at h
  split at h
  · cases h
  · rcases bind_eq_error_iff.mp h with hbases | ⟨bases, hbases, h⟩
    · obtain ⟨type, -, htype⟩ := exists_of_mapM_error hbases
      exact absurd htype baseOf_ne_cyclicBase
    · rcases bind_eq_error_iff.mp h with hresolved | ⟨resolved, -, h⟩
      · obtain ⟨type, -, htype⟩ := exists_of_mapM_error hresolved
        exact absurd htype resolveFields_ne_cyclicBase
      · rcases bind_eq_error_iff.mp h with horder | ⟨order, -, hdone⟩
        · exact isCircle_of_baseOrder hbases horder
        · cases hdone

end Checks

end Registry

/-- A draft is built from its declarations. -/
theorem Draft.value_build (d : Draft) :
    d.build.value = Registry.ofDeclarations d.declarations (d.converters.getD .builtin) := by
  rw [build]
  split
  · rename_i e he
    exact he.symm
  · rename_i registry hregistry
    exact hregistry.symm

/-- The converters of the draft are those of the registry. -/
theorem Draft.converters_of_build {d : Draft} {r : Registry} (h : d.build.value = .ok r) :
    r.converters = d.converters.getD .builtin := by
  rw [d.value_build] at h
  obtain ⟨types, -, hr⟩ := Registry.bind_eq_ok_iff.mp h
  rw [← Except.ok.inj hr]

/-- **BUILT**: a draft makes a registry exactly if its declarations are well formed; and where it is refused
    because of a circle of bases, what is reported is such a circle. -/
theorem Draft.built_iff_wellFormed (d : Draft) :
    ((∃ registry, d.build.value = .ok registry) ↔ Registry.WellFormed d.declarations) ∧
      ∀ names, d.build.value = .error (.cyclicBase names) → Registry.IsCircle d.declarations names := by
  rw [d.value_build, ← Registry.exists_typesOf_iff]
  simp only [Registry.ofDeclarations, Registry.bind_eq_ok_iff, Registry.bind_eq_error_iff]
  refine ⟨⟨?_, ?_⟩, ?_⟩
  · rintro ⟨_, types, htypes, -⟩
    exact ⟨types, htypes⟩
  · rintro ⟨types, htypes⟩
    exact ⟨_, types, htypes, rfl⟩
  · rintro names (htypes | ⟨_, -, hdone⟩)
    · exact Registry.isCircle_of_typesOf htypes
    · cases hdone

end Archetype
