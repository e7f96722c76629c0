import Archetype.Proofs.Flattening
import Mathlib.Data.List.Find

/-! # The order of registration

    Types may be registered in any order.  Of all that a registry is built by, only the look-up of a simple
    name depends on it: where neither a dot nor the namespace decides, the type that was registered first is
    taken.  So where no name is left to that (`Unambiguous`), the registry is refused in every order or built
    in every order, and then a qualified name stands for the same type in each.

    The heart is to speak of types and not of their positions.  What a name stands for is found by a property
    of at most one type (`meant?_perm`); the relation of a type to its base, said of the types themselves, is
    then the same relation (`derives_iff`), and has circles as the positions do (`acyclic_iff`).  With that,
    the types agree by induction from base to derived type (`mem_types`). -/

namespace Archetype

namespace Lookup

/-! ## Dotted and simple names -/

theorem isDotted_qualified {t : TypeHead} (h : t.scope ≠ "") : isDotted t.qualified = true := by
  rw [TypeHead.qualified, if_neg h, isDotted, String.toList_append, String.toList_append]
  simp

/-- A name without a dot is the qualified name of a type without a namespace. -/
theorem qualified_eq_iff {t : TypeHead} {name : String} (h : isDotted name = false) :
    t.qualified = name ↔ t.name = name ∧ t.scope = "" := by
  constructor
  · rintro rfl
    have hscope : t.scope = "" := by
      by_contra hne
      rw [isDotted_qualified hne] at h
      cases h
    rw [TypeHead.qualified, if_pos hscope]
    exact ⟨rfl, hscope⟩
  · rintro ⟨rfl, hscope⟩
    rw [TypeHead.qualified, if_pos hscope]

theorem lookup?_dotted {types : List TypeHead} {name preferred : String} (h : isDotted name = true) :
    lookup? types name preferred = qualified? types name := by
  rw [lookup?, h]
  cases qualified? types name <;> rfl

/-- A name without a dot is looked up as a simple name: that of a type without a namespace is both. -/
theorem lookup?_undotted {types : List TypeHead} {name preferred : String} (h : isDotted name = false) :
    lookup? types name preferred = candidate? types name preferred := by
  rw [lookup?, h]
  cases hqualified : qualified? types name with
  | none => rfl
  | some i =>
      show (if (types[i]?).any (·.scope == preferred) = true then some i
        else candidate? types name preferred) = candidate? types name preferred
      by_cases hscope : (types[i]?).any (·.scope == preferred) = true
      · rw [if_pos hscope]
        obtain ⟨t, ht, hpreferred⟩ := (Option.any_eq_true ..).mp hscope
        obtain ⟨hi, hname, -⟩ := List.findIdx?_eq_some_iff_getElem.mp hqualified
        obtain rfl : types[i] = t := Option.some.inj ((List.getElem?_eq_getElem hi).symm.trans ht)
        rw [beq_iff_eq, qualified_eq_iff h] at hname
        rw [beq_iff_eq, hname.2] at hpreferred
        -- in the empty namespace both searches ask for the same
        have hsame : types.findIdx? (fun t => t.name == name && t.scope == preferred) = some i := by
          rw [← hqualified, qualified?]
          refine congrArg (types.findIdx? ·) (funext fun t => ?_)
          rw [Bool.eq_iff_iff, Bool.and_eq_true, beq_iff_eq, beq_iff_eq, beq_iff_eq, qualified_eq_iff h,
            hpreferred]
        rw [candidate?, hsame]
      · rw [if_neg hscope]

end Lookup

namespace Registry

/-! ## What a name stands for -/

/-- A name that stands for the same type whatever the order: it has a dot, or a type of the namespace it is
    used in has it, or not more than one type has it. -/
def Clear (declarations : List Descriptor) (scope name : String) : Prop :=
  Lookup.isDotted name = true ∨ (∃ d ∈ declarations, d.name = name ∧ d.scope = scope) ∨
    ∀ d ∈ declarations, ∀ e ∈ declarations, d.name = name → e.name = name → d = e

/-- Declarations in which every name of a base and every name in the type of a field is clear where it is
    used. -/
structure Unambiguous (declarations : List Descriptor) : Prop where
  bases : ∀ d ∈ declarations, ∀ name, d.base = some name → Clear declarations d.scope name
  fields : ∀ d ∈ declarations, ∀ f ∈ d.fields, ∀ name,
    f.type.core = .object name ∨ f.type.core = .reference name → Clear declarations d.scope name

/-- The declared type that a name stands for in a namespace. -/
def meant? (declarations : List Descriptor) (scope name : String) : Option Descriptor :=
  if Lookup.isDotted name then declarations.find? (·.qualified == name)
  else (declarations.find? fun d => d.name == name && d.scope == scope).or
    (declarations.find? (·.name == name))

variable {xs ys declarations types : List Descriptor}

theorem bind_findIdx?_heads (p : TypeHead → Bool) (declarations : List Descriptor) :
    ((heads declarations).findIdx? p).bind (declarations[·]?)
      = declarations.find? fun d => p d.toTypeHead := by
  rw [heads, List.findIdx?_map]
  exact List.find?_eq_bind_findIdx?_getElem?.symm

theorem bind_candidate?_heads (declarations : List Descriptor) (name preferred : String) :
    (Lookup.candidate? (heads declarations) name preferred).bind (declarations[·]?)
      = (declarations.find? fun d => d.name == name && d.scope == preferred).or
          (declarations.find? (·.name == name)) := by
  have hscope := bind_findIdx?_heads (fun t => t.name == name && t.scope == preferred) declarations
  have hname := bind_findIdx?_heads (·.name == name) declarations
  rw [Lookup.candidate?, ← hscope, ← hname]
  cases hfound : (heads declarations).findIdx? fun t => t.name == name && t.scope == preferred with
  | none => rfl
  | some i =>
      have hi := (List.findIdx?_eq_some_iff_findIdx_eq.mp hfound).1
      rw [heads, List.length_map] at hi
      dsimp only
      rw [Option.bind_some, List.getElem?_eq_getElem hi, Option.some_or]

theorem bind_lookup?_heads (declarations : List Descriptor) (name preferred : String) :
    (Lookup.lookup? (heads declarations) name preferred).bind (declarations[·]?)
      = meant? declarations preferred name := by
  rw [meant?]
  cases hdotted : Lookup.isDotted name with
  | true => rw [Lookup.lookup?_dotted hdotted, Lookup.qualified?, bind_findIdx?_heads, if_pos rfl]
  | false =>
      rw [Lookup.lookup?_undotted hdotted, bind_candidate?_heads, if_neg Bool.false_ne_true]

theorem standsFor_iff {user : TypeHead} {name : String} {target : Descriptor} :
    StandsFor declarations user name target ↔ meant? declarations user.scope name = some target := by
  rw [StandsFor, ← Option.bind_eq_some_iff, standsFor?, bind_lookup?_heads]

theorem StandsFor.unique {user : TypeHead} {name : String} {target found : Descriptor}
    (htarget : StandsFor declarations user name target) (hfound : StandsFor declarations user name found) :
    target = found :=
  Option.some.inj ((standsFor_iff.mp htarget).symm.trans (standsFor_iff.mp hfound))

theorem exists_standsFor?_iff {user : TypeHead} {name : String} :
    (∃ i, standsFor? declarations user name = some i) ↔ ∃ target, StandsFor declarations user name target := by
  constructor
  · rintro ⟨i, hi⟩
    obtain ⟨target, htarget⟩ := exists_of_standsFor? hi
    exact ⟨target, i, hi, htarget⟩
  · rintro ⟨target, i, hi, -⟩
    exact ⟨i, hi⟩

/-- **CLEAR**: what a clear name stands for does not depend on the order. -/
theorem meant?_perm {scope name : String} (hperm : xs.Perm ys) (hdistinct : (xs.map (·.qualified)).Nodup)
    (hclear : Clear xs scope name) : meant? xs scope name = meant? ys scope name := by
  have hunique {d e : Descriptor} (hd : d ∈ xs) (he : e ∈ xs) (hsame : d.qualified = e.qualified) :
      d = e :=
    List.inj_on_of_nodup_map hdistinct hd he hsame
  rw [meant?, meant?]
  by_cases hdotted : Lookup.isDotted name = true
  · rw [if_pos hdotted, if_pos hdotted]
    refine List.find?_eq_find?_of_perm hperm ?_
    rintro d ⟨hd, hname⟩ e ⟨he, hother⟩
    rw [beq_iff_eq] at hname hother
    exact hunique hd he (hname.trans hother.symm)
  · rw [if_neg hdotted, if_neg hdotted]
    have hscope : (xs.find? fun d => d.name == name && d.scope == scope)
        = ys.find? fun d => d.name == name && d.scope == scope := by
      refine List.find?_eq_find?_of_perm hperm ?_
      rintro d ⟨hd, hfits⟩ e ⟨he, hother⟩
      simp only [Bool.and_eq_true, beq_iff_eq] at hfits hother
      refine hunique hd he ?_
      rw [TypeHead.qualified, TypeHead.qualified, hfits.1, hfits.2, hother.1, hother.2]
    rcases hclear with hdot | ⟨d, hd, hname, hin⟩ | hone
    · exact absurd hdot hdotted
    · -- the search does not get as far as the types of other namespaces
      have hsome : (xs.find? fun d => d.name == name && d.scope == scope).isSome = true := by
        refine List.find?_isSome.mpr ⟨d, hd, ?_⟩
        rw [hname, hin, beq_self_eq_true, beq_self_eq_true]
        rfl
      obtain ⟨target, htarget⟩ := Option.isSome_iff_exists.mp hsome
      rw [← hscope, htarget, Option.some_or, Option.some_or]
    · have hsimple : xs.find? (·.name == name) = ys.find? (·.name == name) := by
        refine List.find?_eq_find?_of_perm hperm ?_
        rintro d ⟨hd, hname⟩ e ⟨he, hother⟩
        exact hone d hd e he (beq_iff_eq.mp hname) (beq_iff_eq.mp hother)
      rw [hscope, hsimple]

/-! ## Declarations in another order -/

/-- The same declarations in two orders, without ambiguous names. -/
structure Reordered (xs ys : List Descriptor) : Prop where
  perm : xs.Perm ys
  distinct : (xs.map (·.qualified)).Nodup
  unambiguous : Unambiguous xs

/-- A declared type derives from another if its base stands for that one. -/
def Derives (declarations : List Descriptor) (d b : Descriptor) : Prop :=
  d ∈ declarations ∧ ∃ name, d.base = some name ∧ StandsFor declarations d.toTypeHead name b

theorem Clear.perm {scope name : String} (h : Clear xs scope name) (hperm : xs.Perm ys) :
    Clear ys scope name := by
  rcases h with hdotted | ⟨d, hd, hfits⟩ | hone
  · exact Or.inl hdotted
  · exact Or.inr (Or.inl ⟨d, hperm.mem_iff.mp hd, hfits⟩)
  · refine Or.inr (Or.inr fun d hd e he => ?_)
    exact hone d (hperm.mem_iff.mpr hd) e (hperm.mem_iff.mpr he)

theorem Unambiguous.perm (h : Unambiguous xs) (hperm : xs.Perm ys) : Unambiguous ys where
  bases := by
    intro d hd name hname
    exact (h.bases d (hperm.mem_iff.mpr hd) name hname).perm hperm
  fields := by
    intro d hd f hf name hname
    exact (h.fields d (hperm.mem_iff.mpr hd) f hf name hname).perm hperm

namespace Reordered

variable {d b : Descriptor} {f : Field} {name : String}

theorem symm (h : Reordered xs ys) : Reordered ys xs where
  perm := h.perm.symm
  distinct := (h.perm.map _).nodup_iff.mp h.distinct
  unambiguous := h.unambiguous.perm h.perm

theorem standsFor_base (h : Reordered xs ys) (hd : d ∈ xs) (hname : d.base = some name) :
    StandsFor xs d.toTypeHead name b ↔ StandsFor ys d.toTypeHead name b := by
  rw [standsFor_iff, standsFor_iff,
    meant?_perm h.perm h.distinct (h.unambiguous.bases d hd name hname)]

theorem standsFor_field (h : Reordered xs ys) (hd : d ∈ xs) (hf : f ∈ d.fields)
    (hname : f.type.core = .object name ∨ f.type.core = .reference name) :
    StandsFor xs d.toTypeHead name b ↔ StandsFor ys d.toTypeHead name b := by
  rw [standsFor_iff, standsFor_iff,
    meant?_perm h.perm h.distinct (h.unambiguous.fields d hd f hf name hname)]

theorem derives_iff (h : Reordered xs ys) : Derives xs d b ↔ Derives ys d b := by
  constructor
  · rintro ⟨hd, name, hname, htarget⟩
    exact ⟨h.perm.mem_iff.mp hd, name, hname, (h.standsFor_base hd hname).mp htarget⟩
  · rintro ⟨hd, name, hname, htarget⟩
    have hd := h.perm.mem_iff.mpr hd
    exact ⟨hd, name, hname, (h.standsFor_base hd hname).mpr htarget⟩

end Reordered

/-! ## Bases, by types and by positions -/

theorem Derives.unique {d b c : Descriptor} (hb : Derives declarations d b) (hc : Derives declarations d c) :
    b = c := by
  obtain ⟨-, name, hname, hb⟩ := hb
  obtain ⟨-, other, hother, hc⟩ := hc
  obtain rfl := Option.some.inj (hname.symm.trans hother)
  exact hb.unique hc

theorem IsBase.derives {i j : Nat} {d : Descriptor} (h : IsBase declarations i j)
    (hd : declarations[i]? = some d) : ∃ b, declarations[j]? = some b ∧ Derives declarations d b := by
  obtain ⟨e, name, he, hname, hj⟩ := h
  obtain rfl := Option.some.inj (he.symm.trans hd)
  obtain ⟨b, hb⟩ := exists_of_standsFor? hj
  exact ⟨b, hb, List.mem_of_getElem? hd, name, hname, j, hj, hb⟩

theorem Derives.exists_isBase {i : Nat} {d b : Descriptor} (h : Derives declarations d b)
    (hd : declarations[i]? = some d) : ∃ j, declarations[j]? = some b ∧ IsBase declarations i j := by
  obtain ⟨-, name, hname, j, hj, hb⟩ := h
  exact ⟨j, hb, d, name, hd, hname, hj⟩

/-- Steps from type to type are steps from position to position. -/
theorem exists_transGen_isBase {i : Nat} {d e : Descriptor}
    (h : Relation.TransGen (Derives declarations) d e) (hd : declarations[i]? = some d) :
    ∃ j, declarations[j]? = some e ∧ Relation.TransGen (IsBase declarations) i j := by
  induction h with
  | single hstep =>
      obtain ⟨j, hj, hbase⟩ := hstep.exists_isBase hd
      exact ⟨j, hj, .single hbase⟩
  | tail _ hstep ih =>
      obtain ⟨j, hj, hsteps⟩ := ih
      obtain ⟨k, hk, hbase⟩ := hstep.exists_isBase hj
      exact ⟨k, hk, hsteps.tail hbase⟩

/-- Steps from position to position are steps from type to type. -/
theorem exists_transGen_derives {i j : Nat} {d : Descriptor}
    (h : Relation.TransGen (IsBase declarations) i j) (hd : declarations[i]? = some d) :
    ∃ e, declarations[j]? = some e ∧ Relation.TransGen (Derives declarations) d e := by
  induction h with
  | single hstep =>
      obtain ⟨e, he, hderives⟩ := hstep.derives hd
      exact ⟨e, he, .single hderives⟩
  | tail _ hstep ih =>
      obtain ⟨e, he, hsteps⟩ := ih
      obtain ⟨b, hb, hderives⟩ := hstep.derives he
      exact ⟨b, hb, hsteps.tail hderives⟩

/-- Going from base to base leads back to a position exactly if it leads back to a type. -/
theorem acyclic_iff (hdistinct : (declarations.map (·.qualified)).Nodup) :
    (∀ i, ¬Relation.TransGen (IsBase declarations) i i) ↔
      ∀ d, ¬Relation.TransGen (Derives declarations) d d := by
  constructor
  · intro h d hcircle
    obtain ⟨e, hstep, -⟩ := Relation.TransGen.head'_iff.mp hcircle
    obtain ⟨i, hi⟩ := List.mem_iff_getElem?.mp hstep.1
    obtain ⟨j, hj, hsteps⟩ := exists_transGen_isBase hcircle hi
    -- a declaration stands at one position
    have hin := (List.getElem?_eq_some_iff.mp hi).1
    have hsame : i = j := (List.getElem?_inj hin (hdistinct.of_map _)).mp (hi.trans hj.symm)
    exact h i (hsame ▸ hsteps)
  · intro h i hcircle
    obtain ⟨j, ⟨d, _, hd, -⟩, -⟩ := Relation.TransGen.head'_iff.mp hcircle
    obtain ⟨e, he, hsteps⟩ := exists_transGen_derives hcircle hd
    obtain rfl := Option.some.inj (hd.symm.trans he)
    exact h d hsteps

theorem Reordered.wellFormed (h : Reordered xs ys) (hx : WellFormed xs) : WellFormed ys where
  distinct := h.symm.distinct
  bases := by
    intro d hd name hname
    have hd := h.perm.mem_iff.mpr hd
    obtain ⟨b, hb⟩ := exists_standsFor?_iff.mp (hx.bases d hd name hname)
    exact exists_standsFor?_iff.mpr ⟨b, (h.standsFor_base hd hname).mp hb⟩
  acyclic := by
    have hsame : Derives xs = Derives ys := funext₂ fun _ _ => propext h.derives_iff
    rw [acyclic_iff h.symm.distinct, ← hsame, ← acyclic_iff h.distinct]
    exact hx.acyclic
  fields := by
    intro d hd f hf
    have hd := h.perm.mem_iff.mpr hd
    have hnamed := hx.fields d hd f hf
    constructor
    · intro name hcore
      obtain ⟨target, htarget⟩ := exists_standsFor?_iff.mp (hnamed.object name hcore)
      exact exists_standsFor?_iff.mpr ⟨target, (h.standsFor_field hd hf (Or.inl hcore)).mp htarget⟩
    · intro name hcore
      obtain ⟨i, target, hi, htarget, hkind⟩ := hnamed.reference name hcore
      obtain ⟨j, hj, htarget⟩ := (h.standsFor_field hd hf (Or.inr hcore)).mp ⟨i, hi, htarget⟩
      exact ⟨j, target, hj, htarget, hkind⟩

/-! ## The types are the same -/

/-- A type is resolved in one way, by what the names in it stand for. -/
theorem Resolves.unique {owner : TypeHead} {type resolved other : FieldType}
    (hx : Resolves xs owner type resolved) (hy : Resolves ys owner type other)
    (hnames : ∀ name target, type.core = .object name ∨ type.core = .reference name →
      (StandsFor xs owner name target ↔ StandsFor ys owner name target)) : resolved = other := by
  have hone {name : String} {target found : Descriptor}
      (hcore : type.core = .object name ∨ type.core = .reference name)
      (htarget : StandsFor xs owner name target) (hfound : StandsFor ys owner name found) :
      target = found :=
    ((hnames name target hcore).mp htarget).unique hfound
  induction hx generalizing other with
  | scalar converter =>
      cases hy
      rfl
  | object hname hkind =>
      cases hy with
      | object hother _ => rw [hone (Or.inl rfl) hname hother]
      | turned hother hprototype =>
          rw [hone (Or.inl rfl) hname hother, hprototype] at hkind
          cases hkind
  | turned hname hkind =>
      cases hy with
      | object hother hcomposite =>
          rw [hone (Or.inl rfl) hname hother, hcomposite] at hkind
          cases hkind
      | turned hother _ => rw [hone (Or.inl rfl) hname hother]
  | reference hname hkind =>
      cases hy with
      | reference hother _ => rw [hone (Or.inr rfl) hname hother]
  | collection kind helement ih =>
      cases hy with
      | collection _ hother => rw [ih hother hnames hone]

theorem ResolvesField.unique {owner : TypeHead} {f resolved other : Field}
    (hx : ResolvesField xs owner f resolved) (hy : ResolvesField ys owner f other)
    (hnames : ∀ name target, f.type.core = .object name ∨ f.type.core = .reference name →
      (StandsFor xs owner name target ↔ StandsFor ys owner name target)) : resolved = other := by
  obtain ⟨name, type, default⟩ := resolved
  obtain ⟨name', type', default'⟩ := other
  obtain rfl : name = name' := hx.name.trans hy.name.symm
  obtain rfl : default = default' := hx.default.trans hy.default.symm
  obtain rfl : type = type' := hx.type.unique hy.type hnames
  rfl

theorem eq_of_forall₂ {α β : Type} {R S : α → β → Prop} {as : List α} {bs cs : List β}
    (hb : List.Forall₂ R as bs) (hc : List.Forall₂ S as cs)
    (h : ∀ a ∈ as, ∀ b c, R a b → S a c → b = c) : bs = cs := by
  induction hb generalizing cs with
  | nil =>
      cases hc
      rfl
  | cons hab _ ih =>
      cases hc with
      | cons hac hrest =>
          rw [h _ List.mem_cons_self _ _ hab hac,
            ih hrest fun a ha => h a (List.mem_cons_of_mem _ ha)]

/-- The fields that a type declares itself are resolved to the same fields. -/
theorem Reordered.ownFields_unique (h : Reordered xs ys) {d : Descriptor} (hd : d ∈ xs)
    {own other : List Field} (hx : OwnFields xs d own) (hy : OwnFields ys d other) : own = other := by
  refine eq_of_forall₂ hx hy fun f hf g k hg hk => ?_
  have hmem : f ∈ d.fields := (mem_deriveFields hf).resolve_left List.not_mem_nil
  exact hg.unique hk fun name target hname => h.standsFor_field hd hmem hname

/-- **THE SAME TYPES**: each type of the one registry is a type of the other. -/
theorem Reordered.mem_types (h : Reordered xs ys) {ts us : List Descriptor} (hx : Completions xs ts)
    (hy : Completions ys us) {i : Nat} {t : Descriptor} (ht : ts[i]? = some t) : t ∈ us := by
  induction i, t, ht using hx.induction with
  | root i d own hd hroot hown hat =>
      have hmem := List.mem_of_getElem? hd
      obtain ⟨k, hk⟩ := List.mem_iff_getElem?.mp (h.perm.mem_iff.mp hmem)
      obtain ⟨other, hother, ⟨-, hplace⟩ | ⟨l, c, hbase, -, -⟩⟩ := hy.each k d hk
      · rw [h.ownFields_unique hmem hown hother]
        exact List.mem_of_getElem? hplace
      · exact absurd hbase (not_isBase_of_root hk hroot)
  | derived i j d own b hd hbase hown hb hat ih =>
      have hmem := List.mem_of_getElem? hd
      obtain ⟨k, hk⟩ := List.mem_iff_getElem?.mp (h.perm.mem_iff.mp hmem)
      obtain ⟨other, hother, ⟨hroot, -⟩ | ⟨l, c, hbase', hc, hplace⟩⟩ := hy.each k d hk
      · exact absurd hbase (not_isBase_of_root hd hroot)
      · -- the base is the same declaration in both orders, and so the same type
        obtain ⟨e, he, hderives⟩ := hbase.derives hd
        obtain ⟨e', he', hderives'⟩ := hbase'.derives hk
        obtain rfl := (h.derives_iff.mp hderives).unique hderives'
        have hsame : b.qualified = c.qualified :=
          (hx.qualified_eq he hb).trans (hy.qualified_eq he' hc).symm
        rw [h.ownFields_unique hmem hown hother,
          hy.eq_of_qualified ih (List.mem_of_getElem? hc) hsame]
        exact List.mem_of_getElem? hplace

/-- The type that is found under a qualified name is the one that has it. -/
theorem get?_eq_some_iff {r : Registry} (hdistinct : (r.types.map (·.qualified)).Nodup) {name : String}
    {t : Descriptor} : r.get? name = some t ↔ t ∈ r.types ∧ t.qualified = name := by
  constructor
  · exact of_get?
  · rintro ⟨ht, rfl⟩
    rw [get?, Lookup.qualified?, bind_findIdx?_heads]
    exact find?_of_nodup_map hdistinct ht

end Registry

/-- A draft that is built in one order of its types is built in the other. -/
theorem Registry.exists_build_of_perm {d e : Draft} (hperm : d.declarations.Perm e.declarations)
    (hunambiguous : Unambiguous d.declarations) (h : ∃ r, d.build.value = .ok r) :
    ∃ q, e.build.value = .ok q := by
  obtain ⟨r, hr⟩ := h
  have hwellFormed := (Draft.completions_of_build hr).wellFormed
  have hreordered : Reordered d.declarations e.declarations := ⟨hperm, hwellFormed.distinct, hunambiguous⟩
  obtain ⟨types, htypes⟩ := exists_typesOf_iff.mpr (hreordered.wellFormed hwellFormed)
  rw [e.value_build]
  exact ⟨_, bind_eq_ok_iff.mpr ⟨types, htypes, rfl⟩⟩

/-- **ANY ORDER**: without ambiguous names, types may be registered in any order: the registry is built in
    both orders or refused in both, and a qualified name stands for the same type in both. -/
theorem Draft.build_perm {d e : Draft} (hperm : d.declarations.Perm e.declarations)
    (hunambiguous : Registry.Unambiguous d.declarations) :
    ((∃ r, d.build.value = .ok r) ↔ ∃ q, e.build.value = .ok q) ∧
      ∀ r q, d.build.value = .ok r → e.build.value = .ok q → ∀ name, r.get? name = q.get? name := by
  refine ⟨⟨?_, ?_⟩, ?_⟩
  · exact Registry.exists_build_of_perm hperm hunambiguous
  · exact Registry.exists_build_of_perm hperm.symm (hunambiguous.perm hperm)
  · intro r q hr hq name
    have hx := completions_of_build hr
    have hy := completions_of_build hq
    have hreordered : Registry.Reordered d.declarations e.declarations :=
      ⟨hperm, hx.wellFormed.distinct, hunambiguous⟩
    refine Option.ext fun t => ?_
    rw [Registry.get?_eq_some_iff hx.distinct, Registry.get?_eq_some_iff hy.distinct]
    constructor
    · rintro ⟨ht, hname⟩
      obtain ⟨i, hi⟩ := List.mem_iff_getElem?.mp ht
      exact ⟨hreordered.mem_types hx hy hi, hname⟩
    · rintro ⟨ht, hname⟩
      obtain ⟨i, hi⟩ := List.mem_iff_getElem?.mp ht
      exact ⟨hreordered.symm.mem_types hy hx hi, hname⟩

/-! ### The clan, its bases registered first -/

namespace Draft

def eldersDraft : Draft where
  declarations := [axeType, warriorType, chieftainType]

/-- The base has a dot, the followers are of the same namespace, and there is one axe. -/
private theorem unambiguous_clanDraft : Registry.Unambiguous clanDraft.declarations := by
  have hone : ∀ d ∈ [chieftainType, warriorType, axeType], d.name = "Axe" → d = axeType := by
    intro d hd hname
    simp only [List.mem_cons, List.not_mem_nil, or_false] at hd
    rcases hd with rfl | rfl | rfl
    · exact absurd hname (by decide)
    · exact absurd hname (by decide)
    · rfl
  constructor
  · intro d hd name hname
    simp only [clanDraft, List.mem_cons, List.not_mem_nil, or_false] at hd
    rcases hd with rfl | rfl | rfl
    · cases hname
      exact Or.inl (by decide +kernel)
    · cases hname
    · cases hname
  · intro d hd f hf name hname
    simp only [clanDraft, List.mem_cons, List.not_mem_nil, or_false] at hd
    rcases hd with rfl | rfl | rfl
    · have hf : f ∈ [⟨"followers", .collection .list (.object "Warrior"), none⟩,
          ⟨"rank", .scalar "int", some (.int 1)⟩] := hf
      simp only [List.mem_cons, List.not_mem_nil, or_false] at hf
      rcases hf with rfl | rfl <;> rcases hname with hname | hname <;> cases hname
      exact Or.inr (Or.inl ⟨warriorType, List.mem_cons_of_mem _ List.mem_cons_self, rfl, rfl⟩)
    · have hf : f ∈ [⟨"rank", .scalar "string", none⟩, ⟨"weapon", .object "Axe", none⟩] := hf
      simp only [List.mem_cons, List.not_mem_nil, or_false] at hf
      rcases hf with rfl | rfl <;> rcases hname with hname | hname <;> cases hname
      refine Or.inr (Or.inr fun d hd e he hd' he' => ?_)
      exact (hone d hd hd').trans (hone e he he').symm
    · have hf : f ∈ [⟨"weight", .scalar "int", none⟩] := hf
      simp only [List.mem_cons, List.not_mem_nil, or_false] at hf
      rcases hf with rfl
      rcases hname with hname | hname <;> cases hname

theorem clan_in_any_order :
    Registry.Unambiguous clanDraft.declarations ∧ ∃ r q, clanDraft.build.value = .ok r ∧
      eldersDraft.build.value = .ok q ∧ ∀ name, r.get? name = q.get? name := by
  have hperm : clanDraft.declarations.Perm eldersDraft.declarations :=
    (List.reverse_perm clanDraft.declarations).symm
  obtain ⟨hbuilt, hsame⟩ := build_perm hperm unambiguous_clanDraft
  have hchecked : clanDraft.build.value.toOption.isSome = true := by
    decide +kernel
  obtain ⟨r, hr⟩ := Option.isSome_iff_exists.mp hchecked
  have hr := Registry.eq_ok_of_toOption hr
  obtain ⟨q, hq⟩ := hbuilt.mp ⟨r, hr⟩
  exact ⟨unambiguous_clanDraft, r, q, hr, hq, hsame r q hr hq⟩

end Draft

end Archetype
