import Archetype.Schema.Registry
import Mathlib.Data.List.Basic
import Mathlib.Data.List.Forall2

/-! # Building a registry

    A registry is built from declarations only if the checks pass, one after the other (`typesOf_eq_ok_iff`).
    Its types are then completed by declaring one field after the other, which never leaves two fields of one
    name (`nodup_complete`). -/

namespace Archetype

/-- Where names are unique, looking up the name of a member finds the member. -/
theorem find?_of_nodup_map {α : Type} {name : α → String} {xs : List α} (h : (xs.map name).Nodup)
    {x : α} (hx : x ∈ xs) : xs.find? (name · == name x) = some x := by
  induction xs with
  | nil => exact nomatch hx
  | cons other rest ih =>
      rw [List.map_cons, List.nodup_cons] at h
      rw [List.find?_cons]
      rcases List.mem_cons.mp hx with rfl | hmem
      · rw [beq_self_eq_true]
      · have hne : name other ≠ name x := fun heq => h.1 (heq ▸ List.mem_map_of_mem hmem)
        rw [beq_eq_false_iff_ne.mpr hne]
        exact ih h.2 hmem

theorem exists_of_forall₂_left {α β : Type} {R : α → β → Prop} {xs : List α} {ys : List β}
    (h : List.Forall₂ R xs ys) {x : α} (hx : x ∈ xs) : ∃ y ∈ ys, R x y := by
  induction h with
  | nil => cases hx
  | cons hhead _ ih =>
      rcases List.mem_cons.mp hx with rfl | hmem
      · exact ⟨_, List.mem_cons_self, hhead⟩
      · obtain ⟨y, hy, hxy⟩ := ih hmem
        exact ⟨y, List.mem_cons_of_mem _ hy, hxy⟩

theorem exists_of_forall₂_right {α β : Type} {R : α → β → Prop} {xs : List α} {ys : List β}
    (h : List.Forall₂ R xs ys) {y : β} (hy : y ∈ ys) : ∃ x ∈ xs, R x y :=
  exists_of_forall₂_left (List.Forall₂.flip h) hy

theorem Descriptor.of_field? {type : Descriptor} {name : String} {f : Field}
    (h : type.field? name = some f) : f ∈ type.fields ∧ f.name = name := by
  have hname := List.find?_some h
  rw [beq_iff_eq] at hname
  exact ⟨List.mem_of_find?_eq_some h, hname⟩

theorem Descriptor.exists_field?_iff {type : Descriptor} {name : String} :
    (∃ f, type.field? name = some f) ↔ name ∈ type.fields.map (·.name) := by
  rw [Descriptor.field?, ← Option.isSome_iff_exists, List.find?_isSome, List.mem_map]
  simp only [beq_iff_eq]

namespace Field

theorem mem_declareIn {f g : Field} {fields : List Field} (h : g ∈ f.declareIn fields) :
    g = f ∨ g ∈ fields := by
  induction fields with
  | nil => exact Or.inl (List.mem_singleton.mp h)
  | cons other rest ih =>
      rw [declareIn] at h
      split at h
      · rcases List.mem_cons.mp h with hnew | hrest
        · exact Or.inl hnew
        · exact Or.inr (List.mem_cons_of_mem _ hrest)
      · rcases List.mem_cons.mp h with hhead | hrest
        · exact Or.inr (hhead ▸ List.mem_cons_self)
        · exact (ih hrest).imp_right (List.mem_cons_of_mem _)

/-- Declaring a field leaves no two fields of one name. -/
theorem nodup_declareIn (f : Field) {fields : List Field} (h : (fields.map (·.name)).Nodup) :
    ((f.declareIn fields).map (·.name)).Nodup := by
  induction fields with
  | nil => exact List.nodup_cons.mpr ⟨List.not_mem_nil, List.nodup_nil⟩
  | cons other rest ih =>
      rw [List.map_cons, List.nodup_cons] at h
      rw [declareIn]
      by_cases hsame : other.name = f.name
      · rw [if_pos hsame, List.map_cons, List.nodup_cons, ← hsame]
        exact h
      · rw [if_neg hsame, List.map_cons, List.nodup_cons]
        refine ⟨fun hmem => ?_, ih h.2⟩
        obtain ⟨g, hg, hname⟩ := List.mem_map.mp hmem
        rcases mem_declareIn hg with rfl | hrest
        · exact hsame hname.symm
        · exact h.1 (hname ▸ List.mem_map_of_mem hrest)

end Field

namespace Registry

theorem nodup_deriveFields (own : List Field) {base : List Field} (h : (base.map (·.name)).Nodup) :
    ((deriveFields base own).map (·.name)).Nodup := by
  rw [deriveFields]
  induction own generalizing base with
  | nil => exact h
  | cons f rest ih => exact ih (f.nodup_declareIn h)

/-- No two fields of a completed type have one name, if no two of its base have. -/
theorem nodup_complete (type : Descriptor) {base : Option Descriptor}
    (h : ∀ b, base = some b → (b.fields.map (·.name)).Nodup) :
    ((complete type base).fields.map (·.name)).Nodup := by
  cases base with
  | none => exact nodup_deriveFields type.fields List.nodup_nil
  | some b => exact nodup_deriveFields type.fields (h b rfl)

/-- Names are checked for one that occurs among those before it. -/
theorem firstRepeated?_eq_none_iff {seen names : List String} :
    firstRepeated? seen names = none ↔ names.Nodup ∧ ∀ name ∈ names, name ∉ seen := by
  induction names generalizing seen with
  | nil => exact ⟨fun _ => ⟨List.nodup_nil, fun _ hmem => (nomatch hmem)⟩, fun _ => rfl⟩
  | cons name rest ih =>
      rw [firstRepeated?, List.nodup_cons, List.forall_mem_cons]
      by_cases hseen : name ∈ seen
      · rw [if_pos (List.contains_iff_mem.mpr hseen)]
        exact ⟨fun h => (nomatch h), fun h => absurd hseen h.2.1⟩
      · rw [if_neg (fun h => hseen (List.contains_iff_mem.mp h)), ih]
        constructor
        · rintro ⟨hnodup, hrest⟩
          refine ⟨⟨fun hmem => hrest name hmem List.mem_cons_self, hnodup⟩, hseen, ?_⟩
          exact fun other hother hin => hrest other hother (List.mem_cons_of_mem _ hin)
        · rintro ⟨⟨hnew, hnodup⟩, -, hrest⟩
          refine ⟨hnodup, fun other hother hin => ?_⟩
          rcases List.mem_cons.mp hin with rfl | hold
          · exact hnew hother
          · exact hrest other hother hold

/-! ## Checks one after the other -/

section Except

variable {α β : Type} {m : Except SchemaError α} {next : α → Except SchemaError β}

theorem bind_eq_ok_iff {b : β} : (m >>= next) = .ok b ↔ ∃ a, m = .ok a ∧ next a = .ok b := by
  cases m with
  | error e =>
      exact ⟨fun h => (nomatch (show Except.error e = .ok b from h)), fun ⟨_, h, _⟩ => (nomatch h)⟩
  | ok a => exact ⟨fun h => ⟨a, rfl, h⟩, fun ⟨_, h, hb⟩ => Except.ok.inj h ▸ hb⟩

theorem bind_eq_error_iff {e : SchemaError} :
    (m >>= next) = .error e ↔ m = .error e ∨ ∃ a, m = .ok a ∧ next a = .error e := by
  cases m with
  | error other =>
      have hbind : (Except.error other >>= next) = .error other := rfl
      rw [hbind, Except.error.injEq, Except.error.injEq]
      exact ⟨Or.inl, fun h => h.elim id fun ⟨_, h, _⟩ => (nomatch h)⟩
  | ok a =>
      refine ⟨fun h => Or.inr ⟨a, rfl, h⟩, ?_⟩
      rintro (h | ⟨_, h, he⟩)
      · cases h
      · exact Except.ok.inj h ▸ he

theorem eq_ok_of_toOption {ε α : Type} {m : Except ε α} {a : α} (h : m.toOption = some a) :
    m = .ok a := by
  cases m with
  | error e => cases h
  | ok b => exact congrArg Except.ok (Option.some.inj h)

/-- A traversal that succeeds does so at each element. -/
theorem forall₂_of_mapM {f : α → Except SchemaError β} {xs : List α} {ys : List β}
    (h : xs.mapM f = .ok ys) : List.Forall₂ (fun x y => f x = .ok y) xs ys := by
  induction xs generalizing ys with
  | nil =>
      have hnil : Except.ok [] = Except.ok ys := h
      rw [← Except.ok.inj hnil]
      exact .nil
  | cons x rest ih =>
      rw [List.mapM_cons] at h
      obtain ⟨y, hy, h⟩ := bind_eq_ok_iff.mp h
      obtain ⟨more, hmore, h⟩ := bind_eq_ok_iff.mp h
      have hcons : Except.ok (y :: more) = Except.ok ys := h
      rw [← Except.ok.inj hcons]
      exact .cons hy (ih hmore)

end Except

/-- Resolving the fields of a type leaves its head as it is. -/
theorem head_of_resolveFields {declared : List TypeHead} {type resolved : Descriptor}
    (h : resolveFields declared type = .ok resolved) : resolved.toTypeHead = type.toTypeHead := by
  obtain ⟨fields, -, h⟩ := bind_eq_ok_iff.mp h
  have hresolved : Except.ok { type with fields } = Except.ok resolved := h
  rw [← Except.ok.inj hresolved]

/-- The checks that the types of a list of declarations depend on, one after the other. -/
theorem typesOf_eq_ok_iff {declarations types : List Descriptor} :
    typesOf declarations = .ok types ↔
      firstRepeated? [] ((heads declarations).map (·.qualified)) = none ∧
        ∃ bases, (heads declarations).mapM (baseOf (heads declarations)) = .ok bases ∧
          ∃ resolved, declarations.mapM (resolveFields (heads declarations)) = .ok resolved ∧
            ∃ order, baseOrder (heads declarations) bases = .ok order ∧
              completeAll resolved bases order = types := by
  rw [typesOf]
  dsimp only
  split
  · rename_i name hrepeated
    refine ⟨fun h => (nomatch (show Except.error _ = Except.ok types from h)), fun h => ?_⟩
    cases h.1.symm.trans hrepeated
  · rename_i hnames
    simp only [bind_eq_ok_iff, hnames, true_and]
    refine exists_congr fun bases => and_congr_right fun _ => exists_congr fun resolved =>
      and_congr_right fun _ => exists_congr fun order => and_congr_right fun _ => ?_
    exact ⟨fun h => Except.ok.inj h, fun h => congrArg Except.ok h⟩

/-! ## Types that are looked up -/

theorem mem_types_of_find? {r : Registry} {name preferred : String} {type : Descriptor}
    (h : r.find? name preferred = some type) : type ∈ r.types := by
  obtain ⟨i, -, hi⟩ := Option.bind_eq_some_iff.mp h
  exact List.mem_of_getElem? hi

/-- The type that is found under a qualified name is registered under that name. -/
theorem of_get? {r : Registry} {name : String} {type : Descriptor} (h : r.get? name = some type) :
    type ∈ r.types ∧ type.qualified = name := by
  obtain ⟨i, hidx, hi⟩ := Option.bind_eq_some_iff.mp h
  refine ⟨List.mem_of_getElem? hi, ?_⟩
  rw [Lookup.qualified?, List.findIdx?_eq_some_iff_getElem] at hidx
  obtain ⟨hlt, hname, -⟩ := hidx
  have hhead : (heads r.types)[i] = type.toTypeHead := by
    obtain ⟨hin, htype⟩ := List.getElem?_eq_some_iff.mp hi
    rw [← htype]
    exact List.getElem_map ..
  rw [hhead, beq_iff_eq] at hname
  exact hname

end Registry

end Archetype
