import Archetype.Proofs.Registry
import Mathlib.Data.List.Induction
import Mathlib.Data.List.Nodup

/-! # Fields that are declared again

    A type that derives from another has its fields, and declares its own after them, one after the other.
    All of that comes to one description (`joined`): each field of the base stands where it stood, as it was
    or as the type declares it again, and after them stand the other fields that the type declares.

    The heart is that declaring one more field changes both sides alike (`declareIn_joined`): a field that
    the base has by its name is replaced among those of the base, and any other one among the own fields,
    or put behind them. -/

namespace Archetype

/-! ## Declaring fields -/

namespace Field

theorem find?_declareIn (f : Field) (name : String) (fields : List Field) :
    (f.declareIn fields).find? (·.name == name)
      = if f.name = name then some f else fields.find? (·.name == name) := by
  induction fields with
  | nil =>
      rw [declareIn, List.find?_cons]
      by_cases hname : f.name = name
      · rw [if_pos hname, beq_iff_eq.mpr hname]
      · rw [if_neg hname, beq_eq_false_iff_ne.mpr hname]
  | cons other rest ih =>
      rw [declareIn]
      by_cases hsame : other.name = f.name
      · rw [if_pos hsame, List.find?_cons, List.find?_cons, hsame]
        by_cases hname : f.name = name
        · rw [if_pos hname, beq_iff_eq.mpr hname]
        · rw [if_neg hname, beq_eq_false_iff_ne.mpr hname]
      · rw [if_neg hsame, List.find?_cons, List.find?_cons, ih]
        by_cases hother : other.name = name
        · have hne : f.name ≠ name := fun hname => hsame (hother.trans hname.symm)
          rw [beq_iff_eq.mpr hother, if_neg hne, if_neg hne]
        · rw [beq_eq_false_iff_ne.mpr hother]

/-- A field is declared among those of some names, or is not one of them. -/
theorem filter_declareIn (p : String → Bool) (f : Field) (fields : List Field) :
    (f.declareIn fields).filter (fun g => p g.name)
      = if p f.name then f.declareIn (fields.filter fun g => p g.name)
        else fields.filter fun g => p g.name := by
  induction fields with
  | nil =>
      rw [declareIn, List.filter_cons]
      rfl
  | cons other rest ih =>
      rw [declareIn]
      by_cases hsame : other.name = f.name
      · rw [if_pos hsame, List.filter_cons, List.filter_cons, hsame]
        by_cases hp : p f.name = true
        · rw [if_pos hp, if_pos hp, if_pos hp, declareIn, if_pos hsame]
        · rw [if_neg hp, if_neg hp, if_neg hp]
      · rw [if_neg hsame, List.filter_cons, List.filter_cons, ih]
        by_cases hp : p f.name = true
        · by_cases hother : p other.name = true
          · rw [if_pos hp, if_pos hp, if_pos hother, if_pos hother, declareIn, if_neg hsame]
          · rw [if_pos hp, if_pos hp, if_neg hother, if_neg hother]
        · rw [if_neg hp, if_neg hp]

/-- A field that the first list has is declared in it, and any other one in the second list. -/
theorem declareIn_append (f : Field) (fields more : List Field) :
    f.declareIn (fields ++ more)
      = if f.name ∈ fields.map (·.name) then f.declareIn fields ++ more
        else fields ++ f.declareIn more := by
  induction fields with
  | nil => rfl
  | cons other rest ih =>
      rw [List.cons_append, declareIn, declareIn, List.map_cons, ih]
      by_cases hsame : other.name = f.name
      · rw [if_pos hsame, if_pos hsame, if_pos (hsame ▸ List.mem_cons_self)]
        rfl
      · rw [if_neg hsame, if_neg hsame]
        by_cases hrest : f.name ∈ rest.map (·.name)
        · rw [if_pos hrest, if_pos (List.mem_cons_of_mem _ hrest)]
          rfl
        · have hnew : f.name ∉ other.name :: rest.map (·.name) := by
            rw [List.mem_cons, not_or]
            exact ⟨Ne.symm hsame, hrest⟩
          rw [if_neg hrest, if_neg hnew]
          rfl

end Field

namespace Registry

/-- A field of a base as a derived type has it: as the derived type declares it, if it does. -/
def redeclared (own : List Field) (f : Field) : Field :=
  (own.find? (·.name == f.name)).getD f

/-- The fields of a base, each of them where it stands there, and after them the other fields that a derived
    type declares. -/
def joined (base own : List Field) : List Field :=
  base.map (redeclared own) ++ own.filter fun f => f.name ∉ base.map (·.name)

@[simp] theorem joined_nil (base : List Field) : joined base [] = base := by
  rw [joined, List.filter_nil, List.append_nil]
  exact List.map_id base

theorem redeclared_declareIn (own : List Field) (f g : Field) :
    redeclared (f.declareIn own) g = if f.name = g.name then f else redeclared own g := by
  rw [redeclared, f.find?_declareIn]
  by_cases hname : f.name = g.name
  · rw [if_pos hname, if_pos hname]
    rfl
  · rw [if_neg hname, if_neg hname]
    rfl

theorem name_redeclared (own : List Field) (f : Field) : (redeclared own f).name = f.name := by
  rw [redeclared]
  cases hfind : own.find? (·.name == f.name) with
  | none => rfl
  | some g =>
      have hname := List.find?_some hfind
      rwa [beq_iff_eq] at hname

theorem names_map_redeclared (base own : List Field) :
    (base.map (redeclared own)).map (·.name) = base.map (·.name) := by
  rw [List.map_map]
  exact List.map_congr_left fun f _ => name_redeclared own f

/-- To declare a field among those of a base is to declare it in the derived type. -/
theorem declareIn_map_redeclared {base : List Field} (hbase : (base.map (·.name)).Nodup) (own : List Field)
    {f : Field} (hf : f.name ∈ base.map (·.name)) :
    f.declareIn (base.map (redeclared own)) = base.map (redeclared (f.declareIn own)) := by
  induction base with
  | nil => cases hf
  | cons g rest ih =>
      rw [List.map_cons, List.nodup_cons] at hbase
      rw [List.map_cons, List.map_cons, Field.declareIn, name_redeclared, redeclared_declareIn]
      by_cases hname : g.name = f.name
      · -- no other field of the base has this name
        have hrest : rest.map (redeclared own) = rest.map (redeclared (f.declareIn own)) := by
          refine List.map_congr_left fun h hh => ?_
          have hne : f.name ≠ h.name := fun heq =>
            hbase.1 (hname.trans heq ▸ List.mem_map_of_mem hh)
          rw [redeclared_declareIn, if_neg hne]
        rw [if_pos hname, if_pos hname.symm, hrest]
      · have hmem : f.name ∈ rest.map (·.name) :=
          (List.mem_cons.mp hf).resolve_left (Ne.symm hname)
        rw [if_neg hname, if_neg (Ne.symm hname), ih hbase.2 hmem]

theorem declareIn_joined {base : List Field} (hbase : (base.map (·.name)).Nodup) (own : List Field)
    (f : Field) : f.declareIn (joined base own) = joined base (f.declareIn own) := by
  rw [joined, joined, Field.declareIn_append, names_map_redeclared,
    Field.filter_declareIn fun name => name ∉ base.map (·.name)]
  by_cases hf : f.name ∈ base.map (·.name)
  · rw [if_pos hf, if_neg (by simpa using hf), declareIn_map_redeclared hbase own hf]
  · have hsame : base.map (redeclared own) = base.map (redeclared (f.declareIn own)) := by
      refine List.map_congr_left fun g hg => ?_
      have hne : f.name ≠ g.name := fun heq => hf (heq ▸ List.mem_map_of_mem hg)
      rw [redeclared_declareIn, if_neg hne]
    rw [if_neg hf, if_pos (decide_eq_true hf), hsame]

theorem deriveFields_concat (base own : List Field) (f : Field) :
    deriveFields base (own ++ [f]) = f.declareIn (deriveFields base own) := by
  rw [deriveFields, List.foldl_append]
  rfl

/-- **JOINED**: what declaring one field after the other on the fields of a base comes to. -/
theorem deriveFields_eq_joined {base : List Field} (hbase : (base.map (·.name)).Nodup)
    (own : List Field) : deriveFields base own = joined base (deriveFields [] own) := by
  induction own using List.reverseRecOn with
  | nil => exact (joined_nil base).symm
  | append_singleton own f ih =>
      rw [deriveFields_concat, deriveFields_concat, ih, declareIn_joined hbase]

theorem nodup_joined {base own : List Field} (hbase : (base.map (·.name)).Nodup)
    (hown : (own.map (·.name)).Nodup) : ((joined base own).map (·.name)).Nodup := by
  rw [joined, List.map_append, names_map_redeclared, List.nodup_append]
  refine ⟨hbase, (List.filter_sublist.map _).nodup hown, ?_⟩
  rintro name hname other hother rfl
  obtain ⟨f, hf, rfl⟩ := List.mem_map.mp hother
  exact of_decide_eq_true (List.mem_filter.mp hf).2 hname

theorem mem_name_joined {base own : List Field} {name : String} (h : name ∈ base.map (·.name)) :
    name ∈ (joined base own).map (·.name) := by
  rw [joined, List.map_append, names_map_redeclared]
  exact List.mem_append_left _ h

theorem mem_joined {base own : List Field} {f : Field} (h : f ∈ joined base own) : f ∈ base ∨ f ∈ own := by
  rcases List.mem_append.mp h with hkept | hnew
  · obtain ⟨g, hg, rfl⟩ := List.mem_map.mp hkept
    rw [redeclared]
    cases hfind : own.find? (·.name == g.name) with
    | none => exact Or.inl hg
    | some f => exact Or.inr (List.mem_of_find?_eq_some hfind)
  · exact Or.inr (List.mem_of_mem_filter hnew)

theorem mem_deriveFields {base own : List Field} {f : Field} (h : f ∈ deriveFields base own) :
    f ∈ base ∨ f ∈ own := by
  rw [deriveFields] at h
  induction own generalizing base with
  | nil => exact Or.inl h
  | cons g rest ih =>
      rcases ih h with hbase | hrest
      · rcases Field.mem_declareIn hbase with rfl | hold
        · exact Or.inr List.mem_cons_self
        · exact Or.inl hold
      · exact Or.inr (List.mem_cons_of_mem _ hrest)

section Pairs

variable {R : Field → Field → Prop} (hname : ∀ f g, R f g → f.name = g.name)

include hname

theorem forall₂_declareIn {f g : Field} {fields others : List Field} (hfg : R f g)
    (h : List.Forall₂ R fields others) : List.Forall₂ R (f.declareIn fields) (g.declareIn others) := by
  induction h with
  | nil => exact .cons hfg .nil
  | @cons x y rest more hxy hrest ih =>
      rw [Field.declareIn, Field.declareIn, hname x y hxy, hname f g hfg]
      by_cases hsame : y.name = g.name
      · rw [if_pos hsame, if_pos hsame]
        exact .cons hfg hrest
      · rw [if_neg hsame, if_neg hsame]
        exact .cons hxy ih

/-- Fields that differ in other things than their names are declared at the same places. -/
theorem forall₂_deriveFields {own more base others : List Field} (hown : List.Forall₂ R own more)
    (hbase : List.Forall₂ R base others) :
    List.Forall₂ R (deriveFields base own) (deriveFields others more) := by
  induction hown generalizing base others with
  | nil => exact hbase
  | cons hfg _ ih => exact ih (forall₂_declareIn hname hfg hbase)

end Pairs

end Registry

/-- The fields that a type declares, one of each name: a later field stands where an earlier one of its name
    did. -/
def Descriptor.declared (d : Descriptor) : List Field :=
  Registry.deriveFields [] d.fields

end Archetype
