import Archetype.Schema.Converter

/-! # Values and fields

    What the representation of values and fields is meant to give: equality by structure does not depend on
    which side a value stands on, what a set of converters finds for a type name is one of its converters, and
    setting a field brings in that one entry and no other. -/

namespace Archetype

/-! ## Equality by structure -/

namespace Value

mutual

/-- Equality by structure is symmetric. -/
theorem same_symm : ∀ v w : Value, same v w = same w v
  | .null, w => by cases w <;> simp only [same]
  | .bool a, w => by cases w <;> simp only [same, Bool.beq_comm]
  | .int a, w => by cases w <;> simp only [same, Bool.beq_comm]
  | .float a, w => by cases w <;> simp only [same, Binary64.same_comm]
  | .text a, w => by cases w <;> simp only [same, Bool.beq_comm]
  | .variant a, w => by cases w <;> simp only [same, Bool.beq_comm]
  | .object s fs, w => by
      cases w with
      | object t gs => rw [same, same, sameFields_symm fs gs, Bool.beq_comm]
      | _ => simp only [same]
  | .reference h, w => by cases w <;> simp only [same, Bool.beq_comm]
  | .list xs, w => by
      cases w with
      | list ys => rw [same, same, sameItems_symm xs ys]
      | _ => simp only [same]

theorem sameFields_symm : ∀ fs gs : List (String × Value), sameFields fs gs = sameFields gs fs
  | [], [] => rfl
  | [], _ :: _ => rfl
  | _ :: _, [] => rfl
  | (n, v) :: fs, (m, w) :: gs => by
      rw [sameFields, sameFields, same_symm v w, sameFields_symm fs gs, Bool.beq_comm]

theorem sameItems_symm : ∀ xs ys : List Value, sameItems xs ys = sameItems ys xs
  | [], [] => rfl
  | [], _ :: _ => rfl
  | _ :: _, [] => rfl
  | v :: xs, w :: ys => by
      rw [sameItems, sameItems, same_symm v w, sameItems_symm xs ys]

end

theorem beq_symm (v w : Value) : (v == w) = (w == v) := same_symm v w

mutual

/-- Equality by structure is transitive. -/
theorem same_trans : ∀ u v w : Value, same u v = true → same v w = true → same u w = true
  | .null, v, w, huv, hvw => by
      cases v <;> simp only [same, Bool.false_eq_true] at huv
      exact hvw
  | .bool _, v, w, huv, hvw => by
      cases v <;> simp only [same, Bool.false_eq_true] at huv
      rw [eq_of_beq huv]
      exact hvw
  | .int _, v, w, huv, hvw => by
      cases v <;> simp only [same, Bool.false_eq_true] at huv
      rw [eq_of_beq huv]
      exact hvw
  | .float _, v, w, huv, hvw => by
      cases v <;> simp only [same, Bool.false_eq_true] at huv
      cases w <;> simp only [same, Bool.false_eq_true] at hvw
      exact Binary64.same_trans huv hvw
  | .text _, v, w, huv, hvw => by
      cases v <;> simp only [same, Bool.false_eq_true] at huv
      rw [eq_of_beq huv]
      exact hvw
  | .variant _, v, w, huv, hvw => by
      cases v <;> simp only [same, Bool.false_eq_true] at huv
      rw [eq_of_beq huv]
      exact hvw
  | .object _ fs, v, w, huv, hvw => by
      cases v with
      | object _ gs =>
          cases w with
          | object _ ks =>
              simp only [same, Bool.and_eq_true] at huv hvw ⊢
              rw [eq_of_beq huv.1]
              exact ⟨hvw.1, sameFields_trans fs gs ks huv.2 hvw.2⟩
          | _ => cases hvw
      | _ => cases huv
  | .reference _, v, w, huv, hvw => by
      cases v <;> simp only [same, Bool.false_eq_true] at huv
      cases w <;> simp only [same, Bool.false_eq_true] at hvw
      exact beq_iff_eq.mpr ((eq_of_beq huv).trans (eq_of_beq hvw))
  | .list xs, v, w, huv, hvw => by
      cases v with
      | list ys =>
          cases w with
          | list zs =>
              rw [same] at huv hvw ⊢
              exact sameItems_trans xs ys zs huv hvw
          | _ => cases hvw
      | _ => cases huv

theorem sameFields_trans : ∀ fs gs ks : List (String × Value),
    sameFields fs gs = true → sameFields gs ks = true → sameFields fs ks = true
  | [], [], _, _, hgk => hgk
  | [], _ :: _, _, hfg, _ => nomatch hfg
  | _ :: _, [], _, hfg, _ => nomatch hfg
  | _ :: _, _ :: _, [], _, hgk => nomatch hgk
  | (_, u) :: fs, (_, v) :: gs, (_, w) :: ks, hfg, hgk => by
      simp only [sameFields, Bool.and_eq_true] at hfg hgk ⊢
      rw [eq_of_beq hfg.1.1]
      exact ⟨⟨hgk.1.1, same_trans u v w hfg.1.2 hgk.1.2⟩, sameFields_trans fs gs ks hfg.2 hgk.2⟩

theorem sameItems_trans : ∀ xs ys zs : List Value,
    sameItems xs ys = true → sameItems ys zs = true → sameItems xs zs = true
  | [], [], _, _, hyz => hyz
  | [], _ :: _, _, hxy, _ => nomatch hxy
  | _ :: _, [], _, hxy, _ => nomatch hxy
  | _ :: _, _ :: _, [], _, hyz => nomatch hyz
  | u :: xs, v :: ys, w :: zs, hxy, hyz => by
      simp only [sameItems, Bool.and_eq_true] at hxy hyz ⊢
      exact ⟨same_trans u v w hxy.1 hyz.1, sameItems_trans xs ys zs hxy.2 hyz.2⟩

end

theorem beq_trans {u v w : Value} (huv : (u == v) = true) (hvw : (v == w) = true) : (u == w) = true :=
  same_trans u v w huv hvw

end Value

/-! ## Converters of a set -/

namespace ConverterSet

variable {set : ConverterSet} {typeName : String} {c : Converter}

theorem mem_of_get? (h : set.get? typeName = some c) : c ∈ set.converters :=
  List.mem_of_find?_eq_some h

/-- The converter that is found for a type name is one of the set. -/
theorem mem_of_best? (h : set.best? typeName = some c) : c ∈ set.converters := by
  rw [best?] at h
  split at h
  · rename_i hexact
    rw [← Option.some.inj h]
    exact mem_of_get? hexact
  · obtain ⟨simple, -, hsimple⟩ := Option.bind_eq_some_iff.mp h
    exact mem_of_get? hsimple

end ConverterSet

/-! ## Entries of fields -/

namespace Fields

/-- The value of a field is one of the entries. -/
theorem mem_of_get? {fields : Fields} {name : String} {v : Value} (h : fields.get? name = some v) :
    (name, v) ∈ fields := by
  obtain ⟨entry, hfind, rfl⟩ := Option.map_eq_some_iff.mp h
  have hname := List.find?_some hfind
  rw [beq_iff_eq] at hname
  rw [← hname]
  exact List.mem_of_find?_eq_some hfind

theorem mem_replace {fields : Fields} {name : String} {v : Value} {entry : String × Value}
    (h : entry ∈ fields.replace name v) : entry = (name, v) ∨ entry ∈ fields := by
  induction fields with
  | nil => cases h
  | cons head rest ih =>
      obtain ⟨other, old⟩ := head
      rw [replace] at h
      split at h
      · rename_i hname
        rcases List.mem_cons.mp h with hnew | hrest
        · exact Or.inl (hname ▸ hnew)
        · exact Or.inr (List.mem_cons_of_mem _ hrest)
      · rcases List.mem_cons.mp h with hhead | hrest
        · exact Or.inr (hhead ▸ List.mem_cons_self)
        · exact (ih hrest).imp_right (List.mem_cons_of_mem _)

theorem mem_insert {fields : Fields} {name : String} {v : Value} {entry : String × Value}
    (h : entry ∈ fields.insert name v) : entry = (name, v) ∨ entry ∈ fields := by
  induction fields with
  | nil => exact Or.inl (List.mem_singleton.mp h)
  | cons head rest ih =>
      obtain ⟨other, old⟩ := head
      rw [insert] at h
      split at h
      · exact List.mem_cons.mp h
      · rcases List.mem_cons.mp h with hhead | hrest
        · exact Or.inr (hhead ▸ List.mem_cons_self)
        · exact (ih hrest).imp_right (List.mem_cons_of_mem _)

/-- Setting a field adds no entry but the new one. -/
theorem mem_set {fields : Fields} {name : String} {v : Value} {entry : String × Value}
    (h : entry ∈ fields.set name v) : entry = (name, v) ∨ entry ∈ fields := by
  rw [set] at h
  split at h
  · exact mem_replace h
  · exact mem_insert h

end Fields

end Archetype
