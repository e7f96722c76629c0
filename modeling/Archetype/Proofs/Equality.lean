import Archetype.Datum.Json
import Archetype.Proofs.Renaming
import Archetype.Value.Outline

/-! # Equality and plain data

    Equality by structure is symmetric and transitive, and would be an equivalence but for the floating-point
    numbers: a value with a NaN in it differs from itself.  Plain data respects it but for the two zeros, which
    are equal and written differently.  So both are said of the numbers in a value, at any depth
    (`Value.floats`), and proved by going down both values at once.

    A reference is a leaf of a value: it stands for the id of a prototype, whatever the fields of that one hold
    or refer to.  This is what keeps the plain data of a value small (`Value.count_outline_le`), and a
    prototype unconcerned by what is written to another.  For prototypes themselves the one thing to know is
    that two handles of one address are the same handle, which holds where handles come from allocation
    (`Store.Made.eq_of_address`). -/

namespace Archetype

/-- Equal numbers that are not zero have the same bits. -/
theorem Binary64.eq_of_same {x y : Binary64} (h : x.same y = true) (hx : x.isZero = false) : x = y := by
  rw [same, hx, Bool.false_and, Bool.or_false, Bool.and_eq_true, beq_iff_eq] at h
  exact congrArg Binary64.mk h.2

namespace Value

/-! ## Numbers in a value -/

mutual

/-- The floating-point numbers in a value, at any depth. -/
def floats : Value → List Binary64
  | null => []
  | bool _ => []
  | int _ => []
  | float x => [x]
  | text _ => []
  | variant _ => []
  | object _ fields => fieldFloats fields
  | reference _ => []
  | list items => itemFloats items

/-- `floats` of fields. -/
def fieldFloats : List (String × Value) → List Binary64
  | [] => []
  | (_, v) :: rest => floats v ++ fieldFloats rest

/-- `floats` of items. -/
def itemFloats : List Value → List Binary64
  | [] => []
  | v :: rest => floats v ++ itemFloats rest

end

mutual

/-- **REFLEXIVE** but for NaNs: a value equals itself if there is none in it, and only then. -/
theorem same_self_iff : ∀ v : Value, same v v = true ↔ ∀ x ∈ v.floats, x.isNaN = false
  | .null => by simp only [same, floats, List.not_mem_nil, false_implies, implies_true]
  | .bool _ | .int _ | .text _ | .variant _ | .reference _ => by
      simp only [same, beq_self_eq_true, floats, List.not_mem_nil, false_implies, implies_true]
  | .float x => by
      rw [same, Binary64.same_self, floats, List.forall_mem_singleton, Bool.not_eq_true']
  | .object _ fields => by
      rw [same, beq_self_eq_true, Bool.true_and, sameFields_self_iff fields, floats]
  | .list items => by
      rw [same, sameItems_self_iff items, floats]

theorem sameFields_self_iff : ∀ fields : List (String × Value),
    sameFields fields fields = true ↔ ∀ x ∈ fieldFloats fields, x.isNaN = false
  | [] => by simp only [sameFields, fieldFloats, List.not_mem_nil, false_implies, implies_true]
  | (_, v) :: rest => by
      rw [sameFields, beq_self_eq_true, Bool.true_and, Bool.and_eq_true, same_self_iff v,
        sameFields_self_iff rest, fieldFloats, List.forall_mem_append]

theorem sameItems_self_iff : ∀ items : List Value,
    sameItems items items = true ↔ ∀ x ∈ itemFloats items, x.isNaN = false
  | [] => by simp only [sameItems, itemFloats, List.not_mem_nil, false_implies, implies_true]
  | v :: rest => by
      rw [sameItems, Bool.and_eq_true, same_self_iff v, sameItems_self_iff rest, itemFloats,
        List.forall_mem_append]

end

/-! ## Plain data -/

mutual

/-- **RESPECTED**: equal values have the same plain data, if no number in them is a zero. -/
theorem outline_eq_of_same : ∀ v w : Value, same v w = true → (∀ x ∈ v.floats, x.isZero = false) →
    v.outline = w.outline
  | .null, w, h, _ => by
      cases w <;> simp only [same, Bool.false_eq_true] at h
      rfl
  | .bool _, w, h, _ | .int _, w, h, _ | .text _, w, h, _ | .variant _, w, h, _ => by
      cases w <;> simp only [same, Bool.false_eq_true] at h
      rw [eq_of_beq h]
  | .float x, w, h, hx => by
      cases w <;> simp only [same, Bool.false_eq_true] at h
      rw [Binary64.eq_of_same h (hx x (List.mem_singleton_self x))]
  | .object _ fs, w, h, hx => by
      cases w with
      | object _ gs =>
          rw [same, Bool.and_eq_true] at h
          rw [outline, outline, eq_of_beq h.1, outlineFields_eq_of_same fs gs h.2 hx]
      | _ => cases h
  | .reference _, w, h, _ => by
      cases w <;> simp only [same, Bool.false_eq_true] at h
      rw [outline, outline, eq_of_beq h]
  | .list xs, w, h, hx => by
      cases w with
      | list ys =>
          rw [same] at h
          rw [outline, outline, outlineItems_eq_of_same xs ys h hx]
      | _ => cases h

theorem outlineFields_eq_of_same : ∀ fs gs : List (String × Value), sameFields fs gs = true →
    (∀ x ∈ fieldFloats fs, x.isZero = false) → outlineFields fs = outlineFields gs
  | [], [], _, _ => rfl
  | [], _ :: _, h, _ => nomatch h
  | _ :: _, [], h, _ => nomatch h
  | (_, v) :: fs, (_, w) :: gs, h, hx => by
      rw [sameFields, Bool.and_eq_true, Bool.and_eq_true] at h
      rw [fieldFloats, List.forall_mem_append] at hx
      rw [outlineFields, outlineFields, eq_of_beq h.1.1, outline_eq_of_same v w h.1.2 hx.1,
        outlineFields_eq_of_same fs gs h.2 hx.2]

theorem outlineItems_eq_of_same : ∀ xs ys : List Value, sameItems xs ys = true →
    (∀ x ∈ itemFloats xs, x.isZero = false) → outlineItems xs = outlineItems ys
  | [], [], _, _ => rfl
  | [], _ :: _, h, _ => nomatch h
  | _ :: _, [], h, _ => nomatch h
  | v :: xs, w :: ys, h, hx => by
      rw [sameItems, Bool.and_eq_true] at h
      rw [itemFloats, List.forall_mem_append] at hx
      rw [outlineItems, outlineItems, outline_eq_of_same v w h.1 hx.1,
        outlineItems_eq_of_same xs ys h.2 hx.2]

end

/-- The two zeros are equal and their plain data is not, so the condition cannot be left out. -/
example : (float (.zero false) == float (.zero true)) = true ∧
    Json.compact (float (.zero false)).outline ≠ Json.compact (float (.zero true)).outline := by
  decide +kernel

mutual

/-- Plain data has the ids of prototypes and nothing else of them. -/
theorem outline_rename {ρ : Handle → Handle} (hid : ∀ h, (ρ h).id = h.id) :
    ∀ v : Value, (v.rename ρ).outline = v.outline
  | .null | .bool _ | .int _ | .float _ | .text _ | .variant _ => rfl
  | .object _ fields => by rw [rename, outline, outline, outlineFields_rename hid fields]
  | .reference target => congrArg Datum.text (hid target)
  | .list items => by rw [rename, outline, outline, outlineItems_rename hid items]

theorem outlineFields_rename {ρ : Handle → Handle} (hid : ∀ h, (ρ h).id = h.id) :
    ∀ fields : List (String × Value), outlineFields (renameFields ρ fields) = outlineFields fields
  | [] => rfl
  | (_, v) :: rest => by
      rw [renameFields, outlineFields, outlineFields, outline_rename hid v, outlineFields_rename hid rest]

theorem outlineItems_rename {ρ : Handle → Handle} (hid : ∀ h, (ρ h).id = h.id) :
    ∀ items : List Value, outlineItems (renameItems ρ items) = outlineItems items
  | [] => rfl
  | v :: rest => by
      rw [renameItems, outlineItems, outlineItems, outline_rename hid v, outlineItems_rename hid rest]

end

/-! ## The size of plain data -/

mutual

/-- The number of values in a value, itself included.  What a reference refers to does not count. -/
def count : Value → Nat
  | null => 1
  | bool _ => 1
  | int _ => 1
  | float _ => 1
  | text _ => 1
  | variant _ => 1
  | object _ fields => 1 + countFields fields
  | reference _ => 1
  | list items => 1 + countItems items

/-- `count` of fields. -/
def countFields : List (String × Value) → Nat
  | [] => 0
  | (_, v) :: rest => count v + countFields rest

/-- `count` of items. -/
def countItems : List Value → Nat
  | [] => 0
  | v :: rest => count v + countItems rest

end

end Value

namespace Datum

mutual

/-- The number of pieces of data in a datum, itself included. -/
def count : Datum → Nat
  | null => 1
  | bool _ => 1
  | int _ => 1
  | float _ => 1
  | text _ => 1
  | list items => 1 + countItems items
  | record entries => 1 + countEntries entries

/-- `count` of items. -/
def countItems : List Datum → Nat
  | [] => 0
  | item :: rest => count item + countItems rest

/-- `count` of entries. -/
def countEntries : List (String × Datum) → Nat
  | [] => 0
  | (_, item) :: rest => count item + countEntries rest

end

end Datum

namespace Value

mutual

/-- **FINITE**: a value has plain data of its own size, but for the types of the objects in it. -/
theorem count_outline_le : ∀ v : Value, v.outline.count ≤ 3 * v.count
  | .null | .bool _ | .int _ | .float _ | .text _ | .variant _ | .reference _ => by
      simp only [outline, Datum.count, count]
      omega
  | .object _ fields => by
      have hfields := countEntries_outlineFields_le fields
      simp only [outline, Datum.count, Datum.countEntries, count]
      omega
  | .list items => by
      have hitems := countItems_outlineItems_le items
      simp only [outline, Datum.count, count]
      omega

theorem countEntries_outlineFields_le : ∀ fields : List (String × Value),
    Datum.countEntries (outlineFields fields) ≤ 3 * countFields fields
  | [] => Nat.le_refl 0
  | (_, v) :: rest => by
      have hhead := count_outline_le v
      have hrest := countEntries_outlineFields_le rest
      simp only [outlineFields, Datum.countEntries, countFields]
      omega

theorem countItems_outlineItems_le : ∀ items : List Value,
    Datum.countItems (outlineItems items) ≤ 3 * countItems items
  | [] => Nat.le_refl 0
  | v :: rest => by
      have hhead := count_outline_le v
      have hrest := countItems_outlineItems_le rest
      simp only [outlineItems, Datum.countItems, countItems]
      omega

end

end Value

namespace Store

/-! ## Prototypes -/

/-- A store that was made by allocating and writing, with the prototypes allocated in it. -/
inductive Made : Store → List Handle → Prop
  | empty : Made .empty []
  | allocate {s : Store} {handles : List Handle} (h : Made s handles) (id : String) (type : Shape)
      (fields : Fields) : Made (s.allocate id type fields).2 ((s.allocate id type fields).1 :: handles)
  | write {s : Store} {handles : List Handle} (h : Made s handles) (target : Handle) (fields : Fields) :
      Made (s.write target fields) handles

variable {s : Store} {handles : List Handle} {h k l : Handle}

namespace Made

theorem address_lt (hmade : Made s handles) (hh : h ∈ handles) : h.address < s.cells.size := by
  induction hmade with
  | empty => cases hh
  | @allocate s _ _ id type fields ih =>
      have hsize : (s.allocate id type fields).2.cells.size = s.cells.size + 1 := Array.size_push fields
      rw [hsize]
      rcases List.mem_cons.mp hh with rfl | hold
      · exact Nat.lt_succ_self _
      · exact Nat.lt_succ_of_lt (ih hold)
  | @write s _ _ target fields ih =>
      have hsize : (s.write target fields).cells.size = s.cells.size := Array.size_setIfInBounds ..
      rw [hsize]
      exact ih hh

/-- **ONE ADDRESS, ONE PROTOTYPE**: an address is given to one prototype, once. -/
theorem eq_of_address (hmade : Made s handles) (hh : h ∈ handles) (hk : k ∈ handles)
    (hsame : h.address = k.address) : h = k := by
  induction hmade with
  | empty => cases hh
  | @allocate s _ hbefore id type fields ih =>
      -- the new address is above all that were given before
      have hnew (old : Handle) (hold : old ∈ _) : old.address ≠ (s.allocate id type fields).1.address :=
        Nat.ne_of_lt (hbefore.address_lt hold)
      rcases List.mem_cons.mp hh with rfl | hhold
      · rcases List.mem_cons.mp hk with rfl | hkold
        · rfl
        · exact absurd hsame.symm (hnew k hkold)
      · rcases List.mem_cons.mp hk with rfl | hkold
        · exact absurd hsame (hnew h hhold)
        · exact ih hhold hkold
  | write _ _ _ ih => exact ih hh hk

theorem eq_of_isSame (hmade : Made s handles) (hh : h ∈ handles) (hk : k ∈ handles)
    (hsame : h.isSame k = true) : h = k :=
  hmade.eq_of_address hh hk (beq_iff_eq.mp hsame)

end Made

theorem sameDeep_self (s : Store) (h : Handle) : s.sameDeep h h = true := by
  rw [sameDeep, Handle.isSame, beq_self_eq_true, Bool.true_or]

theorem sameDeep_symm (s : Store) (h k : Handle) : s.sameDeep h k = s.sameDeep k h := by
  rw [sameDeep, sameDeep, Handle.isSame, Handle.isSame, Value.sameFields_symm (s.fields h)]
  simp only [Bool.beq_comm]

theorem sameDeep_iff : s.sameDeep h k = true ↔ h.isSame k = true ∨
    h.id = k.id ∧ h.type.qualified = k.type.qualified ∧ Value.sameFields (s.fields h) (s.fields k) = true := by
  rw [sameDeep, Bool.or_eq_true, Bool.and_eq_true, Bool.and_eq_true, beq_iff_eq, beq_iff_eq, and_assoc]

theorem sameDeep_trans (hmade : Made s handles) (hh : h ∈ handles) (hk : k ∈ handles) (hl : l ∈ handles)
    (hhk : s.sameDeep h k = true) (hkl : s.sameDeep k l = true) : s.sameDeep h l = true := by
  rcases sameDeep_iff.mp hhk with hsame | ⟨hid, htype, hfields⟩
  · rw [hmade.eq_of_isSame hh hk hsame]
    exact hkl
  · rcases sameDeep_iff.mp hkl with hsame | ⟨hid', htype', hfields'⟩
    · rw [← hmade.eq_of_isSame hk hl hsame]
      exact hhk
    · exact sameDeep_iff.mpr (Or.inr ⟨hid.trans hid', htype.trans htype',
        Value.sameFields_trans _ _ _ hfields hfields'⟩)

theorem outline_eq_of_sameDeep (hmade : Made s handles) (hh : h ∈ handles) (hk : k ∈ handles)
    (hsame : s.sameDeep h k = true) (hx : ∀ x ∈ Value.fieldFloats (s.fields h), x.isZero = false) :
    s.outline h = s.outline k := by
  rcases sameDeep_iff.mp hsame with hsame | ⟨hid, htype, hfields⟩
  · rw [hmade.eq_of_isSame hh hk hsame]
  · rw [outline, outline, hid, htype, Value.outlineFields_eq_of_same _ _ hfields hx]

theorem sameDeep_write (s : Store) (fields : Fields) (hh : l.address ≠ h.address)
    (hk : l.address ≠ k.address) : (s.write l fields).sameDeep h k = s.sameDeep h k := by
  rw [sameDeep, sameDeep, s.fields_write_of_ne fields hh, s.fields_write_of_ne fields hk]

theorem outline_write (s : Store) (fields : Fields) (hh : l.address ≠ h.address) :
    (s.write l fields).outline h = s.outline h := by
  rw [outline, outline, s.fields_write_of_ne fields hh]

theorem count_outline_le (s : Store) (h : Handle) :
    (s.outline h).count ≤ 4 + 3 * Value.countFields (s.fields h) := by
  have hfields := Value.countEntries_outlineFields_le (s.fields h)
  simp only [outline, Datum.count, Datum.countEntries]
  omega

/-- How the prototypes of a store compare, and what their plain data is. -/
structure Compares (s : Store) (handles : List Handle) : Prop where
  refl : ∀ h ∈ handles, s.sameDeep h h = true
  symm : ∀ h ∈ handles, ∀ k ∈ handles, s.sameDeep h k = s.sameDeep k h
  trans : ∀ h ∈ handles, ∀ k ∈ handles, ∀ l ∈ handles,
    s.sameDeep h k = true → s.sameDeep k l = true → s.sameDeep h l = true
  /-- Equal prototypes have the same plain data, if no number in their fields is a zero. -/
  respected : ∀ h ∈ handles, ∀ k ∈ handles, s.sameDeep h k = true →
    (∀ x ∈ Value.fieldFloats (s.fields h), x.isZero = false) → s.outline h = s.outline k
  /-- Neither depends on the fields of other prototypes, whether they are referred to or not. -/
  framed : ∀ h ∈ handles, ∀ k ∈ handles, ∀ l ∈ handles, l ≠ h → l ≠ k → ∀ fields,
    (s.write l fields).sameDeep h k = s.sameDeep h k ∧ (s.write l fields).outline h = s.outline h
  /-- The plain data is no larger than the fields make it, even where the references go in circles. -/
  finite : ∀ h ∈ handles, (s.outline h).count ≤ 4 + 3 * Value.countFields (s.fields h)

theorem Made.compares (hmade : Made s handles) : s.Compares handles where
  refl := fun h _ => s.sameDeep_self h
  symm := fun h _ k _ => s.sameDeep_symm h k
  trans := fun _ hh _ hk _ hl => sameDeep_trans hmade hh hk hl
  respected := fun _ hh _ hk => outline_eq_of_sameDeep hmade hh hk
  framed := by
    intro h hh k hk l hl hlh hlk fields
    have hh' : l.address ≠ h.address := mt (hmade.eq_of_address hl hh) hlh
    have hk' : l.address ≠ k.address := mt (hmade.eq_of_address hl hk) hlk
    exact ⟨s.sameDeep_write fields hh' hk', s.outline_write fields hh'⟩
  finite := fun h _ => s.count_outline_le h

end Store

/-- **EQUALITY AND PLAIN DATA**: equality of values is symmetric and transitive, and fails for a value and
    itself exactly where there is a NaN in it.  Equal values have the same plain data if no number in them is
    a zero.  Both depend on a prototype that is referred to by its id alone, and the plain data of a value is
    no larger than the value.  Equality of prototypes is an equivalence, which plain data respects likewise. -/
theorem Value.equality_respected :
    ((∀ v w : Value, (v == w) = (w == v)) ∧
      (∀ u v w : Value, (u == v) = true → (v == w) = true → (u == w) = true) ∧
      (∀ v : Value, (v == v) = true ↔ ∀ x ∈ v.floats, x.isNaN = false) ∧
      (∀ v w : Value, (v == w) = true → (∀ x ∈ v.floats, x.isZero = false) → v.outline = w.outline) ∧
      (∀ ρ : Handle → Handle, (∀ h, (ρ h).id = h.id) → ∀ v w : Value,
        (v.rename ρ == w) = (v == w) ∧ (v.rename ρ).outline = v.outline) ∧
      ∀ v : Value, v.outline.count ≤ 3 * v.count) ∧
    ∀ s handles, Store.Made s handles → s.Compares handles := by
  refine ⟨⟨beq_symm, fun _ _ _ => beq_trans, same_self_iff, outline_eq_of_same, ?_, count_outline_le⟩, ?_⟩
  · intro ρ hid v w
    exact ⟨same_rename_left hid v w, outline_rename hid v⟩
  · intro s handles hmade
    exact hmade.compares

namespace Store

/-! ### Two scouts of one id, each of which refers to itself -/

def unitShape : Shape where
  name := "Unit"
  kind := .prototype
  fields := []

def firstScout : Handle :=
  ⟨0, "Scout", unitShape⟩

def secondScout : Handle :=
  ⟨1, "Scout", unitShape⟩

def scouts : Store :=
  (((empty.allocate "Scout" unitShape []).2.allocate "Scout" unitShape []).2.write firstScout
    [("upgrade", .reference firstScout)]).write secondScout [("upgrade", .reference secondScout)]

theorem scouts_compared :
    Made scouts [secondScout, firstScout] ∧ scouts.sameDeep firstScout secondScout = true ∧
      scouts.outline firstScout = scouts.outline secondScout ∧
      (scouts.write secondScout []).outline firstScout = scouts.outline firstScout ∧
      (Value.list [.reference firstScout, .null]).outline
        = (Value.list [.reference secondScout, .null]).outline := by
  obtain ⟨⟨-, -, -, hrespected, -⟩, hcompares⟩ := Value.equality_respected
  have hmade : Made scouts [secondScout, firstScout] :=
    (((Made.empty.allocate "Scout" unitShape []).allocate "Scout" unitShape []).write firstScout _).write
      secondScout _
  have hscouts := hcompares scouts _ hmade
  have hsecond : secondScout ∈ [secondScout, firstScout] := List.mem_cons_self
  have hfirst : firstScout ∈ [secondScout, firstScout] := List.mem_cons_of_mem _ List.mem_cons_self
  have hsame : scouts.sameDeep firstScout secondScout = true := by
    decide
  have hother : secondScout ≠ firstScout := by
    decide
  refine ⟨hmade, hsame, ?_, ?_, ?_⟩
  · exact hscouts.respected _ hfirst _ hsecond hsame (List.forall_mem_nil _)
  · exact (hscouts.framed _ hfirst _ hfirst _ hsecond hother hother []).2
  · exact hrespected _ _ (by decide) (List.forall_mem_nil _)

/-- The plain data of a scout has its own id where it refers to itself. -/
example : Json.compact (scouts.outline firstScout)
    = "\x7b\"id\":\"Scout\",\"type\":\"Unit\",\"fields\":\x7b\"upgrade\":\"Scout\"\x7d\x7d" := by
  cbv

end Store

end Archetype
