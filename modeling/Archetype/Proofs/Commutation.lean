import Archetype.Proofs.Application
import Mathlib.Data.List.Nodup

/-! # The order does not matter

    Prototypes refer to each other, in circles too, and all of them lie in one store that is written while a
    batch is applied.  Still, two definitions with prototypes of their own can be applied in either order: each
    reads the fields of its own prototype and, of those that it refers to, only what never changes, so neither
    sees whether the other has been applied (`definition_comm`).

    A permutation is a row of exchanges of neighbours.  So the store a batch leaves does not depend on the order
    that it is applied in (`run_perm`), and neither do the reports, but for their order. -/

namespace Archetype

/-- Writing at two addresses can be done in either order. -/
theorem Store.write_comm (s : Store) {h k : Handle} (fields others : Fields)
    (hne : h.address ≠ k.address) :
    (s.write h fields).write k others = (s.write k others).write h fields :=
  congrArg Store.mk (Array.setIfInBounds_comm fields others hne)

namespace Application

variable {c : Catalogue} {store : Store} {ds : List Definition}

/-! ## Two definitions -/

/-- **EITHER ORDER**: two definitions with prototypes of their own can be applied in either order. -/
theorem definition_comm (c : Catalogue) (store : Store) {d e : Definition}
    (hne : ∀ h k, d.handle = some h → e.handle = some k → h.address ≠ k.address) :
    (definition c (definition c store d).value e).value
      = (definition c (definition c store e).value d).value := by
  cases hd : d.handle with
  | none => rw [value_definition_none hd, value_definition_none hd]
  | some h =>
      cases he : e.handle with
      | none => rw [value_definition_none he, value_definition_none he]
      | some k =>
          -- neither finds other fields than it would have found without the other
          have hseen : (definition c store d).value.fields k = store.fields k :=
            fields_value_definition_of_ne fun _ hd' => hne _ k hd' he
          have hseenToo : (definition c store e).value.fields h = store.fields h :=
            fields_value_definition_of_ne fun _ he' => (hne h _ hd he').symm
          rw [value_definition he, hseen, value_definition hd, value_definition hd, hseenToo,
            value_definition he]
          exact Store.write_comm store _ _ (hne h k hd he)

/-! ## Many definitions -/

/-- The first two of some definitions that are apart have prototypes of their own. -/
theorem Apart.ne_of_cons_cons {d e : Definition} (hapart : Apart (d :: e :: ds)) :
    ∀ h k, d.handle = some h → e.handle = some k → h.address ≠ k.address := fun _ k hd he =>
  (hapart.head_ne hd k (List.mem_filterMap.mpr ⟨e, List.mem_cons_self, he⟩)).symm

theorem run_perm (c : Catalogue) {es : List Definition} (hapart : Apart ds) (hperm : ds.Perm es)
    (store : Store) : run c store ds = run c store es := by
  induction hperm generalizing store with
  | nil => rfl
  | cons d _ ih => exact ih hapart.tail _
  | swap e d rest =>
      rw [run, run, run, run, definition_comm c store hapart.ne_of_cons_cons]
  | trans hperm _ ih ihRest => exact (ih hapart store).trans (ihRest (hapart.perm hperm) store)

/-- A prototype belongs to one position. -/
theorem Apart.position_unique (hapart : Apart ds) {i j : Nat} {d e : Definition} {h k : Handle}
    (hi : ds[i]? = some d) (hj : ds[j]? = some e) (hd : d.handle = some h) (he : e.handle = some k)
    (hsame : h.address = k.address) : i = j := by
  induction ds generalizing i j with
  | nil => cases hi
  | cons first rest ih =>
      cases i with
      | zero =>
          cases j with
          | zero => rfl
          | succ j =>
              obtain rfl := Option.some.inj hi
              have hlater : k ∈ rest.filterMap (·.handle) :=
                List.mem_filterMap.mpr ⟨e, List.mem_of_getElem? hj, he⟩
              exact absurd hsame.symm (hapart.head_ne hd k hlater)
      | succ i =>
          cases j with
          | zero =>
              obtain rfl := Option.some.inj hj
              have hlater : h ∈ rest.filterMap (·.handle) :=
                List.mem_filterMap.mpr ⟨d, List.mem_of_getElem? hi, hd⟩
              exact absurd hsame (hapart.head_ne he h hlater)
          | succ j => exact congrArg (· + 1) (ih hapart.tail hi hj)

/-- What is applied at different positions has prototypes of its own. -/
theorem apart_targets (hapart : Apart c.batch) {order : List Nat} (hnodup : order.Nodup) :
    Apart (targets c order) := by
  rw [Apart, targets, List.filterMap_filterMap, List.map_filterMap]
  refine List.Nodup.filterMap (fun i j address hi hj => ?_) hnodup
  simp only [Option.mem_def, Option.map_eq_some_iff, Option.bind_eq_some_iff, Option.filter_eq_some_iff]
    at hi hj
  obtain ⟨h, ⟨d, ⟨hd, -⟩, hh⟩, rfl⟩ := hi
  obtain ⟨k, ⟨e, ⟨he, -⟩, hk⟩, hsame⟩ := hj
  exact hapart.position_unique hd he hh hk hsame.symm

/-- **WHATEVER THE ORDER**: however the positions of a batch are rearranged, applying the definitions at them
    leaves the same store and gives the same reports, up to their order.  Applied are, in the order in which
    they are given, the positions whose definition has a prototype. -/
theorem batch_perm {c : Catalogue} (hapart : Apart c.batch) {order other : List Nat} (hnodup : order.Nodup)
    (hperm : order.Perm other) (store : Store) :
    (batch c store other).value.2 = (batch c store order).value.2 ∧
      (batch c store order).value.1 = taken c order ∧ (batch c store other).value.1 = taken c other ∧
      (taken c other).Perm (taken c order) ∧
      (batch c store other).journal.diagnostics.Perm (batch c store order).journal.diagnostics := by
  have htargets : (targets c order).Perm (targets c other) := hperm.filterMap _
  have hfirst : Apart (targets c order) := apart_targets hapart hnodup
  have hsecond : Apart (targets c other) := hfirst.perm htargets
  rw [value_batch, value_batch, diagnostics_batch hfirst, diagnostics_batch hsecond]
  exact ⟨(run_perm c hfirst htargets store).symm, rfl, rfl, (hperm.filter _).symm,
    (htargets.flatMap_right _).symm⟩

/-! ### Two friends and what they have in common -/

def friendType : Descriptor :=
  (Descriptor.prototype "Friend").declare ⟨"friend", .reference "Friend", none⟩ |>.declare
    ⟨"mood", .scalar "string", none⟩

/-- A friend on a line of its own, with the prototype at an address, that states its friend and something
    else. -/
def friend (line : Nat) (id : String) (inherits : Option String) (handle : Option Handle)
    (fields : List StagedField) : Definition where
  id := id
  inherits := inherits
  isAbstract := handle.isNone
  typeOverride := none
  body := ⟨friendType, fields, ⟨"friends", line⟩⟩
  state := .referencesResolved
  handle := handle

def annHandle : Handle := ⟨0, "ann", friendType.shape⟩

def bobHandle : Handle := ⟨1, "bob", friendType.shape⟩

/-- Ann and Bob refer to each other.  Bob comes first although he inherits from Ann, and both inherit a mood
    that is no text. -/
def friends : Catalogue where
  batch :=
    [friend 1 "bob" (some "ann") (some bobHandle)
      [⟨"friend", .bound "ann" (some annHandle), ⟨"friends", 2⟩⟩],
    friend 3 "ann" (some "both") (some annHandle)
      [⟨"friend", .bound "bob" (some bobHandle), ⟨"friends", 4⟩⟩],
    friend 5 "both" none none [⟨"mood", .scalar "int" (.int 3), ⟨"friends", 6⟩⟩]]
  table := []

theorem friends_in_any_order :
    let store : Store := ⟨#[[], []]⟩
    Apart friends.batch ∧ [2, 1, 0].Nodup ∧ [2, 1, 0].Perm [0, 1, 2] ∧
      ((batch friends store [2, 1, 0]).journal.diagnostics.map (·.line)) = [6, 6] ∧
      (batch friends store [0, 1, 2]).value.2 = (batch friends store [2, 1, 0]).value.2 ∧
      (batch friends store [2, 1, 0]).value.1 = [1, 0] ∧ (batch friends store [0, 1, 2]).value.1 = [0, 1] ∧
      [0, 1].Perm [1, 0] ∧
      (batch friends store [0, 1, 2]).journal.diagnostics.Perm
        (batch friends store [2, 1, 0]).journal.diagnostics := by
  intro store
  have hapart : Apart friends.batch := by decide
  have hnodup : [2, 1, 0].Nodup := by decide
  have hperm : [2, 1, 0].Perm [0, 1, 2] := by decide
  exact ⟨hapart, hnodup, hperm, by decide +kernel, batch_perm hapart hnodup hperm store⟩

end Application

end Archetype
