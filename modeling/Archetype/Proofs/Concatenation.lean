import Archetype.Proofs.Binding
import Archetype.Proofs.Ordering

/-! # The circles of two batches

    Two batches in one: where the first needs nothing from the second and no id stands in both
    (`Separate`), ordering treats each as if it were alone.

    The table of parents of the first batch is the first part of the joint table.  The table of the second
    sits behind it, and its roots may climb on into the first part; but from there no parent leads back, so
    what they climb into closes no circle of the second batch.  Both are embeddings of tables, and circles go
    over embeddings. -/

namespace Archetype

/-- Two batches with no id in common, the first of which inherits from and refers to none of the second. -/
structure Separate (xs ys : List Definition) : Prop where
  ids : ∀ d ∈ xs, ∀ e ∈ ys, d.id ≠ e.id
  inherits : ∀ d ∈ xs, ∀ e ∈ ys, d.inherits ≠ some e.id
  references : ∀ d ∈ xs, ∀ id ∈ d.pendingIds, ∀ e ∈ ys, id ≠ e.id

namespace Ordering

open Ancestry

variable {xs ys : List Definition} {i : Nat}

/-! ## Positions -/

theorem lastPosition?_append (id : String) (xs ys : List Definition) :
    lastPosition? id (xs ++ ys)
      = ((lastPosition? id ys).map (xs.length + ·)).or (lastPosition? id xs) := by
  induction xs with
  | nil =>
      rw [List.nil_append]
      cases lastPosition? id ys with
      | none => rfl
      | some i =>
          show some i = some (0 + i)
          rw [Nat.zero_add]
  | cons d rest ih =>
      rw [List.cons_append, lastPosition?, ih, lastPosition?]
      cases lastPosition? id ys with
      | none => rfl
      | some i =>
          show some (rest.length + i + 1) = some (rest.length + 1 + i)
          rw [Nat.add_right_comm]

theorem of_lastPosition? {id : String} (h : lastPosition? id xs = some i) :
    ∃ d, xs[i]? = some d ∧ d.id = id := by
  induction xs generalizing i with
  | nil => exact nomatch h
  | cons d rest ih =>
      rw [lastPosition?] at h
      cases hrest : lastPosition? id rest with
      | some j =>
          rw [hrest] at h
          rw [← Option.some.inj h]
          exact ih hrest
      | none =>
          rw [hrest] at h
          by_cases hid : d.id = id
          · simp only [if_pos hid] at h
            rw [← Option.some.inj h]
            exact ⟨d, rfl, hid⟩
          · simp only [if_neg hid] at h
            exact nomatch h

/-- The last position of an id comes no earlier than any other. -/
theorem le_lastPosition? {j : Nat} {d : Definition} (h : xs[j]? = some d) :
    ∃ i, lastPosition? d.id xs = some i ∧ j ≤ i := by
  induction xs generalizing j with
  | nil => exact nomatch h
  | cons first rest ih =>
      rw [lastPosition?]
      cases j with
      | zero =>
          rw [Option.some.inj h]
          cases lastPosition? d.id rest with
          | none => exact ⟨0, if_pos rfl, Nat.le_refl 0⟩
          | some i => exact ⟨i + 1, rfl, Nat.zero_le _⟩
      | succ j =>
          obtain ⟨i, hi, hle⟩ := ih h
          rw [hi]
          exact ⟨i + 1, rfl, Nat.succ_le_succ hle⟩

theorem lastPosition?_eq_none {id : String} (h : ∀ d ∈ xs, d.id ≠ id) : lastPosition? id xs = none := by
  cases hposition : lastPosition? id xs with
  | none => rfl
  | some i =>
      obtain ⟨d, hd, hid⟩ := of_lastPosition? hposition
      exact absurd hid (h d (List.mem_of_getElem? hd))

theorem getElem?_parents (batch : List Definition) (i : Nat) :
    (parents batch)[i]? = (batch[i]?).map fun d => d.inherits.bind fun id => lastPosition? id batch :=
  List.getElem?_map ..

/-- Parents are positions of the batch. -/
theorem parent_lt {batch : List Definition} {parent : Nat}
    (h : (parents batch)[i]? = some (some parent)) : parent < batch.length := by
  rw [getElem?_parents] at h
  obtain ⟨d, -, hparent⟩ := Option.map_eq_some_iff.mp h
  obtain ⟨id, -, hposition⟩ := Option.bind_eq_some_iff.mp hparent
  obtain ⟨e, he, -⟩ := of_lastPosition? hposition
  exact (List.getElem?_eq_some_iff.mp he).1

/-! ## The joint table -/

/-- The first batch has the parents it has alone. -/
theorem getElem?_parents_left (h : Separate xs ys) (hi : i < xs.length) :
    (parents (xs ++ ys))[i]? = (parents xs)[i]? := by
  rw [getElem?_parents, getElem?_parents, List.getElem?_append_left hi]
  obtain ⟨d, hd⟩ : ∃ d, xs[i]? = some d := ⟨_, List.getElem?_eq_getElem hi⟩
  rw [hd, Option.map_some, Option.map_some]
  cases hinherits : d.inherits with
  | none => rfl
  | some id =>
      have hnone : lastPosition? id ys = none := by
        refine lastPosition?_eq_none fun e he heq => ?_
        exact h.inherits d (List.mem_of_getElem? hd) e he (heq ▸ hinherits)
      rw [Option.bind_some, Option.bind_some, lastPosition?_append, hnone]
      rfl

/-- A definition of the second batch has the parent it has alone or, where it has none, one of the first. -/
theorem getElem?_parents_right (xs : List Definition) (h : i < ys.length) :
    ∃ d, ys[i]? = some d ∧
      (parents ys)[i]? = some (d.inherits.bind fun id => lastPosition? id ys) ∧
      (parents (xs ++ ys))[xs.length + i]?
        = some (((d.inherits.bind fun id => lastPosition? id ys).map (xs.length + ·)).or
            (d.inherits.bind fun id => lastPosition? id xs)) := by
  obtain ⟨d, hd⟩ : ∃ d, ys[i]? = some d := ⟨_, List.getElem?_eq_getElem h⟩
  refine ⟨d, hd, ?_, ?_⟩
  · rw [getElem?_parents, hd]
    rfl
  · rw [getElem?_parents, List.getElem?_append_right (Nat.le_add_right ..), Nat.add_sub_cancel_left, hd,
      Option.map_some]
    cases d.inherits with
    | none => rfl
    | some id => rw [Option.bind_some, lastPosition?_append]; rfl

theorem embeds_left (h : Separate xs ys) :
    Embeds (parents xs) (parents (xs ++ ys)) (fun i => i) (fun _ => False) where
  injective := fun _ _ heq => heq
  inRange := by
    intro i parent hi
    rw [length_parents]
    exact parent_lt hi
  parent := by
    intro i parent hi
    have hlt := (List.getElem?_eq_some_iff.mp hi).1
    rw [length_parents] at hlt
    rw [getElem?_parents_left h hlt]
    exact hi
  root := by
    intro i hi
    have hlt := (List.getElem?_eq_some_iff.mp hi).1
    rw [length_parents] at hlt
    rw [getElem?_parents_left h hlt]
    exact Or.inl hi
  closed := fun _ _ hfalse => hfalse.elim
  disjoint := fun _ _ hfalse => hfalse

theorem embeds_right (h : Separate xs ys) :
    Embeds (parents ys) (parents (xs ++ ys)) (xs.length + ·) (· < xs.length) where
  injective := fun _ _ heq => Nat.add_left_cancel heq
  inRange := by
    intro i parent hi
    rw [length_parents]
    exact parent_lt hi
  parent := by
    intro i parent hi
    have hlt := (List.getElem?_eq_some_iff.mp hi).1
    rw [length_parents] at hlt
    obtain ⟨d, -, halone, hjoint⟩ := getElem?_parents_right xs hlt
    rw [hjoint, Option.some.inj (halone.symm.trans hi)]
    rfl
  root := by
    intro i hi
    have hlt := (List.getElem?_eq_some_iff.mp hi).1
    rw [length_parents] at hlt
    obtain ⟨d, -, halone, hjoint⟩ := getElem?_parents_right xs hlt
    rw [hjoint, Option.some.inj (halone.symm.trans hi), Option.map_none, Option.none_or]
    cases hfirst : d.inherits.bind fun id => lastPosition? id xs with
    | none => exact Or.inl rfl
    | some k =>
        obtain ⟨id, -, hposition⟩ := Option.bind_eq_some_iff.mp hfirst
        obtain ⟨e, he, -⟩ := of_lastPosition? hposition
        exact Or.inr ⟨k, (List.getElem?_eq_some_iff.mp he).1, rfl⟩
  closed := by
    intro k parent hk hstep
    rw [getElem?_parents_left h hk] at hstep
    exact parent_lt hstep
  disjoint := by
    intro i _ hlt
    exact Nat.not_lt.mpr (Nat.le_add_right ..) hlt

/-! ## Circles -/

theorem closedLine?_left (h : Separate xs ys) (hi : i < xs.length) :
    closedLine? (parents (xs ++ ys)) i = closedLine? (parents xs) i := by
  rw [closedLine?_embed (embeds_left h) (by rw [length_parents]; exact hi)]
  simp only [List.map_id']
  exact Option.map_id'

theorem closedLine?_right (h : Separate xs ys) (hi : i < ys.length) :
    closedLine? (parents (xs ++ ys)) (xs.length + i)
      = (closedLine? (parents ys) i).map (·.map (xs.length + ·)) :=
  closedLine?_embed (embeds_right h) (by rw [length_parents]; exact hi)

/-- Excluding the members of circles from both batches is excluding them from each. -/
theorem excludeCircles_append (h : Separate xs ys) :
    excludeCircles (xs ++ ys) (parents (xs ++ ys))
      = excludeCircles xs (parents xs) ++ excludeCircles ys (parents ys) := by
  refine List.ext_getElem? fun i => ?_
  rw [getElem?_excludeCircles]
  -- a position is in the first batch, or `j` places into the second or behind it
  by_cases hi : i < xs.length
  · rw [List.getElem?_append_left hi, List.getElem?_append_left (by rw [length_excludeCircles]; exact hi),
      getElem?_excludeCircles, isCyclic, isCyclic, closedLine?_left h hi]
  · obtain ⟨j, rfl⟩ := Nat.exists_eq_add_of_le (Nat.not_lt.mp hi)
    rw [List.getElem?_append_right (Nat.le_add_right ..),
      List.getElem?_append_right (by rw [length_excludeCircles]; exact Nat.le_add_right ..),
      length_excludeCircles, Nat.add_sub_cancel_left, getElem?_excludeCircles]
    by_cases hj : j < ys.length
    · rw [isCyclic, isCyclic, closedLine?_right h hj, Option.isSome_map]
    · rw [List.getElem?_eq_none (Nat.not_lt.mp hj)]
      rfl

/-! ## Reports of circles -/

theorem circle?_left (h : Separate xs ys) (hi : i < xs.length) :
    circle? (xs ++ ys) (parents (xs ++ ys)) i = circle? xs (parents xs) i := by
  rw [circle?, circle?, closedLine?_left h hi]
  cases hline : closedLine? (parents xs) i with
  | none => rfl
  | some line =>
      rw [Option.map_some, Option.map_some]
      refine congrArg some (List.filterMap_congr fun j hj => ?_)
      have hlt : j < xs.length := by
        rw [← length_parents xs]
        exact lt_length_of_mem_closedLine (by rw [length_parents]; exact hi) hline hj
      rw [List.getElem?_append_left hlt]

theorem circle?_right (h : Separate xs ys) (hi : i < ys.length) :
    circle? (xs ++ ys) (parents (xs ++ ys)) (xs.length + i) = circle? ys (parents ys) i := by
  rw [circle?, circle?, closedLine?_right h hi, Option.map_map]
  refine congrArg (Option.map · _) (funext fun line => ?_)
  show (line.map (xs.length + ·)).filterMap _ = _
  rw [List.filterMap_map]
  refine List.filterMap_congr fun j _ => ?_
  show ((xs ++ ys)[xs.length + j]?).map _ = _
  rw [List.getElem?_append_right (Nat.le_add_right ..), Nat.add_sub_cancel_left]

theorem reportCircles_append (batch : List Definition) (table : List (Option Nat))
    (numbered more : List (Definition × Nat)) :
    (reportCircles batch table (numbered ++ more)).journal.diagnostics
      = (reportCircles batch table numbered).journal.diagnostics
        ++ (reportCircles batch table more).journal.diagnostics := by
  induction numbered with
  | nil => rfl
  | cons entry rest ih =>
      rw [List.cons_append, reportCircles, reportCircles]
      cases circle? batch table entry.2 with
      | none => exact ih
      | some circle => exact congrArg (_ :: ·) ih

/-- Circles are reported alike where the numbers stand for the same circles. -/
theorem reportCircles_congr {batch other : List Definition} {table otherTable : List (Option Nat)}
    (rename : Nat → Nat) {numbered : List (Definition × Nat)}
    (h : ∀ entry ∈ numbered, circle? batch table (rename entry.2) = circle? other otherTable entry.2) :
    reportCircles batch table (numbered.map fun entry => (entry.1, rename entry.2))
      = reportCircles other otherTable numbered := by
  induction numbered with
  | nil => rfl
  | cons entry rest ih =>
      obtain ⟨d, i⟩ := entry
      rw [List.map_cons, reportCircles, reportCircles, h (d, i) List.mem_cons_self,
        ih fun e he => h e (List.mem_cons_of_mem _ he)]

/-- The circles of both batches are reported as those of each. -/
theorem diagnostics_reportCircles_append (h : Separate xs ys) :
    (reportCircles (xs ++ ys) (parents (xs ++ ys)) (xs ++ ys).zipIdx).journal.diagnostics
      = (reportCircles xs (parents xs) xs.zipIdx).journal.diagnostics
        ++ (reportCircles ys (parents ys) ys.zipIdx).journal.diagnostics := by
  have hleft : reportCircles (xs ++ ys) (parents (xs ++ ys)) (xs.zipIdx.map fun entry => (entry.1, entry.2))
      = reportCircles xs (parents xs) xs.zipIdx :=
    reportCircles_congr (fun i => i) fun entry hentry => circle?_left h (List.snd_lt_of_mem_zipIdx hentry)
  have hright : reportCircles (xs ++ ys) (parents (xs ++ ys))
      (ys.zipIdx.map fun entry => (entry.1, xs.length + entry.2))
      = reportCircles ys (parents ys) ys.zipIdx :=
    reportCircles_congr (xs.length + ·) fun entry hentry =>
      circle?_right h (List.snd_lt_of_mem_zipIdx hentry)
  rw [List.map_id'] at hleft
  rw [← List.zipIdx_eq_map_add] at hright
  rw [List.zipIdx_append, Nat.zero_add, reportCircles_append, hleft, hright]

end Ordering

end Archetype
