import Archetype.Ordering
import Archetype.Proofs.Ancestry
import Mathlib.Data.List.Basic
import Mathlib.Data.List.Perm.Basic

/-! # Which positions an order keeps

    `sequence` lists every position of a batch once, so the positions `order` keeps are, up to their
    order, those that lie on no circle (`kept_perm`).  Everything later passes do with an order is the
    same for all permutations of it, so this is all they have to know. -/

namespace Archetype

/-- Erasing duplicates leaves none: what is erased after a head are the further copies of it. -/
theorem nodup_eraseDups (xs : List Nat) : xs.eraseDups.Nodup := by
  induction hn : xs.length using Nat.strongRecOn generalizing xs with
  | ind n ih =>
      cases xs with
      | nil => exact List.nodup_nil
      | cons x rest =>
          -- what is erased after a head makes the rest shorter, never longer
          have hshort : (rest.filter fun y => !y == x).length < n := by
            have := List.length_filter_le (fun y => !y == x) rest
            rw [List.length_cons] at hn
            omega
          rw [List.eraseDups_cons]
          refine List.nodup_cons.mpr ⟨fun hmem => ?_, ih _ hshort _ rfl⟩
          have := (List.mem_filter.mp (List.mem_eraseDups.mp hmem)).2
          simp at this

namespace Ordering

open Ancestry

variable {table : List (Option Nat)} {batch : List Definition} {i : Nat}

@[simp] theorem length_parents (batch : List Definition) :
    (parents batch).length = batch.length := List.length_map ..

/-- The sequence of a table holds exactly the positions of the table. -/
theorem mem_sequence : i ∈ sequence table ↔ i < table.length := by
  rw [sequence, List.mem_eraseDups, List.mem_flatMap]
  constructor
  · rintro ⟨j, -, hi⟩
    exact lt_length_of_mem_line (List.mem_reverse.mp hi)
  · intro hi
    exact ⟨i, List.mem_range.mpr hi, List.mem_reverse.mpr (mem_line_climb hi)⟩

theorem nodup_sequence (table : List (Option Nat)) : (sequence table).Nodup := nodup_eraseDups _

/-- The positions that an order keeps. -/
def kept (batch : List Definition) : List Nat :=
  (sequence (parents batch)).filter fun i => !isCyclic (parents batch) i

theorem nodup_kept (batch : List Definition) : (kept batch).Nodup :=
  (nodup_sequence _).filter _

theorem mem_kept : i ∈ kept batch ↔ i < batch.length ∧ isCyclic (parents batch) i = false := by
  rw [kept, List.mem_filter, mem_sequence, length_parents, Bool.not_eq_true']

/-- **KEPT POSITIONS**: an order keeps each position that lies on no circle, once. -/
theorem kept_perm (batch : List Definition) :
    (kept batch).Perm ((List.range batch.length).filter fun i => !isCyclic (parents batch) i) := by
  refine (List.perm_ext_iff_of_nodup (nodup_kept batch) (List.nodup_range.filter _)).mpr fun i => ?_
  rw [mem_kept, List.mem_filter, List.mem_range, Bool.not_eq_true']

/-! ## What is excluded -/

@[simp] theorem length_excludeCircles (batch : List Definition) (table : List (Option Nat)) :
    (excludeCircles batch table).length = batch.length := by
  rw [excludeCircles, List.length_map, List.length_zipIdx]

/-- A definition, after the members of circles are excluded. -/
def excludedIf (cyclic : Bool) (d : Definition) : Definition :=
  if cyclic then { d with state := .excluded } else d

theorem getElem?_excludeCircles (batch : List Definition) (table : List (Option Nat)) (i : Nat) :
    (excludeCircles batch table)[i]? = (batch[i]?).map (excludedIf (isCyclic table i)) := by
  rw [excludeCircles, List.getElem?_map, List.getElem?_zipIdx, Option.map_map, Nat.zero_add]
  rfl

/-- Excluding changes the state of a definition and nothing else. -/
theorem mem_excludeCircles {d : Definition} (h : d ∈ excludeCircles batch table) :
    ∃ e ∈ batch, d = e ∨ d = { e with state := .excluded } := by
  obtain ⟨i, hi⟩ := List.mem_iff_getElem?.mp h
  rw [getElem?_excludeCircles] at hi
  obtain ⟨e, he, rfl⟩ := Option.map_eq_some_iff.mp hi
  refine ⟨e, List.mem_of_getElem? he, ?_⟩
  cases hc : isCyclic table i with
  | true => exact Or.inr (if_pos rfl)
  | false => exact Or.inl (if_neg Bool.false_ne_true)

end Ordering

end Archetype
