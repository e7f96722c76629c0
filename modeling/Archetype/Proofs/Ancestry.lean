import Archetype.Ancestry

/-! # Climbing, step by step

    `climbFrom` is defined by well-founded recursion, so nothing may unfold it.  Four equations, one for
    each way a climb goes on, take the place of its definition.  From them:

    * every number of a line is in the table, and a line from within the table starts where it was asked to;
    * a set of numbers that parents do not leave is not left by the number a line comes back to;
    * a table that sits inside a larger one has the same circles there (`closedLine?_embed`), even where the
      larger table lets its roots climb on, as long as what they climb into never comes back. -/

namespace Archetype.Ancestry

variable {parents : List (Option Nat)} {seen : List Nat} {i : Nat}

/-! ## One step -/

theorem climbFrom_seen (h : seen.contains i = true) : climbFrom parents seen i = ⟨[], some i⟩ := by
  rw [climbFrom, dif_pos h]

theorem climbFrom_outside (hnew : seen.contains i = false) (h : parents[i]? = none) :
    climbFrom parents seen i = ⟨[], none⟩ := by
  rw [climbFrom, dif_neg (by rw [hnew]; exact Bool.false_ne_true)]
  split <;> simp_all

theorem climbFrom_root (hnew : seen.contains i = false) (h : parents[i]? = some none) :
    climbFrom parents seen i = ⟨[i], none⟩ := by
  rw [climbFrom, dif_neg (by rw [hnew]; exact Bool.false_ne_true)]
  split <;> simp_all

theorem climbFrom_parent {parent : Nat} (hnew : seen.contains i = false)
    (h : parents[i]? = some (some parent)) :
    climbFrom parents seen i
      = ⟨i :: (climbFrom parents (i :: seen) parent).line,
          (climbFrom parents (i :: seen) parent).repeated⟩ := by
  rw [climbFrom, dif_neg (by rw [hnew]; exact Bool.false_ne_true)]
  split <;> simp_all

theorem closedLine?_eq (parents : List (Option Nat)) (i : Nat) :
    closedLine? parents i
      = if (climb parents i).repeated = some i then some ((climb parents i).line ++ [i]) else none := rfl

/-! ## Lines stay in the table -/

/-- Every number of a line is in the table. -/
theorem lt_length_of_mem_line {j : Nat} (h : j ∈ (climbFrom parents seen i).line) :
    j < parents.length := by
  fun_induction climbFrom parents seen i with
  | case1 seen i hnew => exact nomatch h
  | case2 seen i hnew hi => exact nomatch h
  | case3 seen i hnew hi =>
      rw [List.mem_singleton.mp h]
      exact (List.getElem?_eq_some_iff.mp hi).1
  | case4 seen i hnew parent hi _ above ih =>
      rcases List.mem_cons.mp h with rfl | hmem
      · exact (List.getElem?_eq_some_iff.mp hi).1
      · exact ih hmem

/-- A line from within the table starts where it is climbed from. -/
theorem mem_line_climb (h : i < parents.length) : i ∈ (climb parents i).line := by
  have hnew : ([] : List Nat).contains i = false := rfl
  obtain ⟨entry, hentry⟩ : ∃ entry, parents[i]? = some entry :=
    ⟨parents[i], List.getElem?_eq_getElem h⟩
  cases entry with
  | none =>
      rw [climb, climbFrom_root hnew hentry]
      exact List.mem_singleton_self i
  | some parent =>
      rw [climb, climbFrom_parent hnew hentry]
      exact List.mem_cons_self ..

/-- So is every number of a closed line. -/
theorem lt_length_of_mem_closedLine {line : List Nat} (hi : i < parents.length)
    (h : closedLine? parents i = some line) {j : Nat} (hj : j ∈ line) : j < parents.length := by
  rw [closedLine?_eq] at h
  split at h
  · rw [← Option.some.inj h] at hj
    rcases List.mem_append.mp hj with hmem | hlast
    · exact lt_length_of_mem_line hmem
    · rw [List.mem_singleton.mp hlast]
      exact hi
  · exact nomatch h

/-- Where parents do not leave a set, neither does the number that a line comes back to. -/
theorem repeated_mem_of_closed {inside : Nat → Prop}
    (hclosed : ∀ j parent : Nat, inside j → parents[j]? = some (some parent) → inside parent)
    (hi : inside i) {j : Nat} (h : (climbFrom parents seen i).repeated = some j) : inside j := by
  fun_induction climbFrom parents seen i with
  | case1 seen i hnew =>
      rw [← Option.some.inj h]
      exact hi
  | case2 seen i hnew hentry => exact nomatch h
  | case3 seen i hnew hentry => exact nomatch h
  | case4 seen i hnew parent hentry _ above ih => exact ih (hclosed i parent hi hentry) h

/-! ## A table inside a larger one -/

/-- How a table sits inside a larger one: its numbers are renamed, each parent is kept, and a root is a root
    of the larger table or climbs on into a set that is never left and holds no renamed number. -/
structure Embeds (small big : List (Option Nat)) (rename : Nat → Nat) (outside : Nat → Prop) : Prop where
  injective : ∀ i j, rename i = rename j → i = j
  inRange : ∀ i parent : Nat, small[i]? = some (some parent) → parent < small.length
  parent : ∀ i parent : Nat, small[i]? = some (some parent) →
    big[rename i]? = some (some (rename parent))
  root : ∀ i : Nat, small[i]? = some none →
    big[rename i]? = some none ∨ ∃ k, outside k ∧ big[rename i]? = some (some k)
  closed : ∀ k parent : Nat, outside k → big[k]? = some (some parent) → outside parent
  disjoint : ∀ i, i < small.length → ¬ outside (rename i)

section Embedding

variable {small big : List (Option Nat)} {rename : Nat → Nat} {outside : Nat → Prop}

private theorem contains_map_rename (h : Embeds small big rename outside) (seen : List Nat) (i : Nat) :
    (seen.map rename).contains (rename i) = seen.contains i := by
  rw [Bool.eq_iff_iff, List.contains_iff_mem, List.contains_iff_mem, List.mem_map]
  constructor
  · rintro ⟨j, hj, heq⟩
    rw [← h.injective j i heq]
    exact hj
  · intro hi
    exact ⟨i, hi, rfl⟩

/-- A climb that runs in a circle is the same climb in the larger table.  One that ends may climb on there,
    but then never comes back to a renamed number. -/
private theorem climbFrom_embed (h : Embeds small big rename outside) (seen : List Nat) {i : Nat}
    (hi : i < small.length) :
    (∀ j, (climbFrom small seen i).repeated = some j →
        climbFrom big (seen.map rename) (rename i)
          = ⟨(climbFrom small seen i).line.map rename, some (rename j)⟩) ∧
      ((climbFrom small seen i).repeated = none →
        ∀ k, (climbFrom big (seen.map rename) (rename i)).repeated = some k → outside k) := by
  fun_induction climbFrom small seen i with
  | case1 seen i hseen =>
      refine ⟨?_, fun hnone => (nomatch hnone)⟩
      intro j hj
      rw [← Option.some.inj hj]
      exact climbFrom_seen ((contains_map_rename h seen i).trans hseen)
  | case2 seen i hseen hentry =>
      exact absurd hi (Nat.not_lt.mpr (List.getElem?_eq_none_iff.mp hentry))
  | case3 seen i hseen hentry =>
      have hnew : (seen.map rename).contains (rename i) = false := by
        rw [contains_map_rename h seen i]
        exact Bool.eq_false_iff.mpr hseen
      refine ⟨fun j hj => (nomatch hj), ?_⟩
      intro _ k hk
      -- a root of the small table may climb on in the large one, but only outside
      rcases h.root i hentry with hroot | ⟨m, hm, hstep⟩
      · rw [climbFrom_root hnew hroot] at hk
        exact nomatch hk
      · rw [climbFrom_parent hnew hstep] at hk
        exact repeated_mem_of_closed h.closed hm hk
  | case4 seen i hseen parent hentry _ above ih =>
      have hnew : (seen.map rename).contains (rename i) = false := by
        rw [contains_map_rename h seen i]
        exact Bool.eq_false_iff.mpr hseen
      obtain ⟨hcircle, hend⟩ := ih (h.inRange i parent hentry)
      rw [climbFrom_parent hnew (h.parent i parent hentry)]
      constructor
      · intro j hj
        have hrest := hcircle j hj
        rw [List.map_cons] at hrest
        rw [hrest]
        rfl
      · exact hend

/-- **EMBEDDING**: a number lies on the same circle in both tables. -/
theorem closedLine?_embed (h : Embeds small big rename outside) {i : Nat} (hi : i < small.length) :
    closedLine? big (rename i) = (closedLine? small i).map (·.map rename) := by
  obtain ⟨hcircle, hend⟩ := climbFrom_embed h [] hi
  rw [closedLine?_eq, closedLine?_eq]
  cases hrep : (climb small i).repeated with
  | none =>
      have hne : (climb big (rename i)).repeated ≠ some (rename i) := fun hback =>
        h.disjoint i hi (hend hrep (rename i) hback)
      rw [if_neg hne, if_neg (Option.some_ne_none i).symm]
      rfl
  | some j =>
      have hbig : climb big (rename i) = ⟨(climb small i).line.map rename, some (rename j)⟩ :=
        hcircle j hrep
      rw [hbig]
      by_cases hji : j = i
      · subst hji
        rw [if_pos rfl, if_pos rfl, Option.map_some, List.map_append]
        rfl
      · have hne : rename j ≠ rename i := fun heq => hji (h.injective j i heq)
        rw [if_neg (fun heq => hne (Option.some.inj heq)), if_neg (fun heq => hji (Option.some.inj heq))]
        rfl

end Embedding

end Archetype.Ancestry
