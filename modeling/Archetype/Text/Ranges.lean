/-!
# Character ranges

A property of characters is written as the ascending list of the inclusive code ranges that have it.

* **`inRanges`** — whether a code lies in one of the ranges; the search stops at the first range
  that starts above the code.
-/

namespace Archetype.Text

/-- Whether `n` lies in one of the ascending, inclusive ranges. -/
def inRanges : List (Nat × Nat) → Nat → Bool
  | [], _ => false
  | (low, high) :: more, n => if n < low then false else n ≤ high || inRanges more n

/-- Membership in ascending ranges is found without a full scan, but what is found is in a range. -/
theorem exists_of_inRanges {ranges : List (Nat × Nat)} {n : Nat} (h : inRanges ranges n = true) :
    ∃ range ∈ ranges, range.1 ≤ n ∧ n ≤ range.2 := by
  induction ranges with
  | nil => cases h
  | cons head more ih =>
    obtain ⟨low, high⟩ := head
    simp only [inRanges] at h
    split at h
    · cases h
    · rename_i hlow
      rcases Bool.or_eq_true_iff.1 h with hhigh | hmore
      · exact ⟨(low, high), List.mem_cons_self, Nat.le_of_not_lt hlow, by simpa using hhigh⟩
      · obtain ⟨range, hmem, hin⟩ := ih hmore
        exact ⟨range, List.mem_cons_of_mem _ hmem, hin⟩

end Archetype.Text
