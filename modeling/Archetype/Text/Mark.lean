/-!
# Marks

Finding a fixed mark at the front of a text, or at its first occurrence in it.

* **`dropMark`** — the text after a mark it begins with.
* **`splitAtMark`** — the text before the first occurrence of a mark, and the text after it.
-/

namespace Archetype.Text

/-- The text after the mark, when the text begins with it. -/
def dropMark : (mark cs : List Char) → Option (List Char)
  | [], cs => some cs
  | m :: mark, c :: cs => if m = c then dropMark mark cs else none
  | _ :: _, [] => none

/-- The text before the first occurrence of the mark, and the text after that occurrence. -/
def splitAtMark (mark : List Char) : List Char → Option (List Char × List Char)
  | [] => none
  | c :: cs =>
    match dropMark mark (c :: cs) with
    | some rest => some ([], rest)
    | none => (splitAtMark mark cs).map fun (body, rest) => (c :: body, rest)

/-- Exactly the texts that begin with the mark have something after it. -/
theorem dropMark_eq_some_iff {mark cs rest : List Char} :
    dropMark mark cs = some rest ↔ cs = mark ++ rest := by
  fun_induction dropMark mark cs with
  | case1 cs => simp
  | case2 mark c cs ih => simpa using ih
  | case3 m mark c cs hne => simpa using fun h => absurd h.symm hne
  | case4 m mark => simp

/-- A split cuts out one occurrence of the mark. -/
theorem eq_of_splitAtMark {mark cs body rest : List Char}
    (h : splitAtMark mark cs = some (body, rest)) : cs = body ++ mark ++ rest := by
  induction cs generalizing body with
  | nil => cases h
  | cons c cs ih =>
    rw [splitAtMark] at h
    split at h
    · rename_i found heq
      cases h
      simpa using dropMark_eq_some_iff.1 heq
    · obtain ⟨⟨body', rest'⟩, hsplit, heq⟩ := Option.map_eq_some_iff.1 h
      cases heq
      simp [ih hsplit]

end Archetype.Text
