import Archetype.Proofs.CharacterData
import Archetype.Proofs.Tokens
import Mathlib.Data.List.TakeWhile

/-! # Reading lexemes that are followed by others

    A scanner finds the end of a lexeme by what comes after it.  So for each lexeme there is one fact here: in
    front of a text that does not go on with it, it is what is read, and all of it (`scan_name`,
    `scan_text` and so on).  `Scans` puts readings one after the other: the tokens that matter from one
    place of a text to another.

    That blanks and names cannot be taken for each other is a fact about the ranges of their characters, which
    do not meet. -/

namespace Archetype.Text

/-! ## Characters -/

/-- Whether no range of the one list meets a range of the other. -/
def apart (left right : List (Nat × Nat)) : Bool :=
  left.all fun l => right.all fun r => l.2 < r.1 || r.2 < l.1

theorem inRanges_eq_false {left right : List (Nat × Nat)} (h : apart left right = true) {n : Nat}
    (hn : inRanges left n = true) : inRanges right n = false := by
  cases hright : inRanges right n with
  | false => rfl
  | true =>
      obtain ⟨l, hl, hlow, hhigh⟩ := exists_of_inRanges hn
      obtain ⟨r, hr, hlow', hhigh'⟩ := exists_of_inRanges hright
      have happart := List.all_eq_true.mp (List.all_eq_true.mp h l hl) r hr
      simp only [Bool.or_eq_true, decide_eq_true_eq] at happart
      omega

/-- No blank is a letter or a number. -/
theorem isLetterOrNumber_of_isBlank {c : Char} (h : isBlank c = true) : isLetterOrNumber c = false := by
  have hletters : apart blankRanges letterRanges = true := by decide +kernel
  have hnumbers : apart blankRanges numberRanges = true := by decide +kernel
  rw [isLetterOrNumber, isLetter, isNumber, inRanges_eq_false hletters h, inRanges_eq_false hnumbers h]
  rfl

end Archetype.Text

namespace Archetype.Markup

open Text

section Characters

variable {c : Char}

theorem isNameChar_of_isBlank (h : isBlank c = true) : isNameChar c = false := by
  have hne : c ∉ ['_', ':', '-', '.'] := by
    intro hmark
    have hmarks : (['_', ':', '-', '.'].all fun mark => !isBlank mark) = true := by decide
    rw [List.all_eq_true] at hmarks
    simpa [h] using hmarks c hmark
  simp only [List.mem_cons, List.not_mem_nil, or_false, not_or] at hne
  simp [isNameChar, isLetterOrNumber_of_isBlank h, hne]

/-- What starts a name may stand in it. -/
theorem isNameChar_of_isNameStart (h : isNameStart c = true) : isNameChar c = true := by
  simp only [isNameStart, Bool.or_eq_true] at h
  rcases h with (h | h) | h
  · simp [isNameChar, isLetterOrNumber_of_isLetter h]
  · simp [isNameChar, h]
  · simp [isNameChar, h]

theorem isBlank_of_isNameStart (h : isNameStart c = true) : isBlank c = false := by
  cases hblank : isBlank c with
  | false => rfl
  | true =>
      exact absurd ((isNameChar_of_isNameStart h).symm.trans (isNameChar_of_isBlank hblank)) (by simp)

/-- The marks that a tag is made of, and those that begin what is no tag. -/
def marks : List Char :=
  ['>', '/', '=', '"', '\'', '!', '?', '<']

theorem not_mem_marks_of_isNameStart (h : isNameStart c = true) : c ∉ marks := by
  intro hmark
  have hmarks : (marks.all fun mark => !isNameStart mark) = true := by decide +kernel
  rw [List.all_eq_true] at hmarks
  simpa [h] using hmarks c hmark

theorem not_mem_marks_of_isBlank (h : isBlank c = true) : c ∉ marks := by
  intro hmark
  have hmarks : (marks.all fun mark => !isBlank mark) = true := by decide
  rw [List.all_eq_true] at hmarks
  simpa [h] using hmarks c hmark

end Characters

/-- What is written of a name: a character that starts one, and characters that it goes on with. -/
def IsName : List Char → Prop
  | [] => False
  | c :: rest => isNameStart c = true ∧ rest.all isNameChar = true

instance : DecidablePred IsName
  | [] => inferInstanceAs (Decidable False)
  | c :: rest => inferInstanceAs (Decidable (isNameStart c = true ∧ rest.all isNameChar = true))

theorem IsName.exists_cons {cs : List Char} (h : IsName cs) :
    ∃ c rest, cs = c :: rest ∧ isNameStart c = true ∧ ∀ d ∈ rest, isNameChar d = true := by
  match cs, h with
  | c :: rest, ⟨hstart, hrest⟩ => exact ⟨c, rest, rfl, hstart, List.all_eq_true.mp hrest⟩

/-- What is written between the parts of a tag. -/
def IsBlanks (cs : List Char) : Prop :=
  cs ≠ [] ∧ cs.all isBlank = true

instance : DecidablePred IsBlanks :=
  fun cs => inferInstanceAs (Decidable (cs ≠ [] ∧ cs.all isBlank = true))

/-- A text that does not begin with a character of a kind. -/
def StopsAt (p : Char → Bool) (rest : List Char) : Prop :=
  ∀ d ∈ rest.head?, p d = false

@[simp] theorem stopsAt_cons {p : Char → Bool} {d : Char} {rest : List Char} :
    StopsAt p (d :: rest) ↔ p d = false := by
  simp [StopsAt]

section Readings

variable {cs rest : List Char}

theorem span_append {p : Char → Bool} (h : ∀ c ∈ cs, p c = true) (hrest : StopsAt p rest) :
    (cs ++ rest).takeWhile p = cs ∧ (cs ++ rest).dropWhile p = rest := by
  have hstop : rest.takeWhile p = [] ∧ rest.dropWhile p = rest := by
    cases rest with
    | nil => exact ⟨rfl, rfl⟩
    | cons d rest =>
        have hd : p d = false := hrest d rfl
        exact ⟨List.takeWhile_cons_of_neg (by simp [hd]), List.dropWhile_cons_of_neg (by simp [hd])⟩
  rw [List.takeWhile_append_of_pos h, List.dropWhile_append_of_pos h, hstop.1, hstop.2, List.append_nil]
  exact ⟨rfl, rfl⟩

/-! ## Tags -/

theorem scan_equals : scan .tag ('=' :: rest) = ⟨.equals, ['='], rest, .tag⟩ := rfl

theorem scan_tagClose : scan .tag ('>' :: rest) = ⟨.tagClose, ['>'], rest, .content⟩ := rfl

theorem scan_emptyTagClose :
    scan .tag ('/' :: '>' :: rest) = ⟨.emptyTagClose, ['/', '>'], rest, .content⟩ := rfl

theorem scan_name (h : IsName cs) (hrest : StopsAt isNameChar rest) :
    scan .tag (cs ++ rest) = ⟨.name (String.ofList cs), cs, rest, .tag⟩ := by
  obtain ⟨c, more, rfl, hstart, hmore⟩ := h.exists_cons
  have hmarks := not_mem_marks_of_isNameStart hstart
  simp only [marks, List.mem_cons, List.not_mem_nil, or_false, not_or] at hmarks
  obtain ⟨htake, hdrop⟩ := span_append hmore hrest
  simp [scan, scanTag, hmarks, isBlank_of_isNameStart hstart, hstart, htake, hdrop]

theorem scan_blanks (h : IsBlanks cs) (hrest : StopsAt isBlank rest) :
    scan .tag (cs ++ rest) = ⟨.whitespace, cs, rest, .tag⟩ := by
  obtain ⟨hne, hblank⟩ := h
  cases cs with
  | nil => exact absurd rfl hne
  | cons c more =>
      obtain ⟨hc, hmore⟩ := List.forall_mem_cons.mp (List.all_eq_true.mp hblank)
      have hmarks := not_mem_marks_of_isBlank hc
      simp only [marks, List.mem_cons, List.not_mem_nil, or_false, not_or] at hmarks
      obtain ⟨htake, hdrop⟩ := span_append hmore hrest
      simp [scan, scanTag, hmarks, hc, htake, hdrop]

theorem scan_quoted {quote : Char} (hquote : quote = '"' ∨ quote = '\'')
    (h : ∀ c ∈ cs, (c != quote && c != '<') = true) :
    scan .tag (quote :: (cs ++ quote :: rest))
      = ⟨.attrValue (String.ofList (CharRef.decode cs)), quote :: (cs ++ [quote]), rest, .tag⟩ := by
  have hquoted : StopsAt (fun c => c != quote && c != '<') (quote :: rest) := stopsAt_cons.mpr (by simp)
  obtain ⟨htake, hdrop⟩ := span_append h hquoted
  have hvalue : scanValue quote (cs ++ quote :: rest)
      = ⟨.attrValue (String.ofList (CharRef.decode cs)), quote :: (cs ++ [quote]), rest, .tag⟩ := by
    simp [scanValue, htake, hdrop]
  rcases hquote with rfl | rfl
  · rw [← hvalue]
    rfl
  · rw [← hvalue]
    rfl

theorem scan_value {quote : Char} {value : List Char} (hquote : quote = '"' ∨ quote = '\'')
    (h : DataWritten (some quote) value cs) :
    scan .tag (quote :: (cs ++ quote :: rest))
      = ⟨.attrValue (String.ofList value), quote :: (cs ++ [quote]), rest, .tag⟩ := by
  rw [scan_quoted hquote, CharRef.decode_written h]
  intro c hc
  have hend := h.safe (Or.inr ⟨rfl, hquote⟩) c hc
  have hopen := h.safe (Or.inl rfl) c hc
  simp [hend, hopen]

/-! ## Content -/

/-- Sections begin with a `<` and an exclamation or question mark. -/
theorem Section.at?_of_ne {c : Char} (h : c ≠ '<') : Section.at? (c :: rest) = none := by
  simp [Section.at?, Section.kinds, dropMark, h.symm]

theorem Section.at?_tag {c : Char} (hexclamation : c ≠ '!') (hquestion : c ≠ '?') :
    Section.at? ('<' :: c :: rest) = none := by
  simp [Section.at?, Section.kinds, dropMark, hexclamation.symm, hquestion.symm]

theorem scan_tagOpen {c : Char} (hslash : c ≠ '/') (hexclamation : c ≠ '!') (hquestion : c ≠ '?') :
    scan .content ('<' :: c :: rest) = ⟨.tagOpen, ['<'], c :: rest, .tag⟩ := by
  rw [scan, scanContent, Section.at?_tag hexclamation hquestion]
  intro more heq
  injection heq with hhead
  exact hslash hhead

theorem scan_closeTagOpen :
    scan .content ('<' :: '/' :: rest) = ⟨.closeTagOpen, ['<', '/'], rest, .tag⟩ := by
  rw [scan, scanContent, Section.at?_tag (by decide) (by decide)]

theorem scan_data (hne : cs ≠ []) (h : ∀ c ∈ cs, (c != '<') = true) (hrest : StopsAt (· != '<') rest) :
    scan .content (cs ++ rest) = ⟨.text (String.ofList (CharRef.decode cs)), cs, rest, .content⟩ := by
  obtain ⟨htake, hdrop⟩ := span_append h hrest
  cases cs with
  | nil => exact absurd rfl hne
  | cons c more =>
      have hc : c ≠ '<' := by simpa using h c List.mem_cons_self
      rw [List.cons_append] at htake hdrop ⊢
      rw [scan, scanContent, Section.at?_of_ne hc]
      · simp only [htake, hdrop]
      · simp
      · simp [hc]
      · simp [hc]

theorem scan_text {value : List Char} (h : DataWritten none value cs) (hne : value ≠ [])
    (hrest : StopsAt (· != '<') rest) :
    scan .content (cs ++ rest) = ⟨.text (String.ofList value), cs, rest, .content⟩ := by
  rw [scan_data (h.ne_nil hne) _ hrest, CharRef.decode_written h]
  intro c hc
  simp [h.safe (Or.inl rfl) c hc]

theorem scan_section {kind : Section} {body : List Char} (hat : Section.at? cs = some (kind, rest))
    {after : List Char} (hsplit : splitAtMark kind.closing rest = some (body, after)) :
    scan .content cs
      = ⟨kind.lexeme body, kind.opening ++ body ++ kind.closing, after, .content⟩ := by
  rw [scan, scanContent.eq_def, hat]
  simp only [Section.read, hsplit]

/-- The first closing mark of a section is its own, if there is none inside. -/
theorem splitAtMark_cdata (h : ¬"]]>".toList <:+: cs) :
    splitAtMark "]]>".toList (cs ++ ("]]>".toList ++ rest)) = some (cs, rest) := by
  induction cs with
  | nil => rfl
  | cons c more ih =>
      have hmore : ¬"]]>".toList <:+: more := by
        intro hwithin
        exact h (hwithin.trans (List.suffix_cons c more).isInfix)
      have hnone : dropMark "]]>".toList (c :: (more ++ ("]]>".toList ++ rest))) = none := by
        rw [Option.eq_none_iff_forall_ne_some]
        intro found hfound
        have heq : c :: (more ++ ']' :: ']' :: '>' :: rest) = ']' :: ']' :: '>' :: found :=
          dropMark_eq_some_iff.mp hfound
        rcases more with - | ⟨d, - | ⟨e, more⟩⟩
        · simp at heq
        · simp at heq
        · simp only [List.cons_append, List.cons.injEq] at heq
          obtain ⟨rfl, rfl, rfl, -⟩ := heq
          exact h ⟨[], more, rfl⟩
      rw [List.cons_append, splitAtMark, hnone]
      simp only [ih hmore, Option.map_some]

theorem scan_cdata (h : ¬"]]>".toList <:+: cs) :
    scan .content ("<![CDATA[".toList ++ (cs ++ ("]]>".toList ++ rest)))
      = ⟨.cdata (String.ofList cs), "<![CDATA[".toList ++ cs ++ "]]>".toList, rest, .content⟩ := by
  have hat : Section.at? ("<![CDATA[".toList ++ (cs ++ ("]]>".toList ++ rest)))
      = some (⟨"<![CDATA[".toList, "]]>".toList, fun body => .cdata (String.ofList body)⟩,
          cs ++ ("]]>".toList ++ rest)) := by
    simp [Section.at?, Section.kinds, dropMark]
  exact scan_section hat (splitAtMark_cdata h)

end Readings

/-! ## Readings one after the other -/

/-- The tokens that matter from one place of a text to another. -/
inductive Scans : Scanner → List Token → Scanner → Prop
  | refl (s : Scanner) : Scans s [] s
  | token {s last : Scanner} {ts : List Token} (hne : s.rest ≠ [])
      (hfiller : s.token.lexeme.isFiller = false) (hrest : Scans s.advance ts last) :
      Scans s (s.token :: ts) last
  | filler {s last : Scanner} {ts : List Token} (hne : s.rest ≠ [])
      (hfiller : s.token.lexeme.isFiller = true) (hrest : Scans s.advance ts last) : Scans s ts last

namespace Scans

variable {s middle last : Scanner} {ts us : List Token}

theorem trans (h : Scans s ts middle) (k : Scans middle us last) : Scans s (ts ++ us) last := by
  induction h with
  | refl => exact k
  | token hne hfiller _ ih => exact .token hne hfiller (ih k)
  | filler hne hfiller _ ih => exact .filler hne hfiller (ih k)

theorem significant_eq (h : Scans s ts last) : s.significant = ts ++ last.significant := by
  induction h with
  | refl => rfl
  | token hne hfiller _ ih => rw [Scanner.significant_of_ne hne hfiller, ih, List.cons_append]
  | filler hne hfiller _ ih => rw [Scanner.significant_of_filler hne hfiller, ih]

variable {mode after : Mode} {cs rest slice : List Char} {lexeme : Lexeme}

/-- One reading that gives a token. -/
theorem single (h : scan mode cs = ⟨lexeme, slice, rest, after⟩) (hne : cs ≠ [])
    (hfiller : lexeme.isFiller = false) (position : Nat) :
    ∃ stop, Scans ⟨cs, position, mode⟩ [⟨lexeme, position, stop⟩] ⟨rest, stop, after⟩ := by
  have htoken : Scanner.token ⟨cs, position, mode⟩
      = ⟨lexeme, position, position + byteLength slice⟩ := by
    simp only [Scanner.token, Scanner.reading, h]
  have hadvance : Scanner.advance ⟨cs, position, mode⟩
      = ⟨rest, position + byteLength slice, after⟩ := by
    simp only [Scanner.advance, Scanner.reading, h]
  refine ⟨position + byteLength slice, ?_⟩
  rw [← htoken, ← hadvance]
  exact .token hne (by rw [htoken]; exact hfiller) (.refl _)

/-- One reading that gives none. -/
theorem skip (h : scan mode cs = ⟨lexeme, slice, rest, after⟩) (hne : cs ≠ [])
    (hfiller : lexeme.isFiller = true) (position : Nat) :
    ∃ stop, Scans ⟨cs, position, mode⟩ [] ⟨rest, stop, after⟩ := by
  have hlexeme : (Scanner.token ⟨cs, position, mode⟩).lexeme = lexeme := by
    simp only [Scanner.token, Scanner.reading, h]
  have hadvance : Scanner.advance ⟨cs, position, mode⟩
      = ⟨rest, position + byteLength slice, after⟩ := by
    simp only [Scanner.advance, Scanner.reading, h]
  refine ⟨position + byteLength slice, ?_⟩
  rw [← hadvance]
  exact .filler hne (by rw [hlexeme]; exact hfiller) (.refl _)

end Scans

end Archetype.Markup
