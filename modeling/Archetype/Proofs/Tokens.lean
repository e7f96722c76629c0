import Archetype.Markup.Parser

/-! # The tokens of a text

    The tokens of a text end with the end of the text, and it is the only one of them that does: a scanner
    that has something left to read reads something else (`lexeme_scan_ne_eof`).  Blanks inside tags,
    comments and declarations are left out, and what remains is told token by token (`significant_of_ne`),
    from the place of a scanner on. -/

namespace Archetype.Markup

/-! ## The end -/

theorem Section.lexeme_ne_eof {kind : Section} (h : kind ∈ Section.kinds) (body : List Char) :
    kind.lexeme body ≠ .eof := by
  simp only [Section.kinds, List.mem_cons, List.not_mem_nil, or_false] at h
  rcases h with rfl | rfl | rfl | rfl <;> simp

theorem lexeme_scanContent_ne_eof {cs : List Char} (h : cs ≠ []) : (scanContent cs).lexeme ≠ .eof := by
  unfold scanContent
  split
  · rename_i kind rest hat
    rw [Section.read.eq_def]
    split
    · exact Section.lexeme_ne_eof (Section.at?_eq_some hat).1 _
    · simp
  · split
    · exact absurd rfl h
    · simp
    · simp
    · simp

theorem lexeme_scanTag_ne_eof {cs : List Char} (h : cs ≠ []) : (scanTag cs).lexeme ≠ .eof := by
  cases cs with
  | nil => exact absurd rfl h
  | cons c cs =>
      simp only [scanTag, scanValue]
      repeat' split
      all_goals simp

/-- As long as the text has not ended, a reading is not its end. -/
theorem lexeme_scan_ne_eof (mode : Mode) {cs : List Char} (h : cs ≠ []) :
    (scan mode cs).lexeme ≠ .eof := by
  cases mode with
  | content => exact lexeme_scanContent_ne_eof h
  | tag => exact lexeme_scanTag_ne_eof h

theorem lexeme_scan_nil (mode : Mode) : (scan mode []).lexeme = .eof := by
  cases mode <;> rfl

namespace Scanner

variable {s : Scanner}

/-- What is left begins with what is read of it. -/
theorem rest_eq (s : Scanner) : s.rest = s.reading.slice ++ s.advance.rest :=
  (scan_slice_append_rest s.mode s.rest).symm

theorem drain_of_nil (h : s.rest = []) : s.drain.1 = [s.token] := by
  rw [drain, dif_pos h]

theorem drain_of_ne (h : s.rest ≠ []) : s.drain.1 = s.token :: s.advance.drain.1 := by
  rw [drain, dif_neg h]

/-! ## The tokens that matter -/

/-- The tokens from the scanner's place on, without the filler. -/
def significant (s : Scanner) : List Token :=
  s.drain.1.filter fun t => !t.lexeme.isFiller

theorem lexeme_token_of_nil (h : s.rest = []) : s.token.lexeme = .eof := by
  show (scan s.mode s.rest).lexeme = .eof
  rw [h]
  exact lexeme_scan_nil s.mode

theorem significant_of_nil (h : s.rest = []) : s.significant = [s.token] := by
  rw [significant, drain_of_nil h, List.filter_cons_of_pos (by rw [lexeme_token_of_nil h]; rfl),
    List.filter_nil]

theorem significant_of_ne (h : s.rest ≠ []) (hfiller : s.token.lexeme.isFiller = false) :
    s.significant = s.token :: s.advance.significant := by
  rw [significant, drain_of_ne h, List.filter_cons_of_pos (by rw [hfiller]; rfl), significant]

theorem significant_of_filler (h : s.rest ≠ []) (hfiller : s.token.lexeme.isFiller = true) :
    s.significant = s.advance.significant := by
  rw [significant, drain_of_ne h,
    List.filter_cons_of_neg (by rw [hfiller]; exact Bool.false_ne_true), significant]

/-- The last token that matters is the end of the text, and no other is. -/
theorem significant_eq_append_eof (s : Scanner) :
    ∃ ts last, s.significant = ts ++ [last] ∧ last.lexeme = .eof ∧ ∀ t ∈ ts, t.lexeme ≠ .eof := by
  by_cases h : s.rest = []
  · exact ⟨[], s.token, significant_of_nil h, lexeme_token_of_nil h, fun t ht => nomatch ht⟩
  · have hless : s.advance.rest.length < s.rest.length := length_rest_scan_lt s.mode h
    obtain ⟨ts, last, hts, hlast, hne⟩ := significant_eq_append_eof s.advance
    cases hfiller : s.token.lexeme.isFiller with
    | true => exact ⟨ts, last, (significant_of_filler h hfiller).trans hts, hlast, hne⟩
    | false =>
        refine ⟨s.token :: ts, last, ?_, hlast, ?_⟩
        · rw [significant_of_ne h hfiller, hts]
          rfl
        · intro t ht
          rcases List.mem_cons.mp ht with rfl | hmem
          · exact lexeme_scan_ne_eof s.mode h
          · exact hne t hmem
termination_by s.rest.length

end Scanner

theorem Parser.significant_eq (text : String) :
    Parser.significant text = (Scanner.ofText text).significant := rfl

end Archetype.Markup
