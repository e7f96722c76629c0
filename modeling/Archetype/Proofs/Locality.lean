import Archetype.Proofs.Scanning

/-! # What is read does not depend on what comes later

    A reading looks ahead: for the end of a name or of a text, for the closing mark of a section, for a
    longer mark than the one at hand.  But where it has found what it looks for, it has seen no more of what
    comes after its slice than the first character.  So in front of any other text that begins with that
    character the same slice is read (`scan_local`), and a closer, whatever comes after it.

    Readings one after the other are then the same in any text and at any offset (`Scans.exists_slice`),
    and their tokens are those of the slice they span, moved to where it stands. -/

namespace Archetype.Text

/-! ## Marks -/

theorem dropMark_isSome_iff {mark cs : List Char} : (dropMark mark cs).isSome = true ↔ mark <+: cs := by
  rw [Option.isSome_iff_exists]
  exact ⟨fun ⟨rest, h⟩ => ⟨rest, (dropMark_eq_some_iff.mp h).symm⟩,
    fun ⟨rest, h⟩ => ⟨rest, dropMark_eq_some_iff.mpr h.symm⟩⟩

/-- Whether a mark is at the front is told by as much of the text as the mark could take. -/
theorem dropMark_eq_none_of_append {mark slice rest : List Char} (more : List Char)
    (h : dropMark mark (slice ++ rest) = none) (hends : ¬slice <+: mark) :
    dropMark mark (slice ++ more) = none := by
  rw [← Option.not_isSome_iff_eq_none, dropMark_isSome_iff] at h ⊢
  intro hmark
  -- of two that one text begins with, the one begins with the other
  rcases List.prefix_or_prefix_of_prefix hmark (List.prefix_append slice more) with hin | hover
  · exact h (hin.trans (List.prefix_append slice rest))
  · exact hends hover

/-- The first occurrence of a mark is the first one whatever stands behind it. -/
theorem splitAtMark_append {mark cs body rest : List Char} (hmark : mark ≠ [])
    (h : splitAtMark mark cs = some (body, rest)) (more : List Char) :
    splitAtMark mark (body ++ (mark ++ more)) = some (body, more) := by
  induction cs generalizing body with
  | nil => cases h
  | cons c cs ih =>
      rw [splitAtMark] at h
      split at h
      · cases h
        obtain ⟨m, mark, rfl⟩ := List.exists_cons_of_ne_nil hmark
        rw [List.nil_append, List.cons_append, splitAtMark,
          dropMark_eq_some_iff.mpr (show m :: (mark ++ more) = m :: mark ++ more from rfl)]
      · rename_i hnone
        obtain ⟨⟨body, rest⟩, hsplit, heq⟩ := Option.map_eq_some_iff.mp h
        cases heq
        -- a mark at the front would have been there before: it is too short to reach what is new
        have hshort : ¬c :: (body ++ mark) <+: mark := by
          intro hover
          have := hover.length_le
          rw [List.length_cons, List.length_append] at this
          omega
        rw [eq_of_splitAtMark hsplit, ← List.cons_append] at hnone
        have hnever := dropMark_eq_none_of_append more hnone hshort
        rw [List.cons_append, List.append_assoc] at hnever
        rw [List.cons_append, splitAtMark, hnever]
        simp only [ih hsplit, Option.map_some]

end Archetype.Text

namespace Archetype.Markup

open Text

/-! ## One reading -/

/-- An opening mark ends before the first `>`. -/
theorem Section.not_mem_opening {kind : Section} (h : kind ∈ Section.kinds) : '>' ∉ kind.opening := by
  simp only [Section.kinds, List.mem_cons, List.not_mem_nil, or_false] at h
  rcases h with rfl | rfl | rfl | rfl <;> decide

/-- A closing mark ends with a `>`. -/
theorem Section.mem_closing {kind : Section} (h : kind ∈ Section.kinds) : '>' ∈ kind.closing := by
  simp only [Section.kinds, List.mem_cons, List.not_mem_nil, or_false] at h
  rcases h with rfl | rfl | rfl | rfl <;> decide

/-- Which section begins somewhere is told by a text from there on that has a `>` in it. -/
theorem Section.at?_append {kind : Section} {body rest : List Char} (more : List Char)
    (hat : Section.at? (kind.opening ++ body ++ rest) = some (kind, body ++ rest)) (hbody : '>' ∈ body) :
    Section.at? (kind.opening ++ body ++ more) = some (kind, body ++ more) := by
  rw [Section.at?, List.findSome?_eq_some_iff] at hat ⊢
  obtain ⟨before, found, after, hkinds, hfound, hbefore⟩ := hat
  refine ⟨before, found, after, hkinds, ?_, fun other hother => ?_⟩
  · obtain ⟨_, -, heq⟩ := Option.map_eq_some_iff.mp hfound
    cases heq
    rw [dropMark_eq_some_iff.mpr (List.append_assoc ..)]
    rfl
  · have hmem : other ∈ Section.kinds := hkinds ▸ List.mem_append_left _ hother
    have hnone := Option.map_eq_none_iff.mp (hbefore other hother)
    rw [dropMark_eq_none_of_append more hnone fun hover =>
      Section.not_mem_opening hmem (hover.subset (List.mem_append_right _ hbody))]
    rfl

/-- The readings that end without a look at what comes after them. -/
def Lexeme.isCloser (lexeme : Lexeme) : Bool :=
  lexeme == .tagClose || lexeme == .emptyTagClose

section Locality

variable {cs more : List Char} {r : Reading}

theorem StopsAt.of_head? {p : Char → Bool} {rest : List Char} (h : StopsAt p rest)
    (hhead : more.head? = rest.head?) : StopsAt p more := by
  rw [StopsAt, hhead]
  exact h

theorem stopsAt_dropWhile (p : Char → Bool) (cs : List Char) : StopsAt p (cs.dropWhile p) := by
  intro d hd
  have hnot := List.head?_dropWhile_not p cs
  rw [Option.mem_def.mp hd] at hnot
  simpa using hnot

/-- An exclamation or question mark behind a `<` begins a section. -/
theorem ne_of_at?_eq_none {c : Char} {rest : List Char} (h : Section.at? ('<' :: c :: rest) = none) :
    c ≠ '!' ∧ c ≠ '?' := by
  refine ⟨?_, ?_⟩ <;>
  · rintro rfl
    simp [Section.at?, Section.kinds, dropMark] at h

theorem scanContent_local (hr : scan .content cs = r) (hne : cs ≠ []) (hknown : r.lexeme ≠ .unknown)
    (hhead : more.head? = r.rest.head?) : scan .content (r.slice ++ more) = { r with rest := more } := by
  cases hat : Section.at? cs with
  | some found =>
      obtain ⟨kind, rest⟩ := found
      obtain ⟨hkind, hcs⟩ := Section.at?_eq_some hat
      cases hsplit : splitAtMark kind.closing rest with
      | none =>
          -- a section that is never closed is nothing known
          rw [scan, scanContent.eq_def, hat] at hr
          simp only [Section.read, hsplit] at hr
          exact absurd (hr ▸ rfl) hknown
      | some parts =>
          obtain ⟨body, after⟩ := parts
          rw [scan_section hat hsplit] at hr
          subst hr
          -- which section it is, is told before the `>` that closes it
          have hclosing := Section.mem_closing hkind
          have hbody : '>' ∈ body ++ kind.closing := List.mem_append_right _ hclosing
          rw [hcs, eq_of_splitAtMark hsplit, ← List.append_assoc] at hat
          have hagain := Section.at?_append more hat hbody
          rw [← List.append_assoc, List.append_assoc body] at hagain
          exact scan_section hagain (splitAtMark_append (List.ne_nil_of_mem hclosing) hsplit more)
  | none =>
      obtain ⟨c, cs, rfl⟩ := List.exists_cons_of_ne_nil hne
      by_cases hc : c = '<'
      · subst hc
        cases cs with
        | nil =>
            -- the text ends with the opener, and so it does again
            subst hr
            rw [List.head?_eq_none_iff.mp hhead]
            rfl
        | cons d cs =>
            by_cases hslash : d = '/'
            · subst hslash
              rw [scan_closeTagOpen] at hr
              subst hr
              exact scan_closeTagOpen
            · obtain ⟨hexclamation, hquestion⟩ := ne_of_at?_eq_none hat
              rw [scan_tagOpen hslash hexclamation hquestion] at hr
              subst hr
              obtain ⟨more, rfl⟩ := List.head?_eq_some_iff.mp hhead
              exact scan_tagOpen hslash hexclamation hquestion
      · have hall : ∀ d ∈ (c :: cs).takeWhile (· != '<'), (d != '<') = true := fun d hd =>
          List.mem_takeWhile_imp (p := (· != '<')) hd
        have hdata : (c :: cs).takeWhile (· != '<') ≠ [] := by
          rw [List.takeWhile_cons_of_pos (by simpa using hc)]
          exact List.cons_ne_nil _ _
        have hstop := stopsAt_dropWhile (· != '<') (c :: cs)
        rw [← List.takeWhile_append_dropWhile (p := (· != '<')) (l := c :: cs),
          scan_data hdata hall hstop] at hr
        subst hr
        exact scan_data hdata hall (hstop.of_head? hhead)

theorem scanTag_local (hr : scan .tag cs = r) (hne : cs ≠ []) (hknown : r.lexeme ≠ .unknown)
    (hhead : r.lexeme.isCloser = true ∨ more.head? = r.rest.head?) :
    scan .tag (r.slice ++ more) = { r with rest := more } := by
  obtain ⟨c, cs, rfl⟩ := List.exists_cons_of_ne_nil hne
  -- by the first character: only blanks and names end because of the character that comes after them
  rw [scan, scanTag.eq_def] at hr
  simp only at hr
  split at hr
  · rename_i hc
    subst hc hr
    exact scan_tagClose
  split at hr
  · rename_i hc
    subst hc
    split at hr
    · subst hr
      exact scan_emptyTagClose
    · exact absurd (hr ▸ rfl) hknown
  split at hr
  · rename_i hc
    subst hc hr
    exact scan_equals
  split at hr
  · rename_i hquote
    rw [scanValue] at hr
    split at hr
    · exact absurd (hr ▸ rfl) hknown
    · rename_i d rest hrest
      split at hr
      · rename_i hd
        subst hd hr
        rw [List.cons_append, List.append_assoc]
        exact scan_quoted hquote fun x hx => List.mem_takeWhile_imp (p := fun x => x != d && x != '<') hx
      · exact absurd (hr ▸ rfl) hknown
  split at hr
  · rename_i hblank
    subst hr
    have hslice : IsBlanks (c :: cs.takeWhile isBlank) :=
      ⟨List.cons_ne_nil _ _, List.all_eq_true.mpr (List.forall_mem_cons.mpr
        ⟨hblank, fun d hd => List.mem_takeWhile_imp hd⟩)⟩
    have hnext := hhead.resolve_left (by simp [Lexeme.isCloser])
    exact scan_blanks hslice ((stopsAt_dropWhile isBlank cs).of_head? hnext)
  split at hr
  · rename_i hname
    subst hr
    have hslice : IsName (c :: cs.takeWhile isNameChar) :=
      ⟨hname, List.all_eq_true.mpr fun d hd => List.mem_takeWhile_imp hd⟩
    have hnext := hhead.resolve_left (by simp [Lexeme.isCloser])
    exact scan_name hslice ((stopsAt_dropWhile isNameChar cs).of_head? hnext)
  · exact absurd (hr ▸ rfl) hknown

/-- Tags are opened in content only. -/
theorem lexeme_scanTag_ne_tagOpen (cs : List Char) : (scanTag cs).lexeme ≠ .tagOpen := by
  cases cs with
  | nil => simp [scanTag]
  | cons c cs =>
      simp only [scanTag, scanValue]
      repeat' split
      all_goals simp

theorem Section.isCloser_lexeme {kind : Section} (h : kind ∈ Section.kinds) (body : List Char) :
    (kind.lexeme body).isCloser = false := by
  simp only [Section.kinds, List.mem_cons, List.not_mem_nil, or_false] at h
  rcases h with rfl | rfl | rfl | rfl <;> rfl

/-- Tags are closed in tags only. -/
theorem isCloser_lexeme_scanContent (cs : List Char) : (scanContent cs).lexeme.isCloser = false := by
  unfold scanContent
  split
  · rename_i kind rest hat
    rw [Section.read.eq_def]
    split
    · exact Section.isCloser_lexeme (Section.at?_eq_some hat).1 _
    · rfl
  · split <;> rfl

/-- A `<` is a tag opener only where it stands. -/
theorem head?_of_tagOpen (h : (scanContent cs).lexeme = .tagOpen) : cs.head? = some '<' := by
  unfold scanContent at h
  split at h
  · rename_i kind rest hat
    rw [Section.read.eq_def] at h
    split at h
    · have hkind := (Section.at?_eq_some hat).1
      simp only [Section.kinds, List.mem_cons, List.not_mem_nil, or_false] at hkind
      rcases hkind with rfl | rfl | rfl | rfl <;> cases h
    · cases h
  · split at h
    · cases h
    · cases h
    · rfl
    · cases h

/-- Outside tags it goes on after a tag is closed. -/
theorem mode_of_isCloser {mode : Mode} (h : (scan mode cs).lexeme.isCloser = true) :
    (scan mode cs).mode = .content := by
  cases mode with
  | content => exact absurd (h.symm.trans (isCloser_lexeme_scanContent cs)) (by simp)
  | tag =>
      cases cs with
      | nil => cases h
      | cons c cs =>
          revert h
          simp only [scan, scanTag, scanValue]
          repeat' split
          all_goals simp [Lexeme.isCloser]

/-- **LOCAL**: in front of a text that begins like the one after a reading, the same is read; and in front of
    any text, if the reading closes a tag. -/
theorem scan_local {mode : Mode} (hne : cs ≠ []) (hknown : (scan mode cs).lexeme ≠ .unknown)
    (hhead : (scan mode cs).lexeme.isCloser = true ∨ more.head? = (scan mode cs).rest.head?) :
    scan mode ((scan mode cs).slice ++ more) = { scan mode cs with rest := more } := by
  cases mode with
  | tag => exact scanTag_local rfl hne hknown hhead
  | content =>
      refine scanContent_local rfl hne hknown (hhead.resolve_left ?_)
      rw [show scan .content cs = scanContent cs from rfl, isCloser_lexeme_scanContent]
      exact Bool.false_ne_true

end Locality

/-! ## Readings one after the other -/

/-- A token with other offsets. -/
def Token.mapOffsets (f : Nat → Nat) (t : Token) : Token :=
  ⟨t.lexeme, f t.start, f t.stop⟩

/-- A token that stands some bytes further on. -/
def Token.moved (n : Nat) (t : Token) : Token :=
  t.mapOffsets (· + n)

@[simp] theorem Token.moved_moved (m n : Nat) (t : Token) : (t.moved m).moved n = t.moved (m + n) := by
  simp only [moved, mapOffsets, Nat.add_assoc]

/-- A token at the front, moved to a place. -/
theorem Token.moved_front (lexeme : Lexeme) (stop position : Nat) :
    Token.moved position ⟨lexeme, 0, stop⟩ = ⟨lexeme, position, position + stop⟩ := by
  rw [moved, mapOffsets, Nat.zero_add, Nat.add_comm]

theorem map_moved_moved (m n : Nat) (ts : List Token) :
    (ts.map (·.moved m)).map (·.moved n) = ts.map (·.moved (n + m)) := by
  rw [List.map_map]
  exact List.map_congr_left fun t _ => by rw [Function.comp_apply, Token.moved_moved, Nat.add_comm]

/-- A slice that is read as some tokens, which are told by their offsets in it, wherever it stands in a text,
    as long as what stands behind it has a property. -/
def ReadsAs (P : List Char → Prop) (mode after : Mode) (slice : List Char) (us : List Token) : Prop :=
  ∀ position more, P more → Scans ⟨slice ++ more, position, mode⟩ (us.map (·.moved position))
    ⟨more, position + byteLength slice, after⟩

section Readings

variable {P Q : List Char → Prop} {mode middle after : Mode} {cs slice tail : List Char} {us vs : List Token}

theorem readsAs_nil : ReadsAs P mode mode [] [] := fun _ _ _ => .refl _

/-- Slices that are read one after the other. -/
theorem ReadsAs.append (h : ReadsAs P mode middle slice us) (k : ReadsAs Q middle after tail vs)
    (hnext : ∀ more, Q more → P (tail ++ more)) :
    ReadsAs Q mode after (slice ++ tail) (us ++ vs.map (·.moved (byteLength slice))) := by
  intro position more hmore
  have hjoint := (h position (tail ++ more) (hnext more hmore)).trans
    (k (position + byteLength slice) more hmore)
  rw [List.map_append, map_moved_moved, List.append_assoc, byteLength_append, ← Nat.add_assoc]
  exact hjoint

/-- What is read of a reading, whatever it is followed by. -/
theorem readsAs_scan (hne : cs ≠ []) (hknown : (scan mode cs).lexeme ≠ .unknown)
    (hP : ∀ more, P more →
      (scan mode cs).lexeme.isCloser = true ∨ more.head? = (scan mode cs).rest.head?) :
    ReadsAs P mode (scan mode cs).mode (scan mode cs).slice
      (if (scan mode cs).lexeme.isFiller then []
        else [⟨(scan mode cs).lexeme, 0, byteLength (scan mode cs).slice⟩]) := by
  intro position more hmore
  have hscan := scan_local hne hknown (hP more hmore)
  have hne' : (scan mode cs).slice ++ more ≠ [] :=
    List.append_ne_nil_of_left_ne_nil (slice_scan_ne_nil mode hne) _
  have hfront : Scanner.reading ⟨(scan mode cs).slice ++ more, position, mode⟩
      = { scan mode cs with rest := more } := hscan
  have hadvance : Scanner.advance ⟨(scan mode cs).slice ++ more, position, mode⟩
      = ⟨more, position + byteLength (scan mode cs).slice, (scan mode cs).mode⟩ := by
    rw [Scanner.advance, hfront]
  have htoken : Scanner.token ⟨(scan mode cs).slice ++ more, position, mode⟩
      = ⟨(scan mode cs).lexeme, position, position + byteLength (scan mode cs).slice⟩ := by
    rw [Scanner.token, hfront]
  cases hfiller : (scan mode cs).lexeme.isFiller with
  | true =>
      rw [← hadvance, if_pos rfl]
      exact .filler hne' (by rw [htoken]; exact hfiller) (.refl _)
  | false =>
      rw [← hadvance, if_neg Bool.false_ne_true, List.map_singleton, Token.moved_front, ← htoken]
      exact .token hne' (by rw [htoken]; exact hfiller) (.refl _)

end Readings

/-- A closer is read in front of anything. -/
theorem readsAs_closer {s : Scanner} (hne : s.rest ≠ []) (hcloser : s.token.lexeme.isCloser = true) :
    ReadsAs (fun _ => True) s.mode .content s.reading.slice
      [⟨s.token.lexeme, 0, byteLength s.reading.slice⟩] := by
  have hknown : s.token.lexeme ≠ .unknown := by
    intro hunknown
    rw [hunknown] at hcloser
    cases hcloser
  have hfiller : s.token.lexeme.isFiller = false := by
    cases hlexeme : s.token.lexeme <;> first
      | rfl
      | (rw [hlexeme] at hcloser; cases hcloser)
  have hreads : ReadsAs (fun _ => True) s.mode s.reading.mode s.reading.slice
      (if s.token.lexeme.isFiller then [] else [⟨s.token.lexeme, 0, byteLength s.reading.slice⟩]) :=
    readsAs_scan hne hknown fun _ _ => Or.inl hcloser
  rw [hfiller, if_neg Bool.false_ne_true,
    show s.reading.mode = .content from mode_of_isCloser hcloser] at hreads
  exact hreads

variable {s last : Scanner} {ts : List Token}

/-- Going on in a text leaves a slice behind. -/
theorem Scans.exists_rest (h : Scans s ts last) :
    ∃ slice, s.rest = slice ++ last.rest ∧ last.position = s.position + byteLength slice := by
  induction h with
  | refl => exact ⟨[], rfl, rfl⟩
  | @token s last ts hne _ _ ih | @filler s last ts hne _ _ ih =>
      obtain ⟨slice, hrest, hposition⟩ := ih
      refine ⟨s.reading.slice ++ slice, ?_, ?_⟩
      · rw [List.append_assoc, ← hrest]
        exact s.rest_eq
      · rw [hposition, byteLength_append, ← Nat.add_assoc]
        rfl

/-- What is read of the token at a place, and then of a slice after it. -/
theorem ReadsAs.cons {after : Mode} {slice rest : List Char} {us : List Token} (hne : s.rest ≠ [])
    (hknown : s.token.lexeme ≠ .unknown) (hrest : s.advance.rest = slice ++ rest)
    (hreads : ReadsAs (fun more => more.head? = rest.head?) s.advance.mode after slice us) :
    ReadsAs (fun more => more.head? = rest.head?) s.mode after (s.reading.slice ++ slice)
      ((if s.token.lexeme.isFiller then [] else [⟨s.token.lexeme, 0, byteLength s.reading.slice⟩])
        ++ us.map (·.moved (byteLength s.reading.slice))) := by
  have hfirst : ReadsAs (fun more => more.head? = s.advance.rest.head?) s.mode s.advance.mode s.reading.slice
      (if s.token.lexeme.isFiller then [] else [⟨s.token.lexeme, 0, byteLength s.reading.slice⟩]) :=
    readsAs_scan hne hknown fun _ hmore => Or.inr hmore
  refine hfirst.append hreads fun more hmore => ?_
  rw [hrest, List.head?_append, List.head?_append, hmore]

/-- **SLICES**: what is read from one place of a text to another, all of it known, is read of the slice between
    them, wherever that stands, in front of any text that begins like the one after it. -/
theorem Scans.exists_slice (h : Scans s ts last) (hknown : ∀ t ∈ ts, t.lexeme ≠ .unknown) :
    ∃ slice us, s.rest = slice ++ last.rest ∧ last.position = s.position + byteLength slice ∧
      ts = us.map (·.moved s.position) ∧
      ReadsAs (fun more => more.head? = last.rest.head?) s.mode last.mode slice us := by
  have hbehind (s : Scanner) (us : List Token) : us.map (·.moved s.advance.position)
      = (us.map (·.moved (byteLength s.reading.slice))).map (·.moved s.position) :=
    (map_moved_moved _ _ us).symm
  induction h with
  | refl s => exact ⟨[], [], rfl, rfl, rfl, readsAs_nil⟩
  | @token s last ts hne hfiller _ ih =>
      obtain ⟨hhead, htail⟩ := List.forall_mem_cons.mp hknown
      obtain ⟨slice, us, hrest, hposition, rfl, hreads⟩ := ih htail
      have hjoint := hreads.cons hne hhead hrest
      rw [hfiller, if_neg Bool.false_ne_true] at hjoint
      refine ⟨_, _, ?_, ?_, ?_, hjoint⟩
      · rw [List.append_assoc, ← hrest, ← s.rest_eq]
      · rw [hposition, byteLength_append, ← Nat.add_assoc]
        rfl
      · rw [List.singleton_append, List.map_cons, ← hbehind, Token.moved_front]
        rfl
  | @filler s last ts hne hfiller _ ih =>
      obtain ⟨slice, us, hrest, hposition, rfl, hreads⟩ := ih hknown
      have hhead : s.token.lexeme ≠ .unknown := by
        intro hunknown
        rw [hunknown] at hfiller
        cases hfiller
      have hjoint := ReadsAs.cons hne hhead hrest hreads
      rw [hfiller, if_pos rfl, List.nil_append] at hjoint
      refine ⟨_, _, ?_, ?_, hbehind s us, hjoint⟩
      · rw [List.append_assoc, ← hrest, ← s.rest_eq]
      · rw [hposition, byteLength_append, ← Nat.add_assoc]
        rfl

/-! ## The places of tokens -/

/-- Where a token stands that is not the end. -/
theorem Scanner.exists_scans {s : Scanner} {xs ys : List Token} {t : Token}
    (h : s.significant = xs ++ t :: ys) (ht : t.lexeme ≠ .eof) :
    ∃ m, Scans s xs m ∧ m.rest ≠ [] ∧ m.token = t ∧ m.significant = t :: ys := by
  by_cases hnil : s.rest = []
  · -- only the end is left
    rw [significant_of_nil hnil] at h
    have hmem : t ∈ [s.token] := h ▸ List.mem_append_right _ List.mem_cons_self
    rw [List.mem_singleton.mp hmem] at ht
    exact absurd (lexeme_token_of_nil hnil) ht
  · have hless : s.advance.rest.length < s.rest.length := length_rest_scan_lt s.mode hnil
    cases hfiller : s.token.lexeme.isFiller with
    | true =>
        rw [significant_of_filler hnil hfiller] at h
        obtain ⟨m, hscans, hm⟩ := exists_scans h ht
        exact ⟨m, .filler hnil hfiller hscans, hm⟩
    | false =>
        have hsignificant := h
        rw [significant_of_ne hnil hfiller] at h
        cases xs with
        | nil =>
            injection h with hhead
            exact ⟨s, .refl s, hnil, hhead, hsignificant⟩
        | cons x xs =>
            injection h with hhead htail
            obtain ⟨m, hscans, hm⟩ := exists_scans htail ht
            exact ⟨m, hhead ▸ .token hnil hfiller hscans, hm⟩
termination_by s.rest.length

/-- As long as the text has not ended, a token spans something. -/
theorem Scanner.start_lt_stop {s : Scanner} (h : s.rest ≠ []) : s.token.start < s.token.stop := by
  obtain ⟨c, cs, hslice⟩ := List.exists_cons_of_ne_nil (slice_scan_ne_nil s.mode h)
  show s.position < s.position + byteLength (scan s.mode s.rest).slice
  rw [hslice, byteLength_cons]
  have := c.utf8Size_pos
  omega

/-- Tokens span something, and stand one behind the other. -/
theorem Scanner.ordered_significant (s : Scanner) :
    s.significant.Pairwise (·.stop ≤ ·.start) ∧
      ∀ t ∈ s.significant, s.position ≤ t.start ∧ (t.lexeme ≠ .eof → t.start < t.stop) := by
  by_cases hnil : s.rest = []
  · rw [significant_of_nil hnil]
    refine ⟨List.pairwise_singleton _ _, fun t ht => ?_⟩
    rw [List.mem_singleton.mp ht]
    exact ⟨Nat.le_refl _, fun hend => absurd (lexeme_token_of_nil hnil) hend⟩
  · have hless : s.advance.rest.length < s.rest.length := length_rest_scan_lt s.mode hnil
    obtain ⟨hordered, hspan⟩ := ordered_significant s.advance
    have hstop : s.advance.position = s.token.stop := rfl
    have hlength : s.token.start < s.token.stop := start_lt_stop hnil
    have hlater : ∀ t ∈ s.advance.significant,
        s.position ≤ t.start ∧ (t.lexeme ≠ .eof → t.start < t.stop) :=
      fun t ht => ⟨Nat.le_trans (Nat.le_of_lt hlength) (hspan t ht).1, (hspan t ht).2⟩
    cases hfiller : s.token.lexeme.isFiller with
    | true =>
        rw [significant_of_filler hnil hfiller]
        exact ⟨hordered, hlater⟩
    | false =>
        rw [significant_of_ne hnil hfiller]
        refine ⟨List.pairwise_cons.mpr ⟨fun t ht => (hspan t ht).1, hordered⟩, ?_⟩
        exact List.forall_mem_cons.mpr ⟨⟨Nat.le_refl _, fun _ => hlength⟩, hlater⟩
termination_by s.rest.length

end Archetype.Markup
