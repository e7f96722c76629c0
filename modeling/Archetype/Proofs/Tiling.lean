import Archetype.Proofs.Spans
import Mathlib.Data.List.Induction

/-! # Tokens tile a text

    The tokens of a text stand one behind the other, from its front to its end, and nothing of it is left
    out (`tokens_tile`).  What a token is, is told by its slice alone, once it is known whether the slice
    stands in a tag: read from both of its ends, the slice says what the scanner found by looking for the
    first of them (`Lexeme.ofSlice`).

    Both follow from what the scanner can do in one step (`ContentRead`, `TagRead`), and from where it is
    before each of its tokens (`exists_place`). -/

namespace Archetype.Markup

open Text

/-! ## What a slice says -/

/-- What stands between two marks that a text begins and ends with. -/
def between? (opening closing cs : List Char) : Option (List Char) :=
  (dropMark opening cs).bind fun inner => (dropMark closing.reverse inner.reverse).map List.reverse

namespace Lexeme

/-- The lexeme that a slice is outside tags. -/
def ofContent (slice : List Char) : Lexeme :=
  if slice = [] then .eof
  else if "<!--".toList <+: slice then
    (between? "<!--".toList "-->".toList slice).elim .unknown fun body => .comment (String.ofList (trim body))
  else if "<![CDATA[".toList <+: slice then
    (between? "<![CDATA[".toList "]]>".toList slice).elim .unknown fun body => .cdata (String.ofList body)
  else if "<?".toList <+: slice then
    (between? "<?".toList "?>".toList slice).elim .unknown fun _ => .declaration
  else if "<!".toList <+: slice then
    (between? "<!".toList ">".toList slice).elim .unknown fun _ => .declaration
  else if slice = "</".toList then .closeTagOpen
  else if slice = "<".toList then .tagOpen
  else .text (String.ofList (CharRef.decode slice))

/-- The lexeme that a slice is inside a tag. -/
def ofTag : List Char → Lexeme
  | [] => .eof
  | c :: rest =>
    if c = '>' then .tagClose
    else if c = '/' then if rest = ['>'] then .emptyTagClose else .unknown
    else if c = '=' then .equals
    else if c = '"' ∨ c = '\'' then
      (between? [c] [c] (c :: rest)).elim .unknown fun body => .attrValue (String.ofList (CharRef.decode body))
    else if isBlank c then .whitespace
    else if isNameStart c then .name (String.ofList (c :: rest))
    else .unknown

/-- The lexeme that a slice is. -/
def ofSlice : Mode → List Char → Lexeme
  | .content => ofContent
  | .tag => ofTag

end Lexeme

theorem between?_eq_some_iff {opening closing cs body : List Char} :
    between? opening closing cs = some body ↔ cs = opening ++ body ++ closing := by
  rw [between?, Option.bind_eq_some_iff]
  constructor
  · rintro ⟨inner, hopening, hinner⟩
    obtain ⟨rest, hclosing, rfl⟩ := Option.map_eq_some_iff.mp hinner
    rw [dropMark_eq_some_iff.mp hopening, ← List.reverse_reverse inner, dropMark_eq_some_iff.mp hclosing,
      List.reverse_append, List.reverse_reverse, List.append_assoc]
  · rintro rfl
    refine ⟨body ++ closing, dropMark_eq_some_iff.mpr (List.append_assoc ..), ?_⟩
    rw [List.reverse_append, dropMark_eq_some_iff.mpr rfl, Option.map_some, List.reverse_reverse]

/-- A mark that stands somewhere in a text is found. -/
theorem splitAtMark_ne_none {mark : List Char} (hmark : mark ≠ []) (front back : List Char) :
    splitAtMark mark (front ++ (mark ++ back)) ≠ none := by
  induction front with
  | nil =>
      obtain ⟨m, mark, rfl⟩ := List.exists_cons_of_ne_nil hmark
      rw [List.nil_append, List.cons_append, splitAtMark,
        dropMark_eq_some_iff.mpr (show m :: (mark ++ back) = m :: mark ++ back from rfl)]
      exact Option.some_ne_none _
  | cons c front ih =>
      rw [List.cons_append, splitAtMark]
      split
      · exact Option.some_ne_none _
      · exact fun hnone => ih (Option.map_eq_none_iff.mp hnone)

theorem between?_closed (opening closing body : List Char) :
    between? opening closing (opening ++ body ++ closing) = some body :=
  between?_eq_some_iff.mpr rfl

/-- A section that is never closed does not end with its closing mark either. -/
theorem between?_unclosed {opening closing rest : List Char} (hclosing : closing ≠ [])
    (h : splitAtMark closing rest = none) : between? opening closing (opening ++ rest) = none := by
  rw [Option.eq_none_iff_forall_ne_some]
  intro body hbody
  have hrest := between?_eq_some_iff.mp hbody
  rw [List.append_assoc] at hrest
  have hfound := splitAtMark_ne_none hclosing body []
  rw [List.append_nil, ← List.append_cancel_left hrest] at hfound
  exact hfound h

/-! ## One step -/

/-- What can be read of a text outside tags. -/
inductive ContentRead (cs : List Char) : Reading → Prop
  | ended : ContentRead cs ⟨.eof, [], [], .content⟩
  | closed {kind : Section} {body rest : List Char}
      (hat : Section.at? (kind.opening ++ body ++ kind.closing) = some (kind, body ++ kind.closing)) :
      ContentRead cs ⟨kind.lexeme body, kind.opening ++ body ++ kind.closing, rest, .content⟩
  | unclosed {kind : Section} {inner : List Char} (hat : Section.at? cs = some (kind, inner))
      (hclosing : splitAtMark kind.closing inner = none) :
      ContentRead cs ⟨.unknown, cs, [], .content⟩
  | closeTagOpen {rest : List Char} : ContentRead cs ⟨.closeTagOpen, ['<', '/'], rest, .tag⟩
  | tagOpen {rest : List Char} : ContentRead cs ⟨.tagOpen, ['<'], rest, .tag⟩
  | data {data rest : List Char} (hne : data ≠ []) (hdata : '<' ∉ data) (hrest : StopsAt (· != '<') rest) :
      ContentRead cs ⟨.text (String.ofList (CharRef.decode data)), data, rest, .content⟩

/-- What can be read of a text inside a tag. -/
inductive TagRead : Reading → Prop
  | ended : TagRead ⟨.eof, [], [], .tag⟩
  | tagClose {rest : List Char} : TagRead ⟨.tagClose, ['>'], rest, .content⟩
  | emptyTagClose {rest : List Char} : TagRead ⟨.emptyTagClose, ['/', '>'], rest, .content⟩
  | slash {rest : List Char} : TagRead ⟨.unknown, ['/'], rest, .tag⟩
  | equals {rest : List Char} : TagRead ⟨.equals, ['='], rest, .tag⟩
  | value {quote : Char} {raw rest : List Char} (hquote : quote = '"' ∨ quote = '\'') :
      TagRead ⟨.attrValue (String.ofList (CharRef.decode raw)), quote :: (raw ++ [quote]), rest, .tag⟩
  | unclosed {quote : Char} {raw rest : List Char} (hquote : quote = '"' ∨ quote = '\'') (hraw : quote ∉ raw) :
      TagRead ⟨.unknown, quote :: raw, rest, .tag⟩
  | blanks {slice rest : List Char} (hslice : IsBlanks slice) (hrest : StopsAt isBlank rest) :
      TagRead ⟨.whitespace, slice, rest, .tag⟩
  | name {slice rest : List Char} (hslice : IsName slice) (hrest : StopsAt isNameChar rest) :
      TagRead ⟨.name (String.ofList slice), slice, rest, .tag⟩
  | other {c : Char} {rest : List Char} (hmark : c ∉ ['>', '/', '=', '"', '\'']) (hblank : isBlank c = false)
      (hname : isNameStart c = false) : TagRead ⟨.unknown, [c], rest, .tag⟩

section Step

variable {cs : List Char} {r : Reading} {mode : Mode} {lexeme other : Lexeme} {p : Char → Bool}

theorem scanContent_read (cs : List Char) : ContentRead cs (scanContent cs) := by
  cases hat : Section.at? cs with
  | some found =>
      obtain ⟨kind, inner⟩ := found
      obtain ⟨hkind, hcs⟩ := Section.at?_eq_some hat
      cases hsplit : splitAtMark kind.closing inner with
      | none =>
          rw [scanContent.eq_def, hat]
          simp only [Section.read, hsplit, ← hcs]
          exact .unclosed hat hsplit
      | some parts =>
          obtain ⟨body, rest⟩ := parts
          rw [show scanContent cs = _ from scan_section hat hsplit]
          -- which section it is, is told before the `>` that closes it
          have hbody : '>' ∈ body ++ kind.closing := List.mem_append_right _ (Section.mem_closing hkind)
          rw [hcs, eq_of_splitAtMark hsplit, ← List.append_assoc] at hat
          have hslice := Section.at?_append [] hat hbody
          rw [List.append_nil, List.append_nil, ← List.append_assoc] at hslice
          exact .closed hslice
  | none =>
      rcases cs with - | ⟨c, cs⟩
      · exact .ended
      by_cases hc : c = '<'
      · subst hc
        rw [scanContent.eq_def, hat]
        simp only
        split
        · contradiction
        · exact .closeTagOpen
        · exact .tagOpen
        · rename_i hopen
          exact absurd rfl (hopen cs)
      · have hdata : (c :: cs).takeWhile (· != '<') ≠ [] := by
          rw [List.takeWhile_cons_of_pos (by simpa using hc)]
          exact List.cons_ne_nil _ _
        have hall : ∀ d ∈ (c :: cs).takeWhile (· != '<'), (d != '<') = true := fun d hd =>
          List.mem_takeWhile_imp (p := (· != '<')) hd
        have hstop := stopsAt_dropWhile (· != '<') (c :: cs)
        have hread := scan_data hdata hall hstop
        rw [List.takeWhile_append_dropWhile] at hread
        rw [show scanContent (c :: cs) = _ from hread]
        exact .data hdata (fun hmem => by simpa using hall '<' hmem) hstop

theorem scanTag_read (cs : List Char) : TagRead (scanTag cs) := by
  rcases cs with - | ⟨c, cs⟩
  · exact .ended
  rw [scanTag.eq_def]
  simp only
  split
  · rename_i hc
    subst hc
    exact .tagClose
  split
  · split
    · exact .emptyTagClose
    · exact .slash
  split
  · rename_i hc
    subst hc
    exact .equals
  split
  · rename_i hquote
    have hraw : c ∉ cs.takeWhile fun d => d != c && d != '<' := fun hmem => by
      simpa using List.mem_takeWhile_imp (p := fun d => d != c && d != '<') hmem
    rw [scanValue]
    split
    · exact .unclosed hquote hraw
    · split
      · exact .value hquote
      · exact .unclosed hquote hraw
  split
  · rename_i hblank
    refine .blanks ⟨List.cons_ne_nil _ _, List.all_eq_true.mpr (List.forall_mem_cons.mpr ⟨hblank, ?_⟩)⟩
      (stopsAt_dropWhile isBlank cs)
    exact fun d hd => List.mem_takeWhile_imp hd
  split
  · rename_i hstart
    exact .name ⟨hstart, List.all_eq_true.mpr fun d hd => List.mem_takeWhile_imp hd⟩
      (stopsAt_dropWhile isNameChar cs)
  · rename_i hclose hslash hequals hquote hblank hname
    exact .other (by simp_all) (by simpa using hblank) (by simpa using hname)

/-! ## What a step says -/

namespace Lexeme

/-- The lexemes that a tag begins with. -/
def isOpener (lexeme : Lexeme) : Bool :=
  lexeme == .tagOpen || lexeme == .closeTagOpen

/-- The lexemes that only tags hold. -/
def isOfTag : Lexeme → Bool
  | .whitespace | .name _ | .attrValue _ | .equals | .tagClose | .emptyTagClose => true
  | _ => false

/-- The characters that a lexeme goes on with for as long as it can. -/
def run? : Lexeme → Option (Char → Bool)
  | .text _ => some (· != '<')
  | .whitespace => some isBlank
  | .name _ => some isNameChar
  | _ => none

end Lexeme

/-- The mode after a lexeme: what opens a tag leads into it, and what closes one out of it. -/
def Mode.after (mode : Mode) (lexeme : Lexeme) : Mode :=
  if lexeme.isOpener then .tag else if lexeme.isCloser then .content else mode

theorem run?_of_kindName (h : other.kindName = lexeme.kindName) (hrun : lexeme.run? = some p) :
    other.run? = some p := by
  cases lexeme with
  | text | whitespace | name => cases other <;> first
      | exact hrun
      | simp [Lexeme.kindName] at h
  | _ => cases hrun

theorem Section.ofContent_eq {kind : Section} {slice inner : List Char}
    (hat : Section.at? slice = some (kind, inner)) :
    Lexeme.ofContent slice = (between? kind.opening kind.closing slice).elim .unknown kind.lexeme := by
  have hne : slice ≠ [] := by
    rintro rfl
    cases hat
  rw [Lexeme.ofContent, if_neg hne]
  simp only [← dropMark_isSome_iff]
  -- the marks are tried in turn, as the scanner tries them
  simp only [Section.at?, Section.kinds, List.findSome?_cons, List.findSome?_nil] at hat
  cases hcomment : dropMark "<!--".toList slice with
  | some rest =>
      rw [hcomment] at hat
      cases hat
      rfl
  | none =>
    cases hcdata : dropMark "<![CDATA[".toList slice with
    | some rest =>
        rw [hcomment, hcdata] at hat
        cases hat
        rfl
    | none =>
      cases hinstruction : dropMark "<?".toList slice with
      | some rest =>
          rw [hcomment, hcdata, hinstruction] at hat
          cases hat
          rfl
      | none =>
        cases hdeclaration : dropMark "<!".toList slice with
        | some rest =>
            rw [hcomment, hcdata, hinstruction, hdeclaration] at hat
            cases hat
            rfl
        | none =>
            rw [hcomment, hcdata, hinstruction, hdeclaration] at hat
            cases hat

/-- A section is known, and has nothing to do with tags. -/
theorem Section.lexeme_spec {kind : Section} (h : kind ∈ Section.kinds) (body : List Char) :
    (kind.lexeme body).isOpener = false ∧ (kind.lexeme body).isCloser = false ∧
      (kind.lexeme body).isOfTag = false ∧ (kind.lexeme body).run? = none ∧ kind.lexeme body ≠ .unknown := by
  simp only [Section.kinds, List.mem_cons, List.not_mem_nil, or_false] at h
  rcases h with rfl | rfl | rfl | rfl <;>
    simp [Lexeme.isOpener, Lexeme.isCloser, Lexeme.isOfTag, Lexeme.run?]

/-- What is read outside tags is what its slice says. -/
theorem ContentRead.lexeme_eq (h : ContentRead cs r) : r.lexeme = .ofContent r.slice := by
  cases h with
  | ended | closeTagOpen | tagOpen => rfl
  | closed hat => rw [Section.ofContent_eq hat, between?_closed, Option.elim_some]
  | unclosed hat hclosing =>
      obtain ⟨hkind, hcs⟩ := Section.at?_eq_some hat
      have hne := List.ne_nil_of_mem (Section.mem_closing hkind)
      rw [Section.ofContent_eq hat, hcs, between?_unclosed hne hclosing, Option.elim_none]
  | @data data _ hne hdata =>
      obtain ⟨c, data, rfl⟩ := List.exists_cons_of_ne_nil hne
      have hc : '<' ≠ c := fun hc => hdata (hc ▸ List.mem_cons_self)
      simp [Lexeme.ofContent, hc.symm, hc]

/-- Outside tags a reading leads into a tag or goes on outside, holds nothing of a tag, and leaves nothing
    behind where it begins nothing known. -/
theorem ContentRead.spec (h : ContentRead cs r) : r.mode = Mode.content.after r.lexeme ∧
    r.lexeme.isOfTag = false ∧ (r.lexeme = .unknown → r.rest = []) := by
  cases h with
  | ended | closeTagOpen | tagOpen | data => exact ⟨rfl, rfl, nofun⟩
  | unclosed => exact ⟨rfl, rfl, fun _ => rfl⟩
  | closed hat =>
      obtain ⟨hopener, hcloser, htag, -, hknown⟩ := Section.lexeme_spec (Section.at?_eq_some hat).1 _
      exact ⟨by simp [Mode.after, hopener, hcloser], htag, fun hunknown => absurd hunknown hknown⟩

/-- Character data begins with a character of its own and ends before the next that is none. -/
theorem ContentRead.run (h : ContentRead cs r) (hrun : r.lexeme.run? = some p) :
    (∃ c ∈ r.slice.head?, p c = true) ∧ StopsAt p r.rest := by
  cases h with
  | ended | closeTagOpen | tagOpen | unclosed => cases hrun
  | closed hat =>
      obtain ⟨-, -, -, hnone, -⟩ := Section.lexeme_spec (Section.at?_eq_some hat).1 _
      cases hnone.symm.trans hrun
  | @data data _ hne hdata hrest =>
      cases hrun
      obtain ⟨c, data, rfl⟩ := List.exists_cons_of_ne_nil hne
      refine ⟨⟨c, rfl, bne_iff_ne.mpr fun hc => hdata (hc ▸ List.mem_cons_self)⟩, hrest⟩

theorem between?_quoted {quote : Char} {raw : List Char} (hraw : quote ∉ raw) :
    between? [quote] [quote] (quote :: raw) = none := by
  rw [Option.eq_none_iff_forall_ne_some]
  intro body hbody
  have hclosed := between?_eq_some_iff.mp hbody
  rw [List.append_assoc, List.singleton_append, List.cons.injEq] at hclosed
  exact hraw (hclosed.2 ▸ List.mem_append_right _ List.mem_cons_self)

/-- What is read inside a tag is what its slice says. -/
theorem TagRead.lexeme_eq (h : TagRead r) : r.lexeme = .ofTag r.slice := by
  cases h with
  | ended | tagClose | emptyTagClose | slash | equals => rfl
  | @value quote raw _ hquote =>
      have hclosed : between? [quote] [quote] (quote :: (raw ++ [quote])) = some raw :=
        between?_closed [quote] [quote] raw
      rcases hquote with rfl | rfl <;> simp [Lexeme.ofTag, hclosed]
  | unclosed hquote hraw => rcases hquote with rfl | rfl <;> simp [Lexeme.ofTag, between?_quoted hraw]
  | blanks hslice =>
      obtain ⟨hne, hblanks⟩ := hslice
      obtain ⟨c, rest, rfl⟩ := List.exists_cons_of_ne_nil hne
      have hc := List.all_eq_true.mp hblanks c List.mem_cons_self
      have hmarks := not_mem_marks_of_isBlank hc
      simp only [marks, List.mem_cons, List.not_mem_nil, or_false, not_or] at hmarks
      simp [Lexeme.ofTag, hmarks, hc]
  | name hslice =>
      obtain ⟨c, rest, rfl, hstart, -⟩ := hslice.exists_cons
      have hmarks := not_mem_marks_of_isNameStart hstart
      simp only [marks, List.mem_cons, List.not_mem_nil, or_false, not_or] at hmarks
      simp [Lexeme.ofTag, hmarks, isBlank_of_isNameStart hstart, hstart]
  | other hmark hblank hname =>
      simp only [List.mem_cons, List.not_mem_nil, or_false, not_or] at hmark
      simp [Lexeme.ofTag, hmark, hblank, hname]

/-- Inside a tag a reading goes on there or leads out of it. -/
theorem TagRead.mode_eq (h : TagRead r) : r.mode = Mode.tag.after r.lexeme := by
  cases h <;> rfl

/-- Blanks and names begin with a character of their own and end before the next that is none. -/
theorem TagRead.run (h : TagRead r) (hrun : r.lexeme.run? = some p) :
    (∃ c ∈ r.slice.head?, p c = true) ∧ StopsAt p r.rest := by
  cases h with
  | ended | tagClose | emptyTagClose | slash | equals | value | unclosed | other => cases hrun
  | blanks hslice hrest =>
      cases hrun
      obtain ⟨c, rest, rfl⟩ := List.exists_cons_of_ne_nil hslice.1
      exact ⟨⟨c, rfl, List.all_eq_true.mp hslice.2 c List.mem_cons_self⟩, hrest⟩
  | name hslice hrest =>
      cases hrun
      obtain ⟨c, rest, rfl, hstart, -⟩ := hslice.exists_cons
      exact ⟨⟨c, rfl, isNameChar_of_isNameStart hstart⟩, hrest⟩

/-- **SLICES**: the lexeme at a place is told by its slice. -/
theorem lexeme_scan (mode : Mode) (cs : List Char) :
    (scan mode cs).lexeme = .ofSlice mode (scan mode cs).slice := by
  cases mode with
  | content => exact (scanContent_read cs).lexeme_eq
  | tag => exact (scanTag_read cs).lexeme_eq

/-- The mode after a lexeme is told by the lexeme. -/
theorem mode_scan (mode : Mode) (cs : List Char) :
    (scan mode cs).mode = mode.after (scan mode cs).lexeme := by
  cases mode with
  | content => exact (scanContent_read cs).spec.1
  | tag => exact (scanTag_read cs).mode_eq

/-- What only tags hold is read in tags. -/
theorem mode_of_isOfTag (h : (scan mode cs).lexeme.isOfTag = true) : mode = .tag := by
  cases mode with
  | tag => rfl
  | content => exact absurd ((scanContent_read cs).spec.2.1.symm.trans h) Bool.false_ne_true

theorem run_scan (h : (scan mode cs).lexeme.run? = some p) :
    (∃ c ∈ (scan mode cs).slice.head?, p c = true) ∧ StopsAt p (scan mode cs).rest := by
  cases mode with
  | content => exact (scanContent_read cs).run h
  | tag => exact (scanTag_read cs).run h

/-- What goes on for as long as it can is not followed by more of its kind. -/
theorem kindName_scan_rest (h : (scan mode cs).lexeme.run? = some p) (next : Mode) :
    (scan next (scan mode cs).rest).lexeme.kindName ≠ (scan mode cs).lexeme.kindName := by
  intro hkind
  obtain ⟨⟨c, hc, hp⟩, -⟩ := run_scan (run?_of_kindName hkind h)
  obtain ⟨slice, hslice⟩ := List.head?_eq_some_iff.mp hc
  have hrest := scan_slice_append_rest next (scan mode cs).rest
  rw [hslice, List.cons_append] at hrest
  have hstop := (run_scan h).2
  rw [← hrest, stopsAt_cons, hp] at hstop
  cases hstop

end Step

/-! ## Places -/

/-- Whether what comes behind some tokens is in a tag: one of them opens it, and none after that closes it. -/
def InTag (before : List Token) : Prop :=
  ∃ front opener inner, before = front ++ opener :: inner ∧ opener.lexeme.isOpener = true ∧
    ∀ t ∈ inner, t.lexeme.isCloser = false

/-- The mode that some tokens lead to from the front of a text. -/
def modeBehind (before : List Token) : Mode :=
  before.foldl (fun mode t => mode.after t.lexeme) .content

theorem inTag_append_singleton {before : List Token} {t : Token} :
    InTag (before ++ [t]) ↔
      t.lexeme.isOpener = true ∨ t.lexeme.isCloser = false ∧ InTag before := by
  constructor
  · rintro ⟨front, opener, inner, heq, hopener, hinner⟩
    rcases List.eq_nil_or_concat inner with rfl | ⟨inner, last, rfl⟩
    · obtain ⟨-, hlast⟩ := List.append_inj' heq rfl
      cases hlast
      exact .inl hopener
    · rw [List.concat_eq_append, ← List.cons_append, ← List.append_assoc] at heq
      obtain ⟨hbefore, hlast⟩ := List.append_inj' heq rfl
      cases hlast
      exact .inr ⟨hinner t (by simp), front, opener, inner, hbefore, hopener, fun u hu =>
        hinner u (by simp [hu])⟩
  · rintro (hopener | ⟨hcloser, front, opener, inner, rfl, hopener, hinner⟩)
    · exact ⟨before, t, [], rfl, hopener, List.forall_mem_nil _⟩
    · refine ⟨front, opener, inner ++ [t], by simp, hopener, fun u hu => ?_⟩
      rcases List.mem_append.mp hu with hmem | hmem
      · exact hinner u hmem
      · rw [List.mem_singleton.mp hmem]
        exact hcloser

/-- The scanner is in the mode for tags inside of them. -/
theorem modeBehind_eq_tag_iff (before : List Token) : modeBehind before = .tag ↔ InTag before := by
  induction before using List.reverseRecOn with
  | nil => exact ⟨nofun, fun ⟨front, opener, inner, heq, _⟩ => by simp at heq⟩
  | append_singleton before t ih =>
      rw [inTag_append_singleton, ← ih, modeBehind, List.foldl_append, List.foldl_cons, List.foldl_nil,
        Mode.after, ← modeBehind]
      cases t.lexeme.isOpener <;> cases t.lexeme.isCloser <;> simp

namespace Scanner

variable {s : Scanner}

theorem drain_ne_nil (s : Scanner) : ∃ after, s.drain.1 = s.token :: after := by
  by_cases h : s.rest = []
  · exact ⟨[], drain_of_nil h⟩
  · exact ⟨_, drain_of_ne h⟩

/-- A token is read at a place of its own: behind what the tokens before it span, in the mode they lead to. -/
theorem exists_place {before after : List Token} {t : Token} (h : s.drain.1 = before ++ t :: after) :
    ∃ (m : Scanner) (passed : List Char), m.drain.1 = t :: after ∧ m.token = t ∧ s.rest = passed ++ m.rest ∧
      m.position = s.position + byteLength passed ∧
      m.mode = before.foldl (fun mode u => mode.after u.lexeme) s.mode := by
  induction before generalizing s with
  | nil =>
      obtain ⟨rest, hdrain⟩ := s.drain_ne_nil
      rw [hdrain] at h
      injection h with htoken hrest
      exact ⟨s, [], by rw [hdrain, htoken, hrest], htoken, rfl, rfl, rfl⟩
  | cons u before ih =>
      by_cases hne : s.rest = []
      · rw [drain_of_nil hne] at h
        simp at h
      · rw [drain_of_ne hne] at h
        injection h with htoken hrest
        obtain ⟨m, passed, hdrain, ht, hrest, hposition, hmode⟩ := ih hrest
        refine ⟨m, s.reading.slice ++ passed, hdrain, ht, ?_, ?_, ?_⟩
        · rw [List.append_assoc, ← hrest]
          exact s.rest_eq
        · rw [hposition, byteLength_append, ← Nat.add_assoc]
          rfl
        · have hadvance : s.advance.mode = s.mode.after u.lexeme := htoken ▸ mode_scan s.mode s.rest
          rw [hmode, hadvance, List.foldl_cons]

variable {t u : Token} {after : List Token}

/-- There is something left to read as long as there are more tokens. -/
theorem rest_eq_nil_iff (h : s.drain.1 = t :: after) : s.rest = [] ↔ after = [] := by
  constructor
  · intro hnil
    rw [drain_of_nil hnil] at h
    injection h with _ hafter
    exact hafter.symm
  · rintro rfl
    by_contra hne
    obtain ⟨more, hmore⟩ := s.advance.drain_ne_nil
    rw [drain_of_ne hne, hmore] at h
    simp at h

/-- The token behind another is read at the place behind it. -/
theorem token_advance (h : s.drain.1 = t :: u :: after) :
    s.token = t ∧ s.advance.token = u ∧ s.advance.drain.1 = u :: after := by
  have hne : s.rest ≠ [] := fun hnil => List.cons_ne_nil _ _ ((rest_eq_nil_iff h).mp hnil)
  rw [drain_of_ne hne] at h
  injection h with htoken hrest
  obtain ⟨more, hmore⟩ := s.advance.drain_ne_nil
  rw [hmore] at hrest
  injection hrest with hnext hafter
  exact ⟨htoken, hnext, by rw [hmore, hnext, hafter]⟩

/-- Outside tags what begins nothing known goes on to the end. -/
theorem drain_of_unknown (hmode : s.mode = .content) (h : s.token.lexeme = .unknown) :
    ∃ ended, s.drain.1 = [s.token, ended] := by
  have hne : s.rest ≠ [] := by
    intro hnil
    rw [lexeme_token_of_nil hnil] at h
    cases h
  have hnothing : s.advance.rest = [] := by
    change (scan s.mode s.rest).lexeme = .unknown at h
    show (scan s.mode s.rest).rest = []
    rw [hmode] at h ⊢
    exact (scanContent_read s.rest).spec.2.2 h
  exact ⟨s.advance.token, by rw [drain_of_ne hne, drain_of_nil hnothing]⟩

/-- Behind its byte-order mark, if it has one, a text begins. -/
theorem position_ofText (text : String) :
    (ofText text).position = if text.toList.head? = some byteOrderMark then 3 else 0 := by
  rw [ofText]
  cases text.toList with
  | nil => rfl
  | cons c cs =>
      by_cases hc : c = byteOrderMark
      · subst hc
        rfl
      · simp [hc]

theorem mode_ofText (text : String) : (ofText text).mode = .content := by
  rw [ofText]
  split
  · rfl
  · split <;> rfl

end Scanner

/-! ## Tiles -/

/-- How a token of a text stands between those before it and those after it. -/
structure Tile (text : String) (before : List Token) (t : Token) (after : List Token) : Prop where
  /-- It starts where the one before it ended, and the first one behind the byte-order mark. -/
  start_eq : t.start
    = before.getLast?.elim (if text.toList.head? = some '\uFEFF' then 3 else 0) Token.stop
  /-- Its offsets are those of a slice of the text, which tells what it is. -/
  slice : ∃ front slice back mode, text.toList = front ++ (slice ++ back) ∧
    t.start = byteLength front ∧ t.stop = byteLength (front ++ slice) ∧
    (mode = .tag ↔ InTag before) ∧ t.lexeme = .ofSlice mode slice
  /-- Each but the last spans something and is not the end. -/
  span : after ≠ [] → t.lexeme ≠ .eof ∧ t.start < t.stop
  /-- The last is the end, and spans nothing. -/
  last : after = [] → t.lexeme = .eof ∧ t.start = byteLength text.toList ∧ t.stop = byteLength text.toList
  /-- What goes on for as long as it can is not followed by more of its kind. -/
  next : t.lexeme.kindName ∈ ["Text", "Whitespace", "Name"] →
    ∀ u ∈ after.head?, u.lexeme.kindName ≠ t.lexeme.kindName
  /-- What only tags hold stands in a tag. -/
  inside : t.lexeme.isOfTag = true → InTag before
  /-- Outside tags what begins nothing known is all that is left. -/
  unknown : t.lexeme = .unknown → ¬InTag before → after.length = 1

/-- Tokens that cover a text, and are told by what they cover. -/
def Tiles (text : String) (ts : List Token) : Prop :=
  ts ≠ [] ∧ ∀ before t after, ts = before ++ t :: after → Tile text before t after

theorem exists_run? {lexeme : Lexeme} (h : lexeme.kindName ∈ ["Text", "Whitespace", "Name"]) :
    ∃ p, lexeme.run? = some p := by
  cases lexeme <;> first
    | exact ⟨_, rfl⟩
    | simp [Lexeme.kindName] at h

/-- The tokens of a text, and where each of them is read. -/
theorem exists_place_tokens {text : String} {before after : List Token} {t : Token}
    (h : tokens text = before ++ t :: after) :
    ∃ (m : Scanner) (front : List Char), m.drain.1 = t :: after ∧ m.token = t ∧
      text.toList = front ++ m.rest ∧ m.position = byteLength front ∧ m.mode = modeBehind before := by
  obtain ⟨m, passed, hdrain, ht, hrest, hposition, hmode⟩ := Scanner.exists_place h
  obtain ⟨mark, hmark, hplace⟩ := Scanner.ofText_spec text
  refine ⟨m, mark ++ passed, hdrain, ht, ?_, ?_, ?_⟩
  · rw [hmark, hrest, List.append_assoc]
  · rw [hposition, hplace, byteLength_append]
  · rw [hmode, Scanner.mode_ofText, modeBehind]

/-- A token of a text starts where the one before it ended. -/
theorem start_eq_stop {text : String} {before after : List Token} {t u : Token}
    (h : tokens text = before ++ t :: u :: after) : u.start = t.stop := by
  obtain ⟨m, -, hdrain, -⟩ := exists_place_tokens h
  obtain ⟨rfl, rfl, -⟩ := Scanner.token_advance hdrain
  rfl

theorem start_of_tokens {text : String} {before after : List Token} {t : Token}
    (h : tokens text = before ++ t :: after) :
    t.start = before.getLast?.elim (if text.toList.head? = some '\uFEFF' then 3 else 0) Token.stop := by
  rcases List.eq_nil_or_concat before with rfl | ⟨before, p, rfl⟩
  · obtain ⟨more, hmore⟩ := (Scanner.ofText text).drain_ne_nil
    rw [tokens, hmore] at h
    injection h with htoken
    rw [← htoken]
    exact Scanner.position_ofText text
  · rw [List.concat_eq_append, List.append_assoc] at h
    rw [List.concat_eq_append, List.getLast?_append_cons]
    exact start_eq_stop h

/-- **TILED**: the tokens of a text cover it from its front to its end, one behind the other. -/
theorem tokens_tile (text : String) : Tiles text (tokens text) := by
  refine ⟨?_, fun before t after h => ?_⟩
  · obtain ⟨more, hmore⟩ := (Scanner.ofText text).drain_ne_nil
    rw [tokens, hmore]
    exact List.cons_ne_nil _ _
  obtain ⟨m, front, hdrain, rfl, htext, hposition, hmode⟩ := exists_place_tokens h
  have hmodes := hmode ▸ modeBehind_eq_tag_iff before
  have hsplit : text.toList = front ++ (m.reading.slice ++ m.advance.rest) := by rw [htext, ← m.rest_eq]
  have hstop : m.token.stop = byteLength (front ++ m.reading.slice) := by
    rw [byteLength_append, ← hposition]
    rfl
  refine ⟨start_of_tokens h, ?slice, ?span, ?last, ?next, ?inside, ?unknown⟩
  case slice => exact ⟨front, _, _, m.mode, hsplit, hposition, hstop, hmodes, lexeme_scan m.mode m.rest⟩
  case span =>
    intro hafter
    have hne := mt (Scanner.rest_eq_nil_iff hdrain).mp hafter
    exact ⟨lexeme_scan_ne_eof m.mode hne, Scanner.start_lt_stop hne⟩
  case last =>
    intro hafter
    have hnil := (Scanner.rest_eq_nil_iff hdrain).mpr hafter
    obtain ⟨hslice, hrest⟩ := List.append_eq_nil_iff.mp (m.rest_eq.symm.trans hnil)
    rw [hslice, hrest, List.append_nil, List.append_nil] at hsplit
    rw [hstop, hslice, List.append_nil, hsplit]
    exact ⟨Scanner.lexeme_token_of_nil hnil, hposition, rfl⟩
  case next =>
    intro hkind u hu
    obtain ⟨p, hrun⟩ := exists_run? hkind
    obtain ⟨more, rfl⟩ := List.head?_eq_some_iff.mp hu
    obtain ⟨-, rfl, -⟩ := Scanner.token_advance hdrain
    exact kindName_scan_rest hrun m.advance.mode
  case inside => exact fun htag => hmodes.mp (mode_of_isOfTag htag)
  case unknown =>
    intro hunknown hout
    have hcontent : m.mode = .content := by
      cases hmode : m.mode with
      | content => rfl
      | tag => exact absurd (hmodes.mp hmode) hout
    obtain ⟨ended, hended⟩ := Scanner.drain_of_unknown hcontent hunknown
    rw [hended] at hdrain
    injection hdrain with _ hafter
    rw [← hafter]
    rfl

end Archetype.Markup
