import Archetype.Proofs.ByteOrderMark
import Archetype.Proofs.Positions
import Archetype.Proofs.Tiling

/-! # Where a text is refused

    A text that is refused is refused at one of its tokens: the error spans from the start of that token, or of
    one that was read before it, to its end (`refused_within`).

    Most refusals look at one token alone.  Two of them, of an attribute that is there already and of a closing
    tag of another name, begin at a token that the machine has read earlier and keeps the start of; that this
    is the start of a token is told by what it has read (`Reads.refusedAt`).  That the machine comes to a token
    to refuse, and does not run out of them, is due to the last one: it goes on from no end
    (`exists_refused`). -/

namespace Archetype.Markup

open Text

variable {read ts : List Token} {t : Token} {s next last : State} {error : SyntaxError} {consumed : Bool}
  {depth : Nat}

/-! ## One step -/

/-- That an error is about a token, with the tokens read before it. -/
structure RefusedAt (read : List Token) (t : Token) (error : SyntaxError) (consumed : Bool) : Prop where
  /-- It begins where one of them does. -/
  start : ∃ u ∈ read ++ [t], error.offset = u.start
  /-- It ends where the token does. -/
  length_eq : error.length = t.stop - error.offset
  /-- The end is missed where the text ends. -/
  ended : error.fault = .unexpectedEnd → t.lexeme = .eof ∧ error.offset = t.start
  /-- The end is never taken. -/
  kept : consumed = true → t.lexeme ≠ .eof

namespace State

theorem refusedAt_unexpected {expected : Expectation} (h : s.unexpected t expected = .refuse error consumed depth) :
    RefusedAt read t error consumed := by
  cases h
  exact ⟨⟨t, by simp, rfl⟩, rfl, by rintro ⟨⟩, by rintro ⟨⟩⟩

theorem refusedAt_end (hend : t.start = t.stop) (ht : t.lexeme = .eof)
    (h : s.refuse .unexpectedEnd t.start t.start = .refuse error consumed depth) :
    RefusedAt read t error consumed := by
  cases h
  exact ⟨⟨t, by simp, rfl⟩, by simp [hend], fun _ => ⟨ht, rfl⟩, by rintro ⟨⟩⟩

theorem refusedAt_missing (hend : t.lexeme = .eof → t.start = t.stop) {expected : Lexeme}
    (h : s.missing t expected = .refuse error consumed depth) : RefusedAt read t error consumed := by
  rw [missing] at h
  split at h
  · rename_i ht
    exact refusedAt_end (hend ht) ht h
  · exact refusedAt_unexpected h

theorem refusedAt_stepContent (hend : t.lexeme = .eof → t.start = t.stop) {e : OpenElement}
    (h : s.stepContent e t = .refuse error consumed depth) : RefusedAt read t error consumed := by
  rw [stepContent] at h
  split at h
  · cases h
  · cases h
  · split at h
    · cases h
      exact ⟨⟨t, by simp, rfl⟩, rfl, by rintro ⟨⟩, by rintro ⟨⟩⟩
    · cases h
  · cases h
  · rename_i ht
    exact refusedAt_end (hend ht) ht h
  · exact refusedAt_unexpected h

end State

/-- **REFUSED**: a refusal is about the token at hand, and what was read before it. -/
theorem Reads.refusedAt (hread : Reads read s) (hend : t.lexeme = .eof → t.start = t.stop)
    (h : s.step t = .refuse error consumed depth) : RefusedAt read t error consumed := by
  rw [State.step.eq_def] at h
  cases hread with
  | prolog =>
      dsimp only at h
      split at h
      · split at h
        · cases h
        · exact State.refusedAt_unexpected h
      · cases h
      · exact State.refusedAt_unexpected h
  | epilog =>
      dsimp only at h
      split at h
      · split at h
        · cases h
        · exact State.refusedAt_unexpected h
      · cases h
      · exact State.refusedAt_missing hend h
  | within houter hhere hdepth =>
      cases hhere with
      | opening =>
          dsimp only at h
          split at h
          · cases h
          · exact State.refusedAt_unexpected h
      | tag =>
          dsimp only at h
          split at h
          · cases h
          · rw [State.complete_eq] at h
            cases h
          · cases h
          · exact State.refusedAt_missing hend h
      | attributeName =>
          dsimp only at h
          split at h
          · cases h
          · exact State.refusedAt_missing hend h
      | @attributeEquals us n m as start name equals htag hname hequals =>
          dsimp only at h
          split at h
          · rename_i value ht
            split at h
            · cases h
              -- from the name of the attribute to its value
              exact ⟨⟨name, by simp, rfl⟩, rfl, by rintro ⟨⟩, fun _ => by simp [ht]⟩
            · cases h
          · exact State.refusedAt_unexpected h
      | content => exact State.refusedAt_stepContent hend h
      | closing =>
          dsimp only at h
          split at h
          · cases h
          · exact State.refusedAt_unexpected h
      | @closingName us e n opening name hopen hopening hname =>
          dsimp only at h
          split at h
          · split at h
            · rw [State.complete_eq] at h
              cases h
            · exact State.refusedAt_missing hend h
          · cases h
            -- from the opener of the closing tag to what follows its name
            exact ⟨⟨opening, by simp, rfl⟩, rfl, by rintro ⟨⟩, by rintro ⟨⟩⟩

/-! ## A run -/

theorem Reads.moves (hread : Reads read s) (h : Moves s ts last) : Reads (read ++ ts) last := by
  induction h generalizing read with
  | refl => rwa [List.append_nil]
  | cons hstep _ ih =>
      have hmore := ih (hread.step hstep)
      rwa [List.append_assoc, List.singleton_append] at hmore

/-- What is gone on from is not the end. -/
theorem Moves.lexeme_ne_eof (h : Moves s ts last) : ∀ t ∈ ts, t.lexeme ≠ .eof := by
  induction h with
  | refl => exact List.forall_mem_nil _
  | cons hstep _ ih =>
      exact List.forall_mem_cons.mpr ⟨fun ht => State.step_eof_ne_next _ _ ht hstep, ih⟩

/-- A run over tokens of which the last is the end is refused at one of them, if it is refused, and does not
    take the last. -/
theorem exists_refused {size : Nat} {final : Token} (hfinal : final.lexeme = .eof)
    (h : (run size s (ts ++ [final])).outcome = .error error) :
    ∃ read t after last consumed depth, ts ++ [final] = read ++ t :: after ∧ Moves s read last ∧
      last.step t = .refuse error consumed depth ∧
      (run size s (ts ++ [final])).unread = if consumed then after else t :: after := by
  induction ts generalizing s with
  | nil =>
      rw [List.nil_append] at h ⊢
      rw [run] at h ⊢
      split at h
      · rename_i next hstep
        exact absurd hstep (State.step_eof_ne_next s next hfinal)
      · cases h
      · rename_i consumed depth hstep
        cases h
        exact ⟨[], final, [], s, consumed, depth, rfl, .refl s, hstep, rfl⟩
  | cons t rest ih =>
      rw [List.cons_append] at h ⊢
      rw [run] at h ⊢
      split at h
      · rename_i next hstep
        obtain ⟨read, u, after, last, consumed, depth, hsplit, hmoves, hrefuse, hunread⟩ := ih h
        refine ⟨t :: read, u, after, last, consumed, depth, ?_, .cons hstep hmoves, hrefuse, hunread⟩
        rw [hsplit, List.cons_append]
      · cases h
      · rename_i consumed depth hstep
        cases h
        exact ⟨[], t, rest ++ [final], s, consumed, depth, rfl, .refl s, hstep, rfl⟩

/-! ## Texts -/

/-- How a text is refused at a token, with the tokens before it and behind it. -/
structure Refusal (text : String) (error : SyntaxError) (read : List Token) (t : Token) (after : List Token) :
    Prop where
  tokens_eq : Parser.significant text = read ++ t :: after
  /-- The machine goes on from the tokens before it, and refuses it. -/
  refused : ∃ s consumed depth, Moves (.initial 0) read s ∧ s.step t = .refuse error consumed depth
  /-- The end is none of the tokens it goes on from, and is left unread. -/
  unread : (∀ u ∈ read, u.lexeme ≠ .eof) ∧
    ∃ rest final, (Parser.ofText text).document.2.unread = rest ++ [final] ∧ final.lexeme = .eof
  /-- The error begins where the token does, or one before it. -/
  start : ∃ u ∈ read ++ [t], error.offset = u.start
  /-- It ends where the token does. -/
  stop : error.offset + error.length = t.stop
  /-- The end is missed where the text ends. -/
  ended : error.fault = .unexpectedEnd → error.offset = byteLength text.toList ∧ error.length = 0

/-- A token that matters starts and ends between characters, and the end does so behind all of them. -/
theorem exists_slice_of_significant {text : String} (ht : t ∈ Parser.significant text) :
    ∃ front slice back, text.toList = front ++ (slice ++ back) ∧ t.start = byteLength front ∧
      t.stop = byteLength (front ++ slice) ∧
      (t.lexeme = .eof → t.start = byteLength text.toList ∧ t.stop = byteLength text.toList) := by
  obtain ⟨before, after, hsplit⟩ := List.append_of_mem (List.mem_filter.mp ht).1
  have htile := (tokens_tile text).2 before t after hsplit
  obtain ⟨front, slice, back, -, htext, hstart, hstop, -⟩ := htile.slice
  refine ⟨front, slice, back, htext, hstart, hstop, fun hend => ?_⟩
  have hlast : after = [] := by
    by_contra hne
    exact (htile.span hne).1 hend
  exact (htile.last hlast).2

theorem start_le_stop {text : String} (ht : t ∈ Parser.significant text) : t.start ≤ t.stop := by
  obtain ⟨front, slice, -, -, hstart, hstop, -⟩ := exists_slice_of_significant ht
  rw [hstart, hstop, byteLength_append]
  exact Nat.le_add_right _ _

/-- No token that is read starts behind where the one at hand ends. -/
theorem start_le_of_read {text : String} {after : List Token} {u : Token}
    (h : Parser.significant text = read ++ t :: after) (hu : u ∈ read ++ [t]) : u.start ≤ t.stop := by
  have hmem : t ∈ Parser.significant text := h ▸ List.mem_append_right _ List.mem_cons_self
  have ht := start_le_stop hmem
  rcases List.mem_append.mp hu with hread | hsame
  · have hordered := (Scanner.ofText text).ordered_significant.1
    rw [← Parser.significant_eq, h, List.pairwise_append] at hordered
    have hbefore := hordered.2.2 u hread t List.mem_cons_self
    have hin : u ∈ Parser.significant text := h ▸ List.mem_append_left _ hread
    have hspan := start_le_stop hin
    omega
  · rw [List.mem_singleton.mp hsame]
    exact ht

/-- What is left of tokens that end with one still does, unless nothing is. -/
theorem exists_eq_append {us : List Token} {final : Token} (h : ts ++ [final] = read ++ us) (hne : us ≠ []) :
    ∃ rest, us = rest ++ [final] := by
  obtain ⟨rest, other, rfl⟩ := (List.eq_nil_or_concat us).resolve_left hne
  rw [List.concat_eq_append, ← List.append_assoc] at h
  obtain ⟨-, hlast⟩ := List.append_inj' h rfl
  exact ⟨rest, by rw [List.concat_eq_append, hlast]⟩

/-- The end is left unread, unless it is taken. -/
theorem exists_unread {after : List Token} {final : Token} (h : ts ++ [final] = read ++ t :: after)
    (hkept : consumed = true → t ≠ final) :
    ∃ rest, (if consumed then after else t :: after) = rest ++ [final] := by
  cases consumed with
  | false => exact exists_eq_append h (List.cons_ne_nil t after)
  | true =>
      have hne : after ≠ [] := by
        rintro rfl
        obtain ⟨-, hlast⟩ := List.append_inj' h rfl
        exact hkept rfl (List.singleton_inj.mp hlast).symm
      have hbehind : ts ++ [final] = (read ++ [t]) ++ after := by
        rw [h, List.append_assoc, List.singleton_append]
      exact exists_eq_append hbehind hne

/-- **WHERE**: a text that is refused is refused at one of its tokens. -/
theorem exists_refusal {text : String} (h : parse text = .error error) :
    ∃ read t after, Refusal text error read t after := by
  obtain ⟨ts, final, hsplit, hfinal, hne⟩ := (Scanner.ofText text).significant_eq_append_eof
  rw [← Parser.significant_eq] at hsplit
  have hrun : (run (Parser.ofText text).size (.initial 0) (ts ++ [final])).outcome = .error error := hsplit ▸ h
  obtain ⟨read, t, after, s, consumed, depth, htokens, hmoves, hrefuse, hunread⟩ := exists_refused hfinal hrun
  have hsignificant : Parser.significant text = read ++ t :: after := hsplit.trans htokens
  have hinitial : Reads [] (.initial 0) := .prolog (List.forall_mem_nil _)
  have hmem : t ∈ Parser.significant text := hsignificant ▸ List.mem_append_right _ List.mem_cons_self
  obtain ⟨-, -, -, -, -, -, hend⟩ := exists_slice_of_significant hmem
  have hat := (hinitial.moves hmoves).refusedAt (fun ht => (hend ht).1.trans (hend ht).2.symm) hrefuse
  rw [List.nil_append] at hat
  obtain ⟨u, hu, hoffset⟩ := hat.start
  have hstop : error.offset + error.length = t.stop := by
    have hle := start_le_of_read hsignificant hu
    rw [hat.length_eq, hoffset]
    omega
  refine ⟨read, t, after, hsignificant, ⟨s, consumed, depth, hmoves, hrefuse⟩, ⟨hmoves.lexeme_ne_eof, ?unread⟩,
    ⟨u, hu, hoffset⟩, hstop, ?ended⟩
  case unread =>
    obtain ⟨rest, hrest⟩ := exists_unread htokens fun htaken hlast => hat.kept htaken (hlast ▸ hfinal)
    refine ⟨rest, final, ?_, hfinal⟩
    rw [← hrest, ← hunread, ← hsplit]
    rfl
  case ended =>
    intro hfault
    obtain ⟨ht, hstart⟩ := hat.ended hfault
    obtain ⟨htext, htext'⟩ := hend ht
    omega

/-- Of two pieces that a text begins with, the shorter one is at the front of the longer one. -/
theorem prefix_of_byteLength_le {front back cs : List Char} (hfront : front <+: cs) (hback : back <+: cs)
    (h : byteLength front ≤ byteLength back) : front <+: back := by
  rcases List.prefix_or_prefix_of_prefix hfront hback with hle | ⟨more, rfl⟩
  · exact hle
  · rw [byteLength_append] at h
    cases more with
    | nil => exact ⟨[], by rw [List.append_nil, List.append_nil]⟩
    | cons c more =>
        have := c.utf8Size_pos
        rw [byteLength_cons] at h
        omega

/-- What an error spans is a slice of the text. -/
theorem Refusal.exists_slice {text : String} {after : List Token} (h : Refusal text error read t after) :
    ∃ front slice back, text.toList = front ++ (slice ++ back) ∧ error.offset = byteLength front ∧
      error.offset + error.length = byteLength (front ++ slice) := by
  obtain ⟨u, hu, hoffset⟩ := h.start
  have hu' : u ∈ Parser.significant text := by
    rw [h.tokens_eq, ← List.singleton_append, ← List.append_assoc]
    exact List.mem_append_left _ hu
  have ht : t ∈ Parser.significant text := h.tokens_eq ▸ List.mem_append_right _ List.mem_cons_self
  obtain ⟨front, inner, behind, hfront, hstart, -⟩ := exists_slice_of_significant hu'
  obtain ⟨before, last, back, hback, -, hstop, -⟩ := exists_slice_of_significant ht
  have hprefix : front <+: before ++ last :=
    prefix_of_byteLength_le ⟨inner ++ behind, hfront.symm⟩ ⟨back, by rw [hback, List.append_assoc]⟩
      (by rw [← hstart, ← hstop]; exact start_le_of_read h.tokens_eq hu)
  obtain ⟨slice, hslice⟩ := hprefix
  refine ⟨front, slice, back, ?_, hoffset.trans hstart, ?_⟩
  · rw [hback, ← List.append_assoc, ← hslice, List.append_assoc]
  · rw [h.stop, hstop, hslice]

end Archetype.Markup

namespace Archetype.Session

open Markup Text

/-- **REFUSED WITHIN**: a text that is refused is refused at one of its tokens, before its end is taken, and the
    error spans from the start of that token, or of one that is read before it, to its end, which is a slice of
    the text.  So the document gives no definitions and one error, on a line of the text. -/
theorem refused_within {text : String} {error : SyntaxError} (h : Markup.parse text = .error error)
    (registry : Registry) (options : Options) (preferred name : String) :
    (∃ read t after, Refusal text error read t after) ∧
    (∃ front slice back, text.toList = front ++ (slice ++ back) ∧ error.offset = byteLength front ∧
      error.offset + error.length = byteLength (front ++ slice)) ∧
    error.offset + error.length ≤ byteLength text.toList ∧
    (stage registry options preferred ⟨name, text⟩).value = [] ∧
    ∃ line message, (stage registry options preferred ⟨name, text⟩).journal.diagnostics
        = [⟨.error, .malformedNode, name, line, message⟩] ∧
      0 < line ∧ line ≤ text.toList.count '\n' + 1 := by
  obtain ⟨read, t, after, hrefusal⟩ := exists_refusal h
  obtain ⟨front, slice, back, htext, hfront, hslice⟩ := hrefusal.exists_slice
  have hstage : stage registry options preferred ⟨name, text⟩ = do
      Noted.report .error .malformedNode name ((Lines.ofText text).line error.offset)
        s!"document skipped: {error.fault.message}: {error.fault.detail}"
      return [] := by
    rw [stage, h]
  refine ⟨⟨read, t, after, hrefusal⟩, ⟨front, slice, back, htext, hfront, hslice⟩, ?length,
    by rw [hstage]; rfl, _, _, by rw [hstage]; rfl, ?first, ?last⟩
  case length =>
    rw [hslice, htext, ← List.append_assoc, byteLength_append _ back]
    exact Nat.le_add_right _ _
  case first =>
    rw [Lines.line_eq_count]
    exact Nat.succ_pos _
  case last =>
    rw [← Lines.length_starts]
    exact List.countP_le_length

theorem eq_error_of_map {ε α β : Type} {m : Except ε α} {f : α → β} {e : ε} (h : m.map f = .error e) :
    m = .error e := by
  cases m with
  | error other => exact congrArg Except.error (Except.error.inj h)
  | ok a => cases h

/-- A document that sets an attribute twice, on its second line. -/
def doubled : String :=
  "<a>\n<b x='é' x='2'/></a>"

theorem doubled_refused :
    Markup.parse doubled = .error ⟨.duplicateAttribute "x", 14, 5⟩ ∧
    (∃ read t after, Refusal doubled ⟨.duplicateAttribute "x", 14, 5⟩ read t after) ∧
    (∃ front slice back, doubled.toList = front ++ (slice ++ back) ∧ 14 = byteLength front ∧
      14 + 5 = byteLength (front ++ slice)) ∧
    14 + 5 ≤ byteLength doubled.toList ∧
    (stage ⟨[], .empty⟩ {} "" ⟨"a.xml", doubled⟩).value = [] ∧
    ∃ line message, (stage ⟨[], .empty⟩ {} "" ⟨"a.xml", doubled⟩).journal.diagnostics
        = [⟨.error, .malformedNode, "a.xml", line, message⟩] ∧
      0 < line ∧ line ≤ doubled.toList.count '\n' + 1 := by
  have hchecked : (Markup.parse doubled).map (fun _ => ()) = .error ⟨.duplicateAttribute "x", 14, 5⟩ := by
    decide +kernel
  have hrefused := eq_error_of_map hchecked
  exact ⟨hrefused, refused_within hrefused ⟨[], .empty⟩ {} "" "a.xml"⟩

end Archetype.Session
