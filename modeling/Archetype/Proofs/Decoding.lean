import Archetype.Proofs.CharacterData

/-! # References, read from left to right

    The body of a reference is looked for up to the next semicolon, wherever that is, and then asked what it
    stands for.  A grammar says the same without looking ahead: `Reference c written` holds of the ways to
    write a reference to `c`, and `Scanned` is the scan that goes from left to right, takes a reference where
    one begins and copies every other character.

    The two differ in one thing.  A number may be given a plus sign, which the grammar does not know.  So
    decoding is the scan exactly on the texts in which no reference has a sign (`decoded_scans`); and on all
    texts it is the scan that takes those references too.

    What makes the look-ahead harmless is that no reference has an `&` or a semicolon inside: where one begins,
    the next semicolon is its own, and no other one begins in it. -/

namespace Archetype.Text

/-! ## What is read as a number -/

section Numerals

variable {base : Nat}

private theorem ofNat_digit : ∀ d : Fin 10, Char.ofNat ('0'.toNat + d) = Nat.digitChar d := by decide

private theorem ofNat_lower : ∀ d : Fin 6, Char.ofNat ('a'.toNat + d) = Nat.digitChar (10 + d) := by decide

private theorem ofNat_upper : ∀ d : Fin 6, Char.ofNat ('A'.toNat + d) = (Nat.digitChar (10 + d)).toUpper := by
  decide

/-- The characters from one on, by how far they are from it. -/
private theorem exists_offset {first last c : Char} (h : first ≤ c ∧ c ≤ last) :
    ∃ d ≤ last.toNat - first.toNat, c = Char.ofNat (first.toNat + d) ∧ c.toNat - first.toNat = d := by
  have hfirst : first.toNat ≤ c.toNat := h.1
  have hlast : c.toNat ≤ last.toNat := h.2
  refine ⟨c.toNat - first.toNat, by omega, ?_, rfl⟩
  rw [Nat.add_sub_cancel' hfirst, Char.ofNat_toNat]

theorem digitWritten_of_hexDigit {c : Char} {d : Nat} (h : hexDigit c = some d) (hd : d < base) :
    DigitWritten base d c := by
  rw [hexDigit] at h
  split at h
  · rename_i hrange
    obtain ⟨e, he, hc, hvalue⟩ := exists_offset hrange
    rw [hvalue] at h
    cases h
    rw [hc, ofNat_digit ⟨d, Nat.lt_succ_of_le he⟩]
    exact .lower hd
  split at h
  · rename_i hrange
    obtain ⟨e, he, hc, hvalue⟩ := exists_offset hrange
    rw [hvalue, Nat.add_comm] at h
    cases h
    rw [hc, ofNat_lower ⟨e, Nat.lt_succ_of_le he⟩]
    exact .lower hd
  split at h
  · rename_i hrange
    obtain ⟨e, he, hc, hvalue⟩ := exists_offset hrange
    rw [hvalue, Nat.add_comm] at h
    cases h
    rw [hc, ofNat_upper ⟨e, Nat.lt_succ_of_le he⟩]
    exact .upper hd
  · cases h

theorem digitWritten_of_value {c : Char} {d : Nat} (h : digitValue base c = some d) :
    DigitWritten base d c :=
  digitWritten_of_hexDigit (Option.filter_eq_some_iff.mp h).1 (lt_of_digitValue h)

theorem exists_digits_of_readDigits {acc n : Nat} {cs : List Char} (h : readDigits base acc cs = some n) :
    ∃ ds : List Nat, List.Forall₂ (DigitWritten base) ds cs ∧ ds.foldl (fun n d => n * base + d) acc = n := by
  induction cs generalizing acc with
  | nil => exact ⟨[], .nil, Option.some.inj h⟩
  | cons c cs ih =>
      rw [readDigits] at h
      split at h
      · rename_i d hd
        obtain ⟨ds, hds, hn⟩ := ih h
        exact ⟨d :: ds, .cons (digitWritten_of_value hd) hds, hn⟩
      · cases h

/-- What is read as a number is written as that number. -/
theorem numeralWritten_of_readNat {n : Nat} {cs : List Char} (h : readNat base cs = some n) :
    NumeralWritten base n cs := by
  cases cs with
  | nil => cases h
  | cons c cs =>
      obtain ⟨ds, hds, hn⟩ := exists_digits_of_readDigits h
      refine ⟨ds, ?_, hds, ?_⟩
      · rintro rfl
        cases hds
      · rw [← foldl_digits, hn]

end Numerals

/-! ## The grammar -/

/-- One way to refer to a character by its number, in decimal or hexadecimal digits behind a sign. -/
inductive NumberReference (sign : List Char) (c : Char) : List Char → Prop
  | decimal {cs : List Char} (h : NumeralWritten 10 c.toNat cs) :
      NumberReference sign c ('&' :: ('#' :: (sign ++ cs) ++ [';']))
  | hexadecimal {x : Char} {cs : List Char} (hx : x = 'x' ∨ x = 'X') (h : NumeralWritten 16 c.toNat cs) :
      NumberReference sign c ('&' :: ('#' :: x :: (sign ++ cs) ++ [';']))

/-- One way to refer to a character: by its name, or by its number. -/
inductive Reference (c : Char) : List Char → Prop
  | entity {name : String} (h : (c, name) ∈ entities) : Reference c ('&' :: (name.toList ++ [';']))
  | number {cs : List Char} (h : NumberReference [] c cs) : Reference c cs

/-- A reference whose number has a plus sign. -/
def SignedReference (c : Char) (cs : List Char) : Prop :=
  NumberReference ['+'] c cs

/-- A reference of the grammar, or one with a sign. -/
def LaxReference (c : Char) (cs : List Char) : Prop :=
  Reference c cs ∨ SignedReference c cs

/-- A text in which no reference has a sign. -/
def Unsigned (cs : List Char) : Prop :=
  ∀ c written, SignedReference c written → ¬written <:+: cs

/-- The scan from left to right, by what counts as a reference: where one begins, its character is put down
    and the scan goes on behind it; any other character is copied, an `&` at which none begins too. -/
inductive Scanned (refers : Char → List Char → Prop) : List Char → List Char → Prop
  | done : Scanned refers [] []
  | copied {c : Char} {cs out : List Char} (hamp : c ≠ '&') (hrest : Scanned refers cs out) :
      Scanned refers (c :: cs) (c :: out)
  | reference {c : Char} {written cs out : List Char} (hwritten : refers c written)
      (hrest : Scanned refers cs out) : Scanned refers (written ++ cs) (c :: out)
  | stray {cs out : List Char} (hstray : ∀ c written, refers c written → ¬written <+: '&' :: cs)
      (hrest : Scanned refers cs out) : Scanned refers ('&' :: cs) ('&' :: out)

/-- What has no `&` in it is put down as it is. -/
theorem Scanned.append {refers : Char → List Char → Prop} {front cs out : List Char}
    (hfront : ∀ c ∈ front, c ≠ '&') (h : Scanned refers cs out) :
    Scanned refers (front ++ cs) (front ++ out) := by
  induction front with
  | nil => exact h
  | cons c front ih =>
      obtain ⟨hc, hrest⟩ := List.forall_mem_cons.mp hfront
      exact .copied hc (ih hrest)

namespace CharRef

/-! ## Bodies -/

/-- What a reference has between its `&` and its semicolon: neither of the two, and something that stands
    for the character. -/
structure IsBody (c : Char) (body : List Char) : Prop where
  character : character body = some c
  semicolon : ∀ d ∈ body, d ≠ ';'
  ampersand : ∀ d ∈ body, d ≠ '&'

theorem IsBody.closed {c : Char} {body : List Char} (h : IsBody c body) : ∀ d ∈ body ++ [';'], d ≠ '&' := by
  rw [List.forall_mem_append]
  exact ⟨h.ampersand, List.forall_mem_singleton.mpr (by decide)⟩

theorem isBody_entity {c : Char} {name : String} (h : (c, name) ∈ entities) : IsBody c name.toList := by
  have hnames : (entities.all fun entry => entry.2.toList.all fun d => d != ';' && d != '&') = true := by
    decide
  have hname := List.all_eq_true.mp (List.all_eq_true.mp hnames (c, name) h)
  refine ⟨character_entity h, fun d hd => ?_, fun d hd => ?_⟩
  · exact bne_iff_ne.mp (Bool.and_eq_true_iff.mp (hname d hd)).1
  · exact bne_iff_ne.mp (Bool.and_eq_true_iff.mp (hname d hd)).2

/-- A plus sign in front of a number changes nothing. -/
theorem number_signed {base n : Nat} {sign cs : List Char} (hsign : sign = [] ∨ sign = ['+'])
    (hbase : base ≤ 16) (h : NumeralWritten base n cs) : number base (sign ++ cs) = some n := by
  rcases hsign with rfl | rfl
  · exact number_written hbase h
  · exact h.readNat hbase

theorem isBody_number {c : Char} {sign written : List Char} (hsign : sign = [] ∨ sign = ['+'])
    (h : NumberReference sign c written) :
    ∃ body, written = '&' :: (body ++ [';']) ∧ IsBody c body := by
  have hplain : ∀ mark ∈ [';', '&'], ∀ d ∈ sign, d ≠ mark := by
    rcases hsign with rfl | rfl <;> simp
  -- neither mark is a digit or anything else that stands in a body
  have hsafe {base n : Nat} {cs : List Char} (hbase : base ≤ 16) (hcs : NumeralWritten base n cs) :
      ∀ mark ∈ [';', '&'], ∀ d ∈ sign ++ cs, d ≠ mark := by
    intro mark hmark d hd
    have hdigit : hexDigit mark = none := by
      simp only [List.mem_cons, List.not_mem_nil, or_false] at hmark
      rcases hmark with rfl | rfl <;> rfl
    rcases List.mem_append.mp hd with hin | hin
    · exact hplain mark hmark d hin
    · exact hcs.ne hbase hdigit d hin
  cases h with
  | @decimal cs h =>
      have hmarks := hsafe (by decide) h
      refine ⟨'#' :: (sign ++ cs), rfl, ?_, ?_, ?_⟩
      · rcases hsign with rfl | rfl
        · exact character_decimal h
        · have hcode : code ('#' :: (['+'] ++ cs)) = some c.toNat := by
            rw [← number_signed (Or.inr rfl) (by decide) h]
            rfl
          rw [character, named_number, hcode]
          exact ofCode_toNat c
      · exact List.forall_mem_cons.mpr ⟨by decide, hmarks ';' (by decide)⟩
      · exact List.forall_mem_cons.mpr ⟨by decide, hmarks '&' (by decide)⟩
  | @hexadecimal x cs hx h =>
      have hmarks := hsafe (by decide) h
      have hmark : x ≠ ';' ∧ x ≠ '&' := by
        rcases hx with rfl | rfl <;> decide
      refine ⟨'#' :: x :: (sign ++ cs), rfl, ?_, ?_, ?_⟩
      · have hcode : code ('#' :: x :: (sign ++ cs)) = some c.toNat := by
          rw [← number_signed hsign (by decide) h]
          rcases hx with rfl | rfl <;> rfl
        rw [character, named_number, hcode]
        exact ofCode_toNat c
      · exact List.forall_mem_cons.mpr ⟨by decide, List.forall_mem_cons.mpr ⟨hmark.1, hmarks ';' (by decide)⟩⟩
      · exact List.forall_mem_cons.mpr ⟨by decide, List.forall_mem_cons.mpr ⟨hmark.2, hmarks '&' (by decide)⟩⟩

/-- Every reference has a body. -/
theorem exists_body {c : Char} {written : List Char} (h : LaxReference c written) :
    ∃ body, written = '&' :: (body ++ [';']) ∧ IsBody c body := by
  rcases h with (h | h) | h
  · exact ⟨_, rfl, isBody_entity h⟩
  · exact isBody_number (Or.inl rfl) h
  · exact isBody_number (Or.inr rfl) h

theorem mem_entities_of_named {body : List Char} {c : Char} (h : named body = some c) :
    ∃ name, (c, name) ∈ entities ∧ body = name.toList := by
  unfold named at h
  repeat' split at h
  all_goals cases h
  all_goals refine ⟨_, ?_, ‹body = String.toList _›⟩
  all_goals decide

theorem toNat_of_ofCode {n : Nat} {c : Char} (h : ofCode n = some c) : n = c.toNat := by
  rw [ofCode] at h
  split at h
  · rename_i hvalid
    rw [← Option.some.inj h, Char.ofNat, dif_pos hvalid]
    rfl
  · cases h

/-- A number is read from digits, or from digits behind a plus sign. -/
theorem exists_sign_of_number {base n : Nat} {cs : List Char} (h : number base cs = some n) :
    ∃ sign digits, (sign = [] ∨ sign = ['+']) ∧ cs = sign ++ digits ∧ NumeralWritten base n digits := by
  rw [number.eq_def] at h
  split at h
  · exact ⟨['+'], _, Or.inr rfl, rfl, numeralWritten_of_readNat h⟩
  · exact ⟨[], _, Or.inl rfl, rfl, numeralWritten_of_readNat h⟩

/-- What stands for a character is the body of a reference to it. -/
theorem laxReference_of_character {body : List Char} {c : Char} (h : character body = some c) :
    LaxReference c ('&' :: (body ++ [';'])) := by
  have hnumber {sign cs : List Char} (hsign : sign = [] ∨ sign = ['+']) (h : NumberReference sign c cs) :
      LaxReference c cs := by
    rcases hsign with rfl | rfl
    · exact Or.inl (.number h)
    · exact Or.inr h
  rw [character] at h
  split at h
  · rename_i d hnamed
    cases h
    obtain ⟨name, hname, rfl⟩ := mem_entities_of_named hnamed
    exact Or.inl (.entity hname)
  · obtain ⟨n, hcode, hc⟩ := Option.bind_eq_some_iff.mp h
    cases toNat_of_ofCode hc
    rw [code.eq_def] at hcode
    split at hcode
    · obtain ⟨sign, digits, hsign, rfl, hdigits⟩ := exists_sign_of_number hcode
      exact hnumber hsign (.hexadecimal (Or.inl rfl) hdigits)
    · obtain ⟨sign, digits, hsign, rfl, hdigits⟩ := exists_sign_of_number hcode
      exact hnumber hsign (.hexadecimal (Or.inr rfl) hdigits)
    · obtain ⟨sign, digits, hsign, rfl, hdigits⟩ := exists_sign_of_number hcode
      exact hnumber hsign (.decimal hdigits)
    · cases hcode

/-! ## Reading without looking ahead -/

/-- **READ**: what is read behind an `&` is the reference that begins there. -/
theorem read_eq_some_iff {cs rest : List Char} {c : Char} :
    read cs = some (c, rest) ↔ ∃ written, LaxReference c written ∧ '&' :: cs = written ++ rest := by
  constructor
  · intro h
    rw [read] at h
    split at h
    · cases h
    · rename_i mark more hmore
      obtain ⟨d, hbody, heq⟩ := Option.map_eq_some_iff.mp h
      cases heq
      -- the body goes on to the first semicolon
      have hmark : mark = ';' := by
        have hstop := List.head?_dropWhile_not (· != ';') cs
        rw [hmore] at hstop
        simpa using hstop
      have hcs := List.takeWhile_append_dropWhile (p := (· != ';')) (l := cs)
      rw [hmore, hmark] at hcs
      refine ⟨_, laxReference_of_character hbody, ?_⟩
      rw [List.cons_append, List.append_assoc, List.singleton_append, hcs]
  · rintro ⟨written, hwritten, heq⟩
    obtain ⟨body, rfl, hbody⟩ := exists_body hwritten
    rw [List.cons_append, List.append_assoc, List.singleton_append] at heq
    rw [List.tail_eq_of_cons_eq heq, read_append hbody.semicolon, hbody.character]
    rfl

theorem read_eq_none_iff {cs : List Char} :
    read cs = none ↔ ∀ c written, LaxReference c written → ¬written <+: '&' :: cs := by
  constructor
  · rintro h c written hwritten ⟨rest, heq⟩
    rw [read_eq_some_iff.mpr ⟨written, hwritten, heq.symm⟩] at h
    cases h
  · intro h
    rw [Option.eq_none_iff_forall_ne_some]
    rintro ⟨c, rest⟩ hread
    obtain ⟨written, hwritten, heq⟩ := read_eq_some_iff.mp hread
    exact h c written hwritten ⟨rest, heq.symm⟩

theorem decode_reference_append {c : Char} {written : List Char} (h : LaxReference c written)
    (rest : List Char) : decode (written ++ rest) = c :: decode rest := by
  obtain ⟨body, rfl, -⟩ := exists_body h
  exact decode_amp_of_read (read_eq_some_iff.mpr ⟨_, h, rfl⟩)

/-- What has no `&` in it is copied. -/
theorem decode_append {cs : List Char} (h : ∀ c ∈ cs, c ≠ '&') (rest : List Char) :
    decode (cs ++ rest) = cs ++ decode rest := by
  induction cs with
  | nil => rfl
  | cons c cs ih =>
      obtain ⟨hc, hcs⟩ := List.forall_mem_cons.mp h
      rw [List.cons_append, decode_cons_of_ne hc, ih hcs, List.cons_append]

/-! ## The scan -/

section Scan

variable {refers : Char → List Char → Prop}

/-- Where the same references begin as are read, the scan puts down what decoding does. -/
theorem scanned_iff {cs : List Char} (hlax : ∀ c written, refers c written → LaxReference c written)
    (hknown : ∀ c written, LaxReference c written → written <:+: cs → refers c written)
    {out : List Char} : Scanned refers cs out ↔ out = decode cs := by
  constructor
  · intro h
    induction h with
    | done => exact decode_nil.symm
    | @copied c cs out hamp hrest ih =>
        rw [decode_cons_of_ne hamp]
        refine congrArg (c :: ·) (ih fun d written hwritten hin => hknown d written hwritten ?_)
        exact hin.trans (List.suffix_cons c cs).isInfix
    | @reference c written cs out hwritten hrest ih =>
        rw [decode_reference_append (hlax c written hwritten)]
        refine congrArg (c :: ·) (ih fun d other hother hin => hknown d other hother ?_)
        exact hin.trans (List.suffix_append _ cs).isInfix
    | @stray cs out hstray hrest ih =>
        have hnone : read cs = none := read_eq_none_iff.mpr fun c written hwritten hin =>
          hstray c written (hknown c written hwritten hin.isInfix) hin
        rw [decode_amp_of_not_read hnone]
        refine congrArg ('&' :: ·) (ih fun d written hwritten hin => hknown d written hwritten ?_)
        exact hin.trans (List.suffix_cons '&' cs).isInfix
  · rintro rfl
    induction cs using decode.induct with
    | case1 =>
        rw [decode_nil]
        exact .done
    | case2 cs d rest hread _ ih =>
        obtain ⟨written, hwritten, heq⟩ := read_eq_some_iff.mp hread
        rw [decode_amp_of_read hread]
        rw [heq] at hknown ⊢
        refine .reference (hknown d written hwritten (List.prefix_append written rest).isInfix) (ih ?_)
        exact fun e other hother hin => hknown e other hother (hin.trans (List.suffix_append _ rest).isInfix)
    | case3 cs hread ih =>
        rw [decode_amp_of_not_read hread]
        refine .stray (fun c written hwritten => read_eq_none_iff.mp hread c written (hlax c written hwritten))
          (ih ?_)
        exact fun e other hother hin => hknown e other hother (hin.trans (List.suffix_cons '&' cs).isInfix)
    | case4 c cs hamp ih =>
        rw [decode_cons_of_ne hamp]
        refine .copied hamp (ih ?_)
        exact fun e other hother hin => hknown e other hother (hin.trans (List.suffix_cons c cs).isInfix)

/-- Where nothing counts as a reference, everything is copied. -/
theorem scanned_self (cs : List Char) : Scanned (fun _ _ => False) cs cs := by
  induction cs with
  | nil => exact .done
  | cons c cs ih =>
      by_cases hamp : c = '&'
      · subst hamp
        exact .stray (fun _ _ h => h.elim) ih
      · exact .copied hamp ih

end Scan

/-! ## Signs -/

section Signs

variable {cs : List Char}

theorem mem_of_signed {c : Char} {written : List Char} (h : SignedReference c written) : '+' ∈ written := by
  cases h <;> simp

theorem not_mem_of_reference {c : Char} {written : List Char} (h : Reference c written) :
    '+' ∉ written := by
  have hnames : (entities.all fun entry => entry.2.toList.all (· != '+')) = true := by decide
  have hdigits {base n : Nat} {cs : List Char} (hbase : base ≤ 16) (hn : NumeralWritten base n cs) :
      '+' ∉ cs := fun hin => hn.ne hbase rfl '+' hin rfl
  intro hin
  cases h with
  | @entity name h =>
      have hname := List.all_eq_true.mp hnames (c, name) h
      simp only [List.mem_cons, List.mem_append, List.not_mem_nil, or_false] at hin
      rcases hin with heq | hin | heq
      · cases heq
      · exact bne_iff_ne.mp (List.all_eq_true.mp hname '+' hin) rfl
      · cases heq
  | number h =>
      cases h with
      | decimal h =>
          simp only [List.nil_append, List.cons_append, List.mem_cons, List.mem_append, List.not_mem_nil,
            or_false] at hin
          rcases hin with heq | heq | hin | heq
          · cases heq
          · cases heq
          · exact hdigits (by decide) h hin
          · cases heq
      | hexadecimal hx h =>
          simp only [List.nil_append, List.cons_append, List.mem_cons, List.mem_append, List.not_mem_nil,
            or_false] at hin
          rcases hin with heq | heq | rfl | hin | heq
          · cases heq
          · cases heq
          · rcases hx with heq | heq <;> cases heq
          · exact hdigits (by decide) h hin
          · cases heq

/-- Only one reference begins at an `&`. -/
theorem eq_of_append_eq {c d : Char} {written other rest more : List Char} (h : LaxReference c written)
    (k : LaxReference d other) (heq : written ++ rest = other ++ more) : written = other := by
  obtain ⟨body, hbody, -⟩ := exists_body h
  have hread : read (body ++ [';'] ++ rest) = some (c, rest) :=
    read_eq_some_iff.mpr ⟨written, h, by rw [hbody]; rfl⟩
  have hread' : read (body ++ [';'] ++ rest) = some (d, more) :=
    read_eq_some_iff.mpr ⟨other, k, by rw [← heq, hbody]; rfl⟩
  cases hread.symm.trans hread'
  exact List.append_cancel_right heq

/-- A reference begins with its `&`, so it lies behind what has none. -/
theorem infix_of_append {c : Char} {written front : List Char} (h : LaxReference c written)
    (hfront : ∀ d ∈ front, d ≠ '&') (hin : written <:+: front ++ cs) : written <:+: cs := by
  obtain ⟨body, rfl, -⟩ := exists_body h
  induction front with
  | nil => exact hin
  | cons d front ih =>
      obtain ⟨hd, hrest⟩ := List.forall_mem_cons.mp hfront
      rcases List.infix_cons_iff.mp hin with hprefix | hlater
      · exact absurd (List.cons_prefix_cons.mp hprefix).1.symm hd
      · exact ih hrest hlater

/-- The scan puts down no less than decoding does, and more wherever a reference has a sign. -/
theorem length_scanned {out : List Char} (h : Scanned Reference cs out) :
    (decode cs).length ≤ out.length ∧ ((decode cs).length = out.length → Unsigned cs) := by
  induction h with
  | done =>
      refine ⟨Nat.le_of_eq (by rw [decode_nil]), fun _ c written hsigned hin => ?_⟩
      rw [List.infix_nil.mp hin] at hsigned
      cases hsigned
  | @copied c cs out hamp hrest ih =>
      obtain ⟨hle, hunsigned⟩ := ih
      rw [decode_cons_of_ne hamp, List.length_cons, List.length_cons]
      refine ⟨by omega, fun hlength d written hsigned hin => ?_⟩
      have hfront : ∀ e ∈ [c], e ≠ '&' := by simpa using hamp
      exact hunsigned (by omega) d written hsigned (infix_of_append (Or.inr hsigned) hfront hin)
  | @reference c written cs out hwritten hrest ih =>
      obtain ⟨hle, hunsigned⟩ := ih
      rw [decode_reference_append (Or.inl hwritten), List.length_cons, List.length_cons]
      refine ⟨by omega, fun hlength d other hsigned hin => ?_⟩
      obtain ⟨body, rfl, hbody⟩ := exists_body (Or.inl hwritten)
      rcases List.infix_cons_iff.mp hin with hprefix | hlater
      · obtain ⟨more, heq⟩ := hprefix
        rw [eq_of_append_eq (Or.inr hsigned) (Or.inl hwritten) heq] at hsigned
        exact absurd (mem_of_signed hsigned) (not_mem_of_reference hwritten)
      · exact hunsigned (by omega) d other hsigned (infix_of_append (Or.inr hsigned) hbody.closed hlater)
  | @stray cs out hstray hrest ih =>
      obtain ⟨hle, hunsigned⟩ := ih
      cases hread : read cs with
      | none =>
          rw [decode_amp_of_not_read hread, List.length_cons, List.length_cons]
          refine ⟨by omega, fun hlength d written hsigned hin => ?_⟩
          rcases List.infix_cons_iff.mp hin with hprefix | hlater
          · exact read_eq_none_iff.mp hread d written (Or.inr hsigned) hprefix
          · exact hunsigned (by omega) d written hsigned hlater
      | some found =>
          obtain ⟨d, rest⟩ := found
          -- the reference has a sign, and all of it is copied
          obtain ⟨written, hwritten, heq⟩ := read_eq_some_iff.mp hread
          obtain ⟨body, rfl, hbody⟩ := exists_body hwritten
          have hcs : cs = (body ++ [';']) ++ rest := List.tail_eq_of_cons_eq heq
          rw [decode_amp_of_read hread, List.length_cons, List.length_cons]
          rw [hcs, decode_append hbody.closed, List.length_append, List.length_append,
            List.length_singleton] at hle
          exact ⟨by omega, fun hlength => by omega⟩

end Signs

/-- **SCANNED**: decoding a text is the scan from left to right that takes the references of the grammar and
    those whose number has a sign.  So it is the scan by the grammar alone exactly on texts without signs;
    what stands for a character is never decoded again; and where no reference begins, nothing changes. -/
theorem decoded_scans (text : String) :
    (∀ out, Scanned LaxReference text.toList out ↔ out = (decoded text).toList) ∧
    (Unsigned text.toList ↔
      ∀ out, Scanned Reference text.toList out ↔ out = (decoded text).toList) ∧
    (∀ c written rest, Reference c written → text.toList = written ++ rest →
      (decoded text).toList = c :: (decoded (String.ofList rest)).toList) ∧
    ((∀ c written, LaxReference c written → ¬written <:+: text.toList) → decoded text = text) := by
  simp only [decoded, String.toList_ofList]
  refine ⟨fun out => scanned_iff (fun _ _ h => h) (fun _ _ h _ => h), ⟨?_, ?_⟩, ?_, ?_⟩
  · intro hunsigned out
    refine scanned_iff (fun _ _ h => Or.inl h) fun c written hwritten hin => ?_
    exact hwritten.resolve_right fun hsigned => hunsigned c written hsigned hin
  · intro hscans
    exact (length_scanned ((hscans _).mpr rfl)).2 rfl
  · intro c written rest hwritten htext
    rw [htext, decode_reference_append (Or.inl hwritten)]
  · intro hnone
    have hcopied := (scanned_iff (fun _ _ h => h.elim) fun c written hwritten hin =>
      hnone c written hwritten hin).mp (scanned_self text.toList)
    rw [← hcopied, String.ofList_toList]

example : decoded "&amp;lt; &bogus;" = "&lt; &bogus;" := by cbv

/-- The grammar knows no number with a sign, and leaves what looks like one as it is. -/
theorem plus_sign_dropped :
    Scanned Reference "&#+65;".toList "&#+65;".toList ∧ decoded "&#+65;" = "A" := by
  have hsigned : SignedReference 'A' "&#+65;".toList := by
    have hdigits : NumeralWritten 10 'A'.toNat ['6', '5'] :=
      ⟨[6, 5], by decide, .cons (.lower (by decide)) (.cons (.lower (by decide)) .nil), rfl⟩
    exact .decimal hdigits
  refine ⟨.stray ?_ ?_, ?_⟩
  · rintro c written hwritten ⟨rest, heq⟩
    have hsame : written = "&#+65;".toList :=
      eq_of_append_eq (Or.inl hwritten) (Or.inr hsigned) (heq.trans (List.append_nil _).symm)
    exact not_mem_of_reference hwritten (hsame ▸ mem_of_signed hsigned)
  · have hfront : ∀ c ∈ "#+65;".toList, c ≠ '&' := by simp
    exact Scanned.done.append hfront
  · have hdecoded := decode_reference_append (Or.inr hsigned) []
    rw [List.append_nil, decode_nil] at hdecoded
    rw [decoded, hdecoded]

end CharRef

end Archetype.Text
