import Archetype.Text.CharRef
import Mathlib.Data.Nat.Digits.Defs

/-! # Character data, written and decoded

    Character data can be written in many ways: `DataWritten quote value cs` holds of every one of them, with
    each character written as it is or as a reference, by name or by number.  Here every way to write a text
    is undone by decoding it (`decode_written`), character by character, whatever follows.

    Two facts make a reference decodable where it stands.  Its body holds no semicolon, so the next semicolon
    is its own; and it says which way it was written by its first characters, since no digit is an `x`, an `X`
    or a plus sign.  The written text holds none of the marks that would end it (`DataWritten.safe`). -/

namespace Archetype.Text

/-! ## Numerals -/

/-- A digit to a base: `0` to `9`, and `a` to `f` in either case. -/
inductive DigitWritten (base : Nat) : Nat → Char → Prop
  | lower {d : Nat} (h : d < base) : DigitWritten base d (Nat.digitChar d)
  | upper {d : Nat} (h : d < base) : DigitWritten base d (Nat.digitChar d).toUpper

/-- A number written in digits, the highest first, after any number of zeros. -/
def NumeralWritten (base n : Nat) (cs : List Char) : Prop :=
  ∃ ds : List Nat, ds ≠ [] ∧ List.Forall₂ (DigitWritten base) ds cs ∧ Nat.ofDigits base ds.reverse = n

section Numerals

variable {base : Nat}

private theorem hexDigit_digitChar : ∀ d : Fin 16,
    hexDigit (Nat.digitChar d) = some d.val ∧ hexDigit (Nat.digitChar d).toUpper = some d.val := by
  decide

theorem DigitWritten.value {d : Nat} {c : Char} (hbase : base ≤ 16) (h : DigitWritten base d c) :
    digitValue base c = some d := by
  cases h with
  | lower hd =>
      rw [digitValue, (hexDigit_digitChar ⟨d, by omega⟩).1, Option.filter_some, if_pos (by simpa using hd)]
  | upper hd =>
      rw [digitValue, (hexDigit_digitChar ⟨d, by omega⟩).2, Option.filter_some, if_pos (by simpa using hd)]

/-- What is no digit to any base is no digit that is written. -/
theorem DigitWritten.ne {d : Nat} {c other : Char} (hbase : base ≤ 16) (h : DigitWritten base d c)
    (hother : hexDigit other = none) : c ≠ other := by
  rintro rfl
  have hvalue := h.value hbase
  rw [digitValue, hother] at hvalue
  cases hvalue

theorem readDigits_written {ds : List Nat} {cs : List Char} (hbase : base ≤ 16)
    (h : List.Forall₂ (DigitWritten base) ds cs) (acc : Nat) :
    readDigits base acc cs = some (ds.foldl (fun n d => n * base + d) acc) := by
  induction h generalizing acc with
  | nil => rfl
  | cons hd _ ih =>
      rw [readDigits, hd.value hbase]
      exact ih _

theorem NumeralWritten.exists_cons {n : Nat} {cs : List Char} (h : NumeralWritten base n cs) :
    ∃ d c rest, cs = c :: rest ∧ DigitWritten base d c := by
  obtain ⟨ds, hne, hdigits, -⟩ := h
  cases hdigits with
  | nil => exact absurd rfl hne
  | cons hd _ => exact ⟨_, _, _, rfl, hd⟩

theorem NumeralWritten.ne {n : Nat} {cs : List Char} {other : Char} (hbase : base ≤ 16)
    (h : NumeralWritten base n cs) (hother : hexDigit other = none) : ∀ c ∈ cs, c ≠ other := by
  obtain ⟨ds, -, hdigits, -⟩ := h
  induction hdigits with
  | nil => exact fun c hc => nomatch hc
  | cons hd _ ih =>
      intro c hc
      rcases List.mem_cons.mp hc with rfl | hmem
      · exact hd.ne hbase hother
      · exact ih c hmem

/-- Digits are worth the same from either end. -/
theorem foldl_digits (ds : List Nat) :
    ds.foldl (fun n d => n * base + d) 0 = Nat.ofDigits base ds.reverse := by
  rw [Nat.ofDigits_eq_foldr, List.foldr_reverse]
  refine congrArg (fun f => ds.foldl f 0) (funext fun n => funext fun d => ?_)
  simp only [Nat.cast_id]
  rw [Nat.mul_comm, Nat.add_comm]

/-- A numeral is read as its number. -/
theorem NumeralWritten.readNat {n : Nat} {cs : List Char} (hbase : base ≤ 16)
    (h : NumeralWritten base n cs) : readNat base cs = some n := by
  obtain ⟨ds, hne, hdigits, hvalue⟩ := h
  have hread := readDigits_written hbase hdigits 0
  cases hdigits with
  | nil => exact absurd rfl hne
  | cons _ _ => rw [Text.readNat, hread, foldl_digits, hvalue]

end Numerals

/-! ## References -/

/-- The characters that have a name, and their names. -/
def entities : List (Char × String) :=
  [('<', "lt"), ('>', "gt"), ('&', "amp"), ('"', "quot"), ('\'', "apos")]

/-- One way to write a character, in a text or between quotes. -/
inductive CharWritten (quote : Option Char) : Char → List Char → Prop
  | literal {c : Char} (hamp : c ≠ '&') (hopen : c ≠ '<') (hquote : quote ≠ some c) :
      CharWritten quote c [c]
  | entity {c : Char} {name : String} (h : (c, name) ∈ entities) :
      CharWritten quote c ('&' :: (name.toList ++ [';']))
  | decimal {c : Char} {cs : List Char} (h : NumeralWritten 10 c.toNat cs) :
      CharWritten quote c ('&' :: ('#' :: cs ++ [';']))
  | hexadecimal {c x : Char} {cs : List Char} (hx : x = 'x' ∨ x = 'X')
      (h : NumeralWritten 16 c.toNat cs) : CharWritten quote c ('&' :: ('#' :: x :: cs ++ [';']))

/-- One way to write a text. -/
inductive DataWritten (quote : Option Char) : List Char → List Char → Prop
  | nil : DataWritten quote [] []
  | cons {c : Char} {value cs ds : List Char} (hc : CharWritten quote c cs)
      (hrest : DataWritten quote value ds) : DataWritten quote (c :: value) (cs ++ ds)

namespace CharRef

/-- A reference reaches to its own semicolon. -/
theorem read_append {body : List Char} (h : ∀ c ∈ body, c ≠ ';') (rest : List Char) :
    read (body ++ ';' :: rest) = (character body).map fun c => (c, rest) := by
  have htake : (body ++ ';' :: rest).takeWhile (· != ';') = body := by
    rw [List.takeWhile_append_of_pos (by simpa using h), List.takeWhile_cons_of_neg (by simp),
      List.append_nil]
  have hdrop : (body ++ ';' :: rest).dropWhile (· != ';') = ';' :: rest := by
    rw [List.dropWhile_append_of_pos (by simpa using h), List.dropWhile_cons_of_neg (by simp)]
  rw [read, htake, hdrop]

theorem decode_reference {body : List Char} {c : Char} (hbody : ∀ c ∈ body, c ≠ ';')
    (hc : character body = some c) (rest : List Char) :
    decode ('&' :: (body ++ [';']) ++ rest) = c :: decode rest := by
  rw [List.cons_append, List.append_assoc, List.singleton_append]
  refine decode_amp_of_read ?_
  rw [read_append hbody, hc]
  rfl

theorem ofCode_toNat (c : Char) : ofCode c.toNat = some c := by
  rw [ofCode, if_pos (show c.toNat.isValidChar from c.valid), Char.ofNat_toNat]

theorem number_written {base n : Nat} {cs : List Char} (hbase : base ≤ 16)
    (h : NumeralWritten base n cs) : number base cs = some n := by
  obtain ⟨d, c, rest, rfl, hd⟩ := h.exists_cons
  have hplus : c ≠ '+' := hd.ne hbase rfl
  rw [← h.readNat hbase, number.eq_2]
  rintro digits heq
  injection heq with hc
  exact hplus hc

theorem named_number (cs : List Char) : named ('#' :: cs) = none := by
  simp [named]

theorem character_decimal {c : Char} {cs : List Char} (h : NumeralWritten 10 c.toNat cs) :
    character ('#' :: cs) = some c := by
  obtain ⟨d, first, rest, rfl, hd⟩ := h.exists_cons
  have hlower : first ≠ 'x' := hd.ne (by decide) rfl
  have hupper : first ≠ 'X' := hd.ne (by decide) rfl
  have hcode : code ('#' :: first :: rest) = some c.toNat := by
    rw [← number_written (by decide) h, code.eq_3]
    · rintro digits heq
      injection heq with hx
      exact hlower hx
    · rintro digits heq
      injection heq with hx
      exact hupper hx
  rw [character, named_number, hcode]
  exact ofCode_toNat c

theorem character_hexadecimal {c x : Char} {cs : List Char} (hx : x = 'x' ∨ x = 'X')
    (h : NumeralWritten 16 c.toNat cs) : character ('#' :: x :: cs) = some c := by
  have hcode : code ('#' :: x :: cs) = some c.toNat := by
    rw [← number_written (by decide) h]
    rcases hx with rfl | rfl <;> rfl
  rw [character, named_number, hcode]
  exact ofCode_toNat c

theorem character_entity {c : Char} {name : String} (h : (c, name) ∈ entities) :
    character name.toList = some c := by
  simp only [entities, List.mem_cons, List.not_mem_nil, or_false, Prod.mk.injEq] at h
  rcases h with ⟨rfl, rfl⟩ | ⟨rfl, rfl⟩ | ⟨rfl, rfl⟩ | ⟨rfl, rfl⟩ | ⟨rfl, rfl⟩ <;> decide

/-! ## Decoding -/

variable {quote : Option Char}

theorem decode_charWritten {c : Char} {cs : List Char} (h : CharWritten quote c cs) (rest : List Char) :
    decode (cs ++ rest) = c :: decode rest := by
  cases h with
  | literal hamp => exact decode_cons_of_ne hamp
  | @entity name h =>
      refine decode_reference ?_ (character_entity h) rest
      have hnames : (entities.all fun entry => entry.2.toList.all (· != ';')) = true := by decide
      intro d hd
      exact bne_iff_ne.mp (List.all_eq_true.mp (List.all_eq_true.mp hnames (c, name) h) d hd)
  | decimal h =>
      refine decode_reference ?_ (character_decimal h) rest
      exact List.forall_mem_cons.mpr ⟨by decide, h.ne (by decide) rfl⟩
  | hexadecimal hx h =>
      refine decode_reference ?_ (character_hexadecimal hx h) rest
      refine List.forall_mem_cons.mpr ⟨by decide, List.forall_mem_cons.mpr ⟨?_, h.ne (by decide) rfl⟩⟩
      rcases hx with rfl | rfl <;> decide

/-- **DECODED**: however a text is written, decoding gives it back. -/
theorem decode_written {value cs : List Char} (h : DataWritten quote value cs) : decode cs = value := by
  induction h with
  | nil => exact decode_nil
  | cons hc _ ih => rw [decode_charWritten hc, ih]

end CharRef

/-! ## What is not written -/

section Safe

variable {quote : Option Char}

/-- The marks that end what is written: the `<` of a tag and, between quotes, the quote. -/
def Ends (quote : Option Char) (mark : Char) : Prop :=
  mark = '<' ∨ (quote = some mark ∧ (mark = '"' ∨ mark = '\''))

theorem CharWritten.ne_nil {c : Char} {cs : List Char} (h : CharWritten quote c cs) : cs ≠ [] := by
  cases h <;> simp

theorem CharWritten.safe {c mark : Char} {cs : List Char} (h : CharWritten quote c cs)
    (hmark : Ends quote mark) : ∀ d ∈ cs, d ≠ mark := by
  have hfacts : hexDigit mark = none ∧ mark ∉ ['&', '#', 'x', 'X', ';'] ∧
      (entities.all fun entry => entry.2.toList.all (· != mark)) = true := by
    rcases hmark with rfl | ⟨-, rfl | rfl⟩ <;> decide
  obtain ⟨hdigit, hmarks, hnames⟩ := hfacts
  simp only [List.mem_cons, List.not_mem_nil, or_false, not_or] at hmarks
  obtain ⟨hamp, hhash, hlower, hupper, hsemicolon⟩ := hmarks
  intro d hd
  cases h with
  | literal _ hopen hquote =>
      rw [List.mem_singleton.mp hd]
      rcases hmark with rfl | ⟨hmark, -⟩
      · exact hopen
      · rintro rfl
        exact hquote hmark
  | @entity name h =>
      simp only [List.mem_cons, List.mem_append, List.not_mem_nil, or_false] at hd
      rcases hd with rfl | hname | rfl
      · exact Ne.symm hamp
      · exact bne_iff_ne.mp (List.all_eq_true.mp (List.all_eq_true.mp hnames (c, name) h) d hname)
      · exact Ne.symm hsemicolon
  | decimal h =>
      simp only [List.cons_append, List.mem_cons, List.mem_append, List.not_mem_nil, or_false] at hd
      rcases hd with rfl | rfl | hdigits | rfl
      · exact Ne.symm hamp
      · exact Ne.symm hhash
      · exact h.ne (by decide) hdigit d hdigits
      · exact Ne.symm hsemicolon
  | hexadecimal hx h =>
      simp only [List.cons_append, List.mem_cons, List.mem_append, List.not_mem_nil, or_false] at hd
      rcases hd with rfl | rfl | rfl | hdigits | rfl
      · exact Ne.symm hamp
      · exact Ne.symm hhash
      · rcases hx with rfl | rfl
        · exact Ne.symm hlower
        · exact Ne.symm hupper
      · exact h.ne (by decide) hdigit d hdigits
      · exact Ne.symm hsemicolon

/-- What would end a text does not occur in it as it is written. -/
theorem DataWritten.safe {value cs : List Char} {mark : Char} (h : DataWritten quote value cs)
    (hmark : Ends quote mark) : ∀ d ∈ cs, d ≠ mark := by
  induction h with
  | nil => exact fun d hd => nomatch hd
  | cons hc _ ih =>
      intro d hd
      rcases List.mem_append.mp hd with hhead | htail
      · exact hc.safe hmark d hhead
      · exact ih d htail

theorem DataWritten.ne_nil {value cs : List Char} (h : DataWritten quote value cs) (hne : value ≠ []) :
    cs ≠ [] := by
  cases h with
  | nil => exact absurd rfl hne
  | cons hc _ => exact List.append_ne_nil_of_left_ne_nil hc.ne_nil _

end Safe

end Archetype.Text
