import Archetype.Text.Digits

/-!
# Character references

In text and attribute values a character may be written as a reference between `&` and `;`: by one of
five names, or by its number.

* **`character`** — the character a reference body stands for: `lt`, `gt`, `amp`, `quot`, `apos`,
  `#` with a decimal number, or `#x` or `#X` with a hexadecimal one. A number may carry a plus sign and
  must be the code of a character.
* **`decode`** — the text with every reference replaced. The body of a reference reaches to the next
  semicolon, wherever that is; an `&` whose body stands for no character is kept, and decoding goes on
  with the character after it. So what has been decoded is never decoded again.
-/

namespace Archetype.Text.CharRef

/-- The characters that can be referred to by name. -/
def named (body : List Char) : Option Char :=
  if body = "lt".toList then some '<'
  else if body = "gt".toList then some '>'
  else if body = "amp".toList then some '&'
  else if body = "quot".toList then some '"'
  else if body = "apos".toList then some '\''
  else none

/-- A number with an optional plus sign. -/
def number (base : Nat) : List Char → Option Nat
  | '+' :: digits => readNat base digits
  | digits => readNat base digits

/-- The number written in a numeric reference body. -/
def code : List Char → Option Nat
  | '#' :: 'x' :: digits => number 16 digits
  | '#' :: 'X' :: digits => number 16 digits
  | '#' :: digits => number 10 digits
  | _ => none

/-- The character with the given code; surrogates and codes past the last plane have none. -/
def ofCode (n : Nat) : Option Char :=
  if n.isValidChar then some (Char.ofNat n) else none

/-- The character a reference body stands for. -/
def character (body : List Char) : Option Char :=
  match named body with
  | some c => some c
  | none => (code body).bind ofCode

/-- Reads a reference whose `&` has been read: its character and the text after its semicolon. -/
def read (cs : List Char) : Option (Char × List Char) :=
  match cs.dropWhile (· != ';') with
  | [] => none
  | _ :: rest => (character (cs.takeWhile (· != ';'))).map fun c => (c, rest)

/-- Reading a reference takes at least its semicolon. -/
theorem length_lt_of_read {cs rest : List Char} {c : Char} (h : read cs = some (c, rest)) :
    rest.length < cs.length := by
  have hlen : (cs.dropWhile (· != ';')).length ≤ cs.length :=
    (List.dropWhile_sublist _).length_le
  unfold read at h
  split at h
  · cases h
  · rename_i head tail heq
    obtain ⟨d, -, hd⟩ := Option.map_eq_some_iff.1 h
    cases hd
    rw [heq] at hlen
    exact hlen

/-- The text with every reference replaced by its character. -/
def decode : List Char → List Char
  | [] => []
  | c :: cs =>
    if c = '&' then
      match h : read cs with
      | some (d, rest) =>
        have := length_lt_of_read h
        d :: decode rest
      | none => '&' :: decode cs
    else c :: decode cs
termination_by cs => cs.length

/-- `decode` on strings. -/
def decoded (s : String) : String :=
  String.ofList (decode s.toList)

@[simp] theorem decode_nil : decode [] = [] := by
  simp [decode]

/-- A character other than `&` is copied. -/
theorem decode_cons_of_ne {c : Char} {cs : List Char} (h : c ≠ '&') :
    decode (c :: cs) = c :: decode cs := by
  simp [decode, h]

/-- A reference gives its character. -/
theorem decode_amp_of_read {cs rest : List Char} {c : Char} (h : read cs = some (c, rest)) :
    decode ('&' :: cs) = c :: decode rest := by
  rw [decode]
  simp only [if_true]
  split
  · rename_i heq; rw [h] at heq; cases heq; rfl
  · rename_i heq; rw [h] at heq; cases heq

/-- An `&` that begins no reference is kept. -/
theorem decode_amp_of_not_read {cs : List Char} (h : read cs = none) :
    decode ('&' :: cs) = '&' :: decode cs := by
  rw [decode]
  simp only [if_true]
  split
  · rename_i heq; rw [h] at heq; cases heq
  · rfl

end Archetype.Text.CharRef
