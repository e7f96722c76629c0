import Archetype.Datum.Yaml.Cursor
import Archetype.Text.Digits

/-!
# Tags

A tag says what a node is meant as. It is written in full between angle brackets, or as a handle and a suffix;
a document gives each handle that it uses a beginning, except for the two that every document knows.

* **`Yaml.uri`** — the octets of a tag or of the beginning of one, some of them written as two hexadecimal digits.
* **`Yaml.TagMark.read`** — a tag as it is written.
* **`Yaml.TagMark.resolve`** — the tag that is meant.
-/

namespace Archetype.Yaml

open Text

/-- The characters of names and of handles. -/
def isNameChar (c : Char) : Bool :=
  c.isAlphanum || c == '_' || c == '-'

/-! ## Octets -/

/-- The octets of a tag. -/
abbrev Octets := List UInt8

/-- The octets of a text. -/
def octets (s : String) : Octets :=
  s.toUTF8.toList

/-- The characters that stand in a tag as themselves. In full tags, brackets and commas do too. -/
def isUriChar (full : Bool) (c : Char) : Bool :=
  isNameChar c || ";/?:@&=+$.!~*'()".toList.contains c || full && ",[]".toList.contains c

/-- How many octets a character takes that starts with the given one. -/
def sequenceLength (octet : Nat) : Option Nat :=
  if octet < 0x80 then some 1
  else if 0xC0 ≤ octet ∧ octet < 0xE0 then some 2
  else if 0xE0 ≤ octet ∧ octet < 0xF0 then some 3
  else if 0xF0 ≤ octet ∧ octet < 0xF8 then some 4
  else none

/-- How many octets are to follow an escaped one, where `pending` were still to come. -/
def pendingAfter (pending octet : Nat) : Option Nat :=
  match pending with
  | 0 => (sequenceLength octet).map (· - 1)
  | n + 1 => if 0x80 ≤ octet ∧ octet < 0xC0 then some n else none

/-- Continues a row of octets. An escaped character must be escaped as a whole: `pending` octets of one are
still to come. -/
def uriFrom (full : Bool) (pending : Nat) (found : Octets) : List Char → Option (Octets × List Char)
  | '%' :: high :: low :: cs => do
    let octet ← readNat 16 [high, low]
    uriFrom full (← pendingAfter pending octet) (octet.toUInt8 :: found) cs
  | c :: cs =>
    if pending ≠ 0 ∨ c = '%' then none
    else if isUriChar full c then uriFrom full 0 (c.toNat.toUInt8 :: found) cs
    else some (found.reverse, c :: cs)
  | [] => if pending = 0 then some (found.reverse, []) else none

/-- The octets that a text starts with, and the text after them. -/
def uri (full : Bool) (cs : List Char) : Option (Octets × List Char) :=
  uriFrom full 0 [] cs

/-- `uri`, where at least one octet is required. -/
def uri₁ (full : Bool) (cs : List Char) : Option (Octets × List Char) :=
  (uri full cs).filter fun (found, _) => !found.isEmpty

/-- The octets before the first that is zero. -/
def beforeZero (xs : Octets) : Octets :=
  xs.takeWhile (· != 0)

/-! ## Tags as they are written -/

/-- A tag as it is written. A tag in full has an empty handle. -/
structure TagMark where
  handle : String
  suffix : Octets
deriving DecidableEq, Repr

namespace TagMark

/-- The tag that asks for what a node would be anyway. -/
def own : TagMark :=
  ⟨"", octets "!"⟩

/-- The tag after its exclamation mark, and the text after the tag. What looks like the start of a handle
belongs to the suffix where no second exclamation mark ends it. -/
def read : List Char → Option (TagMark × List Char)
  | '<' :: cs => do
    let (suffix, rest) ← uri₁ true cs
    if rest.head? = some '>' then return (⟨"", beforeZero suffix⟩, rest.drop 1) else none
  | cs => do
    let letters := cs.takeWhile isNameChar
    match cs.dropWhile isNameChar with
    | '!' :: cs =>
      let (suffix, rest) ← uri₁ false cs
      return (⟨String.ofList ('!' :: (letters ++ ['!'])), beforeZero suffix⟩, rest)
    | cs =>
      let (found, rest) ← uri false cs
      let suffix := beforeZero (octets (String.ofList letters) ++ found)
      return (if suffix.isEmpty then own else ⟨"!", suffix⟩, rest)

end TagMark

/-! ## What tags mean -/

/-- What handles stand for. Of two entries for a handle, the first counts. -/
abbrev Handles := List (String × Octets)

/-- The handles that every document knows. -/
def commonHandles : Handles :=
  [("!", octets "!"), ("!!", octets "tag:yaml.org,2002:")]

/-- The tag that is meant, if its handle is known. -/
def TagMark.resolve (handles : Handles) (t : TagMark) : Option Octets :=
  if t.handle = "" then some t.suffix
  else ((handles ++ commonHandles).lookup t.handle).map (· ++ t.suffix)

/-- The tag of truth values. -/
def truthTag : Octets :=
  octets "tag:yaml.org,2002:bool"

end Archetype.Yaml
