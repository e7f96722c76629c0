import Archetype.Markup.Token
import Archetype.Text.Blank
import Archetype.Text.Bytes
import Archetype.Text.CharRef
import Archetype.Text.Letter
import Archetype.Text.Mark

/-!
# Scanning

A text is cut into tokens from left to right. Outside tags the scanner is in content mode; `<` and
`</` switch it to tag mode, `>` and `/>` back.

* **`Reading`** — one lexeme cut off the front of a text: the slice it spans, the text after it and the
  mode the scanner is in afterwards.
* **`scanContent`**, **`scanTag`** — the reading at the front of a text in either mode.
  `scan_slice_append_rest` says that slice and rest make up the text, and `slice_scan_ne_nil` that a
  text that has not ended yields a slice of at least one character.
* **`Scanner`** — a text partly read. `Scanner.next` gives one token, and `Scanner.drain` all tokens up to
  and including the end of the text.
-/

namespace Archetype.Markup

open Text

/-- A name starts with a letter, an underscore or a colon. -/
def isNameStart (c : Char) : Bool :=
  isLetter c || c == '_' || c == ':'

/-- A name goes on with letters, numbers, underscores, colons, hyphens and dots. -/
def isNameChar (c : Char) : Bool :=
  isLetterOrNumber c || c == '_' || c == ':' || c == '-' || c == '.'

/-- Which lexemes the scanner looks for. -/
inductive Mode
  | content
  | tag
deriving DecidableEq, Repr

/-- One lexeme cut off the front of a text. -/
structure Reading where
  lexeme : Lexeme
  /-- The text the lexeme spans. -/
  slice : List Char
  /-- The text after it. -/
  rest : List Char
  /-- The mode in which the rest is read. -/
  mode : Mode

/-! ## Content -/

/-- A part of the content that reaches from an opening mark to the next closing mark. -/
structure Section where
  opening : List Char
  closing : List Char
  /-- What the part is, given the text between the marks. -/
  lexeme : List Char → Lexeme

/-- The sections of content. The longer opening marks stand before the ones that begin them. -/
def Section.kinds : List Section :=
  [⟨"<!--".toList, "-->".toList, fun body => .comment (String.ofList (trim body))⟩,
   ⟨"<![CDATA[".toList, "]]>".toList, fun body => .cdata (String.ofList body)⟩,
   ⟨"<?".toList, "?>".toList, fun _ => .declaration⟩,
   ⟨"<!".toList, ">".toList, fun _ => .declaration⟩]

/-- The kind of section that begins here, and the text after its opening mark. -/
def Section.at? (cs : List Char) : Option (Section × List Char) :=
  Section.kinds.findSome? fun kind => (dropMark kind.opening cs).map fun rest => (kind, rest)

/-- Reads a section whose opening mark has been read. One that is never closed takes the rest of the
text and is unknown. -/
def Section.read (kind : Section) (cs : List Char) : Reading :=
  match splitAtMark kind.closing cs with
  | some (body, rest) =>
    ⟨kind.lexeme body, kind.opening ++ body ++ kind.closing, rest, .content⟩
  | none => ⟨.unknown, kind.opening ++ cs, [], .content⟩

/-- Reads what stands at the front of a text outside tags: a section, the opener of a tag, or the
character data up to the next `<`. -/
def scanContent (cs : List Char) : Reading :=
  match Section.at? cs with
  | some (kind, rest) => kind.read rest
  | none =>
    match cs with
    | [] => ⟨.eof, [], [], .content⟩
    | '<' :: '/' :: rest => ⟨.closeTagOpen, ['<', '/'], rest, .tag⟩
    | '<' :: rest => ⟨.tagOpen, ['<'], rest, .tag⟩
    | cs =>
      let data := cs.takeWhile (· != '<')
      ⟨.text (String.ofList (CharRef.decode data)), data, cs.dropWhile (· != '<'), .content⟩

/-! ## Tags -/

/-- Reads an attribute value whose opening quote has been read. A value holds no `<`; one that is not
closed before a `<` or the end of the text is unknown. -/
def scanValue (quote : Char) (cs : List Char) : Reading :=
  let raw := cs.takeWhile fun c => c != quote && c != '<'
  match cs.dropWhile fun c => c != quote && c != '<' with
  | [] => ⟨.unknown, quote :: raw, [], .tag⟩
  | c :: rest =>
    if c = quote then
      ⟨.attrValue (String.ofList (CharRef.decode raw)), quote :: (raw ++ [quote]), rest, .tag⟩
    else ⟨.unknown, quote :: raw, c :: rest, .tag⟩

/-- Reads what stands at the front of a text inside a tag. -/
def scanTag : List Char → Reading
  | [] => ⟨.eof, [], [], .tag⟩
  | c :: cs =>
    if c = '>' then ⟨.tagClose, [c], cs, .content⟩
    else if c = '/' then
      match cs with
      | '>' :: rest => ⟨.emptyTagClose, ['/', '>'], rest, .content⟩
      | cs => ⟨.unknown, ['/'], cs, .tag⟩
    else if c = '=' then ⟨.equals, [c], cs, .tag⟩
    else if c = '"' ∨ c = '\'' then scanValue c cs
    else if isBlank c then
      ⟨.whitespace, c :: cs.takeWhile isBlank, cs.dropWhile isBlank, .tag⟩
    else if isNameStart c then
      let name := c :: cs.takeWhile isNameChar
      ⟨.name (String.ofList name), name, cs.dropWhile isNameChar, .tag⟩
    else ⟨.unknown, [c], cs, .tag⟩

/-- Reads what stands at the front of a text. -/
def scan : Mode → List Char → Reading
  | .content => scanContent
  | .tag => scanTag

/-! ## What a reading spans -/

theorem Section.at?_eq_some {cs rest : List Char} {kind : Section}
    (h : Section.at? cs = some (kind, rest)) :
    kind ∈ Section.kinds ∧ cs = kind.opening ++ rest := by
  obtain ⟨found, hmem, hfound⟩ := List.exists_of_findSome?_eq_some h
  obtain ⟨rest', hdrop, heq⟩ := Option.map_eq_some_iff.1 hfound
  cases heq
  exact ⟨hmem, dropMark_eq_some_iff.1 hdrop⟩

theorem Section.slice_append_rest (kind : Section) (cs : List Char) :
    (kind.read cs).slice ++ (kind.read cs).rest = kind.opening ++ cs := by
  unfold Section.read
  split
  · rename_i body rest h
    simp [eq_of_splitAtMark h]
  · simp

theorem scanContent_slice_append_rest (cs : List Char) :
    (scanContent cs).slice ++ (scanContent cs).rest = cs := by
  unfold scanContent
  split
  · rename_i kind rest h
    rw [Section.slice_append_rest, ← (Section.at?_eq_some h).2]
  · split <;> simp

theorem scanValue_slice_append_rest (quote : Char) (cs : List Char) :
    (scanValue quote cs).slice ++ (scanValue quote cs).rest = quote :: cs := by
  unfold scanValue
  have hcs := List.takeWhile_append_dropWhile (p := fun c => c != quote && c != '<') (l := cs)
  split
  · rename_i h
    rw [h] at hcs
    simpa using hcs
  · rename_i c rest h
    rw [h] at hcs
    split
    · rename_i hc
      subst hc
      simpa using hcs
    · simpa using hcs

theorem scanTag_slice_append_rest (cs : List Char) :
    (scanTag cs).slice ++ (scanTag cs).rest = cs := by
  cases cs with
  | nil => rfl
  | cons c cs =>
    simp only [scanTag]
    repeat' split
    all_goals first
      | exact scanValue_slice_append_rest c cs
      | simp_all

/-- Nothing is lost: the slice and the rest make up the text. -/
theorem scan_slice_append_rest (mode : Mode) (cs : List Char) :
    (scan mode cs).slice ++ (scan mode cs).rest = cs := by
  cases mode
  · exact scanContent_slice_append_rest cs
  · exact scanTag_slice_append_rest cs

theorem Section.opening_ne_nil {kind : Section} (h : kind ∈ Section.kinds) : kind.opening ≠ [] := by
  simp only [Section.kinds, List.mem_cons, List.not_mem_nil, or_false] at h
  rcases h with rfl | rfl | rfl | rfl <;> simp

theorem slice_scanContent_ne_nil {cs : List Char} (h : cs ≠ []) : (scanContent cs).slice ≠ [] := by
  unfold scanContent
  split
  · rename_i kind rest hat
    have hopening := Section.opening_ne_nil (Section.at?_eq_some hat).1
    unfold Section.read
    split <;> simp [hopening]
  · split
    · exact absurd rfl h
    · simp
    · simp
    · rename_i hopen hclose
      cases cs with
      | nil => exact absurd rfl h
      | cons c cs =>
        have hc : c ≠ '<' := fun hc => hclose cs (by rw [hc])
        simp [hc]

theorem slice_scanTag_ne_nil {cs : List Char} (h : cs ≠ []) : (scanTag cs).slice ≠ [] := by
  cases cs with
  | nil => exact absurd rfl h
  | cons c cs =>
    simp only [scanTag, scanValue]
    repeat' split
    all_goals simp

/-- As long as the text has not ended, a reading spans something. -/
theorem slice_scan_ne_nil (mode : Mode) {cs : List Char} (h : cs ≠ []) :
    (scan mode cs).slice ≠ [] := by
  cases mode
  · exact slice_scanContent_ne_nil h
  · exact slice_scanTag_ne_nil h

/-- A reading leaves less to read. -/
theorem length_rest_scan_lt (mode : Mode) {cs : List Char} (h : cs ≠ []) :
    (scan mode cs).rest.length < cs.length := by
  have hlen := congrArg List.length (scan_slice_append_rest mode cs)
  have hpos := List.length_pos_iff.2 (slice_scan_ne_nil mode h)
  rw [List.length_append] at hlen
  omega

/-! ## The scanner -/

/-- A text partly read: what is left, the byte offset of its front, and the mode it is read in. -/
structure Scanner where
  rest : List Char
  position : Nat
  mode : Mode

namespace Scanner

/-- A byte-order mark at the front of a document is not part of what it says. -/
def byteOrderMark : Char := '\uFEFF'

/-- The scanner at the front of a document, after its byte-order mark if it has one. Offsets count the
mark. -/
def ofText (text : String) : Scanner :=
  match text.toList with
  | [] => ⟨[], 0, .content⟩
  | c :: cs =>
    if c = byteOrderMark then ⟨cs, c.utf8Size, .content⟩ else ⟨c :: cs, 0, .content⟩

/-- The reading at the scanner's place. -/
def reading (s : Scanner) : Reading :=
  scan s.mode s.rest

/-- The token at the scanner's place. -/
def token (s : Scanner) : Token :=
  ⟨s.reading.lexeme, s.position, s.position + byteLength s.reading.slice⟩

/-- The scanner after the token at its place. -/
def advance (s : Scanner) : Scanner :=
  ⟨s.reading.rest, s.position + byteLength s.reading.slice, s.reading.mode⟩

/-- Gives one token. At the end of the text it gives the end again and again. -/
def next (s : Scanner) : Token × Scanner :=
  (s.token, s.advance)

/-- Gives all tokens, the last of them the end of the text. -/
def drain (s : Scanner) : List Token × Scanner :=
  if h : s.rest = [] then ([s.token], s.advance)
  else
    have : s.advance.rest.length < s.rest.length := length_rest_scan_lt s.mode h
    let (tokens, final) := s.advance.drain
    (s.token :: tokens, final)
termination_by s.rest.length

end Scanner

/-- The tokens of a document. -/
def tokens (text : String) : List Token :=
  (Scanner.ofText text).drain.1

end Archetype.Markup
