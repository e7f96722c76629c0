import Archetype.Datum.Yaml.Cursor
import Archetype.Text.Digits

/-!
# Reading YAML scalars

Scalars are plain, quoted, or written as blocks of lines. In plain and quoted ones the end of a line counts as
a blank, and as nothing before empty lines.

* **`Yaml.Gap`** — what stands between two words of a scalar, and the text it counts as.
* **`Yaml.plain`**, **`Yaml.quoted`**, **`Yaml.blockText`** — the text of a scalar, and the place after it.
-/

namespace Archetype.Yaml

open Text

/-! ## Between words -/

/-- What stands between two words. -/
inductive Gap
  /-- Blanks within a line, the last one first. -/
  | spaces (cs : List Char)
  /-- The ends of a line and of the empty lines after it, the last one first. -/
  | folded (ends : List Char)
  /-- The ends of the empty lines after a line whose end is escaped, the last one first. -/
  | joined (ends : List Char)
deriving DecidableEq

namespace Gap

/-- Nothing between two words. -/
def nothing : Gap :=
  spaces []

/-- The gap with one more blank, which counts only within a line. -/
def blank (c : Char) : Gap → Gap
  | spaces cs => spaces (c :: cs)
  | gap => gap

/-- The gap with one more end of a line. -/
def newline (c : Char) : Gap → Gap
  | spaces _ => folded [c]
  | folded ends => folded (c :: ends)
  | joined ends => joined (c :: ends)

/-- Whether a line ends in the gap. -/
def isBroken : Gap → Bool
  | spaces _ => false
  | _ => true

/-- What a line end and those of empty lines after it count as: a line feed is dropped where an empty line
follows and else counts as a blank, and other line ends are kept. -/
def unfold : List Char → List Char
  | ['\n'] => [' ']
  | '\n' :: ends => ends
  | ends => ends

/-- The text that the gap counts as, its last character first. -/
def reversed : Gap → List Char
  | spaces cs => cs
  | folded ends => (unfold ends.reverse).reverse
  | joined ends => ends

end Gap

/-! ## Plain scalars -/

/-- The characters that mean something between brackets. -/
def isBracketMark (c : Char) : Bool :=
  c == ',' || c == '[' || c == ']' || c == '\x7b' || c == '\x7d'

/-- Whether a plain scalar ends before a text that a gap separates it from. -/
def endsPlain (bracketed : Bool) (depth : Nat) (gap : Gap) (column : Nat) (c : Char) (cs : List Char) :
    Bool :=
  (c == '#' && gap != .nothing) ||
    (gap.isBroken &&
      (!bracketed && column < depth || column == 0 && startsMarker (c :: cs))) ||
    (c == ':' && startsBlank cs) ||
    (bracketed && isBracketMark c)

/-- Continues a plain scalar. `found` is what has been read of it, the last character first. -/
def plainFrom (bracketed : Bool) (depth : Nat) (found : List Char) (gap : Gap) (p : Place) :
    List Char → Option (String × Cursor)
  | [] => some (String.ofList found.reverse, ⟨[], p, gap.isBroken⟩)
  | c :: cs =>
    if isLineEnd c then plainFrom bracketed depth found (gap.newline c) (p.after c) cs
    else if isGapChar c then
      if c = '\t' ∧ gap.isBroken ∧ p.column < depth then none
      else plainFrom bracketed depth found (gap.blank c) (p.after c) cs
    else if endsPlain bracketed depth gap p.column c cs then
      some (String.ofList found.reverse, ⟨c :: cs, p, gap.isBroken⟩)
    else if bracketed ∧ c = ':' ∧ (cs.head?.any fun d => isBracketMark d || d == '?') then none
    else plainFrom bracketed depth (c :: (gap.reversed ++ found)) .nothing (p.after c) cs

/-- Whether a plain scalar may start with a text. -/
def startsPlain (bracketed : Bool) : List Char → Bool
  | [] => false
  | c :: cs =>
    if c = '-' then !startsBlank cs
    else if c = '?' ∨ c = ':' then !bracketed && !startsBlank cs
    else !startsBlank [c] && !isBracketMark c && !"#&*!|>'\"%@\x60".toList.contains c

/-- A plain scalar, and the place after the gap that follows it; a key may stand there if the gap ends a line.
The further lines of the scalar must be at least as deep as given, unless it stands in brackets. -/
def plain (bracketed : Bool) (depth : Nat) (c : Cursor) : Option (String × Cursor) :=
  if startsPlain bracketed c.rest then plainFrom bracketed depth [] .nothing c.place c.rest
  else none

/-! ## Quoted scalars -/

/-- The escapes of one letter between double quotes. -/
def letterEscape : Char → Option Char
  | '0' => some '\x00'
  | 'a' => some '\x07'
  | 'b' => some '\x08'
  | 't' => some '\t'
  | '\t' => some '\t'
  | 'n' => some '\n'
  | 'v' => some '\x0b'
  | 'f' => some '\x0c'
  | 'r' => some '\r'
  | 'e' => some '\x1b'
  | ' ' => some ' '
  | '"' => some '"'
  | '/' => some '/'
  | '\\' => some '\\'
  | 'N' => some '\x85'
  | '_' => some '\xa0'
  | 'L' => some '\u2028'
  | 'P' => some '\u2029'
  | _ => none

/-- The character that hexadecimal digits stand for. -/
def codeEscape (digits : List Char) : Option Char := do
  let n ← readNat 16 digits
  if n.isValidChar then return Char.ofNat n else none

/-- Continues a scalar between single quotes, in which two quotes stand for one. -/
def singleFrom (found : List Char) (gap : Gap) (p : Place) : List Char → Option (String × Cursor)
  | [] => none
  | '\'' :: '\'' :: cs =>
    singleFrom ('\'' :: (gap.reversed ++ found)) .nothing (p.afterAll ['\'', '\'']) cs
  | c :: cs =>
    if p.column = 0 ∧ startsMarker (c :: cs) then none
    else if c = '\'' then
      some (String.ofList (gap.reversed ++ found).reverse, ⟨cs, p.after c, false⟩)
    else if isLineEnd c then singleFrom found (gap.newline c) (p.after c) cs
    else if isGapChar c then singleFrom found (gap.blank c) (p.after c) cs
    else singleFrom (c :: (gap.reversed ++ found)) .nothing (p.after c) cs

/-- Continues a scalar between double quotes. -/
def doubleFrom (found : List Char) (gap : Gap) (p : Place) : List Char → Option (String × Cursor)
  | [] => none
  | '\\' :: 'x' :: c₁ :: c₂ :: cs => do
    doubleFrom ((← codeEscape [c₁, c₂]) :: (gap.reversed ++ found)) .nothing
      (p.afterAll ['\\', 'x', c₁, c₂]) cs
  | '\\' :: 'u' :: c₁ :: c₂ :: c₃ :: c₄ :: cs => do
    doubleFrom ((← codeEscape [c₁, c₂, c₃, c₄]) :: (gap.reversed ++ found)) .nothing
      (p.afterAll ['\\', 'u', c₁, c₂, c₃, c₄]) cs
  | '\\' :: 'U' :: c₁ :: c₂ :: c₃ :: c₄ :: c₅ :: c₆ :: c₇ :: c₈ :: cs => do
    let code := [c₁, c₂, c₃, c₄, c₅, c₆, c₇, c₈]
    doubleFrom ((← codeEscape code) :: (gap.reversed ++ found)) .nothing
      (p.afterAll ('\\' :: 'U' :: code)) cs
  | '\\' :: c :: cs =>
    if isLineEnd c then doubleFrom (gap.reversed ++ found) (.joined []) (p.after c) cs
    else do
      doubleFrom ((← letterEscape c) :: (gap.reversed ++ found)) .nothing (p.afterAll ['\\', c]) cs
  | c :: cs =>
    if p.column = 0 ∧ startsMarker (c :: cs) then none
    else if c = '"' then
      some (String.ofList (gap.reversed ++ found).reverse, ⟨cs, p.after c, false⟩)
    else if isLineEnd c then doubleFrom found (gap.newline c) (p.after c) cs
    else if isGapChar c then doubleFrom found (gap.blank c) (p.after c) cs
    else doubleFrom (c :: (gap.reversed ++ found)) .nothing (p.after c) cs

/-- A scalar between quotes. -/
def quoted (c : Cursor) : Option (String × Cursor) :=
  match c.rest with
  | '\'' :: cs => singleFrom [] .nothing (c.place.after '\'') cs
  | '"' :: cs => doubleFrom [] .nothing (c.place.after '"') cs
  | _ => none

/-! ## Blocks of lines -/

/-- What becomes of the line ends at the end of a block. -/
inductive Chomping
  | strip
  | clip
  | keep

/-- What the first line of a block says about it. -/
structure BlockHeader where
  folded : Bool
  chomping : Chomping := .clip
  /-- How much deeper than its surroundings the block is, if that is said. -/
  indent : Option Nat := none

/-- The marks after the sign that opens a block, at most one of each kind. -/
def blockMarks (h : BlockHeader) : List Char → Option (BlockHeader × List Char)
  | [] => some (h, [])
  | c :: cs =>
    let chomping? : Option Chomping :=
      if c = '-' then some .strip else if c = '+' then some .keep else none
    match chomping?, digitValue 10 c with
    | some chomping, _ =>
      match cs with
      | d :: rest =>
        match h.indent, digitValue 10 d with
        | none, some n => if n = 0 then none else some ({ h with chomping, indent := some n }, rest)
        | _, _ => some ({ h with chomping }, cs)
      | [] => some ({ h with chomping }, [])
    | none, some 0 => none
    | none, some n =>
      let h := { h with indent := some n }
      match cs with
      | '-' :: rest => some ({ h with chomping := .strip }, rest)
      | '+' :: rest => some ({ h with chomping := .keep }, rest)
      | _ => some (h, cs)
    | none, none => some (h, c :: cs)

/-- A line, and the character that ends it if one does. -/
abbrev Line := List Char × Option Char

/-- The lines of a text. -/
def splitLines : List Char → List Line
  | [] => [([], none)]
  | c :: cs =>
    if isLineEnd c then ([], some c) :: splitLines cs
    else
      match splitLines cs with
      | [] => [([c], none)]
      | (line, ending) :: lines => (c :: line, ending) :: lines

/-- The text of some lines. -/
def joinLines (lines : List Line) : List Char :=
  lines.flatMap fun (line, ending) => line ++ ending.toList

/-- The depth of a block: that of its first line that is not empty, but no less than that of the empty lines
before it. -/
def detectIndent (deepest : Nat) : List Line → Option Nat
  | [] => some deepest
  | (line, _) :: lines =>
    let spaces := (line.takeWhile (· == ' ')).length
    match line.drop spaces with
    | [] => detectIndent (max deepest spaces) lines
    | '\t' :: _ => none
    | _ => some (max deepest spaces)

/-- The lines of a block that have been read. -/
structure BlockLines where
  /-- The text so far, the last character first. -/
  found : List Char := []
  /-- What ended the last line that is not empty. -/
  ending : Option Char := none
  /-- The ends of the empty lines after it, the last one first. -/
  empty : List Char := []
  /-- Whether that line started with a blank. -/
  indented : Bool := false

/-- The block with one more line. In a folded block, a line end between two lines that do not start with a
blank counts as a blank, and as nothing before empty lines. -/
def BlockLines.push (b : BlockLines) (folded : Bool) (line : List Char) (ending : Option Char) :
    BlockLines :=
  let indented := line.head?.any fun c => c == ' ' || c == '\t'
  let gap :=
    if folded && b.ending == some '\n' && !b.indented && !indented then
      (Gap.folded (b.empty ++ ['\n'])).reversed
    else b.empty ++ b.ending.toList
  { found := line.reverse ++ (gap ++ b.found), ending, empty := [], indented }

/-- The text of a block. -/
def BlockLines.text (b : BlockLines) (chomping : Chomping) : String :=
  let tail := match chomping with
    | .strip => []
    | .clip => b.ending.toList
    | .keep => b.ending.toList ++ b.empty.reverse
  String.ofList (b.found.reverse ++ tail)

/-- Reads the lines of a block of the given depth, and what follows it. `number` is that of the first line. -/
def blockLines (folded : Bool) (indent number : Nat) (b : BlockLines) :
    List Line → Option (BlockLines × Cursor)
  | [] => some (b, ⟨[], ⟨number, 0, 0⟩, true⟩)
  | (line, ending) :: lines =>
    let content := line.drop indent
    let margin := line.take indent
    if margin.all (· == ' ') then
      let b :=
        if content = [] then { b with empty := ending.toList ++ b.empty }
        else b.push folded content ending
      blockLines folded indent (number + 1) b lines
    else if (margin.dropWhile (· == ' ')).head? = some '\t' then none
    else some (b, ⟨joinLines ((line, ending) :: lines), ⟨number, 0, 0⟩, true⟩)

/-- A scalar that is written as a block, at least as deep as given. A key may follow it. -/
def blockText (depth : Nat) (c : Cursor) : Option (String × Cursor) := do
  let folded ← match c.rest.head? with
    | some '|' => some false
    | some '>' => some true
    | _ => none
  let (header, rest) ← blockMarks { folded } (c.rest.drop 1)
  match splitLines rest with
  | [] => none
  | (first, _) :: lines =>
    if startsVoid first then
      let indent ← match header.indent with
        | some n => some (depth - 1 + n)
        | none => (detectIndent 0 lines).map fun n => max n (max depth 1)
      let (block, next) ← blockLines folded indent (c.place.line + 1) {} lines
      return (block.text header.chomping, next)
    else none

end Archetype.Yaml
