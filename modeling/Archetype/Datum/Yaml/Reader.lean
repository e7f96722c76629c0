import Archetype.Datum.Yaml.Scanner
import Archetype.Datum.Yaml.Tree

/-!
# Reading YAML

A text is read as one document. What stands in a block is told by the tokens that the columns give rise to; only
the hyphens of a list may stand right below the key of the list, with no tokens around them.

* **`Yaml.Reader.node`** — the node that the tokens start with.
* **`Yaml.Reader.document`** — the node that all tokens make up.
* **`Yaml.read`** — the tree of a text that holds one document.
-/

namespace Archetype.Yaml

namespace Reader

/-! ## Tokens to read -/

/-- The tokens that are left, and the names that nodes have been given. -/
structure Feed where
  tokens : List Token
  names : Names := []

/-- The tokens after the first one. -/
def Feed.rest (f : Feed) : Feed :=
  { f with tokens := f.tokens.drop 1 }

/-- Whether the next token is one of the given ones. -/
def Feed.at (f : Feed) (tokens : List Token) : Bool :=
  f.tokens.head?.any tokens.contains

/-- The number and the tag that stand before a node. -/
structure Properties where
  number : Option Nat := none
  tag : Option Octets := none

/-- Whether nothing stands before a node. -/
def Properties.isEmpty (p : Properties) : Bool :=
  p.number.isNone && p.tag.isNone

/-- The node with the number that stands before it, if one does. -/
def Properties.apply (p : Properties) (node : Tree) : Tree :=
  match p.number with
  | some number => .named number node
  | none => node

/-- The number of a node, whose name is the next token if it has one. -/
def number (f : Feed) : Option Nat × Feed :=
  match f.tokens with
  | .anchor name :: tokens => (some f.names.nextNumber, ⟨tokens, f.names.give name⟩)
  | _ => (none, f)

/-- The tag of a node, which is the next token if it has one. The handle of the tag must be known. -/
def tag (handles : Handles) (f : Feed) : Option (Option Octets × Feed) :=
  match f.tokens with
  | .tag mark :: tokens => (mark.resolve handles).map fun tag => (some tag, { f with tokens })
  | _ => some (none, f)

/-- The name and the tag that stand before a node, each at most once and in either order. -/
def properties (handles : Handles) (f : Feed) : Option (Properties × Feed) := do
  let (first, f) := number f
  let (tag, f) ← tag handles f
  match first with
  | some number => return (⟨some number, tag⟩, f)
  | none =>
    let (number, f) := if tag.isSome then number f else (none, f)
    return (⟨number, tag⟩, f)

/-! ## Nodes -/

mutual

/-- The node that the tokens start with. It may be a block where `inBlock` is set, and a list without tokens around
its hyphens where `beside` is set; a node of which only the name or the tag is written is an empty text. Every
node, item and entry takes a token, so that `fuel` need not exceed three times the number of tokens by more than
three. -/
def node (handles : Handles) (fuel : Nat) (inBlock beside : Bool) (f : Feed) : Option (Tree × Feed) :=
  match fuel with
  | 0 => none
  | fuel + 1 =>
    match f.tokens with
    | .alias name :: _ => (f.names.lookup name).map fun number => (.alias number, f.rest)
    | _ => do
      let (p, f) ← properties handles f
      let blank := if p.isEmpty then none else some (Tree.scalar ⟨"", .plain⟩ p.tag, f)
      let (tree, f) ←
        match f.tokens with
        | .scalar s :: _ => some (.scalar s p.tag, f.rest)
        | .openList :: _ => (items handles fuel true f.rest).map fun (xs, f) => (.list xs, f)
        | .openRecord :: _ => (entries handles fuel true f.rest).map fun (xs, f) => (.record xs, f)
        | .listStart :: _ =>
          if inBlock then (blockItems handles fuel f.rest).map fun (xs, f) => (.list xs, f) else blank
        | .recordStart :: _ =>
          if inBlock then (blockEntries handles fuel f.rest).map fun (xs, f) => (.record xs, f) else blank
        | .hyphen :: _ =>
          if beside then (besideItems handles fuel f).map fun (xs, f) => (.list xs, f) else blank
        | _ => blank
      return (p.apply tree, f)

/-- The node that the tokens start with, which is left out before the given ones. -/
def nodeUnless (handles : Handles) (fuel : Nat) (inBlock beside : Bool) (ends : List Token) (f : Feed) :
    Option (Tree × Feed) :=
  match fuel with
  | 0 => none
  | fuel + 1 => if f.at ends then some (.missing, f) else node handles fuel inBlock beside f

/-- The value of an entry, which is left out where no colon stands and before the given tokens. -/
def value (handles : Handles) (fuel : Nat) (inBlock : Bool) (ends : List Token) (f : Feed) :
    Option (Tree × Feed) :=
  match fuel with
  | 0 => none
  | fuel + 1 =>
    if f.at [.value] then nodeUnless handles fuel inBlock inBlock ends f.rest
    else some (.missing, f)

/-- The items of a block list, up to its end. -/
def blockItems (handles : Handles) (fuel : Nat) (f : Feed) : Option (List Tree × Feed) :=
  match fuel with
  | 0 => none
  | fuel + 1 =>
    if f.at [.hyphen] then do
      let (item, f) ← nodeUnless handles fuel true false [.hyphen, .blockEnd] f.rest
      let (rest, f) ← blockItems handles fuel f
      return (item :: rest, f)
    else if f.at [.blockEnd] then some ([], f.rest)
    else none

/-- The items of a block list that stands right below its key. -/
def besideItems (handles : Handles) (fuel : Nat) (f : Feed) : Option (List Tree × Feed) :=
  match fuel with
  | 0 => none
  | fuel + 1 =>
    if f.at [.hyphen] then do
      let (item, f) ← nodeUnless handles fuel true false [.hyphen, .key, .value, .blockEnd] f.rest
      let (rest, f) ← besideItems handles fuel f
      return (item :: rest, f)
    else some ([], f)

/-- The entries of a block record, up to its end. -/
def blockEntries (handles : Handles) (fuel : Nat) (f : Feed) : Option (List (Tree × Tree) × Feed) :=
  match fuel with
  | 0 => none
  | fuel + 1 =>
    if f.at [.key] then do
      let ends := [.key, .value, .blockEnd]
      let (key, f) ← nodeUnless handles fuel true true ends f.rest
      let (value, f) ← value handles fuel true ends f
      let (rest, f) ← blockEntries handles fuel f
      return ((key, value) :: rest, f)
    else if f.at [.blockEnd] then some ([], f.rest)
    else none

/-- The items of a list in brackets, up to the closing one; a comma stands before each but the first. An item may
be an entry, which then is a record by itself; where its key is left out, what follows the mark of the key is
passed over. -/
def items (handles : Handles) (fuel : Nat) (first : Bool) (f : Feed) : Option (List Tree × Feed) :=
  match fuel with
  | 0 => none
  | fuel + 1 =>
    if f.at [.closeList] then some ([], f.rest)
    else if !first && !f.at [.comma] then none
    else do
      let f := if first then f else f.rest
      if f.at [.closeList] then return ([], f.rest)
      else if f.at [.key] then
        let ends := [.comma, .closeList]
        let (key, f) ←
          if f.rest.at (.value :: ends) then some (.missing, f.rest.rest)
          else node handles fuel false false f.rest
        let (value, f) ← value handles fuel false ends f
        let (rest, f) ← items handles fuel false f
        return (.record [(key, value)] :: rest, f)
      else
        let (item, f) ← node handles fuel false false f
        let (rest, f) ← items handles fuel false f
        return (item :: rest, f)

/-- The entries of a record in braces, up to the closing one; a comma stands before each but the first. A node
that is no key of an entry counts as a key without a value. -/
def entries (handles : Handles) (fuel : Nat) (first : Bool) (f : Feed) :
    Option (List (Tree × Tree) × Feed) :=
  match fuel with
  | 0 => none
  | fuel + 1 =>
    if f.at [.closeRecord] then some ([], f.rest)
    else if !first && !f.at [.comma] then none
    else do
      let f := if first then f else f.rest
      if f.at [.closeRecord] then return ([], f.rest)
      else if f.at [.key] then
        let ends := [.comma, .closeRecord]
        let (key, f) ← nodeUnless handles fuel false false (.value :: ends) f.rest
        let (value, f) ← value handles fuel false ends f
        let (rest, f) ← entries handles fuel false f
        return ((key, value) :: rest, f)
      else
        let (key, f) ← node handles fuel false false f
        let (rest, f) ← entries handles fuel false f
        return ((key, .missing) :: rest, f)

end

/-! ## Documents -/

/-- What a document says about itself, before the marker that starts it. -/
structure Preamble where
  /-- Whether a version has been named. -/
  versioned : Bool := false
  handles : Handles := []

/-- Reads what a document says about itself, up to the marker that starts it. Only two versions are known, and
nothing may be said twice. -/
def preamble (p : Preamble) : List Token → Option (Preamble × List Token)
  | .version major minor :: tokens =>
    if p.versioned ∨ major ≠ 1 ∨ minor ≠ 1 ∧ minor ≠ 2 then none
    else preamble { p with versioned := true } tokens
  | .handle name meaning :: tokens =>
    if (p.handles.lookup name).isSome then none
    else preamble { p with handles := (name, meaning) :: p.handles } tokens
  | .documentStart :: tokens => some (p, tokens)
  | _ => none

/-- The node of a document, and the tokens after it. -/
def content (handles : Handles) (tokens : List Token) : Option (Tree × List Token) :=
  (node handles (3 * tokens.length + 3) true false ⟨tokens, []⟩).map fun (tree, f) => (tree, f.tokens)

/-- The node of the first document that tokens make up, and the tokens after it. A document that says something
about itself starts with a marker; its node may be left out. -/
def first (tokens : List Token) : Option (Tree × List Token) :=
  match tokens with
  | [] => some (.missing, [])
  | token :: _ =>
    if token.isOuter && token != .documentEnd then
      match preamble {} tokens with
      | none => none
      | some (p, tokens) =>
        if tokens.head?.all (·.isOuter) then some (.missing, tokens) else content p.handles tokens
    else content [] tokens

/-- The node of the only document that tokens make up. Markers that end it may follow it. -/
def document (tokens : List Token) : Option Tree := do
  let (tree, tokens) ← first tokens
  if (tokens.dropWhile (· == .documentEnd)).isEmpty then return tree else none

/-! ## Texts -/

/-- The characters that a document may hold. -/
def isDocumentChar (c : Char) : Bool :=
  let n := c.toNat
  n == 0x09 || n == 0x0A || n == 0x0D || (0x20 ≤ n && n ≤ 0x7E) || n == 0x85 ||
    (0xA0 ≤ n && n ≤ 0xFFFD) || 0x10000 ≤ n

/-- The text with every line ended in one way. -/
def withNewlines : List Char → List Char
  | [] => []
  | '\r' :: '\n' :: cs => '\n' :: withNewlines cs
  | c :: cs => (if c = '\r' ∨ c = '\x85' then '\n' else c) :: withNewlines cs

end Reader

/-- The tree of a text, if it holds one document. -/
def read (s : String) : Option Tree := do
  if s.toList.all Reader.isDocumentChar then
    Reader.document (← tokens (Reader.withNewlines s.toList))
  else none

end Archetype.Yaml
