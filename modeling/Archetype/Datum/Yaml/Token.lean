import Archetype.Datum.Yaml.Tag

/-!
# What a YAML document is made of

* **`Yaml.Scalar`** — a text, and how it is written.
* **`Yaml.Token`** — the pieces a document is made of. What is told by columns has pieces of its own: the start of
  a block list or a block record, its end, and the start of a key.
-/

namespace Archetype.Yaml

/-- How a scalar is written. -/
inductive Script
  | plain
  | quoted
  | literal
  | folded
deriving DecidableEq, Repr

/-- A text, and how it is written. -/
structure Scalar where
  text : String
  script : Script
deriving DecidableEq, Repr

/-- A piece of a document. -/
inductive Token
  /-- The version of the format that a document asks for. -/
  | version (major minor : Nat)
  /-- What a handle of tags stands for in a document. -/
  | handle (name : String) (meaning : Octets)
  | documentStart
  | documentEnd
  | listStart
  | recordStart
  /-- The end of a block list or a block record. -/
  | blockEnd
  | openList
  | closeList
  | openRecord
  | closeRecord
  | comma
  | hyphen
  | key
  | value
  | anchor (name : String)
  | alias (name : String)
  | tag (mark : TagMark)
  | scalar (s : Scalar)
deriving DecidableEq, Repr

/-- Whether a token cannot belong to the node of a document. -/
def Token.isOuter : Token → Bool
  | .version _ _ => true
  | .handle _ _ => true
  | .documentStart => true
  | .documentEnd => true
  | _ => false

end Archetype.Yaml
