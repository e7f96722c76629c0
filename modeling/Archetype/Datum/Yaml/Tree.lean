import Archetype.Datum.Yaml.Token

/-!
# What a YAML document says

* **`Yaml.Tree`** — a node of a document, as far as settings need it: only scalars keep their tags.
* **`Yaml.Names`** — the names that nodes have been given, and the numbers that stand for them.
* **`Yaml.Tree.target?`** — the node that a number stands for.
-/

namespace Archetype.Yaml

/-- A node of a document. -/
inductive Tree
  | scalar (s : Scalar) (tag : Option Octets)
  | list (items : List Tree)
  | record (entries : List (Tree × Tree))
  /-- A node that is known by a number. -/
  | named (number : Nat) (node : Tree)
  /-- The node that is known by a number. -/
  | alias (number : Nat)

/-! ## Names -/

/-- The names that are in use, each with its number, the last one given first. -/
abbrev Names := List (String × Nat)

namespace Names

/-- The number that a name gets when it is given: how many names are in use before. A name that is given again
stays one name, so that the next new name gets the same number as it. -/
def nextNumber (names : Names) : Nat :=
  names.length

/-- The names after one is given. -/
def give (names : Names) (name : String) : Names :=
  (name, names.nextNumber) :: names.filter (·.1 != name)

end Names

namespace Tree

/-- The node that stands for a node left out. -/
def missing : Tree :=
  .scalar ⟨"", .plain⟩ none

/-- The node without its number. -/
def bare : Tree → Tree
  | .named _ node => node
  | node => node

mutual

/-- The nodes that are known by numbers, in the order in which they start. -/
def numbered : Tree → List (Nat × Tree)
  | .scalar _ _ => []
  | .list items => numberedItems items
  | .record entries => numberedEntries entries
  | .named number node => (number, node) :: numbered node
  | .alias _ => []

/-- `numbered` on the items of a list. -/
def numberedItems : List Tree → List (Nat × Tree)
  | [] => []
  | item :: rest => numbered item ++ numberedItems rest

/-- `numbered` on the entries of a record. -/
def numberedEntries : List (Tree × Tree) → List (Nat × Tree)
  | [] => []
  | (key, value) :: rest => numbered key ++ numbered value ++ numberedEntries rest

end

/-- The node that a number stands for in a document: the last one that starts with it. -/
def target? (document : Tree) (number : Nat) : Option Tree :=
  (document.numbered.reverse.find? (·.1 == number)).map (·.2)

/-- The node that is meant by a node of a document. -/
def meant (document : Tree) : Tree → Tree
  | .named _ node => node
  | .alias number => (document.target? number).getD missing
  | node => node

end Tree

end Archetype.Yaml
