import Archetype.Datum.Yaml.Reader
import Archetype.Options.Setting

/-!
# Options in YAML

* **`Options.ofYaml?`** — the options that a YAML text states, as a record. A document that says nothing states
  the default options.
-/

namespace Archetype

namespace Yaml

/-- The truth value that a text stands for. -/
def flag? : String → Option Bool
  | "true" => some true
  | "True" => some true
  | "TRUE" => some true
  | "false" => some false
  | "False" => some false
  | "FALSE" => some false
  | _ => none

/-- Whether a scalar can be a truth value: a plain one, or a literal block that is tagged as one. -/
def mayBeFlag (s : Scalar) (tag : Option Octets) : Bool :=
  s.script == .plain || s.script == .literal && tag == some truthTag

/-- The setting that a node makes. Any scalar is a text. -/
def Tree.setting : Tree → Setting
  | .scalar s tag => { text? := s.text, flag? := if mayBeFlag s tag then flag? s.text else none }
  | _ => {}

end Yaml

/-- The options that a YAML text states. -/
def Options.ofYaml? (text : String) : Option Options := do
  let document ← Yaml.read text
  match document.bare with
  | .record entries =>
    ofEntries? (← entries.mapM fun (name, value) =>
      return (← (document.meant name).setting.text?, (document.meant value).setting))
  | .scalar s _ => if s = ⟨"", .plain⟩ then return {} else none
  | _ => none

end Archetype
