import Archetype.Datum.Json.Reader
import Archetype.Options.Setting

/-!
# Options in JSON

* **`Options.ofJson?`** — the options that a JSON text states, as a record or as a list.
-/

namespace Archetype

/-- The setting that a JSON value makes. -/
def Json.Tree.setting : Json.Tree → Setting
  | .text value => { text? := value }
  | .bool value => { flag? := some value }
  | _ => {}

/-- The options that a JSON text states. -/
def Options.ofJson? (text : String) : Option Options :=
  match Json.read text with
  | some (.record entries) => do
    ofEntries? (← entries.mapM fun (name, value) => return (← name, value.setting))
  | some (.list items) => ofItems? (items.map (·.setting))
  | _ => none

end Archetype
