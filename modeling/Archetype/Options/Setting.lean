import Archetype.Options

/-!
# Settings

Options are written as a record whose entries are settings, one for each option. An option without a
setting keeps its default value, and a setting for no option is ignored; but an option must not be set twice,
and its setting must be of its kind.

* **`OptionName`** — the options, and `OptionName.ofText?`, the names they are written with.
* **`Options.ofSettings?`** — the options that a list of named settings states.
-/

namespace Archetype

/-- The options. -/
inductive OptionName
  | itemTag
  | entryTag
  | reportUnresolved
deriving DecidableEq, Repr

/-- All options, in the order in which they stand when they are written without names. -/
def OptionName.all : List OptionName :=
  [itemTag, entryTag, reportUnresolved]

/-- The option that is written with a name. -/
def OptionName.ofText? : String → Option OptionName
  | "item_tag" => some itemTag
  | "list_item_tag" => some entryTag
  | "report_unresolved_references" => some reportUnresolved
  | _ => none

/-- A written value, as far as an option can take it. -/
structure Setting where
  /-- What it is as a text. -/
  text? : Option String := none
  /-- What it is as a truth value. -/
  flag? : Option Bool := none

namespace Options

/-- The options with one of them set, if the setting is of its kind. -/
def set? (o : Options) (name : OptionName) (s : Setting) : Option Options :=
  match name with
  | .itemTag => s.text?.map fun text => { o with itemTag := text }
  | .entryTag => s.text?.map fun text => { o with entryTag := text }
  | .reportUnresolved => s.flag?.map fun flag => { o with reportUnresolved := flag }

/-- The default options with some of them set, each at most once. -/
def ofSettings? (settings : List (OptionName × Setting)) : Option Options :=
  if (settings.map (·.1)).Nodup then
    settings.foldlM (fun o (name, s) => o.set? name s) {}
  else none

/-- The options that the entries of a record state. -/
def ofEntries? (entries : List (String × Setting)) : Option Options :=
  ofSettings? (entries.filterMap fun (name, s) => (OptionName.ofText? name).map (·, s))

/-- The options that a list of settings without names states, which may end early. -/
def ofItems? (items : List Setting) : Option Options :=
  if items.length ≤ OptionName.all.length then ofSettings? (OptionName.all.zip items) else none

end Options

end Archetype
