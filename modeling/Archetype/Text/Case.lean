/-!
# Letter case

Keywords are compared without regard to the case of the letters A to Z; every other character stands
for itself alone.

* **`lowered`** — the text with A to Z lowered.
* **`sameIgnoringCase`** — equality after lowering.
-/

namespace Archetype.Text

/-- The text with the letters A to Z lowered and nothing else changed. -/
def lowered (s : String) : String :=
  String.ofList (s.toList.map Char.toLower)

/-- Equality up to the case of the letters A to Z. -/
def sameIgnoringCase (s t : String) : Bool :=
  lowered s == lowered t

end Archetype.Text
