import Archetype.Ancestry
import Archetype.Definition
import Archetype.Journal
import Archetype.Schema.Error

/-!
# The order of a batch

The definitions of a batch are put in an order in which parents come before the definitions that inherit
from them. Where definitions inherit from each other in a circle there is none: these are reported and
excluded. A definition that inherits from a member of a circle, without being one, is kept.

* **`parents`** — the parent of each definition within the batch. Of several definitions with one id, the
  last counts.
* **`sequence`** — the lines of descent of all definitions, eldest first, one line after the other, with each
  definition only where it stands first.
* **`order`** — the positions of the definitions that are kept, parents first, and the batch with the others
  excluded.
-/

namespace Archetype.Ordering

/-- The position of the last definition with the given id. -/
def lastPosition? (id : String) : List Definition → Option Nat
  | [] => none
  | d :: rest =>
    match lastPosition? id rest with
    | some i => some (i + 1)
    | none => if d.id = id then some 0 else none

/-- For each definition of a batch, the position of the definition it inherits from, if that is in the
batch. -/
def parents (batch : List Definition) : List (Option Nat) :=
  batch.map fun d => d.inherits.bind fun id => lastPosition? id batch

/-- Whether a position is a member of a circle of the table of parents. -/
def isCyclic (parents : List (Option Nat)) (i : Nat) : Bool :=
  (Ancestry.closedLine? parents i).isSome

/-- The positions of the table of parents, each after the positions of its ancestors. -/
def sequence (parents : List (Option Nat)) : List Nat :=
  ((List.range parents.length).flatMap fun i =>
    (Ancestry.climb parents i).line.reverse).eraseDups

/-- The circle that a definition is a member of, from its id back to its id. -/
def circle? (batch : List Definition) (parents : List (Option Nat)) (i : Nat) :
    Option (List String) :=
  (Ancestry.closedLine? parents i).map fun line =>
    line.filterMap fun j => (batch[j]?).map (·.id)

/-- Reports the members of circles among numbered definitions of a batch. -/
def reportCircles (batch : List Definition) (parents : List (Option Nat)) :
    List (Definition × Nat) → Noted Unit
  | [] => pure ()
  | (d, i) :: rest => do
    match circle? batch parents i with
    | none => pure ()
    | some circle =>
      Noted.report .error .cyclicInheritance d.location.file d.location.line
        s!"'{d.id}' inherits from itself: {circleArrow.intercalate circle}"
    reportCircles batch parents rest

/-- The batch with the members of circles excluded. -/
def excludeCircles (batch : List Definition) (parents : List (Option Nat)) : List Definition :=
  batch.zipIdx.map fun (d, i) => if isCyclic parents i then { d with state := .excluded } else d

/-- The positions of the definitions that are kept, parents first, and the batch with the others
excluded. -/
def order (batch : List Definition) : Noted (List Nat × List Definition) := do
  let parents := parents batch
  let kept := (sequence parents).filter fun i => !isCyclic parents i
  reportCircles batch parents batch.zipIdx
  Noted.record .debug
    s!"ordered {kept.length} definitions ({batch.length - kept.length} excluded by cycles)"
  return (kept, excludeCircles batch parents)

end Archetype.Ordering
