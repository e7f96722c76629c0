import Archetype.Ancestry
import Archetype.Definition
import Archetype.Journal
import Archetype.Schema.Error

/-!
# Lines of descent

What a definition inherits is found by following its parents by id: among the definitions of its batch
first, and then among those of earlier batches.

* **`Catalogue`** — the definitions that can be found, and `Catalogue.find?`, the one an id stands for: the
  last of the batch that is not excluded, else the earlier one.
* **`Catalogue.lineage`** — the ancestors of a definition, nearest first, and how the line ends: at a
  definition that inherits nothing, at an id nobody has, or at an id that is on the line already.
* **`Lineage.report`** — the diagnostic of a line that ends badly.
-/

namespace Archetype

/-- The definitions that can be inherited from: those of a batch, and at most one for each id from before. -/
structure Catalogue where
  batch : List Definition
  table : List Definition

namespace Catalogue

/-- All definitions of the catalogue. -/
def all (c : Catalogue) : List Definition :=
  c.batch ++ c.table

/-- The definition that an id stands for. -/
def find? (c : Catalogue) (id : String) : Option Definition :=
  match c.batch.reverse.find? fun d => !d.isExcluded && d.id == id with
  | some d => some d
  | none => c.table.find? (·.id == id)

theorem mem_of_find? {c : Catalogue} {id : String} {d : Definition} (h : c.find? id = some d) :
    d ∈ c.all := by
  unfold find? at h
  split at h
  · rename_i found hfound
    cases h
    exact List.mem_append_left _ (List.mem_reverse.1 (List.mem_of_find?_eq_some hfound))
  · exact List.mem_append_right _ (List.mem_of_find?_eq_some h)

end Catalogue

/-- How a line of descent ends. -/
inductive LineEnd
  /-- At a definition that inherits nothing. -/
  | root
  /-- At an id that nobody has, which `child` names as its parent. -/
  | unknown (child : Definition) (id : String)
  /-- Before an id that is on the line already. -/
  | circle (id : String)

/-- The ancestors of a definition, nearest first, and how the line ends. -/
structure Lineage where
  ancestors : List Definition
  ending : LineEnd

namespace Catalogue

/-- How many definitions have ids that are not on a path. -/
def unseen (c : Catalogue) (path : List String) : Nat :=
  c.all.countP fun d => !path.contains d.id

theorem unseen_cons_lt {c : Catalogue} {path : List String} {d : Definition} (hd : d ∈ c.all)
    (hnew : path.contains d.id = false) : c.unseen (d.id :: path) < c.unseen path := by
  refine countP_lt_of_mem hd ?_ ?_ ?_
  · intro e he
    simp_all
  · simpa using hnew
  · simp

/-- Follows the parents of `child`, with the ids of `path` on the line already. -/
def follow (c : Catalogue) (path : List String) (child : Definition) : Lineage :=
  match child.inherits with
  | none => ⟨[], .root⟩
  | some id =>
    match hfind : c.find? id with
    | none => ⟨[], .unknown child id⟩
    | some parent =>
      if hnew : path.contains parent.id = true then ⟨[], .circle parent.id⟩
      else
        have : c.unseen (parent.id :: path) < c.unseen path :=
          unseen_cons_lt (mem_of_find? hfind) (by simpa using hnew)
        let above := c.follow (parent.id :: path) parent
        ⟨parent :: above.ancestors, above.ending⟩
termination_by c.unseen path

/-- The line of descent of a definition. -/
def lineage (c : Catalogue) (d : Definition) : Lineage :=
  c.follow [d.id] d

end Catalogue

/-- Reports a line of descent that ends badly: an unknown id where it is named, and a circle at the
definition whose line it is, with the ids the line has passed. -/
def Lineage.report (line : Lineage) (d : Definition) : Noted Unit :=
  match line.ending with
  | .root => pure ()
  | .unknown child id =>
    Noted.report .error .unresolvedInheritanceTarget child.location.file child.location.line
      s!"'{child.id}' inherits from unknown id '{id}'"
  | .circle id =>
    let path := d.id :: (line.ancestors.map (·.id) ++ [id])
    Noted.report .error .cyclicInheritance d.location.file d.location.line
      s!"'{d.id}' inherits in a cycle: {circleArrow.intercalate path}"

end Archetype
