import Archetype.Proofs.Binding
import Archetype.Proofs.Lineage

/-! # The way up ends

    From a definition to the one it inherits from, and on from there: in a table, in a batch, or through both,
    such a way may lead round in a circle.  It is walked all the same, round by round (`walk?`), because it
    stops before an id that it has passed.  Every round passes one id more, and there are only so many
    (`length_ancestors_le`), so a walk comes to its end (`walk?_eq`).

    What it has passed then is a path, on which each definition is what the one before it inherits from
    (`isChain_follow`), no two of them with one id (`nodup_follow`).  There are three reasons to stop
    (`Stops`), and two of them are reported, once. -/

namespace Archetype

namespace Catalogue

variable {c : Catalogue} {path : List String} {child : Definition} {id : String} {d : Definition}

/-! ## What an id denotes -/

/-- The definition that an id denotes: the last one of the batch with this id that is not excluded, and only if
    there is none, the entry of the table. -/
inductive Denotes (c : Catalogue) (id : String) (d : Definition) : Prop
  | inBatch {before after : List Definition} (hsplit : c.batch = before ++ d :: after)
      (hkept : d.isExcluded = false) (hid : d.id = id)
      (hlast : ∀ e ∈ after, e.isExcluded = false → e.id ≠ id) : Denotes c id d
  | inTable {before after : List Definition} (hbatch : ∀ e ∈ c.batch, e.isExcluded = false → e.id ≠ id)
      (hsplit : c.table = before ++ d :: after) (hid : d.id = id) (hfirst : ∀ e ∈ before, e.id ≠ id) :
      Denotes c id d

private theorem stands_iff (e : Definition) :
    (!e.isExcluded && e.id == id) = true ↔ e.isExcluded = false ∧ e.id = id := by
  rw [Bool.and_eq_true, Bool.not_eq_true', beq_iff_eq]

private theorem stands_eq_false_iff (e : Definition) :
    (!e.isExcluded && e.id == id) = false ↔ (e.isExcluded = false → e.id ≠ id) := by
  rw [← Bool.not_eq_true, stands_iff, not_and]

theorem find?_eq_some_iff : c.find? id = some d ↔ c.Denotes id d := by
  rw [find?_eq, Option.or_eq_some_iff, find?_reverse_eq_some_iff, List.find?_eq_none]
  constructor
  · rintro (⟨before, after, hsplit, hd, hafter⟩ | ⟨hbatch, htable⟩)
    · obtain ⟨hkept, hid⟩ := (stands_iff d).mp hd
      exact .inBatch hsplit hkept hid fun e he => (stands_eq_false_iff e).mp (hafter e he)
    · obtain ⟨hid, before, after, hsplit, hbefore⟩ := List.find?_eq_some_iff_append.mp htable
      refine .inTable (fun e he => ?_) hsplit (beq_iff_eq.mp hid) fun e he => ?_
      · exact (stands_eq_false_iff e).mp (Bool.not_eq_true _ ▸ hbatch e (List.mem_reverse.mpr he))
      · exact bne_iff_ne.mp (hbefore e he)
  · rintro (⟨hsplit, hkept, hid, hlast⟩ | ⟨hbatch, hsplit, hid, hfirst⟩)
    · exact Or.inl ⟨_, _, hsplit, (stands_iff d).mpr ⟨hkept, hid⟩,
        fun e he => (stands_eq_false_iff e).mpr (hlast e he)⟩
    · refine Or.inr ⟨fun e he => ?_, ?_⟩
      · rw [Bool.not_eq_true]
        exact (stands_eq_false_iff e).mpr (hbatch e (List.mem_reverse.mp he))
      · exact List.find?_eq_some_iff_append.mpr
          ⟨beq_iff_eq.mpr hid, _, _, hsplit, fun e he => bne_iff_ne.mpr (hfirst e he)⟩

theorem find?_eq_none_iff : c.find? id = none ↔ ∀ d, ¬ c.Denotes id d := by
  rw [Option.eq_none_iff_forall_ne_some]
  exact forall_congr' fun d => not_congr find?_eq_some_iff

/-! ## A path without repeats -/

/-- A definition inherits from another: it names an id that denotes it. -/
def Link (c : Catalogue) (child parent : Definition) : Prop :=
  ∃ id, child.inherits = some id ∧ c.Denotes id parent

/-- On a line, each definition is what the one before it inherits from. -/
theorem isChain_follow (c : Catalogue) (path : List String) (child : Definition) :
    (child :: (c.follow path child).ancestors).IsChain c.Link := by
  fun_induction follow c path child with
  | case1 path child hroot => exact .singleton child
  | case2 path child id hinherits hfind => exact .singleton child
  | case3 path child id hinherits parent hfind hseen => exact .singleton child
  | case4 path child id hinherits parent hfind hnew _ above ih =>
      exact .cons_cons ⟨id, hinherits, find?_eq_some_iff.mp hfind⟩ ih

theorem not_mem_ids_of_path (hpath : id ∈ path) : id ∉ (c.follow path child).ancestors.map (·.id) := by
  intro hmem
  obtain ⟨a, ha, rfl⟩ := List.mem_map.mp hmem
  exact Bool.eq_false_iff.mp (contains_id_of_mem_ancestors ha) (List.contains_iff_mem.mpr hpath)

/-- No two definitions of a line have one id. -/
theorem nodup_follow (c : Catalogue) (path : List String) (child : Definition) :
    ((c.follow path child).ancestors.map (·.id)).Nodup := by
  fun_induction follow c path child with
  | case1 path child hroot => exact List.nodup_nil
  | case2 path child id hinherits hfind => exact List.nodup_nil
  | case3 path child id hinherits parent hfind hseen => exact List.nodup_nil
  | case4 path child id hinherits parent hfind hnew _ above ih =>
      -- above the parent, its id is on the path
      exact List.nodup_cons.mpr ⟨not_mem_ids_of_path List.mem_cons_self, ih⟩

/-- The ids of a line are ids of the catalogue, so there are no more of them. -/
theorem length_ancestors_le (c : Catalogue) (path : List String) (child : Definition) :
    (c.follow path child).ancestors.length ≤ c.all.length := by
  have hsubset : (c.follow path child).ancestors.map (·.id) ⊆ c.all.map (·.id) := by
    intro id hid
    obtain ⟨a, ha, rfl⟩ := List.mem_map.mp hid
    obtain ⟨name, hname⟩ := find?_of_mem_ancestors ha
    exact List.mem_map_of_mem (mem_of_find? hname)
  have hle := (List.subperm_of_subset (nodup_follow c path child) hsubset).length_le
  rwa [List.length_map, List.length_map] at hle

/-! ## Round by round -/

/-- Walks on from `child`, for at most so many rounds, with the definitions of `passed` behind it; none if it has
    not come to an end by then. -/
def walk? (c : Catalogue) (start : Definition) :
    Nat → List Definition → Definition → Option Lineage
  | 0, _, _ => none
  | rounds + 1, passed, child =>
    match child.inherits with
    | none => some ⟨passed, .root⟩
    | some id =>
      match c.find? id with
      | none => some ⟨passed, .unknown child id⟩
      | some parent =>
        if parent.id ∈ (start :: passed).map (·.id) then some ⟨passed, .circle parent.id⟩
        else c.walk? start rounds (passed ++ [parent]) parent

private theorem walk_ended (rounds : Nat) (passed : List Definition) (ending : LineEnd) :
    some (Lineage.mk passed ending)
      = if ([] : List Definition).length < rounds + 1 then some ⟨passed ++ [], ending⟩ else none := by
  rw [List.append_nil]
  exact (if_pos (Nat.succ_pos rounds)).symm

/-- A walk that is given more rounds than there are definitions ahead of it comes to the end of the line, and
    no other does. -/
theorem walk?_eq (start : Definition) (rounds : Nat) (path : List String) (passed : List Definition)
    (hpath : ∀ id, path.contains id = true ↔ id ∈ (start :: passed).map (·.id)) :
    c.walk? start rounds passed child
      = if (c.follow path child).ancestors.length < rounds then
          some ⟨passed ++ (c.follow path child).ancestors, (c.follow path child).ending⟩
        else none := by
  induction rounds generalizing path passed child with
  | zero => rfl
  | succ rounds ih =>
      rw [walk?]
      cases hinherits : child.inherits with
      | none =>
          rw [follow_root hinherits]
          exact walk_ended rounds passed .root
      | some id =>
          cases hfind : c.find? id with
          | none =>
              rw [follow_unknown hinherits hfind]
              simp only [hfind]
              exact walk_ended rounds passed (.unknown child id)
          | some parent =>
              simp only [hfind]
              by_cases hseen : path.contains parent.id = true
              · rw [follow_circle hinherits hfind hseen, if_pos ((hpath parent.id).mp hseen)]
                exact walk_ended rounds passed (.circle parent.id)
              · have hnew : path.contains parent.id = false := Bool.eq_false_iff.mpr hseen
                rw [follow_parent hinherits hfind hnew, if_neg fun hmem => hseen ((hpath parent.id).mpr hmem),
                  ih (parent.id :: path)]
                · simp only [List.length_cons, Nat.add_lt_add_iff_right, List.append_assoc,
                    List.singleton_append]
                · intro other
                  rw [List.contains_cons, Bool.or_eq_true, beq_iff_eq, hpath, ← List.cons_append,
                    List.map_append, List.mem_append, List.map_singleton, List.mem_singleton, or_comm]

/-! ## The end -/

/-- What is reported of a walk from `start` that has passed `ancestors` and stops at `last`. -/
inductive Stops (c : Catalogue) (start : Definition) (ancestors : List Definition) (last : Definition) :
    List Diagnostic → Prop
  | root (h : last.inherits = none) : Stops c start ancestors last []
  | unknown {id : String} (h : last.inherits = some id) (hunknown : ∀ d, ¬ c.Denotes id d) :
      Stops c start ancestors last
        [⟨.error, .unresolvedInheritanceTarget, last.location.file, last.location.line,
          s!"'{last.id}' inherits from unknown id '{id}'"⟩]
  | circle {id : String} {parent : Definition} (h : last.inherits = some id) (hparent : c.Denotes id parent)
      (hpassed : parent.id ∈ (start :: ancestors).map (·.id)) :
      Stops c start ancestors last
        [⟨.error, .cyclicInheritance, start.location.file, start.location.line,
          s!"'{start.id}' inherits in a cycle: {circleArrow.intercalate
            ((start :: ancestors).map (·.id) ++ [parent.id])}"⟩]

/-- How a line ends, told by its last definition. -/
inductive EndsAt (c : Catalogue) (path : List String) (ancestors : List Definition) (last : Definition) :
    LineEnd → Prop
  | root (h : last.inherits = none) : EndsAt c path ancestors last .root
  | unknown {id : String} (h : last.inherits = some id) (hfind : c.find? id = none) :
      EndsAt c path ancestors last (.unknown last id)
  | circle {id : String} {parent : Definition} (h : last.inherits = some id)
      (hfind : c.find? id = some parent)
      (hpassed : path.contains parent.id = true ∨ parent.id ∈ ancestors.map (·.id)) :
      EndsAt c path ancestors last (.circle parent.id)

theorem endsAt_follow (c : Catalogue) (path : List String) (child : Definition) :
    c.EndsAt path (c.follow path child).ancestors
      ((child :: (c.follow path child).ancestors).getLast (List.cons_ne_nil _ _))
      (c.follow path child).ending := by
  fun_induction follow c path child with
  | case1 path child hroot => exact .root hroot
  | case2 path child id hinherits hfind => exact .unknown hinherits hfind
  | case3 path child id hinherits parent hfind hseen => exact .circle hinherits hfind (Or.inl hseen)
  | case4 path child id hinherits parent hfind hnew _ above ih =>
      change c.EndsAt (parent.id :: path) above.ancestors
        ((parent :: above.ancestors).getLast (List.cons_ne_nil _ _)) above.ending at ih
      show c.EndsAt path (parent :: above.ancestors)
        ((parent :: above.ancestors).getLast (List.cons_ne_nil _ _)) above.ending
      generalize (parent :: above.ancestors).getLast (List.cons_ne_nil _ _) = last at ih ⊢
      clear_value above
      obtain ⟨ancestors, ending⟩ := above
      cases ih with
      | root h => exact .root h
      | unknown h hnone => exact .unknown h hnone
      | circle h hsome hpassed =>
          refine .circle h hsome ?_
          -- the id of the parent is on the line now, no longer only on the path
          rw [List.contains_cons, Bool.or_eq_true, beq_iff_eq] at hpassed
          rcases hpassed with (heq | hpath) | hmem
          · exact Or.inr (heq ▸ List.mem_cons_self)
          · exact Or.inl hpath
          · exact Or.inr (List.mem_cons_of_mem _ hmem)

theorem stops_lineage (c : Catalogue) (d : Definition) :
    c.Stops d (c.lineage d).ancestors
      ((d :: (c.lineage d).ancestors).getLast (List.cons_ne_nil _ _))
      ((c.lineage d).report d).journal.diagnostics := by
  have hends : c.EndsAt [d.id] (c.lineage d).ancestors
      ((d :: (c.lineage d).ancestors).getLast (List.cons_ne_nil _ _)) (c.lineage d).ending :=
    endsAt_follow c [d.id] d
  generalize (d :: (c.lineage d).ancestors).getLast (List.cons_ne_nil _ _) = last at hends ⊢
  generalize c.lineage d = line at hends ⊢
  obtain ⟨ancestors, ending⟩ := line
  cases hends with
  | root h => exact .root h
  | unknown h hfind => exact .unknown h (find?_eq_none_iff.mp hfind)
  | circle h hfind hpassed =>
      refine .circle h (find?_eq_some_iff.mp hfind) ?_
      rcases hpassed with hself | habove
      · rw [List.contains_iff_mem, List.mem_singleton] at hself
        exact hself ▸ List.mem_cons_self
      · exact List.mem_cons_of_mem _ habove

/-- **THE WALK ENDS**: whatever circles there are, a walk up from a definition ends, at the latest in the round
    after it has passed as many definitions as there are.  What it passes is a path without repeats, and how it
    ends is reported once or not at all. -/
theorem walk_ends (c : Catalogue) (d : Definition) :
    let line := c.lineage d
    (∀ rounds, c.walk? d rounds [] d = if line.ancestors.length < rounds then some line else none) ∧
      line.ancestors.length ≤ c.all.length ∧
      (d :: line.ancestors).IsChain c.Link ∧
      ((d :: line.ancestors).map (·.id)).Nodup ∧
      c.Stops d line.ancestors ((d :: line.ancestors).getLast (List.cons_ne_nil _ _))
        (line.report d).journal.diagnostics := by
  intro line
  refine ⟨fun rounds => ?_, length_ancestors_le c [d.id] d, isChain_follow c [d.id] d, ?_, stops_lineage c d⟩
  · exact walk?_eq d rounds [d.id] [] fun id => List.contains_iff_mem
  · exact List.nodup_cons.mpr ⟨not_mem_ids_of_path (List.mem_singleton_self d.id), nodup_follow c [d.id] d⟩

end Catalogue

end Archetype
