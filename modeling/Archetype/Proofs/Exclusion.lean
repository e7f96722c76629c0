import Archetype.Proofs.Descent

/-! # Circles out, parents first

    What an order has to be, said without climbing: a definition inherits from the last one of the batch that
    has the id it names (`InheritsFrom`), and lies on a circle if inheriting leads from it back to itself
    (`OnCircle`).  The order keeps each of the others once, parents before the definitions that inherit from
    them; those on circles are excluded, and each of them is reported with the walk that leads back to it
    (`Ordered`, `ordered_order`).

    The table of parents says who inherits from whom (`step_parents_iff`), so circles are those of the table.
    A closed line of the table is a walk: it goes from parent to parent, and comes to its start only at its
    end, since no number stands on a line twice. -/

namespace Archetype

namespace Ordering

open Ancestry

variable {table : List (Option Nat)} {batch : List Definition} {i p : Nat}

/-! ## Who inherits from whom -/

/-- The definition at `i` inherits from the one at `p`, the last of the batch that has the id it names. -/
def InheritsFrom (batch : List Definition) (i p : Nat) : Prop :=
  ∃ d e, batch[i]? = some d ∧ batch[p]? = some e ∧ d.inherits = some e.id ∧
    ∀ j later, p < j → batch[j]? = some later → later.id ≠ e.id

/-- Inheriting leads from the definition at `i` back to it. -/
def OnCircle (batch : List Definition) (i : Nat) : Prop :=
  Relation.TransGen (InheritsFrom batch) i i

/-- The last position of an id holds it, and no later position does. -/
theorem lastPosition?_eq_some_iff {id : String} :
    lastPosition? id batch = some p ↔
      ∃ e, batch[p]? = some e ∧ e.id = id ∧ ∀ j later, p < j → batch[j]? = some later → later.id ≠ id := by
  constructor
  · intro h
    obtain ⟨e, he, hid⟩ := of_lastPosition? h
    refine ⟨e, he, hid, fun j later hlt hlater heq => ?_⟩
    obtain ⟨last, hlast, hle⟩ := le_lastPosition? hlater
    rw [heq, h] at hlast
    obtain rfl : p = last := Option.some.inj hlast
    exact absurd hlt (Nat.not_lt.mpr hle)
  · rintro ⟨e, he, rfl, hlater⟩
    obtain ⟨last, hlast, hle⟩ := le_lastPosition? he
    rcases Nat.eq_or_lt_of_le hle with rfl | hlt
    · exact hlast
    · obtain ⟨f, hf, hid⟩ := of_lastPosition? hlast
      exact absurd hid (hlater last f hlt hf)

/-- **PARENTS**: the table of parents says who inherits from whom. -/
theorem step_parents_iff : Step (parents batch) i p ↔ InheritsFrom batch i p := by
  rw [Step, getElem?_parents]
  constructor
  · intro h
    obtain ⟨d, hd, hparent⟩ := Option.map_eq_some_iff.mp h
    obtain ⟨id, hinherits, hlast⟩ := Option.bind_eq_some_iff.mp hparent
    obtain ⟨e, he, rfl, hlater⟩ := lastPosition?_eq_some_iff.mp hlast
    exact ⟨d, e, hd, he, hinherits, hlater⟩
  · rintro ⟨d, e, hd, he, hinherits, hlater⟩
    have hlast : lastPosition? e.id batch = some p :=
      lastPosition?_eq_some_iff.mpr ⟨e, he, rfl, hlater⟩
    rw [hd, Option.map_some, hinherits, Option.bind_some, hlast]

theorem step_parents (batch : List Definition) : Step (parents batch) = InheritsFrom batch := by
  funext i p
  exact propext step_parents_iff

/-! ## Closed lines -/

/-- A closed line goes from each number to its parent, and from its start back to it, which it does not pass
    in between. -/
theorem of_closedLine? {line : List Nat} (hinside : Inside table) (hi : i < table.length)
    (h : closedLine? table i = some line) :
    ∃ between, line = i :: (between ++ [i]) ∧ i ∉ between ∧ line.IsChain (Step table) := by
  rw [closedLine?_eq] at h
  split at h
  · rename_i hback
    obtain ⟨above, habove⟩ := @line_eq_cons table [] i rfl hi
    have hclimb : (climb table i).line = i :: above := habove
    have hnodup : (i :: above).Nodup := by
      rw [← hclimb]
      exact (nodup_line table [] i).1
    rw [← Option.some.inj h]
    exact ⟨above, by rw [hclimb]; rfl, (List.nodup_cons.mp hnodup).1, isChain_line_concat hinside hback⟩
  · cases h

/-- The numbers that lie on circles are those that steps lead back to. -/
theorem isCyclic_iff_transGen (hinside : Inside table) (hi : i < table.length) :
    isCyclic table i = true ↔ Relation.TransGen (Step table) i i := by
  constructor
  · intro h
    obtain ⟨line, hline⟩ := Option.isSome_iff_exists.mp h
    obtain ⟨between, rfl, -, hchain⟩ := of_closedLine? hinside hi hline
    exact transGen_of_isChain hchain
  · exact isSome_closedLine? hinside

/-- **CIRCLES OF A BATCH**: the positions that are left out of an order are those on circles. -/
theorem isCyclic_iff (hi : i < batch.length) : isCyclic (parents batch) i = true ↔ OnCircle batch i := by
  rw [isCyclic_iff_transGen (inside_parents batch) (by rw [length_parents]; exact hi), step_parents, OnCircle]

/-- Only positions of the batch lie on circles. -/
theorem OnCircle.lt (h : OnCircle batch i) : i < batch.length := by
  obtain ⟨p, ⟨d, -, hd, -⟩, -⟩ := Relation.TransGen.head'_iff.mp h
  exact (List.getElem?_eq_some_iff.mp hd).1

/-! ## Walks -/

/-- The walk up from `i` that stops where it comes to `start`, with the positions that it comes to.  It is
    made of finitely many steps, each to the parent. -/
inductive Walk (batch : List Definition) (start : Nat) : Nat → List Nat → Prop
  | stop {i : Nat} (hstep : InheritsFrom batch i start) : Walk batch start i [start]
  | pass {i p : Nat} {path : List Nat} (hstep : InheritsFrom batch i p) (hne : p ≠ start)
      (hrest : Walk batch start p path) : Walk batch start i (p :: path)

/-- A chain that comes to its end nowhere else is a walk. -/
theorem Walk.of_isChain {start : Nat} {between : List Nat} (hne : start ∉ between)
    (h : (i :: (between ++ [start])).IsChain (InheritsFrom batch)) :
    Walk batch start i (between ++ [start]) := by
  induction between generalizing i with
  | nil => exact .stop (List.isChain_cons_cons.mp h).1
  | cons p rest ih =>
      obtain ⟨hstep, hrest⟩ := List.isChain_cons_cons.mp h
      obtain ⟨hp, hnext⟩ := List.ne_and_not_mem_of_not_mem_cons hne
      exact .pass hstep (Ne.symm hp) (ih hnext hrest)

/-! ## Reports -/

/-- The report of a definition on a circle, at its own line, with the ids of the definitions on the walk from
    it back to it. -/
def ReportedAt (batch : List Definition) (i : Nat) (x : Diagnostic) : Prop :=
  ∃ d path, batch[i]? = some d ∧ Walk batch i i path ∧
    x = ⟨.error, .cyclicInheritance, d.location.file, d.location.line,
      s!"'{d.id}' inherits from itself: " ++
        " → ".intercalate ((i :: path).filterMap fun j => (batch[j]?).map (·.id))⟩

/-- The circle that is reported of a definition is the walk from it back to it. -/
theorem exists_walk {circle : List String} (hi : i < batch.length)
    (h : circle? batch (parents batch) i = some circle) :
    ∃ path, Walk batch i i path ∧ circle = (i :: path).filterMap fun j => (batch[j]?).map (·.id) := by
  obtain ⟨line, hline, rfl⟩ := Option.map_eq_some_iff.mp h
  obtain ⟨between, rfl, hne, hchain⟩ :=
    of_closedLine? (inside_parents batch) (by rw [length_parents]; exact hi) hline
  rw [step_parents] at hchain
  exact ⟨between ++ [i], .of_isChain hne hchain, rfl⟩

/-- Positions on circles are reported one after the other, and no others are. -/
theorem forall₂_reportCircles (batch : List Definition) {numbered : List (Definition × Nat)}
    (hnumbered : ∀ entry ∈ numbered, batch[entry.2]? = some entry.1) :
    List.Forall₂ (ReportedAt batch)
      ((numbered.map (·.2)).filter fun i => isCyclic (parents batch) i)
      (reportCircles batch (parents batch) numbered).journal.diagnostics := by
  induction numbered with
  | nil => exact .nil
  | cons entry rest ih =>
      obtain ⟨d, i⟩ := entry
      have hd : batch[i]? = some d := hnumbered (d, i) List.mem_cons_self
      have hi : i < batch.length := (List.getElem?_eq_some_iff.mp hd).1
      have hrest := ih fun e he => hnumbered e (List.mem_cons_of_mem _ he)
      have hsome : (circle? batch (parents batch) i).isSome = isCyclic (parents batch) i :=
        Option.isSome_map
      rw [List.map_cons, List.filter_cons, ← hsome, reportCircles]
      cases hcircle : circle? batch (parents batch) i with
      | none => exact hrest
      | some circle =>
          obtain ⟨path, hwalk, rfl⟩ := exists_walk hi hcircle
          exact .cons ⟨d, path, hd, hwalk, rfl⟩ hrest

/-! ## The order -/

/-- What becomes of a batch when it is put in order: the positions kept, the definitions after it, and what is
    reported. -/
structure Ordered (batch : List Definition) (kept : List Nat) (after : List Definition)
    (reported : List Diagnostic) : Prop where
  /-- Positions that lie on no circle are kept, those that inherit from a circle included, each once. -/
  once : kept.Nodup
  keeps : ∀ i, i ∈ kept ↔ i < batch.length ∧ ¬ OnCircle batch i
  /-- Wherever a definition stands, the one that it inherits from stands before it. -/
  parentsFirst : ∀ i p, InheritsFrom batch i p → i ∈ kept → p ∈ kept → Precedes p i kept
  /-- Definitions on circles are excluded.  Nothing else changes, in them or in others. -/
  length_eq : after.length = batch.length
  excluded : ∀ i d, batch[i]? = some d → OnCircle batch i → after[i]? = some { d with state := .excluded }
  unchanged : ∀ i d, batch[i]? = some d → ¬ OnCircle batch i → after[i]? = some d
  /-- Each definition on a circle is reported once, in the order of the batch. -/
  reports : ∃ circles : List Nat, circles.Pairwise (· < ·) ∧ (∀ i, i ∈ circles ↔ OnCircle batch i) ∧
    List.Forall₂ (ReportedAt batch) circles reported

/-- **ORDERED**: a batch is put in order, whatever ids stand in it more than once. -/
theorem ordered_order (batch : List Definition) :
    Ordered batch (order batch).value.1 (order batch).value.2 (order batch).journal.diagnostics where
  once := nodup_kept batch
  keeps := by
    intro i
    show i ∈ kept batch ↔ _
    rw [mem_kept]
    refine and_congr_right fun hi => ?_
    rw [← isCyclic_iff hi, Bool.not_eq_true]
  parentsFirst := by
    intro i p hinherits hi hp
    exact precedes_kept hi hp (step_parents_iff.mpr hinherits)
  length_eq := length_excludeCircles batch (parents batch)
  excluded := by
    intro i d hd hcircle
    show (excludeCircles batch (parents batch))[i]? = _
    rw [getElem?_excludeCircles, hd, (isCyclic_iff hcircle.lt).mpr hcircle]
    rfl
  unchanged := by
    intro i d hd hfree
    have hi : i < batch.length := (List.getElem?_eq_some_iff.mp hd).1
    have hkept : isCyclic (parents batch) i = false :=
      Bool.eq_false_iff.mpr fun hcyclic => hfree ((isCyclic_iff hi).mp hcyclic)
    show (excludeCircles batch (parents batch))[i]? = _
    rw [getElem?_excludeCircles, hd, hkept]
    rfl
  reports := by
    have hreported : (order batch).journal.diagnostics
        = (reportCircles batch (parents batch) batch.zipIdx).journal.diagnostics := by
      show _ ++ ([] ++ []) = _
      rw [List.append_nil, List.append_nil]
    refine ⟨(List.range batch.length).filter fun i => isCyclic (parents batch) i, ?_, ?_, ?_⟩
    · exact List.pairwise_lt_range.filter _
    · intro i
      rw [List.mem_filter, List.mem_range]
      constructor
      · rintro ⟨hi, hcyclic⟩
        exact (isCyclic_iff hi).mp hcyclic
      · intro hcircle
        exact ⟨hcircle.lt, (isCyclic_iff hcircle.lt).mpr hcircle⟩
    · rw [hreported, List.range_eq_range', ← List.zipIdx_map_snd 0 batch]
      refine forall₂_reportCircles batch fun entry hentry => ?_
      rw [List.mem_zipIdx_iff_getElem?] at hentry
      exact hentry

end Ordering

end Archetype
