import Archetype.Proofs.Climbing
import Archetype.Proofs.Concatenation
import Archetype.Proofs.Reports
import Archetype.Proofs.History
import Archetype.Proofs.Lineage

/-! # The order and the lines of descent

    A batch is ordered by positions, where an id stands for the last definition that has it, and applied by
    ids, where it stands for the last one that is not excluded.  The two agree on what a definition inherits
    from where the last definition with an id is kept if any is (`LastKept`, `lastPosition?_of_find?`).  Then
    the ancestors of a kept definition are kept, and come before it in the order, the eldest first.

    A line of descent stops at an id that it has passed.  By positions, the definition that has the id
    is the last one with it; so either the line has passed that very definition, which would then lie on a
    circle, or the id is that of the definition the line started from, and a later one has it too.  In the
    latter case the line is reported as a circle although there is none. -/

namespace Archetype

namespace Ordering

open Ancestry

variable {table : List (Option Nat)} {batch : List Definition} {xs ys : List Nat} {i j p : Nat}

/-! ## Parents first -/

/-- Wherever `j` stands, `p` stands before it. -/
def Precedes (p j : Nat) (xs : List Nat) : Prop :=
  ∀ front back, xs = front ++ j :: back → p ∈ front

theorem Precedes.append (hxs : Precedes p j xs) (hys : Precedes p j ys) : Precedes p j (xs ++ ys) := by
  intro front back heq
  rcases List.append_eq_append_iff.mp heq with ⟨more, hfront, hback⟩ | ⟨more, hfront, hback⟩
  · rw [hfront]
    exact List.mem_append_right _ (hys more back hback)
  · cases more with
    | nil => cases hys [] back hback.symm
    | cons head more =>
        rw [List.cons_append] at hback
        rw [← (List.cons.inj hback).1] at hfront
        exact hxs front more hfront

theorem Precedes.flatMap {α : Type} {f : α → List Nat} {items : List α}
    (h : ∀ x ∈ items, Precedes p j (f x)) : Precedes p j (items.flatMap f) := by
  induction items with
  | nil =>
      intro front back heq
      exact absurd heq.symm (List.append_ne_nil_of_right_ne_nil _ (List.cons_ne_nil _ _))
  | cons x rest ih =>
      rw [List.flatMap_cons]
      exact (h x List.mem_cons_self).append (ih fun y hy => h y (List.mem_cons_of_mem _ hy))

theorem Precedes.filter {keep : Nat → Bool} (h : Precedes p j xs) (hp : keep p = true) :
    Precedes p j (xs.filter keep) := by
  intro front back heq
  obtain ⟨left, right, rfl, hleft, hright⟩ := List.filter_eq_append_iff.mp heq
  obtain ⟨skipped, rest, rfl, hskipped, -, -⟩ := List.filter_eq_cons_iff.mp hright
  have hmem := h (left ++ skipped) rest (List.append_assoc ..).symm
  rcases List.mem_append.mp hmem with hin | hout
  · rw [← hleft]
    exact List.mem_filter.mpr ⟨hin, hp⟩
  · exact absurd hp (hskipped p hout)

theorem Precedes.eraseDups {xs : List Nat} (h : Precedes p j xs) : Precedes p j xs.eraseDups := by
  induction hn : xs.length using Nat.strongRecOn generalizing xs with
  | ind n ih =>
      cases xs with
      | nil => exact h
      | cons x rest =>
          have hshort : (rest.filter fun y => !y == x).length < n := by
            have := List.length_filter_le (fun y => !y == x) rest
            rw [List.length_cons] at hn
            omega
          intro front back heq
          rw [List.eraseDups_cons] at heq
          cases front with
          | nil =>
              obtain ⟨rfl, -⟩ := List.cons.inj heq
              exact h [] rest rfl
          | cons head front =>
              obtain ⟨rfl, hrest⟩ := List.cons.inj heq
              by_cases hhead : p = x
              · rw [hhead]
                exact List.mem_cons_self
              · -- what is erased after the head are copies of it, and `p` is none
                have htail : Precedes p j rest := fun left right hsplit =>
                  (List.mem_cons.mp (h (x :: left) right (congrArg (x :: ·) hsplit))).resolve_left hhead
                have hkeep : (!p == x) = true := by
                  rw [beq_eq_false_iff_ne.mpr hhead]
                  rfl
                exact List.mem_cons_of_mem _ (ih _ hshort (htail.filter hkeep) rfl front back hrest)

/-- On a line turned round, parents come first, unless the child lies on a circle. -/
theorem precedes_reverse_line (hinside : Inside table) (hstep : Step table j p)
    (hfree : isCyclic table j = false) (i : Nat) : Precedes p j (climb table i).line.reverse := by
  intro front back heq
  have hline : (climb table i).line = back.reverse ++ j :: front.reverse := by
    rw [← List.reverse_reverse (climb table i).line, heq, List.reverse_append, List.reverse_cons,
      List.append_assoc]
    rfl
  have hj : j ∈ (climb table i).line := by
    rw [hline]
    exact List.mem_append_right _ List.mem_cons_self
  rcases follows_or_repeated hinside hj hstep with ⟨left, right, hsplit⟩ | ⟨hback, left, hsplit⟩
  · -- `j` stands only once, so what follows it in both splittings is the same
    have hnodup := (nodup_line table [] i).1
    rw [← climb, hline] at hnodup
    obtain ⟨-, hnodup, hdisjoint⟩ := List.nodup_append.mp hnodup
    have hleft : j ∉ back.reverse := fun hmem => hdisjoint j hmem j List.mem_cons_self rfl
    have hright : j ∉ front.reverse := (List.nodup_cons.mp hnodup).1
    obtain ⟨-, -, hfollows⟩ :=
      (List.append_cons_inj_of_notMem hleft hright).mp (hline.symm.trans hsplit)
    rw [← List.mem_reverse, hfollows]
    exact List.mem_cons_self
  · have hcircle := isSome_closedLine? hinside (transGen_of_repeated hinside hsplit hstep hback)
    exact absurd (hfree.symm.trans hcircle) Bool.false_ne_true

/-- In the sequence of a table, parents come before children that lie on no circle. -/
theorem precedes_sequence (hinside : Inside table) (hstep : Step table j p)
    (hfree : isCyclic table j = false) : Precedes p j (sequence table) :=
  (Precedes.flatMap fun i _ => precedes_reverse_line hinside hstep hfree i).eraseDups

theorem inside_parents (batch : List Definition) : Inside (parents batch) := by
  intro i p hstep
  rw [length_parents]
  exact parent_lt hstep

/-- **PARENTS FIRST**: where a kept definition inherits from a kept one, that comes first in the order. -/
theorem precedes_kept (hj : j ∈ kept batch) (hp : p ∈ kept batch) (hstep : Step (parents batch) j p) :
    Precedes p j (kept batch) := by
  refine (precedes_sequence (inside_parents batch) hstep (mem_kept.mp hj).2).filter ?_
  rw [(mem_kept.mp hp).2]
  rfl

/-- Where each number is preceded by the next one, they stand in a list the other way round. -/
theorem sublist_of_isChain {line order : List Nat} {i : Nat}
    (hchain : (i :: line).IsChain fun j p => Precedes p j order) {front back : List Nat}
    (horder : order = front ++ i :: back) : line.reverse.Sublist front := by
  induction line generalizing i front back with
  | nil => exact List.nil_sublist front
  | cons p more ih =>
      obtain ⟨hprecedes, hrest⟩ := List.isChain_cons_cons.mp hchain
      obtain ⟨left, right, rfl⟩ := List.append_of_mem (hprecedes front back horder)
      rw [List.append_assoc, List.cons_append] at horder
      rw [List.reverse_cons]
      exact (ih hrest horder).append (List.singleton_sublist.mpr List.mem_cons_self)

/-! ## What an id stands for -/

/-- The last definition with the id of a kept one is kept as well. -/
def LastKept (batch : List Definition) : Prop :=
  ∀ i ∈ kept batch, ∀ j ∈ (batch[i]?).bind fun d => lastPosition? d.id batch, j ∈ kept batch

instance (batch : List Definition) : Decidable (LastKept batch) :=
  inferInstanceAs (Decidable (∀ i ∈ kept batch,
    ∀ j ∈ (batch[i]?).bind fun d => lastPosition? d.id batch, j ∈ kept batch))

end Ordering

namespace Session

open Archetype.Ordering Ancestry

variable {s : Session} {batch : List Definition}

/-- A position of a batch is kept exactly if its definition is not excluded. -/
theorem mem_kept_iff (hfresh : ∀ d ∈ batch, d.Fresh) {i : Nat} {e : Definition}
    (he : (s.bound batch)[i]? = some e) : i ∈ kept batch ↔ e.isExcluded = false := by
  obtain ⟨d, hd, hprepared⟩ := prepared_getElem? hfresh he
  rw [mem_kept, hprepared.isExcluded_eq]
  exact and_iff_right (List.getElem?_eq_some_iff.mp hd).1

/-- **THE SAME PARENT**: where last definitions are kept, an id stands for the definition at the position
    that the order goes by. -/
theorem lastPosition?_of_find? (htable : s.table = []) (hfresh : ∀ d ∈ batch, d.Fresh)
    (hlast : LastKept batch) {id : String} {a : Definition}
    (hfind : (s.catalogue batch).find? id = some a) :
    ∃ p ∈ kept batch, lastPosition? id batch = some p ∧ (s.bound batch)[p]? = some a := by
  have hreverse : (s.bound batch).reverse.find? (fun d => !d.isExcluded && d.id == id) = some a := by
    rw [Catalogue.find?_eq, catalogue, htable] at hfind
    exact (Option.or_none ..).symm.trans hfind
  obtain ⟨before, after, hbound, hstands, hafter⟩ := find?_reverse_eq_some_iff.mp hreverse
  rw [Bool.and_eq_true, Bool.not_eq_true', beq_iff_eq] at hstands
  have ha : (s.bound batch)[before.length]? = some a := by
    rw [hbound, List.getElem?_append_right (Nat.le_refl _), Nat.sub_self]
    rfl
  obtain ⟨d, hd, hprepared⟩ := prepared_getElem? hfresh ha
  obtain ⟨p, hp, hle⟩ := le_lastPosition? hd
  have hkept : p ∈ kept batch := by
    refine hlast _ ((mem_kept_iff hfresh ha).mpr hstands.1) p ?_
    rw [hd]
    exact hp
  rw [← hprepared.id_eq, hstands.2] at hp
  refine ⟨p, hkept, hp, ?_⟩
  rcases Nat.eq_or_lt_of_le hle with rfl | hlt
  · exact ha
  · -- a later definition with the id would have been found first
    obtain ⟨b, hb⟩ : ∃ b, (s.bound batch)[p]? = some b := by
      refine ⟨_, List.getElem?_eq_getElem ?_⟩
      rw [length_bound]
      exact (mem_kept.mp hkept).1
    obtain ⟨o, ho, hother⟩ := prepared_getElem? hfresh hb
    obtain ⟨named, hnamed, hid⟩ := of_lastPosition? hp
    have hstandsToo : (!b.isExcluded && b.id == id) = true := by
      rw [(mem_kept_iff hfresh hb).mp hkept, hother.id_eq, Option.some.inj (ho.symm.trans hnamed), hid,
        beq_self_eq_true]
      rfl
    have hmem : b ∈ after := by
      rw [hbound, List.getElem?_append_right (Nat.le_of_lt hlt)] at hb
      obtain ⟨k, hk⟩ := Nat.exists_eq_add_of_lt (Nat.sub_pos_of_lt hlt)
      rw [hk, Nat.zero_add] at hb
      exact List.mem_of_getElem? hb
    exact absurd ((hafter b hmem).symm.trans hstandsToo) Bool.false_ne_true

/-- A definition of a batch steps to the position of its parent. -/
theorem step_of_inherits (hfresh : ∀ d ∈ batch, d.Fresh) {j p : Nat} {child : Definition} {id : String}
    (hchild : (s.bound batch)[j]? = some child) (hinherits : child.inherits = some id)
    (hp : lastPosition? id batch = some p) : Step (parents batch) j p := by
  obtain ⟨d, hd, hprepared⟩ := prepared_getElem? hfresh hchild
  rw [Step, getElem?_parents, hd, Option.map_some, ← hprepared.inherits_eq, hinherits, Option.bind_some, hp]

/-- A kept position is not led back to. -/
theorem not_transGen_of_kept {p : Nat} (hp : p ∈ kept batch) :
    ¬ Relation.TransGen (Step (parents batch)) p p := by
  intro hcircle
  have hcyclic := isSome_closedLine? (inside_parents batch) hcircle
  exact absurd ((mem_kept.mp hp).2.symm.trans hcyclic) Bool.false_ne_true

/-- **FOLLOWED**: above a kept definition of a line, the line goes from kept definition to kept definition,
    always to one that comes earlier in the order.  Of the ids that the line has passed, it can only come
    back to the one it started with, if a later definition has that too. -/
theorem follow_kept (htable : s.table = []) (hfresh : ∀ d ∈ batch, d.Fresh) (hlast : LastKept batch)
    {i : Nat} {e : Definition} (he : (s.bound batch)[i]? = some e) (path : List String)
    (passed : List Nat) {child : Definition} {j : Nat} (hchild : (s.bound batch)[j]? = some child)
    (hj : j ∈ kept batch)
    (hpassed : ∀ t ∈ passed, Relation.ReflTransGen (Step (parents batch)) t j)
    (hpath : ∀ id ∈ path, ∃ t ∈ passed, (t = i ∧ id = e.id) ∨ lastPosition? id batch = some t) :
    ∃ line : List Nat,
      line.map (fun k => (s.bound batch)[k]?)
        = ((s.catalogue batch).follow path child).ancestors.map some ∧
      (j :: line).IsChain (fun j p => Precedes p j (kept batch)) ∧
      ∀ id, ((s.catalogue batch).follow path child).ending = .circle id →
        id = e.id ∧ lastPosition? id batch ≠ some i := by
  fun_induction Catalogue.follow (s.catalogue batch) path child generalizing passed j with
  | case1 path child hroot => exact ⟨[], rfl, .singleton j, fun _ h => by cases h⟩
  | case2 path child id hinherits hfind => exact ⟨[], rfl, .singleton j, fun _ h => by cases h⟩
  | case3 path child id hinherits parent hfind hseen =>
      refine ⟨[], rfl, .singleton j, fun other hother => ?_⟩
      obtain ⟨p, hp, hposition, -⟩ := lastPosition?_of_find? htable hfresh hlast hfind
      have hname : parent.id = id := (Catalogue.of_find? hfind).1
      obtain rfl : parent.id = other := LineEnd.circle.inj hother
      have hstep := step_of_inherits hfresh hchild hinherits hposition
      obtain ⟨t, ht, hpast⟩ := hpath parent.id (List.contains_iff_mem.mp hseen)
      have hne : t ≠ p := by
        rintro rfl
        exact not_transGen_of_kept hp (Relation.TransGen.tail' (hpassed t ht) hstep)
      rcases hpast with ⟨rfl, hid⟩ | hpast
      · rw [hname, hposition]
        exact ⟨hname.symm.trans hid, fun heq => hne (Option.some.inj heq).symm⟩
      · rw [hname, hposition] at hpast
        exact absurd (Option.some.inj hpast).symm hne
  | case4 path child id hinherits parent hfind hnew _ above =>
      rename_i ih
      obtain ⟨p, hp, hposition, hparent⟩ := lastPosition?_of_find? htable hfresh hlast hfind
      have hname : parent.id = id := (Catalogue.of_find? hfind).1
      have hstep := step_of_inherits hfresh hchild hinherits hposition
      have hbelow : ∀ t ∈ p :: passed, Relation.ReflTransGen (Step (parents batch)) t p := by
        intro t ht
        rcases List.mem_cons.mp ht with rfl | hold
        · exact .refl
        · exact (hpassed t hold).tail hstep
      have hnames : ∀ id ∈ parent.id :: path,
          ∃ t ∈ p :: passed, (t = i ∧ id = e.id) ∨ lastPosition? id batch = some t := by
        intro other hother
        rcases List.mem_cons.mp hother with rfl | hold
        · exact ⟨p, List.mem_cons_self, Or.inr (hname.symm ▸ hposition)⟩
        · obtain ⟨t, ht, hpast⟩ := hpath other hold
          exact ⟨t, List.mem_cons_of_mem _ ht, hpast⟩
      obtain ⟨line, hline, hchain, hending⟩ := ih (p :: passed) hparent hp hbelow hnames
      refine ⟨p :: line, ?_, .cons_cons (precedes_kept hj hp hstep) hchain, hending⟩
      rw [List.map_cons, hparent, hline, List.map_cons]

/-- **DESCENT**: where last definitions are kept, the ancestors of a kept definition stand before it in the
    order, the eldest first, and its line is reported as a circle only if it comes back to the id of the
    definition, which a later one has as well. -/
theorem lineage_kept (htable : s.table = []) (hfresh : ∀ d ∈ batch, d.Fresh) (hlast : LastKept batch)
    {i : Nat} (hi : i ∈ kept batch) {e : Definition} (he : (s.bound batch)[i]? = some e) :
    ∃ line : List Nat,
      line.map (fun k => (s.bound batch)[k]?) = ((s.catalogue batch).lineage e).ancestors.map some ∧
      (line.reverse ++ [i]).Sublist (kept batch) ∧
      (lastPosition? e.id batch = some i →
        (((s.catalogue batch).lineage e).report e).Reports (·.kind ≠ .cyclicInheritance)) := by
  obtain ⟨line, hline, hchain, hending⟩ :=
    follow_kept htable hfresh hlast he [e.id] [i] he hi
      (fun t ht => by rw [List.mem_singleton.mp ht])
      (fun id hid => ⟨i, List.mem_singleton_self i, Or.inl ⟨rfl, List.mem_singleton.mp hid⟩⟩)
  refine ⟨line, hline, ?_, fun hlatest => ?_⟩
  · obtain ⟨front, back, horder⟩ := List.append_of_mem hi
    rw [horder]
    exact (sublist_of_isChain hchain horder).append (List.singleton_sublist.mpr List.mem_cons_self)
  · rw [Lineage.report]
    split
    · exact Noted.reports_pure _
    · exact Noted.reports_report (fun h => by cases h)
    · rename_i id hcircle
      obtain ⟨rfl, hlater⟩ := hending id hcircle
      exact absurd hlatest hlater

/-! ### Ids that are given again -/

def thingSession : Session :=
  start ⟨[Descriptor.prototype "Thing"], .builtin⟩ {} .empty

/-- A thing without fields, on a line of its own. -/
def thing (line : Nat) (id : String) (inherits : Option String) : Definition where
  id := id
  inherits := inherits
  isAbstract := false
  typeOverride := none
  body := ⟨Descriptor.prototype "Thing", [], ⟨"things", line⟩⟩

theorem fresh_thing (line : Nat) (id : String) (inherits : Option String) :
    (thing line id inherits).Fresh :=
  ⟨rfl, rfl⟩

/-- The second `b` is the one that `c` inherits from. -/
def doubledBatch : List Definition :=
  [thing 1 "c" (some "b"), thing 2 "b" none, thing 3 "b" (some "a"), thing 4 "a" none]

theorem doubled_descends :
    kept doubledBatch = [3, 2, 0, 1] ∧
      ∃ e, (thingSession.bound doubledBatch)[0]? = some e ∧
        ((thingSession.catalogue doubledBatch).lineage e).ancestors.length = 2 ∧
        ∃ line : List Nat,
          line.map (fun k => (thingSession.bound doubledBatch)[k]?)
            = ((thingSession.catalogue doubledBatch).lineage e).ancestors.map some ∧
          (line.reverse ++ [0]).Sublist (kept doubledBatch) ∧
          (lastPosition? e.id doubledBatch = some 0 →
            (((thingSession.catalogue doubledBatch).lineage e).report e).Reports
              (·.kind ≠ .cyclicInheritance)) := by
  have hchecked : ((thingSession.bound doubledBatch)[0]?).any (fun e =>
      ((thingSession.catalogue doubledBatch).lineage e).ancestors.length == 2) = true := by
    decide +kernel
  have hfresh : ∀ d ∈ doubledBatch, d.Fresh := by
    simp only [doubledBatch, List.forall_mem_cons, fresh_thing, true_and]
    exact fun _ h => by cases h
  obtain ⟨e, he, hlength⟩ := (Option.any_eq_true ..).mp hchecked
  exact ⟨by decide +kernel, e, he, beq_iff_eq.mp hlength,
    lineage_kept rfl hfresh (by decide +kernel) (by decide +kernel) he⟩

/-- The first `A` inherits from `B`, and that from the last `A`.  The last `C` inherits from itself, so `D`
    inherits from the first. -/
def shadowedBatch : List Definition :=
  [thing 1 "A" (some "B"), thing 2 "B" (some "A"), thing 3 "A" none, thing 4 "D" (some "C"),
    thing 5 "C" none, thing 6 "C" (some "C")]

/-- Where an id is given again, the line of a kept definition may be reported as a circle, and a kept
    definition may come before the one that it inherits from. -/
theorem shadowed_disagrees :
    kept shadowedBatch = [2, 1, 0, 3, 4] ∧
      (∃ a, (thingSession.bound shadowedBatch)[0]? = some a ∧
        ∃ x ∈ (((thingSession.catalogue shadowedBatch).lineage a).report a).journal.diagnostics,
          x.kind = .cyclicInheritance) ∧
      ∃ d c, (thingSession.bound shadowedBatch)[3]? = some d ∧
        (thingSession.bound shadowedBatch)[4]? = some c ∧
        ((thingSession.catalogue shadowedBatch).lineage d).ancestors.map (·.location) = [c.location] := by
  have hreported : ((thingSession.bound shadowedBatch)[0]?).any (fun a =>
      (((thingSession.catalogue shadowedBatch).lineage a).report a).journal.diagnostics.any
        (·.kind == .cyclicInheritance)) = true := by
    decide +kernel
  have hparent : ((thingSession.bound shadowedBatch)[3]?).any (fun d =>
      ((thingSession.bound shadowedBatch)[4]?).any fun c =>
        ((thingSession.catalogue shadowedBatch).lineage d).ancestors.map (·.location) == [c.location])
      = true := by
    decide +kernel
  obtain ⟨a, ha, hreported⟩ := (Option.any_eq_true ..).mp hreported
  obtain ⟨x, hx, hkind⟩ := List.any_eq_true.mp hreported
  obtain ⟨d, hd, hparent⟩ := (Option.any_eq_true ..).mp hparent
  obtain ⟨c, hc, hparent⟩ := (Option.any_eq_true ..).mp hparent
  exact ⟨by decide +kernel, ⟨a, ha, x, hx, beq_iff_eq.mp hkind⟩, d, c, hd, hc, beq_iff_eq.mp hparent⟩

end Session

end Archetype
