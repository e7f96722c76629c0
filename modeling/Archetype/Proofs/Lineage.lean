import Archetype.Proofs.Application

/-! # Following a line of descent

    `follow` is defined by well-founded recursion; four equations, one for each way a line goes on, take the
    place of its definition.  From them:

    * every ancestor is what some id stands for;
    * an id that no ancestor has may be on the path from the start or not (`follow_of_ne`): it never ends a
      line;
    * a line depends on a catalogue only by what ids on it stand for, and on the definitions of it only up to
      how far they have come (`follow_unmarked`). -/

namespace Archetype

namespace Catalogue

variable {c : Catalogue} {path : List String} {child parent : Definition} {id : String}

/-! ## One step -/

theorem follow_root (h : child.inherits = none) : c.follow path child = ⟨[], .root⟩ := by
  rw [follow]
  split <;> simp_all

theorem follow_unknown (h : child.inherits = some id) (hfind : c.find? id = none) :
    c.follow path child = ⟨[], .unknown child id⟩ := by
  rw [follow]
  split
  · simp_all
  · rename_i other hother
    cases Option.some.inj (h.symm.trans hother)
    split
    · rfl
    · simp_all

theorem follow_circle (h : child.inherits = some id) (hfind : c.find? id = some parent)
    (hseen : path.contains parent.id = true) : c.follow path child = ⟨[], .circle parent.id⟩ := by
  rw [follow]
  split
  · simp_all
  · rename_i other hother
    cases Option.some.inj (h.symm.trans hother)
    split
    · simp_all
    · rename_i found hfound
      cases Option.some.inj (hfind.symm.trans hfound)
      rw [dif_pos hseen]

theorem follow_parent (h : child.inherits = some id) (hfind : c.find? id = some parent)
    (hnew : path.contains parent.id = false) :
    c.follow path child
      = ⟨parent :: (c.follow (parent.id :: path) parent).ancestors,
          (c.follow (parent.id :: path) parent).ending⟩ := by
  rw [follow]
  split
  · simp_all
  · rename_i other hother
    cases Option.some.inj (h.symm.trans hother)
    split
    · simp_all
    · rename_i found hfound
      cases Option.some.inj (hfind.symm.trans hfound)
      rw [dif_neg (by rw [hnew]; exact Bool.false_ne_true)]

/-! ## Ancestors -/

theorem find?_eq (c : Catalogue) (id : String) :
    c.find? id = (c.batch.reverse.find? fun d => !d.isExcluded && d.id == id).or
      (c.table.find? (·.id == id)) := by
  rw [find?]
  cases c.batch.reverse.find? fun d => !d.isExcluded && d.id == id <;> rfl

/-- What an id stands for has that id, and is a kept definition of the batch or one from before. -/
theorem of_find? (h : c.find? id = some parent) :
    parent.id = id ∧ ((parent ∈ c.batch ∧ parent.isExcluded = false) ∨ parent ∈ c.table) := by
  unfold find? at h
  split at h
  · rename_i found hfound
    cases h
    have hprop := List.find?_some hfound
    rw [Bool.and_eq_true, Bool.not_eq_true', beq_iff_eq] at hprop
    exact ⟨hprop.2, Or.inl ⟨List.mem_reverse.mp (List.mem_of_find?_eq_some hfound), hprop.1⟩⟩
  · have hid := List.find?_some h
    rw [beq_iff_eq] at hid
    exact ⟨hid, Or.inr (List.mem_of_find?_eq_some h)⟩

/-- Every ancestor is what some id stands for. -/
theorem find?_of_mem_ancestors {a : Definition} (h : a ∈ (c.follow path child).ancestors) :
    ∃ id, c.find? id = some a := by
  fun_induction follow c path child with
  | case1 path child hroot => exact nomatch h
  | case2 path child id hinherits hfind => exact nomatch h
  | case3 path child id hinherits parent hfind hseen => exact nomatch h
  | case4 path child id hinherits parent hfind hnew _ above ih =>
      rcases List.mem_cons.mp h with rfl | hmem
      · exact ⟨id, hfind⟩
      · exact ih hmem

/-- An ancestor has none of the ids that are on the path from the start. -/
theorem contains_id_of_mem_ancestors {a : Definition} (h : a ∈ (c.follow path child).ancestors) :
    path.contains a.id = false := by
  fun_induction follow c path child with
  | case1 path child hroot => exact nomatch h
  | case2 path child id hinherits hfind => exact nomatch h
  | case3 path child id hinherits parent hfind hseen => exact nomatch h
  | case4 path child id hinherits parent hfind hnew _ above ih =>
      rcases List.mem_cons.mp h with rfl | hmem
      · exact Bool.eq_false_iff.mpr hnew
      · -- the path only grows on the way up
        have hlonger := ih hmem
        rw [List.contains_cons, Bool.or_eq_false_iff] at hlonger
        exact hlonger.2

/-- **AN ID OFF THE LINE**: a path may hold one more id that no ancestor has. -/
theorem follow_of_ne {longer : List String} {x : String}
    (hlonger : ∀ id, longer.contains id = (path.contains id || id == x))
    (hoff : ∀ a ∈ (c.follow path child).ancestors, a.id ≠ x) :
    c.follow longer child = c.follow path child := by
  fun_induction follow c path child generalizing longer with
  | case1 path child hroot => exact follow_root hroot
  | case2 path child id hinherits hfind => exact follow_unknown hinherits hfind
  | case3 path child id hinherits parent hfind hseen =>
      refine follow_circle hinherits hfind ?_
      rw [hlonger, hseen]
      rfl
  | case4 path child id hinherits parent hfind hnew _ above =>
      rename_i ih
      -- the parent is not `x`, so it is new to the longer path too
      have hne : (parent.id == x) = false := beq_eq_false_iff_ne.mpr (hoff parent List.mem_cons_self)
      have hlong : longer.contains parent.id = false := by
        rw [hlonger, hne, Bool.or_false]
        exact Bool.eq_false_iff.mpr hnew
      rw [follow_parent hinherits hfind hlong, @ih (parent.id :: longer) ?_ ?_]
      · intro other
        rw [List.contains_cons, List.contains_cons, hlonger, Bool.or_assoc]
      · exact fun a ha => hoff a (List.mem_cons_of_mem _ ha)

end Catalogue

/-! ## Up to how far definitions have come -/

/-- A definition, without how far it has come. -/
def Definition.unmarked (d : Definition) : Definition :=
  { d with state := .staged }

/-- How a line ends, without how far its last definition has come. -/
def LineEnd.unmarked : LineEnd → LineEnd
  | root => root
  | unknown child id => unknown child.unmarked id
  | circle id => circle id

/-- A line, without how far its definitions have come. -/
def Lineage.unmarked (line : Lineage) : Lineage :=
  ⟨line.ancestors.map (·.unmarked), line.ending.unmarked⟩

theorem Lineage.report_unmarked (line : Lineage) (d : Definition) :
    line.unmarked.report d.unmarked = line.report d := by
  obtain ⟨ancestors, ending⟩ := line
  cases ending with
  | root => rfl
  | unknown child id => rfl
  | circle id =>
      have hids : (ancestors.map (·.unmarked)).map (·.id) = ancestors.map (·.id) := List.map_map ..
      show Noted.report _ _ _ _ s!"'{d.id}' inherits in a cycle: {circleArrow.intercalate
        (d.id :: ((ancestors.map (·.unmarked)).map (·.id) ++ [id]))}" = _
      rw [hids]
      rfl

namespace Catalogue

variable {c : Catalogue}

/-- Two catalogues in which what an id stands for differs, on the lines of related definitions, only by how
    far it has come. -/
structure Similar (left right : Catalogue) (R : Definition → Definition → Prop) : Prop where
  unmarked : ∀ d e, R d e → d.unmarked = e.unmarked
  find : ∀ d e id, R d e → d.inherits = some id →
    (left.find? id = none ∧ right.find? id = none) ∨
      ∃ a b, left.find? id = some a ∧ right.find? id = some b ∧ R a b

/-- **SIMILAR LINES**: the lines of related definitions differ only by how far their definitions have come. -/
theorem follow_unmarked {other : Catalogue} {R : Definition → Definition → Prop}
    (hsimilar : Similar c other R) {path : List String} {d e : Definition} (hR : R d e) :
    (c.follow path d).unmarked = (other.follow path e).unmarked := by
  fun_induction follow c path d generalizing e with
  | case1 path d hroot =>
      have hinherits : e.inherits = d.inherits :=
        (congrArg Definition.inherits (hsimilar.unmarked d e hR)).symm
      rw [follow_root (hinherits.trans hroot)]
  | case2 path d id hinherits hfind =>
      have heq := hsimilar.unmarked d e hR
      have hsame : e.inherits = some id := (congrArg Definition.inherits heq).symm.trans hinherits
      rcases hsimilar.find d e id hR hinherits with ⟨-, hnone⟩ | ⟨a, b, ha, -, -⟩
      · rw [follow_unknown hsame hnone]
        show Lineage.mk [] (.unknown d.unmarked id) = Lineage.mk [] (.unknown e.unmarked id)
        rw [heq]
      · exact absurd (hfind.symm.trans ha) (Option.some_ne_none a).symm
  | case3 path d id hinherits parent hfind hseen =>
      have hsame : e.inherits = some id :=
        (congrArg Definition.inherits (hsimilar.unmarked d e hR)).symm.trans hinherits
      rcases hsimilar.find d e id hR hinherits with ⟨hnone, -⟩ | ⟨a, b, ha, hb, hab⟩
      · exact absurd (hnone.symm.trans hfind) (Option.some_ne_none parent).symm
      · cases Option.some.inj (hfind.symm.trans ha)
        have hid : b.id = parent.id :=
          (congrArg Definition.id (hsimilar.unmarked parent b hab)).symm
        rw [follow_circle hsame hb (hid.symm ▸ hseen), hid]
  | case4 path d id hinherits parent hfind hnew _ above =>
      rename_i ih
      have hsame : e.inherits = some id :=
        (congrArg Definition.inherits (hsimilar.unmarked d e hR)).symm.trans hinherits
      rcases hsimilar.find d e id hR hinherits with ⟨hnone, -⟩ | ⟨a, b, ha, hb, hab⟩
      · exact absurd (hnone.symm.trans hfind) (Option.some_ne_none parent).symm
      · -- the parents are related again, so the lines above them are alike
        cases Option.some.inj (hfind.symm.trans ha)
        have hparent := hsimilar.unmarked parent b hab
        have hid : b.id = parent.id := (congrArg Definition.id hparent).symm
        have hfresh : path.contains b.id = false := by
          rw [hid]
          exact Bool.eq_false_iff.mpr hnew
        have hrest := ih hab
        rw [follow_parent hsame hb hfresh, hid]
        show Lineage.mk (parent.unmarked :: (c.follow (parent.id :: path) parent).unmarked.ancestors)
            (c.follow (parent.id :: path) parent).unmarked.ending
          = Lineage.mk (b.unmarked :: (other.follow (parent.id :: path) b).unmarked.ancestors)
            (other.follow (parent.id :: path) b).unmarked.ending
        rw [hrest, hparent]

end Catalogue

namespace Application

theorem bodies_unmarked (target : Shape) (fields : Fields) (ds : List Definition) :
    bodies target fields (ds.map (·.unmarked)) = bodies target fields ds := by
  induction ds generalizing fields with
  | nil => rfl
  | cons d rest ih =>
      rw [List.map_cons, bodies, bodies]
      simp only [ih]
      rfl

/-- An outcome does not depend on how far the definition and its ancestors have come. -/
theorem outcome_congr {c other : Catalogue} {d e : Definition} (start : Fields) (h : Handle)
    (hline : (c.lineage d).unmarked = (other.lineage e).unmarked) (hd : d.unmarked = e.unmarked) :
    outcome c start h d = outcome other start h e := by
  have hmarks : ∀ (c : Catalogue) (d : Definition), outcome c start h d = (do
      (c.lineage d).unmarked.report d.unmarked
      Noted.record .trace
        s!"applying '{d.unmarked.id}' over {(c.lineage d).unmarked.ancestors.length} ancestors"
      bodies h.type start ((c.lineage d).unmarked.ancestors.reverse ++ [d.unmarked])) := by
    intro c d
    have hancestors : (c.lineage d).unmarked.ancestors.reverse ++ [d.unmarked]
        = ((c.lineage d).ancestors.reverse ++ [d]).map (·.unmarked) := by
      rw [List.map_append, List.map_reverse]
      rfl
    have hlength : (c.lineage d).unmarked.ancestors.length = (c.lineage d).ancestors.length :=
      List.length_map ..
    rw [Lineage.report_unmarked, hancestors, bodies_unmarked, hlength]
    rfl
  rw [hmarks, hmarks, hline, hd]

end Application

end Archetype
