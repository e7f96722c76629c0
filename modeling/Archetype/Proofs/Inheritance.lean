import Archetype.Proofs.Consistency

/-! # Continuing from the parent's prototype

    A definition is applied from the defaults of its type, over all its ancestors, however often the same
    ancestors have been applied for others.  Where its parent has a prototype of the same type, this comes to
    the same as applying its own statements alone to what that prototype ends with.

    The heart is that the two lines agree.  The line of the definition goes on from the parent with one more
    id on the path, its own; and an id that no ancestor of the parent has never ends a line. -/

namespace Archetype

/-- The line of a definition goes on with the line of its parent, unless that comes back to it. -/
theorem Catalogue.lineage_eq_of_parent {c : Catalogue} {d p : Definition} {id : String}
    (hinherits : d.inherits = some id) (hfind : c.find? id = some p) (hne : d.id ≠ p.id)
    (hoff : ∀ a ∈ (c.lineage p).ancestors, a.id ≠ d.id) :
    (c.lineage d).ancestors = p :: (c.lineage p).ancestors := by
  have hnew : [d.id].contains p.id = false := by
    rw [List.contains_cons, beq_eq_false_iff_ne.mpr hne.symm]
    rfl
  have hlonger : ∀ id, [p.id, d.id].contains id = ([p.id].contains id || id == d.id) := by
    intro id
    show (id == p.id || (id == d.id || false)) = ((id == p.id || false) || id == d.id)
    rw [Bool.or_false, Bool.or_false]
  -- above the parent, the id of the definition on the path makes no difference
  have habove : c.follow [p.id, d.id] p = c.lineage p := follow_of_ne hlonger hoff
  rw [lineage, follow_parent hinherits hfind hnew, habove]

namespace Session

open Application

/-- What an id stands for in a batch of a coherent session is not excluded. -/
theorem isExcluded_of_find? {s : Session} (hs : s.Coherent) {batch : List Definition} {id : String}
    {p : Definition} (h : (s.catalogue batch).find? id = some p) : p.isExcluded = false := by
  rcases (Catalogue.of_find? h).2 with ⟨-, hkept⟩ | hmem
  · exact hkept
  · rw [Definition.isExcluded, (hs.catalogued.filed p hmem).state, Definition.lastState]
    cases p.isAbstract <;> rfl

/-- The prototype of a definition that is kept and not abstract. -/
theorem exists_handle {s : Session} {batch : List Definition} (hfresh : ∀ d ∈ batch, d.Fresh)
    {e : Definition} (he : e ∈ s.bound batch) (hkept : e.isExcluded = false)
    (hconcrete : e.isAbstract = false) : ∃ h, e.handle = some h ∧ h.type = e.type.shape := by
  obtain ⟨d, hd, _, hprepared⟩ := prepared_of_mem hfresh he
  have hsome : e.handle.isSome = true := by
    rw [hprepared.isSome_handle (hfresh d hd), hkept, hconcrete]
    rfl
  obtain ⟨h, hh⟩ := Option.isSome_iff_exists.mp hsome
  exact ⟨h, hh, (hprepared.handle_eq (hfresh d hd) hh).2⟩

/-- **CONTINUED**: where the parent of a definition is of the same batch and the same type and has a
    prototype, and neither it nor an ancestor of it has the id of the definition, the prototype of the
    definition ends with what its own statements make of the fields the prototype of the parent ends with. -/
theorem fields_continue_parent {s : Session} (hs : s.Reachable) (documents : List Document)
    (preferred : String) {d p : Definition} {id : String}
    (hd : d ∈ s.bound (s.staged documents preferred)) (hkept : d.isExcluded = false)
    (hconcrete : d.isAbstract = false) (hinherits : d.inherits = some id)
    (hfind : (s.catalogue (s.staged documents preferred)).find? id = some p)
    (hp : p ∈ s.bound (s.staged documents preferred)) (hparent : p.isAbstract = false)
    (htype : p.type = d.type) (hne : d.id ≠ p.id)
    (hoff : ∀ a ∈ ((s.catalogue (s.staged documents preferred)).lineage p).ancestors, a.id ≠ d.id) :
    ∃ h k, d.handle = some h ∧ p.handle = some k ∧
      (s.parse documents preferred).2.store.fields h
        = (statements d.type.shape ((s.parse documents preferred).2.store.fields k)
            d.body.fields).value := by
  have hfresh := fresh_staged s documents preferred
  obtain ⟨h, hh, hshape⟩ := exists_handle hfresh hd hkept hconcrete
  obtain ⟨k, hk, hparentShape⟩ :=
    exists_handle hfresh hp (isExcluded_of_find? hs.coherent hfind) hparent
  refine ⟨h, k, hh, hk, ?_⟩
  rw [store_parse, fields_appliedStore hfresh hd hh, fields_appliedStore hfresh hp hk, value_outcome,
    value_outcome, Catalogue.lineage_eq_of_parent hinherits hfind hne hoff, List.reverse_cons,
    bodies_append, bodies_singleton, hshape, hparentShape, htype]

/-! ### A unit and one that inherits from it -/

/-- A type with a list that can be added to. -/
def unitType : Descriptor :=
  (Descriptor.prototype "Unit").declare ⟨"tags", .collection .list (.scalar "string"), none⟩

def unitDocument : Document where
  name := "units"
  text := "<U Type=\"Unit\"><Item Id=\"base\"><tags><li>a</li></tags></Item>" ++
    "<Item Id=\"elite\" Inherits=\"base\"><tags OverrideAction=\"Combine\"><li>b</li></tags></Item></U>"

def unitSession : Session :=
  start ⟨[unitType], .builtin⟩ {} .empty

theorem reachable_unitSession : unitSession.Reachable :=
  ⟨_, _, _, [], rfl⟩

theorem elite_continues_base :
    ∃ d p : Definition, d.id = "elite" ∧ p.id = "base" ∧ ∃ h k, d.handle = some h ∧ p.handle = some k ∧
      (unitSession.parse [unitDocument] "").2.store.fields h
        = (statements d.type.shape ((unitSession.parse [unitDocument] "").2.store.fields k)
            d.body.fields).value := by
  have hchecked : ((unitSession.catalogue (unitSession.staged [unitDocument] "")).batch.any fun d =>
      (d.id == "elite" && d.inherits == some "base" && !d.isExcluded && !d.isAbstract) &&
        (((unitSession.catalogue (unitSession.staged [unitDocument] "")).find? "base").any fun p =>
          (p.id == "base" && !p.isAbstract) &&
            ((unitSession.catalogue (unitSession.staged [unitDocument] "")).lineage p).ancestors.isEmpty))
      = true := by
    decide +kernel
  obtain ⟨d, hd, hchecked⟩ := List.any_eq_true.mp hchecked
  obtain ⟨hfacts, hchecked⟩ := Bool.and_eq_true_iff.mp hchecked
  obtain ⟨p, hfind, hparent⟩ := (Option.any_eq_true ..).mp hchecked
  simp only [Bool.and_eq_true, beq_iff_eq, Bool.not_eq_true', List.isEmpty_iff] at hfacts hparent
  obtain ⟨⟨⟨hid, hinherits⟩, hkept⟩, hconcrete⟩ := hfacts
  obtain ⟨⟨hpid, hpconcrete⟩, hancestors⟩ := hparent
  have hp : p ∈ unitSession.bound (unitSession.staged [unitDocument] "") :=
    (Catalogue.of_find? hfind).2.elim And.left fun h => nomatch h
  -- there is but one type
  have hsameType : ∀ e ∈ unitSession.bound (unitSession.staged [unitDocument] ""), e.type = unitType := by
    intro e he
    obtain ⟨o, ho, _, hprepared⟩ := prepared_of_mem (fresh_staged unitSession [unitDocument] "") he
    rw [hprepared.type_eq]
    exact List.mem_singleton.mp (fits_of_mem_staged ho).2.registered
  refine ⟨d, p, hid, hpid, fields_continue_parent reachable_unitSession [unitDocument] "" hd hkept
    hconcrete hinherits hfind hp hpconcrete ((hsameType p hp).trans (hsameType d hd).symm) ?_ ?_⟩
  · rw [hid, hpid]
    decide
  · intro a ha
    rw [hancestors] at ha
    exact nomatch ha

end Session

end Archetype
