import Archetype.Proofs.Soundness

/-! # One statement after the other

    A definition is applied over all the statements of its line, those of the eldest ancestor first, in
    document order within each body (`Catalogue.stated`).  Where a body ends makes no difference
    (`value_bodies`), so this is one run over one list of statements, which can be cut anywhere.

    A statement reads and writes the field that it names and no other.  So what a run makes of a field is told
    by the statements about that field alone, each of which goes on from what is there
    (`get?_statements`); and in a session it starts from the declared default (`get?_parse`). -/

namespace Archetype

/-- The statements that are applied for a definition, in the order in which they are. -/
def Catalogue.stated (c : Catalogue) (d : Definition) : List StagedField :=
  ((c.lineage d).ancestors.reverse ++ [d]).flatMap (·.body.fields)

namespace Application

variable {target : Shape} {fields : Fields} {f : StagedField} {name : String} {type : FieldType}

/-! ## Runs -/

/-- A run goes on from the fields that a run before it has left. -/
theorem value_statements_append (target : Shape) (fields : Fields) (xs ys : List StagedField) :
    (statements target fields (xs ++ ys)).value
      = (statements target (statements target fields xs).value ys).value := by
  induction xs generalizing fields with
  | nil => rfl
  | cons f rest ih =>
      obtain ⟨name, v, location⟩ := f
      rw [List.cons_append, statements, statements]
      cases target.field? name with
      | none => exact ih fields
      | some type =>
          simp only [Noted.value_bind]
          cases (built type (fields.get? name) location v).value with
          | none => exact ih fields
          | some w => exact ih (fields.set name w)

/-- It reports what it reports alone, after what was reported before it. -/
theorem diagnostics_statements_append (target : Shape) (fields : Fields) (xs ys : List StagedField) :
    (statements target fields (xs ++ ys)).journal.diagnostics
      = (statements target fields xs).journal.diagnostics
        ++ (statements target (statements target fields xs).value ys).journal.diagnostics := by
  induction xs generalizing fields with
  | nil => rfl
  | cons f rest ih =>
      obtain ⟨name, v, location⟩ := f
      rw [List.cons_append, statements, statements]
      cases target.field? name with
      | none =>
          simp only [Noted.journal_bind, Noted.value_bind, Journal.diagnostics_append, ih, List.append_assoc]
      | some type =>
          simp only [Noted.journal_bind, Noted.value_bind, Journal.diagnostics_append]
          cases (built type (fields.get? name) location v).value with
          | none => simp only [ih, List.append_assoc]
          | some w => simp only [ih, List.append_assoc]

/-- The bodies of definitions are applied as their statements, one body after the other. -/
theorem value_bodies (target : Shape) (fields : Fields) (ds : List Definition) :
    (bodies target fields ds).value = (statements target fields (ds.flatMap (·.body.fields))).value := by
  induction ds generalizing fields with
  | nil => rfl
  | cons d rest ih =>
      rw [List.flatMap_cons, value_statements_append]
      exact ih _

theorem diagnostics_bodies (target : Shape) (fields : Fields) (ds : List Definition) :
    (bodies target fields ds).journal.diagnostics
      = (statements target fields (ds.flatMap (·.body.fields))).journal.diagnostics := by
  induction ds generalizing fields with
  | nil => rfl
  | cons d rest ih =>
      rw [List.flatMap_cons, diagnostics_statements_append, ← ih]
      rfl

/-! ## One statement -/

/-- A statement about a field of the target leaves in it what it makes of it, or else what was there. -/
theorem value_statement (h : target.field? f.name = some type) :
    (statements target fields [f]).value
      = match (built type (fields.get? f.name) f.location f.value).value with
        | some v => fields.set f.name v
        | none => fields := by
  obtain ⟨name, v, location⟩ := f
  rw [statements, h]
  simp only [Noted.value_bind]
  cases (built type (fields.get? name) location v).value <;> rfl

theorem diagnostics_statement (h : target.field? f.name = some type) :
    (statements target fields [f]).journal.diagnostics
      = (built type (fields.get? f.name) f.location f.value).journal.diagnostics := by
  obtain ⟨name, v, location⟩ := f
  rw [statements, h]
  show [] ++ (_ ++ _) = _
  cases (built type (fields.get? name) location v).value <;>
    exact (List.nil_append _).trans (List.append_nil _)

/-- A statement leaves the fields alone that it does not name. -/
theorem get?_statement_of_ne (hne : f.name ≠ name) :
    (statements target fields [f]).value.get? name = fields.get? name := by
  cases h : target.field? f.name with
  | none =>
      obtain ⟨other, v, location⟩ := f
      rw [statements, h]
      rfl
  | some type =>
      rw [value_statement h]
      split
      · rw [Fields.get?_set, if_neg hne]
      · rfl

/-- **ONE FIELD**: what a run makes of a field is told by the statements about it, each of which goes on from
    what is there. -/
theorem get?_statements (htype : target.field? name = some type) (staged : List StagedField) :
    (statements target fields staged).value.get? name
      = (staged.filter (·.name == name)).foldl
          (fun existing f => (built type existing f.location f.value).value.or existing)
          (fields.get? name) := by
  induction staged generalizing fields with
  | nil => rfl
  | cons f rest ih =>
      rw [← List.singleton_append, value_statements_append, ih, List.singleton_append, List.filter_cons]
      by_cases hname : f.name = name
      · subst hname
        rw [if_pos (beq_self_eq_true f.name), List.foldl_cons, value_statement htype]
        cases (built type (fields.get? f.name) f.location f.value).value with
        | none => rfl
        | some v =>
            show List.foldl _ ((fields.set f.name v).get? f.name) _ = _
            rw [Fields.get?_set, if_pos rfl]
            rfl
      · rw [if_neg (fun h => hname (beq_iff_eq.mp h)), get?_statement_of_ne hname]

end Application

/-! ## Defaults -/

/-- A fresh instance holds the default of each of its fields, where no two of them have one name. -/
theorem Descriptor.get?_defaults {type : Descriptor} (hunique : (type.fields.map (·.name)).Nodup)
    (name : String) : type.defaults.get? name = (type.field? name).bind (·.default) := by
  have hrun (fields : List Field) (start : Fields) (hunique : (fields.map (·.name)).Nodup) :
      (fields.foldl (fun fields f =>
          match f.default with
          | some value => fields.set f.name value
          | none => fields) start).get? name
        = ((fields.find? (·.name == name)).bind (·.default)).or (start.get? name) := by
    induction fields generalizing start with
    | nil => rfl
    | cons f rest ih =>
        obtain ⟨hfirst, hrest⟩ := List.nodup_cons.mp hunique
        rw [List.foldl_cons, ih _ hrest, List.find?_cons]
        by_cases hname : f.name = name
        · -- no later field has the name
          have hnone : rest.find? (·.name == name) = none := by
            refine List.find?_eq_none.mpr fun g hg heq => hfirst ?_
            exact List.mem_map.mpr ⟨g, hg, (beq_iff_eq.mp heq).trans hname.symm⟩
          rw [hnone, beq_iff_eq.mpr hname]
          cases hdefault : f.default with
          | none => simp [hdefault]
          | some value => simp [hdefault, Fields.get?_set, hname]
        · rw [beq_eq_false_iff_ne.mpr hname]
          cases f.default with
          | none => rfl
          | some value => rw [Fields.get?_set, if_neg hname]
  exact (hrun type.fields [] hunique).trans (Option.or_none ..)

/-- A fresh instance of a type of a built registry holds the default of each of its fields. -/
theorem Registry.get?_defaults {declarations : List Descriptor} {converters : ConverterSet} {r : Registry}
    (hr : ofDeclarations declarations converters = .ok r) {type : Descriptor} (hmem : type ∈ r.types)
    {name : String} {field : Field} (hfield : type.field? name = some field) :
    type.defaults.get? name = field.default := by
  obtain ⟨i, hi⟩ := List.mem_iff_getElem?.mp hmem
  rw [Descriptor.get?_defaults ((completions_of_ok hr).nodup_fields hi), hfield, Option.bind_some]

namespace Session

open Application

variable {s : Session} {documents : List Document} {preferred : String} {d : Definition} {h : Handle}

/-- Requests do not change the registry. -/
theorem registry_answerAll (r : Registry) (options : Options) (store : Store) (requests : List Request) :
    ((start r options store).answerAll requests).registry = r :=
  answerAll_induction (motive := fun s => s.registry = r) rfl (fun _ _ _ hs => hs) requests

/-- The prototype of a definition ends with what the statements of its line make of the defaults. -/
theorem fields_parse (hd : d ∈ s.bound (s.staged documents preferred)) (hh : d.handle = some h) :
    (s.parse documents preferred).2.store.fields h
      = (statements d.type.shape d.type.defaults
          ((s.catalogue (s.staged documents preferred)).stated d)).value := by
  have hfresh := fresh_staged s documents preferred
  obtain ⟨o, ho, _, hprepared⟩ := prepared_of_mem hfresh hd
  rw [store_parse, fields_appliedStore hfresh hd hh, value_outcome, (hprepared.handle_eq (hfresh o ho) hh).2,
    value_bodies]
  rfl

/-- **ONE FIELD OF A PROTOTYPE**: it ends with what the statements about it make of its default. -/
theorem get?_parse {declarations : List Descriptor} {converters : ConverterSet} {r : Registry}
    (hr : Registry.ofDeclarations declarations converters = .ok r) (hregistry : s.registry = r)
    (hd : d ∈ s.bound (s.staged documents preferred)) (hh : d.handle = some h) {name : String} {field : Field}
    (hfield : d.type.field? name = some field) :
    ((s.parse documents preferred).2.store.fields h).get? name
      = (((s.catalogue (s.staged documents preferred)).stated d).filter (·.name == name)).foldl
          (fun existing f => (built field.type existing f.location f.value).value.or existing)
          field.default := by
  have hfits : d.Fits r :=
    fits_of_mem_bound (fresh_staged s documents preferred)
      (fun o ho => hregistry ▸ (fits_of_mem_staged ho).2) hd
  have htype : d.type.shape.field? name = some field.type := by
    rw [Descriptor.field?_shape, hfield]
    rfl
  rw [fields_parse hd hh, get?_statements htype, Registry.get?_defaults hr hfits.registered hfield]

/-- What is reported when a definition is applied: how its line ends, and what the run over its statements
    reports. -/
theorem reports_eq_statements (hd : d ∈ s.bound (s.staged documents preferred)) (hh : d.handle = some h) :
    reports (s.catalogue (s.staged documents preferred)) (s.allocatedStore (s.staged documents preferred)) d
      = (((s.catalogue (s.staged documents preferred)).lineage d).report d).journal.diagnostics
        ++ (statements d.type.shape d.type.defaults
            ((s.catalogue (s.staged documents preferred)).stated d)).journal.diagnostics := by
  have hfresh := fresh_staged s documents preferred
  obtain ⟨o, ho, _, hprepared⟩ := prepared_of_mem hfresh hd
  rw [reports_some hh, diagnostics_outcome, fields_allocatedStore hfresh hd hh,
    (hprepared.handle_eq (hfresh o ho) hh).2, diagnostics_bodies]
  rfl

/-- It is among the diagnostics of the session, in one piece. -/
theorem reports_infix_diagnostics (hd : d ∈ s.bound (s.staged documents preferred))
    (hh : d.handle = some h) :
    reports (s.catalogue (s.staged documents preferred)) (s.allocatedStore (s.staged documents preferred)) d
      <:+: (s.parse documents preferred).2.diagnostics := by
  have hfresh := fresh_staged s documents preferred
  have hmem : d ∈ targets (s.catalogue (s.staged documents preferred))
      (Ordering.kept (s.staged documents preferred)) :=
    (targets_perm hfresh).mem_iff.mpr (List.mem_filter.mpr ⟨hd, by rw [hh]; rfl⟩)
  obtain ⟨before, after, hsplit⟩ := List.append_of_mem hmem
  have hown : reports (s.catalogue (s.staged documents preferred))
        (s.allocatedStore (s.staged documents preferred)) d
      <:+: (targets (s.catalogue (s.staged documents preferred))
          (Ordering.kept (s.staged documents preferred))).flatMap
        (reports (s.catalogue (s.staged documents preferred))
          (s.allocatedStore (s.staged documents preferred))) := by
    rw [hsplit, List.flatMap_append, List.flatMap_cons]
    exact List.infix_append' ..
  rw [diagnostics_parse, diagnostics_settle hfresh]
  refine hown.trans (List.IsInfix.trans ?_ ((List.suffix_append ..).trans (List.suffix_append ..)).isInfix)
  exact List.infix_append ..

end Session

end Archetype
