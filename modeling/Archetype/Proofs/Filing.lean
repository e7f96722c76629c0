import Archetype.Session
import Mathlib.Data.List.Basic

/-! # Filing definitions

    The table keeps one definition for each id, and filing puts a definition in the place of the one with
    its id.  So after a batch is filed, an id stands for the last definition of the batch that has it and is
    not excluded, and for what it stood for before if there is none (`find?_fileAll`).

    A batch is filed one definition after the other, so filing two batches is filing their concatenation,
    in the table as in the journal. -/

namespace Archetype.Session

variable {table : List Definition} {d e : Definition}

/-! ## One definition -/

theorem find?_file (d : Definition) (table : List Definition) (id : String) :
    (file d table).find? (·.id == id) = if d.id = id then some d else table.find? (·.id == id) := by
  induction table with
  | nil =>
      rw [file, List.find?_cons]
      by_cases h : d.id = id
      · rw [if_pos h, beq_iff_eq.mpr h]
      · rw [if_neg h, beq_eq_false_iff_ne.mpr h]
  | cons other rest ih =>
      rw [file]
      by_cases hsame : other.id = d.id
      · rw [if_pos hsame, List.find?_cons, List.find?_cons, hsame]
        by_cases h : d.id = id
        · rw [if_pos h, beq_iff_eq.mpr h]
        · rw [if_neg h, beq_eq_false_iff_ne.mpr h]
      · rw [if_neg hsame, List.find?_cons, List.find?_cons, ih]
        by_cases h : d.id = id
        · rw [if_pos h, if_pos h, beq_eq_false_iff_ne.mpr (fun heq => hsame (heq.trans h.symm))]
        · rw [if_neg h, if_neg h]

/-- What the table holds after a definition is filed: it, and what has another id. -/
theorem mem_file (hnodup : (table.map (·.id)).Nodup) (h : e ∈ file d table) :
    e = d ∨ (e ∈ table ∧ e.id ≠ d.id) := by
  induction table with
  | nil => exact Or.inl (List.mem_singleton.mp h)
  | cons other rest ih =>
      rw [List.map_cons, List.nodup_cons] at hnodup
      rw [file] at h
      by_cases hsame : other.id = d.id
      · rw [if_pos hsame] at h
        rcases List.mem_cons.mp h with heq | hmem
        · exact Or.inl heq
        · refine Or.inr ⟨List.mem_cons_of_mem _ hmem, fun heq => hnodup.1 ?_⟩
          rw [hsame, ← heq]
          exact List.mem_map_of_mem hmem
      · rw [if_neg hsame] at h
        rcases List.mem_cons.mp h with rfl | hmem
        · exact Or.inr ⟨List.mem_cons_self, hsame⟩
        · rcases ih hnodup.2 hmem with heq | ⟨hin, hne⟩
          · exact Or.inl heq
          · exact Or.inr ⟨List.mem_cons_of_mem _ hin, hne⟩

private theorem mem_map_id_file {id : String} (h : id ∈ (file d table).map (·.id)) :
    id = d.id ∨ id ∈ table.map (·.id) := by
  induction table with
  | nil => exact Or.inl (List.mem_singleton.mp h)
  | cons other rest ih =>
      rw [file] at h
      by_cases hsame : other.id = d.id
      · rw [if_pos hsame, List.map_cons, List.mem_cons] at h
        rcases h with heq | hmem
        · exact Or.inl heq
        · exact Or.inr (List.mem_cons_of_mem _ hmem)
      · rw [if_neg hsame, List.map_cons, List.mem_cons] at h
        rcases h with heq | hmem
        · exact Or.inr (heq ▸ List.mem_cons_self)
        · exact (ih hmem).imp_right (List.mem_cons_of_mem _)

/-- Ids stay unique. -/
theorem nodup_file (d : Definition) (hnodup : (table.map (·.id)).Nodup) :
    ((file d table).map (·.id)).Nodup := by
  induction table with
  | nil => exact List.nodup_cons.mpr ⟨List.not_mem_nil, List.nodup_nil⟩
  | cons other rest ih =>
      rw [List.map_cons, List.nodup_cons] at hnodup
      rw [file]
      by_cases hsame : other.id = d.id
      · rw [if_pos hsame, List.map_cons, List.nodup_cons, ← hsame]
        exact hnodup
      · rw [if_neg hsame, List.map_cons, List.nodup_cons]
        refine ⟨fun hmem => ?_, ih hnodup.2⟩
        rcases mem_map_id_file hmem with heq | hin
        · exact hsame heq
        · exact hnodup.1 hin

/-! ## A batch -/

theorem fileAll_excluded (table rest : List Definition) (h : d.isExcluded = true) :
    fileAll table (d :: rest) = fileAll table rest := by
  rw [fileAll, if_pos h]

theorem fileAll_kept (table rest : List Definition) (h : d.isExcluded = false) :
    fileAll table (d :: rest) = (do
      reportDuplicate table d
      fileAll (file d table) rest) := by
  rw [fileAll, if_neg (by rw [h]; exact Bool.false_ne_true)]

/-- What the table holds after a batch is filed is of the batch, or was there before. -/
theorem mem_fileAll {batch : List Definition} (hnodup : (table.map (·.id)).Nodup)
    (h : e ∈ (fileAll table batch).value) : e ∈ batch ∨ e ∈ table := by
  induction batch generalizing table with
  | nil => exact Or.inr h
  | cons d rest ih =>
      cases hd : d.isExcluded with
      | true =>
          rw [fileAll_excluded _ _ hd] at h
          exact (ih hnodup h).imp_left (List.mem_cons_of_mem _)
      | false =>
          rw [fileAll_kept _ _ hd] at h
          rcases ih (nodup_file d hnodup) h with hrest | hfiled
          · exact Or.inl (List.mem_cons_of_mem _ hrest)
          · rcases mem_file hnodup hfiled with rfl | ⟨hold, -⟩
            · exact Or.inl List.mem_cons_self
            · exact Or.inr hold

/-- Filing two batches is filing one after the other. -/
theorem fileAll_append (table xs ys : List Definition) :
    (fileAll table (xs ++ ys)).value = (fileAll (fileAll table xs).value ys).value ∧
      (fileAll table (xs ++ ys)).journal.diagnostics
        = (fileAll table xs).journal.diagnostics
          ++ (fileAll (fileAll table xs).value ys).journal.diagnostics := by
  induction xs generalizing table with
  | nil => exact ⟨rfl, rfl⟩
  | cons d rest ih =>
      cases h : d.isExcluded with
      | true =>
          rw [List.cons_append, fileAll_excluded _ _ h, fileAll_excluded _ _ h]
          exact ih table
      | false =>
          obtain ⟨hvalue, hjournal⟩ := ih (file d table)
          rw [List.cons_append, fileAll_kept _ _ h, fileAll_kept _ _ h]
          simp only [Noted.value_bind, Noted.journal_bind, Journal.diagnostics_append]
          exact ⟨hvalue, by rw [hjournal, List.append_assoc]⟩

theorem reportDuplicate_file (hne : d.id ≠ e.id) :
    reportDuplicate (file d table) e = reportDuplicate table e := by
  rw [reportDuplicate, reportDuplicate, find?_file, if_neg hne]

/-- Where no id stands twice in a batch, what is reported while it is filed depends on the table alone. -/
theorem diagnostics_fileAll {batch : List Definition} (hids : (batch.map (·.id)).Nodup) :
    (fileAll table batch).journal.diagnostics
      = (batch.filter (!·.isExcluded)).flatMap fun d => (reportDuplicate table d).journal.diagnostics := by
  induction batch generalizing table with
  | nil => rfl
  | cons d rest ih =>
      rw [List.map_cons, List.nodup_cons] at hids
      cases h : d.isExcluded with
      | true =>
          rw [fileAll_excluded _ _ h, List.filter_cons_of_neg (by rw [h]; exact Bool.false_ne_true)]
          exact ih hids.2
      | false =>
          rw [fileAll_kept _ _ h, List.filter_cons_of_pos (by rw [h]; rfl), List.flatMap_cons,
            Noted.journal_bind, Journal.diagnostics_append, ih hids.2]
          refine congrArg (_ ++ ·) (List.flatMap_congr fun e he => ?_)
          have hne : d.id ≠ e.id := fun heq =>
            hids.1 (heq ▸ List.mem_map_of_mem (List.mem_filter.mp he).1)
          rw [reportDuplicate_file hne]

/-- **FILED**: what an id stands for after a batch is filed. -/
theorem find?_fileAll (table batch : List Definition) (id : String) :
    (fileAll table batch).value.find? (·.id == id)
      = (batch.reverse.find? fun d => !d.isExcluded && d.id == id).or
          (table.find? (·.id == id)) := by
  induction batch generalizing table with
  | nil => rfl
  | cons d rest ih =>
      -- the rest is looked at first, since the last one counts
      rw [List.reverse_cons, List.find?_append]
      cases h : d.isExcluded with
      | true =>
          have hskip : [d].find? (fun d => !d.isExcluded && d.id == id) = none := by
            rw [List.find?_singleton, h]
            rfl
          rw [fileAll_excluded _ _ h, ih, hskip, Option.or_none]
      | false =>
          have hlast : [d].find? (fun d => !d.isExcluded && d.id == id)
              = if d.id = id then some d else none := by
            rw [List.find?_singleton, h]
            by_cases hid : d.id = id
            · rw [if_pos hid, if_pos (by rw [beq_iff_eq.mpr hid]; rfl)]
            · rw [if_neg hid, if_neg (by rw [beq_eq_false_iff_ne.mpr hid]; exact Bool.false_ne_true)]
          rw [fileAll_kept _ _ h, Noted.value_bind, ih, find?_file, hlast, Option.or_assoc]
          by_cases hid : d.id = id
          · rw [if_pos hid, if_pos hid, Option.some_or]
          · rw [if_neg hid, if_neg hid, Option.none_or]

end Archetype.Session
