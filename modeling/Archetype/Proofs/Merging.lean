import Archetype.Proofs.Acceptance
import Archetype.Proofs.Inheritance
import Archetype.Proofs.Statements

/-! # Collections, merged

    Each statement about a collection starts over, or goes on from what is there.  So what a line leaves in a
    collection is told by where it was last started over: the elements of that statement and of all that come
    after it, one after the other; or, if each one goes on from what is there, the elements of the default and
    those of all statements (`Merged`).

    In a set, elements are compared with those that are there, one at a time.  The heart is that it comes to
    the same to put all elements together and then leave out each that equals an earlier one, kept or not
    (`withoutRepeats`): an element that equals one that was left out also equals the one that was kept for it,
    since equality by structure is transitive. -/

namespace Archetype

/-! ## Elements put together -/

/-- Values without those that equal one before them, be it one of the given earlier ones. -/
def withoutRepeats (earlier : List Value) : List Value → List Value
  | [] => []
  | v :: rest =>
    if earlier.any (· == v) then withoutRepeats (earlier ++ [v]) rest
    else v :: withoutRepeats (earlier ++ [v]) rest

/-- The elements of a collection, put together from those stated: all of them, in a set without repeats. -/
def gathered (kind : CollectionKind) (stated : List Value) : List Value :=
  if kind = .set then withoutRepeats [] stated else stated

section Gathering

variable {kind : CollectionKind} {earlier xs : List Value} {v : Value}

/-- Leaving out repeats does not change which values there is an equal to. -/
theorem any_withoutRepeats (earlier xs : List Value) (v : Value) :
    (earlier.any (· == v) || (withoutRepeats earlier xs).any (· == v))
      = (earlier.any (· == v) || xs.any (· == v)) := by
  induction xs generalizing earlier with
  | nil => rfl
  | cons x rest ih =>
      have hrest := ih (earlier ++ [x])
      rw [List.any_append, List.any_cons, List.any_nil, Bool.or_false, Bool.or_assoc, Bool.or_assoc] at hrest
      rw [withoutRepeats, List.any_cons]
      split
      · rename_i hrepeat
        rw [← hrest]
        cases hxv : x == v with
        | false => rw [Bool.false_or]
        | true =>
            -- the earlier value that `x` equals is a value that `v` equals
            obtain ⟨w, hw, hwx⟩ := List.any_eq_true.mp hrepeat
            have hearlier : earlier.any (· == v) = true :=
              List.any_eq_true.mpr ⟨w, hw, Value.beq_trans hwx hxv⟩
            rw [hearlier, Bool.true_or, Bool.true_or]
      · rw [List.any_cons]
        exact hrest

theorem withoutRepeats_concat (earlier xs : List Value) (v : Value) :
    withoutRepeats earlier (xs ++ [v])
      = withoutRepeats earlier xs ++ (if (earlier ++ xs).any (· == v) then [] else [v]) := by
  induction xs generalizing earlier with
  | nil =>
      rw [List.append_nil]
      show (if earlier.any (· == v) then [] else [v]) = [] ++ _
      rw [List.nil_append]
  | cons x rest ih =>
      rw [List.cons_append, withoutRepeats, withoutRepeats, ih, List.append_assoc, List.singleton_append]
      split
      · rfl
      · rw [List.cons_append]

/-- Values of which no two are equal are all kept. -/
theorem withoutRepeats_eq_self (hearlier : ∀ w ∈ earlier, ∀ x ∈ xs, (w == x) = false)
    (hxs : xs.Pairwise fun v w => (v == w) = false) : withoutRepeats earlier xs = xs := by
  induction xs generalizing earlier with
  | nil => rfl
  | cons x rest ih =>
      obtain ⟨hfirst, hrest⟩ := List.pairwise_cons.mp hxs
      have hnew : ¬ earlier.any (· == x) = true := by
        rw [List.any_eq_true]
        rintro ⟨w, hw, hwx⟩
        rw [hearlier w hw x List.mem_cons_self] at hwx
        cases hwx
      rw [withoutRepeats, if_neg hnew, ih ?_ hrest]
      intro w hw y hy
      rcases List.mem_append.mp hw with hold | hlast
      · exact hearlier w hold y (List.mem_cons_of_mem x hy)
      · rw [List.mem_singleton.mp hlast]
        exact hfirst y hy

/-- **ONE MORE**: adding an element to those that were gathered is gathering it too. -/
theorem gathered_concat (kind : CollectionKind) (xs : List Value) (v : Value) :
    gathered kind (xs ++ [v]) = Application.addElement kind (gathered kind xs) v := by
  rw [gathered, gathered, Application.addElement]
  by_cases hkind : kind = .set
  · have hany : (withoutRepeats [] xs).any (· == v) = xs.any (· == v) := any_withoutRepeats [] xs v
    rw [if_pos hkind, if_pos hkind, withoutRepeats_concat, List.nil_append, hany]
    by_cases hrepeat : xs.any (· == v) = true
    · rw [if_pos hrepeat, if_pos ⟨hkind, hrepeat⟩, List.append_nil]
    · rw [if_neg hrepeat, if_neg fun h => hrepeat h.2]
  · rw [if_neg hkind, if_neg hkind, if_neg fun h => hkind h.1]

theorem foldl_addElement (kind : CollectionKind) (xs ys : List Value) :
    ys.foldl (Application.addElement kind) (gathered kind xs) = gathered kind (xs ++ ys) := by
  induction ys generalizing xs with
  | nil => rw [List.append_nil, List.foldl_nil]
  | cons y rest ih => rw [List.foldl_cons, ← gathered_concat, ih, List.append_assoc, List.singleton_append]

theorem gathered_nil (kind : CollectionKind) : gathered kind [] = [] := by
  cases kind <;> rfl

/-- The items of a list that conforms are gathered as they are. -/
theorem Conforms.gathered_eq {converters : ConverterSet} {types : List Descriptor} {element : FieldType}
    (h : Conforms converters types (.collection kind element) (.list xs)) : gathered kind xs = xs := by
  cases h with
  | collection _ hset =>
      rw [gathered]
      split
      · rename_i hkind
        exact withoutRepeats_eq_self (fun _ hw => nomatch hw) ((hset hkind).imp And.left)
      · rfl

end Gathering

/-! ## Statements about a collection -/

/-- What a statement says about a collection: how it is to be merged, and the values of its elements. -/
structure Collected where
  action : Option OverrideAction
  elements : List Value

/-- What a statement says about a collection of the given kind, if it says anything about one.  Elements that
    do not fit make no value. -/
def StagedField.collected? (kind : CollectionKind) (element : FieldType) (f : StagedField) :
    Option Collected :=
  match f.value with
  | .collection stated action staged =>
    if stated = kind then
      some ⟨action, staged.filterMap fun v => (Application.built element none f.location v).value⟩
    else none
  | _ => none

/-- What a line makes of a collection: what there was if nothing is said about it, else the elements from
    where it was last started over. -/
structure Merged (kind : CollectionKind) (start : Option Value) (said : List Collected)
    (final : Option Value) : Prop where
  unsaid : said = [] → final = start
  replaced : ∀ before o after, said = before ++ o :: after → o.action ≠ some .combine →
    (∀ p ∈ after, p.action = some .combine) →
    final = some (.list (gathered kind ((o :: after).flatMap (·.elements))))
  combined : said ≠ [] → (∀ o ∈ said, o.action = some .combine) →
    final = some (.list (gathered kind (((start.bind Value.asList?).getD []) ++ said.flatMap (·.elements))))

namespace Application

variable {kind : CollectionKind} {element : FieldType}

theorem value_elements (kind : CollectionKind) (element : FieldType) (location : Location)
    (items : List Value) (staged : List Staged) :
    (elements kind element location items staged).value
      = (staged.filterMap fun v => (built element none location v).value).foldl (addElement kind) items := by
  induction staged generalizing items with
  | nil => rfl
  | cons v rest ih =>
      rw [elements, List.filterMap_cons]
      simp only [Noted.value_bind]
      cases (built element none location v).value with
      | none => exact ih items
      | some w => exact ih (addElement kind items w)

/-- The collection that a statement makes of what is there. -/
def merge (kind : CollectionKind) (existing : Option Value) (o : Collected) : Value :=
  .list (o.elements.foldl (addElement kind) (startingElements o.action existing))

theorem value_built_collection (existing : Option Value) (f : StagedField) :
    (built (.collection kind element) existing f.location f.value).value
      = (f.collected? kind element).map (merge kind existing) := by
  rw [StagedField.collected?]
  cases f.value with
  | collection stated action staged =>
      rw [built_collection]
      by_cases hkind : stated = kind
      · simp only [if_pos hkind, Noted.value_bind, Noted.value_pure, value_elements]
        rfl
      · simp only [if_neg hkind]
        rfl
  | scalar _ _ => rw [built_scalar]; rfl
  | bound _ _ => rw [built_bound]; rfl
  | object o => obtain ⟨stated, staged, place⟩ := o; rw [built_object]; rfl
  | pending _ => rw [built.eq_def]; rfl

/-- Of all the statements about a collection, those that say something are merged one after the other. -/
theorem foldl_built_collection (staged : List StagedField) (start : Option Value) :
    staged.foldl (fun existing f =>
        (built (.collection kind element) existing f.location f.value).value.or existing) start
      = (staged.filterMap (·.collected? kind element)).foldl (fun existing o => some (merge kind existing o))
          start := by
  induction staged generalizing start with
  | nil => rfl
  | cons f rest ih =>
      rw [List.foldl_cons, ih, value_built_collection, List.filterMap_cons]
      cases f.collected? kind element <;> rfl

/-! ## Started over or gone on from -/

/-- What goes on from elements that were gathered gathers its own too. -/
theorem foldl_merge_of_combine {said : List Collected} (hcombine : ∀ o ∈ said, o.action = some .combine)
    (xs : List Value) :
    said.foldl (fun existing o => some (merge kind existing o)) (some (.list (gathered kind xs)))
      = some (.list (gathered kind (xs ++ said.flatMap (·.elements)))) := by
  induction said generalizing xs with
  | nil => rw [List.flatMap_nil, List.append_nil, List.foldl_nil]
  | cons o rest ih =>
      have hstart : startingElements o.action (some (.list (gathered kind xs))) = gathered kind xs := by
        rw [hcombine o List.mem_cons_self]
        rfl
      rw [List.foldl_cons, merge, hstart, foldl_addElement,
        ih fun p hp => hcombine p (List.mem_cons_of_mem o hp), List.flatMap_cons, List.append_assoc]

/-- **MERGED**: what is left by all that is said about a collection, from a start that conforms. -/
theorem merged_foldl {converters : ConverterSet} {types : List Descriptor} {start : Option Value}
    (hstart : ∀ v, start = some v → Conforms converters types (.collection kind element) v)
    (said : List Collected) :
    Merged kind start said (said.foldl (fun existing o => some (merge kind existing o)) start) where
  unsaid := by
    intro hnone
    rw [hnone]
    rfl
  replaced := by
    intro before o after hsaid hover hafter
    have hnothing (existing : Option Value) : startingElements o.action existing = gathered kind [] := by
      rw [startingElements.eq_def, gathered_nil]
      split
      · exact if_neg hover
      · rfl
    rw [hsaid, List.foldl_append, List.foldl_cons, merge, hnothing, foldl_addElement, List.nil_append,
      foldl_merge_of_combine hafter, List.flatMap_cons]
  combined := by
    intro hsome hcombine
    obtain ⟨o, rest, rfl⟩ := List.exists_cons_of_ne_nil hsome
    -- the first one goes on from the elements of the start, which were gathered
    have hfirst : startingElements o.action start
        = gathered kind ((start.bind Value.asList?).getD []) := by
      rw [hcombine o List.mem_cons_self]
      cases start with
      | none => exact (gathered_nil kind).symm
      | some v =>
          have hv := hstart v rfl
          cases v with
          | list items => exact hv.gathered_eq.symm
          | _ => cases hv
    rw [List.foldl_cons, merge, hfirst, foldl_addElement,
      foldl_merge_of_combine fun p hp => hcombine p (List.mem_cons_of_mem o hp), List.flatMap_cons,
      List.append_assoc]

end Application

namespace Session

open Application

/-! ## Sessions -/

/-- The prototypes of the ancestors of a definition are other prototypes than its own. -/
theorem address_ne_of_mem_ancestors {s : Session} (hs : s.Coherent) {batch : List Definition}
    (hfresh : ∀ d ∈ batch, d.Fresh) {d a : Definition} (hd : d ∈ s.bound batch)
    (ha : a ∈ ((s.catalogue batch).lineage d).ancestors) {h k : Handle} (hh : d.handle = some h)
    (hk : a.handle = some k) : h.address ≠ k.address := by
  have hcreated : h ∈ s.created batch := by
    rw [created_eq hfresh]
    exact List.mem_filterMap.mpr ⟨d, hd, hh⟩
  have hnew := (Allocation.address_created_bounds hcreated).1
  obtain ⟨id, hfind⟩ := Catalogue.find?_of_mem_ancestors ha
  rcases (Catalogue.of_find? hfind).2 with ⟨hbatch, -⟩ | htable
  · -- two prototypes of the batch with different ids
    have hid {e : Definition} (he : e ∈ s.bound batch) {j : Handle} (hj : e.handle = some j) :
        j.id = e.id := by
      obtain ⟨o, ho, _, hprepared⟩ := prepared_of_mem hfresh he
      exact (hprepared.handle_eq (hfresh o ho) hj).1
    have hother : k ∈ s.created batch := by
      rw [created_eq hfresh]
      exact List.mem_filterMap.mpr ⟨a, hbatch, hk⟩
    intro heq
    have hsame : h = k :=
      List.inj_on_of_nodup_map (Allocation.nodup_address_created ..) hcreated hother heq
    have hseen := Catalogue.contains_id_of_mem_ancestors ha
    rw [← hid hbatch hk, ← hsame, hid hd hh, List.contains_cons, beq_self_eq_true] at hseen
    cases hseen
  · -- one that was there before the batch
    have hold := hs.inUse k (Handle.mem_of_lastWithId? ((hs.catalogued.filed a htable).latest k hk))
    omega

/-- **MERGED COLLECTIONS**: a collection ends with its default if nothing is said about it on the line, else
    with all elements from where it was last started over, or, if it never was, with those of the default and
    all that are stated; a set has none twice.  The prototypes of the ancestors are left as they are. -/
theorem collections_merged {declarations : List Descriptor} {converters : ConverterSet} {r : Registry}
    (hr : Registry.ofDeclarations declarations converters = .ok r) (types : List Descriptor)
    (options : Options) (store : Store) (requests : List Request) (documents : List Document)
    (preferred : String) :
    let s := (start r options store).answerAll requests
    let batch := s.staged documents preferred
    let c := s.catalogue batch
    ∀ d ∈ s.bound batch, d.isExcluded = false → d.isAbstract = false → ∃ h, d.handle = some h ∧
      (∀ name field kind element, d.type.field? name = some field →
        field.type = .collection kind element →
        (∀ v, field.default = some v → Conforms r.converters types field.type v) →
        Merged kind field.default
          (((c.stated d).filter (·.name == name)).filterMap (·.collected? kind element))
          (((s.parse documents preferred).2.store.fields h).get? name)) ∧
      ∀ a ∈ (c.lineage d).ancestors, ∀ k, a.handle = some k →
        ∀ store, (definition c store d).value.fields k = store.fields k := by
  intro s batch c d hd hkept hconcrete
  have hregistry : s.registry = r := registry_answerAll r options store requests
  have hcoherent : s.Coherent := coherent_answerAll r options store requests
  have hfresh := fresh_staged s documents preferred
  obtain ⟨h, hh, -⟩ := exists_handle hfresh hd hkept hconcrete
  refine ⟨h, hh, ?_, ?_⟩
  · intro name field kind element hfield htype hdefault
    rw [htype] at hdefault
    rw [get?_parse hr hregistry hd hh hfield, htype, foldl_built_collection]
    exact merged_foldl hdefault _
  · intro a ha k hk store
    refine fields_value_definition_of_ne fun own hown => ?_
    exact address_ne_of_mem_ancestors hcoherent hfresh hd ha hown hk

/-! ### Marks, one set after the other -/

def crewType : Descriptor :=
  (Descriptor.prototype "Crew").declare ⟨"marks", .collection .set (.scalar "int"), some (.list [.int 1])⟩

def crewRegistry : Registry where
  types := [crewType]
  converters := .builtin

def crewDocument : Document where
  name := "crews"
  text := "<C Type=\"Crew\">" ++
    "<Item Id=\"a\"><marks OverrideAction=\"Combine\"><li>2</li><li>1</li></marks></Item>" ++
    "<Item Id=\"b\" Inherits=\"a\"><marks OverrideAction=\"Combine\"><li>2</li><li>3</li></marks></Item></C>"

private theorem built_crewRegistry : Registry.ofDeclarations [crewType] .builtin = .ok crewRegistry := by
  with_unfolding_all rfl

theorem crew_marks_merged :
    let s := (start crewRegistry {} .empty).answerAll []
    let batch := s.staged [crewDocument] ""
    let c := s.catalogue batch
    ∃ d ∈ s.bound batch, d.id = "b" ∧ d.isExcluded = false ∧ d.isAbstract = false ∧
      (c.lineage d).ancestors.map (·.id) = ["a"] ∧
      ∃ said, said = ((c.stated d).filter (·.name == "marks")).filterMap
          (·.collected? .set (.scalar "int")) ∧
        said.map (fun o => (o.action, o.elements.map Value.asInt?))
          = [(some .combine, [some 2, some 1]), (some .combine, [some 2, some 3])] ∧
        (gathered .set ([.int 1] ++ said.flatMap (·.elements))).map Value.asInt? = [some 1, some 2, some 3] ∧
        ∃ h, d.handle = some h ∧
          Merged .set (some (.list [.int 1])) said
            (((s.parse [crewDocument] "").2.store.fields h).get? "marks") ∧
          ∀ a ∈ (c.lineage d).ancestors, ∀ k, a.handle = some k →
            ∀ store, (definition c store d).value.fields k = store.fields k := by
  intro s batch c
  have hchecked : ((s.bound batch).any fun d => (d.id == "b" && !d.isExcluded && !d.isAbstract &&
      (c.lineage d).ancestors.map (·.id) == ["a"]) &&
        let said := ((c.stated d).filter (·.name == "marks")).filterMap (·.collected? .set (.scalar "int"))
        (said.map (fun o => (o.action, o.elements.map Value.asInt?))
            == [(some .combine, [some 2, some 1]), (some .combine, [some 2, some 3])] &&
          (gathered .set ([.int 1] ++ said.flatMap (·.elements))).map Value.asInt?
            == [some 1, some 2, some 3])) = true := by
    decide +kernel
  obtain ⟨d, hd, hchecked⟩ := List.any_eq_true.mp hchecked
  simp only [Bool.and_eq_true, Bool.not_eq_true', beq_iff_eq] at hchecked
  obtain ⟨⟨⟨⟨hid, hkept⟩, hconcrete⟩, hancestors⟩, hsaid, hgathered⟩ := hchecked
  -- there is but one type
  have htype : d.type = crewType := by
    obtain ⟨o, ho, _, hprepared⟩ := prepared_of_mem (fresh_staged s [crewDocument] "") hd
    rw [hprepared.type_eq]
    exact List.mem_singleton.mp (fits_of_mem_staged ho).2.registered
  have hfield : d.type.field? "marks"
      = some ⟨"marks", .collection .set (.scalar "int"), some (.list [.int 1])⟩ := by
    rw [htype]
    rfl
  obtain ⟨h, hh, hmerged, hframe⟩ :=
    collections_merged built_crewRegistry [] {} .empty [] [crewDocument] "" d hd hkept hconcrete
  refine ⟨d, hd, hid, hkept, hconcrete, hancestors, _, rfl, hsaid, hgathered, h, hh, ?_, hframe⟩
  refine hmerged "marks" _ .set (.scalar "int") hfield rfl fun v hv => ?_
  rw [← Option.some.inj hv]
  refine .collection (fun w hw => ?_) fun _ => List.pairwise_singleton ..
  rw [List.mem_singleton.mp hw]
  exact @Conforms.scalar _ _ "int" .int "1" _ rfl rfl

end Session

end Archetype
