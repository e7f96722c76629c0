import Archetype.Proofs.Concatenation
import Archetype.Proofs.Consistency
import Mathlib.Data.List.Nodup

/-! # A batch in another order

    Where no id stands twice in a batch, an id stands for the same definition whatever order the batch is in
    (`Rearranged`).  Every position has its counterpart, which holds the same definition; and going from
    positions to their counterparts is an embedding of tables, so definitions lie on the same circles.

    Prototypes are allocated in the order of the batch, so their addresses differ.  But a batch has one
    prototype for each of its concrete definitions, with its id and its type, so what has been allocated can
    be told by the ids alone (`batch_each`): a definition gets the prototype that its id stands for. -/

namespace Archetype

/-- Two batches of the same definitions in any order, in which no id stands twice. -/
structure Rearranged (xs ys : List Definition) : Prop where
  perm : xs.Perm ys
  ids : (xs.map (·.id)).Nodup

namespace Rearranged

variable {xs ys : List Definition}

theorem idsRight (h : Rearranged xs ys) : (ys.map (·.id)).Nodup :=
  (h.perm.map _).nodup_iff.mp h.ids

end Rearranged

namespace Ordering

open Ancestry

variable {xs ys batch : List Definition} {d : Definition} {i : Nat}

/-! ## Positions -/

/-- The position of a definition of a batch in which no id stands twice. -/
def position (batch : List Definition) (d : Definition) : Nat :=
  (lastPosition? d.id batch).getD 0

theorem lastPosition?_of_getElem? (hids : (batch.map (·.id)).Nodup) (h : batch[i]? = some d) :
    lastPosition? d.id batch = some i := by
  obtain ⟨j, hj, -⟩ := le_lastPosition? h
  obtain ⟨e, he, hid⟩ := of_lastPosition? hj
  -- the last definition with the id is the only one
  have hlt : i < (batch.map (·.id)).length := by
    rw [List.length_map]
    exact (List.getElem?_eq_some_iff.mp h).1
  have hsame : (batch.map (·.id))[i]? = (batch.map (·.id))[j]? := by
    rw [List.getElem?_map, List.getElem?_map, h, he, Option.map_some, Option.map_some, hid]
  rw [hj, (List.getElem?_inj hlt hids).mp hsame]

theorem position_of_getElem? (hids : (batch.map (·.id)).Nodup) (h : batch[i]? = some d) :
    position batch d = i := by
  rw [position, lastPosition?_of_getElem? hids h]
  rfl

theorem getElem?_position (hids : (batch.map (·.id)).Nodup) (hd : d ∈ batch) :
    batch[position batch d]? = some d := by
  obtain ⟨i, hi⟩ := List.mem_iff_getElem?.mp hd
  rw [position_of_getElem? hids hi, hi]

theorem zipIdx_eq_map (hids : (batch.map (·.id)).Nodup) :
    batch.zipIdx = batch.map fun d => (d, position batch d) := by
  refine List.ext_getElem? fun i => ?_
  rw [List.getElem?_zipIdx, List.getElem?_map, Nat.zero_add]
  cases hd : batch[i]? with
  | none => rfl
  | some d => rw [Option.map_some, Option.map_some, position_of_getElem? hids hd]

/-- The position in one batch of the definition at a position of another. -/
def counterpart (xs ys : List Definition) (i : Nat) : Nat :=
  ((xs[i]?).map (position ys)).getD i

theorem counterpart_position (h : Rearranged xs ys) (hd : d ∈ xs) :
    counterpart xs ys (position xs d) = position ys d := by
  rw [counterpart, getElem?_position h.ids hd]
  rfl

/-- Counterparts hold the same definition. -/
theorem getElem?_counterpart (h : Rearranged xs ys) (i : Nat) : ys[counterpart xs ys i]? = xs[i]? := by
  rw [counterpart]
  cases hd : xs[i]? with
  | none =>
      have hle : ys.length ≤ i := h.perm.length_eq ▸ List.getElem?_eq_none_iff.mp hd
      exact List.getElem?_eq_none hle
  | some d => exact getElem?_position h.idsRight (h.perm.mem_iff.mp (List.mem_of_getElem? hd))

/-- Going to the counterpart and back again leads to the same position. -/
theorem counterpart_counterpart (h : Rearranged xs ys) (i : Nat) :
    counterpart ys xs (counterpart xs ys i) = i := by
  rw [counterpart, getElem?_counterpart h]
  cases hd : xs[i]? with
  | none =>
      show counterpart xs ys i = i
      rw [counterpart, hd]
      rfl
  | some d => exact position_of_getElem? h.ids hd

theorem lastPosition?_counterpart (h : Rearranged xs ys) (id : String) :
    lastPosition? id ys = (lastPosition? id xs).map (counterpart xs ys) := by
  cases hposition : lastPosition? id xs with
  | some i =>
      obtain ⟨d, hd, rfl⟩ := of_lastPosition? hposition
      exact lastPosition?_of_getElem? h.idsRight ((getElem?_counterpart h i).trans hd)
  | none =>
      refine lastPosition?_eq_none fun d hd hid => ?_
      obtain ⟨i, hi⟩ := List.mem_iff_getElem?.mp (h.perm.mem_iff.mpr hd)
      have hsome := lastPosition?_of_getElem? h.ids hi
      rw [hid, hposition] at hsome
      cases hsome

/-! ## Circles -/

/-- The parent of a counterpart is the counterpart of the parent. -/
theorem getElem?_parents_counterpart (h : Rearranged xs ys) (i : Nat) :
    (parents ys)[counterpart xs ys i]? = ((parents xs)[i]?).map (·.map (counterpart xs ys)) := by
  rw [getElem?_parents, getElem?_parents, getElem?_counterpart h]
  cases xs[i]? with
  | none => rfl
  | some d =>
      cases hinherits : d.inherits with
      | none =>
          rw [Option.map_some, Option.map_some, hinherits]
          rfl
      | some id =>
          rw [Option.map_some, Option.map_some, hinherits, Option.bind_some, Option.bind_some,
            lastPosition?_counterpart h]
          rfl

theorem embeds_counterpart (h : Rearranged xs ys) :
    Embeds (parents xs) (parents ys) (counterpart xs ys) (fun _ => False) where
  injective := by
    intro i j heq
    rw [← counterpart_counterpart h i, heq, counterpart_counterpart h j]
  inRange := by
    intro i parent hi
    rw [length_parents]
    exact parent_lt hi
  parent := by
    intro i parent hi
    rw [getElem?_parents_counterpart h, hi]
    rfl
  root := by
    intro i hi
    rw [getElem?_parents_counterpart h, hi]
    exact Or.inl rfl
  closed := fun _ _ hfalse => hfalse.elim
  disjoint := fun _ _ hfalse => hfalse

theorem closedLine?_counterpart (h : Rearranged xs ys) (hi : i < xs.length) :
    closedLine? (parents ys) (counterpart xs ys i)
      = (closedLine? (parents xs) i).map (·.map (counterpart xs ys)) :=
  closedLine?_embed (embeds_counterpart h) (by rw [length_parents]; exact hi)

/-- Definitions lie on the same circles. -/
theorem circle?_counterpart (h : Rearranged xs ys) (hi : i < xs.length) :
    circle? ys (parents ys) (counterpart xs ys i) = circle? xs (parents xs) i := by
  rw [circle?, circle?, closedLine?_counterpart h hi, Option.map_map]
  refine congrArg (Option.map · _) (funext fun line => ?_)
  show (line.map (counterpart xs ys)).filterMap _ = _
  rw [List.filterMap_map]
  refine List.filterMap_congr fun j _ => ?_
  show (ys[counterpart xs ys j]?).map _ = _
  rw [getElem?_counterpart h]

theorem position_lt (hids : (batch.map (·.id)).Nodup) (hd : d ∈ batch) :
    position batch d < batch.length :=
  (List.getElem?_eq_some_iff.mp (getElem?_position hids hd)).1

theorem map_id_excludeCircles (batch : List Definition) (table : List (Option Nat)) :
    (excludeCircles batch table).map (·.id) = batch.map (·.id) := by
  refine List.ext_getElem? fun i => ?_
  rw [List.getElem?_map, List.getElem?_map, getElem?_excludeCircles, Option.map_map]
  refine congrArg (Option.map · _) (funext fun d => ?_)
  show (excludedIf (isCyclic table i) d).id = d.id
  rw [excludedIf]
  split <;> rfl

/-- **THE SAME EXCLUDED**: excluding the members of circles from both orders leaves two orders of a batch. -/
theorem rearranged_excludeCircles (h : Rearranged xs ys) :
    Rearranged (excludeCircles xs (parents xs)) (excludeCircles ys (parents ys)) := by
  refine ⟨?_, by rw [map_id_excludeCircles]; exact h.ids⟩
  rw [excludeCircles, excludeCircles, zipIdx_eq_map h.ids, zipIdx_eq_map h.idsRight, List.map_map,
    List.map_map]
  refine List.Perm.trans (List.Perm.of_eq (List.map_congr_left fun d hd => ?_)) (h.perm.map _)
  show (if isCyclic (parents xs) (position xs d) = true then _ else d)
    = if isCyclic (parents ys) (position ys d) = true then _ else d
  rw [← counterpart_position h hd, isCyclic, isCyclic, closedLine?_counterpart h (position_lt h.ids hd),
    Option.isSome_map]

private theorem diagnostics_reportCircles (batch : List Definition) (table : List (Option Nat))
    (numbered : List (Definition × Nat)) :
    (reportCircles batch table numbered).journal.diagnostics
      = numbered.flatMap fun entry => (reportCircles batch table [entry]).journal.diagnostics := by
  induction numbered with
  | nil => rfl
  | cons entry rest ih =>
      rw [List.flatMap_cons, ← ih]
      exact reportCircles_append batch table [entry] rest

/-- Circles are reported alike. -/
theorem diagnostics_reportCircles_perm (h : Rearranged xs ys) :
    (reportCircles xs (parents xs) xs.zipIdx).journal.diagnostics.Perm
      (reportCircles ys (parents ys) ys.zipIdx).journal.diagnostics := by
  rw [diagnostics_reportCircles xs, diagnostics_reportCircles ys, zipIdx_eq_map h.ids,
    zipIdx_eq_map h.idsRight, List.flatMap_map, List.flatMap_map]
  refine List.Perm.trans (List.Perm.of_eq (List.flatMap_congr fun d hd => ?_)) (h.perm.flatMap_right _)
  -- a definition and its counterpart are told apart by their positions alone
  have hsame : reportCircles ys (parents ys) [(d, counterpart xs ys (position xs d))]
      = reportCircles xs (parents xs) [(d, position xs d)] := by
    refine @reportCircles_congr ys xs (parents ys) (parents xs) (counterpart xs ys) [(d, position xs d)] ?_
    intro entry hentry
    rw [List.mem_singleton.mp hentry]
    exact circle?_counterpart h (position_lt h.ids hd)
  rw [← counterpart_position h hd, hsame]

end Ordering

/-! ## Prototypes of the same names -/

namespace Handle

/-- What a prototype is called, and its type. -/
def key (h : Handle) : String × Shape :=
  (h.id, h.type)

/-- Two lists of prototypes with the same ids and types in any order, in which no id stands twice. -/
structure Alike (hs ks : List Handle) : Prop where
  keys : (hs.map key).Perm (ks.map key)
  ids : (hs.map (·.id)).Nodup

/-- Takes each prototype of one list to the one of another that has its id. -/
def matching (hs ks : List Handle) (h : Handle) : Handle :=
  if h ∈ hs then (lastWithId? ks h.id).getD h else h

variable {hs ks : List Handle} {h : Handle}

theorem lastWithId?_of_mem (hids : (hs.map (·.id)).Nodup) (hh : h ∈ hs) :
    lastWithId? hs h.id = some h := by
  have hreverse : (hs.reverse.map (·.id)).Nodup := by
    rw [List.map_reverse]
    exact List.nodup_reverse.mpr hids
  exact find?_of_nodup_map hreverse (List.mem_reverse.mpr hh)

theorem id_of_lastWithId? {id : String} (hlast : lastWithId? hs id = some h) : h.id = id := by
  have hid := List.find?_some hlast
  rw [beq_iff_eq] at hid
  exact hid

namespace Alike

theorem map_ids (halike : Alike hs ks) : (hs.map (·.id)).Perm (ks.map (·.id)) := by
  have hmapped := halike.keys.map Prod.fst
  rw [List.map_map, List.map_map] at hmapped
  exact hmapped

theorem symm (halike : Alike hs ks) : Alike ks hs :=
  ⟨halike.keys.symm, halike.map_ids.nodup_iff.mp halike.ids⟩

/-- A prototype of one list is matched by one of the other. -/
theorem exists_match (halike : Alike hs ks) (hh : h ∈ hs) :
    ∃ k ∈ ks, k.id = h.id ∧ k.type = h.type ∧ lastWithId? ks h.id = some k := by
  obtain ⟨k, hk, hkey⟩ := List.mem_map.mp (halike.keys.mem_iff.mp (List.mem_map_of_mem hh))
  obtain ⟨hid, htype⟩ := Prod.mk.inj hkey
  exact ⟨k, hk, hid, htype, hid ▸ lastWithId?_of_mem halike.symm.ids hk⟩

theorem matching_eq (halike : Alike hs ks) (hh : h ∈ hs) :
    lastWithId? ks h.id = some (matching hs ks h) := by
  obtain ⟨k, -, -, -, hlast⟩ := halike.exists_match hh
  rw [matching, if_pos hh, hlast]
  rfl

end Alike

theorem matching_of_not_mem (hh : h ∉ hs) : matching hs ks h = h := if_neg hh

namespace Alike

theorem id_matching (halike : Alike hs ks) (h : Handle) : (matching hs ks h).id = h.id := by
  by_cases hh : h ∈ hs
  · exact id_of_lastWithId? (halike.matching_eq hh)
  · rw [matching_of_not_mem hh]

theorem type_matching (halike : Alike hs ks) (h : Handle) : (matching hs ks h).type = h.type := by
  by_cases hh : h ∈ hs
  · obtain ⟨k, -, -, htype, hlast⟩ := halike.exists_match hh
    rw [Option.some.inj ((halike.matching_eq hh).symm.trans hlast), htype]
  · rw [matching_of_not_mem hh]

/-- An id stands for the match of what it stands for in the other list. -/
theorem lastWithId?_eq (halike : Alike hs ks) (id : String) :
    lastWithId? ks id = (lastWithId? hs id).map (matching hs ks) := by
  cases hlast : lastWithId? hs id with
  | some h =>
      rw [← id_of_lastWithId? hlast]
      exact halike.matching_eq (mem_of_lastWithId? hlast)
  | none =>
      cases hother : lastWithId? ks id with
      | none => rfl
      | some k =>
          obtain ⟨h, -, -, -, hfound⟩ := halike.symm.exists_match (mem_of_lastWithId? hother)
          rw [id_of_lastWithId? hother, hlast] at hfound
          cases hfound

/-- Matching takes the one list to the other. -/
theorem map_matching_perm (halike : Alike hs ks) : (hs.map (matching hs ks)).Perm ks := by
  have hmapped : ((hs.map (matching hs ks)).map (·.id)).Nodup := by
    rw [List.map_map]
    exact (List.map_congr_left fun h _ => halike.id_matching h) ▸ halike.ids
  refine (List.perm_ext_iff_of_nodup (hmapped.of_map _) (halike.symm.ids.of_map _)).mpr fun k => ?_
  rw [List.mem_map]
  constructor
  · rintro ⟨h, hh, rfl⟩
    exact mem_of_lastWithId? (halike.matching_eq hh)
  · intro hk
    obtain ⟨h, hh, hid, -, -⟩ := halike.symm.exists_match hk
    refine ⟨h, hh, Option.some.inj ?_⟩
    rw [← halike.matching_eq hh, hid, lastWithId?_of_mem halike.symm.ids hk]

end Alike

end Handle

/-! ## Allocation -/

namespace Allocation

variable {store : Store} {batch xs ys : List Definition}

/-- The new prototypes have the ids and types of the concrete definitions. -/
theorem map_key_created (store : Store) (batch : List Definition) :
    (each store batch).1.map (·.key)
      = (batch.filter isConcrete).map fun d => (d.id, d.type.shape) := by
  induction batch generalizing store with
  | nil => rfl
  | cons d rest ih =>
      cases h : isConcrete d with
      | true =>
          rw [each_concrete h, List.filter_cons_of_pos h]
          exact congrArg (_ :: ·) (ih (grown store d))
      | false =>
          rw [each_other h, List.filter_cons_of_neg (by rw [h]; exact Bool.false_ne_true)]
          exact ih store

theorem nodup_id_created (store : Store) (hids : (batch.map (·.id)).Nodup) :
    ((each store batch).1.map (·.id)).Nodup := by
  have hkeys := congrArg (List.map Prod.fst) (map_key_created store batch)
  rw [List.map_map, List.map_map] at hkeys
  exact hkeys ▸ (List.filter_sublist.map _).nodup hids

/-- Two orders of a batch create prototypes of the same ids and types. -/
theorem alike_created (store : Store) (h : Rearranged xs ys) :
    Handle.Alike (each store xs).1 (each store ys).1 := by
  refine ⟨?_, nodup_id_created store h.ids⟩
  rw [map_key_created, map_key_created]
  exact (h.perm.filter _).map _

/-- A definition with the prototype that its id stands for, if it is concrete. -/
def placed (created : List Handle) (d : Definition) : Definition :=
  if isConcrete d then { d with handle := Handle.lastWithId? created d.id, state := .allocated } else d

/-- **PLACED**: where no id stands twice, a definition gets the new prototype that has its id. -/
theorem batch_each (store : Store) (hids : (batch.map (·.id)).Nodup)
    (hfresh : ∀ d ∈ batch, d.handle = none) :
    (each store batch).2.1 = batch.map (placed (each store batch).1) := by
  refine List.ext_getElem? fun i => ?_
  rw [List.getElem?_map]
  cases he : (each store batch).2.1[i]? with
  | none =>
      have hle : batch.length ≤ i := length_each store batch ▸ List.getElem?_eq_none_iff.mp he
      rw [List.getElem?_eq_none hle]
      rfl
  | some e =>
      obtain ⟨d, hd, hallocated⟩ := allocated_getElem? he
      rw [hd, Option.map_some, placed]
      cases hallocated with
      | concrete handle hconcrete hid htype =>
          have hmem : handle ∈ (each store batch).1 := by
            rw [created_eq_filterMap hfresh]
            exact List.mem_filterMap.mpr ⟨_, List.mem_of_getElem? he, rfl⟩
          rw [if_pos hconcrete, ← hid, Handle.lastWithId?_of_mem (nodup_id_created store hids) hmem]
      | other hother => rw [if_neg (by rw [hother]; exact Bool.false_ne_true)]

end Allocation

end Archetype
