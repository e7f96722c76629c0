import Archetype.Proofs.Registration
import Std.Data.HashMap.Lemmas

/-! # The index of names

    A registry need not search its types by name: an index of their qualified names, their simple names and
    their namespaces answers as the search does.  It is filled type by type, and refuses a qualified name
    that it has.

    The invariant is `Indexes`: each of the three parts says of the types that were put in what a search of
    them finds.  One type more preserves it (`Indexes.insert`), and so does a list of them
    (`Indexes.fill`).  What is looked up in the index is then what is looked up in the types
    (`Indexes.lookup?_eq`), and for the types of a registry, whose qualified names are distinct, that is
    the one type the name stands for (`finds_of_distinct`). -/

namespace Archetype

/-- The positions of types by qualified name and by simple name, in the order of registration, and the
    namespace of each. -/
structure NameIndex where
  byQualified : Std.HashMap String Nat := ∅
  byName : Std.HashMap String (List Nat) := ∅
  scopes : List String := []

namespace NameIndex

/-- The index with one more type.  Its qualified name must be new. -/
def insert (index : NameIndex) (type : TypeHead) : Except SchemaError NameIndex :=
  let i := index.scopes.length
  if index.byQualified.contains type.qualified then .error (.duplicateType type.qualified)
  else .ok
    { byQualified := index.byQualified.insert type.qualified i
      byName := index.byName.insert type.name (index.byName.getD type.name [] ++ [i])
      scopes := index.scopes ++ [type.scope] }

/-- The index with more types, the first of them first. -/
def fill (index : NameIndex) : List TypeHead → Except SchemaError NameIndex
  | [] => .ok index
  | type :: rest => do
    let index ← index.insert type
    index.fill rest

/-- The type of a qualified name, unless the name has no dot and the type is of another namespace. -/
def direct? (index : NameIndex) (name preferred : String) : Option Nat :=
  index.byQualified[name]?.filter fun i =>
    Lookup.isDotted name || (index.scopes[i]?).any (· == preferred)

/-- The type of a simple name: that of the preferred namespace, or else the first. -/
def candidate? (index : NameIndex) (name preferred : String) : Option Nat :=
  let positions := index.byName.getD name []
  (positions.find? fun i => (index.scopes[i]?).any (· == preferred)).or positions.head?

/-- The type that a name stands for. -/
def lookup? (index : NameIndex) (name preferred : String) : Option Nat :=
  (index.direct? name preferred).or
    (if Lookup.isDotted name then none else index.candidate? name preferred)

/-- The positions of the types of a simple name. -/
def positions (types : List TypeHead) (name : String) : List Nat :=
  (List.range types.length).filter fun i => (types[i]?).any (·.name == name)

/-- An index of types, in the order of their registration. -/
structure Indexes (index : NameIndex) (types : List TypeHead) : Prop where
  qualified : ∀ name, index.byQualified[name]? = Lookup.qualified? types name
  named : ∀ name, index.byName.getD name [] = positions types name
  scopes : index.scopes = types.map (·.scope)

variable {index filled : NameIndex} {types before : List TypeHead} {type : TypeHead} {name preferred : String}

/-! ## Filling the index -/

theorem qualified?_append (types : List TypeHead) (type : TypeHead) (name : String) :
    Lookup.qualified? (types ++ [type]) name
      = (Lookup.qualified? types name).or (if type.qualified = name then some types.length else none) := by
  rw [Lookup.qualified?, List.findIdx?_append, ← Lookup.qualified?, List.findIdx?_singleton]
  by_cases hname : type.qualified = name
  · rw [if_pos hname, if_pos (beq_iff_eq.mpr hname), Option.map_some, Nat.zero_add]
  · rw [if_neg hname, if_neg (mt beq_iff_eq.mp hname), Option.map_none]

theorem positions_append (types : List TypeHead) (type : TypeHead) (name : String) :
    positions (types ++ [type]) name
      = positions types name ++ if type.name = name then [types.length] else [] := by
  have hold : (List.range types.length).filter (fun i => ((types ++ [type])[i]?).any (·.name == name))
      = positions types name := by
    refine List.filter_congr fun i hi => ?_
    rw [List.getElem?_append_left (List.mem_range.mp hi)]
  rw [positions, List.length_append, List.length_singleton, List.range_succ, List.filter_append, hold,
    List.filter_singleton, List.getElem?_concat_length, Option.any_some, Bool.cond_eq_ite]
  by_cases hname : type.name = name
  · rw [if_pos hname, if_pos (beq_iff_eq.mpr hname)]
  · rw [if_neg hname, if_neg (mt beq_iff_eq.mp hname)]

theorem contains_iff (h : Indexes index types) :
    index.byQualified.contains name = true ↔ name ∈ types.map (·.qualified) := by
  rw [Std.HashMap.contains_eq_isSome_getElem?, h.qualified, Lookup.qualified?, List.findIdx?_isSome,
    List.any_eq_true, List.mem_map]
  simp only [beq_iff_eq]

/-- **ONE MORE TYPE**: the index of types is, with one more, the index of one type more. -/
theorem Indexes.insert (h : Indexes index types) (hok : index.insert type = .ok filled) :
    Indexes filled (types ++ [type]) := by
  have hlength : index.scopes.length = types.length := by
    rw [h.scopes, List.length_map]
  rw [NameIndex.insert, hlength] at hok
  by_cases hold : index.byQualified.contains type.qualified = true
  · rw [if_pos hold] at hok
    cases hok
  · rw [if_neg hold] at hok
    obtain rfl := Except.ok.inj hok
    rw [contains_iff h] at hold
    constructor
    · intro name
      dsimp only
      rw [Std.HashMap.getElem?_insert, h.qualified, qualified?_append]
      by_cases hname : type.qualified = name
      · -- no type before has the name
        have hnew : Lookup.qualified? types name = none := by
          refine List.findIdx?_eq_none_iff.mpr fun t ht => beq_eq_false_iff_ne.mpr ?_
          rintro rfl
          exact hold (hname ▸ List.mem_map_of_mem ht)
        rw [if_pos (beq_iff_eq.mpr hname), if_pos hname, hnew, Option.none_or]
      · rw [if_neg (mt beq_iff_eq.mp hname), if_neg hname, Option.or_none]
    · intro name
      dsimp only
      rw [Std.HashMap.getD_insert, h.named, h.named, positions_append]
      by_cases hname : type.name = name
      · rw [if_pos (beq_iff_eq.mpr hname), if_pos hname, hname]
      · rw [if_neg (mt beq_iff_eq.mp hname), if_neg hname, List.append_nil]
    · dsimp only
      rw [h.scopes, List.map_append, List.map_singleton]

theorem indexes_empty : Indexes {} [] where
  qualified := by
    intro name
    exact Std.HashMap.getElem?_empty
  named := by
    intro name
    exact Std.HashMap.getD_empty
  scopes := rfl

/-- **FILLED**: an index takes types up to the first whose qualified name is there already. -/
theorem Indexes.fill (h : Indexes index before) (types : List TypeHead) :
    match Registry.firstRepeated? (before.map (·.qualified)).reverse (types.map (·.qualified)) with
    | some name => index.fill types = .error (.duplicateType name)
    | none => ∃ filled, index.fill types = .ok filled ∧ Indexes filled (before ++ types) := by
  induction types generalizing index before with
  | nil => exact ⟨index, rfl, (List.append_nil before).symm ▸ h⟩
  | cons type rest ih =>
      rw [List.map_cons, Registry.firstRepeated?, NameIndex.fill, List.contains_reverse]
      by_cases hold : type.qualified ∈ before.map (·.qualified)
      · rw [if_pos (List.contains_iff_mem.mpr hold), NameIndex.insert,
          if_pos ((contains_iff h).mpr hold)]
        rfl
      · have hnew : ¬index.byQualified.contains type.qualified = true := mt (contains_iff h).mp hold
        obtain ⟨next, hnext⟩ : ∃ next, index.insert type = .ok next := by
          rw [NameIndex.insert, if_neg hnew]
          exact ⟨_, rfl⟩
        have hrest := ih (h.insert hnext)
        rw [List.map_append, List.reverse_append, List.append_assoc] at hrest
        rw [if_neg (mt List.contains_iff_mem.mp hold), hnext]
        exact hrest

theorem insert_congr {other : TypeHead} (hname : type.name = other.name)
    (hscope : type.scope = other.scope) : index.insert type = index.insert other := by
  have hqualified : type.qualified = other.qualified := by
    rw [TypeHead.qualified, TypeHead.qualified, hname, hscope]
  rw [insert, insert, hqualified, hname, hscope]

/-- An index depends on the names and the namespaces of the types alone. -/
theorem fill_congr {others : List TypeHead}
    (h : (types.map fun t => (t.name, t.scope)) = others.map fun t => (t.name, t.scope)) :
    index.fill types = index.fill others := by
  induction types generalizing index others with
  | nil =>
      cases others with
      | nil => rfl
      | cons other rest => cases h
  | cons type types ih =>
      cases others with
      | nil => cases h
      | cons other others =>
          obtain ⟨hhead, hrest⟩ := List.cons.inj h
          obtain ⟨hname, hscope⟩ := Prod.mk.inj hhead
          rw [fill, fill, insert_congr hname hscope]
          cases hnext : index.insert other with
          | error e => rfl
          | ok next => exact ih hrest

/-! ## Looking up in the index -/

/-- The first position is the first of all positions that fits. -/
theorem find?_range (types : List TypeHead) (fits : TypeHead → Bool) :
    (List.range types.length).find? (fun i => (types[i]?).any fits) = types.findIdx? fits := by
  refine Option.ext fun i => ?_
  rw [List.find?_range_eq_some, List.findIdx?_eq_some_iff_getElem, List.mem_range]
  constructor
  · rintro ⟨hfits, hi, hbefore⟩
    rw [List.getElem?_eq_getElem hi, Option.any_some] at hfits
    refine ⟨hi, hfits, fun j hj => ?_⟩
    have hnot := hbefore j hj
    rw [List.getElem?_eq_getElem (hj.trans hi), Option.any_some, Bool.not_eq_true'] at hnot
    exact ne_true_of_eq_false hnot
  · rintro ⟨hi, hfits, hbefore⟩
    rw [List.getElem?_eq_getElem hi, Option.any_some]
    refine ⟨hfits, hi, fun j hj => ?_⟩
    rw [List.getElem?_eq_getElem (hj.trans hi), Option.any_some, Bool.not_eq_true']
    exact eq_false_of_ne_true (hbefore j hj)

namespace Indexes

variable {i : Nat}

theorem any_scope (h : Indexes index types) (i : Nat) :
    (index.scopes[i]?).any (· == preferred) = (types[i]?).any (·.scope == preferred) := by
  rw [h.scopes, List.getElem?_map, Option.any_map]

theorem candidate?_eq (h : Indexes index types) :
    index.candidate? name preferred = Lookup.candidate? types name preferred := by
  have hscope : ((positions types name).find? fun i => (index.scopes[i]?).any (· == preferred))
      = types.findIdx? fun t => t.name == name && t.scope == preferred := by
    rw [positions, List.find?_filter, ← find?_range]
    refine congrArg (List.find? · _) (funext fun i => ?_)
    rw [h.any_scope]
    cases types[i]? with
    | none => rfl
    | some t => simp only [Option.any_some, Bool.decide_and, Bool.decide_eq_true]
  have hname : (positions types name).head? = types.findIdx? (·.name == name) := by
    rw [positions, List.head?_filter, find?_range]
  rw [candidate?, h.named, hscope, hname, Lookup.candidate?]
  cases types.findIdx? fun t => t.name == name && t.scope == preferred <;> rfl

/-- **LOOKED UP**: the index answers as a search of the types does. -/
theorem lookup?_eq (h : Indexes index types) :
    index.lookup? name preferred = Lookup.lookup? types name preferred := by
  rw [lookup?, direct?, h.qualified, h.candidate?_eq, Lookup.lookup?]
  cases Lookup.qualified? types name with
  | none => rfl
  | some i =>
      rw [Option.filter_some, h.any_scope]
      dsimp only
      split <;> rfl

/-- What is found at once by the qualified name is what the scan of the simple name finds. -/
theorem candidate?_of_direct? (h : Indexes index types) (hdotted : Lookup.isDotted name = false)
    (hdirect : index.direct? name preferred = some i) : index.candidate? name preferred = some i := by
  have hfound : index.lookup? name preferred = some i := by
    rw [lookup?, hdirect, Option.some_or]
  rw [h.candidate?_eq, ← Lookup.lookup?_undotted hdotted, ← h.lookup?_eq, hfound]

end Indexes

end NameIndex

namespace Registry

/-! ## What is found -/

variable {types : List Descriptor} {name preferred : String}

/-- What a name stands for among types, the first registered first. -/
structure Finds (types : List Descriptor) (name preferred : String) (found : Option Descriptor) :
    Prop where
  /-- A dotted name is a qualified name, whatever the namespace. -/
  dotted : Lookup.isDotted name = true → ∀ t, found = some t ↔ t ∈ types ∧ t.qualified = name
  /-- There is at most one type of the name in the preferred namespace. -/
  unique : ∀ t ∈ types, ∀ u ∈ types, t.name = name → u.name = name → t.scope = preferred →
    u.scope = preferred → t = u
  /-- It is found if there is one. -/
  inScope : Lookup.isDotted name = false →
    ∀ t ∈ types, t.name = name → t.scope = preferred → found = some t
  /-- Else the first of the name is found, in whatever namespace it is. -/
  first : Lookup.isDotted name = false → (∀ t ∈ types, t.name = name → t.scope ≠ preferred) →
    found = types.find? (·.name == name)

theorem finds_of_distinct (hdistinct : (types.map (·.qualified)).Nodup) :
    Finds types name preferred (meant? types preferred name) := by
  have hunique : ∀ t ∈ types, ∀ u ∈ types, t.name = name → u.name = name → t.scope = preferred →
      u.scope = preferred → t = u := by
    intro t ht u hu htname huname htscope huscope
    refine List.inj_on_of_nodup_map hdistinct ht hu ?_
    rw [TypeHead.qualified, TypeHead.qualified, htname, huname, htscope, huscope]
  refine ⟨?_, hunique, ?_, ?_⟩
  · intro hdotted t
    rw [meant?, if_pos hdotted]
    constructor
    · intro hfound
      have hname := List.find?_some hfound
      exact ⟨List.mem_of_find?_eq_some hfound, beq_iff_eq.mp hname⟩
    · rintro ⟨ht, rfl⟩
      exact find?_of_nodup_map hdistinct ht
  · intro hdotted t ht hname hscope
    rw [meant?, if_neg (ne_true_of_eq_false hdotted)]
    cases hfound : types.find? fun d => d.name == name && d.scope == preferred with
    | none =>
        have hnot := List.find?_eq_none.mp hfound t ht
        rw [hname, hscope, beq_self_eq_true, beq_self_eq_true] at hnot
        exact absurd rfl hnot
    | some u =>
        have hu := List.find?_some hfound
        rw [Bool.and_eq_true, beq_iff_eq, beq_iff_eq] at hu
        rw [Option.some_or, hunique t ht u (List.mem_of_find?_eq_some hfound) hname hu.1 hscope hu.2]
  · intro hdotted hother
    have hnone : (types.find? fun d => d.name == name && d.scope == preferred) = none := by
      refine List.find?_eq_none.mpr fun t ht hfits => ?_
      rw [Bool.and_eq_true, beq_iff_eq, beq_iff_eq] at hfits
      exact hother t ht hfits.1 hfits.2
    rw [meant?, if_neg (ne_true_of_eq_false hdotted), hnone, Option.none_or]

/-- The types have the names and the namespaces of their declarations, and stand in their order. -/
theorem Completions.map_named {declarations : List Descriptor} (h : Completions declarations types) :
    (types.map fun t => (t.name, t.scope)) = declarations.map fun d => (d.name, d.scope) := by
  refine h.map_eq fun i d t hd ht => ?_
  obtain ⟨hname, hscope, -⟩ := h.head hd ht
  rw [hname, hscope]

/-- The index of the declarations is that of the types. -/
theorem Completions.exists_index {declarations : List Descriptor} (h : Completions declarations types) :
    ∃ index, ({} : NameIndex).fill (heads declarations) = .ok index ∧ index.Indexes (heads types) := by
  have hsame : (heads types).map (fun t => (t.name, t.scope))
      = (heads declarations).map fun d => (d.name, d.scope) := by
    rw [heads, heads, List.map_map, List.map_map]
    exact h.map_named
  have hnone : firstRepeated? [] ((heads types).map (·.qualified)) = none := by
    rw [heads, List.map_map]
    exact firstRepeated?_eq_none_iff.mpr ⟨h.distinct, fun _ _ => List.not_mem_nil⟩
  have hfill := NameIndex.indexes_empty.fill (heads types)
  rw [List.map_nil, List.reverse_nil, hnone] at hfill
  rw [← NameIndex.fill_congr hsame]
  exact hfill

end Registry

/-- **FOUND BY NAME**: in a registry, a dotted name stands for the type of that qualified name, and another
    name for the type of the preferred namespace or else for the first registered.  An index of the
    declarations finds the same, and its short way by the qualified name leads to where the scan of the
    simple name leads. -/
theorem Draft.find?_exact {d : Draft} {r : Registry} (h : d.build.value = .ok r) :
    ((r.types.map fun t => (t.name, t.scope)) = d.declarations.map fun t => (t.name, t.scope)) ∧
      (∀ name preferred, Registry.Finds r.types name preferred (r.find? name preferred)) ∧
      ∃ index, ({} : NameIndex).fill (Registry.heads d.declarations) = .ok index ∧
        ∀ name preferred,
          (index.lookup? name preferred).bind (r.types[·]?) = r.find? name preferred ∧
          ∀ i, Lookup.isDotted name = false → index.direct? name preferred = some i →
            index.candidate? name preferred = some i := by
  have hcompletions := completions_of_build h
  refine ⟨hcompletions.map_named, ?_, ?_⟩
  · intro name preferred
    rw [Registry.find?, Registry.bind_lookup?_heads]
    exact Registry.finds_of_distinct hcompletions.distinct
  · obtain ⟨index, hindex, hindexes⟩ := hcompletions.exists_index
    refine ⟨index, hindex, fun name preferred => ⟨?_, ?_⟩⟩
    · rw [hindexes.lookup?_eq]
      rfl
    · intro i hdotted hdirect
      exact hindexes.candidate?_of_direct? hdotted hdirect

namespace Draft

/-! ### Three types of one name, and two whose names have dots -/

def statsDraft : Draft where
  declarations := [(Descriptor.composite "Stats").inScope "Game", (Descriptor.composite "Stats").inScope "Mod",
    Descriptor.composite "Stats", Descriptor.composite "Mod.Extra",
    (Descriptor.composite "Extra").inScope "Game.Mod"]

theorem stats_found :
    ∃ r, statsDraft.build.value = .ok r ∧
      (∀ name preferred, Registry.Finds r.types name preferred (r.find? name preferred)) ∧
      ["Game", "Mod", "", "Other"].map (fun scope => (r.find? "Stats" scope).map (·.qualified))
        = [some "Game.Stats", some "Mod.Stats", some "Stats", some "Game.Stats"] ∧
      ["Stats", "Mod.Stats", "Extra", "Mod.Extra", "Game.Mod.Extra", "Game.Extra"].map
          (fun name => (r.find? name "Mod").map (·.qualified))
        = [some "Mod.Stats", some "Mod.Stats", some "Game.Mod.Extra", some "Mod.Extra",
          some "Game.Mod.Extra", none] := by
  have hchecked : (statsDraft.build.value.toOption.any fun r =>
      ["Game", "Mod", "", "Other"].map (fun scope => (r.find? "Stats" scope).map (·.qualified))
          == [some "Game.Stats", some "Mod.Stats", some "Stats", some "Game.Stats"] &&
        ["Stats", "Mod.Stats", "Extra", "Mod.Extra", "Game.Mod.Extra", "Game.Extra"].map
            (fun name => (r.find? name "Mod").map (·.qualified))
          == [some "Mod.Stats", some "Mod.Stats", some "Game.Mod.Extra", some "Mod.Extra",
            some "Game.Mod.Extra", none]) = true := by
    decide +kernel
  obtain ⟨r, hr, hfound⟩ := (Option.any_eq_true ..).mp hchecked
  have hbuilt := Registry.eq_ok_of_toOption hr
  rw [Bool.and_eq_true, beq_iff_eq, beq_iff_eq] at hfound
  exact ⟨r, hbuilt, (find?_exact hbuilt).2.1, hfound⟩

end Draft

end Archetype
