import Archetype.Allocation

/-! # What allocation does to a batch

    Allocation walks a batch once, so every fact about it is an induction on the batch:

    * the new prototypes take the addresses after those in use, one after the other;
    * the store only grows, and each new prototype starts with the defaults of its type;
    * a definition gets a handle exactly if it is concrete, with its own id and type (`Allocated`). -/

namespace Archetype

namespace Allocation

variable {store : Store} {batch : List Definition}

/-- How a definition leaves allocation. -/
inductive Allocated : Definition → Definition → Prop
  | concrete (d : Definition) (handle : Handle) (hconcrete : isConcrete d = true)
      (hid : handle.id = d.id) (htype : handle.type = d.type.shape) :
      Allocated d { d with handle := some handle, state := .allocated }
  | other (d : Definition) (hother : isConcrete d = false) : Allocated d d

/-- The prototype allocated for a definition. -/
def newHandle (store : Store) (d : Definition) : Handle :=
  ⟨store.cells.size, d.id, d.type.shape⟩

/-- The store after a prototype is allocated for a definition. -/
def grown (store : Store) (d : Definition) : Store :=
  ⟨store.cells.push d.type.defaults⟩

@[simp] theorem size_grown (store : Store) (d : Definition) :
    (grown store d).cells.size = store.cells.size + 1 := Array.size_push _

theorem each_concrete {d : Definition} (h : isConcrete d = true) (rest : List Definition) :
    each store (d :: rest)
      = (newHandle store d :: (each (grown store d) rest).1,
          { d with handle := some (newHandle store d), state := .allocated }
            :: (each (grown store d) rest).2.1,
          (each (grown store d) rest).2.2) := by
  rw [each, if_pos h]
  rfl

theorem each_other {d : Definition} (h : isConcrete d = false) (rest : List Definition) :
    each store (d :: rest)
      = ((each store rest).1, d :: (each store rest).2.1, (each store rest).2.2) := by
  rw [each, if_neg (by rw [h]; exact Bool.false_ne_true)]

/-! ## The batch -/

/-- Each definition of the batch leaves allocation where it stood. -/
theorem allocated_getElem? {i : Nat} {e : Definition} (h : (each store batch).2.1[i]? = some e) :
    ∃ d, batch[i]? = some d ∧ Allocated d e := by
  induction batch generalizing store i with
  | nil => exact nomatch h
  | cons d rest ih =>
      cases hd : isConcrete d with
      | true =>
          rw [each_concrete hd] at h
          cases i with
          | zero =>
              rw [← Option.some.inj h]
              exact ⟨d, rfl, .concrete d _ hd rfl rfl⟩
          | succ i => exact ih h
      | false =>
          rw [each_other hd] at h
          cases i with
          | zero =>
              rw [← Option.some.inj h]
              exact ⟨d, rfl, .other d hd⟩
          | succ i => exact ih h

theorem length_each (store : Store) (batch : List Definition) :
    (each store batch).2.1.length = batch.length := by
  induction batch generalizing store with
  | nil => rfl
  | cons d rest ih =>
      cases h : isConcrete d with
      | true => rw [each_concrete h, List.length_cons, List.length_cons, ih]
      | false => rw [each_other h, List.length_cons, List.length_cons, ih]

/-- The new prototypes are the handles of the batch. -/
theorem created_eq_filterMap (hfresh : ∀ d ∈ batch, d.handle = none) :
    (each store batch).1 = (each store batch).2.1.filterMap (·.handle) := by
  induction batch generalizing store with
  | nil => rfl
  | cons d rest ih =>
      have hrest : ∀ e ∈ rest, e.handle = none := fun e he => hfresh e (List.mem_cons_of_mem _ he)
      cases h : isConcrete d with
      | true =>
          rw [each_concrete h]
          exact congrArg (newHandle store d :: ·) (ih hrest)
      | false =>
          rw [each_other h, List.filterMap_cons_none (hfresh d List.mem_cons_self)]
          exact ih hrest

/-! ## Addresses and the store -/

/-- The new addresses are consecutive, the first one after those in use. -/
theorem map_address_created (store : Store) (batch : List Definition) :
    (each store batch).1.map (·.address)
      = List.range' store.cells.size (each store batch).1.length := by
  induction batch generalizing store with
  | nil => rfl
  | cons d rest ih =>
      cases h : isConcrete d with
      | true =>
          rw [each_concrete h]
          show store.cells.size :: ((each (grown store d) rest).1).map (·.address) = _
          rw [ih, size_grown, List.length_cons, List.range'_succ]
      | false =>
          rw [each_other h]
          exact ih store

theorem size_each (store : Store) (batch : List Definition) :
    (each store batch).2.2.cells.size = store.cells.size + (each store batch).1.length := by
  induction batch generalizing store with
  | nil => rfl
  | cons d rest ih =>
      cases h : isConcrete d with
      | true =>
          rw [each_concrete h, ih, size_grown, List.length_cons]
          omega
      | false =>
          rw [each_other h]
          exact ih store

theorem nodup_address_created (store : Store) (batch : List Definition) :
    ((each store batch).1.map (·.address)).Nodup := by
  rw [map_address_created]
  exact List.nodup_range'

theorem address_created_bounds {h : Handle} (hmem : h ∈ (each store batch).1) :
    store.cells.size ≤ h.address ∧ h.address < (each store batch).2.2.cells.size := by
  have haddress : h.address ∈ (each store batch).1.map (·.address) := List.mem_map_of_mem hmem
  rw [map_address_created, List.mem_range'_1] at haddress
  rw [size_each]
  exact haddress

private theorem fields_grown (store : Store) (d : Definition) (h : Handle) :
    (grown store d).fields h = if h.address = store.cells.size then d.type.defaults else store.fields h :=
  Store.fields_allocate store d.id d.type.shape d.type.defaults h

/-- The prototypes there were keep their fields. -/
theorem fields_each_of_lt {h : Handle} (hold : h.address < store.cells.size) :
    (each store batch).2.2.fields h = store.fields h := by
  induction batch generalizing store with
  | nil => rfl
  | cons d rest ih =>
      cases hd : isConcrete d with
      | true =>
          rw [each_concrete hd]
          rw [ih (by rw [size_grown]; omega), fields_grown, if_neg (by omega)]
      | false =>
          rw [each_other hd]
          exact ih hold

/-- A new prototype starts with the defaults of the type of its definition. -/
theorem fields_each_of_handle (hfresh : ∀ d ∈ batch, d.handle = none) {e : Definition} {h : Handle}
    (he : e ∈ (each store batch).2.1) (hhandle : e.handle = some h) :
    (each store batch).2.2.fields h = e.type.defaults := by
  induction batch generalizing store with
  | nil => exact nomatch he
  | cons d rest ih =>
      have hrest : ∀ e ∈ rest, e.handle = none := fun e he => hfresh e (List.mem_cons_of_mem _ he)
      cases hd : isConcrete d with
      | true =>
          rw [each_concrete hd] at he ⊢
          rcases List.mem_cons.mp he with rfl | hmem
          · -- the cell of the head is filled first, and the rest leaves it as it is
            have hnew : newHandle store d = h := Option.some.inj hhandle
            subst hnew
            have hlt : (newHandle store d).address < (grown store d).cells.size := by
              rw [size_grown]
              exact Nat.lt_succ_self _
            rw [fields_each_of_lt hlt, fields_grown]
            exact if_pos rfl
          · exact ih hrest hmem
      | false =>
          rw [each_other hd] at he ⊢
          rcases List.mem_cons.mp he with rfl | hmem
          · rw [hfresh e List.mem_cons_self] at hhandle
            exact nomatch hhandle
          · exact ih hrest hmem

/-! ## Two batches, and two stores -/

/-- Allocating two batches together is allocating one after the other. -/
theorem each_append (store : Store) (xs ys : List Definition) :
    each store (xs ++ ys)
      = ((each store xs).1 ++ (each (each store xs).2.2 ys).1,
          (each store xs).2.1 ++ (each (each store xs).2.2 ys).2.1,
          (each (each store xs).2.2 ys).2.2) := by
  induction xs generalizing store with
  | nil => rfl
  | cons d rest ih =>
      cases h : isConcrete d with
      | true => rw [List.cons_append, each_concrete h, each_concrete h, ih]; rfl
      | false => rw [List.cons_append, each_other h, each_other h, ih]; rfl

/-- Handles depend on a store only by how many addresses are in use. -/
theorem each_congr {left right : Store} (hsize : left.cells.size = right.cells.size)
    (batch : List Definition) :
    (each left batch).1 = (each right batch).1 ∧ (each left batch).2.1 = (each right batch).2.1 := by
  induction batch generalizing left right with
  | nil => exact ⟨rfl, rfl⟩
  | cons d rest ih =>
      cases h : isConcrete d with
      | true =>
          have hnew : newHandle left d = newHandle right d := by
            rw [newHandle, newHandle, hsize]
          obtain ⟨hcreated, hbatch⟩ := @ih (grown left d) (grown right d)
            (by rw [size_grown, size_grown, hsize])
          rw [each_concrete h, each_concrete h, hnew, hcreated, hbatch]
          exact ⟨rfl, rfl⟩
      | false =>
          obtain ⟨hcreated, hbatch⟩ := ih hsize
          rw [each_other h, each_other h, hcreated, hbatch]
          exact ⟨rfl, rfl⟩

end Allocation

end Archetype
