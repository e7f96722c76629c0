import Archetype.Proofs.Climbing

/-! # Parents first

    A search from every number of a table shares what is done between its visits, and stops at the first circle
    that it runs into (`sort`).  It ends with all numbers done exactly if there is no circle at all
    (`exists_sort_iff`), and what it reports is a circle (`circle_of_sort`).

    Two things are kept by a visit, and from these both follow (`Visited`).  What is done is `Sorted`: each
    number of it came after its parent, so nothing that is done lies on a circle.  And the numbers on the
    stack are the way to the number that is visited, each of them the parent of the one that was left for it;
    so where the way comes back to one of them, the stack from there on is a circle. -/

namespace Archetype.Ancestry

variable {parents : List (Option Nat)} {stack sorted : List Nat} {i j k : Nat}

/-! ## What is done -/

/-- Numbers of a table, each of them once, and after its parent. -/
inductive Sorted (parents : List (Option Nat)) : List Nat → Prop
  | nil : Sorted parents []
  | snoc {sorted : List Nat} {i : Nat} (h : Sorted parents sorted) (hi : i < parents.length) (hnew : i ∉ sorted)
      (hparent : ∀ k, Step parents i k → k ∈ sorted) : Sorted parents (sorted ++ [i])

namespace Sorted

/-- The parent of a number that is done is done. -/
theorem closed (h : Sorted parents sorted) (hi : i ∈ sorted) (hstep : Step parents i k) : k ∈ sorted := by
  induction h with
  | nil => cases hi
  | snoc h _ _ hparent ih =>
      rcases List.mem_append.mp hi with hold | hlast
      · exact List.mem_append_left _ (ih hold)
      · rw [List.mem_singleton.mp hlast] at hstep
        exact List.mem_append_left _ (hparent k hstep)

theorem mem_of_transGen (h : Sorted parents sorted) (hi : i ∈ sorted)
    (hreach : Relation.TransGen (Step parents) i k) : k ∈ sorted := by
  induction hreach with
  | single hstep => exact h.closed hi hstep
  | tail _ hstep ih => exact h.closed ih hstep

/-- **NO CIRCLES**: no number that is done is led back to. -/
theorem acyclic (h : Sorted parents sorted) (hi : i ∈ sorted) : ¬Relation.TransGen (Step parents) i i := by
  induction h with
  | nil => cases hi
  | @snoc sorted last h _ hnew hparent ih =>
      rcases List.mem_append.mp hi with hold | hlast
      · exact ih hold
      · rw [List.mem_singleton.mp hlast]
        intro hcircle
        -- the way back would lead through what was done before
        obtain ⟨next, hstep, hback⟩ := Relation.TransGen.head'_iff.mp hcircle
        have hnext : next ∈ sorted := hparent next hstep
        rcases Relation.reflTransGen_iff_eq_or_transGen.mp hback with rfl | hmore
        · exact hnew hnext
        · exact hnew (h.mem_of_transGen hnext hmore)

end Sorted

/-! ## The way to a number -/

/-- The way that a visit has taken to a number: each number on it is the parent of the next one. -/
def Leads (parents : List (Option Nat)) (stack : List Nat) (i : Nat) : Prop :=
  (i :: stack).IsChain fun k j => Step parents j k

theorem leads_nil (parents : List (Option Nat)) (i : Nat) : Leads parents [] i :=
  .singleton i

/-- **A REAL CIRCLE**: where the way comes back, the stack from there on goes from number to parent. -/
theorem isChain_of_leads (h : Leads parents stack i) (hi : i ∈ stack) :
    (i :: ((stack.takeWhile (· != i)).reverse ++ [i])).IsChain (Step parents) := by
  obtain ⟨front, back, hstack, hfront⟩ := List.eq_append_cons_of_mem hi
  have htake : stack.takeWhile (· != i) = front := by
    rw [hstack, List.takeWhile_append_of_pos, List.takeWhile_cons_of_neg (by simp), List.append_nil]
    intro j hj
    exact bne_iff_ne.mpr fun heq => hfront (heq ▸ hj)
  have hway : (i :: (front ++ [i])).IsChain fun k j => Step parents j k := by
    refine List.IsChain.prefix h ⟨back, ?_⟩
    rw [hstack, List.cons_append, List.append_assoc]
    rfl
  rw [htake]
  have hreverse : (i :: (front ++ [i])).reverse = i :: (front.reverse ++ [i]) := by
    rw [List.reverse_cons, List.reverse_append]
    rfl
  rw [← hreverse]
  exact List.isChain_reverse.mpr hway

/-! ## The search -/

/-- What visiting some numbers comes to: they are done, with what had to be done before and nothing that is on
    the stack, or there is a circle. -/
inductive Visited (parents : List (Option Nat)) (stack sorted visited : List Nat) :
    Except (List Nat) (List Nat) → Prop
  | done {more : List Nat} (h : Sorted parents (sorted ++ more)) (hvisited : ∀ i ∈ visited, i ∈ sorted ++ more)
      (hstack : ∀ j ∈ more, j ∉ stack) : Visited parents stack sorted visited (.ok (sorted ++ more))
  | circle {start : Nat} {between : List Nat} (h : (start :: (between ++ [start])).IsChain (Step parents)) :
      Visited parents stack sorted visited (.error (start :: (between ++ [start])))

namespace Visited

variable {visited : List Nat} {found : Except (List Nat) (List Nat)}

/-- Where all of it is done already, nothing happens. -/
theorem of_subset (h : Sorted parents sorted) (hvisited : ∀ i ∈ visited, i ∈ sorted) :
    Visited parents stack sorted visited (.ok sorted) := by
  have hsame : sorted ++ [] = sorted := List.append_nil sorted
  have hnothing : Visited parents stack sorted visited (.ok (sorted ++ [])) :=
    .done (hsame.symm ▸ h) (hsame.symm ▸ hvisited) fun _ hj => absurd hj List.not_mem_nil
  rwa [hsame] at hnothing

/-- When its parent is done, a number that was left on the stack is done too. -/
theorem above (h : Visited parents (i :: stack) sorted [j] found) (hstep : Step parents i j)
    (hi : i < parents.length) (hnew : i ∉ sorted) (hback : i ∉ stack) :
    Visited parents stack sorted [i] (found.map (· ++ [i])) := by
  cases h with
  | circle hcircle => exact .circle hcircle
  | @done more hmore hvisited hstack =>
      have hparent : j ∈ sorted ++ more := hvisited j (List.mem_singleton_self j)
      -- the visits to those above it cannot have done it: it was on the stack
      have hlast : i ∉ sorted ++ more := by
        intro hmem
        rcases List.mem_append.mp hmem with hold | hsome
        · exact hnew hold
        · exact hstack i hsome List.mem_cons_self
      have hsorted : Sorted parents (sorted ++ more ++ [i]) := by
        refine hmore.snoc hi hlast fun k hk => ?_
        rwa [Option.some.inj (Option.some.inj (hk.symm.trans hstep))]
      show Visited parents stack sorted [i] (.ok (sorted ++ more ++ [i]))
      rw [List.append_assoc] at hsorted ⊢
      refine .done hsorted (fun k hk => ?_) fun k hk => ?_
      · exact List.mem_append_right _ (List.mem_append_right _ hk)
      · rcases List.mem_append.mp hk with hsome | hself
        · exact fun hmem => hstack k hsome (List.mem_cons_of_mem i hmem)
        · rw [List.mem_singleton.mp hself]
          exact hback

/-- Visits that go on from what other visits have done. -/
theorem andThen {later : List Nat} (h : Visited parents [] sorted visited found)
    {next : List Nat → Except (List Nat) (List Nat)}
    (hnext : ∀ done, Sorted parents done → Visited parents [] done later (next done)) :
    Visited parents [] sorted (visited ++ later) (found >>= next) := by
  cases h with
  | circle hcircle => exact .circle hcircle
  | @done more hmore hdone _ =>
      show Visited parents [] sorted (visited ++ later) (next (sorted ++ more))
      have hlater := hnext (sorted ++ more) hmore
      generalize next (sorted ++ more) = found at hlater ⊢
      cases hlater with
      | circle hcircle => exact .circle hcircle
      | @done rest hrest hall _ =>
          have hfirst : ∀ i ∈ visited, i ∈ sorted ++ more ++ rest := fun i hi =>
            List.mem_append_left _ (hdone i hi)
          rw [List.append_assoc] at hrest hall hfirst ⊢
          exact .done hrest (List.forall_mem_append.mpr ⟨hfirst, hall⟩) fun _ _ => List.not_mem_nil

end Visited

/-- **STEP**: one visit. -/
theorem visited_sortFrom (hinside : Inside parents) (hi : i < parents.length) (h : Sorted parents sorted)
    (hleads : Leads parents stack i) : Visited parents stack sorted [i] (sortFrom parents stack i sorted) := by
  fun_induction sortFrom parents stack i sorted with
  | case1 stack i hdone =>
      refine .of_subset h fun j hj => ?_
      rw [List.mem_singleton.mp hj]
      exact List.contains_iff_mem.mp hdone
  | case2 stack i hdone hback => exact .circle (isChain_of_leads hleads (List.contains_iff_mem.mp hback))
  | case3 stack i hdone hback hentry => exact absurd hi (Nat.not_lt.mpr (List.getElem?_eq_none_iff.mp hentry))
  | case4 stack i hdone hback hentry =>
      have hnew : i ∉ sorted := fun hmem => hdone (List.contains_iff_mem.mpr hmem)
      refine .done (h.snoc hi hnew fun k hstep => ?_) (fun j hj => List.mem_append_right _ hj) fun j hj => ?_
      · cases hentry.symm.trans hstep
      · rw [List.mem_singleton.mp hj]
        exact fun hmem => hback (List.contains_iff_mem.mpr hmem)
  | case5 stack i hdone hback parent hentry _ ih =>
      have habove := ih (hinside i parent hentry) (.cons_cons hentry hleads)
      exact habove.above hentry hi (fun hmem => hdone (List.contains_iff_mem.mpr hmem))
        fun hmem => hback (List.contains_iff_mem.mpr hmem)

/-- **RUN**: visits one after the other. -/
theorem visited_foldlM (hinside : Inside parents) {visited : List Nat} (hvisited : ∀ i ∈ visited, i < parents.length)
    (h : Sorted parents sorted) : Visited parents [] sorted visited
      (visited.foldlM (fun sorted i => sortFrom parents [] i sorted) sorted) := by
  induction visited generalizing sorted with
  | nil => exact .of_subset h fun _ hi => absurd hi List.not_mem_nil
  | cons i rest ih =>
      obtain ⟨hi, hrest⟩ := List.forall_mem_cons.mp hvisited
      rw [List.foldlM_cons]
      exact (visited_sortFrom hinside hi h (leads_nil parents i)).andThen fun _ hdone => ih hrest hdone

theorem visited_sort (hinside : Inside parents) :
    Visited parents [] [] (List.range parents.length) (sort parents) :=
  visited_foldlM hinside (fun _ hi => List.mem_range.mp hi) .nil

/-! ## What it comes to -/

/-- **IN ORDER**: where the search succeeds, every number comes once, and after its parent. -/
theorem sorted_of_sort (hinside : Inside parents) {order : List Nat} (h : sort parents = .ok order) :
    Sorted parents order ∧ ∀ i < parents.length, i ∈ order := by
  have hvisited := visited_sort hinside
  rw [h] at hvisited
  generalize hresult : Except.ok order = result at hvisited
  cases hvisited with
  | circle => cases hresult
  | @done more hsorted hall _ =>
      obtain rfl : order = [] ++ more := Except.ok.inj hresult
      exact ⟨hsorted, fun i hi => hall i (List.mem_range.mpr hi)⟩

/-- **A CIRCLE**: where it does not, what it reports goes from number to parent and ends where it starts. -/
theorem circle_of_sort (hinside : Inside parents) {circle : List Nat} (h : sort parents = .error circle) :
    ∃ start between, circle = start :: (between ++ [start]) ∧ circle.IsChain (Step parents) := by
  have hvisited := visited_sort hinside
  rw [h] at hvisited
  cases hvisited with
  | circle hcircle => exact ⟨_, _, rfl, hcircle⟩

/-- **SORTED**: the search succeeds exactly where no number is led back to. -/
theorem exists_sort_iff (hinside : Inside parents) :
    (∃ order, sort parents = .ok order) ↔ ∀ i, ¬Relation.TransGen (Step parents) i i := by
  constructor
  · rintro ⟨order, horder⟩ i hcircle
    obtain ⟨hsorted, hall⟩ := sorted_of_sort hinside horder
    obtain ⟨j, -, hstep⟩ := Relation.TransGen.tail'_iff.mp hcircle
    exact hsorted.acyclic (hall i (hinside j i hstep)) hcircle
  · intro hacyclic
    cases horder : sort parents with
    | ok order => exact ⟨order, rfl⟩
    | error circle =>
        obtain ⟨start, between, rfl, hchain⟩ := circle_of_sort hinside horder
        exact absurd (transGen_of_isChain hchain) (hacyclic start)

end Archetype.Ancestry
