import Archetype.Proofs.Exclusion

/-! # Depth first

    The order of a batch is defined by the lines of all its definitions.  A search need not climb each line to
    its end: it stops where it comes to a number that is done, and it finds a circle where it comes to one that
    is still on its stack (`visit`).  It comes to the same sequence and the same circles (`sorted_search`,
    `contains_cyclic_search`), so it puts a batch in the same order (`searchOrder?_eq`).

    The heart is that what is done is closed: the ancestors of a number that is done are done.  So of a new
    line, what is not done stands before all that is, and is appended as it is (`visit_eq`).  If the line comes
    to a number that is done, nothing new on it lies on a circle, since that whole circle would be done.  If it
    comes back to a number of its own, the stack from that number on is the circle, and what stands below is
    not on it (`mem_newCircle`). -/

namespace Archetype

namespace Ancestry

/-! ## The search -/

/-- How far a search has come: the numbers that are done, each after its ancestors, and those that were found
    on circles. -/
structure Search where
  sorted : List Nat := []
  cyclic : List Nat := []

/-- Visits a number, with the numbers of `stack` on the way to it, the last one first. -/
def visit (parents : List (Option Nat)) (stack : List Nat) (i : Nat) (found : Search) : Search :=
  if found.sorted.contains i then found
  else if hnew : stack.contains i = true then
    { found with cyclic := found.cyclic ++ (stack.takeWhile (· != i) ++ [i]) }
  else
    match hi : parents[i]? with
    | none => found
    | some none => { found with sorted := found.sorted ++ [i] }
    | some (some parent) =>
      have : unseen parents (i :: stack) < unseen parents stack :=
        unseen_cons_lt (List.getElem?_eq_some_iff.1 hi).1 (by simpa using hnew)
      let above := visit parents (i :: stack) parent found
      { above with sorted := above.sorted ++ [i] }
termination_by unseen parents stack

/-- A search from each number of a table. -/
def search (parents : List (Option Nat)) : Search :=
  (List.range parents.length).foldl (fun found i => visit parents [] i found) {}

/-- Walks on from `i` until it comes back to `start` or to an end, and gives the numbers it comes to; none if
    it has not within so many steps. -/
def walkBack? (parents : List (Option Nat)) (start : Nat) : Nat → Nat → Option (List Nat)
  | 0, _ => none
  | steps + 1, i =>
    match parents[i]? with
    | some (some parent) =>
      if parent = start then some [parent] else (walkBack? parents start steps parent).map (parent :: ·)
    | _ => some []

variable {parents : List (Option Nat)} {stack done : List Nat} {i j k : Nat}

/-! ## What is done -/

/-- Numbers of a table, with all their ancestors. -/
structure Done (parents : List (Option Nat)) (done : List Nat) : Prop where
  inside : ∀ j ∈ done, j < parents.length
  closed : ∀ j ∈ done, ∀ k, Step parents j k → k ∈ done

/-- Steps do not lead out of what is done. -/
theorem Done.mem_of_reflTransGen (h : Done parents done) (hj : j ∈ done)
    (hreach : Relation.ReflTransGen (Step parents) j k) : k ∈ done := by
  induction hreach with
  | refl => exact hj
  | tail _ hstep ih => exact h.closed _ ih _ hstep

/-- Nor does a line. -/
theorem Done.mem_of_mem_line (h : Done parents done) (hi : i ∈ done)
    (hj : j ∈ (climbFrom parents stack i).line) : j ∈ done := by
  fun_induction climbFrom parents stack i with
  | case1 stack i hseen => cases hj
  | case2 stack i hseen hentry => cases hj
  | case3 stack i hseen hentry =>
      rw [List.mem_singleton.mp hj]
      exact hi
  | case4 stack i hseen parent hentry _ above ih =>
      rcases List.mem_cons.mp hj with rfl | hmem
      · exact hi
      · exact ih (h.closed i hi parent hentry) hmem

/-! ## One visit -/

/-- What a visit finds on circles: if its line comes to nothing that is done, but back to a number of its own
    or of the stack, all from that number on. -/
def newCircle (done stack : List Nat) (found : Climb) : List Nat :=
  if found.line.any done.contains then []
  else
    match found.repeated with
    | none => []
    | some k => (found.line.reverse ++ stack).takeWhile (· != k) ++ [k]

/-- **ONE VISIT**: what is new of a line is done after it, from the eldest on. -/
theorem visit_eq {found : Search} (hdone : Done parents found.sorted)
    (hstack : ∀ j ∈ stack, j ∉ found.sorted) :
    visit parents stack i found
      = ⟨found.sorted ++ ((climbFrom parents stack i).line.filter (!found.sorted.contains ·)).reverse,
          found.cyclic ++ newCircle found.sorted stack (climbFrom parents stack i)⟩ := by
  fun_induction visit parents stack i found with
  | case1 stack i hi =>
      have hmem : i ∈ found.sorted := List.contains_iff_mem.mp hi
      have hnew : stack.contains i = false :=
        Bool.eq_false_iff.mpr fun hseen => hstack i (List.contains_iff_mem.mp hseen) hmem
      obtain ⟨above, hline⟩ := line_eq_cons hnew (hdone.inside i hmem)
      have hnothing : (climbFrom parents stack i).line.filter (!found.sorted.contains ·) = [] := by
        refine List.filter_eq_nil_iff.mpr fun j hj => ?_
        rw [List.contains_iff_mem.mpr (hdone.mem_of_mem_line hmem hj)]
        exact Bool.false_ne_true
      have hmeets : (climbFrom parents stack i).line.any found.sorted.contains = true := by
        rw [hline, List.any_cons, hi, Bool.true_or]
      rw [hnothing, newCircle, if_pos hmeets, List.reverse_nil, List.append_nil, List.append_nil]
  | case2 stack i hi hseen =>
      rw [climbFrom_seen hseen]
      show _ = Search.mk (found.sorted ++ []) _
      rw [List.append_nil]
      rfl
  | case3 stack i hi hseen hentry =>
      rw [climbFrom_outside (Bool.eq_false_iff.mpr hseen) hentry]
      show _ = Search.mk (found.sorted ++ []) (found.cyclic ++ [])
      rw [List.append_nil, List.append_nil]
  | case4 stack i hi hseen hentry =>
      have hfalse : found.sorted.contains i = false := Bool.eq_false_iff.mpr hi
      rw [climbFrom_root (Bool.eq_false_iff.mpr hseen) hentry, List.filter_cons_of_pos (by rw [hfalse]; rfl),
        newCircle, List.any_cons, hfalse]
      show _ = Search.mk (found.sorted ++ [i]) (found.cyclic ++ [])
      rw [List.append_nil]
  | case5 stack i hi hseen parent hentry _ above ih =>
      have hfalse : found.sorted.contains i = false := Bool.eq_false_iff.mpr hi
      have hlonger : ∀ j ∈ i :: stack, j ∉ found.sorted := by
        intro j hj
        rcases List.mem_cons.mp hj with rfl | hmem
        · exact fun hin => hi (List.contains_iff_mem.mpr hin)
        · exact hstack j hmem
      have habove : visit parents (i :: stack) parent found = _ := ih hlonger
      -- the number itself is new, so it comes after what is new above it
      have hcircle : newCircle found.sorted stack ⟨i :: (climbFrom parents (i :: stack) parent).line,
            (climbFrom parents (i :: stack) parent).repeated⟩
          = newCircle found.sorted (i :: stack) (climbFrom parents (i :: stack) parent) := by
        rw [newCircle, newCircle, List.any_cons, hfalse, Bool.false_or, List.reverse_cons, List.append_assoc]
        rfl
      rw [climbFrom_parent (Bool.eq_false_iff.mpr hseen) hentry, hcircle,
        List.filter_cons_of_pos (by rw [hfalse]; rfl), List.reverse_cons, ← List.append_assoc]
      show Search.mk ((visit parents (i :: stack) parent found).sorted ++ [i])
        (visit parents (i :: stack) parent found).cyclic = _
      rw [habove]

/-! ## Circles -/

theorem Step.unique (hj : Step parents i j) (hk : Step parents i k) : j = k :=
  Option.some.inj (Option.some.inj (hj.symm.trans hk))

/-- From wherever a circle leads, it leads back. -/
theorem reflTransGen_back (hcircle : Relation.TransGen (Step parents) j j)
    (hreach : Relation.ReflTransGen (Step parents) j k) : Relation.ReflTransGen (Step parents) k j := by
  induction hreach with
  | refl => exact .refl
  | tail _ hstep ih =>
      rcases ih.cases_head with rfl | ⟨next, hnext, hback⟩
      · obtain ⟨next, hnext, hback⟩ := Relation.TransGen.head'_iff.mp hcircle
        rw [hstep.unique hnext]
        exact hback
      · rw [hstep.unique hnext]
        exact hback

/-- What stands on a line from the number on that the line comes back to lies on a circle. -/
theorem transGen_of_mem_circle (hinside : Inside parents) {skipped between : List Nat}
    (hback : (climb parents i).repeated = some k) (hline : (climb parents i).line = skipped ++ k :: between)
    (hj : j ∈ k :: between) : Relation.TransGen (Step parents) j j := by
  have hchain : (k :: (between ++ [k])).IsChain (Step parents) := by
    refine (isChain_line_concat hinside hback).suffix ⟨skipped, ?_⟩
    rw [hline, List.append_assoc]
    rfl
  have hcircle : Relation.TransGen (Step parents) k k := transGen_of_isChain hchain
  rcases List.mem_cons.mp hj with rfl | hmem
  · exact hcircle
  · obtain ⟨before, after, rfl⟩ := List.append_of_mem hmem
    have hto : (k :: (before ++ [j])).IsChain (Step parents) := hchain.prefix ⟨after ++ [k], by simp⟩
    have hfrom : (j :: (after ++ [k])).IsChain (Step parents) := hchain.suffix ⟨k :: before, by simp⟩
    exact (transGen_of_isChain hfrom).trans (transGen_of_isChain hto)

/-- From every number of a line, steps lead to those on it that lie on circles. -/
theorem reflTransGen_of_mem_line (hinside : Inside parents) {front back : List Nat}
    (hline : (climb parents i).line = front ++ j :: back)
    (hcircle : Relation.TransGen (Step parents) j j) (hk : k ∈ (climb parents i).line) :
    Relation.ReflTransGen (Step parents) k j := by
  have hchain : (front ++ j :: back).Pairwise (Relation.TransGen (Step parents)) := by
    rw [← hline]
    exact List.isChain_iff_pairwise.mp ((isChain_line hinside [] i).imp fun _ _ => .single)
  obtain ⟨-, hbehind, hbefore⟩ := List.pairwise_append.mp hchain
  -- one of the two is above the other, and the circle leads back
  rw [hline] at hk
  rcases List.mem_append.mp hk with hfront | hrest
  · exact (hbefore k hfront j List.mem_cons_self).to_reflTransGen
  · rcases List.mem_cons.mp hrest with rfl | hback
    · exact .refl
    · exact reflTransGen_back hcircle ((List.pairwise_cons.mp hbehind).1 k hback).to_reflTransGen

/-- A number of a line stands neither before nor behind itself there. -/
theorem not_mem_of_line {front back : List Nat} (hline : (climb parents i).line = front ++ j :: back) :
    j ∉ front ∧ j ∉ back := by
  have hnodup : (front ++ j :: back).Nodup := by
    rw [← hline]
    exact (nodup_line parents [] i).1
  obtain ⟨-, hbehind, hdisjoint⟩ := List.nodup_append.mp hnodup
  exact ⟨fun hin => hdisjoint j hin j List.mem_cons_self rfl, (List.nodup_cons.mp hbehind).1⟩

/-- The parent of a number on a line stands behind it there, or is what the line comes back to. -/
theorem mem_behind_or_repeated (hinside : Inside parents) {front back : List Nat}
    (hline : (climb parents i).line = front ++ j :: back) (hstep : Step parents j k) :
    k ∈ back ∨ (climb parents i).repeated = some k := by
  have hj : j ∈ (climb parents i).line := by
    rw [hline]
    exact List.mem_append_right _ List.mem_cons_self
  rcases follows_or_repeated hinside hj hstep with ⟨left, right, hsplit⟩ | ⟨hback, -⟩
  · -- the number stands only once on the line, so both splittings are the same
    obtain ⟨hfront, hback⟩ := not_mem_of_line hline
    obtain ⟨-, -, hright⟩ := (List.append_cons_inj_of_notMem hfront hback).mp (hline.symm.trans hsplit)
    rw [hright]
    exact Or.inl List.mem_cons_self
  · exact Or.inr hback

/-- A line on which a circle lies comes back to a number that does not stand behind it. -/
theorem exists_repeated (hinside : Inside parents) {front back : List Nat}
    (hline : (climb parents i).line = front ++ j :: back)
    (hcircle : Relation.TransGen (Step parents) j j) :
    ∃ k, (climb parents i).repeated = some k ∧ k ∉ back ∧ k ∈ front ++ j :: back := by
  by_contra hnone
  have hrepeated (k : Nat) (hback : (climb parents i).repeated = some k) : k ∈ back := by
    by_contra hk
    refine hnone ⟨k, hback, hk, ?_⟩
    rw [← hline]
    exact (repeated_mem hback).resolve_left List.not_mem_nil
  -- so steps from `j` on do not lead out of what stands behind it
  have hbehind (k : Nat) (hreach : Relation.TransGen (Step parents) j k) : k ∈ back := by
    induction hreach with
    | single hstep => exact (mem_behind_or_repeated hinside hline hstep).elim id (hrepeated _)
    | @tail m k _ hstep ih =>
        obtain ⟨before, after, rfl⟩ := List.append_of_mem ih
        have hsplit : (climb parents i).line = (front ++ j :: before) ++ m :: after := by
          rw [hline, List.append_assoc]
          rfl
        rcases mem_behind_or_repeated hinside hsplit hstep with hafter | hback
        · exact List.mem_append_right _ (List.mem_cons_of_mem m hafter)
        · exact hrepeated k hback
  exact (not_mem_of_line hline).2 (hbehind j hcircle)

/-- What a visit finds where its line comes to nothing that is done. -/
theorem newCircle_eq {skipped between : List Nat} (hnew : ∀ m ∈ (climb parents i).line, m ∉ done)
    (hback : (climb parents i).repeated = some k)
    (hline : (climb parents i).line = skipped ++ k :: between) :
    newCircle done [] (climb parents i) = between.reverse ++ [k] := by
  have hfree : ¬ (climb parents i).line.any done.contains = true := by
    rw [List.any_eq_true]
    rintro ⟨m, hm, hmem⟩
    exact hnew m hm (List.contains_iff_mem.mp hmem)
  have hbetween : k ∉ between := (not_mem_of_line hline).2
  rw [newCircle, if_neg hfree, hback]
  show (((climb parents i).line.reverse ++ []).takeWhile (· != k)) ++ [k] = _
  rw [List.append_nil, hline, List.reverse_append, List.reverse_cons, List.append_assoc,
    List.takeWhile_append_of_pos, List.singleton_append, List.takeWhile_cons_of_neg (by simp),
    List.append_nil]
  intro m hm
  exact bne_iff_ne.mpr fun heq => hbetween (heq ▸ List.mem_reverse.mp hm)

/-- **NEW CIRCLES**: a visit finds, of the numbers on its line that are not done, those that lie on circles. -/
theorem mem_newCircle (hinside : Inside parents) (hdone : Done parents done) :
    j ∈ newCircle done [] (climb parents i) ↔
      j ∈ (climb parents i).line ∧ j ∉ done ∧ Relation.TransGen (Step parents) j j := by
  constructor
  · intro hj
    have hnew : ∀ m ∈ (climb parents i).line, m ∉ done := by
      intro m hm hmem
      have hany : (climb parents i).line.any done.contains = true :=
        List.any_eq_true.mpr ⟨m, hm, List.contains_iff_mem.mpr hmem⟩
      rw [newCircle, if_pos hany] at hj
      cases hj
    cases hback : (climb parents i).repeated with
    | none =>
        rw [newCircle, hback] at hj
        split at hj <;> cases hj
    | some k =>
        have hk : k ∈ (climb parents i).line := (repeated_mem hback).resolve_left List.not_mem_nil
        obtain ⟨skipped, between, hline⟩ := List.append_of_mem hk
        have hmem : j ∈ k :: between := by
          rw [newCircle_eq hnew hback hline] at hj
          simpa [or_comm] using hj
        have hj : j ∈ (climb parents i).line := by
          rw [hline]
          exact List.mem_append_right _ hmem
        exact ⟨hj, hnew j hj, transGen_of_mem_circle hinside hback hline hmem⟩
  · rintro ⟨hj, hjdone, hcircle⟩
    obtain ⟨front, back, hline⟩ := List.append_of_mem hj
    have hnew : ∀ m ∈ (climb parents i).line, m ∉ done := fun m hm hmem =>
      hjdone (hdone.mem_of_reflTransGen hmem (reflTransGen_of_mem_line hinside hline hcircle hm))
    obtain ⟨k, hback, hbehind, hk⟩ := exists_repeated hinside hline hcircle
    rcases List.mem_append.mp hk with hfront | hrest
    · obtain ⟨skipped, between, rfl⟩ := List.append_of_mem hfront
      have hsplit : (climb parents i).line = skipped ++ k :: (between ++ j :: back) := by
        rw [hline, List.append_assoc]
        rfl
      rw [newCircle_eq hnew hback hsplit]
      simp
    · rcases List.mem_cons.mp hrest with rfl | hmem
      · rw [newCircle_eq hnew hback hline]
        exact List.mem_append_right _ (List.mem_singleton_self k)
      · exact absurd hmem hbehind

/-! ## The whole search -/

/-- Erasing duplicates leaves a list without any as it is. -/
theorem eraseDups_of_nodup {xs : List Nat} (h : xs.Nodup) : xs.eraseDups = xs := by
  induction xs with
  | nil => rfl
  | cons x rest ih =>
      obtain ⟨hx, hrest⟩ := List.nodup_cons.mp h
      have hfree : (rest.filter fun y => !y == x) = rest := by
        refine List.filter_eq_self.mpr fun y hy => ?_
        exact bne_iff_ne.mpr fun heq => hx (heq ▸ hy)
      rw [List.eraseDups_cons, hfree, ih hrest]

/-- A search that has visited the numbers of a list: their lines are done, one after the other, and what lies
    on circles there is found. -/
structure Search.Covers (parents : List (Option Nat)) (visited : List Nat) (found : Search) : Prop where
  sorted : found.sorted = (visited.flatMap fun i => (climb parents i).line.reverse).eraseDups
  cyclic : ∀ j, j ∈ found.cyclic ↔ j ∈ found.sorted ∧ Relation.TransGen (Step parents) j j

variable {visited : List Nat} {found : Search}

/-- The lines of what was visited are closed. -/
theorem Search.Covers.closed (hinside : Inside parents) (h : found.Covers parents visited) :
    Done parents found.sorted := by
  have hmem (j : Nat) : j ∈ found.sorted ↔ ∃ i ∈ visited, j ∈ (climb parents i).line := by
    simp only [h.sorted, List.mem_eraseDups, List.mem_flatMap, List.mem_reverse]
  refine ⟨fun j hj => ?_, fun j hj k hstep => ?_⟩
  · obtain ⟨i, -, hline⟩ := (hmem j).mp hj
    exact lt_length_of_mem_line hline
  · obtain ⟨i, hi, hline⟩ := (hmem j).mp hj
    refine (hmem k).mpr ⟨i, hi, ?_⟩
    rcases follows_or_repeated hinside hline hstep with ⟨front, back, hsplit⟩ | ⟨hback, -⟩
    · rw [climb, hsplit]
      exact List.mem_append_right _ (List.mem_cons_of_mem _ List.mem_cons_self)
    · exact (repeated_mem hback).resolve_left List.not_mem_nil

/-- **STEP**: visiting one more number adds its line. -/
theorem Search.Covers.visit (hinside : Inside parents) (h : found.Covers parents visited) (i : Nat) :
    (Ancestry.visit parents [] i found).Covers parents (visited ++ [i]) := by
  have hdone := h.closed hinside
  rw [visit_eq hdone fun _ hmem => absurd hmem List.not_mem_nil]
  refine ⟨?_, fun j => ?_⟩
  · have hline : ((climb parents i).line.filter (!found.sorted.contains ·)).Nodup :=
      (nodup_line parents [] i).1.filter _
    have hnew : ((climb parents i).line.filter (!found.sorted.contains ·)).reverse
        = (climb parents i).line.reverse.removeAll
            (visited.flatMap fun i => (climb parents i).line.reverse) := by
      rw [← List.filter_reverse, List.removeAll]
      refine List.filter_congr fun j _ => congrArg not ?_
      rw [Bool.eq_iff_iff, List.contains_iff_mem, List.elem_iff, h.sorted, List.mem_eraseDups]
    show found.sorted ++ ((climb parents i).line.filter (!found.sorted.contains ·)).reverse = _
    rw [List.flatMap_append, List.flatMap_singleton, List.eraseDups_append, ← h.sorted, ← hnew,
      eraseDups_of_nodup ((List.reverse_perm _).nodup_iff.mpr hline)]
  · show j ∈ found.cyclic ++ newCircle found.sorted [] (climb parents i)
      ↔ j ∈ found.sorted ++ ((climb parents i).line.filter (!found.sorted.contains ·)).reverse ∧ _
    rw [List.mem_append, List.mem_append, h.cyclic, mem_newCircle hinside hdone, List.mem_reverse,
      List.mem_filter, Bool.not_eq_true', Bool.eq_false_iff, ne_eq, List.contains_iff_mem, ← and_assoc,
      ← or_and_right]

/-- **RUN**: a search covers all that it visits. -/
theorem Search.Covers.foldl (hinside : Inside parents) (h : found.Covers parents visited) (more : List Nat) :
    (more.foldl (fun found i => Ancestry.visit parents [] i found) found).Covers parents (visited ++ more) := by
  induction more generalizing visited found with
  | nil =>
      rw [List.append_nil]
      exact h
  | cons i rest ih =>
      rw [List.append_cons]
      exact ih (h.visit hinside i)

theorem covers_search (hinside : Inside parents) :
    (search parents).Covers parents (List.range parents.length) := by
  have hnothing : Search.Covers parents [] {} := by
    refine ⟨rfl, fun j => ?_⟩
    exact ⟨fun hmem => absurd hmem List.not_mem_nil, fun hmem => absurd hmem.1 List.not_mem_nil⟩
  exact hnothing.foldl hinside (List.range parents.length)

/-- **SEARCH**: a search comes to the sequence of a table, -/
theorem sorted_search (hinside : Inside parents) : (search parents).sorted = Ordering.sequence parents :=
  (covers_search hinside).sorted

/-- and finds what lies on circles. -/
theorem contains_cyclic_search (hinside : Inside parents) (hi : i < parents.length) :
    (search parents).cyclic.contains i = Ordering.isCyclic parents i := by
  rw [Bool.eq_iff_iff, List.contains_iff_mem, (covers_search hinside).cyclic, sorted_search hinside,
    Ordering.mem_sequence, Ordering.isCyclic_iff_transGen hinside hi]
  exact and_iff_right hi

/-! ## Walking back -/

/-- A walk along a chain that comes to its start only at its end gives the chain. -/
theorem walkBack?_of_isChain {start : Nat} {between : List Nat} {steps : Nat} (hne : start ∉ between)
    (h : (i :: (between ++ [start])).IsChain (Step parents)) (hsteps : between.length < steps) :
    walkBack? parents start steps i = some (between ++ [start]) := by
  induction between generalizing i steps with
  | nil =>
      obtain ⟨steps, rfl⟩ := Nat.exists_eq_succ_of_ne_zero (Nat.ne_of_gt hsteps)
      have hstep : parents[i]? = some (some start) := (List.isChain_cons_cons.mp h).1
      rw [walkBack?, hstep]
      exact if_pos rfl
  | cons next rest ih =>
      obtain ⟨steps, rfl⟩ := Nat.exists_eq_succ_of_ne_zero (Nat.ne_zero_of_lt hsteps)
      obtain ⟨hstep, hrest⟩ := List.isChain_cons_cons.mp h
      have hstep : parents[i]? = some (some next) := hstep
      obtain ⟨hnext, hnot⟩ := List.ne_and_not_mem_of_not_mem_cons hne
      have hmore := ih hnot hrest (Nat.lt_of_succ_lt_succ hsteps)
      rw [walkBack?, hstep]
      show (if next = start then _ else _) = _
      rw [if_neg (Ne.symm hnext), hmore]
      rfl

/-- A line has no more numbers than its table. -/
theorem length_line_le (parents : List (Option Nat)) (i : Nat) :
    (climb parents i).line.length ≤ parents.length := by
  have hsubset : (climb parents i).line ⊆ List.range parents.length :=
    fun _ hj => List.mem_range.mpr (lt_length_of_mem_line hj)
  have hle := (nodup_line parents [] i).1.length_le_of_subset hsubset
  rwa [List.length_range] at hle

/-- **WALKS END**: from a number on a circle a walk comes back, within as many steps as the table has numbers,
    and what it comes to is the circle. -/
theorem walkBack?_eq (hinside : Inside parents) {line : List Nat} (hi : i < parents.length)
    (h : closedLine? parents i = some line) :
    ∃ path, walkBack? parents i parents.length i = some path ∧ line = i :: path := by
  obtain ⟨between, rfl, hne, hchain⟩ := Ordering.of_closedLine? hinside hi h
  refine ⟨between ++ [i], walkBack?_of_isChain hne hchain ?_, rfl⟩
  rw [closedLine?_eq] at h
  split at h
  · have hline : (climb parents i).line = i :: between := List.append_cancel_right (Option.some.inj h)
    have hle := length_line_le parents i
    rwa [hline, List.length_cons] at hle
  · cases h

end Ancestry

namespace Ordering

open Ancestry

variable {batch : List Definition}

/-! ## The order, by a search -/

/-- Reports the numbered definitions that were found on circles, each with what a walk from it comes to; none
    if a walk does not come back. -/
def reportWalks? (batch : List Definition) (parents : List (Option Nat)) (cyclic : List Nat) :
    List (Definition × Nat) → Option (Noted Unit)
  | [] => some (pure ())
  | (d, i) :: rest =>
    if cyclic.contains i then do
      let path ← walkBack? parents i parents.length i
      let reported ← reportWalks? batch parents cyclic rest
      let circle := (i :: path).filterMap fun j => (batch[j]?).map (·.id)
      return do
        Noted.report .error .cyclicInheritance d.location.file d.location.line
          s!"'{d.id}' inherits from itself: {circleArrow.intercalate circle}"
        reported
    else reportWalks? batch parents cyclic rest

/-- Puts a batch in order by a search; none if a walk along a circle does not come back. -/
def searchOrder? (batch : List Definition) : Option (Noted (List Nat × List Definition)) := do
  let parents := parents batch
  let found := search parents
  let kept := found.sorted.filter fun i => !found.cyclic.contains i
  let reported ← reportWalks? batch parents found.cyclic batch.zipIdx
  return do
    reported
    Noted.record .debug
      s!"ordered {kept.length} definitions ({batch.length - kept.length} excluded by cycles)"
    return (kept, batch.zipIdx.map fun (d, i) =>
      if found.cyclic.contains i then { d with state := .excluded } else d)

theorem contains_cyclic_parents {i : Nat} (hi : i < batch.length) :
    (search (parents batch)).cyclic.contains i = isCyclic (parents batch) i :=
  contains_cyclic_search (inside_parents batch) (by rw [length_parents]; exact hi)

/-- All walks come back, and the circles that are reported are those of the batch. -/
theorem reportWalks?_eq {numbered : List (Definition × Nat)}
    (hnumbered : ∀ entry ∈ numbered, entry.2 < batch.length) :
    reportWalks? batch (parents batch) (search (parents batch)).cyclic numbered
      = some (reportCircles batch (parents batch) numbered) := by
  induction numbered with
  | nil => rfl
  | cons entry rest ih =>
      obtain ⟨d, i⟩ := entry
      have hi : i < batch.length := hnumbered (d, i) List.mem_cons_self
      have hrest := ih fun e he => hnumbered e (List.mem_cons_of_mem _ he)
      rw [reportWalks?, reportCircles, contains_cyclic_parents hi, isCyclic, circle?, hrest]
      cases hline : closedLine? (parents batch) i with
      | none => rfl
      | some line =>
          obtain ⟨path, hpath, rfl⟩ :=
            walkBack?_eq (inside_parents batch) (by rw [length_parents]; exact hi) hline
          rw [hpath]
          rfl

/-- A search puts a batch in the same order. -/
theorem searchOrder?_eq (batch : List Definition) : searchOrder? batch = some (order batch) := by
  have hinside := inside_parents batch
  have hkept : ((search (parents batch)).sorted.filter fun i => !(search (parents batch)).cyclic.contains i)
      = (sequence (parents batch)).filter fun i => !isCyclic (parents batch) i := by
    rw [sorted_search hinside]
    exact List.filter_congr fun i hi => by rw [contains_cyclic_search hinside (mem_sequence.mp hi)]
  have hlt : ∀ entry ∈ batch.zipIdx, entry.2 < batch.length := by
    intro entry hentry
    rw [List.mem_zipIdx_iff_getElem?] at hentry
    exact (List.getElem?_eq_some_iff.mp hentry).1
  have hexcluded : (batch.zipIdx.map fun (d, i) =>
        if (search (parents batch)).cyclic.contains i then { d with state := .excluded } else d)
      = excludeCircles batch (parents batch) := by
    refine List.map_congr_left fun entry hentry => ?_
    show (if (search (parents batch)).cyclic.contains entry.2 then _ else _) = _
    rw [contains_cyclic_parents (hlt entry hentry)]
  rw [searchOrder?, order]
  simp only [hkept, hexcluded, reportWalks?_eq hlt]
  rfl

/-- **ORDERED BY A SEARCH**: a depth-first search ends, all walks along circles come back, and what it comes to
    is a batch put in order, whatever ids stand in it more than once. -/
theorem ordered_by_search (batch : List Definition) :
    searchOrder? batch = some (order batch) ∧
      Ordered batch (order batch).value.1 (order batch).value.2 (order batch).journal.diagnostics :=
  ⟨searchOrder?_eq batch, ordered_order batch⟩

end Ordering

end Archetype
