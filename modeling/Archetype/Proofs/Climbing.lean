import Archetype.Proofs.Ancestry
import Mathlib.Data.List.Chain
import Mathlib.Data.List.Infix
import Mathlib.Logic.Relation

/-! # Lines and circles

    A line of ancestors, read as a chain of steps from a number to its parent (`Step`).  No number stands on
    it twice, and each number is followed by its parent or is the last, and then its parent is what the line
    comes back to (`follows_or_repeated`).

    From this, the circles that `closedLine?` finds by climbing from one number are those of the relation: a
    number that steps lead back to lies on one (`isSome_closedLine?`).  For its line holds every number above
    it, so also the last one before it is reached again; and nothing follows that one, since the number
    itself stands first. -/

namespace Archetype.Ancestry

variable {parents : List (Option Nat)} {seen : List Nat} {i j k : Nat}

/-- `k` is the parent of `i`. -/
def Step (parents : List (Option Nat)) (i k : Nat) : Prop :=
  parents[i]? = some (some k)

/-- A table in which every parent is a number of the table. -/
def Inside (parents : List (Option Nat)) : Prop :=
  ∀ i k, Step parents i k → k < parents.length

/-- A chain of steps leads from its start to its end. -/
theorem transGen_of_isChain {r : Nat → Nat → Prop} {start last : Nat} {between : List Nat}
    (h : (start :: (between ++ [last])).IsChain r) : Relation.TransGen r start last := by
  induction between generalizing start with
  | nil => exact .single (List.isChain_cons_cons.mp h).1
  | cons next rest ih =>
      obtain ⟨hstep, hrest⟩ := List.isChain_cons_cons.mp h
      exact .head hstep (ih hrest)

/-! ## The shape of a line -/

/-- A line starts with the number that is climbed from. -/
theorem line_eq_cons (hnew : seen.contains i = false) (hi : i < parents.length) :
    ∃ above, (climbFrom parents seen i).line = i :: above := by
  obtain ⟨entry, hentry⟩ : ∃ entry, parents[i]? = some entry :=
    ⟨parents[i], List.getElem?_eq_getElem hi⟩
  cases entry with
  | none =>
      rw [climbFrom_root hnew hentry]
      exact ⟨[], rfl⟩
  | some parent =>
      rw [climbFrom_parent hnew hentry]
      exact ⟨_, rfl⟩

/-- No number stands on a line twice, and none that was seen before. -/
theorem nodup_line (parents : List (Option Nat)) (seen : List Nat) (i : Nat) :
    (climbFrom parents seen i).line.Nodup ∧ ∀ j ∈ (climbFrom parents seen i).line, j ∉ seen := by
  fun_induction climbFrom parents seen i with
  | case1 seen i hseen => exact ⟨.nil, fun _ h => by cases h⟩
  | case2 seen i hseen hentry => exact ⟨.nil, fun _ h => by cases h⟩
  | case3 seen i hseen hentry =>
      refine ⟨List.nodup_cons.mpr ⟨List.not_mem_nil, .nil⟩, fun j hj => ?_⟩
      rw [List.mem_singleton.mp hj]
      exact fun hmem => hseen (List.contains_iff_mem.mpr hmem)
  | case4 seen i hseen parent hentry _ above ih =>
      obtain ⟨hnodup, hnew⟩ := ih
      refine ⟨List.nodup_cons.mpr ⟨fun hmem => hnew i hmem List.mem_cons_self, hnodup⟩, fun j hj => ?_⟩
      rcases List.mem_cons.mp hj with rfl | hmem
      · exact fun hin => hseen (List.contains_iff_mem.mpr hin)
      · exact fun hin => hnew j hmem (List.mem_cons_of_mem _ hin)

/-- The number a line comes back to is on it, or was seen before. -/
theorem repeated_mem (h : (climbFrom parents seen i).repeated = some j) :
    j ∈ seen ∨ j ∈ (climbFrom parents seen i).line := by
  fun_induction climbFrom parents seen i with
  | case1 seen i hseen =>
      rw [← Option.some.inj h]
      exact Or.inl (List.contains_iff_mem.mp hseen)
  | case2 seen i hseen hentry => cases h
  | case3 seen i hseen hentry => cases h
  | case4 seen i hseen parent hentry _ above ih =>
      rcases ih h with hmem | hmem
      · rcases List.mem_cons.mp hmem with rfl | hold
        · exact Or.inr List.mem_cons_self
        · exact Or.inl hold
      · exact Or.inr (List.mem_cons_of_mem _ hmem)

/-- The parent of a number on a line follows it there, or is what the line comes back to. -/
theorem follows_or_repeated (hinside : Inside parents) (hj : j ∈ (climbFrom parents seen i).line)
    (hstep : Step parents j k) :
    (∃ front back, (climbFrom parents seen i).line = front ++ j :: k :: back) ∨
      ((climbFrom parents seen i).repeated = some k ∧
        ∃ front, (climbFrom parents seen i).line = front ++ [j]) := by
  fun_induction climbFrom parents seen i with
  | case1 seen i hseen => cases hj
  | case2 seen i hseen hentry => cases hj
  | case3 seen i hseen hentry =>
      rw [List.mem_singleton.mp hj] at hstep
      cases hentry.symm.trans hstep
  | case4 seen i hseen parent hentry _ above ih =>
      rcases List.mem_cons.mp hj with rfl | hmem
      · -- the line goes on with the parent, or ends before it
        obtain rfl : parent = k := Option.some.inj (Option.some.inj (hentry.symm.trans hstep))
        cases hback : (j :: seen).contains parent with
        | true =>
            have hends : above = ⟨[], some parent⟩ := climbFrom_seen hback
            rw [hends]
            exact Or.inr ⟨rfl, [], rfl⟩
        | false =>
            obtain ⟨more, hmore⟩ := line_eq_cons hback (hinside j parent hentry)
            have hline : above.line = parent :: more := hmore
            rw [hline]
            exact Or.inl ⟨[], more, rfl⟩
      · rcases ih hmem with ⟨front, back, hline⟩ | ⟨hrepeated, front, hline⟩
        · have hline : above.line = front ++ j :: k :: back := hline
          rw [hline]
          exact Or.inl ⟨i :: front, back, rfl⟩
        · have hline : above.line = front ++ [j] := hline
          rw [hline]
          exact Or.inr ⟨hrepeated, i :: front, rfl⟩

/-- Each number of a line is followed by its parent. -/
theorem isChain_line (hinside : Inside parents) (seen : List Nat) (i : Nat) :
    (climbFrom parents seen i).line.IsChain (Step parents) := by
  fun_induction climbFrom parents seen i with
  | case1 seen i hseen => exact .nil
  | case2 seen i hseen hentry => exact .nil
  | case3 seen i hseen hentry => exact .singleton i
  | case4 seen i hseen parent hentry _ above ih =>
      cases hback : (i :: seen).contains parent with
      | true =>
          have hends : above = ⟨[], some parent⟩ := climbFrom_seen hback
          rw [hends]
          exact .singleton i
      | false =>
          obtain ⟨more, hmore⟩ := line_eq_cons hback (hinside i parent hentry)
          have hline : above.line = parent :: more := hmore
          rw [hline] at ih ⊢
          exact .cons_cons hentry ih

/-! ## Circles -/

/-- The last number of a line that comes back to its parent is led back to. -/
theorem transGen_of_repeated (hinside : Inside parents) {front : List Nat}
    (hline : (climb parents i).line = front ++ [j]) (hstep : Step parents j k)
    (hback : (climb parents i).repeated = some k) : Relation.TransGen (Step parents) j j := by
  have hchain : (front ++ [j]).Pairwise (Relation.TransGen (Step parents)) := by
    rw [← hline]
    exact List.isChain_iff_pairwise.mp ((isChain_line hinside [] i).imp fun _ _ => .single)
  have hk : k ∈ front ++ [j] := by
    rw [← hline]
    exact (repeated_mem hback).resolve_left List.not_mem_nil
  rcases List.mem_append.mp hk with hfront | hlast
  · have hreach := (List.pairwise_append.mp hchain).2.2 k hfront j (List.mem_singleton_self j)
    exact .head hstep hreach
  · rw [List.mem_singleton.mp hlast] at hstep
    exact .single hstep

/-- A line holds every number above the one it is climbed from. -/
theorem mem_line_of_reflTransGen (hinside : Inside parents) (hi : i < parents.length)
    (hreach : Relation.ReflTransGen (Step parents) i j) : j ∈ (climb parents i).line := by
  induction hreach with
  | refl => exact mem_line_climb hi
  | tail _ hstep ih =>
      rcases follows_or_repeated hinside ih hstep with ⟨front, back, hline⟩ | ⟨hback, -⟩
      · rw [climb, hline]
        exact List.mem_append_right _ (List.mem_cons_of_mem _ List.mem_cons_self)
      · exact (repeated_mem hback).resolve_left List.not_mem_nil

/-- A number that steps lead back to has a line that comes back to it. -/
theorem repeated_of_transGen (hinside : Inside parents)
    (hcircle : Relation.TransGen (Step parents) i i) : (climb parents i).repeated = some i := by
  obtain ⟨j, hreach, hstep⟩ := Relation.TransGen.tail'_iff.mp hcircle
  have hi : i < parents.length := hinside j i hstep
  have hnodup := (nodup_line parents [] i).1
  obtain ⟨above, hcons⟩ := @line_eq_cons parents [] i rfl hi
  rcases follows_or_repeated hinside (mem_line_of_reflTransGen hinside hi hreach) hstep with
    ⟨front, back, hline⟩ | ⟨hback, -⟩
  · -- the number itself stands first, so it follows nothing
    rw [hcons] at hnodup hline
    refine absurd ?_ (List.nodup_cons.mp hnodup).1
    cases front with
    | nil =>
        rw [(List.cons.inj hline).2]
        exact List.mem_cons_self
    | cons _ front =>
        rw [(List.cons.inj hline).2]
        exact List.mem_append_right _ (List.mem_cons_of_mem _ List.mem_cons_self)
  · exact hback

/-- **CIRCLES**: a number that steps lead back to lies on a circle. -/
theorem isSome_closedLine? (hinside : Inside parents)
    (hcircle : Relation.TransGen (Step parents) i i) : (closedLine? parents i).isSome = true := by
  rw [closedLine?_eq, if_pos (repeated_of_transGen hinside hcircle)]
  rfl

/-- The last number of a line is one step below the number that the line comes back to. -/
theorem step_of_repeated (hnew : i ∉ seen) (hback : (climbFrom parents seen i).repeated = some k) :
    ∃ front j, (climbFrom parents seen i).line = front ++ [j] ∧ Step parents j k := by
  fun_induction climbFrom parents seen i with
  | case1 seen i hseen => exact absurd (List.contains_iff_mem.mp hseen) hnew
  | case2 seen i hseen hentry => cases hback
  | case3 seen i hseen hentry => cases hback
  | case4 seen i hseen parent hentry _ above ih =>
      by_cases hparent : parent ∈ i :: seen
      · -- the line ends here, and the parent is what it comes back to
        have hends : above = ⟨[], some parent⟩ := climbFrom_seen (List.contains_iff_mem.mpr hparent)
        rw [hends] at hback ⊢
        obtain rfl : parent = k := Option.some.inj hback
        exact ⟨[], i, rfl, hentry⟩
      · obtain ⟨front, j, hline, hstep⟩ := ih hparent hback
        exact ⟨i :: front, j, congrArg (i :: ·) hline, hstep⟩

/-- A line goes on, from each number to its parent, to the number that it comes back to. -/
theorem isChain_line_concat (hinside : Inside parents) (hback : (climb parents i).repeated = some k) :
    ((climb parents i).line ++ [k]).IsChain (Step parents) := by
  obtain ⟨front, j, hline, hstep⟩ := step_of_repeated List.not_mem_nil hback
  have hline : (climb parents i).line = front ++ [j] := hline
  refine List.isChain_append.mpr ⟨isChain_line hinside [] i, .singleton k, ?_⟩
  rw [hline]
  simpa using hstep

end Archetype.Ancestry
