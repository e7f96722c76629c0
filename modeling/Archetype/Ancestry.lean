/-!
# Climbing a table of parents

Types derive from at most one base and definitions inherit from at most one parent. With the types or
definitions numbered, that is a table which gives for each number the number of its parent, if any.

* **`climb`** — the line of ancestors of a number, itself first. It ends at a number without a parent, or
  before a number that is on the line already, which is then named: the line runs in a circle.
* **`closedLine?`** — the circle a number lies on, from the number back to it.
* **`sort`** — all numbers, each after its parent, in the order in which a depth-first search is done with
  them; or the circle that the search runs into.
* **`countP_lt_of_mem`** — why climbing ends: every step leaves fewer numbers that are not on the line.
-/

namespace Archetype

/-- A count drops when its property is narrowed and loses a member of the list. -/
theorem countP_lt_of_mem {α : Type} {p q : α → Bool} {xs : List α} {x : α} (hx : x ∈ xs)
    (hqp : ∀ y, q y = true → p y = true) (hp : p x = true) (hq : q x = false) :
    xs.countP q < xs.countP p := by
  induction xs with
  | nil => cases hx
  | cons y ys ih =>
    have hle : ys.countP q ≤ ys.countP p := List.countP_mono_left fun z _ => hqp z
    rw [List.countP_cons, List.countP_cons]
    rcases List.mem_cons.1 hx with rfl | hmem
    · simp only [hp, hq, if_true, Bool.false_eq_true, if_false]
      omega
    · have hstep : (if q y = true then 1 else 0) ≤ (if p y = true then 1 else 0) := by
        by_cases hy : q y = true
        · exact Nat.le_of_eq ((if_pos hy).trans (if_pos (hqp y hy)).symm)
        · rw [if_neg hy]
          exact Nat.zero_le _
      exact Nat.add_lt_add_of_lt_of_le (ih hmem) hstep

namespace Ancestry

/-- A line of ancestors, from the number climbed from upwards, and the number on it that the line came
back to. -/
structure Climb where
  line : List Nat
  repeated : Option Nat

/-- How many numbers of the table are not on a line. -/
def unseen (parents : List (Option Nat)) (seen : List Nat) : Nat :=
  (List.range parents.length).countP fun i => !seen.contains i

theorem unseen_cons_lt {parents : List (Option Nat)} {seen : List Nat} {i : Nat}
    (hi : i < parents.length) (hnew : seen.contains i = false) :
    unseen parents (i :: seen) < unseen parents seen := by
  refine countP_lt_of_mem (x := i) (List.mem_range.2 hi) ?_ ?_ ?_
  · intro j hj
    simp_all
  · simpa using hnew
  · simp

/-- Climbs on from `i`, with the numbers of `seen` on the line already. A number that is not in the table
ends the line before it. -/
def climbFrom (parents : List (Option Nat)) (seen : List Nat) (i : Nat) : Climb :=
  if hnew : seen.contains i = true then ⟨[], some i⟩
  else
    match hi : parents[i]? with
    | none => ⟨[], none⟩
    | some none => ⟨[i], none⟩
    | some (some parent) =>
      have : unseen parents (i :: seen) < unseen parents seen :=
        unseen_cons_lt (List.getElem?_eq_some_iff.1 hi).1 (by simpa using hnew)
      let above := climbFrom parents (i :: seen) parent
      ⟨i :: above.line, above.repeated⟩
termination_by unseen parents seen

/-- The line of ancestors of a number. -/
def climb (parents : List (Option Nat)) (i : Nat) : Climb :=
  climbFrom parents [] i

/-- The circle that `i` itself lies on, from `i` back to `i`. -/
def closedLine? (parents : List (Option Nat)) (i : Nat) : Option (List Nat) :=
  let found := climb parents i
  if found.repeated = some i then some (found.line ++ [i]) else none

/-- Visits a number, with the numbers of `sorted` done, in this order, and those of `stack` on the way to it,
the last one first. When the visit is over, the number is done, after its ancestors; or the way has come back
to a number on the stack, and the circle is found. -/
def sortFrom (parents : List (Option Nat)) (stack : List Nat) (i : Nat) (sorted : List Nat) :
    Except (List Nat) (List Nat) :=
  if sorted.contains i then .ok sorted
  else if hnew : stack.contains i = true then
    .error (i :: ((stack.takeWhile (· != i)).reverse ++ [i]))
  else
    match hi : parents[i]? with
    | none => .ok sorted
    | some none => .ok (sorted ++ [i])
    | some (some parent) =>
      have : unseen parents (i :: stack) < unseen parents stack :=
        unseen_cons_lt (List.getElem?_eq_some_iff.1 hi).1 (by simpa using hnew)
      (sortFrom parents (i :: stack) parent sorted).map (· ++ [i])
termination_by unseen parents stack

/-- The numbers of a table, each after its parent, by one search from each number in turn; or a circle that the
search runs into, with the number it comes back to at both ends. -/
def sort (parents : List (Option Nat)) : Except (List Nat) (List Nat) :=
  (List.range parents.length).foldlM (fun sorted i => sortFrom parents [] i sorted) []

end Ancestry

end Archetype
