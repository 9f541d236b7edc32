import Nmux.Lib.Run

/-! A walk along places in a row, told by the distance from home. A step out is taken unless the far end is
reached, a step back unless the walk is at home. So it never leaves the row, steps that were taken can
be taken back, and enough steps back lead home. -/
namespace Nmux.Lib

inductive WalkStep where
  | out | back
deriving DecidableEq, Repr

/-- The distance after a step. -/
def walkStep (far depth : ℕ) : WalkStep → ℕ
  | .out => min (depth + 1) far
  | .back => depth - 1

/-- Every step of the walk is taken. -/
def Taken (far : ℕ) : ℕ → List WalkStep → Prop :=
  Along (walkStep far) fun depth step => walkStep far depth step ≠ depth

variable {far depth : ℕ}

theorem walkStep_le (h : depth ≤ far) (step : WalkStep) : walkStep far depth step ≤ far := by
  cases step with
  | out => exact Nat.min_le_right _ _
  | back => exact (Nat.sub_le _ _).trans h

theorem walkStep_out_ne (h : depth ≤ far) : walkStep far depth .out ≠ depth ↔ depth < far := by
  show min (depth + 1) far ≠ depth ↔ _
  omega

/-- The walk stays in its row. -/
theorem walk_le (h : depth ≤ far) (steps : List WalkStep) : run (walkStep far) depth steps ≤ far := by
  induction steps generalizing depth with
  | nil => exact h
  | cons step rest ih => exact ih (walkStep_le h step)

theorem walk_back (count : ℕ) : run (walkStep far) depth (List.replicate count .back) = depth - count := by
  induction count generalizing depth with
  | zero => rfl
  | succ count ih =>
    rw [List.replicate_succ, run_cons, ih]
    exact Nat.sub_right_comm depth 1 count

/-- Steps out that are taken lead as far. -/
theorem walk_out (h : depth ≤ far) {count : ℕ} (htaken : Taken far depth (List.replicate count .out)) :
    run (walkStep far) depth (List.replicate count .out) = depth + count := by
  induction count generalizing depth with
  | zero => rfl
  | succ count ih =>
    obtain ⟨hstep, hrest⟩ := htaken
    have hnext : walkStep far depth .out = depth + 1 :=
      Nat.min_eq_left ((walkStep_out_ne h).mp hstep)
    rw [List.replicate_succ, run_cons, hnext]
    rw [hnext] at hrest
    rw [ih ((walkStep_out_ne h).mp hstep) hrest]
    omega

/-- **Steps out that are taken are taken back by as many steps back.** -/
theorem walk_out_back (h : depth ≤ far) {count : ℕ} (htaken : Taken far depth (List.replicate count .out)) :
    run (walkStep far) depth (List.replicate count .out ++ List.replicate count .back) = depth := by
  rw [run_append, walk_out h htaken, walk_back, Nat.add_sub_cancel]

/-- Enough steps back lead home. -/
theorem walk_home (h : depth ≤ far) {count : ℕ} (hcount : far ≤ count) :
    run (walkStep far) depth (List.replicate count .back) = 0 := by
  rw [walk_back, Nat.sub_eq_zero_of_le (h.trans hcount)]

end Nmux.Lib
