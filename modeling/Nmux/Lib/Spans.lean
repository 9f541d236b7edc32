import Mathlib.Data.List.Basic

/-! Consecutive spans. Each item of a list covers the places from a start up to a place past it; the
items follow each other without a gap, so each place belongs to one of them. -/
namespace Nmux.Lib

variable {α : Type*} (start past : α → ℕ)

/-- The items cover the places between two, in order, each with one place at least. -/
def Consecutive : ℕ → ℕ → List α → Prop
  | low, high, [] => low = high
  | low, high, item :: rest => start item = low ∧ low < past item ∧ Consecutive (past item) high rest

variable {start past} {low middle high : ℕ} {items rest : List α} {item other : α}

theorem Consecutive.append (h : Consecutive start past low middle items)
    (h' : Consecutive start past middle high rest) : Consecutive start past low high (items ++ rest) := by
  induction items generalizing low with
  | nil =>
    obtain rfl : low = middle := h
    exact h'
  | cons item items ih => exact ⟨h.1, h.2.1, ih h.2.2⟩

theorem Consecutive.le (h : Consecutive start past low high items) : low ≤ high := by
  induction items generalizing low with
  | nil => exact Nat.le_of_eq h
  | cons item items ih => exact Nat.le_trans (Nat.le_of_lt h.2.1) (ih h.2.2)

/-- Each item lies between the two places. -/
theorem Consecutive.within (h : Consecutive start past low high items) (hitem : item ∈ items) :
    low ≤ start item ∧ start item < past item ∧ past item ≤ high := by
  induction items generalizing low with
  | nil => cases hitem
  | cons first items ih =>
    obtain ⟨hstart, hpast, hrest⟩ := h
    rcases List.mem_cons.mp hitem with rfl | hitem
    · exact ⟨Nat.le_of_eq hstart.symm, hstart ▸ hpast, hrest.le⟩
    · obtain ⟨hlow, hspan, hhigh⟩ := ih hrest hitem
      exact ⟨Nat.le_trans (Nat.le_of_lt hpast) hlow, hspan, hhigh⟩

/-- **An item is the only one in its places**: no other span overlaps with its own. -/
theorem Consecutive.filter_overlap (h : Consecutive start past low high items) (hitem : item ∈ items) :
    items.filter (fun other => decide (start other < past item ∧ start item < past other)) = [item] := by
  induction items generalizing low with
  | nil => cases hitem
  | cons first items ih =>
    obtain ⟨hstart, hpast, hrest⟩ := h
    rcases List.mem_cons.mp hitem with rfl | hitem
    · rw [List.filter_cons_of_pos (by simp only [decide_eq_true_eq]; omega)]
      refine congrArg _ (List.filter_eq_nil_iff.mpr fun other hother => ?_)
      have hwithin := hrest.within hother
      simp only [decide_eq_true_eq]
      omega
    · have hwithin := hrest.within hitem
      rw [List.filter_cons_of_neg (by simp only [decide_eq_true_eq]; omega), ih hrest hitem]

end Nmux.Lib
