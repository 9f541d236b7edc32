import Mathlib.Tactic

/-! Sparse updates of a list. `overwrite` writes values at positions one after the other; a set of
writes that carries the target's values and covers every position where the base differs from it
turns the base into the target, in any order and with any repetition. -/
namespace Nmux.Lib

variable {α : Type}

/-- The list after the writes, in order. A position outside the list is not written. -/
def overwrite (base : List α) : List (Nat × α) → List α
  | [] => base
  | (i, a) :: rest => overwrite (base.set i a) rest

@[simp] theorem overwrite_length (base : List α) (writes : List (Nat × α)) :
    (overwrite base writes).length = base.length := by
  induction writes generalizing base with
  | nil => rfl
  | cons write rest ih => simp [overwrite, ih]

/-- What stands in the list afterwards was in it or was written. -/
theorem mem_overwrite {base : List α} {writes : List (Nat × α)} {x : α} (h : x ∈ overwrite base writes) :
    x ∈ base ∨ x ∈ writes.map Prod.snd := by
  induction writes generalizing base with
  | nil => exact .inl h
  | cons write rest ih =>
    obtain ⟨i, a⟩ := write
    rcases ih h with hbase | hrest
    · rcases List.mem_or_eq_of_mem_set hbase with hbase | rfl
      · exact .inl hbase
      · exact .inr List.mem_cons_self
    · exact .inr (List.mem_cons_of_mem _ hrest)

/-- **Covering writes reach the target.** -/
theorem overwrite_eq_target {base target : List α} {writes : List (Nat × α)}
    (hlen : base.length = target.length)
    (hvalues : ∀ write ∈ writes, target[write.1]? = some write.2)
    (hcover : ∀ i, base[i]? = target[i]? ∨ i ∈ writes.map Prod.fst) :
    overwrite base writes = target := by
  induction writes generalizing base with
  | nil => exact List.ext_getElem? fun i => (hcover i).resolve_right (by simp)
  | cons write rest ih =>
    obtain ⟨i, a⟩ := write
    have hi : target[i]? = some a := hvalues (i, a) (by simp)
    have hlt : i < base.length := by
      rw [hlen]
      exact (List.getElem?_eq_some_iff.mp hi).1
    refine ih (by simpa using hlen) (fun w hw => hvalues w (by simp [hw])) fun j => ?_
    by_cases hj : i = j
    · subst hj
      exact .inl (by simp [hlt, hi])
    · rw [List.getElem?_set_ne hj]
      rcases hcover j with h | h
      · exact .inl h
      · have hne : j ≠ i := fun h => hj h.symm
        simp only [List.map_cons, List.mem_cons, hne, false_or] at h
        exact .inr h

end Nmux.Lib
