import Mathlib.Tactic

/-! Changing the first match of a list. What a lookup finds after the change depends only on whether
it looks for the changed element: the same predicate finds the changed one, a predicate that tells
itself apart finds what it found before. -/
namespace Nmux.Lib

variable {α β : Type} (p : α → Bool) (f : α → α)

/-- The list with the first element that satisfies `p` replaced by its image. -/
def replaceFirst : List α → List α
  | [] => []
  | x :: xs => if p x then f x :: xs else x :: replaceFirst xs

theorem replaceFirst_append (xs ys : List α) :
    replaceFirst p f (xs ++ ys) =
      if xs.any p then replaceFirst p f xs ++ ys else xs ++ replaceFirst p f ys := by
  induction xs with
  | nil => rfl
  | cons x xs ih =>
    by_cases h : p x = true
    · simp [replaceFirst, h]
    · by_cases hany : xs.any p = true <;> simp [replaceFirst, h, ih, hany]

theorem replaceFirst_of_not_any {xs : List α} (h : xs.any p = false) : replaceFirst p f xs = xs := by
  induction xs with
  | nil => rfl
  | cons x xs ih =>
    simp only [List.any_cons, Bool.or_eq_false_iff] at h
    simp [replaceFirst, h.1, ih h.2]

variable {p f}

theorem mem_replaceFirst {xs : List α} {y : α} (h : y ∈ replaceFirst p f xs) :
    y ∈ xs ∨ ∃ x, xs.find? p = some x ∧ y = f x := by
  induction xs with
  | nil => simp [replaceFirst] at h
  | cons x xs ih =>
    by_cases hx : p x = true
    · simp only [replaceFirst, hx, if_true, List.mem_cons] at h
      rcases h with rfl | h
      · exact .inr ⟨x, by simp [hx], rfl⟩
      · exact .inl (by simp [h])
    · simp only [replaceFirst, hx, Bool.false_eq_true, if_false, List.mem_cons] at h
      rcases h with rfl | h
      · exact .inl (by simp)
      · rcases ih h with h | ⟨z, hz, rfl⟩
        · exact .inl (by simp [h])
        · exact .inr ⟨z, by simp [hx, hz], rfl⟩

/-- A projection the change keeps is the same along the list. -/
theorem map_replaceFirst {g : α → β} (hg : ∀ x, g (f x) = g x) (xs : List α) :
    (replaceFirst p f xs).map g = xs.map g := by
  induction xs with
  | nil => rfl
  | cons x xs ih => by_cases h : p x = true <;> simp [replaceFirst, h, hg, ih]

/-- The changed element is what its own lookup finds. -/
theorem find?_replaceFirst_self (hp : ∀ x, p x = true → p (f x) = true) (xs : List α) :
    (replaceFirst p f xs).find? p = (xs.find? p).map f := by
  induction xs with
  | nil => rfl
  | cons x xs ih => by_cases h : p x = true <;> simp [replaceFirst, h, hp, ih]

/-- A lookup that never stops at a match of `p` does not see the change. -/
theorem find?_replaceFirst_other {q : α → Bool} (hq : ∀ x, p x = true → q x = false)
    (hf : ∀ x, p x = true → q (f x) = false) (xs : List α) :
    (replaceFirst p f xs).find? q = xs.find? q := by
  induction xs with
  | nil => rfl
  | cons x xs ih =>
    by_cases h : p x = true
    · simp [replaceFirst, h, hq x h, hf x h]
    · by_cases hqx : q x = true <;> simp [replaceFirst, h, hqx, ih]

end Nmux.Lib
