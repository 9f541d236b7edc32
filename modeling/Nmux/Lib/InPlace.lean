import Nmux.Lib.Check
import Nmux.Lib.FirstMatch

/-! Changing a value in place. A program over a state can fail after it has changed part of it. It
realizes a pure function that fails or returns a new value if it changes the state to that value, and
leaves it alone where the function fails: checks may stand before the first change, never after it. -/
namespace Nmux.Lib.InPlace

open Lib.Check

variable {ε σ τ α : Type}

/-- What a program computes from its state, such as a check. -/
def inspect (pure : σ → Except ε α) : EStateM ε σ α := fun state =>
  match pure state with
  | .ok a => .ok a state
  | .error message => .error message state

/-- What a program that keeps the state on an error returns. -/
def outcome (state : σ) : Except ε σ → EStateM.Result ε σ Unit
  | .ok state' => .ok () state'
  | .error message => .error message state

/-- The program changes the state as the pure function does what the state stands for. -/
def Realizes (store : τ → σ) (program : EStateM ε σ Unit) (value : τ) (result : Except ε τ) : Prop :=
  program (store value) = outcome (store value) (result.map store)

variable {store : τ → σ} {program : EStateM ε σ Unit} {value : τ} {result : Except ε τ}

/-- What the program inspects first, the function computes first. -/
theorem Realizes.inspect_then {pure : σ → Except ε α} {computed : Except ε α}
    {program : α → EStateM ε σ Unit} {result : α → Except ε τ} (hpure : pure (store value) = computed)
    (h : ∀ a, computed = .ok a → Realizes store (program a) value (result a)) :
    Realizes store (inspect pure >>= program) value (computed >>= result) := by
  cases hcomputed : computed with
  | error message =>
    rw [hcomputed] at hpure
    simp [Realizes, bind, EStateM.bind, inspect, hpure, outcome, Except.bind, Except.map]
  | ok a =>
    rw [hcomputed] at hpure
    have hprogram := h a hcomputed
    rw [Realizes] at hprogram ⊢
    simp only [bind, EStateM.bind, inspect, hpure, Except.bind]
    exact hprogram

theorem Realizes.ite {p : Prop} [Decidable p] {program' : EStateM ε σ Unit} {result' : Except ε τ}
    (h : p → Realizes store program value result) (h' : ¬ p → Realizes store program' value result') :
    Realizes store (if p then program else program') value (if p then result else result') := by
  by_cases hp : p
  · rw [if_pos hp, if_pos hp]
    exact h hp
  · rw [if_neg hp, if_neg hp]
    exact h' hp

/-- Changes that cannot fail. -/
theorem Realizes.of_ok {value' : τ} (h : program (store value) = .ok () (store value')) :
    Realizes store program value (.ok value') := h

/-! ### One element of a list -/

/-- A program on the first element that satisfies `p`, run in its place. -/
def onFirst (p : σ → Bool) (program : EStateM ε σ α) : List σ → Option (EStateM.Result ε (List σ) α)
  | [] => none
  | x :: xs =>
    if p x then
      match program x with
      | .ok a x => some (.ok a (x :: xs))
      | .error message x => some (.error message (x :: xs))
    else
      match onFirst p program xs with
      | none => none
      | some (.ok a xs) => some (.ok a (x :: xs))
      | some (.error message xs) => some (.error message (x :: xs))

/-- It runs on what a lookup finds, and only that is replaced. -/
theorem onFirst_eq (p : σ → Bool) (program : EStateM ε σ α) (xs : List σ) :
    onFirst p program xs = (xs.find? p).map fun x =>
      match program x with
      | .ok a x => .ok a (replaceFirst p (fun _ => x) xs)
      | .error message x => .error message (replaceFirst p (fun _ => x) xs) := by
  induction xs with
  | nil => rfl
  | cons first rest ih =>
    by_cases hfirst : p first = true
    · simp only [onFirst, List.find?_cons, hfirst, replaceFirst, Option.map_some]
      cases program first <;> rfl
    · rw [Bool.not_eq_true] at hfirst
      simp only [onFirst, hfirst, Bool.false_eq_true, if_false, ih, List.find?_cons, replaceFirst]
      cases rest.find? p with
      | none => rfl
      | some x => cases hx : program x <;> simp [hx]

/-- Replacing what a lookup finds by itself changes nothing. -/
theorem replaceFirst_found {p : σ → Bool} {xs : List σ} {x : σ} (h : xs.find? p = some x) :
    replaceFirst p (fun _ => x) xs = xs := by
  induction xs with
  | nil => rfl
  | cons first rest ih =>
    by_cases hfirst : p first = true
    · rw [List.find?_cons, hfirst] at h
      obtain rfl := Option.some.inj h
      rw [replaceFirst, if_pos hfirst]
    · rw [Bool.not_eq_true] at hfirst
      rw [List.find?_cons, hfirst] at h
      rw [replaceFirst, hfirst, if_neg Bool.false_ne_true, ih h]

end Nmux.Lib.InPlace
