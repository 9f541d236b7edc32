import Mathlib.Tactic

/-! Validation in the error monad. A check is a computation that returns nothing or an error; these
are the combinators a validator is written with and the rules that turn "it returned" into the
condition it checks. -/
namespace Nmux.Lib.Check

variable {ε α β : Type}

/-- The condition holds, or the check fails with the message. -/
def require (condition : Bool) (message : ε) : Except ε Unit :=
  if condition then .ok () else .error message

/-- The check of every element, in order, up to the first failure. -/
def each (check : α → Except ε Unit) : List α → Except ε Unit
  | [] => .ok ()
  | x :: xs => do
    check x
    each check xs

@[simp] theorem require_eq_ok {condition : Bool} {message : ε} :
    require condition message = .ok () ↔ condition = true := by
  cases condition <;> simp [require]

@[simp] theorem ok_bind (a : α) (f : α → Except ε β) : ((Except.ok a : Except ε α) >>= f) = f a := rfl

@[simp] theorem error_bind (e : ε) (f : α → Except ε β) :
    ((Except.error e : Except ε α) >>= f) = .error e := rfl

/-- A sequence succeeds when its first part does and the rest does on what it returned. -/
theorem bind_eq_ok {x : Except ε α} {f : α → Except ε β} {b : β} :
    (x >>= f) = .ok b ↔ ∃ a, x = .ok a ∧ f a = .ok b := by
  cases x <;> simp

/-- The same for a check, which returns nothing. -/
theorem check_bind_eq_ok {x : Except ε Unit} {f : Unit → Except ε β} {b : β} :
    (x >>= f) = .ok b ↔ x = .ok () ∧ f () = .ok b := by
  cases x <;> simp

@[simp] theorem each_eq_ok {check : α → Except ε Unit} {xs : List α} :
    each check xs = .ok () ↔ ∀ x ∈ xs, check x = .ok () := by
  induction xs with
  | nil => simp [each]
  | cons x xs ih => simp [each, check_bind_eq_ok, ih]

end Nmux.Lib.Check
