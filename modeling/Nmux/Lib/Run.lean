import Mathlib.Tactic

/-! Runs of a deterministic machine under a condition on its steps. `Along` says that every input of
a run meets the condition in the state it finds; an invariant that a step under the condition
preserves holds after the run, and at every point of it. -/
namespace Nmux.Lib

variable {σ ι : Type} (step : σ → ι → σ)

/-- The state after the inputs, in order. -/
def run (s : σ) (inputs : List ι) : σ := inputs.foldl step s

/-- Every input meets `ok` in the state it is applied to. -/
def Along (ok : σ → ι → Prop) : σ → List ι → Prop
  | _, [] => True
  | s, i :: rest => ok s i ∧ Along ok (step s i) rest

@[simp] theorem run_nil (s : σ) : run step s [] = s := rfl

@[simp] theorem run_cons (s : σ) (i : ι) (rest : List ι) :
    run step s (i :: rest) = run step (step s i) rest := rfl

theorem run_append (s : σ) (first rest : List ι) :
    run step s (first ++ rest) = run step (run step s first) rest := by
  simp [run]

theorem along_append {ok : σ → ι → Prop} {s : σ} {first rest : List ι} :
    Along step ok s (first ++ rest) ↔
      Along step ok s first ∧ Along step ok (run step s first) rest := by
  induction first generalizing s with
  | nil => simp [Along]
  | cons i first ih => simp [Along, ih, and_assoc]

variable {step}

/-- A step condition may be weakened along the run. -/
theorem Along.imp {ok ok' : σ → ι → Prop} (himp : ∀ s i, ok s i → ok' s i) {s : σ} {inputs : List ι}
    (h : Along step ok s inputs) : Along step ok' s inputs := by
  induction inputs generalizing s with
  | nil => trivial
  | cons i rest ih => exact ⟨himp _ _ h.1, ih h.2⟩

/-- **Run induction.** What holds initially and is kept by every step under the condition holds
after the run. -/
theorem Along.invariant {ok : σ → ι → Prop} {I : σ → Prop}
    (hstep : ∀ s i, I s → ok s i → I (step s i)) {s : σ} {inputs : List ι}
    (h : Along step ok s inputs) (hinit : I s) : I (run step s inputs) := by
  induction inputs generalizing s with
  | nil => exact hinit
  | cons i rest ih => exact ih h.2 (hstep s i hinit h.1)

end Nmux.Lib
