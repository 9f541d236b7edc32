import Mathlib.Tactic

/-! Length-prefixed frames in a stream of bytes, and programs that read a stream until they fail. A frame
tells its own length, so a stream can be cut into frames in one way only. -/
namespace Nmux.Lib.Framing

/-- The number little-endian bytes spell. -/
def leValue : List UInt8 → Nat
  | [] => 0
  | byte :: rest => byte.toNat + 256 * leValue rest

/-- Four bytes that spell the length of the payload behind them, up to a limit. -/
structure IsFrame (limit : Nat) (frame : List UInt8) : Prop where
  prefixed : 4 ≤ frame.length
  length : frame.length = 4 + leValue (frame.take 4)
  limit : leValue (frame.take 4) ≤ limit

variable {limit : Nat} {frame other rest rest' : List UInt8}

theorem IsFrame.take_append (h : IsFrame limit frame) (rest : List UInt8) :
    (frame ++ rest).take 4 = frame.take 4 :=
  List.take_append_of_le_length h.prefixed

/-- The frame at the start of a stream is determined by the stream. -/
theorem IsFrame.append_inj (h : IsFrame limit frame) (h' : IsFrame limit other)
    (heq : frame ++ rest = other ++ rest') : frame = other ∧ rest = rest' := by
  have htake : frame.take 4 = other.take 4 := by
    rw [← h.take_append rest, heq, h'.take_append]
  refine List.append_inj heq ?_
  rw [h.length, h'.length, htake]

theorem IsFrame.of_append {payload : List UInt8} {front : List UInt8} (hfront : front.length = 4)
    (hpayload : payload.length = leValue front) (hlimit : leValue front ≤ limit) :
    IsFrame limit (front ++ payload) := by
  have htake : (front ++ payload).take 4 = front := List.take_left' hfront
  exact ⟨by rw [List.length_append]; omega, by rw [htake, List.length_append]; omega, by rwa [htake]⟩

/-! ### Reading until an error -/

variable {ε σ α : Type}

/-- What a program returns when it is run again and again until it fails, and where it fails. -/
inductive ReadsUntil (read : EStateM ε σ α) : σ → List α → ε → σ → Prop
  | stopped {state state' : σ} {error : ε} (h : read state = .error error state') :
      ReadsUntil read state [] error state'
  | next {state state' last : σ} {a : α} {as : List α} {error : ε} (h : read state = .ok a state')
      (hrest : ReadsUntil read state' as error last) : ReadsUntil read state (a :: as) error last

variable {read : EStateM ε σ α}

theorem ReadsUntil.unique {state last last' : σ} {as as' : List α} {error error' : ε}
    (h : ReadsUntil read state as error last) (h' : ReadsUntil read state as' error' last') :
    as = as' ∧ error = error' ∧ last = last' := by
  induction h generalizing as' with
  | stopped h =>
    cases h' with
    | stopped h' =>
      rw [h] at h'
      cases h'
      exact ⟨rfl, rfl, rfl⟩
    | next h' _ =>
      rw [h] at h'
      cases h'
  | next h _ ih =>
    cases h' with
    | stopped h' =>
      rw [h] at h'
      cases h'
    | next h' hrest =>
      rw [h] at h'
      cases h'
      obtain ⟨rfl, herror, hlast⟩ := ih hrest
      exact ⟨rfl, herror, hlast⟩

/-- A program that uses up a bit of its state each time it succeeds fails in the end. -/
theorem exists_readsUntil (size : σ → Nat)
    (hsize : ∀ state a state', read state = .ok a state' → size state' < size state) (state : σ) :
    ∃ as error last, ReadsUntil read state as error last := by
  induction hn : size state using Nat.strong_induction_on generalizing state with
  | _ n ih =>
    cases hread : read state with
    | error error state' => exact ⟨[], error, state', .stopped hread⟩
    | ok a state' =>
      obtain ⟨as, error, last, hrest⟩ := ih (size state') (hn ▸ hsize state a state' hread) state' rfl
      exact ⟨a :: as, error, last, .next hread hrest⟩

end Nmux.Lib.Framing
