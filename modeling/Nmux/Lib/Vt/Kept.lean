import Nmux.Lib.Vt.Terminal

/-! Functions that leave the cells of a screen alone. Those that only move, or switch to the alternate screen
and back, leave the main screen and the history; on the alternate screen the functions leave the main one,
and a screen that is left and entered again is cleared. -/
namespace Nmux.Lib.Vt

/-- A function that draws on the screen that is shown. -/
def CellFunction.draws : CellFunction → Bool
  | .move _ | .reset | .eraseHistory | .enterAlternate | .leaveAlternate => false
  | _ => true

/-- The screen that is shown after a function. -/
def CellFunction.screen (alternateActive : Bool) : CellFunction → Bool
  | .enterAlternate => true
  | .leaveAlternate | .reset => false
  | _ => alternateActive

def screenAfter (alternateActive : Bool) (functions : List CellFunction) : Bool :=
  functions.foldl CellFunction.screen alternateActive

/-- Nothing happens to the main screen and the history. -/
def MainKept : Bool → List CellFunction → Prop
  | _, [] => True
  | false, function :: rest =>
    (function.draws = false ∧ function ≠ .reset ∧ function ≠ .eraseHistory) ∧
      MainKept (function.screen false) rest
  | true, function :: rest => function ≠ .reset ∧ MainKept (function.screen true) rest

instance MainKept.decidable : ∀ (alternateActive : Bool) (functions : List CellFunction),
    Decidable (MainKept alternateActive functions)
  | _, [] => isTrue trivial
  | false, function :: rest =>
    have := MainKept.decidable (function.screen false) rest
    inferInstanceAs (Decidable (_ ∧ _))
  | true, function :: rest =>
    have := MainKept.decidable (function.screen true) rest
    inferInstanceAs (Decidable (_ ∧ _))

/-- Nothing happens to the alternate screen while it is shown. -/
def AlternateKept (functions : List CellFunction) : Prop :=
  ∀ function ∈ functions, function.draws = false ∧ function.screen true = true

instance (functions : List CellFunction) : Decidable (AlternateKept functions) :=
  List.decidableBAll _ functions

namespace Terminal

variable (moves : Action → Control → Control) {terminal : Terminal} {function : CellFunction}
  {functions : List CellFunction}

theorem applyAll_cons (terminal : Terminal) (function : CellFunction) (rest : List CellFunction) :
    terminal.applyAll moves (function :: rest) = (terminal.apply moves function).applyAll moves rest := rfl

/-! ### Drawing -/

theorem draw_alternateActive (terminal : Terminal) (grid : Grid) :
    (terminal.draw grid).alternateActive = terminal.alternateActive := by
  unfold draw
  split <;> rfl

theorem draw_visible (terminal : Terminal) (grid : Grid) : (terminal.draw grid).visible = grid := by
  unfold draw visible
  cases terminal.alternateActive <;> rfl

/-- A terminal with some of its parts replaced by a function that draws. -/
def drawn (terminal : Terminal) (grid : Grid) (history : List (List Char)) (lastPrinted : Option UInt8) :
    Terminal :=
  { terminal.draw grid with history, lastPrinted }

theorem draw_eq_drawn (terminal : Terminal) (grid : Grid) :
    terminal.draw grid = terminal.drawn grid terminal.history terminal.lastPrinted := by
  unfold drawn draw
  split <;> rfl

theorem drawn_drawn (terminal : Terminal) (grid grid' : Grid) (history history' : List (List Char))
    (lastPrinted lastPrinted' : Option UInt8) :
    (terminal.drawn grid history lastPrinted).drawn grid' history' lastPrinted' =
      terminal.drawn grid' history' lastPrinted' := by
  unfold drawn draw
  cases terminal.alternateActive <;> rfl

theorem drawn_self (terminal : Terminal) :
    terminal.drawn terminal.visible terminal.history terminal.lastPrinted = terminal := by
  unfold drawn draw visible
  obtain ⟨lastRow, lastCol, history, main, alternate, alternateActive, lastPrinted, control⟩ := terminal
  cases alternateActive <;> rfl

theorem scrollUpFrom_eq (terminal : Terminal) (top count : Nat) :
    terminal.scrollUpFrom top count = terminal.drawn (terminal.visible.shiftUp top terminal.bottom count)
      (if !terminal.alternateActive && top = 0 then terminal.history ++
        (terminal.main.rows terminal.lastRow terminal.lastCol).take (min count (terminal.bottom + 1))
      else terminal.history) terminal.lastPrinted := by
  unfold scrollUpFrom
  dsimp only
  split
  · rw [draw_eq_drawn]
    rfl
  · exact draw_eq_drawn _ _

theorem lineFeed_drawn (terminal : Terminal) : ∃ grid history,
    terminal.lineFeed = terminal.drawn grid history terminal.lastPrinted ∧
      (terminal.alternateActive = true → history = terminal.history) := by
  unfold lineFeed
  split
  · refine ⟨_, _, scrollUpFrom_eq _ _ _, fun hactive => ?_⟩
    rw [hactive]
    rfl
  · exact ⟨_, _, (drawn_self terminal).symm, fun _ => rfl⟩

theorem putAt_drawn (terminal : Terminal) (row col : Nat) (byte : UInt8) : ∃ grid,
    terminal.putAt row col byte = terminal.drawn grid terminal.history (some byte) ∧
      grid row col = Char.ofNat byte.toNat := by
  let under := if terminal.control.insert then terminal.visible.shiftRight row col 1 else terminal.visible
  let grid := under.fill (fun r c => r = row && c = col) (Char.ofNat byte.toNat)
  have hput : terminal.putAt row col byte = { terminal.draw grid with lastPrinted := some byte } := rfl
  have hgrid : grid row col = Char.ofNat byte.toNat := by
    show (if (decide (row = row) && decide (col = col)) = true then _ else _) = _
    rw [if_pos (by simp)]
  refine ⟨grid, ?_, hgrid⟩
  rw [hput, draw_eq_drawn]
  rfl

theorem put_drawn (terminal : Terminal) (byte : UInt8) : ∃ grid history,
    terminal.put byte = terminal.drawn grid history (some byte) ∧
      (terminal.alternateActive = true → history = terminal.history) := by
  unfold put
  dsimp only
  split
  · obtain ⟨grid, history, hfeed, hkept⟩ := lineFeed_drawn terminal
    rw [hfeed]
    obtain ⟨grid', hput, -⟩ := putAt_drawn (terminal.drawn grid history terminal.lastPrinted)
      (if terminal.row = terminal.bottom then terminal.row else min (terminal.row + 1) terminal.lastRow) 0 byte
    exact ⟨grid', history, hput.trans (drawn_drawn _ _ _ _ _ _ _), hkept⟩
  · obtain ⟨grid, hput, -⟩ := putAt_drawn terminal terminal.row terminal.col byte
    exact ⟨grid, terminal.history, hput, fun _ => rfl⟩

/-- **A function that draws** changes the screen that is shown, and the history only under the main one. -/
theorem apply_drawn (terminal : Terminal) (hdraws : function.draws = true) : ∃ grid history lastPrinted,
    terminal.apply moves function = terminal.drawn grid history lastPrinted ∧
      (terminal.alternateActive = true → history = terminal.history) := by
  have hdraw : ∀ grid, ∃ grid' history lastPrinted,
      terminal.draw grid = terminal.drawn grid' history lastPrinted ∧
        (terminal.alternateActive = true → history = terminal.history) := fun grid =>
    ⟨grid, _, _, draw_eq_drawn terminal grid, fun _ => rfl⟩
  have hself : ∃ grid history lastPrinted, terminal = terminal.drawn grid history lastPrinted ∧
      (terminal.alternateActive = true → history = terminal.history) :=
    ⟨_, _, _, (drawn_self terminal).symm, fun _ => rfl⟩
  cases function with
  | move | reset | eraseHistory | enterAlternate | leaveAlternate => cases hdraws
  | put byte =>
    obtain ⟨grid, history, hput, hkept⟩ := put_drawn terminal byte
    exact ⟨grid, history, _, hput, hkept⟩
  | lineFeed =>
    obtain ⟨grid, history, hfeed, hkept⟩ := lineFeed_drawn terminal
    exact ⟨grid, history, _, hfeed, hkept⟩
  | scrollUp count =>
    refine ⟨_, _, _, scrollUpFrom_eq _ _ _, fun hactive => ?_⟩
    rw [hactive]
    rfl
  | reverseLineFeed | insertLines | deleteLines =>
    simp only [apply]
    split
    · exact hdraw _
    · exact hself
  | repeatLast count =>
    simp only [apply]
    split
    · exact hself
    · exact hdraw _
  | _ => exact hdraw _

theorem drawn_alternateActive (terminal : Terminal) (grid : Grid) (history : List (List Char))
    (lastPrinted : Option UInt8) :
    (terminal.drawn grid history lastPrinted).alternateActive = terminal.alternateActive :=
  draw_alternateActive terminal grid

theorem drawn_main (grid : Grid) (history : List (List Char)) (lastPrinted : Option UInt8)
    (h : terminal.alternateActive = true) : (terminal.drawn grid history lastPrinted).main = terminal.main := by
  unfold drawn draw
  rw [if_pos h]

theorem apply_alternateActive (terminal : Terminal) (function : CellFunction) :
    (terminal.apply moves function).alternateActive = function.screen terminal.alternateActive := by
  cases hdraws : function.draws with
  | true =>
    obtain ⟨grid, history, lastPrinted, happly, -⟩ := apply_drawn moves terminal hdraws
    rw [happly, drawn_alternateActive]
    cases function <;> first | rfl | cases hdraws
  | false =>
    cases function with
    | eraseHistory =>
      show (if terminal.alternateActive = true then terminal else _).alternateActive = _
      split <;> rfl
    | enterAlternate =>
      show (if terminal.alternateActive = true then terminal else _).alternateActive = _
      split
      case isTrue hactive => exact hactive
      case isFalse => rfl
    | move | reset | leaveAlternate => rfl
    | _ => cases hdraws

theorem applyAll_alternateActive (terminal : Terminal) (functions : List CellFunction) :
    (terminal.applyAll moves functions).alternateActive = screenAfter terminal.alternateActive functions := by
  induction functions generalizing terminal with
  | nil => rfl
  | cons function rest ih =>
    rw [applyAll_cons, ih, apply_alternateActive]
    rfl

theorem apply_size (terminal : Terminal) (function : CellFunction) :
    (terminal.apply moves function).lastRow = terminal.lastRow ∧
      (terminal.apply moves function).lastCol = terminal.lastCol := by
  cases hdraws : function.draws with
  | true =>
    obtain ⟨grid, history, lastPrinted, happly, -⟩ := apply_drawn moves terminal hdraws
    rw [happly]
    unfold drawn draw
    split <;> exact ⟨rfl, rfl⟩
  | false =>
    cases function with
    | eraseHistory | enterAlternate => simp only [apply]; split <;> exact ⟨rfl, rfl⟩
    | move | reset | leaveAlternate => exact ⟨rfl, rfl⟩
    | _ => cases hdraws

theorem applyAll_size (terminal : Terminal) (functions : List CellFunction) :
    (terminal.applyAll moves functions).lastRow = terminal.lastRow ∧
      (terminal.applyAll moves functions).lastCol = terminal.lastCol := by
  induction functions generalizing terminal with
  | nil => exact ⟨rfl, rfl⟩
  | cons function rest ih =>
    obtain ⟨hrow, hcol⟩ := apply_size moves terminal function
    obtain ⟨hrow', hcol'⟩ := ih (terminal.apply moves function)
    exact ⟨hrow'.trans hrow, hcol'.trans hcol⟩

/-! ### Functions that keep -/

/-- **The main screen and the history are kept.** -/
theorem applyAll_main (h : MainKept terminal.alternateActive functions) :
    (terminal.applyAll moves functions).main = terminal.main ∧
      (terminal.applyAll moves functions).history = terminal.history := by
  induction functions generalizing terminal with
  | nil => exact ⟨rfl, rfl⟩
  | cons function rest ih =>
    have hstep : MainKept (terminal.apply moves function).alternateActive rest ∧
        (terminal.apply moves function).main = terminal.main ∧
        (terminal.apply moves function).history = terminal.history := by
      rw [apply_alternateActive]
      cases hactive : terminal.alternateActive with
      | false =>
        rw [hactive] at h
        obtain ⟨⟨hdraws, hreset, herase⟩, hrest⟩ := h
        refine ⟨hrest, ?_⟩
        cases function with
        | enterAlternate => simp only [apply]; split <;> exact ⟨rfl, rfl⟩
        | move | leaveAlternate => exact ⟨rfl, rfl⟩
        | reset => exact absurd rfl hreset
        | eraseHistory => exact absurd rfl herase
        | _ => cases hdraws
      | true =>
        rw [hactive] at h
        obtain ⟨hreset, hrest⟩ := h
        refine ⟨hrest, ?_⟩
        cases hdraws : function.draws with
        | true =>
          obtain ⟨grid, history, lastPrinted, happly, hkept⟩ := apply_drawn moves terminal hdraws
          rw [happly]
          exact ⟨drawn_main grid history lastPrinted hactive, hkept hactive⟩
        | false =>
          cases function with
          | enterAlternate | eraseHistory =>
            simp only [apply, if_pos hactive, and_self]
          | move | leaveAlternate => exact ⟨rfl, rfl⟩
          | reset => exact absurd rfl hreset
          | _ => cases hdraws
    obtain ⟨hrest, hmain, hhistory⟩ := hstep
    obtain ⟨hmain', hhistory'⟩ := ih hrest
    exact ⟨hmain'.trans hmain, hhistory'.trans hhistory⟩

/-- **The alternate screen is kept**, and with it everything. -/
theorem applyAll_alternate (hactive : terminal.alternateActive = true) (h : AlternateKept functions) :
    (terminal.applyAll moves functions).alternate = terminal.alternate ∧
      (terminal.applyAll moves functions).main = terminal.main ∧
      (terminal.applyAll moves functions).history = terminal.history := by
  induction functions generalizing terminal with
  | nil => exact ⟨rfl, rfl, rfl⟩
  | cons function rest ih =>
    obtain ⟨hdraws, hscreen⟩ := h function List.mem_cons_self
    have hrest : AlternateKept rest := fun later hlater => h later (List.mem_cons_of_mem _ hlater)
    have hshown : (terminal.apply moves function).alternateActive = true := by
      rw [apply_alternateActive, hactive, hscreen]
    have hstep : (terminal.apply moves function).alternate = terminal.alternate ∧
        (terminal.apply moves function).main = terminal.main ∧
        (terminal.apply moves function).history = terminal.history := by
      cases function with
      | enterAlternate | eraseHistory =>
        simp only [apply, if_pos hactive, and_self]
      | move => exact ⟨rfl, rfl, rfl⟩
      | reset | leaveAlternate => cases hscreen
      | _ => cases hdraws
    obtain ⟨halternate, hmain, hhistory⟩ := ih hshown hrest
    exact ⟨halternate.trans hstep.1, hmain.trans hstep.2.1, hhistory.trans hstep.2.2⟩

end Terminal

end Nmux.Lib.Vt
