import Nmux.Lib.Vt.Kept

/-! A terminal of one cell that holds a character no byte prints. A function that draws on it strikes the
character out, and nothing brings it back to the screen; so whatever does not keep the cells of a screen can
be seen on this terminal to its end. -/
namespace Nmux.Lib.Vt

namespace Terminal

variable (moves : Action → Control → Control) {terminal : Terminal} {function : CellFunction}
  {functions : List CellFunction}

/-! ### One cell -/

/-- A character that no byte prints. -/
def mark : Char := '\u2605'

theorem printed_ne_mark (byte : UInt8) : Char.ofNat byte.toNat ≠ mark := by
  have hall : ∀ value < 256, Char.ofNat value ≠ mark := by decide +kernel
  exact hall byte.toNat byte.toNat_lt

/-- A terminal of one row and one column. -/
structure Single (terminal : Terminal) : Prop where
  lastRow : terminal.lastRow = 0
  lastCol : terminal.lastCol = 0

namespace Single

variable (h : terminal.Single)
include h

theorem row : terminal.row = 0 := by
  rw [Terminal.row, h.lastRow, Nat.min_zero]

theorem col : terminal.col = 0 := by
  rw [Terminal.col, h.lastCol, Nat.min_zero]

theorem bottom : terminal.bottom = 0 := by
  rw [Terminal.bottom, h.lastRow, Nat.min_zero]

theorem top : terminal.top = 0 := by
  rw [Terminal.top, h.bottom, Nat.min_zero]

theorem rows (grid : Grid) : grid.rows terminal.lastRow terminal.lastCol = [[grid 0 0]] := by
  rw [h.lastRow, h.lastCol]
  rfl

theorem drawn (grid : Grid) (history : List (List Char)) (lastPrinted : Option UInt8) :
    (terminal.drawn grid history lastPrinted).Single := by
  refine ⟨Eq.trans ?_ h.lastRow, Eq.trans ?_ h.lastCol⟩ <;>
  · unfold Terminal.drawn draw
    split <;> rfl

end Single

/-- What a function that draws on a single cell leaves: another character than the mark, and the history
with the old cell behind it, or as it was. -/
def Struck (terminal after : Terminal) : Prop :=
  ∃ grid history lastPrinted, after = terminal.drawn grid history lastPrinted ∧ grid 0 0 ≠ mark ∧
    (history = terminal.history ∨
      terminal.alternateActive = false ∧ history = terminal.history ++ [[terminal.main 0 0]]) ∧
    (terminal.lastPrinted.isSome = true → lastPrinted.isSome = true)

theorem struck_draw {grid : Grid} (h : grid 0 0 ≠ mark) : terminal.Struck (terminal.draw grid) :=
  ⟨grid, terminal.history, terminal.lastPrinted, draw_eq_drawn _ _, h, .inl rfl, id⟩

theorem struck_erase {area : Nat → Nat → Bool} (h : area 0 0 = true) :
    terminal.Struck (terminal.erase area) := by
  refine struck_draw ?_
  rw [Grid.fill, if_pos h]
  decide

theorem struck_scrollDownFrom (h : terminal.Single) {count : Nat} (hcount : 0 < count) :
    terminal.Struck (terminal.scrollDownFrom 0 count) := by
  refine struck_draw ?_
  rw [Grid.shiftDown, h.bottom, if_pos ⟨le_rfl, le_rfl⟩, if_neg (by omega)]
  decide

theorem struck_scrollUpFrom (h : terminal.Single) {count : Nat} (hcount : 0 < count) :
    terminal.Struck (terminal.scrollUpFrom 0 count) := by
  refine ⟨_, _, _, scrollUpFrom_eq _ _ _, ?_, ?_, id⟩
  · rw [Grid.shiftUp, h.bottom, if_pos ⟨le_rfl, le_rfl⟩, if_neg (by omega)]
    decide
  · rw [h.rows, h.bottom, Nat.min_eq_right (by omega)]
    cases hactive : terminal.alternateActive with
    | true => exact .inl rfl
    | false => exact .inr ⟨rfl, rfl⟩

theorem struck_lineFeed (h : terminal.Single) : terminal.Struck terminal.lineFeed := by
  unfold lineFeed
  rw [h.row, h.bottom, h.top, if_pos rfl]
  exact struck_scrollUpFrom h Nat.one_pos

theorem struck_putAt (byte : UInt8) : terminal.Struck (terminal.putAt 0 0 byte) := by
  obtain ⟨grid, hput, hgrid⟩ := putAt_drawn terminal 0 0 byte
  exact ⟨grid, terminal.history, some byte, hput, hgrid ▸ printed_ne_mark byte, .inl rfl, fun _ => rfl⟩

theorem struck_put (h : terminal.Single) (byte : UInt8) : terminal.Struck (terminal.put byte) := by
  unfold put
  split
  · obtain ⟨grid, history, lastPrinted, hfeed, -, hkept, -⟩ := struck_lineFeed h
    have hrow : (if terminal.row = terminal.bottom then terminal.row
        else min (terminal.row + 1) terminal.lastRow) = 0 := by
      rw [h.row, h.bottom, if_pos rfl]
    dsimp only
    rw [hrow, hfeed]
    obtain ⟨grid', hput, hgrid⟩ := putAt_drawn (terminal.drawn grid history lastPrinted) 0 0 byte
    exact ⟨grid', history, some byte, hput.trans (drawn_drawn _ _ _ _ _ _ _), hgrid ▸ printed_ne_mark byte,
      hkept, fun _ => rfl⟩
  · rw [h.row, h.col]
    exact struck_putAt byte

theorem times_pos (count : Nat) : 0 < times count := Nat.lt_of_lt_of_le Nat.one_pos (Nat.le_max_left _ _)

/-- **A function that draws** strikes out a single cell; only repeating takes a character to repeat. -/
theorem apply_of_draws (h : terminal.Single) (hdraws : function.draws = true) :
    terminal.Struck (terminal.apply moves function) ∨
      terminal.lastPrinted = none ∧ terminal.apply moves function = terminal := by
  have hrow := h.row
  have hcol := h.col
  have htop := h.top
  have hbottom := h.bottom
  cases function with
  | move | reset | eraseHistory | enterAlternate | leaveAlternate => cases hdraws
  | put byte => exact .inl (struck_put h byte)
  | lineFeed => exact .inl (struck_lineFeed h)
  | reverseLineFeed =>
    left
    show terminal.Struck (if terminal.row = terminal.top then _ else _)
    rw [hrow, htop, if_pos rfl]
    exact struck_scrollDownFrom h Nat.one_pos
  | align => exact .inl (struck_draw (by decide))
  | eraseBelow => exact .inl (struck_erase (by simp [hrow, hcol]))
  | eraseAbove => exact .inl (struck_erase (by simp [hrow, hcol]))
  | eraseAll => exact .inl (struck_erase rfl)
  | eraseRight => exact .inl (struck_erase (by simp [hrow, hcol]))
  | eraseLeft => exact .inl (struck_erase (by simp [hrow, hcol]))
  | eraseLine => exact .inl (struck_erase (by simp [hrow]))
  | eraseChars count => exact .inl (struck_erase (by simp [hrow, hcol, times_pos]))
  | insertChars count =>
    refine .inl (struck_draw ?_)
    rw [hrow, hcol, Grid.shiftRight, if_pos ⟨rfl, le_rfl⟩, Nat.zero_add, if_pos (times_pos count)]
    decide
  | deleteChars count =>
    have hcount := times_pos count
    refine .inl (struck_draw ?_)
    rw [hrow, hcol, h.lastCol, Grid.shiftLeft, if_pos ⟨rfl, le_rfl⟩, if_neg (by omega)]
    decide
  | insertLines count =>
    left
    show terminal.Struck (if (terminal.top ≤ terminal.row && terminal.row ≤ terminal.bottom) = true then _ else _)
    rw [if_pos (by simp [hrow, htop]), hrow]
    exact struck_scrollDownFrom h (times_pos count)
  | deleteLines count =>
    have hcount := times_pos count
    left
    show terminal.Struck (if (terminal.top ≤ terminal.row && terminal.row ≤ terminal.bottom) = true then _ else _)
    rw [if_pos (by simp [hrow, htop])]
    refine struck_draw ?_
    rw [hrow, hbottom, Grid.shiftUp, if_pos ⟨le_rfl, le_rfl⟩, if_neg (by omega)]
    decide
  | scrollUp count =>
    left
    show terminal.Struck (terminal.scrollUpFrom terminal.top (times count))
    rw [htop]
    exact struck_scrollUpFrom h (times_pos count)
  | scrollDown count =>
    left
    show terminal.Struck (terminal.scrollDownFrom terminal.top (times count))
    rw [htop]
    exact struck_scrollDownFrom h (times_pos count)
  | repeatLast count =>
    cases hlast : terminal.lastPrinted with
    | none => exact .inr ⟨rfl, by simp only [apply, hlast]⟩
    | some byte =>
      left
      simp only [apply, hlast]
      refine struck_draw ?_
      rw [Grid.fill, if_pos (by simp [hrow, hcol, times_pos])]
      exact printed_ne_mark byte

/-! ### The main screen -/

/-- What there is of the mark in the main cell, which counts twice, and in the history. -/
def weight (terminal : Terminal) : Nat :=
  (if terminal.main 0 0 = mark then 2 else 0) + terminal.history.count [mark]

theorem drawn_main_shown (grid : Grid) (history : List (List Char)) (lastPrinted : Option UInt8)
    (h : terminal.alternateActive = false) : (terminal.drawn grid history lastPrinted).main = grid := by
  unfold Terminal.drawn draw
  rw [if_neg (by simp [h])]

/-- A stroke on the main screen takes the mark from the cell, and at most moves it into the history. -/
theorem Struck.weight_main {after : Terminal} (h : terminal.Struck after)
    (hactive : terminal.alternateActive = false) :
    after.weight ≤ (if terminal.main 0 0 = mark then 1 else 0) + terminal.history.count [mark] := by
  obtain ⟨grid, history, lastPrinted, rfl, hgrid, hhistory, -⟩ := h
  have hcell : (terminal.drawn grid history lastPrinted).main 0 0 ≠ mark := by
    rwa [drawn_main_shown grid history lastPrinted hactive]
  have hkept : (terminal.drawn grid history lastPrinted).history = history := rfl
  rw [weight, if_neg hcell, hkept, Nat.zero_add]
  rcases hhistory with rfl | ⟨-, rfl⟩
  · exact Nat.le_add_left _ _
  · by_cases hmark : terminal.main 0 0 = mark
    · simp [hmark, List.count_append, Nat.add_comm]
    · simp [hmark, List.count_append]

/-- A stroke on the alternate screen leaves it. -/
theorem Struck.weight_alternate {after : Terminal} (h : terminal.Struck after)
    (hactive : terminal.alternateActive = true) : after.weight = terminal.weight := by
  obtain ⟨grid, history, lastPrinted, rfl, -, hhistory, -⟩ := h
  have hkept : (terminal.drawn grid history lastPrinted).history = terminal.history := by
    rcases hhistory with hsame | ⟨hshown, -⟩
    · exact hsame
    · rw [hactive] at hshown
      cases hshown
  rw [weight, weight, drawn_main grid history lastPrinted hactive, hkept]

theorem weight_reset (terminal : Terminal) : (terminal.apply moves .reset).weight = 0 := rfl

/-- **No function** brings a mark back. -/
theorem apply_weight (h : terminal.Single) (function : CellFunction) :
    (terminal.apply moves function).weight ≤ terminal.weight := by
  cases hdraws : function.draws with
  | true =>
    rcases apply_of_draws moves h hdraws with hstruck | ⟨-, hsame⟩
    · cases hactive : terminal.alternateActive with
      | true => exact (hstruck.weight_alternate hactive).le
      | false =>
        refine (hstruck.weight_main hactive).trans (Nat.add_le_add_right ?_ _)
        split <;> omega
    · rw [hsame]
  | false =>
    cases function with
    | reset => exact (weight_reset moves terminal).le.trans (Nat.zero_le _)
    | eraseHistory =>
      simp only [apply]
      split
      · exact le_rfl
      · exact Nat.add_le_add_left (Nat.zero_le _) _
    | enterAlternate =>
      simp only [apply]
      split <;> exact le_rfl
    | move | leaveAlternate => exact le_rfl
    | _ => cases hdraws

theorem apply_single (h : terminal.Single) (function : CellFunction) :
    (terminal.apply moves function).Single := by
  obtain ⟨hrow, hcol⟩ := apply_size moves terminal function
  exact ⟨hrow.trans h.lastRow, hcol.trans h.lastCol⟩

theorem applyAll_weight (h : terminal.Single) (functions : List CellFunction) :
    (terminal.applyAll moves functions).weight ≤ terminal.weight := by
  induction functions generalizing terminal with
  | nil => exact le_rfl
  | cons function rest ih => exact (ih (apply_single moves h function)).trans (apply_weight moves h function)

/-- A character to repeat stays, or another comes. -/
theorem apply_printed (h : terminal.Single) (hreset : function ≠ .reset)
    (hprinted : terminal.lastPrinted.isSome = true) :
    (terminal.apply moves function).lastPrinted.isSome = true := by
  cases hdraws : function.draws with
  | true =>
    rcases apply_of_draws moves h hdraws with
      ⟨grid, history, lastPrinted, happly, -, -, hkept⟩ | ⟨-, hsame⟩
    · rw [happly]
      exact hkept hprinted
    · rwa [hsame]
  | false =>
    cases function with
    | reset => exact absurd rfl hreset
    | eraseHistory | enterAlternate => simp only [apply]; split <;> exact hprinted
    | move | leaveAlternate => exact hprinted
    | _ => cases hdraws

/-- A single cell with the mark, a row of the history with it, and a character to repeat. -/
structure Marked (terminal : Terminal) : Prop extends terminal.Single where
  main : terminal.main 0 0 = mark
  history : terminal.history = [[mark]]
  printed : terminal.lastPrinted.isSome = true

theorem Marked.weight (h : terminal.Marked) : terminal.weight = 3 := by
  rw [Terminal.weight, h.main, h.history]
  decide

/-- What is not kept takes a mark away. -/
theorem Marked.weight_lt (h : terminal.Marked) (hnot : ¬ MainKept terminal.alternateActive functions) :
    (terminal.applyAll moves functions).weight < 3 := by
  induction functions generalizing terminal with
  | nil => exact absurd trivial hnot
  | cons function rest ih =>
    have hlater := applyAll_weight moves (apply_single moves h.toSingle function) rest
    have hcut : (terminal.apply moves function).weight < 3 →
        (terminal.applyAll moves (function :: rest)).weight < 3 := fun hless => hlater.trans_lt hless
    cases hactive : terminal.alternateActive with
    | false =>
      rw [hactive] at hnot
      cases hdraws : function.draws with
      | true =>
        refine hcut ?_
        rcases apply_of_draws moves h.toSingle hdraws with hstruck | ⟨hnone, -⟩
        · have hless := hstruck.weight_main hactive
          rw [h.main, h.history, if_pos rfl] at hless
          exact hless.trans_lt (by decide)
        · have hsome := h.printed
          rw [hnone] at hsome
          cases hsome
      | false =>
        cases function with
        | reset => exact hcut (by rw [weight_reset]; decide)
        | eraseHistory =>
          refine hcut ?_
          have hcell : (terminal.apply moves .eraseHistory).weight = 2 := by
            simp only [apply, hactive, Bool.false_eq_true, if_false, Terminal.weight, h.main]
            decide
          omega
        | enterAlternate =>
          have hmarked : (terminal.apply moves .enterAlternate).Marked := by
            simp only [apply, hactive, Bool.false_eq_true, if_false]
            exact ⟨⟨h.lastRow, h.lastCol⟩, h.main, h.history, h.printed⟩
          refine ih hmarked fun hkept => hnot ⟨⟨rfl, by decide, by decide⟩, ?_⟩
          rwa [apply_alternateActive, hactive] at hkept
        | leaveAlternate =>
          refine ih ⟨⟨h.lastRow, h.lastCol⟩, h.main, h.history, h.printed⟩ fun hkept =>
            hnot ⟨⟨rfl, by decide, by decide⟩, hkept⟩
        | move action =>
          refine ih ⟨⟨h.lastRow, h.lastCol⟩, h.main, h.history, h.printed⟩ fun hkept =>
            hnot ⟨⟨rfl, by simp, by simp⟩, ?_⟩
          rwa [apply_alternateActive, hactive] at hkept
        | _ => cases hdraws
    | true =>
      rw [hactive] at hnot
      by_cases hreset : function = .reset
      · subst hreset
        exact hcut (by rw [weight_reset]; decide)
      have hkeeps : MainKept terminal.alternateActive [function] := by
        rw [hactive]
        exact ⟨hreset, trivial⟩
      obtain ⟨hmain, hhistory⟩ := applyAll_main moves hkeeps
      have hmarked : (terminal.apply moves function).Marked :=
        ⟨apply_single moves h.toSingle function, (congrFun (congrFun hmain 0) 0).trans h.main,
          hhistory.trans h.history, apply_printed moves h.toSingle hreset h.printed⟩
      refine ih hmarked fun hkept => hnot ⟨hreset, ?_⟩
      rwa [apply_alternateActive, hactive] at hkept

/-- **What does not keep the main screen** can be seen on it, or in the history. -/
theorem Marked.main_changed (h : terminal.Marked) (hnot : ¬ MainKept terminal.alternateActive functions) :
    (terminal.applyAll moves functions).main 0 0 ≠ terminal.main 0 0 ∨
      (terminal.applyAll moves functions).history ≠ terminal.history := by
  have hless := h.weight_lt moves hnot
  by_contra hsame
  obtain ⟨hmain, hhistory⟩ := not_or.mp hsame
  rw [not_not] at hmain hhistory
  rw [Terminal.weight, hmain, hhistory, h.main, h.history] at hless
  exact absurd hless (by decide)

/-! ### The alternate screen -/

/-- No function brings a mark back to the alternate screen. -/
theorem apply_unmarked (h : terminal.Single) (hcell : terminal.alternate 0 0 ≠ mark)
    (function : CellFunction) : (terminal.apply moves function).alternate 0 0 ≠ mark := by
  cases hdraws : function.draws with
  | true =>
    rcases apply_of_draws moves h hdraws with
      ⟨grid, history, lastPrinted, happly, hgrid, -, -⟩ | ⟨-, hsame⟩
    · rw [happly]
      unfold Terminal.drawn draw
      split
      · exact hgrid
      · exact hcell
    · rwa [hsame]
  | false =>
    cases function with
    | reset =>
      show ' ' ≠ mark
      decide
    | enterAlternate =>
      simp only [apply]
      split
      · exact hcell
      · show ' ' ≠ mark
        decide
    | eraseHistory =>
      simp only [apply]
      split <;> exact hcell
    | move | leaveAlternate => exact hcell
    | _ => cases hdraws

theorem applyAll_unmarked (h : terminal.Single) (hcell : terminal.alternate 0 0 ≠ mark)
    (functions : List CellFunction) : (terminal.applyAll moves functions).alternate 0 0 ≠ mark := by
  induction functions generalizing terminal with
  | nil => exact hcell
  | cons function rest ih => exact ih (apply_single moves h function) (apply_unmarked moves h hcell function)

/-- An alternate screen that is entered is cleared. -/
theorem applyAll_entered (h : terminal.Single) (hactive : terminal.alternateActive = false)
    (hscreen : screenAfter false functions = true) :
    (terminal.applyAll moves functions).alternate 0 0 ≠ mark := by
  induction functions generalizing terminal with
  | nil => cases hscreen
  | cons function rest ih =>
    by_cases henter : function = .enterAlternate
    · subst henter
      rw [applyAll_cons]
      refine applyAll_unmarked moves (apply_single moves h _) ?_ rest
      simp only [apply, hactive, Bool.false_eq_true, if_false]
      show ' ' ≠ mark
      decide
    · have hstays : function.screen false = false := by
        cases function <;> first | rfl | exact absurd rfl henter
      refine ih (apply_single moves h function) ?_ ?_
      · rw [apply_alternateActive, hactive, hstays]
      · have hrest : screenAfter (function.screen false) rest = true := hscreen
        rwa [hstays] at hrest

/-- **What does not keep the alternate screen** can be seen on it. -/
theorem alternate_changed (h : terminal.Single) (hprinted : terminal.lastPrinted.isSome = true)
    (hactive : terminal.alternateActive = true) (hscreen : screenAfter true functions = true)
    (hnot : ¬ AlternateKept functions) : (terminal.applyAll moves functions).alternate 0 0 ≠ mark := by
  induction functions generalizing terminal with
  | nil => exact absurd (fun _ hmem => absurd hmem List.not_mem_nil) hnot
  | cons function rest ih =>
    have hsingle := apply_single moves h function
    have hrest : screenAfter (function.screen true) rest = true := hscreen
    cases hdraws : function.draws with
    | true =>
      rw [applyAll_cons]
      refine applyAll_unmarked moves hsingle ?_ rest
      rcases apply_of_draws moves h hdraws with
        ⟨grid, history, lastPrinted, happly, hgrid, -, -⟩ | ⟨hnone, -⟩
      · rw [happly]
        unfold Terminal.drawn draw
        rwa [if_pos hactive]
      · rw [hnone] at hprinted
        cases hprinted
    | false =>
      have hshown : (terminal.apply moves function).alternateActive = function.screen true := by
        rw [apply_alternateActive, hactive]
      cases hstays : function.screen true with
      | false =>
        rw [hstays] at hshown hrest
        rw [applyAll_cons]
        exact applyAll_entered moves hsingle hshown hrest
      | true =>
        rw [hstays] at hshown hrest
        have hreset : function ≠ .reset := by
          rintro rfl
          cases hstays
        refine ih hsingle (apply_printed moves h hreset hprinted) hshown hrest fun hkept => hnot ?_
        intro other hother
        rcases List.mem_cons.mp hother with rfl | hother
        · exact ⟨hdraws, hstays⟩
        · exact hkept other hother

end Terminal

end Nmux.Lib.Vt
