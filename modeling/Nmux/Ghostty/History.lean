import Nmux.Core.Session
import Nmux.Ghostty.Extract
import Nmux.Lib.Run

/-! The scrollback of the main screen from what the pane has of it. The engine goes by numbers of rows: if
the pane has as many rows as the history now, it takes the first of them for the history. That they are the
history depends on what happened to them on the way. -/
namespace Nmux.Ghostty

open Lib (run)

/-- What output does to the main screen: a row on the screen is written, the first row of the screen goes
into the history and a row comes in below, or the history loses its first rows. -/
inductive ScreenChange where
  | edit (index : Nat) (row : ScreenRow)
  | scroll (row : ScreenRow)
  | evict (count : Nat)
deriving DecidableEq, Repr

namespace MainScreen

def apply (main : MainScreen) : ScreenChange → MainScreen
  | .edit index row =>
    { main with
      screen := main.screen.set index row
      screen_ne := by
        rw [ne_eq, List.set_eq_nil_iff]
        exact main.screen_ne }
  | .scroll row =>
    { history := main.history ++ main.screen.take 1
      screen := main.screen.drop 1 ++ [row]
      screen_ne := List.append_ne_nil_of_right_ne_nil _ (List.cons_ne_nil _ _) }
  | .evict count => { main with history := main.history.drop count }

/-- Scrolling alone adds rows below all others. -/
theorem scroll_rows (main : MainScreen) (row : ScreenRow) :
    (main.apply (.scroll row)).rows = main.rows ++ [row] := by
  show (main.history ++ main.screen.take 1) ++ (main.screen.drop 1 ++ [row]) = _
  rw [rows, List.append_assoc, ← List.append_assoc (main.screen.take 1), List.take_append_drop,
    List.append_assoc]

theorem scrolls_rows {main : MainScreen} {changes : List ScreenChange}
    (h : ∀ change ∈ changes, ∃ row, change = .scroll row) :
    main.rows <+: (run apply main changes).rows := by
  induction changes generalizing main with
  | nil => exact List.prefix_refl _
  | cons change rest ih =>
    obtain ⟨row, rfl⟩ := h change List.mem_cons_self
    have hrest : (main.apply (.scroll row)).rows <+: (run apply (main.apply (.scroll row)) rest).rows :=
      ih fun later hlater => h later (List.mem_cons_of_mem _ hlater)
    rw [scroll_rows] at hrest
    exact (List.prefix_append _ _).trans hrest

/-- So the history starts the rows there were, as long as these are enough. -/
theorem scrolls_history {main : MainScreen} {changes : List ScreenChange}
    (h : ∀ change ∈ changes, ∃ row, change = .scroll row)
    (hlength : (run apply main changes).history.length ≤ main.rows.length) :
    (run apply main changes).history <+: main.rows :=
  List.prefix_of_prefix_length_le (List.prefix_append _ _) (scrolls_rows h) hlength

end MainScreen

/-! ### Rows from the pane -/

section
variable {input : TerminalInput} {rows : List ScreenRow}

theorem inputScrollbackRows_eq (h : scrollbackInputRows input = extractRows rows) {len : Nat}
    (hlen : len ≤ rows.length) : inputScrollbackRows input len = extractRows (rows.take len) := by
  have hlines : input.scrollbackLines = rows.map (·.line) := congrArg ExtractedRows.lines h
  have hruns : input.scrollbackRowRuns = rows.map (·.runs) := congrArg ExtractedRows.rowRuns h
  have hprompts : input.scrollbackSemanticPrompts = rows.map (·.semanticPrompt) :=
    congrArg ExtractedRows.semanticPrompts h
  have hdirty : input.scrollbackDirtyRows = rows.map (·.dirty) := congrArg ExtractedRows.dirtyRows h
  have hkitty : input.scrollbackKittyPlaceholders = rows.map (·.kittyPlaceholder) :=
    congrArg ExtractedRows.kittyPlaceholders h
  simp only [inputScrollbackRows, rowRunsPrefixOrPlain, rowValuesPrefixOrDefault, hlines, hruns, hprompts,
    hdirty, hkitty, List.length_map, if_pos hlen, extractRows, List.map_take]

theorem cachedMainScrollbackRows_eq (h : scrollbackInputRows input = extractRows rows) (main : MainScreen) :
    cachedMainScrollbackRows input main.totalRows (extractRows main.screen) =
      if main.history.length ≤ rows.length then
        some (extractRows (rows.take main.history.length ++ main.screen))
      else none := by
  have hlines : input.scrollbackLines.length = rows.length := by
    have hlines : input.scrollbackLines = rows.map (·.line) := congrArg ExtractedRows.lines h
    rw [hlines, List.length_map]
  have hsurface : (extractRows main.screen).lines.length = main.screen.length := List.length_map _
  have htotal : main.totalRows = main.history.length + main.screen.length := List.length_append
  have hhistory : main.totalRows - main.screen.length = main.history.length := by omega
  unfold cachedMainScrollbackRows
  rw [hsurface, hlines, hhistory, if_neg (by omega)]
  by_cases hlen : main.history.length ≤ rows.length
  · rw [if_neg (by omega), if_pos hlen, inputScrollbackRows_eq h hlen, extractRows_append]
  · rw [if_pos (by omega), if_neg hlen]

/-- What an update has for a scrollback, if the rows of the pane were all rows before. -/
theorem extractUpdateRows_cached (h : scrollbackInputRows input = extractRows rows) (main : MainScreen)
    (alternate : List ScreenRow) {preserveInputRows : Bool}
    (hfresh : preserveInputRows = true → input.surface ≠ .main) :
    ((extractUpdateRows ⟨main, alternate, false⟩ input preserveInputRows).preserveScrollback = false →
      (extractUpdateRows ⟨main, alternate, false⟩ input preserveInputRows).scrollback = extractRows main.rows) ↔
    (main.history.length ≤ rows.length → main.history <+: rows) := by
  have hpositive := List.length_pos_iff.mpr main.screen_ne
  have htotal : main.totalRows = main.history.length + main.screen.length := List.length_append
  have hsurface : (extractRows main.screen).lines.length = main.screen.length := List.length_map _
  have hskip : ¬ (preserveInputRows && surfaceKind ⟨main, alternate, false⟩ = input.surface) = true := by
    rw [Bool.and_eq_true, decide_eq_true_iff]
    exact fun ⟨hpreserve, hsame⟩ => hfresh hpreserve hsame.symm
  have hmain : surfaceKind ⟨main, alternate, false⟩ = .main := rfl
  have hvisible : Screens.visible ⟨main, alternate, false⟩ = main.screen := rfl
  unfold extractUpdateRows
  dsimp only
  rw [if_neg hskip, if_pos hmain, hvisible, hsurface]
  by_cases hempty : main.totalRows ≤ main.screen.length
  · have hnone : main.history = [] := List.length_eq_zero_iff.mp (by omega)
    have hall : main.rows = main.screen := by rw [MainScreen.rows, hnone, List.nil_append]
    rw [if_pos hempty, hnone]
    refine iff_of_true (fun _ => ?_) fun _ => List.nil_prefix
    show (extractRows main.screen).truncated main.totalRows = _
    rw [extractRows_truncated, hall, List.take_of_length_le (by omega)]
  rw [if_neg hempty, cachedMainScrollbackRows_eq h main]
  by_cases hlen : main.history.length ≤ rows.length
  · rw [if_pos hlen]
    dsimp only
    rw [MainScreen.rows, extractRows_injective.eq_iff, List.append_left_inj, List.prefix_iff_eq_take]
    exact ⟨fun hrows _ => (hrows rfl).symm, fun hrows _ => (hrows hlen).symm⟩
  · rw [if_neg hlen]
    refine iff_of_true (fun hpreserve => ?_) fun hle => absurd hle hlen
    dsimp only at hpreserve ⊢
    split at hpreserve
    case isTrue hlines =>
      rw [if_pos hlines]
      exact main.scrollbackRows_eq
    case isFalse => cases hpreserve

/-- **The scrollback put together is the full one** exactly if the history that the pane has rows enough for
starts the rows the pane had: those of its rows that have come into the history did so unchanged, and none
was lost before them. -/
theorem cached_scrollback_iff {before : MainScreen} {input : TerminalInput} {preserveInputRows : Bool}
    (hcached : scrollbackInputRows input = before.scrollbackRows)
    (hfresh : preserveInputRows = true → input.surface ≠ .main) (changes : List ScreenChange)
    (alternate : List ScreenRow) :
    ((extractUpdateRows ⟨run MainScreen.apply before changes, alternate, false⟩ input
          preserveInputRows).preserveScrollback = false →
        (extractUpdateRows ⟨run MainScreen.apply before changes, alternate, false⟩ input
          preserveInputRows).scrollback = (run MainScreen.apply before changes).scrollbackRows) ↔
      ((run MainScreen.apply before changes).history.length ≤ before.rows.length →
        (run MainScreen.apply before changes).history <+: before.rows) := by
  rw [MainScreen.scrollbackRows_eq] at hcached
  rw [MainScreen.scrollbackRows_eq]
  exact extractUpdateRows_cached hcached _ alternate hfresh

end

/-! ### Two rows -/

def plainRow (line : String) : ScreenRow := ⟨line, [.plain line], .none, false, false⟩

/-- A screen of two empty rows. -/
def emptyScreen : MainScreen := ⟨[], [plainRow "", plainRow ""], List.cons_ne_nil _ _⟩

/-- A pane that has these rows. -/
def emptyInput : TerminalInput :=
  { (newPaneFromTemplate "pane-1" (.local "local" (.new "sh")) 80 2).terminalInput with
    scrollbackLines := ["", ""]
    scrollbackRowRuns := [[.plain ""], [.plain ""]]
    scrollbackSemanticPrompts := [.none, .none]
    scrollbackDirtyRows := [false, false]
    scrollbackKittyPlaceholders := [false, false] }

theorem emptyInput_rows : scrollbackInputRows emptyInput = emptyScreen.scrollbackRows := by decide +kernel

/-- Three lines of output. -/
def threeLines : List ScreenChange :=
  [.edit 0 (plainRow "a"), .edit 1 (plainRow "b"), .scroll (plainRow ""), .edit 1 (plainRow "c")]

/-- An empty line more is put together as it is. -/
theorem cached_scrollback_line : (extractUpdateRows
    ⟨run MainScreen.apply emptyScreen [.scroll (plainRow ""), .edit 1 (plainRow "a")], [], false⟩ emptyInput
      false).scrollback =
    (run MainScreen.apply emptyScreen [.scroll (plainRow ""), .edit 1 (plainRow "a")]).scrollbackRows := by
  have hfresh : false = true → emptyInput.surface ≠ .main := fun h => absurd h Bool.false_ne_true
  have hstarts : (run MainScreen.apply emptyScreen
      [.scroll (plainRow ""), .edit 1 (plainRow "a")]).history <+: emptyScreen.rows := ⟨[plainRow ""], rfl⟩
  exact (cached_scrollback_iff emptyInput_rows hfresh _ []).mpr (fun _ => hstarts) (by decide +kernel)

/-- **Three lines on two rows lose the first**: the history is filled with a row as it was before. -/
theorem cached_scrollback_loses_line :
    scrollbackInputRows emptyInput = emptyScreen.scrollbackRows ∧
    (extractUpdateRows ⟨run MainScreen.apply emptyScreen threeLines, [], false⟩ emptyInput
      false).preserveScrollback = false ∧
    (extractUpdateRows ⟨run MainScreen.apply emptyScreen threeLines, [], false⟩ emptyInput
      false).scrollback.lines = ["", "b", "c"] ∧
    (run MainScreen.apply emptyScreen threeLines).scrollbackRows.lines = ["a", "b", "c"] ∧
    ¬ ∀ (before : MainScreen) (input : TerminalInput) (changes : List ScreenChange),
      scrollbackInputRows input = before.scrollbackRows →
      (extractUpdateRows ⟨run MainScreen.apply before changes, [], false⟩ input
        false).preserveScrollback = false →
      (extractUpdateRows ⟨run MainScreen.apply before changes, [], false⟩ input false).scrollback =
        (run MainScreen.apply before changes).scrollbackRows := by
  refine ⟨emptyInput_rows, by decide +kernel, by decide +kernel, by decide +kernel, fun h => ?_⟩
  have hsame := h emptyScreen emptyInput threeLines emptyInput_rows (by decide +kernel)
  revert hsame
  decide +kernel

end Nmux.Ghostty
