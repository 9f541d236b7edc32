import Nmux.Client.Scrollback
import Nmux.Core.SessionNodes

/-! Scrollback ranges. A history numbers its lines from one; a chunk is a range of the numbered history,
on the server as on the client, and a fetch of the last lines gets the end of it. -/
namespace Nmux

open Client
open Lib.Check
open Live (ScrollbackFetchSummary)

/-- All lines of the history as rows of a chunk. -/
def PaneScrollback.numberedRows (scrollback : PaneScrollback) : List Protocol.ScrollbackRow :=
  (scrollback.lines.zip scrollback.rowRuns).mapIdx fun row (line, runs) =>
    scrollback.buildRow (UInt64.ofNat (row + 1)) row line runs

/-- The rows of a range of the history. -/
def PaneScrollback.range (scrollback : PaneScrollback) (startLine : UInt64) (lineCount : UInt32) :
    List Protocol.ScrollbackRow :=
  (scrollback.numberedRows.drop (startLine.toNat - 1)).take lineCount.toNat

/-- The range as a frame. -/
def PaneScrollback.rangeChunk (scrollback : PaneScrollback) (startLine : UInt64) (lineCount : UInt32) :
    Protocol.ScrollbackChunk where
  paneId := some scrollback.paneId
  scrollbackVersion := scrollback.version
  startLine
  totalLines := UInt64.ofNat scrollback.lines.length
  rows := some (scrollback.range startLine lineCount)
  styles := some scrollback.styles
  colors := some (buildTerminalColors scrollback.colors none true)
  hyperlinks := some []

/-- One run list a line, and no more lines than a vector can have. -/
structure PaneScrollback.Bounded (scrollback : PaneScrollback) : Prop where
  runs : scrollback.rowRuns.length = scrollback.lines.length
  lines : scrollback.lines.length < 2 ^ 63

variable {scrollback : PaneScrollback}

theorem PaneScrollback.Bounded.numberedRows_length (h : scrollback.Bounded) :
    scrollback.numberedRows.length = scrollback.lines.length := by
  rw [numberedRows, List.length_mapIdx, List.length_zip, h.runs, Nat.min_self]

theorem PaneScrollback.Bounded.numberedRows_get (h : scrollback.Bounded) {row : Nat}
    (hrow : row < scrollback.lines.length) : ∃ line runs,
      scrollback.lines[row]? = some line ∧ scrollback.rowRuns[row]? = some runs ∧
      scrollback.numberedRows[row]? = some (scrollback.buildRow (UInt64.ofNat (row + 1)) row line runs) := by
  obtain ⟨line, hline⟩ : ∃ line, scrollback.lines[row]? = some line :=
    ⟨_, List.getElem?_eq_getElem hrow⟩
  obtain ⟨runs, hruns⟩ : ∃ runs, scrollback.rowRuns[row]? = some runs :=
    ⟨_, List.getElem?_eq_getElem (h.runs ▸ hrow)⟩
  have hzip : (scrollback.lines.zip scrollback.rowRuns)[row]? = some (line, runs) :=
    List.getElem?_zip_eq_some.mpr ⟨hline, hruns⟩
  refine ⟨line, runs, hline, hruns, ?_⟩
  rw [numberedRows, List.getElem?_mapIdx, hzip]
  rfl

theorem toNat_ofNat64 {n : Nat} (h : n < 2 ^ 64) : (UInt64.ofNat n).toNat = n :=
  UInt64.toNat_ofNat_of_lt' h

/-! ### The server -/

/-- The rows that are built for some selected lines are those of the numbered history. -/
theorem PaneScrollback.Bounded.buildRows_eq (h : scrollback.Bounded) {startLine : UInt64} {start : Nat}
    (hstart : startLine.toNat = start + 1) : ∀ (count offset : Nat),
    start + offset + count ≤ scrollback.lines.length →
    scrollback.buildRows startLine start ((scrollback.lines.drop (start + offset)).take count) offset =
      .ok ((scrollback.numberedRows.drop (start + offset)).take count)
  | 0, offset, _ => by rw [List.take_zero, List.take_zero]; rfl
  | count + 1, offset, hfits => by
    have hbound := h.lines
    obtain ⟨line, runs, hline, hruns, hrow⟩ :=
      h.numberedRows_get (show start + offset < scrollback.lines.length by omega)
    have hlines : (scrollback.lines.drop (start + offset)).take (count + 1) =
        line :: (scrollback.lines.drop (start + (offset + 1))).take count := by
      rw [List.drop_eq_getElem?_toList_append, hline]
      rfl
    have hrows : (scrollback.numberedRows.drop (start + offset)).take (count + 1) =
        scrollback.buildRow (UInt64.ofNat (start + offset + 1)) (start + offset) line runs ::
          (scrollback.numberedRows.drop (start + (offset + 1))).take count := by
      rw [List.drop_eq_getElem?_toList_append, hrow]
      rfl
    have hoffset : (UInt64.ofNat offset).toNat = offset := toNat_ofNat64 (by omega)
    have hindex : saturatingAddUsize start offset = start + offset := Nat.min_eq_left (by omega)
    have hnumber : checkedAdd64 startLine (UInt64.ofNat offset) = .ok (UInt64.ofNat (start + offset + 1)) := by
      rw [checkedAdd64, if_pos (by omega)]
      congr 1
      apply UInt64.toNat_inj.mp
      rw [UInt64.toNat_add, hoffset, hstart, toNat_ofNat64 (by omega)]
      omega
    rw [hlines, hrows, buildRows]
    dsimp only
    rw [hindex, hruns]
    dsimp only
    rw [hnumber, ok_bind, h.buildRows_eq hstart count (offset + 1) (by omega)]
    rfl

/-- **The chunk of a fetch is its range of the history.** -/
theorem PaneScrollback.Bounded.chunk_eq (h : scrollback.Bounded) {startLine : UInt64}
    {lineCount : UInt32} (hstart : startLine ≠ 0) (hcount : lineCount ≠ 0) :
    scrollback.chunk startLine lineCount = .ok (some (scrollback.rangeChunk startLine lineCount)) := by
  have hbound := h.lines
  have hcountBound := lineCount.toNat_lt
  have hpos : startLine.toNat ≠ 0 := fun hzero => hstart (UInt64.toNat_inj.mp hzero)
  have hpred : (startLine - 1).toNat = startLine.toNat - 1 :=
    UInt64.toNat_sub_of_le _ _ (UInt64.le_iff_toNat_le.mpr (Nat.one_le_iff_ne_zero.mpr hpos))
  have hrows : scrollback.buildRows startLine (startLine.toNat - 1)
      (scrollback.selected (startLine.toNat - 1)
        (min (saturatingAddUsize (startLine.toNat - 1) lineCount.toNat) scrollback.lines.length)) 0 =
      .ok (scrollback.range startLine lineCount) := by
    unfold PaneScrollback.selected PaneScrollback.range
    by_cases hin : startLine.toNat - 1 ≤ scrollback.lines.length
    · have hstop : min (saturatingAddUsize (startLine.toNat - 1) lineCount.toNat) scrollback.lines.length =
          startLine.toNat - 1 + min lineCount.toNat (scrollback.lines.length - (startLine.toNat - 1)) := by
        rw [saturatingAddUsize]
        omega
      rw [hstop, if_pos (by omega), Nat.add_sub_cancel_left]
      have hbuilt := h.buildRows_eq (show startLine.toNat = startLine.toNat - 1 + 1 by omega)
        (min lineCount.toNat (scrollback.lines.length - (startLine.toNat - 1))) 0 (by omega)
      rw [Nat.add_zero] at hbuilt
      rw [hbuilt, ← h.numberedRows_length, ← List.length_drop, ← List.take_eq_take_min]
    · rw [if_neg (by omega), List.drop_eq_nil_of_le (by rw [h.numberedRows_length]; omega), List.take_nil]
      rfl
  rw [chunk, if_neg (not_or.mpr ⟨hstart, hcount⟩)]
  dsimp only
  rw [hpred, hrows]
  rfl

/-! ### The client -/

/-- The line a row is decoded to. -/
def scrollbackLine (row : Protocol.ScrollbackRow) : ScrollbackLine where
  line := row.line
  text := renderRunSummaries (decodedScrollbackRuns row)
  runs := decodedScrollbackRuns row
  dirtyHash := row.dirtyHash
  rowStateHash := row.rowStateHash
  semanticPrompt := row.semanticPrompt
  dirty := row.dirty
  kittyVirtualPlaceholder := row.kittyVirtualPlaceholder

/-- The checks on what the rows contain; none of them looks at a line number. -/
def contentChecks (styles : List StyleSummary) : List Protocol.ScrollbackRow → Except String Unit :=
  each fun row => validateScrollbackRowContent (decodedScrollbackRuns row) row.semanticPrompt styles []

/-- A row passes the checks on its number. -/
structure NumberAccepted (startLine totalLines : UInt64) (index : Nat) (row : Protocol.ScrollbackRow) :
    Prop where
  line : validateScrollbackRowLine row.line = .ok ()
  range : validateScrollbackRowPublicRange startLine totalLines index row.line = .ok ()

/-- Rows whose numbers are accepted are decoded unless a check on their content fails. -/
theorem scrollbackLinesFrom_eq {startLine totalLines : UInt64} (styles : List StyleSummary) :
    ∀ (rows : List Protocol.ScrollbackRow) (index : Nat),
      (∀ offset row, rows[offset]? = some row →
        NumberAccepted startLine totalLines (index + offset) row) →
      scrollbackLinesFrom startLine totalLines styles [] rows index =
        (do contentChecks styles rows; return rows.map scrollbackLine)
  | [], _, _ => rfl
  | row :: rest, index, h => by
    obtain ⟨hline, hrange⟩ := h 0 row rfl
    have hrest := scrollbackLinesFrom_eq styles rest (index + 1) fun offset other hother => by
      rw [Nat.add_right_comm, Nat.add_assoc]
      exact h (offset + 1) other hother
    rw [scrollbackLinesFrom, contentChecks, each]
    dsimp only
    cases hcontent : validateScrollbackRowContent (decodedScrollbackRuns row) row.semanticPrompt styles [] with
    | error message => rfl
    | ok =>
      rw [ok_bind, hline, ok_bind, show index = index + 0 from rfl, hrange, ok_bind]
      rw [show index + 0 + 1 = index + 1 from rfl, hrest]
      change _ = (do contentChecks styles rest; pure (scrollbackLine row :: rest.map scrollbackLine))
      cases contentChecks styles rest <;> rfl

/-! ### Lines of a range -/

/-- A row of a range is a row of the history, under the number its place gives it. -/
theorem PaneScrollback.Bounded.range_get (h : scrollback.Bounded) {startLine : UInt64}
    {lineCount : UInt32} (hstart : startLine ≠ 0) {index : Nat} {row : Protocol.ScrollbackRow}
    (hrow : (scrollback.range startLine lineCount)[index]? = some row) :
    startLine.toNat + index ≤ scrollback.lines.length ∧ ∃ line runs,
      scrollback.lines[startLine.toNat - 1 + index]? = some line ∧
      scrollback.rowRuns[startLine.toNat - 1 + index]? = some runs ∧
      row = scrollback.buildRow (UInt64.ofNat (startLine.toNat + index)) (startLine.toNat - 1 + index)
        line runs := by
  have hpos : startLine.toNat ≠ 0 := fun hzero => hstart (UInt64.toNat_inj.mp hzero)
  unfold PaneScrollback.range at hrow
  rw [List.getElem?_take] at hrow
  split at hrow
  case isFalse => cases hrow
  case isTrue =>
    rw [List.getElem?_drop] at hrow
    have hlt : startLine.toNat - 1 + index < scrollback.lines.length := by
      rw [← h.numberedRows_length]
      exact (List.getElem?_eq_some_iff.mp hrow).1
    obtain ⟨line, runs, hline, hruns, hget⟩ := h.numberedRows_get hlt
    rw [hget, show startLine.toNat - 1 + index + 1 = startLine.toNat + index by omega] at hrow
    exact ⟨by omega, line, runs, hline, hruns, (Option.some.inj hrow).symm⟩

theorem PaneScrollback.Bounded.range_length (h : scrollback.Bounded) (startLine : UInt64)
    (lineCount : UInt32) : (scrollback.range startLine lineCount).length =
      min lineCount.toNat (scrollback.lines.length - (startLine.toNat - 1)) := by
  rw [PaneScrollback.range, List.length_take, List.length_drop, h.numberedRows_length]

/-- **The client accepts the numbers of every range.** -/
theorem PaneScrollback.Bounded.range_accepted (h : scrollback.Bounded) {startLine : UInt64}
    {lineCount : UInt32} (hstart : startLine ≠ 0) {index : Nat} {row : Protocol.ScrollbackRow}
    (hrow : (scrollback.range startLine lineCount)[index]? = some row) :
    NumberAccepted startLine (UInt64.ofNat scrollback.lines.length) index row := by
  have hbound := h.lines
  have hpos : startLine.toNat ≠ 0 := fun hzero => hstart (UInt64.toNat_inj.mp hzero)
  obtain ⟨hle, line, runs, -, -, rfl⟩ := h.range_get hstart hrow
  have hnumber : (UInt64.ofNat (startLine.toNat + index)).toNat = startLine.toNat + index :=
    toNat_ofNat64 (by omega)
  have hindex : (UInt64.ofNat index).toNat = index := toNat_ofNat64 (by omega)
  have htotal : (UInt64.ofNat scrollback.lines.length).toNat = scrollback.lines.length :=
    toNat_ofNat64 (by omega)
  constructor
  · rw [validateScrollbackRowLine, require_eq_ok, bne_iff_ne]
    intro hzero
    have : startLine.toNat + index = 0 := by
      rw [← hnumber]
      exact congrArg UInt64.toNat hzero
    omega
  · have hexpected : UInt64.ofNat (startLine.toNat + index) = startLine + UInt64.ofNat index := by
      apply UInt64.toNat_inj.mp
      rw [hnumber, UInt64.toNat_add, hindex, Nat.mod_eq_of_lt (by omega)]
    have hinside : UInt64.ofNat (startLine.toNat + index) ≤ UInt64.ofNat scrollback.lines.length := by
      rw [UInt64.le_iff_toNat_le, hnumber, htotal]
      exact hle
    rw [validateScrollbackRowPublicRange, if_pos (by omega), check_bind_eq_ok, require_eq_ok,
      require_eq_ok, beq_iff_eq, decide_eq_true_iff]
    exact ⟨hexpected, hinside⟩

/-- What the client makes of a chunk whose content it accepts. -/
def PaneScrollback.chunkSummary (scrollback : PaneScrollback) (startLine : UInt64) (lineCount : UInt32) :
    ScrollbackChunkSummary where
  paneId := scrollback.paneId
  scrollbackVersion := scrollback.version
  startLine
  totalLines := UInt64.ofNat scrollback.lines.length
  styles := scrollback.styles
  hyperlinks := []
  colors := decodedTerminalColors (buildTerminalColors scrollback.colors none true)
  lines := (scrollback.range startLine lineCount).map scrollbackLine

theorem requiredString_of_ne {value : String} (h : value ≠ "") (field : String) :
    requiredString (some value) field = .ok value := by
  have hempty : value.isEmpty = false := by
    rw [Bool.eq_false_iff]
    exact fun hempty => h (String.isEmpty_iff.mp hempty)
  simp only [requiredString, hempty]
  rfl

/-- The chunk of a fetch is decoded unless a check on the content of its lines fails. -/
theorem PaneScrollback.Bounded.chunkFromFrame_eq (h : scrollback.Bounded) (hid : scrollback.paneId ≠ "")
    {startLine : UInt64} (hstart : startLine ≠ 0) (lineCount : UInt32) :
    scrollbackChunkFromFrame (scrollback.rangeChunk startLine lineCount) =
      (do
        contentChecks scrollback.styles (scrollback.range startLine lineCount)
        return scrollback.chunkSummary startLine lineCount) := by
  have hlines := scrollbackLinesFrom_eq scrollback.styles
    (scrollback.range startLine lineCount) 0 fun offset row hrow => by
      rw [Nat.zero_add]
      exact h.range_accepted hstart hrow
  have hfirst : validateScrollbackChunkStartLine startLine = .ok () := by
    rw [validateScrollbackChunkStartLine, require_eq_ok, bne_iff_ne]
    exact hstart
  unfold scrollbackChunkFromFrame PaneScrollback.rangeChunk
  dsimp only [Option.getD_some, Option.map_some]
  rw [List.map_nil, show validateHyperlinkTable [] = .ok () from rfl, ok_bind,
    show terminalColorsHavePaletteDiff (decodedTerminalColors
      (buildTerminalColors scrollback.colors none true)) = false from rfl,
    show require (!false) "scrollback chunk cannot carry palette diff" = .ok () from rfl, ok_bind, hfirst,
    ok_bind, hlines]
  cases contentChecks scrollback.styles (scrollback.range startLine lineCount) with
  | error message => rfl
  | ok =>
    rw [ok_bind, pure_bind, requiredString_of_ne hid]
    rfl

/-! ### A pane -/

/-- The vectors of a pane's history have one entry a line. -/
structure PaneState.ScrollbackParallel (pane : PaneState) : Prop where
  runs : pane.scrollbackRowRuns.length = pane.scrollbackLines.length
  prompts : pane.scrollbackSemanticPrompts.length = pane.scrollbackLines.length
  dirtyRows : pane.scrollbackDirtyRows.length = pane.scrollbackLines.length
  placeholders : pane.scrollbackKittyPlaceholders.length = pane.scrollbackLines.length
  lines : pane.scrollbackLines.length < 2 ^ 63

theorem PaneState.ScrollbackParallel.bounded {pane : PaneState} (h : pane.ScrollbackParallel) :
    pane.paneScrollback.Bounded where
  runs := rowRunsForLines_length ..
  lines := h.lines

/-- A row that shows the pane's line of a number, counted from one. -/
structure ShowsLine (pane : PaneState) (number : Nat) (row : Protocol.ScrollbackRow) : Prop where
  numbered : row.line.toNat = number
  pos : 0 < number
  inHistory : number ≤ pane.scrollbackLines.length
  content : ∃ line runs, pane.scrollbackLines[number - 1]? = some line ∧
    row.runs = some (runs.map buildCellRun) ∧ cellRunsText runs = line ∧
    row.dirtyHash = stableRowHash line ∧
    row.rowStateHash = rowStateHash runs ⟨row.semanticPrompt, row.dirty, row.kittyVirtualPlaceholder⟩ ∧
    (pane.scrollbackRowRuns.map cellRunsText = pane.scrollbackLines →
      pane.scrollbackRowRuns[number - 1]? = some runs)
  prompt : pane.scrollbackSemanticPrompts[number - 1]? = some row.semanticPrompt
  dirty : pane.scrollbackDirtyRows[number - 1]? = some row.dirty
  placeholder : pane.scrollbackKittyPlaceholders[number - 1]? = some row.kittyVirtualPlaceholder

/-- Rows that show all lines from one number up to another. -/
structure ShowsLines (pane : PaneState) (first last : Nat) (rows : List Protocol.ScrollbackRow) :
    Prop where
  length : rows.length = last + 1 - first
  line : ∀ index row, rows[index]? = some row → ShowsLine pane (first + index) row

theorem getD_of_length {α β : Type} {xs : List α} {ys : List β} (hlen : xs.length = ys.length) {i : Nat}
    (h : i < ys.length) (fallback : α) : xs[i]? = some (xs[i]?.getD fallback) := by
  rw [List.getElem?_eq_getElem (hlen ▸ h)]
  rfl

theorem PaneState.ScrollbackParallel.showsLines {pane : PaneState} (h : pane.ScrollbackParallel)
    {startLine : UInt64} (hstart : startLine ≠ 0) (lineCount : UInt32) :
    ShowsLines pane startLine.toNat
      (min (startLine.toNat + lineCount.toNat - 1) pane.scrollbackLines.length)
      (pane.paneScrollback.range startLine lineCount) := by
  have hpos : startLine.toNat ≠ 0 := fun hzero => hstart (UInt64.toNat_inj.mp hzero)
  have hlines : pane.paneScrollback.lines = pane.scrollbackLines := rfl
  refine ⟨?_, fun index row hrow => ?_⟩
  · rw [h.bounded.range_length, hlines]
    omega
  · obtain ⟨hle, line, runs, hline, hruns, rfl⟩ := h.bounded.range_get hstart hrow
    have hbound := h.lines
    rw [hlines] at hle hline
    have hindex : startLine.toNat + index - 1 = startLine.toNat - 1 + index := by omega
    have hin : startLine.toNat - 1 + index < pane.scrollbackLines.length := by omega
    have hspell : cellRunsText runs = line := by
      have htexts := congrArg (·[startLine.toNat - 1 + index]?)
        (rowRunsForLines_text pane.scrollbackLines pane.scrollbackRowRuns)
      rw [List.getElem?_map, hline] at htexts
      change (pane.paneScrollback.rowRuns[startLine.toNat - 1 + index]?).map cellRunsText = some line
        at htexts
      rw [hruns] at htexts
      exact Option.some.inj htexts
    exact {
      numbered := toNat_ofNat64 (by omega)
      pos := by omega
      inHistory := hle
      content := by
        rw [hindex]
        refine ⟨line, runs, hline, rfl, hspell, rfl, rfl, fun hown => ?_⟩
        have hkept : pane.paneScrollback.rowRuns = pane.scrollbackRowRuns := by
          change rowRunsForLines _ _ = _
          rw [rowRunsForLines_eq, if_pos hown]
        rw [← hkept]
        exact hruns
      prompt := by
        have hkept : pane.paneScrollback.semanticPrompts = pane.scrollbackSemanticPrompts := by
          change rowSemanticPromptsForLines _ _ = _
          rw [rowSemanticPromptsForLines, if_pos (beq_iff_eq.mpr h.prompts)]
        rw [hindex, ← hkept]
        exact getD_of_length (hkept ▸ h.prompts) hin _
      dirty := by
        have hkept : pane.paneScrollback.dirtyRows = pane.scrollbackDirtyRows := by
          change rowDirtyFlagsForLines _ _ = _
          rw [rowDirtyFlagsForLines, if_pos (beq_iff_eq.mpr h.dirtyRows)]
        rw [hindex, ← hkept]
        exact getD_of_length (hkept ▸ h.dirtyRows) hin _
      placeholder := by
        have hkept : pane.paneScrollback.kittyPlaceholders = pane.scrollbackKittyPlaceholders := by
          change rowKittyPlaceholdersForLines _ _ = _
          rw [rowKittyPlaceholdersForLines, if_pos (beq_iff_eq.mpr h.placeholders)]
        rw [hindex, ← hkept]
        exact getD_of_length (hkept ▸ h.placeholders) hin _ }

/-! ### A fetch -/

section
variable {session : Session} {paneId actorId : String} {pane : Pane}

theorem chunkForPane_eq (hpane : session.pane paneId = some pane) (h : pane.state.ScrollbackParallel)
    {startLine : UInt64} {lineCount : UInt32} (hstart : startLine ≠ 0) (hcount : lineCount ≠ 0) :
    session.scrollbackChunkForPane paneId startLine lineCount =
      .ok (some (pane.state.paneScrollback.rangeChunk startLine lineCount)) := by
  rw [Session.scrollbackChunkForPane, Session.paneScrollback, hpane, Option.map_some]
  exact h.bounded.chunk_eq hstart hcount

/-- A fetch that knows no version gets its range. -/
theorem serveScrollbackFetch_eq (hpane : session.pane paneId = some pane)
    (h : pane.state.ScrollbackParallel) (hid : paneId ≠ "") (hactor : actorId ≠ "")
    {startLine : UInt64} {lineCount : UInt32} (hstart : startLine ≠ 0) (hcount : lineCount ≠ 0) :
    (∀ known, validateScrollbackFetch ⟨paneId, actorId, startLine, lineCount, known⟩ = .ok ()) ∧
    ∀ known, serveScrollbackFetch session ⟨paneId, actorId, startLine, lineCount, known⟩ =
        .ok (.chunk (pane.state.paneScrollback.rangeChunk startLine lineCount)) ∨
      serveScrollbackFetch session ⟨paneId, actorId, startLine, lineCount, known⟩ = .ok .staleVersion ∧
        known ≠ 0 := by
  have hvalid : ∀ known,
      validateScrollbackFetch ⟨paneId, actorId, startLine, lineCount, known⟩ = .ok () := fun known => by
    have hrange : validateScrollbackFetchRange startLine lineCount = .ok () := by
      rw [validateScrollbackFetchRange, check_bind_eq_ok, require_eq_ok, require_eq_ok, bne_iff_ne,
        bne_iff_ne]
      exact ⟨hstart, hcount⟩
    rw [validateScrollbackFetch, hrange, ok_bind, requiredString_of_ne hid, ok_bind,
      requiredString_of_ne hactor]
    rfl
  refine ⟨hvalid, fun known => ?_⟩
  rw [serveScrollbackFetch, hvalid]
  dsimp only
  rw [Session.scrollbackVersion, hpane, Option.map_some, Option.any_some, chunkForPane_eq hpane h hstart hcount]
  by_cases hknown : known = 0
  · subst hknown
    exact .inl rfl
  · split
    case isTrue => exact .inr ⟨rfl, hknown⟩
    case isFalse => exact .inl rfl

/-- **A fetch gets its range**, whatever version the client knows. -/
theorem fetchWithStaleRetry_eq (hpane : session.pane paneId = some pane)
    (h : pane.state.ScrollbackParallel) (hid : paneId ≠ "") (hactor : actorId ≠ "")
    {startLine : UInt64} {lineCount : UInt32} (hstart : startLine ≠ 0) (hcount : lineCount ≠ 0)
    (known : UInt64) :
    fetchWithStaleRetry (serveScrollbackFetch session) ⟨paneId, actorId, startLine, lineCount, known⟩ =
      scrollbackChunkFromFrame (pane.state.paneScrollback.rangeChunk startLine lineCount) := by
  have hserve := (serveScrollbackFetch_eq hpane h hid hactor hstart hcount).2
  have hfresh := (hserve 0).resolve_right fun ⟨_, hne⟩ => hne rfl
  unfold fetchWithStaleRetry
  rcases hserve known with hchunk | ⟨hstale, -⟩
  · rw [hchunk]
    rfl
  · rw [hstale, ok_bind]
    dsimp only
    rw [hfresh]
    rfl

/-- The last lines of a history start so that as many as there are, and no more than were asked for,
are left. -/
theorem tailStartLine_toNat {total : UInt64} {lines : Nat} (htotal : total.toNat = lines)
    (hbound : lines < 2 ^ 63) (tailCount : UInt32) :
    (tailStartLine total tailCount).toNat = lines + 1 - min tailCount.toNat lines ∧
      tailStartLine total tailCount ≠ 0 := by
  have hcount : tailCount.toUInt64.toNat = tailCount.toNat := UInt32.toNat_toUInt64 _
  have hnat : (tailStartLine total tailCount).toNat = lines + 1 - min tailCount.toNat lines := by
    unfold tailStartLine
    by_cases hlong : total > tailCount.toUInt64
    · have hlt : tailCount.toNat < lines := by
        rw [← hcount, ← htotal]
        exact UInt64.lt_iff_toNat_lt.mp hlong
      have hle : tailCount.toUInt64 ≤ total := by
        rw [UInt64.le_iff_toNat_le]
        omega
      rw [if_pos hlong, UInt64.toNat_add, UInt64.toNat_sub_of_le _ _ hle, hcount, htotal,
        show (1 : UInt64).toNat = 1 from rfl]
      omega
    · have hle : lines ≤ tailCount.toNat := by
        rw [← hcount, ← htotal]
        exact Nat.not_lt.mp fun hlt => hlong (UInt64.lt_iff_toNat_lt.mpr hlt)
      rw [if_neg hlong, show (1 : UInt64).toNat = 1 from rfl]
      omega
  refine ⟨hnat, fun hzero => ?_⟩
  rw [hzero, show (0 : UInt64).toNat = 0 from rfl] at hnat
  omega

/-- What the client makes of a range of the pane's history. -/
def PaneState.rangeSummary (pane : PaneState) (startLine : UInt64)
    (rows : List Protocol.ScrollbackRow) : ScrollbackChunkSummary where
  paneId := pane.id
  scrollbackVersion := pane.scrollbackVersion
  startLine
  totalLines := UInt64.ofNat pane.scrollbackLines.length
  styles := pane.styles
  hyperlinks := []
  colors := decodedTerminalColors (buildTerminalColors pane.colors none true)
  lines := rows.map scrollbackLine

/-- **Scrollback ranges agree.** The chunk of a range shows the lines of the pane from the first to the
last of the range, or to the end of the history, and the client accepts their numbers. A selection of
the last lines asks for them, gets them, and fails only if what the lines contain is refused. -/
theorem scrollback_ranges_agree (session : Session) (paneId : String) (pane : Pane)
    (hpane : session.pane paneId = some pane) (h : pane.state.ScrollbackParallel) :
    (∀ startLine lineCount, startLine ≠ 0 → lineCount ≠ 0 → ∃ chunk rows,
      session.scrollbackChunkForPane paneId startLine lineCount = .ok (some chunk) ∧
      chunk.paneId = some paneId ∧ chunk.startLine = startLine ∧ chunk.rows = some rows ∧
      chunk.totalLines.toNat = pane.state.scrollbackLines.length ∧
      ShowsLines pane.state startLine.toNat
        (min (startLine.toNat + lineCount.toNat - 1) pane.state.scrollbackLines.length) rows ∧
      (pane.state.scrollbackLines.length < startLine.toNat → rows = []) ∧
      validateScrollbackChunkStartLine chunk.startLine = .ok () ∧
      (∀ index row, rows[index]? = some row →
        NumberAccepted chunk.startLine chunk.totalLines index row) ∧
      (paneId ≠ "" → scrollbackChunkFromFrame chunk = (do
        contentChecks pane.state.styles rows
        return pane.state.rangeSummary startLine rows))) ∧
    ∀ actorId tailCount startLine lineCount known,
      paneId ≠ "" → actorId ≠ "" → tailCount ≠ 0 → ∃ first chunk rows probed,
        first.toNat = pane.state.scrollbackLines.length + 1 -
          min tailCount.toNat pane.state.scrollbackLines.length ∧
        serveScrollbackFetch session ⟨paneId, actorId, first, tailCount, 0⟩ = .ok (.chunk chunk) ∧
        chunk.rows = some rows ∧
        ShowsLines pane.state first.toNat pane.state.scrollbackLines.length rows ∧
        ShowsLines pane.state 1 (min 1 pane.state.scrollbackLines.length) probed ∧
        fetchScrollbackChunkWithSelection (serveScrollbackFetch session) paneId actorId startLine lineCount
            (some tailCount) known = (do
          contentChecks pane.state.styles probed
          contentChecks pane.state.styles rows
          return pane.state.rangeSummary first rows) := by
  have hidOf : pane.state.id = paneId := (Session.pane_mem_nodes hpane).2.2
  have hbound := h.lines
  have htotal : (UInt64.ofNat pane.state.scrollbackLines.length).toNat = pane.state.scrollbackLines.length :=
    toNat_ofNat64 (by omega)
  have hdecoded : ∀ {startLine} lineCount, paneId ≠ "" → startLine ≠ 0 →
      scrollbackChunkFromFrame (pane.state.paneScrollback.rangeChunk startLine lineCount) = (do
        contentChecks pane.state.styles (pane.state.paneScrollback.range startLine lineCount)
        return pane.state.rangeSummary startLine (pane.state.paneScrollback.range startLine lineCount)) :=
    fun lineCount hid hstart => h.bounded.chunkFromFrame_eq (fun hempty => hid (hidOf.symm.trans hempty))
      hstart lineCount
  refine ⟨fun startLine lineCount hstart hcount => ?_,
    fun actorId tailCount startLine lineCount known hid hactor htail => ?_⟩
  · have hshows := h.showsLines hstart lineCount
    refine ⟨_, _, chunkForPane_eq hpane h hstart hcount, congrArg some hidOf, rfl, rfl, htotal, hshows,
      fun hbeyond => ?_, ?_, fun index row hrow => h.bounded.range_accepted hstart hrow,
      fun hid => hdecoded lineCount hid hstart⟩
    · apply List.eq_nil_of_length_eq_zero
      rw [hshows.length]
      omega
    · rw [validateScrollbackChunkStartLine, require_eq_ok, bne_iff_ne]
      exact hstart
  · have hcountBound := tailCount.toNat_lt
    obtain ⟨hfirst, hne⟩ := tailStartLine_toNat htotal hbound tailCount
    have hshows := h.showsLines hne tailCount
    refine ⟨tailStartLine (UInt64.ofNat pane.state.scrollbackLines.length) tailCount, _, _, _, hfirst,
      ((serveScrollbackFetch_eq hpane h hid hactor hne htail).2 0).resolve_right fun ⟨_, h0⟩ => h0 rfl,
      rfl, ?_, h.showsLines (show (1 : UInt64) ≠ 0 by decide) 1, ?_⟩
    · rwa [Nat.min_eq_right (by omega)] at hshows
    · rw [fetchScrollbackChunkWithSelection]
      dsimp only
      rw [fetchWithStaleRetry_eq hpane h hid hactor (show (1 : UInt64) ≠ 0 by decide)
        (show (1 : UInt32) ≠ 0 by decide), hdecoded 1 hid (by decide)]
      cases contentChecks pane.state.styles (pane.state.paneScrollback.range 1 1) with
      | error message => rfl
      | ok =>
        exact (fetchWithStaleRetry_eq hpane h hid hactor hne htail _).trans (hdecoded tailCount hid hne)

end

/-- A fetch of the five lines from the second on gets the last two of the initial history of three,
and so does a selection of the last two. -/
theorem scrollback_ranges_agree_initial : ∃ pane chunk rows tail,
    Session.initial.pane "pane-1" = some pane ∧
    Session.initial.scrollbackChunkForPane "pane-1" 2 5 = .ok (some chunk) ∧ chunk.rows = some rows ∧
    ShowsLines pane.state 2 3 rows ∧ ShowsLines pane.state 2 3 tail ∧
    (fetchScrollbackChunkWithSelection (serveScrollbackFetch Session.initial) "pane-1" "actor" 1 1 (some 2)
      fun _ _ => 0).isOk := by
  obtain ⟨pane, hpane⟩ := Option.isSome_iff_exists.mp
    (show (Session.initial.pane "pane-1").isSome = true by decide)
  have hlines : pane.state.scrollbackLines.length = 3 ∧ pane.state.scrollbackRowRuns.length = 3 ∧
      pane.state.scrollbackSemanticPrompts.length = 3 ∧ pane.state.scrollbackDirtyRows.length = 3 ∧
      pane.state.scrollbackKittyPlaceholders.length = 3 := by
    have hall : (Session.initial.pane "pane-1").all (fun pane => decide (
        pane.state.scrollbackLines.length = 3 ∧ pane.state.scrollbackRowRuns.length = 3 ∧
        pane.state.scrollbackSemanticPrompts.length = 3 ∧ pane.state.scrollbackDirtyRows.length = 3 ∧
        pane.state.scrollbackKittyPlaceholders.length = 3)) = true := by decide
    rw [hpane] at hall
    exact of_decide_eq_true hall
  obtain ⟨hcount, hruns, hprompts, hdirty, hplaceholders⟩ := hlines
  obtain ⟨hrange, htail⟩ := scrollback_ranges_agree Session.initial "pane-1" pane hpane {
    runs := hruns.trans hcount.symm
    prompts := hprompts.trans hcount.symm
    dirtyRows := hdirty.trans hcount.symm
    placeholders := hplaceholders.trans hcount.symm
    lines := by rw [hcount]; decide }
  obtain ⟨chunk, rows, hchunk, -, -, hrows, -, hshows, -⟩ := hrange 2 5 (by decide) (by decide)
  obtain ⟨first, -, tail, -, hfirst, -, -, hlast, -⟩ :=
    htail "actor" 2 1 1 (fun _ _ => 0) (by decide) (by decide) (by decide)
  rw [hcount] at hshows hfirst hlast
  rw [hfirst] at hlast
  exact ⟨pane, chunk, rows, tail, hpane, hchunk, hrows, hshows, hlast, by decide +kernel⟩

end Nmux
