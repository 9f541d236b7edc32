import Nmux.Lib.Walk
import Nmux.Screen.Visible
import Nmux.Scrollback.Ranges

/-! Wheel scrolling. A view of the history of a pane is a window that the wheel moves by a line: away from
the surface of the pane from the last lines to the first, and back. So it is a walk along the places of
the window. What is left open is what the pane shows when the walk is home again. The cached surface
takes the place of the lines; where the client has cached none, the lines stay. -/
namespace Nmux.Screen

open Client (ScrollbackChunkSummary fetchScrollbackChunkWithSelection fetchWithStaleRetry
  renderRunSummaries scrollbackChunkFromFrame serveScrollbackFetch tailStartLine)
open Lib (WalkStep run walkStep)
open Lib.Check
open Tui (LiveScrollDirection)

/-! ### What a fetch gets -/

section
variable {session : Session} {pane : PaneState} {paneId actorId : String} {startLine known : UInt64}
  {lineCount : UInt32} {chunk : ScrollbackChunkSummary}

theorem bounded_of_length (h : pane.scrollbackLines.length < 2 ^ 63) : pane.paneScrollback.Bounded where
  runs := rowRunsForLines_length ..
  lines := h

/-- What the server sends is the range, for a request that is well formed. -/
theorem serveScrollbackFetch_chunk (hsession : session.paneScrollback paneId = some pane.paneScrollback)
    (hlines : pane.scrollbackLines.length < 2 ^ 63) {frame : Protocol.ScrollbackChunk}
    (h : serveScrollbackFetch session ⟨paneId, actorId, startLine, lineCount, known⟩ = .ok (.chunk frame)) :
    startLine ≠ 0 ∧ paneId ≠ "" ∧ frame = pane.paneScrollback.rangeChunk startLine lineCount := by
  unfold serveScrollbackFetch at h
  split at h
  · cases Except.ok.inj h
  case h_2 hvalid =>
    obtain ⟨hrange, hvalid⟩ := check_bind_eq_ok.mp hvalid
    obtain ⟨hstart, hcount⟩ := check_bind_eq_ok.mp hrange
    obtain ⟨id, hid, -⟩ := bind_eq_ok.mp hvalid
    have hstart := bne_iff_ne.mp (require_eq_ok.mp hstart)
    have hcount := bne_iff_ne.mp (require_eq_ok.mp hcount)
    refine ⟨hstart, ?_, ?_⟩
    · rintro rfl
      cases hid
    · split at h
      · cases Except.ok.inj h
      · rw [Session.scrollbackChunkForPane, hsession] at h
        dsimp only at h
        rw [(bounded_of_length hlines).chunk_eq hstart hcount, ok_bind] at h
        cases h
        rfl

/-- A fetch that gets anything gets its range. -/
theorem fetchWithStaleRetry_ok (hsession : session.paneScrollback paneId = some pane.paneScrollback)
    (hlines : pane.scrollbackLines.length < 2 ^ 63)
    (h : fetchWithStaleRetry (serveScrollbackFetch session) ⟨paneId, actorId, startLine, lineCount, known⟩ =
      .ok chunk) :
    startLine ≠ 0 ∧ chunk = pane.paneScrollback.chunkSummary startLine lineCount := by
  have hdecoded {known : UInt64} {frame : Protocol.ScrollbackChunk}
      (hserve : serveScrollbackFetch session ⟨paneId, actorId, startLine, lineCount, known⟩ =
        .ok (.chunk frame)) (hframe : scrollbackChunkFromFrame frame = .ok chunk) :
      startLine ≠ 0 ∧ chunk = pane.paneScrollback.chunkSummary startLine lineCount := by
    obtain ⟨hstart, hid, rfl⟩ := serveScrollbackFetch_chunk hsession hlines hserve
    obtain ⟨found, hfound, hsame⟩ := Option.map_eq_some_iff.mp hsession
    have hpaneId : pane.paneScrollback.paneId = paneId := by
      rw [← hsame]
      exact (Session.pane_mem_nodes hfound).2.2
    rw [(bounded_of_length hlines).chunkFromFrame_eq (by rwa [hpaneId]) hstart] at hframe
    obtain ⟨-, hchunk⟩ := check_bind_eq_ok.mp hframe
    exact ⟨hstart, (Except.ok.inj hchunk).symm⟩
  obtain ⟨reply, hserve, h⟩ := bind_eq_ok.mp h
  cases reply with
  | chunk frame => exact hdecoded hserve h
  | refused message => cases h
  | staleVersion =>
    obtain ⟨reply, hserve, h⟩ := bind_eq_ok.mp h
    cases reply with
    | chunk frame => exact hdecoded hserve h
    | refused message => cases h
    | staleVersion => cases h

/-- A selection of the last lines gets the end of the history. -/
theorem fetchScrollbackChunkWithSelection_ok
    (hsession : session.paneScrollback paneId = some pane.paneScrollback)
    (hlines : pane.scrollbackLines.length < 2 ^ 63) {tailCount : Option UInt32}
    {knownVersionFor : UInt64 → UInt32 → UInt64}
    (h : fetchScrollbackChunkWithSelection (serveScrollbackFetch session) paneId actorId startLine lineCount
      tailCount knownVersionFor = .ok chunk) :
    ∃ first : UInt64, first ≠ 0 ∧
      chunk = pane.paneScrollback.chunkSummary first (tailCount.getD lineCount) ∧
      (tailCount = none → first = startLine) ∧
      ∀ count, tailCount = some count → first.toNat = pane.scrollbackLines.length + 1 -
        min count.toNat pane.scrollbackLines.length := by
  cases tailCount with
  | none =>
    obtain ⟨hfirst, hchunk⟩ := fetchWithStaleRetry_ok hsession hlines h
    exact ⟨_, hfirst, hchunk, fun _ => rfl, fun count hcount => by cases hcount⟩
  | some tailCount =>
    obtain ⟨probe, hprobe, h⟩ := bind_eq_ok.mp h
    obtain ⟨-, rfl⟩ := fetchWithStaleRetry_ok hsession hlines hprobe
    obtain ⟨hfirst, hchunk⟩ := fetchWithStaleRetry_ok hsession hlines h
    refine ⟨_, hfirst, hchunk, fun hnone => (by cases hnone), fun count hcount => ?_⟩
    obtain rfl := Option.some.inj hcount
    exact (tailStartLine_toNat (toNat_ofNat64 (by omega)) hlines tailCount).1

end

/-! ### What a view shows -/

/-- What is drawn of a range of the history. -/
def historyBody (pane : PaneState) (startLine : UInt64) (lineCount : UInt32) : PaneBody :=
  let summary := renderScrollbackViewSummary (pane.paneScrollback.chunkSummary startLine lineCount)
  .structured summary.rowUpdates summary.styles

/-- The pane shows these lines, as text and in the runs that are drawn. -/
def ShowsText (client : LiveClient) (paneId : String) (lines : List String) : Prop :=
  ∃ rowUpdates styles, paneBody client.frameInput paneId = .structured rowUpdates styles ∧
    rowUpdates.map (·.text) = lines ∧ ∀ row ∈ rowUpdates, renderRunSummaries row.runs = row.text

section
variable {pane : PaneState} {client reached : LiveClient} {paneId : String}

theorem decodedScrollbackRuns_buildRow (scrollback : PaneScrollback) (number : UInt64) (row : ℕ)
    (line : String) (runs : List CellRun) :
    renderRunSummaries (Client.decodedScrollbackRuns (scrollback.buildRow number row line runs)) =
      cellRunsText runs := by
  show cellRunsText ((runs.map buildCellRun).map Client.decodedCellRun) = _
  unfold cellRunsText
  rw [List.map_map, List.foldl_map]
  rfl

/-- The lines of a range, decoded, spell the lines of the history. -/
theorem range_text (hlines : pane.scrollbackLines.length < 2 ^ 63) {startLine : UInt64}
    (hstart : startLine ≠ 0) (lineCount : UInt32) :
    ((pane.paneScrollback.range startLine lineCount).map scrollbackLine).map (·.text) =
      (pane.scrollbackLines.drop (startLine.toNat - 1)).take lineCount.toNat := by
  have hbounded := bounded_of_length hlines
  have hpos : startLine.toNat ≠ 0 := fun hzero => hstart (UInt64.toNat_inj.mp hzero)
  have hlength : (pane.paneScrollback.range startLine lineCount).length =
      ((pane.scrollbackLines.drop (startLine.toNat - 1)).take lineCount.toNat).length := by
    rw [hbounded.range_length, List.length_take, List.length_drop]
    rfl
  rw [List.map_map]
  refine List.ext_getElem (by rw [List.length_map, hlength]) fun index hindex hother => ?_
  rw [List.length_map] at hindex
  obtain ⟨-, line, runs, hline, hruns, hrow⟩ :=
    hbounded.range_get hstart (List.getElem?_eq_getElem hindex)
  have htexts := congrArg (·[startLine.toNat - 1 + index]?)
    (rowRunsForLines_text pane.scrollbackLines pane.scrollbackRowRuns)
  change ((pane.paneScrollback.rowRuns.map cellRunsText)[startLine.toNat - 1 + index]?) =
    pane.paneScrollback.lines[startLine.toNat - 1 + index]? at htexts
  rw [List.getElem?_map, hruns, hline] at htexts
  rw [List.getElem_map, hrow, List.getElem_take, List.getElem_drop]
  show renderRunSummaries _ = _
  rw [decodedScrollbackRuns_buildRow, Option.some.inj htexts]
  exact (List.getElem?_eq_some_iff.mp hline).2.symm

theorem renderScrollbackViewSummary_text (chunk : ScrollbackChunkSummary) :
    (renderScrollbackViewSummary chunk).rowUpdates.map (·.text) = chunk.lines.map (·.text) := by
  show (chunk.lines.zipIdx.map _).map _ = _
  rw [List.map_map]
  conv_rhs => rw [← List.zipIdx_map_fst 0 chunk.lines, List.map_map]
  rfl

theorem showsText_historyBody (hlines : pane.scrollbackLines.length < 2 ^ 63) {startLine : UInt64}
    (hstart : startLine ≠ 0) {lineCount : UInt32}
    (h : paneBody client.frameInput paneId = historyBody pane startLine lineCount) :
    ShowsText client paneId ((pane.scrollbackLines.drop (startLine.toNat - 1)).take lineCount.toNat) := by
  refine ⟨_, _, h, ?_, fun row hrow => ?_⟩
  · rw [renderScrollbackViewSummary_text, ← range_text hlines hstart]
    rfl
  · obtain ⟨entry, hentry, rfl⟩ := List.mem_map.mp hrow
    have hmem : entry.1 ∈ (pane.paneScrollback.range startLine lineCount).map scrollbackLine :=
      List.fst_mem_of_mem_zipIdx hentry
    obtain ⟨line, -, hline⟩ := List.mem_map.mp hmem
    show renderRunSummaries entry.1.runs = entry.1.text
    rw [← hline]
    rfl

end

/-! ### The walk -/

/-- The wheel takes a step out or back. -/
def wheelStep : LiveScrollDirection → WalkStep
  | .up => .out
  | .down => .back

/-- A window of a pane on the screen, over the history of the pane. -/
structure ScrollWindow where
  paneId : String
  visibleRows : UInt16
  pane : PaneState
  nonempty : pane.scrollbackLines ≠ []
  bounded : pane.scrollbackLines.length < 2 ^ 63

namespace ScrollWindow

variable (window : ScrollWindow)

def total : ℕ := window.pane.scrollbackLines.length

/-- The rows that are asked for. -/
def lineCount : UInt32 := (max window.visibleRows 1).toUInt32

def rows : ℕ := max window.visibleRows.toNat 1

/-- The places of the window, which is how far it is to the first line. -/
def far : ℕ := window.total - min window.rows window.total + 1

/-- The first line in the window at a distance from the surface of the pane. -/
def start (depth : ℕ) : UInt64 := UInt64.ofNat (window.far + 1 - depth)

/-- The view at a distance, which is no view at home. -/
def viewAt (depth : ℕ) : Option LiveScrollbackView :=
  if depth = 0 then none
  else some ⟨window.start depth, UInt32.ofNat (min window.rows window.total), UInt64.ofNat window.total⟩

/-- The lines in the window at a distance. -/
def chunkAt (depth : ℕ) : ScrollbackChunkSummary :=
  window.pane.paneScrollback.chunkSummary (window.start depth) window.lineCount

theorem total_pos : 0 < window.total := List.length_pos_iff.mpr window.nonempty

theorem rows_pos : 0 < window.rows := Nat.lt_of_lt_of_le one_pos (Nat.le_max_right _ _)

theorem lineCount_toNat : window.lineCount.toNat = window.rows := by
  have hone : (1 : UInt16).toNat = 1 := rfl
  show (if window.visibleRows ≤ 1 then 1 else window.visibleRows).toNat = max window.visibleRows.toNat 1
  by_cases hle : window.visibleRows ≤ 1
  · have := UInt16.le_iff_toNat_le.mp hle
    rw [if_pos hle]
    omega
  · have := UInt16.lt_iff_toNat_lt.mp (UInt16.not_le.mp hle)
    rw [if_neg hle]
    omega

theorem rows_lt : window.rows < 2 ^ 16 := by
  have hlt := UInt16.toNat_lt window.visibleRows
  unfold rows
  omega

theorem far_le : window.far ≤ window.total := by
  have htotal := window.total_pos
  have hrows := window.rows_pos
  unfold far
  omega

theorem start_toNat (depth : ℕ) : (window.start depth).toNat = window.far + 1 - depth := by
  have hfar := window.far_le
  have hbound := window.bounded
  unfold total at hfar
  exact toNat_ofNat64 (by omega)

variable {window}

theorem start_eq {depth : ℕ} {first : UInt64} (h : first.toNat = window.far + 1 - depth) :
    first = window.start depth :=
  UInt64.toNat_inj.mp (h.trans (window.start_toNat depth).symm)

/-- One line up is one place further out. -/
theorem start_sub_one {depth : ℕ} (hlt : depth < window.far) :
    window.start depth - 1 = window.start (depth + 1) := by
  have hone : (1 : UInt64).toNat = 1 := rfl
  have hstart := window.start_toNat depth
  apply start_eq
  rw [UInt64.toNat_sub_of_le _ _ (UInt64.le_iff_toNat_le.mpr (by omega)), hstart, hone]
  omega

theorem start_add_one {depth : ℕ} (hle : depth + 1 ≤ window.far) :
    window.start (depth + 1) + 1 = window.start depth := by
  have hone : (1 : UInt64).toNat = 1 := rfl
  have hfar := window.far_le
  have hbound := window.bounded
  unfold total at hfar
  apply start_eq
  rw [UInt64.toNat_add, start_toNat, hone, Nat.mod_eq_of_lt (by omega)]
  omega

theorem start_gt_one {depth : ℕ} : window.start depth > 1 ↔ depth < window.far := by
  have hone : (1 : UInt64).toNat = 1 := rfl
  rw [gt_iff_lt, UInt64.lt_iff_toNat_lt, start_toNat, hone]
  omega

/-- The last place of the window, which is the first from the surface. -/
theorem scrollbackMaxStart_eq : scrollbackMaxStart (UInt64.ofNat window.total)
    (UInt32.ofNat (min window.rows window.total)) = window.start 1 := by
  have hbound := window.bounded
  have hrows := window.rows_lt
  have hpos := window.rows_pos
  have htotalPos := window.total_pos
  have hone : (1 : UInt64).toNat = 1 := rfl
  have htotal : (UInt64.ofNat window.total).toNat = window.total :=
    toNat_ofNat64 (show window.pane.scrollbackLines.length < 2 ^ 64 by omega)
  have hcount : (UInt32.ofNat (min window.rows window.total)).toNat = min window.rows window.total :=
    UInt32.toNat_ofNat_of_lt' (show min window.rows window.total < 2 ^ 32 by omega)
  have hmax : (max (UInt32.ofNat (min window.rows window.total)) 1).toUInt64.toNat =
      min window.rows window.total := by
    rw [UInt32.toNat_toUInt64]
    show (if _ then (1 : UInt32) else _).toNat = _
    split
    case isTrue hle =>
      have := UInt32.le_iff_toNat_le.mp hle
      rw [hcount] at this
      have hone32 : (1 : UInt32).toNat = 1 := rfl
      omega
    case isFalse => exact hcount
  apply start_eq
  unfold scrollbackMaxStart
  dsimp only
  split
  case isTrue hlong =>
    have hlong := UInt64.lt_iff_toNat_lt.mp hlong
    rw [UInt64.toNat_add, UInt64.toNat_sub_of_le _ _ (UInt64.le_iff_toNat_le.mpr hlong.le), hmax, htotal,
      hone]
    rw [hmax, htotal] at hlong
    show (window.total - min window.rows window.total + 1) % 2 ^ 64 =
      window.total - min window.rows window.total + 1 + 1 - 1
    unfold total at hlong ⊢
    omega
  case isFalse hshort =>
    have hshort := Nat.le_of_not_lt fun hlt => hshort (UInt64.lt_iff_toNat_lt.mpr hlt)
    rw [hmax, htotal] at hshort
    rw [hone]
    show _ = window.total - min window.rows window.total + 1 + 1 - 1
    omega

theorem start_ge_last {depth : ℕ} (hpos : 0 < depth) :
    window.start depth ≥ window.start 1 ↔ depth = 1 := by
  have hfar : 0 < window.far := Nat.succ_pos _
  rw [ge_iff_le, UInt64.le_iff_toNat_le, start_toNat, start_toNat]
  omega

theorem chunkAt_length {depth : ℕ} (hpos : 0 < depth) (hle : depth ≤ window.far) :
    (window.chunkAt depth).lines.length = min window.rows window.total := by
  show ((window.pane.paneScrollback.range _ _).map scrollbackLine).length = _
  rw [List.length_map, (bounded_of_length window.bounded).range_length, lineCount_toNat, start_toNat]
  show min window.rows (window.total - _) = _
  unfold far at hle ⊢
  omega

end ScrollWindow

/-- The daemon answers with the history of the window, from whatever session it is in; before an answer
only inventory frames arrive. -/
def AnswersFrom (window : ScrollWindow) (moment : Moment) : Prop :=
  ∃ session : Session, session.paneScrollback window.paneId = some window.pane.paneScrollback ∧
    ∀ startLine lineCount tailCount, ∃ actorId known pendingLive,
      moment.answers.scrollback window.paneId startLine lineCount tailCount = (do
        let chunk ← fetchScrollbackChunkWithSelection (serveScrollbackFetch session) window.paneId actorId
          startLine lineCount tailCount known
        return ⟨chunk, [], pendingLive⟩)

/-- The client sees the window at that distance. -/
structure AtDepth (window : ScrollWindow) (client : LiveClient) (depth : ℕ) : Prop where
  le : depth ≤ window.far
  view : client.surfaceState.scrollbackViews.get? window.paneId = window.viewAt depth
  drawn : 0 < depth → client.surfaceState.currentPaneSurfaceSummaries.get? window.paneId =
    some (renderScrollbackViewSummary (window.chunkAt depth))

/-- The pane shows its cached surface, or some text where none is cached. -/
structure ShowsLive (client : LiveClient) (paneId : String) : Prop where
  view : client.surfaceState.scrollbackViews.get? paneId = none
  cached : ∀ surface, client.clientState.cachedSurface paneId = some surface → ∃ summary,
    surfaceSummary surface = .ok summary ∧
      paneBody client.frameInput paneId = .structured summary.rowUpdates summary.styles
  uncached : client.clientState.cachedSurface paneId = none → ∃ body,
    paneBody client.frameInput paneId = .text body

/-- The window at some distance, where `touched` says that the wheel has been turned away from the
surface before: at home the surface is back if it is cached, or was never left; what is not cached leaves
some history in its place. -/
structure Scrolling (window : ScrollWindow) (client : LiveClient) (depth : ℕ) (touched : Bool) : Prop
    extends AtDepth window client depth where
  away : 0 < depth → touched = true
  home : depth = 0 → client.clientState.cachedSurface window.paneId ≠ none ∨ touched = false →
    ShowsLive client window.paneId
  history : touched = true → client.clientState.cachedSurface window.paneId = none → ∃ summary,
    client.surfaceState.currentPaneSurfaceSummaries.get? window.paneId = some summary

section
variable {setup : Setup} {moment : Moment} {window : ScrollWindow} {client reached : LiveClient} {depth : ℕ}
  {touched : Bool}

/-! ### One event -/

theorem showScrollback_atDepth (hpos : 0 < depth) (hle : depth ≤ window.far) :
    AtDepth window (client.showScrollback window.paneId (window.chunkAt depth)) depth where
  le := hle
  view := by
    show (client.surfaceState.scrollbackViews.insert _ _).get? _ = _
    have hrows := window.rows_lt
    rw [Lib.OrderedMap.get?_insert_self, ScrollWindow.viewAt, if_neg (by omega),
      ScrollWindow.chunkAt_length hpos hle, Nat.min_eq_left (by omega)]
    rfl
  drawn := fun _ => Lib.OrderedMap.get?_insert_self

/-- A paint changes nothing else, on a terminal or not. -/
theorem printLiveSurface_same {terminal : UInt32 × UInt32}
    (h : printLiveSurface setup terminal client = .ok reached) :
    ∃ painted, reached = { client with painted } := by
  unfold printLiveSurface printLiveSurfaceWithOverlay LiveClient.paint at h
  split at h
  · obtain ⟨painted, -, hreached⟩ := bind_eq_ok.mp h
    exact ⟨_, (Except.ok.inj hreached).symm⟩
  · exact ⟨client.painted, (Except.ok.inj h).symm⟩

/-- What is fetched is the window at a distance. -/
theorem AnswersFrom.answered (h : AnswersFrom window moment) {startLine : UInt64}
    {tailCount : Option UInt32} {answer : ScrollbackAnswer} {next : ℕ}
    (hnext : tailCount = some window.lineCount ∧ next = 1 ∨
      tailCount = none ∧ startLine = window.start next)
    (hanswer : moment.answers.scrollback window.paneId startLine window.lineCount tailCount = .ok answer) :
    answer.pendingUpdates = [] ∧ answer.chunk = window.chunkAt next := by
  obtain ⟨session, hsession, hserved⟩ := h
  obtain ⟨actorId, known, pendingLive, hserved⟩ := hserved startLine window.lineCount tailCount
  obtain ⟨chunk, hchunk, hpair⟩ := bind_eq_ok.mp (hserved.symm.trans hanswer)
  obtain rfl := Except.ok.inj hpair
  obtain ⟨first, -, rfl, hgiven, hlast⟩ :=
    fetchScrollbackChunkWithSelection_ok hsession window.bounded hchunk
  refine ⟨rfl, ?_⟩
  rcases hnext with ⟨rfl, rfl⟩ | ⟨rfl, rfl⟩
  · have hfirst := hlast window.lineCount rfl
    rw [window.lineCount_toNat] at hfirst
    obtain rfl : first = window.start 1 := by
      refine ScrollWindow.start_eq (hfirst.trans ?_)
      show window.total + 1 - min window.rows window.total = _
      unfold ScrollWindow.far
      omega
    rfl
  · obtain rfl := hgiven rfl
    rfl

/-- The lines that are fetched are shown. -/
theorem fetched_scrolling {direction : LiveScrollDirection} {startLine : UInt64} {tailCount : Option UInt32}
    {printed : Bool} {next : ℕ}
    (henabled : ¬(setup.args.outputJson = true ∨ (!setup.args.redraw) = true))
    (hanswers : AnswersFrom window moment)
    (hrequest : scrollRequest direction window.lineCount
      (client.surfaceState.scrollbackViews.get? window.paneId) = .fetch startLine tailCount)
    (hnext : tailCount = some window.lineCount ∧ next = 1 ∨
      tailCount = none ∧ startLine = window.start next)
    (hpos : 0 < next) (hle : next ≤ window.far)
    (h : scrollLivePaneView setup moment client window.paneId direction window.visibleRows =
      .ok (printed, reached)) :
    Scrolling window reached next true ∧ printed = true ∧
      reached.clientState.cachedSurface window.paneId = client.clientState.cachedSurface window.paneId := by
  unfold scrollLivePaneView at h
  rw [if_neg henabled] at h
  dsimp only at h
  unfold ScrollWindow.lineCount at hrequest
  rw [hrequest] at h
  obtain ⟨answer, hanswer, h⟩ := bind_eq_ok.mp h
  obtain ⟨hupdates, hchunk⟩ := hanswers.answered hnext hanswer
  obtain ⟨updated, hupdated, h⟩ := bind_eq_ok.mp h
  obtain ⟨clientInventory, hlive⟩ := applyPendingLive_eq client answer.pendingLive
  rw [hupdates, hlive] at hupdated
  obtain rfl := Except.ok.inj hupdated
  have hlength := ScrollWindow.chunkAt_length hpos hle
  have hrows := window.rows_pos
  have htotal := window.total_pos
  have hsome : ¬(window.chunkAt next).lines.isEmpty = true := by
    rw [List.isEmpty_iff, ← List.length_eq_zero_iff]
    omega
  rw [hchunk, if_neg hsome] at h
  obtain ⟨painted, hpaint, hpair⟩ := bind_eq_ok.mp h
  obtain ⟨rfl, rfl⟩ := Prod.mk.inj (Except.ok.inj hpair)
  obtain ⟨frame, rfl⟩ := printLiveSurface_same hpaint
  have hshown := @showScrollback_atDepth window { client with clientInventory } _ hpos hle
  refine ⟨⟨⟨hle, hshown.view, hshown.drawn⟩, fun _ => rfl, fun hzero => by omega,
    fun _ _ => ⟨_, hshown.drawn hpos⟩⟩, rfl, ?_⟩
  exact cachedSurface_cacheScrollbackChunk _ _ _

/-- The surface of the pane takes the place of the view, if it is cached. -/
theorem restored_scrolling (h : restoreLivePaneSurface setup client window.paneId = .ok reached)
    (hscrolling : Scrolling window client depth touched) (hdepth : 0 < depth) :
    Scrolling window reached 0 true ∧
      reached.clientState.cachedSurface window.paneId = client.clientState.cachedSurface window.paneId := by
  obtain ⟨text, htext, h⟩ := bind_eq_ok.mp h
  obtain ⟨summary, hsummary, h⟩ := bind_eq_ok.mp h
  obtain rfl := Except.ok.inj h
  unfold cachedRenderedSurfaceSummary at hsummary
  have hview : (client.surfaceState.scrollbackViews.erase window.paneId).get? window.paneId = none := by
    rw [← Option.not_isSome_iff_eq_none, ← Lib.OrderedMap.mem_keys, Lib.OrderedMap.mem_keys_erase]
    exact fun hmem => hmem.1 rfl
  refine ⟨⟨⟨Nat.zero_le _, hview, fun hpos => absurd hpos (lt_irrefl 0)⟩, fun _ => rfl,
    fun _ hcached => ⟨hview, ?_, ?_⟩, fun _ huncached => ?_⟩, rfl⟩
  · rintro surface hsurface
    change client.clientState.cachedSurface window.paneId = some surface at hsurface
    rw [hsurface] at hsummary
    obtain ⟨drawn, hdrawn, hsome⟩ := bind_eq_ok.mp hsummary
    obtain rfl := Except.ok.inj hsome
    exact ⟨drawn, hdrawn, paneBody_structured Lib.OrderedMap.get?_insert_self⟩
  · intro huncached
    exact absurd huncached (hcached.resolve_right (by decide))
  · change client.clientState.cachedSurface window.paneId = none at huncached
    rw [huncached] at hsummary
    obtain rfl := Except.ok.inj hsummary
    exact ⟨_, hscrolling.drawn hdepth⟩

/-- A paint keeps the window where it is. -/
theorem Scrolling.painted (h : Scrolling window client depth touched) (painted : Option PaintedFrame) :
    Scrolling window { client with painted } depth touched where
  le := h.le
  view := h.view
  drawn := h.drawn
  away := h.away
  home hzero hkept :=
    ⟨(h.home hzero hkept).view, (h.home hzero hkept).cached, (h.home hzero hkept).uncached⟩
  history := h.history

section
variable {direction : LiveScrollDirection} {printed : Bool}

theorem idle_same (henabled : ¬(setup.args.outputJson = true ∨ (!setup.args.redraw) = true))
    (hrequest : scrollRequest direction window.lineCount
      (client.surfaceState.scrollbackViews.get? window.paneId) = .nothing)
    (h : scrollLivePaneView setup moment client window.paneId direction window.visibleRows =
      .ok (printed, reached)) : printed = false ∧ reached = client := by
  unfold scrollLivePaneView at h
  rw [if_neg henabled] at h
  dsimp only at h
  unfold ScrollWindow.lineCount at hrequest
  rw [hrequest] at h
  obtain ⟨rfl, rfl⟩ := Prod.mk.inj (Except.ok.inj h)
  exact ⟨rfl, rfl⟩

theorem home_scrolling (henabled : ¬(setup.args.outputJson = true ∨ (!setup.args.redraw) = true))
    (hscrolling : Scrolling window client depth touched) (hpos : 0 < depth)
    (hrequest : scrollRequest direction window.lineCount
      (client.surfaceState.scrollbackViews.get? window.paneId) = .restore)
    (h : scrollLivePaneView setup moment client window.paneId direction window.visibleRows =
      .ok (printed, reached)) :
    Scrolling window reached 0 true ∧ printed = true ∧
      reached.clientState.cachedSurface window.paneId = client.clientState.cachedSurface window.paneId := by
  unfold scrollLivePaneView at h
  rw [if_neg henabled] at h
  dsimp only at h
  unfold ScrollWindow.lineCount at hrequest
  rw [hrequest] at h
  obtain ⟨restored, hrestored, h⟩ := bind_eq_ok.mp h
  obtain ⟨painted, hpaint, hpair⟩ := bind_eq_ok.mp h
  obtain ⟨rfl, rfl⟩ := Prod.mk.inj (Except.ok.inj hpair)
  obtain ⟨hhome, hcached⟩ := restored_scrolling hrestored hscrolling hpos
  obtain ⟨frame, rfl⟩ := printLiveSurface_same hpaint
  exact ⟨hhome.painted frame, rfl, hcached⟩

/-- **The wheel takes the window a step.** It is painted if the step is taken. -/
theorem scrollLivePaneView_step
    (henabled : ¬(setup.args.outputJson = true ∨ (!setup.args.redraw) = true))
    (hanswers : AnswersFrom window moment) (hscrolling : Scrolling window client depth touched)
    (h : scrollLivePaneView setup moment client window.paneId direction window.visibleRows =
      .ok (printed, reached)) :
    Scrolling window reached (walkStep window.far depth (wheelStep direction))
        (touched || direction == .up) ∧
      (printed = true ↔ walkStep window.far depth (wheelStep direction) ≠ depth) ∧
      reached.clientState.cachedSurface window.paneId = client.clientState.cachedSurface window.paneId := by
  have hview := hscrolling.view
  have hle := hscrolling.le
  have hfar : 0 < window.far := Nat.succ_pos _
  unfold ScrollWindow.viewAt at hview
  cases direction with
  | up =>
    show Scrolling window reached (min (depth + 1) window.far) (touched || true) ∧
      (printed = true ↔ min (depth + 1) window.far ≠ depth) ∧ _
    rw [Bool.or_true]
    by_cases hhome : depth = 0
    · subst hhome
      rw [if_pos rfl] at hview
      obtain ⟨hnext, hprinted, hcached⟩ := fetched_scrolling henabled hanswers (by rw [hview]; rfl)
        (.inl ⟨rfl, rfl⟩) one_pos hfar h
      rw [Nat.min_eq_left (show 0 + 1 ≤ window.far from hfar)]
      exact ⟨hnext, iff_of_true hprinted one_ne_zero, hcached⟩
    · rw [if_neg hhome] at hview
      by_cases hedge : depth < window.far
      · obtain ⟨hnext, hprinted, hcached⟩ := fetched_scrolling henabled hanswers
          (by rw [hview]; exact if_pos (ScrollWindow.start_gt_one.mpr hedge))
          (.inr ⟨rfl, ScrollWindow.start_sub_one hedge⟩) (Nat.succ_pos depth) hedge h
        rw [Nat.min_eq_left (show depth + 1 ≤ window.far from hedge)]
        exact ⟨hnext, iff_of_true hprinted (Nat.succ_ne_self depth), hcached⟩
      · obtain ⟨rfl, rfl⟩ := idle_same henabled
          (by rw [hview]; exact if_neg (mt ScrollWindow.start_gt_one.mp hedge)) h
        obtain rfl := hscrolling.away (Nat.pos_of_ne_zero hhome)
        rw [show min (depth + 1) window.far = depth by omega]
        exact ⟨hscrolling, iff_of_false Bool.false_ne_true fun hmoved => hmoved rfl, rfl⟩
  | down =>
    show Scrolling window reached (depth - 1) (touched || false) ∧
      (printed = true ↔ depth - 1 ≠ depth) ∧ _
    rw [Bool.or_false]
    by_cases hhome : depth = 0
    · subst hhome
      rw [if_pos rfl] at hview
      obtain ⟨rfl, rfl⟩ := idle_same henabled (by rw [hview]; rfl) h
      exact ⟨hscrolling, iff_of_false Bool.false_ne_true fun hmoved => hmoved rfl, rfl⟩
    · obtain ⟨next, rfl⟩ := Nat.exists_eq_succ_of_ne_zero hhome
      have hpos := Nat.succ_pos next
      have hmoved : next + 1 - 1 ≠ next + 1 := (Nat.succ_ne_self next).symm
      rw [if_neg hhome] at hview
      rw [hscrolling.away hpos]
      have hlast := @ScrollWindow.start_ge_last window _ hpos
      rw [← ScrollWindow.scrollbackMaxStart_eq] at hlast
      by_cases hnext : next + 1 = 1
      · obtain ⟨hrestored, hprinted, hcached⟩ := home_scrolling henabled hscrolling hpos
          (by rw [hview]; exact if_pos (hlast.mpr hnext)) h
        obtain rfl : next = 0 := by omega
        exact ⟨hrestored, iff_of_true hprinted hmoved, hcached⟩
      · obtain ⟨hnext, hprinted, hcached⟩ := fetched_scrolling henabled hanswers
          (by rw [hview]; exact if_neg (mt hlast.mp hnext))
          (.inr ⟨rfl, ScrollWindow.start_add_one hle⟩) (by omega) (by omega) h
        exact ⟨hnext, iff_of_true hprinted hmoved, hcached⟩

end

/-! ### Runs -/

/-- The events of a wheel over a pane, with whether each was painted. -/
def scrollLivePaneViews (setup : Setup) (paneId : String) (visibleRows : UInt16) :
    LiveClient → List (Moment × LiveScrollDirection) → Except String (List Bool × LiveClient)
  | client, [] => return ([], client)
  | client, (moment, direction) :: rest => do
    let (printed, client) ← scrollLivePaneView setup moment client paneId direction visibleRows
    let (more, client) ← scrollLivePaneViews setup paneId visibleRows client rest
    return (printed :: more, client)

/-- **Wheel scrolling is a walk.** -/
theorem scrollLivePaneViews_walk {events : List (Moment × LiveScrollDirection)} {printed : List Bool}
    (henabled : ¬(setup.args.outputJson = true ∨ (!setup.args.redraw) = true))
    (hanswers : ∀ event ∈ events, AnswersFrom window event.1)
    (hscrolling : Scrolling window client depth touched)
    (h : scrollLivePaneViews setup window.paneId window.visibleRows client events =
      .ok (printed, reached)) :
    Scrolling window reached (run (walkStep window.far) depth (events.map fun event => wheelStep event.2))
        (touched || events.any fun event => event.2 == .up) ∧
      ((∀ painted ∈ printed, painted = true) ↔
        Lib.Taken window.far depth (events.map fun event => wheelStep event.2)) ∧
      reached.clientState.cachedSurface window.paneId = client.clientState.cachedSurface window.paneId := by
  induction events generalizing client depth touched printed with
  | nil =>
    obtain ⟨rfl, rfl⟩ := Prod.mk.inj (Except.ok.inj h)
    rw [List.any_nil, Bool.or_false]
    exact ⟨hscrolling, iff_of_true (fun _ hmem => absurd hmem List.not_mem_nil) trivial, rfl⟩
  | cons event rest ih =>
    obtain ⟨⟨first, next⟩, hfirst, h⟩ := bind_eq_ok.mp h
    obtain ⟨⟨more, last⟩, hrest, hpair⟩ := bind_eq_ok.mp h
    obtain ⟨rfl, rfl⟩ := Prod.mk.inj (Except.ok.inj hpair)
    obtain ⟨hnext, hpainted, hcached⟩ := scrollLivePaneView_step henabled
      (hanswers event List.mem_cons_self) hscrolling hfirst
    obtain ⟨hlast, hmore, hkept⟩ :=
      ih (fun later hlater => hanswers later (List.mem_cons_of_mem _ hlater)) hnext hrest
    rw [Bool.or_assoc] at hlast
    refine ⟨hlast, ?_, hkept.trans hcached⟩
    rw [List.forall_mem_cons, hpainted, hmore]
    rfl

/-- Where nothing is redrawn the wheel does nothing. -/
theorem scrollLivePaneViews_disabled {events : List (Moment × LiveScrollDirection)} {printed : List Bool}
    {paneId : String} {visibleRows : UInt16}
    (hdisabled : setup.args.outputJson = true ∨ (!setup.args.redraw) = true)
    (h : scrollLivePaneViews setup paneId visibleRows client events = .ok (printed, reached)) :
    printed = List.replicate events.length false ∧ reached = client := by
  induction events generalizing client printed with
  | nil =>
    obtain ⟨rfl, rfl⟩ := Prod.mk.inj (Except.ok.inj h)
    exact ⟨rfl, rfl⟩
  | cons event rest ih =>
    obtain ⟨⟨first, next⟩, hfirst, h⟩ := bind_eq_ok.mp h
    obtain ⟨⟨more, last⟩, hrest, hpair⟩ := bind_eq_ok.mp h
    obtain ⟨rfl, rfl⟩ := Prod.mk.inj (Except.ok.inj hpair)
    unfold scrollLivePaneView at hfirst
    rw [if_pos hdisabled] at hfirst
    obtain ⟨rfl, rfl⟩ := Prod.mk.inj (Except.ok.inj hfirst)
    obtain ⟨rfl, rfl⟩ := ih hrest
    exact ⟨rfl, rfl⟩

/-- The pane shows the window: as many lines as there are rows or lines, from one that leaves as many. -/
def ShowsWindow (window : ScrollWindow) (client : LiveClient) : Prop :=
  ∃ start : UInt64, 1 ≤ start.toNat ∧ start.toNat ≤ max 1 (window.total + 1 - window.rows) ∧
    client.surfaceState.scrollbackViews.get? window.paneId =
      some ⟨start, UInt32.ofNat (min window.rows window.total), UInt64.ofNat window.total⟩ ∧
    ShowsText client window.paneId
      ((window.pane.scrollbackLines.drop (start.toNat - 1)).take (min window.rows window.total))

theorem AtDepth.showsWindow (h : AtDepth window client depth) (hpos : 0 < depth) :
    ShowsWindow window client := by
  have hle := h.le
  have hstart := window.start_toNat depth
  have hfar : window.far = window.total - min window.rows window.total + 1 := rfl
  have htotal := window.total_pos
  have hrows := window.rows_pos
  have hne : window.start depth ≠ 0 := by
    intro hzero
    rw [hzero, show (0 : UInt64).toNat = 0 from rfl] at hstart
    omega
  refine ⟨window.start depth, by omega, by omega, ?_, ?_⟩
  · rw [h.view, ScrollWindow.viewAt, if_neg (by omega)]
  · have hshows := showsText_historyBody window.bounded hne
      (show paneBody client.frameInput window.paneId =
        historyBody window.pane (window.start depth) window.lineCount from
          paneBody_structured (h.drawn hpos))
    have hsame : min window.rows
        (window.pane.scrollbackLines.drop ((window.start depth).toNat - 1)).length =
          min (min window.rows window.total)
            (window.pane.scrollbackLines.drop ((window.start depth).toNat - 1)).length := by
      rw [List.length_drop, hstart]
      unfold ScrollWindow.total
      omega
    rw [window.lineCount_toNat, List.take_eq_take_iff.mpr hsame] at hshows
    exact hshows

theorem ShowsLive.scrolling (h : ShowsLive client window.paneId) : Scrolling window client 0 false where
  le := Nat.zero_le _
  view := h.view
  drawn := fun hpos => absurd hpos (lt_irrefl 0)
  away := fun hpos => absurd hpos (lt_irrefl 0)
  home := fun _ _ => h
  history := fun htouched => absurd htouched Bool.false_ne_true

/-- At home the surface is back exactly if it is cached or was never left. -/
theorem Scrolling.showsLive_iff (h : Scrolling window client 0 touched) :
    ShowsLive client window.paneId ↔
      client.clientState.cachedSurface window.paneId ≠ none ∨ touched = false := by
  refine ⟨fun hlive => ?_, h.home rfl⟩
  by_contra hneither
  obtain ⟨huncached, htouched⟩ := not_or.mp hneither
  rw [not_not] at huncached
  obtain ⟨summary, hsummary⟩ := h.history (by simpa using htouched) huncached
  obtain ⟨body, hbody⟩ := hlive.uncached huncached
  rw [paneBody_structured hsummary] at hbody
  cases hbody

/-- What a pane shows when it is live is its cached surface. -/
theorem ShowsLive.same_body (h : ShowsLive client window.paneId) (hreached : ShowsLive reached window.paneId)
    (hcached : client.clientState.cachedSurface window.paneId ≠ none)
    (hsame : reached.clientState.cachedSurface window.paneId =
      client.clientState.cachedSurface window.paneId) :
    paneBody reached.frameInput window.paneId = paneBody client.frameInput window.paneId := by
  obtain ⟨surface, hsurface⟩ := Option.ne_none_iff_exists'.mp hcached
  obtain ⟨summary, hsummary, hbody⟩ := h.cached surface hsurface
  obtain ⟨other, hother, hreachedBody⟩ := hreached.cached surface (hsame.trans hsurface)
  obtain rfl := Except.ok.inj (hsummary.symm.trans hother)
  rw [hbody, hreachedBody]

/-- Turned back the wheel shows the surface again: it is cached, or was never left. -/
def Returns (setup : Setup) (client : LiveClient) (paneId : String)
    (events : List (Moment × LiveScrollDirection)) : Prop :=
  client.clientState.cachedSurface paneId ≠ none ∨ setup.args.outputJson = true ∨
    setup.args.redraw = false ∨ ∀ event ∈ events, event.2 = .down

/-- The wheel is only turned in that direction. -/
def Turns (window : ScrollWindow) (direction : LiveScrollDirection)
    (events : List (Moment × LiveScrollDirection)) : Prop :=
  ∀ event ∈ events, AnswersFrom window event.1 ∧ event.2 = direction

section
variable {events ups downs : List (Moment × LiveScrollDirection)} {direction : LiveScrollDirection}

theorem Turns.steps (h : Turns window direction events) :
    (events.map fun event => wheelStep event.2) = List.replicate events.length (wheelStep direction) := by
  rw [List.eq_replicate_iff, List.length_map]
  refine ⟨rfl, fun step hstep => ?_⟩
  obtain ⟨event, hmem, rfl⟩ := List.mem_map.mp hstep
  rw [(h event hmem).2]

theorem any_up_eq_false : (events.any fun event => event.2 == .up) = false ↔
    ∀ event ∈ events, event.2 = .down := by
  rw [List.any_eq_false]
  refine forall₂_congr fun event _ => ?_
  cases event.2 <;> decide

theorem Turns.any_down (h : Turns window .down events) :
    (events.any fun event => event.2 == .up) = false :=
  any_up_eq_false.mpr fun event hmem => (h event hmem).2

/-- What is turned up and nowhere up is not turned. -/
theorem Turns.eq_nil (h : Turns window .up events) (hdown : ∀ event ∈ events, event.2 = .down) :
    events = [] := by
  refine List.eq_nil_iff_forall_not_mem.mpr fun event hmem => ?_
  have hup := (h event hmem).2
  rw [hdown event hmem] at hup
  cases hup

/-- Steps away that were all painted are undone by as many back. -/
theorem scrolled_back {printed unprinted : List Bool} {top back : LiveClient}
    (henabled : ¬(setup.args.outputJson = true ∨ (!setup.args.redraw) = true))
    (hscrolling : Scrolling window reached depth touched)
    (hups : Turns window .up ups) (hdowns : Turns window .down downs) (hlength : downs.length = ups.length)
    (hup : scrollLivePaneViews setup window.paneId window.visibleRows reached ups = .ok (printed, top))
    (hprinted : ∀ painted ∈ printed, painted = true)
    (hdown : scrollLivePaneViews setup window.paneId window.visibleRows top downs = .ok (unprinted, back)) :
    Scrolling window back depth (touched || ups.any fun event => event.2 == .up) ∧
      back.clientState.cachedSurface window.paneId =
        reached.clientState.cachedSurface window.paneId := by
  obtain ⟨htop, htaken, hcachedTop⟩ :=
    scrollLivePaneViews_walk henabled (fun event hmem => (hups event hmem).1) hscrolling hup
  obtain ⟨hback, -, hcachedBack⟩ :=
    scrollLivePaneViews_walk henabled (fun event hmem => (hdowns event hmem).1) htop hdown
  have htaken := htaken.mp hprinted
  rw [hups.steps] at htaken hback
  rw [hdowns.steps, hdowns.any_down, Bool.or_false, hlength, ← Lib.run_append] at hback
  rw [show wheelStep .up = WalkStep.out from rfl] at htaken hback
  rw [show wheelStep .down = WalkStep.back from rfl, Lib.walk_out_back hscrolling.le htaken] at hback
  exact ⟨hback, hcachedBack.trans hcachedTop⟩

end

/-- Away from home a pane shows its window, so that no view is a sign of being home. -/
theorem AtDepth.home_iff (h : AtDepth window client depth) :
    client.surfaceState.scrollbackViews.get? window.paneId = none ↔ depth = 0 := by
  rw [h.view, ScrollWindow.viewAt]
  split
  case isTrue hzero => exact iff_of_true rfl hzero
  case isFalse haway => exact iff_of_false (Option.some_ne_none _) haway

theorem returns_iff (henabled : ¬(setup.args.outputJson = true ∨ (!setup.args.redraw) = true))
    {events : List (Moment × LiveScrollDirection)} : Returns setup client window.paneId events ↔
      client.clientState.cachedSurface window.paneId ≠ none ∨
        (events.any fun event => event.2 == .up) = false := by
  obtain ⟨htext, hredraw⟩ := not_or.mp henabled
  unfold Returns
  rw [any_up_eq_false]
  simp only [htext, show setup.args.redraw = true by simpa using hredraw, Bool.true_eq_false,
    Bool.false_eq_true, false_or]

/-- What a pane shows when it is scrolled away and back. -/
theorem Scrolling.same_body {back : LiveClient} {moved : Bool} (h : Scrolling window reached depth touched)
    (hback : Scrolling window back depth (touched || moved))
    (hsame : back.clientState.cachedSurface window.paneId =
      reached.clientState.cachedSurface window.paneId)
    (hunmoved : moved = false → back = reached) :
    (ShowsWindow window reached →
      paneBody back.frameInput window.paneId = paneBody reached.frameInput window.paneId) ∧
    (ShowsLive reached window.paneId →
      (paneBody back.frameInput window.paneId = paneBody reached.frameInput window.paneId ↔
        reached.clientState.cachedSurface window.paneId ≠ none ∨ moved = false)) := by
  refine ⟨?_, fun hlive => ⟨fun hbody => ?_, ?_⟩⟩
  · rintro ⟨start, -, -, hview, -⟩
    have hpos : 0 < depth := by
      refine Nat.pos_of_ne_zero fun hzero => ?_
      rw [h.home_iff.mpr hzero] at hview
      cases hview
    rw [paneBody_structured (hback.drawn hpos), paneBody_structured (h.drawn hpos)]
  · by_contra hneither
    obtain ⟨huncached, hmoved⟩ := not_or.mp hneither
    rw [not_not] at huncached
    rw [Bool.not_eq_false] at hmoved
    obtain ⟨summary, hsummary⟩ := hback.history (by rw [hmoved, Bool.or_true]) (hsame.trans huncached)
    obtain ⟨body, htext⟩ := hlive.uncached huncached
    rw [paneBody_structured hsummary, htext] at hbody
    cases hbody
  · rintro (hcached | hmoved)
    · have hbackLive := hback.home (h.home_iff.mp hlive.view) (.inl (by rwa [hsame]))
      exact hlive.same_body hbackLive hcached hsame
    · rw [hunmoved hmoved]

/-- **Wheel scrolling is a bounded walk with an exact inverse**, but for what the pane shows when the walk
is home: that is its surface again if the surface is cached. -/
theorem wheel_walks {events : List (Moment × LiveScrollDirection)} {printed : List Bool}
    (hlive : ShowsLive client window.paneId) (hanswers : ∀ event ∈ events, AnswersFrom window event.1)
    (hrun : scrollLivePaneViews setup window.paneId window.visibleRows client events =
      .ok (printed, reached)) :
    (reached.surfaceState.scrollbackViews.get? window.paneId = none ∧
        (ShowsLive reached window.paneId ↔ Returns setup client window.paneId events) ∨
      ShowsWindow window reached) ∧
    (∀ ups downs printedUps printedDowns top back, Turns window .up ups → Turns window .down downs →
      downs.length = ups.length →
      scrollLivePaneViews setup window.paneId window.visibleRows reached ups = .ok (printedUps, top) →
      (∀ painted ∈ printedUps, painted = true) →
      scrollLivePaneViews setup window.paneId window.visibleRows top downs = .ok (printedDowns, back) →
        back.surfaceState.scrollbackViews.get? window.paneId =
          reached.surfaceState.scrollbackViews.get? window.paneId ∧
        (ShowsWindow window reached →
          paneBody back.frameInput window.paneId = paneBody reached.frameInput window.paneId) ∧
        (ShowsLive reached window.paneId →
          (paneBody back.frameInput window.paneId = paneBody reached.frameInput window.paneId ↔
            Returns setup client window.paneId ups))) ∧
    (∀ downs printedDowns back, Turns window .down downs → window.total ≤ downs.length →
      scrollLivePaneViews setup window.paneId window.visibleRows reached downs = .ok (printedDowns, back) →
        back.surfaceState.scrollbackViews.get? window.paneId = none ∧
        (ShowsLive back window.paneId ↔ Returns setup client window.paneId events)) := by
  by_cases hdisabled : setup.args.outputJson = true ∨ (!setup.args.redraw) = true
  · have hreturns (turned : List (Moment × LiveScrollDirection)) :
        Returns setup client window.paneId turned :=
      .inr (hdisabled.imp_right fun hredraw => .inl (by simpa using hredraw))
    obtain ⟨-, rfl⟩ := scrollLivePaneViews_disabled hdisabled hrun
    refine ⟨.inl ⟨hlive.view, iff_of_true hlive (hreturns events)⟩,
      fun ups downs printedUps printedDowns top back _ _ _ hup _ hdown => ?_,
      fun downs printedDowns back _ _ hdown => ?_⟩
    · obtain ⟨-, rfl⟩ := scrollLivePaneViews_disabled hdisabled hup
      obtain ⟨-, rfl⟩ := scrollLivePaneViews_disabled hdisabled hdown
      exact ⟨rfl, fun _ => rfl, fun _ => iff_of_true rfl (hreturns ups)⟩
    · obtain ⟨-, rfl⟩ := scrollLivePaneViews_disabled hdisabled hdown
      exact ⟨hlive.view, iff_of_true hlive (hreturns events)⟩
  · obtain ⟨hscrolling, -, hcached⟩ := scrollLivePaneViews_walk hdisabled hanswers hlive.scrolling hrun
    rw [Bool.false_or] at hscrolling
    refine ⟨?_, fun ups downs printedUps printedDowns top back hups hdowns hlength hup hprinted hdown => ?_,
      fun downs printedDowns back hdowns hlength hdown => ?_⟩
    · rcases Nat.eq_zero_or_pos (run (walkStep window.far) 0 (events.map fun event => wheelStep event.2))
        with hzero | hpos
      · refine .inl ⟨hscrolling.home_iff.mpr hzero, ?_⟩
        rw [hzero] at hscrolling
        rw [hscrolling.showsLive_iff, hcached, returns_iff hdisabled]
      · exact .inr (hscrolling.showsWindow hpos)
    · obtain ⟨hback, hsame⟩ := scrolled_back hdisabled hscrolling hups hdowns hlength hup hprinted hdown
      obtain ⟨hwindow, hhome⟩ := hscrolling.same_body hback hsame fun hunmoved => by
        obtain rfl := hups.eq_nil (any_up_eq_false.mp hunmoved)
        obtain rfl := List.eq_nil_of_length_eq_zero hlength
        obtain ⟨-, rfl⟩ := Prod.mk.inj (Except.ok.inj hup)
        obtain ⟨-, rfl⟩ := Prod.mk.inj (Except.ok.inj hdown)
        rfl
      rw [hcached, ← returns_iff hdisabled] at hhome
      exact ⟨hback.view.trans hscrolling.view.symm, hwindow, hhome⟩
    · obtain ⟨hback, -, hsame⟩ := scrollLivePaneViews_walk hdisabled
        (fun event hmem => (hdowns event hmem).1) hscrolling hdown
      rw [hdowns.steps, hdowns.any_down, Bool.or_false, show wheelStep .down = WalkStep.back from rfl,
        Lib.walk_home hscrolling.le (window.far_le.trans hlength)] at hback
      refine ⟨hback.view, ?_⟩
      rw [hback.showsLive_iff, hsame, hcached, returns_iff hdisabled]

end

/-! ### A pane that is not cached -/

/-- A window of two rows over the three lines of the history a session starts with. -/
def initialWindow : ScrollWindow where
  paneId := "pane-1"
  visibleRows := 2
  pane := newPaneFromTemplate "pane-1" (.local "local" (.new "sh")) 80 24
  nonempty := by decide
  bounded := by decide

/-- A daemon that answers fetches from the session it starts with. -/
def historyMoment : Moment := { silentMoment with
  answers := { silentMoment.answers with
    scrollback := fun paneId startLine lineCount tailCount => do
      let chunk ← fetchScrollbackChunkWithSelection (serveScrollbackFetch Session.initial) paneId "cli"
        startLine lineCount tailCount fun _ _ => 0
      return ⟨chunk, [], []⟩ } }

theorem historyMoment_answers : AnswersFrom initialWindow historyMoment :=
  ⟨Session.initial, rfl, fun _ _ _ => ⟨"cli", fun _ _ => 0, [], rfl⟩⟩

def wheelUp : Moment × LiveScrollDirection := (historyMoment, .up)

def wheelDown : Moment × LiveScrollDirection := (historyMoment, .down)

/-- A client that has cached the surface of the pane and draws it. -/
def seenClient : LiveClient := { quietClient with
  surfaceState := { quietClient.surfaceState with
    currentPaneSurfaceSummaries :=
      insertCached .empty "pane-1"
        ((cachedRenderedSurfaceSummary quietClient.clientState "pane-1").toOption.getD none) } }

theorem seenClient_showsLive : ShowsLive seenClient "pane-1" where
  view := rfl
  cached := by
    intro surface hsurface
    obtain rfl := Option.some.inj hsurface
    exact ⟨_, rfl, rfl⟩
  uncached := by
    intro huncached
    cases huncached

/-- A client that has cached no surface. -/
def unseenClient : LiveClient := { windowsClient with
  activeMenuIndex := none
  activeOverlay := none }

theorem unseenClient_showsLive : ShowsLive unseenClient "pane-1" where
  view := rfl
  cached := by
    intro surface hsurface
    cases hsurface
  uncached := fun _ => ⟨_, rfl⟩

/-- Two lines up and back down, the surface that is cached is shown again. -/
theorem wheel_walks_seen : ∃ top back,
    scrollLivePaneViews redrawSetup "pane-1" 2 seenClient [wheelUp, wheelUp] = .ok ([true, true], top) ∧
    ShowsWindow initialWindow top ∧
    scrollLivePaneViews redrawSetup "pane-1" 2 top [wheelDown, wheelDown, wheelDown] =
      .ok ([true, true, false], back) ∧
    ShowsLive back "pane-1" := by
  have hruns : (((do
      let (up, top) ← scrollLivePaneViews redrawSetup "pane-1" 2 seenClient [wheelUp, wheelUp]
      let (down, back) ← scrollLivePaneViews redrawSetup "pane-1" 2 top [wheelDown, wheelDown, wheelDown]
      return (up, down, top, back)) : Except String _).toOption.map fun found =>
        (found.1, found.2.1, (found.2.2.1.surfaceState.scrollbackViews.get? "pane-1").isSome)) =
      some ([true, true], [true, true, false], true) := by decide +kernel
  obtain ⟨⟨up, down, top, back⟩, hfound, hpair⟩ := Option.map_eq_some_iff.mp hruns
  obtain ⟨⟨upFound, topFound⟩, hup, hfound⟩ := bind_eq_ok.mp (eq_ok_of_toOption hfound)
  obtain ⟨⟨downFound, backFound⟩, hdown, hfound⟩ := bind_eq_ok.mp hfound
  have hsame : (upFound, downFound, topFound, backFound) = (up, down, top, back) := Except.ok.inj hfound
  obtain ⟨hsameUp, hsame⟩ := Prod.mk.inj hsame
  obtain ⟨hsameDown, hsame⟩ := Prod.mk.inj hsame
  obtain ⟨hsameTop, -⟩ := Prod.mk.inj hsame
  obtain ⟨hupPrinted, hpair⟩ := Prod.mk.inj hpair
  obtain ⟨hdownPrinted, hview⟩ := Prod.mk.inj hpair
  rw [hsameUp.trans hupPrinted] at hup
  rw [hsameDown.trans hdownPrinted] at hdown
  have hanswers : ∀ event ∈ [wheelUp, wheelUp], AnswersFrom initialWindow event.1 := by
    rintro event (- | ⟨_, - | ⟨_, hmem⟩⟩)
    · exact historyMoment_answers
    · exact historyMoment_answers
    · cases hmem
  have hturns : Turns initialWindow .down [wheelDown, wheelDown, wheelDown] := by
    rintro event (- | ⟨_, - | ⟨_, - | ⟨_, hmem⟩⟩⟩)
    · exact ⟨historyMoment_answers, rfl⟩
    · exact ⟨historyMoment_answers, rfl⟩
    · exact ⟨historyMoment_answers, rfl⟩
    · cases hmem
  obtain ⟨hshows, -, hhome⟩ := @wheel_walks redrawSetup initialWindow seenClient topFound
    [wheelUp, wheelUp] [true, true] seenClient_showsLive hanswers hup
  refine ⟨topFound, backFound, hup, ?_, hdown, ?_⟩
  · refine hshows.resolve_left fun hnone => ?_
    dsimp only at hview
    rw [← hsameTop, show "pane-1" = initialWindow.paneId from rfl, hnone.1] at hview
    cases hview
  · refine (hhome _ _ _ hturns (by decide) hdown).2.mpr (.inl ?_)
    intro huncached
    cases huncached

/-- Where the surface is not cached the lines stay when the view is gone, however far the wheel is turned
back. -/
theorem unseen_keeps_history : ShowsLive unseenClient "pane-1" ∧
    AnswersFrom initialWindow historyMoment ∧ ∃ reached,
      scrollLivePaneViews redrawSetup "pane-1" 2 unseenClient [wheelUp, wheelDown, wheelDown, wheelDown] =
        .ok ([true, true, false, false], reached) ∧
      reached.surfaceState.scrollbackViews.get? "pane-1" = none ∧
      ShowsText reached "pane-1" ["nmux pane-1", "server-owned terminal state"] ∧
      ¬ShowsLive reached "pane-1" := by
  refine ⟨unseenClient_showsLive, historyMoment_answers, ?_⟩
  have hrun : (scrollLivePaneViews redrawSetup "pane-1" 2 unseenClient
      [wheelUp, wheelDown, wheelDown, wheelDown]).toOption.any (fun found =>
        found.1 == [true, true, false, false] &&
          (found.2.surfaceState.scrollbackViews.get? "pane-1").isNone &&
          (found.2.clientState.cachedSurface "pane-1").isNone &&
          (found.2.surfaceState.currentPaneSurfaceSummaries.get? "pane-1").any fun summary =>
            summary.rowUpdates.map (·.text) == ["nmux pane-1", "server-owned terminal state"] &&
              summary.rowUpdates.all fun row => renderRunSummaries row.runs == row.text) = true := by
    decide +kernel
  obtain ⟨⟨printed, reached⟩, hfound, hall⟩ := (Option.any_eq_true _ _).mp hrun
  simp only [Bool.and_eq_true, beq_iff_eq, Option.isNone_iff_eq_none] at hall
  obtain ⟨⟨⟨rfl, hview⟩, huncached⟩, hsummaries⟩ := hall
  obtain ⟨summary, hsummary, hrows⟩ := (Option.any_eq_true _ _).mp hsummaries
  obtain ⟨htexts, hruns⟩ := Bool.and_eq_true_iff.mp hrows
  have hbody := paneBody_structured hsummary
  refine ⟨reached, eq_ok_of_toOption hfound, hview, ⟨_, _, hbody, beq_iff_eq.mp htexts, fun row hrow => ?_⟩,
    fun hlive => ?_⟩
  · exact beq_iff_eq.mp (List.all_eq_true.mp hruns row hrow)
  · obtain ⟨body, htext⟩ := hlive.uncached huncached
    rw [hbody] at htext
    cases htext

end Nmux.Screen
