import Nmux.Client.StateRoundTrip

/-! What the reader accepts. However a file came to be, the surfaces that are read of it have the rows they
declare, enumerations the schema names and runs inside their tables, so saving them again changes nothing. -/
namespace Nmux.Client

open Lib.Check

variable {surface next : ClientPaneSurface} {row written : ClientRow}

/-! ### Fields -/

theorem parseStateEnum_known {names : List String} {message value : String}
    {kind : Protocol.ByteEnum names} (h : parseStateEnum message value = .ok kind) : kind.known = true := by
  unfold parseStateEnum at h
  obtain ⟨byte, -, h⟩ := bind_eq_ok.mp h
  obtain ⟨hknown, h⟩ := check_bind_eq_ok.mp h
  obtain rfl := Except.ok.inj h
  exact require_eq_ok.mp hknown

theorem decodeCursor_known {fields : List String} {cursor : Option CursorSummary}
    (h : decodeCursor fields = .ok cursor) : ∀ shown, cursor = some shown → shown.shape.known = true := by
  intro shown hshown
  subst hshown
  unfold decodeCursor at h
  split at h
  · cases h
  · obtain ⟨row, -, h⟩ := bind_eq_ok.mp h
    obtain ⟨col, -, h⟩ := bind_eq_ok.mp h
    obtain ⟨visible, -, h⟩ := bind_eq_ok.mp h
    obtain ⟨shape, hshape, h⟩ := bind_eq_ok.mp h
    obtain rfl := Option.some.inj (Except.ok.inj h)
    exact parseStateEnum_known hshape
  · obtain ⟨row, -, h⟩ := bind_eq_ok.mp h
    obtain ⟨col, -, h⟩ := bind_eq_ok.mp h
    obtain ⟨visible, -, h⟩ := bind_eq_ok.mp h
    obtain ⟨shape, hshape, h⟩ := bind_eq_ok.mp h
    obtain ⟨blinking, -, h⟩ := bind_eq_ok.mp h
    obtain rfl := Option.some.inj (Except.ok.inj h)
    exact parseStateEnum_known hshape
  · cases h

theorem decodeModes_known {fields : List String} {modes : TerminalModeSummary}
    (h : decodeModes fields = .ok modes) :
    modes.mouseTrackingMode.known = true ∧ modes.mouseFormat.known = true := by
  unfold decodeModes at h
  split at h
  case h_2 => cases h
  case h_1 =>
    obtain ⟨bracketedPaste, -, h⟩ := bind_eq_ok.mp h
    obtain ⟨mouseTracking, -, h⟩ := bind_eq_ok.mp h
    obtain ⟨focusReporting, -, h⟩ := bind_eq_ok.mp h
    obtain ⟨applicationKeypad, -, h⟩ := bind_eq_ok.mp h
    obtain ⟨applicationCursor, -, h⟩ := bind_eq_ok.mp h
    obtain ⟨origin, -, h⟩ := bind_eq_ok.mp h
    obtain ⟨wraparound, -, h⟩ := bind_eq_ok.mp h
    split at h
    · obtain rfl := Except.ok.inj h
      exact ⟨rfl, rfl⟩
    · obtain ⟨tracking, htracking, h⟩ := bind_eq_ok.mp h
      obtain ⟨format, hformat, h⟩ := bind_eq_ok.mp h
      obtain rfl := Except.ok.inj h
      exact ⟨parseStateEnum_known htracking, parseStateEnum_known hformat⟩
    · cases h

theorem decodeColors_materialized {fields : List String} {colors : TerminalColorSummary}
    (h : decodeColors fields = .ok colors) : colors.Materialized := by
  unfold decodeColors at h
  split at h
  · obtain ⟨cursorRgba, -, h⟩ := bind_eq_ok.mp h
    obtain ⟨defaultFgRgba, -, h⟩ := bind_eq_ok.mp h
    obtain ⟨defaultBgRgba, -, h⟩ := bind_eq_ok.mp h
    obtain ⟨paletteRgba, -, h⟩ := bind_eq_ok.mp h
    obtain rfl := Except.ok.inj h
    exact ⟨rfl, rfl⟩
  · obtain ⟨defaultFgRgba, -, h⟩ := bind_eq_ok.mp h
    obtain ⟨defaultBgRgba, -, h⟩ := bind_eq_ok.mp h
    obtain ⟨cursorRgba, -, h⟩ := bind_eq_ok.mp h
    obtain ⟨cursorRgbaSet, -, h⟩ := bind_eq_ok.mp h
    obtain ⟨paletteRgba, -, h⟩ := bind_eq_ok.mp h
    obtain rfl := Except.ok.inj h
    exact ⟨rfl, rfl⟩
  · cases h

/-! ### Rows -/

theorem decodeRowMeta_known {fields : List String} (hrow : row.Known)
    (h : decodeRowMeta row fields = .ok written) : written.Known := by
  unfold decodeRowMeta at h
  split at h
  case h_6 => cases h
  all_goals obtain ⟨prompt, hprompt, h⟩ := bind_eq_ok.mp h
  · obtain rfl := Except.ok.inj h
    exact ⟨parseStateEnum_known hprompt, hrow.runs⟩
  · obtain ⟨dirty, -, h⟩ := bind_eq_ok.mp h
    obtain rfl := Except.ok.inj h
    exact ⟨parseStateEnum_known hprompt, hrow.runs⟩
  · obtain ⟨dirty, -, h⟩ := bind_eq_ok.mp h
    obtain ⟨kitty, -, h⟩ := bind_eq_ok.mp h
    obtain rfl := Except.ok.inj h
    exact ⟨parseStateEnum_known hprompt, hrow.runs⟩
  · obtain ⟨dirty, -, h⟩ := bind_eq_ok.mp h
    obtain ⟨kitty, -, h⟩ := bind_eq_ok.mp h
    obtain ⟨stateHash, -, h⟩ := bind_eq_ok.mp h
    obtain rfl := Except.ok.inj h
    exact ⟨parseStateEnum_known hprompt, hrow.runs⟩
  · obtain ⟨dirty, -, h⟩ := bind_eq_ok.mp h
    obtain ⟨kitty, -, h⟩ := bind_eq_ok.mp h
    obtain ⟨stateHash, -, h⟩ := bind_eq_ok.mp h
    obtain ⟨dirtyHash, -, h⟩ := bind_eq_ok.mp h
    obtain rfl := Except.ok.inj h
    exact ⟨parseStateEnum_known hprompt, hrow.runs⟩

theorem decodeRun_known {fields : List String} {run : CellRunSummary} (h : decodeRun fields = .ok run) :
    run.semanticContent.known = true := by
  unfold decodeRun at h
  split at h
  case h_2 => cases h
  case h_1 =>
    obtain ⟨text, -, h⟩ := bind_eq_ok.mp h
    obtain ⟨cellWidths, -, h⟩ := bind_eq_ok.mp h
    obtain ⟨styleId, -, h⟩ := bind_eq_ok.mp h
    obtain ⟨flags, -, h⟩ := bind_eq_ok.mp h
    split at h
    · obtain rfl := Except.ok.inj h
      rfl
    · obtain ⟨hyperlinkId, -, h⟩ := bind_eq_ok.mp h
      obtain rfl := Except.ok.inj h
      rfl
    · obtain ⟨hyperlinkId, -, h⟩ := bind_eq_ok.mp h
      obtain ⟨content, hcontent, h⟩ := bind_eq_ok.mp h
      obtain rfl := Except.ok.inj h
      exact parseStateEnum_known hcontent
    · cases h

/-! ### Surfaces -/

/-- What holds of a surface before its end: all that does not take its tables. -/
structure ClientPaneSurface.Started (surface : ClientPaneSurface) : Prop where
  rows : surface.rowData.length = surface.rows.toNat
  kind : surface.surface.known = true
  cursor : ∀ cursor, surface.cursor = some cursor → cursor.shape.known = true
  tracking : surface.modes.mouseTrackingMode.known = true
  format : surface.modes.mouseFormat.known = true
  colors : surface.colors.Materialized
  known : ∀ row ∈ surface.rowData, row.Known

theorem startedSurface_started {paneId : String} {version : UInt64} {cols rows : UInt32}
    {kind : Protocol.SurfaceKind} (h : kind.known = true) :
    (startedSurface paneId version cols rows kind).Started where
  rows := List.length_replicate
  kind := h
  cursor _ hshown := by cases hshown
  tracking := rfl
  format := rfl
  colors := ⟨rfl, rfl⟩
  known row hrow := by
    rw [List.eq_of_mem_replicate hrow]
    exact ⟨rfl, fun run hrun => by cases hrun⟩

theorem onRow_started {index message : String} {write : ClientRow → Except String ClientRow}
    (hwrite : ∀ row written, row.Known → write row = .ok written → written.Known) (hstarted : surface.Started)
    (h : onRow surface index message write = .ok next) : next.Started := by
  unfold onRow at h
  obtain ⟨index, -, h⟩ := bind_eq_ok.mp h
  split at h
  · cases h
  case h_2 target htarget =>
    obtain ⟨written, hwritten, h⟩ := bind_eq_ok.mp h
    obtain rfl := Except.ok.inj h
    refine { hstarted with rows := List.length_set.trans hstarted.rows, known := fun row hrow => ?_ }
    rcases List.mem_or_eq_of_mem_set hrow with hkept | rfl
    · exact hstarted.known row hkept
    · exact hwrite target row (hstarted.known target (List.mem_of_getElem? htarget)) hwritten

theorem decodeBodyLine_started {record : List String} (hstarted : surface.Started)
    (h : decodeBodyLine surface record = .ok next) : next.Started := by
  unfold decodeBodyLine at h
  split at h
  case h_1 =>
    obtain ⟨cursor, hcursor, h⟩ := bind_eq_ok.mp h
    obtain rfl := Except.ok.inj h
    exact { hstarted with cursor := decodeCursor_known hcursor }
  case h_2 =>
    obtain ⟨modes, hmodes, h⟩ := bind_eq_ok.mp h
    obtain rfl := Except.ok.inj h
    exact { hstarted with tracking := (decodeModes_known hmodes).1, format := (decodeModes_known hmodes).2 }
  case h_3 | h_4 =>
    obtain ⟨text, -, h⟩ := bind_eq_ok.mp h
    obtain rfl := Except.ok.inj h
    exact { hstarted with }
  case h_5 =>
    obtain ⟨colors, hcolors, h⟩ := bind_eq_ok.mp h
    obtain rfl := Except.ok.inj h
    exact { hstarted with colors := decodeColors_materialized hcolors }
  case h_6 | h_7 =>
    obtain ⟨item, -, h⟩ := bind_eq_ok.mp h
    obtain rfl := Except.ok.inj h
    exact { hstarted with }
  case h_8 =>
    refine onRow_started (fun row written hrow hwritten => ?_) hstarted h
    obtain ⟨text, -, hwritten⟩ := bind_eq_ok.mp hwritten
    obtain rfl := Except.ok.inj hwritten
    exact ⟨hrow.prompt, hrow.runs⟩
  case h_9 =>
    obtain ⟨-, h⟩ := check_bind_eq_ok.mp h
    exact onRow_started (fun row written hrow hwritten => decodeRowMeta_known hrow hwritten) hstarted h
  case h_10 =>
    obtain ⟨-, h⟩ := check_bind_eq_ok.mp h
    refine onRow_started (fun row written hrow hwritten => ?_) hstarted h
    obtain ⟨run, hrun, hwritten⟩ := bind_eq_ok.mp hwritten
    obtain rfl := Except.ok.inj hwritten
    refine ⟨hrow.prompt, fun other hother => ?_⟩
    rcases List.mem_append.mp hother with hkept | hnew
    · exact hrow.runs other hkept
    · rw [List.mem_singleton.mp hnew]
      exact decodeRun_known hrun
  case h_11 => cases h

/-- A surface whose rows and styles are filled. -/
structure ClientPaneSurface.Filled (surface : ClientPaneSurface) : Prop where
  rows : ∀ row ∈ surface.rowData, row.runs ≠ []
  styles : surface.styles ≠ []

theorem ClientPaneSurface.Filled.settled_eq (h : surface.Filled) : surface.settled = surface := by
  have hrows : surface.rowData.map ClientRow.settled = surface.rowData := by
    refine (List.map_congr_left fun row hrow => ?_).trans (List.map_id _)
    unfold ClientRow.settled
    rw [if_neg (by simpa using h.rows row hrow)]
    rfl
  unfold settled
  rw [hrows, if_neg (by simpa using h.styles)]

theorem rowRunsForText_known (h : row.Known) : (rowRunsForText row).Known := by
  unfold rowRunsForText
  split
  · refine ⟨h.prompt, fun run hrun => ?_⟩
    rw [List.mem_singleton.mp hrun]
    rfl
  · exact h

theorem rowRunsForText_text (row : ClientRow) : (rowRunsForText row).runs ≠ [] ∧
    renderRunSummaries (rowRunsForText row).runs = (rowRunsForText row).text := by
  unfold rowRunsForText
  split
  · exact ⟨List.cons_ne_nil _ _, cellRunsText_plain row.text⟩
  case isFalse hsame =>
    simp only [Bool.or_eq_true, List.isEmpty_iff, bne_iff_ne, not_or, not_not] at hsame
    exact hsame

/-- **The end of any surface** leaves one that is kept whole, and filled. -/
theorem finishSurface_accepted (hstarted : surface.Started) (h : finishSurface surface = .ok next) :
    next.Storable ∧ next.Filled := by
  unfold finishSurface at h
  obtain ⟨hlinks, h⟩ := check_bind_eq_ok.mp h
  dsimp only at h
  obtain ⟨hstyleIds, h⟩ := check_bind_eq_ok.mp h
  obtain ⟨hlinkIds, h⟩ := check_bind_eq_ok.mp h
  obtain rfl := Except.ok.inj h
  rw [each_eq_ok] at hstyleIds hlinkIds
  refine ⟨{ hstarted with intact := ⟨?_, ?_⟩, hyperlinks := hlinks, known := ?_, texts := ?_ }, ?_, ?_⟩
  · exact (List.length_map _).trans hstarted.rows
  · intro row hrow run hrun
    exact ⟨validateCellRunStyleIds_eq_ok.mp (hstyleIds row hrow) run hrun,
      validateCellRunHyperlinkIds_eq_ok.mp (hlinkIds row hrow) run hrun⟩
  · intro row hrow
    obtain ⟨read, hread, rfl⟩ := List.mem_map.mp hrow
    exact rowRunsForText_known (hstarted.known read hread)
  · intro row hrow
    obtain ⟨read, -, rfl⟩ := List.mem_map.mp hrow
    exact .inr (rowRunsForText_text read).2
  · intro row hrow
    obtain ⟨read, -, rfl⟩ := List.mem_map.mp hrow
    exact (rowRunsForText_text read).1
  · dsimp only
    split
    case isTrue => exact List.cons_ne_nil _ _
    case isFalse hne => simpa using hne

/-! ### Files -/

/-- What holds of a reader between two lines. -/
structure StateReader.Accepted (reader : StateReader) : Prop where
  state : reader.state.Storable
  filled : ∀ surface ∈ reader.state.surfaces, surface.Filled
  surface : ∀ surface, reader.surface = some surface → surface.Started

theorem decodeScrollback_accepted {paneId version startLine lineCount totalLines : String}
    {scrollback : ClientPaneScrollback}
    (h : decodeScrollback paneId version startLine lineCount totalLines = .ok scrollback) :
    scrollback.startLine ≠ 0 ∧ scrollback.lineCount ≠ 0 := by
  unfold decodeScrollback at h
  obtain ⟨start, -, h⟩ := bind_eq_ok.mp h
  obtain ⟨count, -, h⟩ := bind_eq_ok.mp h
  obtain ⟨hstart, h⟩ := check_bind_eq_ok.mp h
  obtain ⟨hcount, h⟩ := check_bind_eq_ok.mp h
  obtain ⟨paneId, -, h⟩ := bind_eq_ok.mp h
  obtain ⟨version, -, h⟩ := bind_eq_ok.mp h
  obtain ⟨total, -, h⟩ := bind_eq_ok.mp h
  obtain rfl := Except.ok.inj h
  exact ⟨by simpa using hstart, by simpa using hcount⟩

theorem decodeSurfaceLine_started {paneId version cols rows : String} {kind : Option String}
    (h : decodeSurfaceLine paneId version cols rows kind = .ok surface) : surface.Started := by
  unfold decodeSurfaceLine at h
  obtain ⟨paneId, -, h⟩ := bind_eq_ok.mp h
  obtain ⟨version, -, h⟩ := bind_eq_ok.mp h
  obtain ⟨cols, -, h⟩ := bind_eq_ok.mp h
  obtain ⟨rows, -, h⟩ := bind_eq_ok.mp h
  dsimp only at h
  split at h
  · obtain ⟨kind, hkind, h⟩ := bind_eq_ok.mp h
    obtain rfl := Except.ok.inj h
    exact startedSurface_started (parseStateEnum_known hkind)
  · obtain ⟨kind, hkind, h⟩ := bind_eq_ok.mp h
    obtain rfl := Except.ok.inj hkind
    obtain rfl := Except.ok.inj h
    exact startedSurface_started rfl

theorem readOuterLine_accepted {state : ClientAttachState} {record : List String} {reader : StateReader}
    (hstate : state.Storable) (hfilled : ∀ surface ∈ state.surfaces, surface.Filled)
    (h : readOuterLine state record = .ok reader) : reader.Accepted := by
  unfold readOuterLine at h
  split at h
  · obtain ⟨dev, -, h⟩ := bind_eq_ok.mp h
    obtain ⟨ino, -, h⟩ := bind_eq_ok.mp h
    obtain rfl := Except.ok.inj h
    exact ⟨{ hstate with }, hfilled, fun _ hsurface => by cases hsurface⟩
  · obtain ⟨dev, -, h⟩ := bind_eq_ok.mp h
    obtain ⟨ino, -, h⟩ := bind_eq_ok.mp h
    obtain ⟨ctime, -, h⟩ := bind_eq_ok.mp h
    obtain ⟨ctimeNsec, -, h⟩ := bind_eq_ok.mp h
    obtain rfl := Except.ok.inj h
    exact ⟨{ hstate with }, hfilled, fun _ hsurface => by cases hsurface⟩
  · obtain ⟨scrollback, hscrollback, h⟩ := bind_eq_ok.mp h
    obtain rfl := Except.ok.inj h
    refine ⟨{ hstate with scrollbacks := fun other hother => ?_ }, hfilled, fun _ hsurface => by cases hsurface⟩
    rcases List.mem_append.mp hother with hkept | hnew
    · exact hstate.scrollbacks other hkept
    · rw [List.mem_singleton.mp hnew]
      exact decodeScrollback_accepted hscrollback
  · obtain ⟨surface, hsurface, h⟩ := bind_eq_ok.mp h
    obtain rfl := Except.ok.inj h
    exact ⟨hstate, hfilled, fun _ hsome => Option.some.inj hsome ▸ decodeSurfaceLine_started hsurface⟩
  · obtain ⟨surface, hsurface, h⟩ := bind_eq_ok.mp h
    obtain rfl := Except.ok.inj h
    exact ⟨hstate, hfilled, fun _ hsome => Option.some.inj hsome ▸ decodeSurfaceLine_started hsurface⟩
  · cases h

theorem readLine_accepted {reader after : StateReader} {line : String} (haccepted : reader.Accepted)
    (h : readLine reader line = .ok after) : after.Accepted := by
  unfold readLine at h
  split at h
  · exact readOuterLine_accepted haccepted.state haccepted.filled h
  case h_2 surface hsurface =>
    have hstarted := haccepted.surface surface hsurface
    split at h
    · obtain ⟨finished, hfinished, h⟩ := bind_eq_ok.mp h
      obtain rfl := Except.ok.inj h
      obtain ⟨hstorable, hfilled⟩ := finishSurface_accepted hstarted hfinished
      refine ⟨{ haccepted.state with surfaces := fun other hother => ?_ }, fun other hother => ?_,
        fun _ hsome => by cases hsome⟩
      · rcases List.mem_append.mp hother with hkept | hnew
        · exact haccepted.state.surfaces other hkept
        · rwa [List.mem_singleton.mp hnew]
      · rcases List.mem_append.mp hother with hkept | hnew
        · exact haccepted.filled other hkept
        · rwa [List.mem_singleton.mp hnew]
    · obtain ⟨next, hnext, h⟩ := bind_eq_ok.mp h
      obtain rfl := Except.ok.inj h
      exact ⟨haccepted.state, haccepted.filled,
        fun _ hsome => Option.some.inj hsome ▸ decodeBodyLine_started hstarted hnext⟩

/-- What is read of a file is kept whole, and filled. -/
theorem decode_accepted {text : String} {state : ClientAttachState}
    (h : ClientAttachState.decode text = .ok state) :
    state.Storable ∧ ∀ surface ∈ state.surfaces, surface.Filled := by
  unfold ClientAttachState.decode at h
  split at h
  · cases h
  · obtain ⟨-, h⟩ := check_bind_eq_ok.mp h
    obtain ⟨reader, hreader, h⟩ := bind_eq_ok.mp h
    have hinit : StateReader.Accepted ⟨.default, none⟩ :=
      ⟨⟨fun _ hmem => (by cases hmem), fun _ hmem => (by cases hmem)⟩, fun _ hmem => (by cases hmem),
        fun _ hsome => (by cases hsome)⟩
    have haccepted : reader.Accepted :=
      Lib.foldlM_invariant (fun _ _ _ hread hstep => readLine_accepted hread hstep) hinit hreader
    split at h
    · obtain rfl := Except.ok.inj h
      exact ⟨haccepted.state, haccepted.filled⟩
    · cases h

/-- **An accepted file is sound, and stable.** Whatever text the reader takes, of any version and however
it was written, every surface it makes has the rows it declares, runs inside its tables that make up the
text of their rows, and enumerations the schema names; and what it makes is saved and loaded unchanged. -/
theorem ClientAttachState.decode_stable {text : String} {state : ClientAttachState}
    (h : ClientAttachState.decode text = .ok state) :
    state.Storable ∧ (∀ surface ∈ state.surfaces, surface.Filled) ∧
      ClientAttachState.decode state.encode = .ok state := by
  obtain ⟨hstorable, hfilled⟩ := decode_accepted h
  refine ⟨hstorable, hfilled, ?_⟩
  have hsettled : state.settled = state := by
    unfold settled
    rw [(List.map_congr_left fun surface hsurface => (hfilled surface hsurface).settled_eq).trans
      (List.map_id _)]
  rw [decode_encode hstorable, hsettled]

/-- A file of the first version, which names no kind of surface and writes no runs. -/
def olderState : String :=
  "NMUX_CLIENT_STATE 1\nsurface 70 1 2 1\nrow 0 6869\nend\n"

theorem decode_stable_older : ∃ state, ClientAttachState.decode olderState = .ok state ∧
    state.surfaces.map (fun surface => surface.rowData.map (·.text)) = [["hi"]] ∧
    ClientAttachState.decode state.encode = .ok state := by
  have htexts : (ClientAttachState.decode olderState).toOption.map (fun state =>
      state.surfaces.map fun surface => surface.rowData.map (·.text)) = some [["hi"]] := by
    decide +kernel
  cases hread : ClientAttachState.decode olderState with
  | error message =>
    rw [hread] at htexts
    cases htexts
  | ok state =>
    rw [hread] at htexts
    exact ⟨state, rfl, Option.some.inj htexts, (ClientAttachState.decode_stable hread).2.2⟩

end Nmux.Client
