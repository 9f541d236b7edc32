import Nmux.Client.Atomic
import Nmux.Client.StateFile

/-! Saving and loading. Every field of a record is printed as a word its reader takes back, so a surface
that is written comes back row by row; what is not kept is an empty run list, an empty style table and a
palette difference, which no cached surface has. -/
namespace Nmux.Client

open Lib (Plain PlainRecord hexEncode hexDecode foldlM_appends)
open Lib.Check

/-! ### Fields -/

@[simp] theorem parseStateU64_toString (value : UInt64) : parseStateU64 (toString value) = .ok value := by
  unfold parseStateU64
  rw [show toString value = toString value.toNat from rfl, Lib.parseUnsigned_toString value.toNat_lt]
  exact congrArg Except.ok UInt64.ofNat_toNat

@[simp] theorem parseStateU32_toString (value : UInt32) : parseStateU32 (toString value) = .ok value := by
  unfold parseStateU32
  rw [show toString value = toString value.toNat from rfl, Lib.parseUnsigned_toString value.toNat_lt]
  exact congrArg Except.ok UInt32.ofNat_toNat

@[simp] theorem parseStateI64_toString (value : Int64) : parseStateI64 (toString value) = .ok value := by
  unfold parseStateI64
  rw [show toString value = toString value.toInt from rfl,
    Lib.parseSigned_toString value.le_toInt value.toInt_lt]
  exact congrArg Except.ok (Int64.ofInt_toInt value)

@[simp] theorem parseStateI8_toString (value : Int8) : parseStateI8 (toString value) = .ok value := by
  unfold parseStateI8
  rw [show toString value = toString value.toInt from rfl,
    Lib.parseSigned_toString value.le_toInt value.toInt_lt]
  exact congrArg Except.ok (Int8.ofInt_toInt value)

theorem parseStateUsize_toString {value : ℕ} (h : value < 2 ^ 64) :
    parseStateUsize (toString value) = .ok value := Lib.parseUnsigned_toString h

theorem parseStateEnum_toString {names : List String} {kind : Protocol.ByteEnum names} {message : String}
    (h : kind.known = true) : parseStateEnum message (toString kind.value) = .ok kind := by
  unfold parseStateEnum
  rw [parseStateI8_toString, ok_bind, check_bind_eq_ok]
  exact ⟨require_eq_ok.mpr h, rfl⟩

@[simp] theorem parseStateBool_stateBool (value : Bool) : parseStateBool (stateBool value) = .ok value := by
  cases value <;> rfl

@[simp] theorem hexDecode_hexEncode (bytes : List UInt8) : hexDecode (hexEncode bytes) = .ok bytes :=
  Lib.hexDecode_hexEncode bytes

@[simp] theorem decodeHexText_hexText (text : String) : decodeHexText (hexText text) = .ok text := by
  unfold decodeHexText hexText
  rw [hexDecode_hexEncode, ok_bind]
  exact Lib.utf8Text_toUTF8 text

theorem hexEncode_ne_dash (bytes : List UInt8) : hexEncode bytes ≠ "-" := by
  intro hdash
  have hread := Lib.hexDecode_hexEncode bytes
  rw [hdash, hexDecode, check_bind_eq_ok, require_eq_ok,
    show "-".toUTF8.toList = [0x2d] from Lib.toUTF8_small (by simp)] at hread
  exact absurd hread.1 (by decide)

@[simp] theorem decodeFieldText_stateHexField (text : String) :
    decodeFieldText (stateHexField text) = .ok text := by
  have htext := Lib.utf8Text_toUTF8 text
  unfold decodeFieldText decodeStateHexField stateHexField
  split
  case isTrue hempty =>
    rw [List.isEmpty_iff.mp hempty] at htext
    rw [if_pos rfl, ok_bind]
    exact htext
  case isFalse =>
    unfold hexText
    rw [if_neg (hexEncode_ne_dash _), hexDecode_hexEncode, ok_bind, htext]

theorem colorsOfBytes_colorBytes (palette : List UInt32) :
    colorsOfBytes (palette.flatMap colorBytes) = palette := by
  induction palette with
  | nil => rfl
  | cons color rest ih =>
    have hcolor := color.toNat_lt
    rw [List.flatMap_cons, colorBytes, List.cons_append, List.cons_append, List.cons_append, List.cons_append,
      List.nil_append, colorsOfBytes, ih]
    congr 1
    refine UInt32.toNat_inj.mp ?_
    simp only [UInt32.toNat_ofNat', UInt8.toNat_ofNat']
    omega

@[simp] theorem decodePaletteRgba_hexEncode (palette : List UInt32) :
    decodePaletteRgba (hexEncode (palette.flatMap colorBytes)) = .ok palette := by
  have hlength : (palette.flatMap colorBytes).length % 4 = 0 := by
    induction palette with
    | nil => rfl
    | cons color rest ih =>
      rw [List.flatMap_cons, List.length_append, show (colorBytes color).length = 4 from rfl]
      omega
  unfold decodePaletteRgba
  rw [hexDecode_hexEncode, ok_bind, check_bind_eq_ok]
  exact ⟨require_eq_ok.mpr (by rw [hlength]; rfl), congrArg Except.ok (colorsOfBytes_colorBytes palette)⟩

/-! ### Words -/

theorem plain_keyword {word : String} (h : word ∈ ["NMUX_CLIENT_STATE", "8", "scope", "socket", "scrollback",
    "surface", "cursor", "none", "modes", "title", "pwd", "colors", "style", "hyperlink", "row", "rowmeta",
    "run", "end", "-", "0", "1"]) : Plain word := by
  refine .of_visible ?_
  simp only [List.mem_cons, List.not_mem_nil, or_false] at h
  rcases h with rfl | rfl | rfl | rfl | rfl | rfl | rfl | rfl | rfl | rfl | rfl | rfl | rfl | rfl | rfl |
    rfl | rfl | rfl | rfl | rfl | rfl <;> simp

@[simp] theorem plain_u64 (value : UInt64) : Plain (toString value) := Lib.plain_toString value.toNat

@[simp] theorem plain_u32 (value : UInt32) : Plain (toString value) := Lib.plain_toString value.toNat

@[simp] theorem plain_i64 (value : Int64) : Plain (toString value) := Lib.plain_toString_int value.toInt

@[simp] theorem plain_i8 (value : Int8) : Plain (toString value) := Lib.plain_toString_int value.toInt

@[simp] theorem plain_stateBool (value : Bool) : Plain (stateBool value) := by
  cases value <;> exact plain_keyword (by simp [stateBool])

@[simp] theorem plain_hexText (text : String) : Plain (hexText text) := Lib.plain_hexEncode _

@[simp] theorem plain_stateHexField (text : String) : Plain (stateHexField text) := by
  unfold stateHexField
  split
  · exact plain_keyword (by simp)
  · exact plain_hexText text

theorem plain_scopeRecord (scope : SocketIdentity) : PlainRecord (scopeRecord scope) :=
  .of_keyword (plain_keyword (by simp)) (by simp [plain_keyword])

theorem plain_scrollbackRecord (scrollback : ClientPaneScrollback) :
    PlainRecord (scrollbackRecord scrollback) :=
  .of_keyword (plain_keyword (by simp)) (by simp)

theorem plain_surfaceRecord (surface : ClientPaneSurface) : PlainRecord (surfaceRecord surface) :=
  .of_keyword (plain_keyword (by simp)) (by simp)

/-- A record of a surface: plain, and not its end. -/
structure BodyRecord (record : List String) : Prop where
  plain : PlainRecord record
  more : record.length ≠ 1

theorem BodyRecord.of_keyword {keyword field : String} {fields : List String} (hkeyword : Plain keyword)
    (hfields : ∀ word ∈ field :: fields, Plain word) : BodyRecord (keyword :: field :: fields) where
  plain := .of_keyword hkeyword hfields
  more := by simp

theorem rowRecords_body (row : ClientRow) (index : ℕ) : ∀ record ∈ rowRecords row index, BodyRecord record := by
  intro record hrecord
  have hindex : Plain index.repr := Lib.plain_toString index
  unfold rowRecords at hrecord
  simp only [List.mem_cons, List.mem_map] at hrecord
  rcases hrecord with rfl | rfl | ⟨run, -, rfl⟩
  · exact .of_keyword (plain_keyword (by simp)) (by simp [hindex])
  · exact .of_keyword (plain_keyword (by simp)) (by simp [hindex])
  · exact .of_keyword (plain_keyword (by simp)) (by simp [hindex, Lib.plain_hexEncode])

theorem surfaceBody_body (surface : ClientPaneSurface) : ∀ record ∈ surfaceBody surface, BodyRecord record := by
  intro record hrecord
  unfold surfaceBody at hrecord
  simp only [List.mem_append, List.mem_cons, List.not_mem_nil, or_false, List.mem_map,
    List.mem_flatMap] at hrecord
  rcases hrecord with (((rfl | rfl | rfl | rfl | rfl) | ⟨style, -, rfl⟩) | ⟨hyperlink, -, rfl⟩) |
    ⟨row, -, hrow⟩
  · cases surface.cursor with
    | none => exact .of_keyword (plain_keyword (by simp)) (by simp [plain_keyword])
    | some cursor => exact .of_keyword (plain_keyword (by simp)) (by simp)
  · exact .of_keyword (plain_keyword (by simp)) (by simp)
  · exact .of_keyword (plain_keyword (by simp)) (by simp)
  · exact .of_keyword (plain_keyword (by simp)) (by simp)
  · exact .of_keyword (plain_keyword (by simp)) (by simp [Lib.plain_hexEncode])
  · exact .of_keyword (plain_keyword (by simp)) (by simp)
  · exact .of_keyword (plain_keyword (by simp)) (by simp)
  · exact rowRecords_body row.1 row.2 record hrow

/-! ### Lines of a surface -/

variable {surface : ClientPaneSurface}

theorem decodeBodyLine_cursor {cursor : Option CursorSummary}
    (h : ∀ shown, cursor = some shown → shown.shape.known = true) :
    decodeBodyLine surface (cursorRecord cursor) = .ok { surface with cursor } := by
  cases cursor with
  | none => rfl
  | some cursor =>
    show (do return { surface with cursor := ← decodeCursor [_, _, _, _, _] }) = _
    simp [decodeCursor, parseStateCursorShape, parseStateEnum_toString (h cursor rfl)]

theorem decodeBodyLine_modes {modes : TerminalModeSummary} (htracking : modes.mouseTrackingMode.known = true)
    (hformat : modes.mouseFormat.known = true) :
    decodeBodyLine surface (modesRecord modes) = .ok { surface with modes } := by
  show (do return { surface with modes := ← decodeModes [_, _, _, _, _, _, _, _, _] }) = _
  simp [decodeModes, parseStateMouseTrackingMode, parseStateMouseFormat, parseStateEnum_toString htracking,
    parseStateEnum_toString hformat]

theorem decodeBodyLine_title (title : String) :
    decodeBodyLine surface ["title", hexText title] = .ok { surface with title } := by
  show (do return { surface with title := ← decodeHexText (hexText title) }) = _
  rw [decodeHexText_hexText]
  rfl

theorem decodeBodyLine_pwd (workingDirectory : String) :
    decodeBodyLine surface ["pwd", hexText workingDirectory] = .ok { surface with workingDirectory } := by
  show (do return { surface with workingDirectory := ← decodeHexText (hexText workingDirectory) }) = _
  rw [decodeHexText_hexText]
  rfl

/-- Colors without a palette difference. -/
def TerminalColorSummary.Materialized (colors : TerminalColorSummary) : Prop :=
  colors.paletteDiffStart = none ∧ colors.paletteDiffRgba = []

theorem decodeBodyLine_colors {colors : TerminalColorSummary} (h : colors.Materialized) :
    decodeBodyLine surface (colorsRecord colors) = .ok { surface with colors } := by
  obtain ⟨hstart, hdiff⟩ := h
  have hcolors : colors = { colors with paletteDiffStart := none, paletteDiffRgba := [] } := by
    rw [← hstart, ← hdiff]
  show (do return { surface with colors := ← decodeColors [_, _, _, _, _] }) = _
  rw [hcolors]
  simp [decodeColors]

theorem decodeBodyLine_style (style : StyleSummary) :
    decodeBodyLine surface (styleRecord style) = .ok { surface with styles := surface.styles ++ [style] } := by
  show (do return { surface with styles := surface.styles ++ [← decodeStyle [_, _, _, _]] }) = _
  simp [decodeStyle]

theorem decodeBodyLine_hyperlink (hyperlink : HyperlinkSummary) :
    decodeBodyLine surface (hyperlinkRecord hyperlink) =
      .ok { surface with hyperlinks := surface.hyperlinks ++ [hyperlink] } := by
  show (do return { surface with hyperlinks := surface.hyperlinks ++ [← decodeHyperlink [_, _, _, _]] }) = _
  simp [decodeHyperlink]

/-! ### Rows -/

variable {before after : List ClientRow} {row : ClientRow}

theorem onRow_inside (hindex : before.length < 2 ^ 64) (message : String)
    (write : ClientRow → Except String ClientRow) :
    onRow { surface with rowData := before ++ row :: after } (toString before.length) message write =
      (write row).bind fun written => .ok { surface with rowData := before ++ written :: after } := by
  unfold onRow
  rw [parseStateUsize_toString hindex, ok_bind]
  dsimp only
  rw [List.getElem?_append_right (Nat.le_refl _), Nat.sub_self, List.getElem?_cons_zero]
  dsimp only
  cases write row with
  | error message => rfl
  | ok written =>
    show Except.ok _ = Except.ok _
    rw [List.set_append_right _ _ (Nat.le_refl _), Nat.sub_self, List.set_cons_zero]

/-- Enumerations of a row that the schema names. -/
structure ClientRow.Known (row : ClientRow) : Prop where
  prompt : row.semanticPrompt.known = true
  runs : ∀ run ∈ row.runs, run.semanticContent.known = true

theorem decodeRun_runRecord {run : CellRunSummary} (h : run.semanticContent.known = true) :
    decodeRun [hexText run.text, hexEncode run.cellWidths, toString run.styleId, toString run.flags,
      toString run.hyperlinkId, toString run.semanticContent.value] = .ok run := by
  simp [decodeRun, parseStateCellSemanticContent, parseStateEnum_toString h]

/-- A row that is read for the first time is read as it was written. -/
theorem foldlM_rowRecords (hindex : before.length < 2 ^ 64) (h : row.Known) :
    (rowRecords row before.length).foldlM decodeBodyLine
        { surface with rowData := before ++ .empty :: after } =
      .ok { surface with rowData := before ++ row :: after } := by
  have htext : decodeBodyLine { surface with rowData := before ++ .empty :: after }
      ["row", toString before.length, hexText row.text] =
      .ok { surface with rowData := before ++ { ClientRow.empty with text := row.text } :: after } := by
    refine (onRow_inside hindex _ _).trans ?_
    rw [decodeHexText_hexText]
    rfl
  have hmeta : decodeBodyLine
      { surface with rowData := before ++ { ClientRow.empty with text := row.text } :: after }
      ["rowmeta", toString before.length, toString row.semanticPrompt.value, stateBool row.dirty,
        stateBool row.kittyPlaceholder, toString row.stateHash, toString row.dirtyHash] =
      .ok { surface with rowData := before ++ { row with runs := [] } :: after } := by
    refine (onRow_inside hindex _ _).trans ?_
    simp [decodeRowMeta, parseStateRowSemanticPrompt, parseStateEnum_toString h.prompt, Except.bind,
      ClientRow.empty]
  have hruns : (row.runs.map (runRecord before.length)).foldlM decodeBodyLine
      { surface with rowData := before ++ { row with runs := [] } :: after } =
      .ok { surface with rowData := before ++ { row with runs := row.runs } :: after } := by
    refine foldlM_appends (fun runs => { surface with rowData := before ++ { row with runs } :: after })
      (fun read run hrun => ?_) []
    refine (onRow_inside hindex _ _).trans ?_
    rw [decodeRun_runRecord (h.runs run hrun)]
    rfl
  unfold rowRecords
  rw [List.foldlM_cons, htext, ok_bind, List.foldlM_cons, hmeta, ok_bind, hruns]

theorem foldlM_rows {rest : List ClientRow} (hcount : before.length + rest.length ≤ 2 ^ 64)
    (h : ∀ row ∈ rest, row.Known) :
    ((rest.zipIdx before.length).flatMap fun row => rowRecords row.1 row.2).foldlM decodeBodyLine
        { surface with rowData := before ++ List.replicate rest.length .empty } =
      .ok { surface with rowData := before ++ rest } := by
  induction rest generalizing before with
  | nil => rfl
  | cons row rest ih =>
    rw [List.length_cons] at hcount
    have hnext := @ih (before ++ [row]) (by rw [List.length_append, List.length_singleton]; omega)
      fun other hother => h other (List.mem_cons_of_mem _ hother)
    rw [List.length_append, List.length_singleton, List.append_assoc, List.singleton_append,
      List.append_assoc, List.singleton_append] at hnext
    rw [List.zipIdx_cons, List.flatMap_cons, List.foldlM_append, List.length_cons, List.replicate_succ,
      foldlM_rowRecords (by omega) (h row List.mem_cons_self), ok_bind]
    exact hnext

/-! ### Surfaces -/

/-- A surface that is kept whole: as many rows as it declares, known enumerations, no palette difference,
tables that pass their checks, and runs that make up their rows. -/
structure ClientPaneSurface.Storable (surface : ClientPaneSurface) : Prop where
  intact : surface.Intact
  kind : surface.surface.known = true
  cursor : ∀ cursor, surface.cursor = some cursor → cursor.shape.known = true
  tracking : surface.modes.mouseTrackingMode.known = true
  format : surface.modes.mouseFormat.known = true
  colors : surface.colors.Materialized
  hyperlinks : validateHyperlinkTable surface.hyperlinks = .ok ()
  known : ∀ row ∈ surface.rowData, row.Known
  texts : ∀ row ∈ surface.rowData, row.runs = [] ∨ renderRunSummaries row.runs = row.text

/-- The lines of a surface, read after its first. -/
theorem foldlM_surfaceBody (h : surface.Storable) :
    (surfaceBody surface).foldlM decodeBodyLine
        (startedSurface surface.paneId surface.version surface.cols surface.rows surface.surface) =
      .ok surface := by
  have hstyles : ∀ base : ClientPaneSurface, (surface.styles.map styleRecord).foldlM decodeBodyLine
      { base with styles := [] } = .ok { base with styles := surface.styles } := fun base =>
    foldlM_appends (fun styles => { base with styles })
      (fun read style _ => decodeBodyLine_style style) []
  have hlinks : ∀ base : ClientPaneSurface, (surface.hyperlinks.map hyperlinkRecord).foldlM decodeBodyLine
      { base with hyperlinks := [] } = .ok { base with hyperlinks := surface.hyperlinks } := fun base =>
    foldlM_appends (fun hyperlinks => { base with hyperlinks })
      (fun read hyperlink _ => decodeBodyLine_hyperlink hyperlink) []
  have hrows : ∀ base : ClientPaneSurface, (surface.rowData.zipIdx.flatMap fun row =>
      rowRecords row.1 row.2).foldlM decodeBodyLine
      { base with rowData := List.replicate surface.rowData.length .empty } =
        .ok { base with rowData := surface.rowData } := fun base =>
    @foldlM_rows base [] surface.rowData (by
      have := surface.rows.toNat_lt
      rw [h.intact.rows, List.length_nil]
      omega) h.known
  have hfields : [cursorRecord surface.cursor, modesRecord surface.modes, ["title", hexText surface.title],
      ["pwd", hexText surface.workingDirectory], colorsRecord surface.colors].foldlM decodeBodyLine
      (startedSurface surface.paneId surface.version surface.cols surface.rows surface.surface) =
        .ok { surface with
          styles := []
          hyperlinks := []
          rowData := List.replicate surface.rowData.length .empty } := by
    rw [List.foldlM_cons, decodeBodyLine_cursor h.cursor, ok_bind, List.foldlM_cons,
      decodeBodyLine_modes h.tracking h.format, ok_bind, List.foldlM_cons, decodeBodyLine_title, ok_bind,
      List.foldlM_cons, decodeBodyLine_pwd, ok_bind, List.foldlM_cons, decodeBodyLine_colors h.colors, ok_bind,
      List.foldlM_nil, h.intact.rows]
    rfl
  unfold surfaceBody
  rw [List.foldlM_append, List.foldlM_append, List.foldlM_append]
  have hstyled := hstyles { surface with
    hyperlinks := []
    rowData := List.replicate surface.rowData.length .empty }
  have hlinked := hlinks { surface with rowData := List.replicate surface.rowData.length .empty }
  exact bind_eq_ok.mpr ⟨_, bind_eq_ok.mpr ⟨_, bind_eq_ok.mpr ⟨_, hfields, hstyled⟩, hlinked⟩, hrows surface⟩

/-- A line after the first of a surface is a line of the surface, unless it ends it. -/
theorem readLine_inside {record : List String} (h : BodyRecord record) (state : ClientAttachState)
    (surface : ClientPaneSurface) : readLine ⟨state, some surface⟩ (Lib.recordLine record) =
      (decodeBodyLine surface record).map fun surface => ⟨state, some surface⟩ := by
  have hwords := Lib.words_recordLine h.plain
  have hline : Lib.recordLine record ≠ "end" := by
    intro hline
    rw [hline] at hwords
    exact h.more (by rw [← hwords]; rfl)
  unfold readLine
  dsimp only
  rw [if_neg hline, hwords]
  cases decodeBodyLine surface record <;> rfl

theorem foldlM_readLine_inside {records : List (List String)} (h : ∀ record ∈ records, BodyRecord record)
    (state : ClientAttachState) (surface : ClientPaneSurface) :
    (records.map Lib.recordLine).foldlM readLine ⟨state, some surface⟩ =
      (records.foldlM decodeBodyLine surface).map fun surface => ⟨state, some surface⟩ := by
  induction records generalizing surface with
  | nil => rfl
  | cons record rest ih =>
    rw [List.map_cons, List.foldlM_cons, List.foldlM_cons, readLine_inside (h record List.mem_cons_self)]
    cases decodeBodyLine surface record with
    | error message => rfl
    | ok next => exact ih (fun other hother => h other (List.mem_cons_of_mem _ hother)) next

/-- An empty run list filled with a plain run. -/
def ClientRow.settled (row : ClientRow) : ClientRow :=
  if row.runs.isEmpty then { row with runs := [.plain row.text] } else row

/-- A surface as it comes back: empty run lists are filled, and an empty style table. -/
def ClientPaneSurface.settled (surface : ClientPaneSurface) : ClientPaneSurface :=
  { surface with
    styles := if surface.styles.isEmpty then defaultStyleSummaries else surface.styles
    rowData := surface.rowData.map ClientRow.settled }

def ClientAttachState.settled (state : ClientAttachState) : ClientAttachState :=
  { state with surfaces := state.surfaces.map ClientPaneSurface.settled }

theorem rowRunsForText_eq {row : ClientRow} (h : row.runs = [] ∨ renderRunSummaries row.runs = row.text) :
    rowRunsForText row = row.settled := by
  unfold rowRunsForText ClientRow.settled
  rcases h with hempty | htext
  · rw [hempty]
    rfl
  · rw [htext]
    simp

theorem RunsInside.default {styles : List StyleSummary} {hyperlinks : List HyperlinkSummary}
    {runs : List CellRunSummary} (h : RunsInside styles hyperlinks runs) :
    RunsInside (if styles.isEmpty then defaultStyleSummaries else styles) hyperlinks runs := by
  split
  case isTrue hempty =>
    rw [List.isEmpty_iff.mp hempty] at h
    exact h
  case isFalse => exact h

theorem ClientRow.settled_runsInside {styles : List StyleSummary} {hyperlinks : List HyperlinkSummary}
    {row : ClientRow} (h : RunsInside styles hyperlinks row.runs) :
    RunsInside styles hyperlinks row.settled.runs := by
  unfold ClientRow.settled
  split
  · exact runsInside_plain styles hyperlinks row.text
  · exact h

theorem validateCellRunHyperlinkIds_eq_ok {runs : List CellRunSummary} {hyperlinks : List HyperlinkSummary} :
    validateCellRunHyperlinkIds runs hyperlinks = .ok () ↔ ∀ run ∈ runs,
      run.hyperlinkId = 0 ∨ ∃ hyperlink ∈ hyperlinks, hyperlink.id = run.hyperlinkId := by
  simp only [validateCellRunHyperlinkIds, each_eq_ok, require_eq_ok, Bool.or_eq_true, beq_iff_eq,
    List.any_eq_true]

/-- The end of a storable surface makes it whole. -/
theorem finishSurface_storable (h : surface.Storable) : finishSurface surface = .ok surface.settled := by
  have hrows : surface.rowData.map rowRunsForText = surface.rowData.map ClientRow.settled :=
    List.map_congr_left fun row hrow => rowRunsForText_eq (h.texts row hrow)
  have hinside : ∀ row ∈ surface.rowData.map ClientRow.settled,
      RunsInside surface.settled.styles surface.hyperlinks row.runs := by
    intro row hrow
    obtain ⟨kept, hkept, rfl⟩ := List.mem_map.mp hrow
    exact (ClientRow.settled_runsInside (h.intact.runs kept hkept)).default
  unfold finishSurface
  dsimp only
  rw [hrows, check_bind_eq_ok]
  refine ⟨h.hyperlinks, check_bind_eq_ok.mpr ⟨each_eq_ok.mpr fun row hrow => ?_,
    check_bind_eq_ok.mpr ⟨each_eq_ok.mpr fun row hrow => ?_, rfl⟩⟩⟩
  · exact validateCellRunStyleIds_eq_ok.mpr fun run hrun => (hinside row hrow run hrun).1
  · exact validateCellRunHyperlinkIds_eq_ok.mpr fun run hrun => (hinside row hrow run hrun).2

/-! ### Files -/

/-- A cache that is kept whole. -/
structure ClientAttachState.Storable (state : ClientAttachState) : Prop where
  surfaces : ∀ surface ∈ state.surfaces, surface.Storable
  scrollbacks : ∀ scrollback ∈ state.scrollbacks, scrollback.startLine ≠ 0 ∧ scrollback.lineCount ≠ 0

variable {state : ClientAttachState}

theorem readLine_scope (scope : SocketIdentity) : readLine ⟨state, none⟩ (Lib.recordLine (scopeRecord scope)) =
    .ok ⟨{ state with scope := some scope }, none⟩ := by
  unfold readLine
  dsimp only
  rw [Lib.words_recordLine (plain_scopeRecord scope)]
  show (do
    let scope : SocketIdentity := {
      dev := ← parseStateU64 (toString scope.dev)
      ino := ← parseStateU64 (toString scope.ino)
      ctime := ← parseStateI64 (toString scope.ctime)
      ctimeNsec := ← parseStateI64 (toString scope.ctimeNsec) }
    return (⟨{ state with scope := some scope }, none⟩ : StateReader)) = _
  simp

theorem readLine_scrollback {scrollback : ClientPaneScrollback}
    (h : scrollback.startLine ≠ 0 ∧ scrollback.lineCount ≠ 0) :
    readLine ⟨state, none⟩ (Lib.recordLine (scrollbackRecord scrollback)) =
      .ok ⟨{ state with scrollbacks := state.scrollbacks ++ [scrollback] }, none⟩ := by
  unfold readLine
  dsimp only
  rw [Lib.words_recordLine (plain_scrollbackRecord scrollback)]
  show (do
    let scrollback ← decodeScrollback (hexText scrollback.paneId) (toString scrollback.version)
      (toString scrollback.startLine) (toString scrollback.lineCount) (toString scrollback.totalLines)
    return (⟨{ state with scrollbacks := state.scrollbacks ++ [scrollback] }, none⟩ : StateReader)) = _
  simp [decodeScrollback, h.1, h.2, require]

theorem readLine_surface (h : surface.surface.known = true) :
    readLine ⟨state, none⟩ (Lib.recordLine (surfaceRecord surface)) =
      .ok ⟨state, some (startedSurface surface.paneId surface.version surface.cols surface.rows
        surface.surface)⟩ := by
  unfold readLine
  dsimp only
  rw [Lib.words_recordLine (plain_surfaceRecord surface)]
  show (do
    let surface ← decodeSurfaceLine (hexText surface.paneId) (toString surface.version)
      (toString surface.cols) (toString surface.rows) (some (toString surface.surface.value))
    return (⟨state, some surface⟩ : StateReader)) = _
  simp [decodeSurfaceLine, parseStateSurfaceKind, parseStateEnum_toString h]

/-- The lines of a surface put it behind those that are read. -/
theorem foldlM_surfaceRecords (h : surface.Storable) :
    ((surfaceRecords surface).map Lib.recordLine).foldlM readLine ⟨state, none⟩ =
      .ok ⟨{ state with surfaces := state.surfaces ++ [surface.settled] }, none⟩ := by
  have hend : readLine ⟨state, some surface⟩ (Lib.recordLine ["end"]) =
      .ok ⟨{ state with surfaces := state.surfaces ++ [surface.settled] }, none⟩ := by
    show (do
      let surface ← finishSurface surface
      return (⟨{ state with surfaces := state.surfaces ++ [surface] }, none⟩ : StateReader)) = _
    rw [finishSurface_storable h]
    rfl
  unfold surfaceRecords
  rw [List.map_append, List.map_cons, List.foldlM_append, List.foldlM_cons, readLine_surface h.kind, ok_bind,
    foldlM_readLine_inside (surfaceBody_body surface), foldlM_surfaceBody h]
  show (readLine ⟨state, some surface⟩ (Lib.recordLine ["end"]) >>= _) = _
  rw [hend]
  rfl

theorem foldlM_surfaces {surfaces : List ClientPaneSurface} (h : ∀ surface ∈ surfaces, surface.Storable) :
    ((surfaces.flatMap surfaceRecords).map Lib.recordLine).foldlM readLine ⟨state, none⟩ =
      .ok ⟨{ state with surfaces := state.surfaces ++ surfaces.map ClientPaneSurface.settled }, none⟩ := by
  induction surfaces generalizing state with
  | nil =>
    rw [List.map_nil, List.append_nil]
    rfl
  | cons surface rest ih =>
    rw [List.flatMap_cons, List.map_append, List.foldlM_append,
      foldlM_surfaceRecords (h surface List.mem_cons_self), ok_bind,
      ih fun other hother => h other (List.mem_cons_of_mem _ hother), List.map_cons, List.append_assoc,
      List.singleton_append]

theorem records_plain (state : ClientAttachState) : ∀ record ∈ state.records, PlainRecord record := by
  intro record hrecord
  unfold ClientAttachState.records at hrecord
  simp only [List.mem_cons, List.mem_append, List.mem_map, List.mem_flatMap] at hrecord
  rcases hrecord with rfl | (⟨scope, -, rfl⟩ | ⟨scrollback, -, rfl⟩) | ⟨surface, -, hsurface⟩
  · exact .of_keyword (plain_keyword (by simp)) (by simp [plain_keyword])
  · exact plain_scopeRecord scope
  · exact plain_scrollbackRecord scrollback
  · unfold surfaceRecords at hsurface
    simp only [List.mem_append, List.mem_cons, List.not_mem_nil, or_false] at hsurface
    rcases hsurface with (rfl | hbody) | rfl
    · exact plain_surfaceRecord surface
    · exact (surfaceBody_body surface record hbody).plain
    · exact .of_keyword (plain_keyword (by simp)) (by simp)

/-- **What is saved is loaded**, but for the empty run lists and the empty style tables that are filled. -/
theorem ClientAttachState.decode_encode (h : state.Storable) :
    ClientAttachState.decode state.encode = .ok state.settled := by
  have hscope : ((state.scope.toList.map scopeRecord).map Lib.recordLine).foldlM readLine ⟨.default, none⟩ =
      .ok ⟨{ ClientAttachState.default with scope := state.scope }, none⟩ := by
    cases hscope : state.scope with
    | none => rfl
    | some scope =>
      show (readLine ⟨.default, none⟩ (Lib.recordLine (scopeRecord scope)) >>= _) = _
      rw [readLine_scope]
      rfl
  have hscrollbacks : ((state.scrollbacks.map scrollbackRecord).map Lib.recordLine).foldlM readLine
      ⟨{ ClientAttachState.default with scope := state.scope }, none⟩ =
        .ok ⟨{ state with surfaces := [] }, none⟩ := by
    have hstep : ∀ read, ∀ scrollback ∈ state.scrollbacks, readLine ⟨⟨state.scope, [], read⟩, none⟩
        (Lib.recordLine (scrollbackRecord scrollback)) =
          .ok ⟨⟨state.scope, [], read ++ [scrollback]⟩, none⟩ := fun read scrollback hmem =>
      @readLine_scrollback ⟨state.scope, [], read⟩ scrollback (h.scrollbacks scrollback hmem)
    rw [List.map_map]
    exact foldlM_appends (fun scrollbacks => (⟨⟨state.scope, [], scrollbacks⟩, none⟩ : StateReader)) hstep []
  have hsurfaces := @foldlM_surfaces { state with surfaces := [] } state.surfaces h.surfaces
  unfold ClientAttachState.decode ClientAttachState.encode
  rw [Lib.lines_recordText (records_plain state)]
  unfold ClientAttachState.records
  rw [List.map_cons]
  dsimp only
  rw [check_bind_eq_ok]
  have hheader : Lib.recordLine ["NMUX_CLIENT_STATE", "8"] = "NMUX_CLIENT_STATE 8" := by
    rw [Lib.recordLine, String.intercalate_cons_cons, String.intercalate_singleton]
    decide
  rw [hheader]
  refine ⟨require_eq_ok.mpr (by simp [stateHeaders]), bind_eq_ok.mpr ⟨⟨state.settled, none⟩, ?_, rfl⟩⟩
  rw [List.map_append, List.map_append, List.foldlM_append, List.foldlM_append]
  exact bind_eq_ok.mpr ⟨_, bind_eq_ok.mpr ⟨_, hscope, hscrollbacks⟩, hsurfaces⟩

end Nmux.Client
