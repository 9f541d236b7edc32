import Nmux.Core.InterimText
import Nmux.Patch.Planning

/-! What the interim engine returns. Whatever the bytes, its update is plain text: one run of style
zero a row, values a client knows, and no more surface rows than it was asked for. -/
namespace Nmux

/-- Modes a client knows. -/
structure KnownModes (modes : TerminalModes) : Prop where
  tracking : modes.mouseTrackingMode.known = true
  format : modes.mouseFormat.known = true

/-! ### The parser keeps known modes -/

theorem setInterimMouseTracking_known {modes : TerminalModes} {mode : Protocol.MouseTrackingMode}
    (h : KnownModes modes) (hmode : mode.known = true) (enabled : Bool) :
    KnownModes (setInterimMouseTracking modes mode enabled) := by
  simp only [setInterimMouseTracking]
  split
  · exact ⟨hmode, h.format⟩
  · split
    · exact ⟨rfl, h.format⟩
    · exact h

theorem setInterimMouseFormat_known {modes : TerminalModes} {format : Protocol.MouseFormat}
    (h : KnownModes modes) (hformat : format.known = true) (enabled : Bool) :
    KnownModes (setInterimMouseFormat modes format enabled) := by
  simp only [setInterimMouseFormat]
  split
  · exact ⟨h.tracking, hformat⟩
  · split
    · exact ⟨h.tracking, rfl⟩
    · exact h

theorem applyInterimMode_known {modes : TerminalModes} (h : KnownModes modes) (isPrivate : Bool)
    (code : Nat) (enabled : Bool) : KnownModes (applyInterimMode modes isPrivate code enabled) := by
  unfold applyInterimMode
  split
  case h_4 => exact setInterimMouseTracking_known h rfl enabled
  case h_5 => exact setInterimMouseTracking_known h rfl enabled
  case h_6 => exact setInterimMouseTracking_known h rfl enabled
  case h_8 => exact setInterimMouseFormat_known h rfl enabled
  case h_9 => exact setInterimMouseFormat_known h rfl enabled
  all_goals exact ⟨h.tracking, h.format⟩

theorem applyInterimModeSet_known {modes : TerminalModes} (h : KnownModes modes)
    (params : List UInt8) (enabled : Bool) :
    KnownModes (applyInterimModeSet modes params enabled) := by
  simp only [applyInterimModeSet]
  generalize splitParams _ = all
  induction all generalizing modes with
  | nil => exact h
  | cons param rest ih =>
    rw [List.foldl_cons]
    cases parseParam param with
    | none => exact ih h
    | some code => exact ih (applyInterimMode_known h _ code enabled)

theorem applyInterimCsi_known {modes : TerminalModes} (h : KnownModes modes) (params : List UInt8)
    (finalByte : UInt8) : KnownModes (applyInterimCsi modes params finalByte) := by
  simp only [applyInterimCsi]
  split
  · exact applyInterimModeSet_known h params true
  · split
    · exact applyInterimModeSet_known h params false
    · exact h

theorem consumeByte_known {out : InterimAnsiOutput} (h : KnownModes out.modes) (byte : UInt8) :
    KnownModes (consumeByte out byte).modes := by
  cases hstate : out.state <;> simp only [consumeByte, hstate]
  case csi buffer =>
    split
    · exact h
    · split
      · exact applyInterimCsi_known h buffer byte
      · exact h
  all_goals (repeat' split) <;> exact ⟨h.tracking, h.format⟩

theorem consume_known {modes : TerminalModes} (h : KnownModes modes) (state : InterimAnsiState)
    (bytes : List UInt8) : KnownModes (consume state bytes modes).modes := by
  rw [consume]
  have hstart : KnownModes ({ state, text := [], modes } : InterimAnsiOutput).modes := h
  generalize ({ state, text := [], modes } : InterimAnsiOutput) = out at *
  induction bytes generalizing out with
  | nil => exact hstart
  | cons byte rest ih => exact ih _ (consumeByte_known hstart byte)

/-! ### The update -/

/-- A value a client knows, in everything an interim update takes over from the pane. -/
structure KnownInput (input : TerminalInput) : Prop where
  surface : input.surface.known = true
  cursor : input.cursor.shape.known = true
  modes : KnownModes input.modes

/-- The plain text update a line buffer gives. -/
structure PlainUpdate (rows : UInt32) (update : TerminalUpdate) : Prop where
  sendable : update.Sendable
  rowsFit : update.surfaceLines.length ≤ rows.toNat
  replaces : update.preserveScrollback = false

theorem plainRowRuns_forall {lines : List String} {P : CellRun → Prop} (h : ∀ line, P (.plain line)) :
    ∀ runs ∈ plainRowRuns lines, ∀ run ∈ runs, P run := by
  simp only [plainRowRuns, List.forall_mem_map, List.forall_mem_singleton]
  exact fun line _ => h line

theorem interimTextUpdate_plain {input : TerminalInput} {modes : TerminalModes} (h : KnownInput input)
    (hmodes : KnownModes modes) (rows : UInt32) (lines : List String) (col : UInt32) :
    PlainUpdate rows (interimTextUpdate input modes rows lines col) where
  sendable := {
    surfaceKnown := h.surface
    cursorKnown := h.cursor
    trackingKnown := hmodes.tracking
    formatKnown := hmodes.format
    promptsKnown := by
      intro prompt hprompt
      rw [List.eq_of_mem_replicate hprompt]
      rfl
    contentKnown := plainRowRuns_forall fun _ => rfl
    stylesKnown := plainRowRuns_forall fun _ => Nat.zero_lt_one }
  rowsFit := by
    simp only [interimTextUpdate, TerminalUpdate.plain, List.length_drop]
    omega
  replaces := rfl

theorem interimApplyOutput_plain {state : InterimAnsiState} {input : TerminalInput}
    {bytes : List UInt8} {update : TerminalUpdate} (h : KnownInput input)
    (hupdate : (interimApplyOutput state input bytes).2 = some update) :
    PlainUpdate input.rows update := by
  obtain rfl := Option.some.inj hupdate
  exact interimTextUpdate_plain h (consume_known h.modes state bytes) _ _ _

theorem interimResize_plain {state : InterimAnsiState} {input : TerminalInput} (cols : UInt32)
    {rows : UInt32} {update : TerminalUpdate} (h : KnownInput input)
    (hupdate : (interimResize state input cols rows).2 = some update) : PlainUpdate rows update := by
  obtain rfl := Option.some.inj hupdate
  exact interimTextUpdate_plain h h.modes _ _ _

end Nmux
