import Nmux.Client.CacheUpdates
import Nmux.Client.Frames
import Nmux.Client.StateAccepted

/-! The surfaces a cache holds. A surface that is built of frames is kept whole when it is saved, and an
update of what comes back leaves what comes back of the updated surface: rows that no update has written
are all that loading fills. -/
namespace Nmux.Client

open Lib (overwrite)
open Lib.Check

variable {surface next : ClientPaneSurface} {update : SurfaceUpdate}

/-! ### What updates leave -/

/-- An update whose rows were decoded from runs and checked. -/
structure SurfaceUpdate.Read (update : SurfaceUpdate) : Prop where
  known : validateRowUpdateTerminalEnums update.rowUpdates = .ok ()
  texts : ∀ row ∈ update.rowUpdates, row.text = renderRunSummaries row.runs

theorem surfaceUpdateFromFrame_read {frame : SurfaceFrame} (h : surfaceUpdateFromFrame frame = .ok update) :
    update.Read := by
  unfold surfaceUpdateFromFrame at h
  split at h
  case h_1 snapshot _ =>
    dsimp only at h
    obtain ⟨-, h⟩ := check_bind_eq_ok.mp h
    obtain ⟨-, h⟩ := check_bind_eq_ok.mp h
    obtain ⟨-, h⟩ := check_bind_eq_ok.mp h
    obtain ⟨hknown, h⟩ := check_bind_eq_ok.mp h
    simp only [check_bind_eq_ok] at h
    obtain ⟨-, -, -, -, -, h⟩ := h
    obtain ⟨paneId, -, h⟩ := bind_eq_ok.mp h
    obtain rfl := Except.ok.inj h
    refine ⟨hknown, fun row hrow => ?_⟩
    obtain ⟨decoded, -, rfl⟩ := List.mem_map.mp hrow
    rfl
  case h_2 patch _ =>
    dsimp only at h
    obtain ⟨-, h⟩ := check_bind_eq_ok.mp h
    obtain ⟨-, h⟩ := check_bind_eq_ok.mp h
    obtain ⟨hknown, h⟩ := check_bind_eq_ok.mp h
    simp only [check_bind_eq_ok] at h
    obtain ⟨-, -, -, -, h⟩ := h
    obtain ⟨paneId, -, h⟩ := bind_eq_ok.mp h
    obtain rfl := Except.ok.inj h
    refine ⟨hknown, fun row hrow => ?_⟩
    obtain ⟨decoded, -, rfl⟩ := List.mem_map.mp hrow
    rfl

/-- A row that an update writes: it has runs, they make up its text, and its enumerations are known. -/
structure ClientRow.Whole (row : ClientRow) : Prop where
  known : row.Known
  runs : row.runs ≠ []
  text : renderRunSummaries row.runs = row.text

theorem SurfaceUpdate.Read.whole (h : update.Read) :
    ∀ row ∈ update.rowUpdates, row.clientRow.Whole := by
  intro row hrow
  obtain ⟨hprompt, hcontent⟩ := validateRowUpdateTerminalEnums_eq_ok.mp h.known row hrow
  have htext := h.texts row hrow
  by_cases hruns : row.runs = []
  · have hwritten : row.clientRow.runs = [.plain row.text] := if_pos (by simp [hruns])
    refine ⟨⟨hprompt, fun run hrun => ?_⟩, ?_, ?_⟩
    · rw [hwritten] at hrun
      rw [List.mem_singleton.mp hrun]
      rfl
    · rw [hwritten]
      exact List.cons_ne_nil _ _
    · rw [hwritten]
      exact cellRunsText_plain row.text
  · have hwritten : row.clientRow.runs = row.runs := if_neg (by simpa using hruns)
    exact ⟨⟨hprompt, by rwa [hwritten]⟩, by rwa [hwritten], by rw [hwritten]; exact htext.symm⟩

/-- The rows of a surface, written or never written. -/
structure RowsKept (rowData : List ClientRow) : Prop where
  known : ∀ row ∈ rowData, row.Known
  texts : ∀ row ∈ rowData, row.runs = [] ∨ renderRunSummaries row.runs = row.text

theorem RowsKept.overwrite {rowData : List ClientRow} (h : RowsKept rowData) (hread : update.Read) :
    RowsKept (overwrite rowData (update.rowUpdates.map fun row => (row.row.toNat, row.clientRow))) := by
  have hcases : ∀ row ∈ Lib.overwrite rowData (update.rowUpdates.map fun row => (row.row.toNat, row.clientRow)),
      row ∈ rowData ∨ row.Whole := by
    intro row hrow
    rcases Lib.mem_overwrite hrow with hkept | hwritten
    · exact .inl hkept
    · rw [List.map_map] at hwritten
      obtain ⟨written, hmem, rfl⟩ := List.mem_map.mp hwritten
      exact .inr (hread.whole written hmem)
  constructor
  · intro row hrow
    exact (hcases row hrow).elim (h.known row) fun hwhole => hwhole.known
  · intro row hrow
    exact (hcases row hrow).elim (h.texts row) fun hwhole => .inr hwhole.text

/-- A surface that the cache holds: it is kept whole, and has a style. -/
structure ClientPaneSurface.Held (surface : ClientPaneSurface) : Prop where
  storable : surface.Storable
  styles : surface.styles ≠ []

theorem materialized_of_scope {kind : SurfaceUpdateKind} {patchKind : Option Protocol.PatchKind}
    {colors : Option TerminalColorSummary} (hscope : validatePaletteDiffScope kind patchKind colors = .ok ())
    (hkind : kind = .snapshot) : (colors.getD .default).Materialized := by
  subst hkind
  unfold validatePaletteDiffScope at hscope
  split at hscope
  · exact ⟨rfl, rfl⟩
  case h_2 colors =>
    split at hscope
    case isTrue hdiff =>
      simp only [terminalColorsHavePaletteDiff, Bool.not_or, Bool.not_not, Bool.and_eq_true,
        Bool.not_eq_true', Option.isSome_eq_false_iff, Option.isNone_iff_eq_none, List.isEmpty_iff] at hdiff
      exact hdiff
    case isFalse => cases hscope

theorem fromSnapshot_held (hread : update.Read) (h : ClientPaneSurface.fromSnapshot update = .ok next) :
    next.Held := by
  obtain ⟨hupdated, hstyles⟩ := fromSnapshot_updated h
  have hintact := hupdated.intact
  unfold ClientPaneSurface.fromSnapshot at h
  obtain ⟨hcolors, h⟩ := check_bind_eq_ok.mp h
  obtain ⟨cols, -, h⟩ := bind_eq_ok.mp h
  obtain ⟨rows, -, h⟩ := bind_eq_ok.mp h
  dsimp only at h
  obtain ⟨hkind, h⟩ := check_bind_eq_ok.mp h
  obtain ⟨hcursor, h⟩ := check_bind_eq_ok.mp h
  obtain ⟨hmodes, h⟩ := check_bind_eq_ok.mp h
  obtain ⟨hlinks, h⟩ := check_bind_eq_ok.mp h
  obtain ⟨hindices, h⟩ := check_bind_eq_ok.mp h
  obtain ⟨-, h⟩ := check_bind_eq_ok.mp h
  obtain ⟨-, h⟩ := check_bind_eq_ok.mp h
  have hbound := (validateRowUpdateIndices_eq_ok.mp hindices).1
  rw [applyRows_eq_overwrite (by simpa using hbound), ok_bind] at h
  obtain rfl := Except.ok.inj h
  have hempty : RowsKept (List.replicate rows.toNat .empty) := by
    constructor <;> intro row hrow <;> rw [List.eq_of_mem_replicate hrow]
    · exact ⟨rfl, fun run hrun => (by cases hrun)⟩
    · exact .inl rfl
  have hrows := hempty.overwrite hread
  have hknown := validateTerminalModeSummary_eq_ok.mp hmodes
  refine ⟨⟨hintact, validateSurfaceKind_eq_ok.mp hkind, fun cursor hshown => ?_, hknown.1, hknown.2,
    materialized_of_scope hcolors rfl, hlinks, hrows.known, hrows.texts⟩, hstyles⟩
  dsimp only at hshown
  rw [hshown] at hcursor
  exact validateCursorSummary_some.mp hcursor

theorem materialize_materialized {colors base reached : TerminalColorSummary}
    (h : colors.materialize base = .ok reached) : reached.Materialized := by
  unfold TerminalColorSummary.materialize at h
  dsimp only at h
  split at h
  · split at h
    · cases h
    · obtain ⟨palette, -, h⟩ := bind_eq_ok.mp h
      obtain rfl := Except.ok.inj h
      exact ⟨rfl, rfl⟩
  · obtain ⟨palette, -, h⟩ := bind_eq_ok.mp h
    obtain rfl := Except.ok.inj h
    exact ⟨rfl, rfl⟩

theorem applyPatch_held (hheld : surface.Held) (hread : update.Read)
    (h : surface.applyPatch update = .ok next) : next.Held := by
  obtain ⟨hstorable, hne⟩ := hheld
  obtain ⟨hupdated, hstyles⟩ := applyPatch_updated hstorable.intact h
  have hintact := hupdated.intact
  rw [← hstyles] at hne
  unfold ClientPaneSurface.applyPatch at h
  obtain ⟨hvalid, h⟩ := check_bind_eq_ok.mp h
  unfold ClientPaneSurface.validatePatch at hvalid
  simp only [check_bind_eq_ok] at hvalid
  obtain ⟨-, -, -, -, hcursor, hmodes, -⟩ := hvalid
  have hshown : ∀ cursor, update.cursor = some cursor → cursor.shape.known = true := fun cursor hsome => by
    rw [hsome] at hcursor
    exact validateCursorSummary_some.mp hcursor
  obtain ⟨htracking, hformat⟩ := validateTerminalModeSummary_eq_ok.mp hmodes
  dsimp only at h
  split at h
  · obtain ⟨-, h⟩ := check_bind_eq_ok.mp h
    obtain rfl := Except.ok.inj h
    exact ⟨{ hstorable with intact := hintact, cursor := hshown }, hne⟩
  split at h
  · obtain ⟨-, h⟩ := check_bind_eq_ok.mp h
    obtain rfl := Except.ok.inj h
    exact ⟨{ hstorable with
      intact := hintact, cursor := hshown, tracking := htracking, format := hformat }, hne⟩
  split at h
  · obtain ⟨colors, -, h⟩ := bind_eq_ok.mp h
    obtain ⟨palette, hpalette, h⟩ := bind_eq_ok.mp h
    obtain rfl := Except.ok.inj h
    exact ⟨{ hstorable with
      intact := hintact, cursor := hshown, tracking := htracking, format := hformat
      colors := materialize_materialized hpalette }, hne⟩
  · obtain ⟨-, h⟩ := check_bind_eq_ok.mp h
    obtain ⟨-, h⟩ := check_bind_eq_ok.mp h
    obtain ⟨-, h⟩ := check_bind_eq_ok.mp h
    obtain ⟨hindices, h⟩ := check_bind_eq_ok.mp h
    obtain ⟨-, h⟩ := check_bind_eq_ok.mp h
    obtain ⟨-, h⟩ := check_bind_eq_ok.mp h
    rw [applyRows_eq_overwrite (validateRowUpdateIndices_eq_ok.mp hindices).1, ok_bind] at h
    obtain rfl := Except.ok.inj h
    have hrows := RowsKept.overwrite ⟨hstorable.known, hstorable.texts⟩ hread
    exact ⟨{ hstorable with
      intact := hintact, cursor := hshown, tracking := htracking, format := hformat
      known := hrows.known, texts := hrows.texts }, hne⟩

/-! ### Loaded surfaces -/

theorem ClientRow.settled_settled (row : ClientRow) : row.settled.settled = row.settled := by
  by_cases hruns : row.runs.isEmpty = true
  · have hfilled : row.settled = { row with runs := [.plain row.text] } := if_pos hruns
    rw [hfilled]
    rfl
  · have hsame : row.settled = row := if_neg hruns
    rw [hsame, hsame]

theorem ClientPaneSurface.settled_settled (surface : ClientPaneSurface) :
    surface.settled.settled = surface.settled := by
  unfold ClientPaneSurface.settled
  dsimp only
  rw [List.map_map]
  congr 1
  · split
    · rfl
    · rfl
  · exact List.map_congr_left fun row _ => row.settled_settled

/-- A row that an update writes needs no filling. -/
theorem SurfaceRowUpdate.clientRow_settled (row : SurfaceRowUpdate) : row.clientRow.settled = row.clientRow := by
  refine if_neg ?_
  show ¬ (if row.runs.isEmpty then [CellRun.plain row.text] else row.runs).isEmpty = true
  split
  case isTrue => exact Bool.false_ne_true
  case isFalse hruns => exact hruns

theorem applyRows_settled (rows : UInt32) (rowData : List ClientRow) (updates : List SurfaceRowUpdate) :
    applyRows rows (rowData.map ClientRow.settled) updates =
      (applyRows rows rowData updates).map (List.map ClientRow.settled) := by
  induction updates generalizing rowData with
  | nil => rfl
  | cons row rest ih =>
    rw [applyRows, applyRows, List.length_map]
    split
    · rw [← ih, List.map_set, row.clientRow_settled]
    · rfl

theorem Held.settled_eq (h : surface.Held) :
    surface.settled = surface.withRows (surface.rowData.map ClientRow.settled) := by
  unfold ClientPaneSurface.settled ClientPaneSurface.withRows
  rw [if_neg (by simpa using h.styles)]

/-- A patch does to filled rows what it does to the rows, and then fills them. -/
theorem applyPatch_withRows (surface : ClientPaneSurface) (update : SurfaceUpdate) :
    (surface.withRows (surface.rowData.map ClientRow.settled)).applyPatch update =
      (surface.applyPatch update).map fun next => next.withRows (next.rowData.map ClientRow.settled) := by
  symm
  unfold ClientPaneSurface.applyPatch
  rw [show (surface.withRows (surface.rowData.map ClientRow.settled)).validatePatch update =
    surface.validatePatch update from rfl]
  refine map_bind_congr fun _ _ => ?_
  dsimp only
  split
  · exact map_bind_congr fun _ _ => rfl
  split
  · exact map_bind_congr fun _ _ => rfl
  split
  · exact map_bind_congr fun _ _ => map_bind_congr fun _ _ => rfl
  · refine map_bind_congr fun _ _ => map_bind_congr fun _ _ => map_bind_congr fun _ _ => ?_
    rw [show (surface.withRows (surface.rowData.map ClientRow.settled)).rowData.length =
      surface.rowData.length from List.length_map _]
    refine map_bind_congr fun _ _ => map_bind_congr fun _ _ => map_bind_congr fun _ _ => ?_
    rw [show applyRows (surface.withRows (surface.rowData.map ClientRow.settled)).rows
        (surface.withRows (surface.rowData.map ClientRow.settled)).rowData update.rowUpdates =
      (applyRows surface.rows surface.rowData update.rowUpdates).map (List.map ClientRow.settled) from
        applyRows_settled _ _ _]
    cases applyRows surface.rows surface.rowData update.rowUpdates <;> rfl

/-- **An update of what was loaded** leaves what loading makes of the updated surface, with its empty rows
filled or not. -/
theorem applyUpdate_settled (hheld : surface.Held) (hread : update.Read) :
    (surface.settled.applyUpdate update).map ClientPaneSurface.settled =
      (surface.applyUpdate update).map ClientPaneSurface.settled := by
  unfold ClientPaneSurface.applyUpdate
  split
  · rfl
  · rw [Held.settled_eq hheld, applyPatch_withRows]
    cases hnext : surface.applyPatch update with
    | error message => rfl
    | ok next =>
      have hnextHeld := applyPatch_held hheld hread hnext
      refine congrArg Except.ok ?_
      show (next.withRows (next.rowData.map ClientRow.settled)).settled = next.settled
      rw [← Held.settled_eq hnextHeld, ClientPaneSurface.settled_settled]

/-! ### The cache -/

/-- A cache whose surfaces are held and whose scrollbacks are ranges. -/
structure ClientAttachState.Held (state : ClientAttachState) : Prop where
  surfaces : ∀ surface ∈ state.surfaces, surface.Held
  scrollbacks : ∀ scrollback ∈ state.scrollbacks, scrollback.startLine ≠ 0 ∧ scrollback.lineCount ≠ 0

variable {state reached : ClientAttachState}

theorem ClientAttachState.Held.storable (h : state.Held) : state.Storable where
  surfaces surface hmem := (h.surfaces surface hmem).storable
  scrollbacks := h.scrollbacks

theorem Held.cachedSurface (h : state.Held) {paneId : String} (hcached : state.cachedSurface paneId = some surface) :
    surface.Held := h.surfaces surface (List.mem_of_find?_eq_some hcached)

theorem ClientAttachState.settled_cachedSurface (state : ClientAttachState) (paneId : String) :
    state.settled.cachedSurface paneId = (state.cachedSurface paneId).map ClientPaneSurface.settled := by
  unfold cachedSurface settled
  rw [List.find?_map]
  rfl

theorem applyUpdate_held (hheld : surface.Held) (hread : update.Read)
    (h : surface.applyUpdate update = .ok next) : next.Held := by
  unfold ClientPaneSurface.applyUpdate at h
  split at h
  · exact fromSnapshot_held hread h
  · exact applyPatch_held hheld hread h

theorem applySurfaceUpdate_held (hheld : state.Held) (hread : update.Read)
    (h : state.applySurfaceUpdate update = .ok (reached, next)) : reached.Held := by
  unfold ClientAttachState.applySurfaceUpdate at h
  split at h
  case h_1 cached hcached =>
    obtain ⟨applied, happlied, h⟩ := bind_eq_ok.mp h
    obtain ⟨rfl, rfl⟩ := Prod.mk.inj (Except.ok.inj h)
    have hnext := applyUpdate_held (Held.cachedSurface hheld hcached) hread happlied
    refine ⟨fun surface hmem => ?_, hheld.scrollbacks⟩
    rcases Lib.mem_replaceFirst hmem with hkept | ⟨old, -, rfl⟩
    · exact hheld.surfaces surface hkept
    · exact hnext
  case h_2 =>
    split at h
    case isFalse => cases h
    case isTrue =>
      obtain ⟨applied, happlied, h⟩ := bind_eq_ok.mp h
      obtain ⟨rfl, rfl⟩ := Prod.mk.inj (Except.ok.inj h)
      refine ⟨fun surface hmem => ?_, hheld.scrollbacks⟩
      rcases List.mem_append.mp hmem with hkept | hnew
      · exact hheld.surfaces surface hkept
      · rw [List.mem_singleton.mp hnew]
        exact fromSnapshot_held hread happlied

theorem updatedSurface_held (hheld : state.Held) (hread : update.Read)
    (h : state.applySurfaceUpdate update = .ok (reached, next)) : next.Held := by
  unfold ClientAttachState.applySurfaceUpdate at h
  split at h
  case h_1 cached hcached =>
    obtain ⟨applied, happlied, h⟩ := bind_eq_ok.mp h
    obtain ⟨rfl, rfl⟩ := Prod.mk.inj (Except.ok.inj h)
    exact applyUpdate_held (Held.cachedSurface hheld hcached) hread happlied
  case h_2 =>
    split at h
    case isFalse => cases h
    case isTrue =>
      obtain ⟨applied, happlied, h⟩ := bind_eq_ok.mp h
      obtain ⟨rfl, rfl⟩ := Prod.mk.inj (Except.ok.inj h)
      exact fromSnapshot_held hread happlied

theorem replaceFirst_settled (paneId : String) (surface : ClientPaneSurface)
    (surfaces : List ClientPaneSurface) :
    (Lib.replaceFirst (·.paneId == paneId) (fun _ => surface) surfaces).map ClientPaneSurface.settled =
      Lib.replaceFirst (·.paneId == paneId) (fun _ => surface.settled)
        (surfaces.map ClientPaneSurface.settled) := by
  induction surfaces with
  | nil => rfl
  | cons first rest ih =>
    rw [Lib.replaceFirst, List.map_cons, Lib.replaceFirst, ← ih]
    show _ = if (first.paneId == paneId) = true then _ else _
    split <;> rfl

/-- The cache and the surface after an update, both as they come back. -/
def settledResult (result : ClientAttachState × ClientPaneSurface) : ClientAttachState × ClientPaneSurface :=
  (result.1.settled, result.2.settled)

theorem map_settled_settled (surfaces : List ClientPaneSurface) :
    (surfaces.map ClientPaneSurface.settled).map ClientPaneSurface.settled =
      surfaces.map ClientPaneSurface.settled := by
  rw [List.map_map]
  exact List.map_congr_left fun surface _ => surface.settled_settled

theorem ClientAttachState.settled_settled (state : ClientAttachState) : state.settled.settled = state.settled := by
  unfold ClientAttachState.settled
  rw [map_settled_settled]

/-- An update finds in a cache that was loaded what it finds in the cache. -/
theorem applySurfaceUpdate_settled (hheld : state.Held) (hread : update.Read) :
    (state.settled.applySurfaceUpdate update).map settledResult =
      (state.applySurfaceUpdate update).map settledResult := by
  unfold ClientAttachState.applySurfaceUpdate
  rw [ClientAttachState.settled_cachedSurface]
  cases hcached : state.cachedSurface update.paneId with
  | none =>
    dsimp only [Option.map_none]
    split
    · cases ClientPaneSurface.fromSnapshot update with
      | error message => rfl
      | ok surface =>
        refine congrArg Except.ok ?_
        show settledResult (⟨state.scope, state.surfaces.map ClientPaneSurface.settled ++ [surface],
          state.scrollbacks⟩, surface) = settledResult (⟨state.scope, state.surfaces ++ [surface],
          state.scrollbacks⟩, surface)
        unfold settledResult ClientAttachState.settled
        dsimp only
        rw [List.map_append, List.map_append, map_settled_settled]
    · rfl
  | some cached =>
    have happlied := applyUpdate_settled (Held.cachedSurface hheld hcached) hread
    dsimp only [Option.map_some]
    cases hloaded : cached.settled.applyUpdate update with
    | error message =>
      cases hkept : cached.applyUpdate update with
      | error other =>
        rw [hloaded, hkept] at happlied
        exact congrArg Except.error (Except.error.inj happlied)
      | ok kept =>
        rw [hloaded, hkept] at happlied
        cases happlied
    | ok loaded =>
      cases hkept : cached.applyUpdate update with
      | error other =>
        rw [hloaded, hkept] at happlied
        cases happlied
      | ok kept =>
        rw [hloaded, hkept] at happlied
        have hsame : loaded.settled = kept.settled := Except.ok.inj happlied
        refine congrArg Except.ok ?_
        show settledResult (⟨state.scope, Lib.replaceFirst (·.paneId == update.paneId) (fun _ => loaded)
          (state.surfaces.map ClientPaneSurface.settled), state.scrollbacks⟩, loaded) =
          settledResult (⟨state.scope, Lib.replaceFirst (·.paneId == update.paneId) (fun _ => kept)
            state.surfaces, state.scrollbacks⟩, kept)
        unfold settledResult ClientAttachState.settled
        dsimp only
        rw [replaceFirst_settled, replaceFirst_settled, map_settled_settled, hsame]

end Nmux.Client
