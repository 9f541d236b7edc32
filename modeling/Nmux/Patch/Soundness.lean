import Nmux.Patch.Planning

/-! Soundness of patch planning, from the pane's update to the client's cached surface, and the three
ways in which a pane or an update can fall outside it: runs that do not spell their line, more rows
than a `u32` counts and more palette entries than a `u32` counts. -/
namespace Nmux

open Client
open Lib.Check

/-- The surface vectors of a pane are parallel: one run list, prompt and pair of flags a line. -/
structure PaneState.Parallel (pane : PaneState) : Prop where
  runs : pane.surfaceRowRuns.length = pane.surfaceLines.length
  prompts : pane.surfaceSemanticPrompts.length = pane.surfaceLines.length
  dirty : pane.surfaceDirtyRows.length = pane.surfaceLines.length
  kitty : pane.surfaceKittyPlaceholders.length = pane.surfaceLines.length

/-- The patch a pane sends against `base` takes a client from the surface it holds to the one the
pane's snapshot would give it. -/
def PatchReaches (held : ClientPaneSurface) (base : UInt64) (pane : PaneState) : Prop :=
  ∃ reached, held.applyPatch (pane.patchContent base) = .ok reached ∧
    ClientPaneSurface.fromSnapshot pane.snapshotContent = .ok reached

/-- A version is bumped only by a change. -/
theorem surfaceChanged_of_bump {pane : PaneState} {update : TerminalUpdate} {force : Bool}
    (h : (applyTerminalUpdate pane update force).1.surfaceVersion = pane.surfaceVersion + 1) :
    (updateChanges pane update force).surfaceChanged = true := by
  by_contra hsame
  rw [applyTerminalUpdate_version, if_neg hsame] at h
  have := congrArg UInt64.toNat h
  have := pane.surfaceVersion.toNat_lt
  simp only [UInt64.toNat_add, UInt64.toNat_one] at *
  omega

/-- **Patch planning is sound.** A client built from the pane's snapshot accepts the patch of the
next version and then equals a client built from that version's snapshot, in every field. -/
theorem patch_planning_sound {pane : PaneState} {update : TerminalUpdate} {held : ClientPaneSurface}
    (hparallel : pane.Parallel) (hruns : pane.surfaceRowRuns.map cellRunsText = pane.surfaceLines)
    (hheld : ClientPaneSurface.fromSnapshot pane.snapshotContent = .ok held)
    (hversion : pane.surfaceVersion.toNat + 1 < 2 ^ 64) (hfits : UpdateFits pane update)
    (hsend : update.Sendable)
    (hbump : (applyTerminalUpdate pane update false).1.surfaceVersion = pane.surfaceVersion + 1)
    (hfull : (applyTerminalUpdate pane update false).1.lastPatchKind ≠ .fullRefreshRequired) :
    PatchReaches held pane.surfaceVersion (applyTerminalUpdate pane update false).1 := by
  have halign : pane.Aligned := ⟨hruns, hparallel.prompts, hparallel.dirty, hparallel.kitty⟩
  have hchanged := surfaceChanged_of_bump hbump
  have hkind : (applyTerminalUpdate pane update false).1.lastPatchKind =
      terminalPatchKind (updateChanges pane update false) := by
    simp [applyTerminalUpdate_eq, hchanged]
  have hpub := applyTerminalUpdate_publishable pane false hsend
  obtain ⟨-, rfl⟩ := pane.fromSnapshot_eq_ok.mp hheld
  have hretained := retainedPatch_of_update halign hversion hfits hsend hchanged (hkind ▸ hfull)
  exact ⟨_, hretained.applyPatch hpub, PaneState.fromSnapshot_eq_ok _ |>.mpr ⟨hpub, rfl⟩⟩

/-- A shell pane that echoes a character: the hypotheses hold and the patch carries the new line. -/
theorem patch_planning_sound_echo :
    let pane := newPaneFromTemplate "pane-2" (.local "local" (.new "sh")) 80 24
    let update := TerminalUpdate.plain .replaceRows .main { pane.cursor with row := 2, col := 1 }
      (pane.surfaceLines ++ ["x"]) (pane.scrollbackLines ++ ["x"])
    PatchReaches pane.clientSurface pane.surfaceVersion (applyTerminalUpdate pane update false).1 := by
  intro pane update
  have hpub : pane.Publishable := ⟨rfl, rfl, rfl, rfl, by decide, by decide⟩
  refine patch_planning_sound ⟨rfl, rfl, rfl, rfl⟩ (by decide)
    (pane.fromSnapshot_eq_ok.mpr ⟨hpub, rfl⟩) (by decide) ?_ ?_ (by decide) (by decide)
  · exact ⟨by decide, by decide, rfl, by decide⟩
  · exact ⟨rfl, rfl, rfl, rfl, by decide, by decide, by decide⟩

/-! ### The limits of planning -/

/-- Soundness for parallel panes, with `Extra` in place of what bounds it. -/
def PlanningSoundFor (Extra : PaneState → TerminalUpdate → Prop) : Prop :=
  ∀ (pane : PaneState) (update : TerminalUpdate) (held : ClientPaneSurface), pane.Parallel →
    pane.surfaceLines.length ≤ pane.rows.toNat →
    ClientPaneSurface.fromSnapshot pane.snapshotContent = .ok held →
    pane.surfaceVersion.toNat + 1 < 2 ^ 64 →
    pane.surfaceLines.length ≤ update.surfaceLines.length →
    update.colors.paletteRgba.length = pane.colors.paletteRgba.length → update.Sendable →
    (applyTerminalUpdate pane update false).1.surfaceVersion = pane.surfaceVersion + 1 →
    (applyTerminalUpdate pane update false).1.lastPatchKind ≠ .fullRefreshRequired →
    Extra pane update →
    PatchReaches held pane.surfaceVersion (applyTerminalUpdate pane update false).1

/-- A two-row pane whose second row's runs do not spell its line: the server sends both rows plain,
while the pane keeps the flag of the first. -/
def mixedRunsPane : PaneState :=
  { newPaneFromTemplate "pane-2" (.local "local" (.new "sh")) 80 2 with
    surfaceLines := ["a", "b"]
    surfaceRowRuns := [[{ CellRun.plain "a" with flags := 1 }], [.plain "x"]] }

/-- The engine's answer with the second row's runs repaired. -/
def repairedRunsUpdate : TerminalUpdate :=
  { TerminalUpdate.plain .replaceRows .main mixedRunsPane.cursor ["a", "b"]
      mixedRunsPane.scrollbackLines with
    surfaceRowRuns := [[{ CellRun.plain "a" with flags := 1 }], [.plain "b"]] }

/-- The patch carries the repaired row only, and the flag of the first never reaches the client. -/
theorem mixedRuns_not_reached :
    ¬ PatchReaches mixedRunsPane.clientSurface mixedRunsPane.surfaceVersion
      (applyTerminalUpdate mixedRunsPane repairedRunsUpdate false).1 := by
  rintro ⟨reached, happly, hsnapshot⟩
  obtain ⟨-, rfl⟩ := (PaneState.fromSnapshot_eq_ok _).mp hsnapshot
  have hrow := congrArg
    (fun result => result.toOption.bind fun s => s.rowData[0]?.map fun row => row.runs.map (·.flags))
    happly
  revert hrow
  decide

/-- A pane of one row that shows nothing yet. -/
def blankPane : PaneState :=
  { newPaneFromTemplate "pane-2" (.local "local" (.new "sh")) 80 1 with
    surfaceLines := []
    surfaceRowRuns := []
    surfaceSemanticPrompts := []
    surfaceDirtyRows := []
    surfaceKittyPlaceholders := [] }

/-- `rows` blank lines at once. -/
def tallUpdate (rows : Nat) : TerminalUpdate :=
  .plain .replaceRows .main blankPane.cursor (List.replicate rows "") []

/-- A palette that ends in another color than before. -/
def palettePane (entries : Nat) : PaneState :=
  { blankPane with
    colors := { TerminalColors.default with paletteRgba := List.replicate entries 0 ++ [0] } }

def paletteUpdate (entries : Nat) : TerminalUpdate :=
  { TerminalUpdate.plain .replaceRows .main blankPane.cursor [] [] with
    colors := { TerminalColors.default with paletteRgba := List.replicate entries 0 ++ [1] } }

/-- An accepted row patch names no row twice. -/
theorem rows_nodup_of_applyPatch {held reached : ClientPaneSurface} {update : SurfaceUpdate}
    (hkind : update.patchKind = some .replaceRows) (h : held.applyPatch update = .ok reached) :
    (update.rowUpdates.map (·.row)).Nodup := by
  simp only [ClientPaneSurface.applyPatch, hkind, check_bind_eq_ok, Option.some.injEq,
    Protocol.PatchKind.distinct, if_false] at h
  exact (validateRowUpdateIndices_eq_ok.mp h.2.2.2.2.1).2

/-- Beyond `2 ^ 32` rows the first index is remembered a second time. -/
theorem allRowIndices_repeats {rows : Nat} (h : 2 ^ 32 < rows) : [0, 0].Sublist (allRowIndices rows) := by
  obtain ⟨extra, rfl⟩ := Nat.exists_eq_add_of_lt h
  have hrange : [0, 2 ^ 32].Sublist (List.range (2 ^ 32 + extra + 1)) := by
    rw [Nat.add_assoc, List.range_add]
    have hfirst : [0].Sublist (List.range (2 ^ 32)) :=
      List.singleton_sublist.mpr (List.mem_range.mpr (by omega))
    refine hfirst.append ?_
    exact List.singleton_sublist.mpr (List.mem_map.mpr ⟨0, by simp, by simp⟩)
  exact hrange.map UInt32.ofNat

theorem tallUpdate_changes {rows : Nat} (h : 0 < rows) :
    (updateChanges blankPane (tallUpdate rows) false).rowsOrRowMetadataChanged = true := by
  have hlines : blankPane.surfaceLines ≠ (tallUpdate rows).surfaceLines := by
    simp only [blankPane, tallUpdate, TerminalUpdate.plain, ne_eq, List.nil_eq, List.replicate_eq_nil_iff]
    omega
  have hrows : (updateChanges blankPane (tallUpdate rows) false).rowsChanged = true := by
    simpa [updateChanges, terminalPatchChanges, TerminalUpdate.forLines] using hlines
  simp [TerminalPatchChanges.rowsOrRowMetadataChanged, hrows]

theorem tallUpdate_sendable (rows : Nat) : (tallUpdate rows).Sendable where
  surfaceKnown := rfl
  cursorKnown := rfl
  trackingKnown := rfl
  formatKnown := rfl
  promptsKnown := by
    intro prompt hprompt
    rw [List.eq_of_mem_replicate hprompt]
    rfl
  contentKnown := by
    simp only [tallUpdate, TerminalUpdate.plain, plainRowRuns, List.forall_mem_map,
      List.forall_mem_singleton]
    exact fun _ _ => rfl
  stylesKnown := by
    simp only [tallUpdate, TerminalUpdate.plain, plainRowRuns, List.forall_mem_map,
      List.forall_mem_singleton]
    exact fun _ _ => Nat.zero_lt_one

theorem tallUpdate_kind (rows : Nat) (h : 0 < rows) :
    (updateChanges blankPane (tallUpdate rows) false).surfaceChanged = true ∧
      terminalPatchKind (updateChanges blankPane (tallUpdate rows) false) = .replaceRows := by
  have hrows := tallUpdate_changes h
  have hkind : (updateChanges blankPane (tallUpdate rows) false).surfaceKindChanged = false := rfl
  have hstyles : (updateChanges blankPane (tallUpdate rows) false).stylesChanged = false := rfl
  have hcolors : (updateChanges blankPane (tallUpdate rows) false).colorsChanged = false := rfl
  have hforce : (updateChanges blankPane (tallUpdate rows) false).forceFullRefresh = false := rfl
  have hcount : (updateChanges blankPane (tallUpdate rows) false).rowCountChanged = false := rfl
  simp [TerminalPatchChanges.surfaceChanged, terminalPatchKind, hrows, hkind, hstyles, hcolors, hforce,
    hcount]

/-- The first row is sent twice, which a client rejects. -/
theorem tallUpdate_not_reached {rows : Nat} (h : 2 ^ 32 < rows) :
    ¬ PatchReaches blankPane.clientSurface blankPane.surfaceVersion
      (applyTerminalUpdate blankPane (tallUpdate rows) false).1 := by
  rintro ⟨reached, happly, -⟩
  obtain ⟨hchanged, hkind⟩ := tallUpdate_kind rows (by omega)
  have hpatch : (applyTerminalUpdate blankPane (tallUpdate rows) false).1.lastPatchKind =
      .replaceRows := by
    simp [applyTerminalUpdate_eq, hchanged, hkind]
  have hnodup := rows_nodup_of_applyPatch (congrArg some hpatch) happly
  rw [patchContent_rowUpdates_replaceRows hpatch] at hnodup
  simp only [List.map_map, Function.comp_def, PaneSurface.rowContent_row, UInt32.ofNat_toNat,
    List.map_id'] at hnodup
  have hindices : (applyTerminalUpdate blankPane (tallUpdate rows) false).1.lastRowUpdateIndices =
      (allRowIndices rows).filter fun row => row.toNat < 1 := by
    have hlen : (blankPane.surfaceLines.length != (tallUpdate rows).forLines.surfaceLines.length) =
        true := by
      simp only [blankPane, tallUpdate, TerminalUpdate.plain, TerminalUpdate.forLines, List.length_nil,
        List.length_replicate, bne_iff_ne, ne_eq]
      omega
    simp only [applyTerminalUpdate_eq, hchanged, hkind, if_true, surfaceRowUpdateIndices, hlen]
    simp [tallUpdate, TerminalUpdate.plain, TerminalUpdate.forLines, blankPane, newPaneFromTemplate]
  rw [hindices] at hnodup
  have hsub := (allRowIndices_repeats h).filter fun row => decide (row.toNat < 1)
  exact absurd (hnodup.sublist hsub) (by decide)

/-- The two palettes first differ at their last entry. -/
theorem paletteDiff_last (entries : Nat) :
    paletteDiff (List.replicate entries 0 ++ [0]) (List.replicate entries 0 ++ [1]) =
      some { start := UInt32.ofNat entries, colors := [1] } := by
  have hne : List.replicate entries (0 : UInt32) ++ [0] ≠ List.replicate entries 0 ++ [1] := by simp
  have hzip : (List.replicate entries (0 : UInt32) ++ [0]).zip (List.replicate entries (0 : UInt32) ++ [1]) =
      List.replicate entries (0, 0) ++ [(0, 1)] := by
    rw [List.zip_append (by simp), List.zip_replicate']
    rfl
  have hfind : (List.replicate entries ((0, 0) : UInt32 × UInt32) ++ [(0, 1)]).findIdx?
      (fun pair : UInt32 × UInt32 => pair.1 != pair.2) = some entries := by
    rw [List.findIdx?_append, List.findIdx?_replicate]
    simp
  simp only [paletteDiff, hne, if_false, hzip, hfind, Option.getD_some]
  simp

/-- An accepted color patch leaves the materialized colors. -/
theorem colors_of_applyPatch {held reached : ClientPaneSurface} {update : SurfaceUpdate}
    {colors : TerminalColorSummary} (hkind : update.patchKind = some .colorOnly)
    (hcolors : update.colors = some colors) (h : held.applyPatch update = .ok reached) :
    colors.materialize held.colors = .ok reached.colors := by
  simp only [ClientPaneSurface.applyPatch, hkind, hcolors, check_bind_eq_ok, Option.some.injEq,
    Protocol.PatchKind.distinct, if_false, if_true, Option.elim_some, ok_bind] at h
  obtain ⟨-, hrest⟩ := h
  obtain ⟨materialized, hmaterialized, hreached⟩ := bind_eq_ok.mp hrest
  rw [← Except.ok.inj hreached, hmaterialized]

theorem paletteUpdate_kind (entries : Nat) :
    (updateChanges (palettePane entries) (paletteUpdate entries) false).surfaceChanged = true ∧
      terminalPatchKind (updateChanges (palettePane entries) (paletteUpdate entries) false) =
        .colorOnly := by
  have hcolors :
      (updateChanges (palettePane entries) (paletteUpdate entries) false).colorsChanged = true := by
    simp [updateChanges, terminalPatchChanges, TerminalUpdate.forLines, palettePane, paletteUpdate]
  have hrows : (updateChanges (palettePane entries) (paletteUpdate entries)
      false).rowsOrRowMetadataChanged = false := rfl
  have hkind : (updateChanges (palettePane entries) (paletteUpdate entries)
      false).surfaceKindChanged = false := rfl
  have hstyles : (updateChanges (palettePane entries) (paletteUpdate entries)
      false).stylesChanged = false := rfl
  have hforce : (updateChanges (palettePane entries) (paletteUpdate entries)
      false).forceFullRefresh = false := rfl
  have hcount : (updateChanges (palettePane entries) (paletteUpdate entries)
      false).rowCountChanged = false := rfl
  simp [TerminalPatchChanges.surfaceChanged, terminalPatchKind, hrows, hkind, hstyles, hcolors, hforce,
    hcount]

/-- The start of the difference wraps around to the first entry: the client keeps one color. -/
theorem paletteUpdate_not_reached {entries : Nat} (hwrap : UInt32.ofNat entries = 0)
    (hpos : 0 < entries) :
    ¬ PatchReaches (palettePane entries).clientSurface (palettePane entries).surfaceVersion
      (applyTerminalUpdate (palettePane entries) (paletteUpdate entries) false).1 := by
  rintro ⟨reached, happly, hsnapshot⟩
  obtain ⟨hchanged, hkind⟩ := paletteUpdate_kind entries
  have hpatch : (applyTerminalUpdate (palettePane entries) (paletteUpdate entries) false).1.lastPatchKind =
      .colorOnly := by
    simp [applyTerminalUpdate_eq, hchanged, hkind]
  have hdiff : (applyTerminalUpdate (palettePane entries) (paletteUpdate entries)
      false).1.lastPaletteDiff = some { start := 0, colors := [1] } := by
    simp only [applyTerminalUpdate_eq, hchanged, hkind, and_self, if_true]
    rw [← hwrap]
    exact paletteDiff_last entries
  have hmaterialize := colors_of_applyPatch (congrArg some hpatch)
    (patchContent_colors_colorOnly hpatch) happly
  rw [hdiff] at hmaterialize
  have hpalette : reached.colors.paletteRgba = [1] := by
    rw [← Except.ok.inj hmaterialize]
    rfl
  obtain ⟨-, rfl⟩ := (PaneState.fromSnapshot_eq_ok _).mp hsnapshot
  have hlen := congrArg List.length hpalette
  simp [PaneState.clientSurface, TerminalColors.summary, decodedTerminalColors, buildTerminalColors,
    applyTerminalUpdate_eq, paletteUpdate] at hlen
  omega

theorem planning_limit_runs :
    ¬ PlanningSoundFor (fun _ update => update.surfaceLines.length ≤ 2 ^ 32 ∧
      update.colors.paletteRgba.length ≤ 2 ^ 32) := by
  intro h
  have hpub : mixedRunsPane.Publishable := ⟨rfl, rfl, rfl, rfl, by decide, by decide⟩
  refine mixedRuns_not_reached (h mixedRunsPane repairedRunsUpdate _ ⟨rfl, rfl, rfl, rfl⟩ (by decide)
    (mixedRunsPane.fromSnapshot_eq_ok.mpr ⟨hpub, rfl⟩) (by decide) (by decide) rfl ?_ (by decide)
    (by decide) (by decide))
  exact ⟨rfl, rfl, rfl, rfl, by decide, by decide, by decide⟩

theorem planning_limit_rows {rows : Nat} (hrows : 2 ^ 32 < rows) :
    ¬ PlanningSoundFor (fun pane update =>
      pane.surfaceRowRuns.map cellRunsText = pane.surfaceLines ∧
        update.colors.paletteRgba.length ≤ 2 ^ 32) := by
  intro h
  have hpub : blankPane.Publishable := ⟨rfl, rfl, rfl, rfl, by decide, by decide⟩
  obtain ⟨hchanged, hkind⟩ := tallUpdate_kind rows (by omega)
  refine tallUpdate_not_reached hrows (h blankPane (tallUpdate rows) _
    ⟨rfl, rfl, rfl, rfl⟩ (by decide) (blankPane.fromSnapshot_eq_ok.mpr ⟨hpub, rfl⟩) (by decide)
    (Nat.zero_le _) rfl (tallUpdate_sendable _) ?_ ?_ ⟨rfl, by simp [tallUpdate, TerminalUpdate.plain,
      TerminalColors.default]⟩)
  · rw [applyTerminalUpdate_version, if_pos hchanged]
    rfl
  · simp [applyTerminalUpdate_eq, hchanged, hkind]

theorem planning_limit_palette (entries : Nat) (hwrap : UInt32.ofNat entries = 0) (hpos : 0 < entries) :
    ¬ PlanningSoundFor (fun pane update =>
      pane.surfaceRowRuns.map cellRunsText = pane.surfaceLines ∧
        update.surfaceLines.length ≤ 2 ^ 32) := by
  intro h
  have hpub : (palettePane entries).Publishable :=
    ⟨rfl, rfl, rfl, rfl, Nat.zero_le _, fun _ h => (List.not_mem_nil h).elim⟩
  have hsend : (paletteUpdate entries).Sendable :=
    ⟨rfl, rfl, rfl, rfl, fun _ h => (List.not_mem_nil h).elim, fun _ h => (List.not_mem_nil h).elim,
      fun _ h => (List.not_mem_nil h).elim⟩
  obtain ⟨hchanged, hkind⟩ := paletteUpdate_kind entries
  refine paletteUpdate_not_reached hwrap hpos (h (palettePane entries) (paletteUpdate entries) _
    ⟨rfl, rfl, rfl, rfl⟩ (Nat.zero_le _)
    ((palettePane entries).fromSnapshot_eq_ok.mpr ⟨hpub, rfl⟩) ?_ (Nat.zero_le _) ?_ hsend ?_ ?_
    ⟨rfl, Nat.zero_le _⟩)
  · exact Nat.lt_of_lt_of_le (show 1 + 1 < 3 by decide) (by decide)
  · simp [palettePane, paletteUpdate]
  · rw [applyTerminalUpdate_version, if_pos hchanged]
    rfl
  · simp [applyTerminalUpdate_eq, hchanged, hkind]

/-- **Each bound is needed.** Soundness fails as soon as one of the three conditions is dropped: for
a pane whose runs do not all spell their lines, an update of more rows and an update of more palette
entries than a `u32` counts. -/
theorem patch_planning_limits :
    ¬ PlanningSoundFor (fun _ update => update.surfaceLines.length ≤ 2 ^ 32 ∧
        update.colors.paletteRgba.length ≤ 2 ^ 32) ∧
      ¬ PlanningSoundFor (fun pane update =>
        pane.surfaceRowRuns.map cellRunsText = pane.surfaceLines ∧
          update.colors.paletteRgba.length ≤ 2 ^ 32) ∧
      ¬ PlanningSoundFor (fun pane update =>
        pane.surfaceRowRuns.map cellRunsText = pane.surfaceLines ∧
          update.surfaceLines.length ≤ 2 ^ 32) :=
  ⟨planning_limit_runs, planning_limit_rows (Nat.lt_succ_self _),
    planning_limit_palette (2 ^ 32) (by decide) (Nat.two_pow_pos 32)⟩

end Nmux
