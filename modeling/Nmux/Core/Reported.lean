import Nmux.Core.PaneUpdate
import Nmux.Core.Scrollback

/-! What an update reports. The comparisons are made against the update as it came and the surface is
cut to the pane afterwards, so an update with more lines than the pane has rows is a change each time
it is applied. -/
namespace Nmux

variable {pane : PaneState} {update : TerminalUpdate}

theorem applyTerminalUpdate_reported : (applyTerminalUpdate pane update false).2 = false ↔
    (updateChanges pane update false).surfaceChanged = false ∧
      scrollbackChanged pane update.forLines = false :=
  Bool.or_eq_false_iff

/-- The surface an update is compared with is the update's own. -/
structure PaneState.ShowsSurface (pane : PaneState) (update : TerminalUpdate) : Prop where
  surface : pane.surface = update.surface
  styles : pane.styles = update.styles
  lines : pane.surfaceLines = update.surfaceLines
  rowRuns : pane.surfaceRowRuns = update.forLines.surfaceRowRuns
  semanticPrompts : pane.surfaceSemanticPrompts = update.forLines.surfaceSemanticPrompts
  dirtyRows : pane.surfaceDirtyRows = update.forLines.surfaceDirtyRows
  kittyPlaceholders : pane.surfaceKittyPlaceholders = update.forLines.surfaceKittyPlaceholders
  cursor : pane.cursor = update.cursor
  modes : pane.modes = update.modes
  title : pane.terminalTitle = update.title
  workingDirectory : pane.terminalWorkingDirectory = update.workingDirectory
  colors : pane.colors = update.colors

theorem surfaceChanged_eq_false :
    (updateChanges pane update false).surfaceChanged = false ↔ pane.ShowsSurface update := by
  simp only [TerminalPatchChanges.surfaceChanged, TerminalPatchChanges.rowsOrRowMetadataChanged,
    updateChanges, terminalPatchChanges, Bool.or_eq_false_iff, bne_eq_false_iff_eq]
  constructor
  · rintro ⟨⟨⟨⟨⟨⟨⟨⟨-, hsurface⟩, hstyles⟩, ⟨⟨⟨hlines, hruns⟩, hprompts⟩, hdirty⟩, hkitty⟩, hcursor⟩,
      hmodes⟩, htitle⟩, hdir⟩, hcolors⟩
    exact ⟨hsurface, hstyles, hlines, hruns, hprompts, hdirty, hkitty, hcursor, hmodes, htitle, hdir,
      hcolors⟩
  · intro h
    exact ⟨⟨⟨⟨⟨⟨⟨⟨trivial, h.surface⟩, h.styles⟩, ⟨⟨⟨h.lines, h.rowRuns⟩, h.semanticPrompts⟩,
      h.dirtyRows⟩, h.kittyPlaceholders⟩, h.cursor⟩, h.modes⟩, h.title⟩, h.workingDirectory⟩, h.colors⟩

/-- An update that fits is what the pane shows afterwards, and no other is. -/
theorem updateStep_showsSurface :
    (updateStep pane update).ShowsSurface update ↔ update.surfaceLines.length ≤ pane.rows.toNat := by
  constructor
  · intro h
    have hlines := h.lines
    rw [updateStep, applyTerminalUpdate_surfaceLines] at hlines
    rw [← hlines]
    exact List.length_take_le _ _
  · intro hfit
    have hcut : ∀ {α : Type} {rows : List α}, rows.length = update.surfaceLines.length →
        rows.take pane.rows.toNat = rows := fun hlen => List.take_of_length_le (hlen ▸ hfit)
    rw [updateStep, applyTerminalUpdate_eq]
    exact {
      surface := rfl
      styles := rfl
      lines := hcut rfl
      rowRuns := hcut (rowRunsForLines_length ..)
      semanticPrompts := hcut (rowSemanticPromptsForLines_length ..)
      dirtyRows := hcut (rowDirtyFlagsForLines_length ..)
      kittyPlaceholders := hcut (rowKittyPlaceholdersForLines_length ..)
      cursor := rfl
      modes := rfl
      title := rfl
      workingDirectory := rfl
      colors := rfl }

theorem updateStep_scrollbackChanged : scrollbackChanged (updateStep pane update) update.forLines = false := by
  rw [updateStep, applyTerminalUpdate_eq]
  cases hpreserve : update.preserveScrollback with
  | true => simp [scrollbackChanged, TerminalUpdate.forLines, hpreserve]
  | false => simp [scrollbackChanged, TerminalUpdate.forLines, hpreserve]

/-- An update of which the pane shows the surface leaves it. -/
theorem PaneState.ShowsSurface.updateStep_eq (h : pane.ShowsSurface update)
    (hfit : pane.surfaceLines.length ≤ pane.rows.toNat) :
    (updateStep pane update).paneSurface = pane.paneSurface ∧
      (updateStep pane update).surfaceVersion = pane.surfaceVersion := by
  have hunchanged := surfaceChanged_eq_false.mpr h
  refine ⟨(updateStep_unchanged hfit hunchanged).1, ?_⟩
  rw [updateStep, applyTerminalUpdate_version, hunchanged]
  rfl

/-- An update that does not change the history leaves it, if it leaves styles and colors. -/
theorem updateStep_paneScrollback (h : scrollbackChanged pane update.forLines = false)
    (hshows : pane.ShowsSurface update) :
    (updateStep pane update).paneScrollback = pane.paneScrollback ∧
      (updateStep pane update).scrollbackVersion = pane.scrollbackVersion := by
  have hstyles := hshows.styles
  have hcolors := hshows.colors
  rw [updateStep, applyTerminalUpdate_eq, h]
  cases hpreserve : update.preserveScrollback with
  | true => simp [PaneState.paneScrollback, hstyles, hcolors]
  | false =>
    have hsame := h
    simp only [scrollbackChanged, TerminalUpdate.forLines, hpreserve, Bool.not_false, Bool.true_and,
      Bool.or_eq_false_iff, bne_eq_false_iff_eq] at hsame
    obtain ⟨⟨⟨⟨hlines, hruns⟩, hprompts⟩, hdirty⟩, hkitty⟩ := hsame
    simp [PaneState.paneScrollback, TerminalUpdate.forLines, hstyles, hcolors, hlines, hruns, hprompts,
      hdirty, hkitty]

/-- Applied a second time, the update reports and changes nothing; applied once, it reports no change
only if it changes nothing. -/
structure ReportsExactly (pane : PaneState) (update : TerminalUpdate) : Prop where
  again : (applyTerminalUpdate (updateStep pane update) update false).2 = false
  surface : (updateStep (updateStep pane update) update).paneSurface = (updateStep pane update).paneSurface
  scrollback : (updateStep (updateStep pane update) update).paneScrollback =
    (updateStep pane update).paneScrollback
  surfaceVersion : (updateStep (updateStep pane update) update).surfaceVersion =
    (updateStep pane update).surfaceVersion
  scrollbackVersion : (updateStep (updateStep pane update) update).scrollbackVersion =
    (updateStep pane update).scrollbackVersion
  unreported : (applyTerminalUpdate pane update false).2 = false →
    (updateStep pane update).paneSurface = pane.paneSurface ∧
      (updateStep pane update).paneScrollback = pane.paneScrollback

/-- **An update reports its changes exactly if it fits the pane.** -/
theorem reportsExactly_iff (pane : PaneState) (update : TerminalUpdate) :
    ReportsExactly pane update ↔ update.surfaceLines.length ≤ pane.rows.toNat := by
  constructor
  · intro h
    exact updateStep_showsSurface.mp
      (surfaceChanged_eq_false.mp (applyTerminalUpdate_reported.mp h.again).1)
  · intro hfit
    have hshows := updateStep_showsSurface.mpr hfit
    obtain ⟨hsurface, hsurfaceVersion⟩ :=
      hshows.updateStep_eq (applyTerminalUpdate_rows_fit pane update false)
    obtain ⟨hscrollback, hscrollbackVersion⟩ :=
      updateStep_paneScrollback updateStep_scrollbackChanged hshows
    exact {
      again := applyTerminalUpdate_reported.mpr
        ⟨surfaceChanged_eq_false.mpr hshows, updateStep_scrollbackChanged⟩
      surface := hsurface
      scrollback := hscrollback
      surfaceVersion := hsurfaceVersion
      scrollbackVersion := hscrollbackVersion
      unreported := fun hreported => by
        obtain ⟨hunchanged, hhistory⟩ := applyTerminalUpdate_reported.mp hreported
        have hfirst := surfaceChanged_eq_false.mp hunchanged
        exact ⟨(hfirst.updateStep_eq (hfirst.lines ▸ hfit)).1, (updateStep_paneScrollback hhistory hfirst).1⟩ }

/-- One line more than the 24 rows of the first pane. -/
def overfullUpdate : TerminalUpdate :=
  .plain .replaceRows .main ⟨0, 0, true, .block, true⟩ (List.replicate 25 "row") []

/-- The first pane of a new session does not settle under it. -/
theorem not_reportsExactly :
    let pane := newPaneFromTemplate "pane-1" (.local "local" (.new "sh")) 80 24
    pane.Aligned ∧ pane.surfaceLines.length ≤ pane.rows.toNat ∧ ¬ ReportsExactly pane overfullUpdate := by
  refine ⟨⟨by decide, by decide, by decide, by decide⟩, by decide, fun h => ?_⟩
  exact absurd h.again (by decide)

end Nmux
