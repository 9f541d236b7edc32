import Nmux.Patch.Soundness
import Nmux.Lib.Run

/-! The retained patch over a run of updates. A pane rebuilds the patch of its current version on
demand, so updates that do not bump the version must leave it alone. They do, except that every such
update drops the palette difference: a color-only patch survives only until the next update that
changes nothing. -/
namespace Nmux

open Client
open Lib

/-! ### Runs -/

/-- The step condition. The update is one a client can know, with the run's row count and palette
length; the version can still be bumped; and an update that leaves the surface as it is does not find
a palette difference to drop. -/
structure StepKeepsPatch (rowCount paletteLength : Nat) (pane : PaneState) (update : TerminalUpdate) :
    Prop where
  sendable : update.Sendable
  rows : update.surfaceLines.length = rowCount
  palette : update.colors.paletteRgba.length = paletteLength
  version : pane.surfaceVersion.toNat + 1 < 2 ^ 64
  diff : pane.lastPaletteDiff ≠ none → (updateChanges pane update false).surfaceChanged = true

/-- What a run needs of the pane it starts from, and keeps: aligned rows, no more of them than an
update brings, and the palette length of the updates. -/
structure RunPane (rowCount paletteLength : Nat) (pane : PaneState) : Prop where
  aligned : pane.Aligned
  lines : pane.surfaceLines.length ≤ rowCount
  rows : rowCount ≤ pane.rows.toNat
  palette : pane.colors.paletteRgba.length = paletteLength

section
variable {rowCount paletteLength : Nat} {pane : PaneState} {update : TerminalUpdate}

theorem RunPane.step (h : RunPane rowCount paletteLength pane)
    (hok : StepKeepsPatch rowCount paletteLength pane update) :
    RunPane rowCount paletteLength (updateStep pane update) where
  aligned := applyTerminalUpdate_aligned pane update false
  lines := by
    rw [updateStep, applyTerminalUpdate_surfaceLines, ← hok.rows]
    exact List.length_take_le' _ _
  rows := by
    rw [updateStep, applyTerminalUpdate_rows]
    exact h.rows
  palette := by
    simp [updateStep, applyTerminalUpdate_eq, hok.palette]

theorem RunPane.fits (h : RunPane rowCount paletteLength pane)
    (hok : StepKeepsPatch rowCount paletteLength pane update) (hpalette : paletteLength ≤ 2 ^ 32) :
    UpdateFits pane update where
  rows := hok.rows ▸ h.lines
  rowCount := by
    have := h.rows
    have := pane.rows.toNat_lt
    rw [hok.rows]
    omega
  palette := hok.palette.trans h.palette.symm
  paletteCount := hok.palette ▸ hpalette

theorem RunPane.lines_fit (h : RunPane rowCount paletteLength pane) :
    pane.surfaceLines.length ≤ pane.rows.toNat :=
  h.lines.trans h.rows

/-- A step leaves the version or adds one to it, and leaves it exactly if the surface is the same. -/
theorem updateStep_version (hok : StepKeepsPatch rowCount paletteLength pane update) :
    (updateStep pane update).surfaceVersion.toNat =
      pane.surfaceVersion.toNat + if (updateChanges pane update false).surfaceChanged then 1 else 0 := by
  rw [updateStep, applyTerminalUpdate_version]
  split
  · rw [satAdd64_one_toNat, if_pos hok.version]
  · rfl

/-- A run moves the version forward only. -/
theorem run_version_le {pane : PaneState} {updates : List TerminalUpdate}
    (hok : Along updateStep (StepKeepsPatch rowCount paletteLength) pane updates) :
    pane.surfaceVersion.toNat ≤ (run updateStep pane updates).surfaceVersion.toNat := by
  induction updates generalizing pane with
  | nil => exact Nat.le_refl _
  | cons update rest ih =>
    have hstep := updateStep_version hok.1
    have hrest := ih hok.2
    rw [run_cons]
    omega

/-- **A run that ends at the version it started from** sent the same surface and kept the same patch
all along. -/
theorem run_unchanged {pane : PaneState} {updates : List TerminalUpdate}
    (hpane : RunPane rowCount paletteLength pane)
    (hok : Along updateStep (StepKeepsPatch rowCount paletteLength) pane updates)
    (hversion : (run updateStep pane updates).surfaceVersion = pane.surfaceVersion) :
    (run updateStep pane updates).paneSurface = pane.paneSurface ∧
      (run updateStep pane updates).lastPatchKind = pane.lastPatchKind ∧
      (run updateStep pane updates).lastRowUpdateIndices = pane.lastRowUpdateIndices ∧
      (run updateStep pane updates).lastPaletteDiff = pane.lastPaletteDiff := by
  induction updates generalizing pane with
  | nil => exact ⟨rfl, rfl, rfl, rfl⟩
  | cons update rest ih =>
    rw [run_cons] at hversion ⊢
    have hstep := updateStep_version hok.1
    have hrest := run_version_le hok.2
    rw [hversion] at hrest
    have hsame : (updateChanges pane update false).surfaceChanged = false := by
      by_contra hchanged
      simp only [Bool.not_eq_false] at hchanged
      rw [if_pos hchanged] at hstep
      omega
    have hdiff : pane.lastPaletteDiff = none := by
      by_contra hsome
      simp [hok.1.diff hsome] at hsame
    obtain ⟨ssurface, skind, sindices, sdiff⟩ :=
      updateStep_unchanged hpane.lines_fit hsame
    have hkept : (updateStep pane update).surfaceVersion = pane.surfaceVersion :=
      congrArg PaneSurface.version ssurface
    obtain ⟨rsurface, rkind, rindices, rdiff⟩ :=
      ih (hpane.step hok.1) hok.2 (hversion.trans hkept.symm)
    exact ⟨rsurface.trans ssurface, rkind.trans skind, rindices.trans sindices,
      rdiff.trans (sdiff.trans hdiff.symm)⟩

end

/-- **The retained patch stays valid until the next version.** The run splits at the state a client
mirrors, at the update that bumps the version, and at the state that sends the patch; in between are
any number of updates that leave the version as it is. -/
theorem retained_patch_valid {rowCount paletteLength : Nat} {pane : PaneState}
    (before idle : List TerminalUpdate) (bump : TerminalUpdate) (after : List TerminalUpdate)
    {held : ClientPaneSurface}
    (hpane : RunPane rowCount paletteLength pane) (hpalette : paletteLength ≤ 2 ^ 32)
    (hok : Along updateStep (StepKeepsPatch rowCount paletteLength) pane
      (before ++ idle ++ bump :: after)) :
    let mirrored := run updateStep pane before
    let previous := run updateStep mirrored idle
    let bumped := updateStep previous bump
    let current := run updateStep bumped after
    ClientPaneSurface.fromSnapshot mirrored.snapshotContent = .ok held →
    previous.surfaceVersion = mirrored.surfaceVersion →
    bumped.surfaceVersion = previous.surfaceVersion + 1 →
    current.surfaceVersion = bumped.surfaceVersion →
    current.lastPatchKind ≠ .fullRefreshRequired →
    PatchReaches held mirrored.surfaceVersion current := by
  intro mirrored previous bumped current hheld hidle hbump hcurrent hfull
  obtain ⟨hfirst, hbumpok, hafter⟩ := (along_append updateStep).mp hok
  obtain ⟨hbefore, hidleok⟩ := (along_append updateStep).mp hfirst
  rw [run_append] at hbumpok hafter
  have hmirrored : RunPane rowCount paletteLength mirrored := hbefore.invariant (fun _ _ h => h.step) hpane
  have hprevious : RunPane rowCount paletteLength previous :=
    hidleok.invariant (fun _ _ h => h.step) hmirrored
  -- the client's surface is also the one of the pane just before the bump
  obtain ⟨hsurface, -, -, -⟩ := run_unchanged hmirrored hidleok hidle
  obtain ⟨-, rfl⟩ := mirrored.fromSnapshot_eq_ok.mp hheld
  rw [← clientSurface_congr hsurface, ← hidle]
  -- the updates after the bump leave the surface and the patch
  obtain ⟨csurface, ckind, cindices, cdiff⟩ := run_unchanged (hprevious.step hbumpok) hafter hcurrent
  have hchanged := surfaceChanged_of_bump hbump
  have hkind : bumped.lastPatchKind = terminalPatchKind (updateChanges previous bump false) := by
    simp [bumped, updateStep, applyTerminalUpdate_eq, hchanged]
  have hretained : RetainedPatch previous bumped :=
    retainedPatch_of_update hprevious.aligned hbumpok.version (hprevious.fits hbumpok hpalette)
      hbumpok.sendable hchanged (by rw [← hkind, ← ckind]; exact hfull)
  have hpublished : ClientPaneSurface.fromSnapshot bumped.snapshotContent = .ok bumped.clientSurface :=
    bumped.fromSnapshot_eq_ok.mpr ⟨applyTerminalUpdate_publishable previous false hbumpok.sendable, rfl⟩
  have hpub : current.Publishable ∧ bumped.clientSurface = current.clientSurface := by
    rw [← current.fromSnapshot_eq_ok, ← hpublished]
    exact congrArg (fun surface => ClientPaneSurface.fromSnapshot (decodedSnapshot surface.snapshotTable))
      csurface
  exact ⟨_, (hretained.congr csurface ckind cindices cdiff).applyPatch hpub.1,
    current.fromSnapshot_eq_ok.mpr ⟨hpub.1, rfl⟩⟩

/-- A shell pane that echoes a character, followed by an update that changes nothing. -/
theorem retained_patch_valid_echo :
    let pane := newPaneFromTemplate "pane-2" (.local "local" (.new "sh")) 80 24
    let echo := TerminalUpdate.plain .replaceRows .main { pane.cursor with row := 2, col := 1 }
      (pane.surfaceLines ++ ["x"]) (pane.scrollbackLines ++ ["x"])
    PatchReaches pane.clientSurface pane.surfaceVersion (run updateStep pane [echo, echo]) := by
  intro pane echo
  have hpub : pane.Publishable := ⟨rfl, rfl, rfl, rfl, by decide, by decide⟩
  have hsend : echo.Sendable := ⟨rfl, rfl, rfl, rfl, by decide, by decide, by decide⟩
  have hpane : RunPane 3 0 pane := ⟨⟨by decide, rfl, rfl, rfl⟩, by decide, by decide, rfl⟩
  refine retained_patch_valid [] [] echo [echo] hpane
    (by decide) ⟨⟨hsend, rfl, rfl, by decide, by decide⟩, ⟨hsend, rfl, rfl, by decide, by decide⟩,
      trivial⟩ (pane.fromSnapshot_eq_ok.mpr ⟨hpub, rfl⟩) rfl (by decide) (by decide) (by decide)

/-- A pane with a palette of one color. -/
def onePaletteColor : PaneState :=
  { newPaneFromTemplate "pane-2" (.local "local" (.new "sh")) 80 24 with
    colors := { TerminalColors.default with paletteRgba := [0] } }

/-- The engine's answer when only the color changes, and again when nothing does. -/
def recolor : TerminalUpdate :=
  { TerminalUpdate.plain .replaceRows .main onePaletteColor.cursor onePaletteColor.surfaceLines
      onePaletteColor.scrollbackLines with
    colors := { TerminalColors.default with paletteRgba := [1] } }

/-- **The palette difference does not survive an update that changes nothing.** The second update
returns false and bumps no version, but the patch of the version no longer carries the new color: a
client one version behind keeps the old palette. -/
theorem retained_patch_lost :
    (applyTerminalUpdate (updateStep onePaletteColor recolor) recolor false).2 = false ∧
      (updateStep onePaletteColor recolor).surfaceVersion = onePaletteColor.surfaceVersion + 1 ∧
      (updateStep onePaletteColor recolor).lastPatchKind = .colorOnly ∧
      PatchReaches onePaletteColor.clientSurface onePaletteColor.surfaceVersion
        (updateStep onePaletteColor recolor) ∧
      ¬ PatchReaches onePaletteColor.clientSurface onePaletteColor.surfaceVersion
        (run updateStep onePaletteColor [recolor, recolor]) := by
  have hsend : recolor.Sendable := ⟨rfl, rfl, rfl, rfl, by decide, by decide, by decide⟩
  have hretained : RetainedPatch onePaletteColor (updateStep onePaletteColor recolor) :=
    retainedPatch_of_update ⟨by decide, rfl, rfl, rfl⟩ (by decide)
      ⟨by decide, by decide, by decide, by decide⟩ hsend (by decide) (by decide)
  have hpub := applyTerminalUpdate_publishable onePaletteColor false hsend
  refine ⟨by decide, by decide, by decide, ?_, ?_⟩
  · exact ⟨_, hretained.applyPatch hpub, PaneState.fromSnapshot_eq_ok _ |>.mpr ⟨hpub, rfl⟩⟩
  · rintro ⟨reached, happly, hsnapshot⟩
    obtain ⟨-, rfl⟩ := (PaneState.fromSnapshot_eq_ok _).mp hsnapshot
    have hpalette := congrArg (fun result => result.toOption.map (·.colors.paletteRgba)) happly
    revert hpalette
    decide

end Nmux
