import Nmux.Publish.Interim
import Nmux.Core.SessionNodes

/-! Panes whose snapshot a client accepts. `Published` is the invariant of a pane, kept by everything
that writes to one: an engine's update, a resize, a policy change, the creation of a pane and a split.
The last two need rows enough for the lines they leave, and that is all they need. -/
namespace Nmux

open Client

/-- The row bound, the parallel vectors, the row indices and the enumerations and styles of a pane
whose snapshot a client accepts. -/
structure PaneState.Published (pane : PaneState) : Prop where
  aligned : pane.Aligned
  publishable : pane.Publishable
  scrollbackRuns : pane.scrollbackRowRuns.map cellRunsText = pane.scrollbackLines
  scrollbackPrompts : pane.scrollbackSemanticPrompts.length = pane.scrollbackLines.length
  scrollbackDirty : pane.scrollbackDirtyRows.length = pane.scrollbackLines.length
  scrollbackKitty : pane.scrollbackKittyPlaceholders.length = pane.scrollbackLines.length
  indices : pane.lastPatchKind = .replaceRows →
    ∀ row ∈ pane.lastRowUpdateIndices, row.toNat < pane.rows.toNat

theorem PaneState.Published.accepted {pane : PaneState} (h : pane.Published) :
    ClientPaneSurface.fromSnapshot pane.snapshotContent = .ok pane.clientSurface :=
  pane.fromSnapshot_eq_ok.mpr ⟨h.publishable, rfl⟩

theorem PaneState.Published.knownInput {pane : PaneState} (h : pane.Published) :
    KnownInput pane.terminalInput where
  surface := h.publishable.surfaceKnown
  cursor := h.publishable.cursorKnown
  modes := ⟨h.publishable.trackingKnown, h.publishable.formatKnown⟩

/-- Host, version and resize policy are not among what a client checks. -/
theorem PaneState.Published.unchecked {pane : PaneState} (h : pane.Published) (host : HostSpec)
    (surfaceVersion : UInt64) (resizePolicy : Protocol.ResizePolicy) :
    { pane with host, surfaceVersion, resizePolicy }.Published where
  aligned := ⟨h.aligned.runs, h.aligned.prompts, h.aligned.dirty, h.aligned.kitty⟩
  publishable := { h.publishable with }
  scrollbackRuns := h.scrollbackRuns
  scrollbackPrompts := h.scrollbackPrompts
  scrollbackDirty := h.scrollbackDirty
  scrollbackKitty := h.scrollbackKitty
  indices := h.indices

/-! ### Updates -/

section
variable {pane : PaneState} {update : TerminalUpdate}

/-- The row indices of an updated pane are inside it, if those it may keep were. -/
theorem applyTerminalUpdate_indices {force : Bool}
    (hkept : (updateChanges pane update force).surfaceChanged = false →
      pane.lastPatchKind = .replaceRows →
        ∀ row ∈ pane.lastRowUpdateIndices, row.toNat < pane.rows.toNat) :
    (applyTerminalUpdate pane update force).1.lastPatchKind = .replaceRows →
      ∀ row ∈ (applyTerminalUpdate pane update force).1.lastRowUpdateIndices,
        row.toNat < (applyTerminalUpdate pane update force).1.rows.toNat := by
  intro hkind row hrow
  rw [applyTerminalUpdate_rows]
  cases hchanged : (updateChanges pane update force).surfaceChanged with
  | false =>
    simp only [applyTerminalUpdate_eq, hchanged, Bool.false_eq_true, if_false] at hkind hrow
    exact hkept hchanged hkind row hrow
  | true =>
    simp only [applyTerminalUpdate_eq, hchanged, if_true] at hkind hrow
    rw [hkind, if_pos rfl] at hrow
    simpa using (List.mem_filter.mp hrow).2

/-- A plain update publishes the pane. -/
theorem applyTerminalUpdate_published {rows : UInt32} {force : Bool} (h : PlainUpdate rows update)
    (hkept : (updateChanges pane update force).surfaceChanged = false →
      pane.lastPatchKind = .replaceRows →
        ∀ row ∈ pane.lastRowUpdateIndices, row.toNat < pane.rows.toNat) :
    (applyTerminalUpdate pane update force).1.Published where
  aligned := applyTerminalUpdate_aligned pane update force
  publishable := applyTerminalUpdate_publishable pane force h.sendable
  scrollbackRuns := by simp [applyTerminalUpdate_eq, h.replaces, TerminalUpdate.forLines]
  scrollbackPrompts := by simp [applyTerminalUpdate_eq, h.replaces, TerminalUpdate.forLines]
  scrollbackDirty := by simp [applyTerminalUpdate_eq, h.replaces, TerminalUpdate.forLines]
  scrollbackKitty := by simp [applyTerminalUpdate_eq, h.replaces, TerminalUpdate.forLines]
  indices := applyTerminalUpdate_indices hkept

theorem PaneState.Published.output {rows : UInt32} (hpane : pane.Published)
    (h : PlainUpdate rows update) : (applyTerminalUpdate pane update false).1.Published :=
  applyTerminalUpdate_published h fun _ => hpane.indices

/-- A forced update always changes the surface, so a resized pane keeps no old indices. -/
theorem resizedPane_published {cols rows : UInt32} (h : PlainUpdate rows update) :
    (Session.resizedPane cols rows update pane).Published :=
  applyTerminalUpdate_published h fun hchanged => by
    simp [updateChanges, terminalPatchChanges, TerminalPatchChanges.surfaceChanged] at hchanged

end

/-! ### New panes and splits -/

theorem toNat_lt_of_mem_allRowIndices {len : Nat} {row : UInt32} (h : row ∈ allRowIndices len) :
    row.toNat < len := by
  obtain ⟨i, hi, rfl⟩ := List.mem_map.mp h
  have hmod : (UInt32.ofNat i).toNat ≤ i := Nat.mod_le _ _
  exact hmod.trans_lt (List.mem_range.mp hi)

theorem newPaneFromTemplate_published (id : String) (host : HostSpec) (cols rows : UInt32)
    (h : 2 ≤ rows.toNat) : (newPaneFromTemplate id host cols rows).Published where
  aligned := ⟨by simp [newPaneFromTemplate], rfl, rfl, rfl⟩
  publishable := {
    surfaceKnown := rfl
    cursorKnown := rfl
    trackingKnown := rfl
    formatKnown := rfl
    rowsFit := h
    stylesKnown := by
      have hruns : (newPaneFromTemplate id host cols rows).paneSurface.rowRuns =
          plainRowRuns (newPaneFromTemplate id host cols rows).surfaceLines := by
        simp [PaneState.paneSurface, newPaneFromTemplate, rowRunsForLines, plainRowRuns]
      rw [hruns]
      exact plainRowRuns_forall fun _ => Nat.lt_of_lt_of_le Nat.zero_lt_one (Nat.le_max_right _ _) }
  scrollbackRuns := by simp [newPaneFromTemplate]
  scrollbackPrompts := rfl
  scrollbackDirty := rfl
  scrollbackKitty := rfl
  indices := by
    intro _ row hrow
    have hlt : row.toNat < 2 := toNat_lt_of_mem_allRowIndices hrow
    exact hlt.trans_le h

/-- The halves of a horizontal split add up, a vertical one keeps the rows. -/
theorem splitContainer_rows {pane : PaneState} {axis : Protocol.SplitAxis} {newPaneId : String}
    {sizes : SplitSizes} (h : splitChildSizes pane.cols pane.rows axis = some sizes) :
    (splitContainer pane axis newPaneId sizes).rows = pane.rows := by
  have hmax := pane.rows.toNat_lt
  rw [splitChildSizes] at h
  split at h
  case isTrue haxis =>
    obtain rfl := Option.some.inj h
    have hdiv : (pane.rows / 2).toNat = pane.rows.toNat / 2 := UInt32.toNat_div _ _
    have hsub : (pane.rows - pane.rows / 2).toNat = pane.rows.toNat - pane.rows.toNat / 2 := by
      rw [UInt32.toNat_sub_of_le _ _ (UInt32.le_iff_toNat_le.mpr (by omega)), hdiv]
    have hsum : (pane.rows / 2).toNat + (pane.rows - pane.rows / 2).toNat < 2 ^ 32 := by omega
    simp only [splitContainer, haxis.1, if_true, satAdd32, hsum]
    exact UInt32.toNat_inj.mp (by rw [UInt32.toNat_add]; omega)
  case isFalse =>
    split at h
    case isTrue haxis =>
      obtain rfl := Option.some.inj h
      have hne : ¬ (Protocol.SplitAxis.vertical = Protocol.SplitAxis.horizontal) := by decide
      simp only [splitContainer, haxis.1, hne, if_false]
      exact ite_self _
    case isFalse => simp at h

/-- The container keeps the terminal state and the rows, and asks for a full refresh. -/
theorem PaneState.Published.container {pane : PaneState} (h : pane.Published)
    {axis : Protocol.SplitAxis} {newPaneId : String} {sizes : SplitSizes}
    (hsizes : splitChildSizes pane.cols pane.rows axis = some sizes) :
    (splitContainer pane axis newPaneId sizes).Published where
  aligned := ⟨h.aligned.runs, h.aligned.prompts, h.aligned.dirty, h.aligned.kitty⟩
  publishable := {
    h.publishable with
    rowsFit := (splitContainer_rows hsizes).symm ▸ h.publishable.rowsFit }
  scrollbackRuns := h.scrollbackRuns
  scrollbackPrompts := h.scrollbackPrompts
  scrollbackDirty := h.scrollbackDirty
  scrollbackKitty := h.scrollbackKitty
  indices := fun hkind => absurd hkind (by simp [splitContainer])

/-- The split pane stays published if its lines fit its new rows. -/
theorem PaneState.Published.existing {pane : PaneState} (h : pane.Published) {sizes : SplitSizes}
    (hfit : pane.surfaceLines.length ≤ sizes.firstRows.toNat) :
    (splitExisting pane sizes).Published where
  aligned := ⟨h.aligned.runs, h.aligned.prompts, h.aligned.dirty, h.aligned.kitty⟩
  publishable := { h.publishable with rowsFit := hfit }
  scrollbackRuns := h.scrollbackRuns
  scrollbackPrompts := h.scrollbackPrompts
  scrollbackDirty := h.scrollbackDirty
  scrollbackKitty := h.scrollbackKitty
  indices := fun hkind => absurd hkind (by simp [splitExisting])

end Nmux
