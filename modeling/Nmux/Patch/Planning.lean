import Nmux.Patch.Retained

/-! Patch planning. One unforced update that bumps the version and does not ask for a full refresh
leaves a pane whose retained patch leads from the pane before it. The kinds are separated once, in
`terminalPatchKind_cases`; the row indices are complete because a row that no comparison tells apart
is sent to a client the same way. -/
namespace Nmux

open Client
open Lib.Check

/-! ### What an engine must return -/

/-- The update has only values a client knows, and its runs name styles of its table. -/
structure TerminalUpdate.Sendable (update : TerminalUpdate) : Prop where
  surfaceKnown : update.surface.known = true
  cursorKnown : update.cursor.shape.known = true
  trackingKnown : update.modes.mouseTrackingMode.known = true
  formatKnown : update.modes.mouseFormat.known = true
  promptsKnown : ∀ prompt ∈ update.surfaceSemanticPrompts, prompt.known = true
  contentKnown : ∀ runs ∈ update.surfaceRowRuns, ∀ run ∈ runs, run.semanticContent.known = true
  stylesKnown : ∀ runs ∈ update.surfaceRowRuns, ∀ run ∈ runs,
    run.styleId.toNat < update.styles.length

/-- The update has at least the pane's lines, a palette of the same length, and no more rows or
palette entries than a 32-bit index can tell apart. -/
structure UpdateFits (pane : PaneState) (update : TerminalUpdate) : Prop where
  rows : pane.surfaceLines.length ≤ update.surfaceLines.length
  rowCount : update.surfaceLines.length ≤ 2 ^ 32
  palette : update.colors.paletteRgba.length = pane.colors.paletteRgba.length
  paletteCount : update.colors.paletteRgba.length ≤ 2 ^ 32

/-- Whatever holds of every run the engine returned and of every plain run holds of the runs of the
normalised update. -/
theorem TerminalUpdate.forLines_runs {update : TerminalUpdate} {P : CellRun → Prop}
    (h : ∀ runs ∈ update.surfaceRowRuns, ∀ run ∈ runs, P run) (hplain : ∀ line, P (.plain line)) :
    ∀ runs ∈ update.forLines.surfaceRowRuns, ∀ run ∈ runs, P run := by
  simp only [forLines, rowRunsForLines_eq]
  split
  case isTrue => exact h
  case isFalse =>
    simp only [plainRowRuns, List.forall_mem_map, List.forall_mem_singleton]
    exact fun line _ => hplain line

theorem TerminalUpdate.Sendable.forLines_prompts {update : TerminalUpdate} (h : update.Sendable) :
    ∀ prompt ∈ update.forLines.surfaceSemanticPrompts, prompt.known = true := by
  simp only [forLines, rowSemanticPromptsForLines]
  split
  case isTrue => exact h.promptsKnown
  case isFalse =>
    intro prompt hprompt
    rw [List.eq_of_mem_replicate hprompt]
    rfl

/-! ### The updated pane -/

section
variable (pane : PaneState) (update : TerminalUpdate) (force : Bool)

/-- An update a client can know leaves a pane whose snapshot it accepts. -/
theorem applyTerminalUpdate_publishable {update : TerminalUpdate} (h : update.Sendable) :
    (applyTerminalUpdate pane update force).1.Publishable where
  surfaceKnown := by simpa [applyTerminalUpdate_eq] using h.surfaceKnown
  cursorKnown := by simpa [applyTerminalUpdate_eq] using h.cursorKnown
  trackingKnown := by simpa [applyTerminalUpdate_eq] using h.trackingKnown
  formatKnown := by simpa [applyTerminalUpdate_eq] using h.formatKnown
  rowsFit := applyTerminalUpdate_rows_fit pane update force
  stylesKnown := by
    have hstyles : (applyTerminalUpdate pane update force).1.styles = update.styles := by
      rw [applyTerminalUpdate_eq]
    rw [hstyles, (applyTerminalUpdate_paneSurface_rows pane update force).2.1]
    intro runs hruns
    refine TerminalUpdate.forLines_runs (P := fun run => run.styleId.toNat < _)
      (fun runs hruns run hrun => ?_) (fun line => ?_) runs (List.mem_of_mem_take hruns)
    · exact Nat.lt_of_lt_of_le (h.stylesKnown runs hruns run hrun) (Nat.le_max_left _ _)
    · simp [CellRun.plain]

/-- Every row of the pane, and every row past its end, has enumerations a client knows. -/
def PaneState.RowsKnown (pane : PaneState) : Prop :=
  ∀ row, (pane.paneSurface.rowContent row).semanticPrompt.known = true ∧
    ∀ run ∈ (pane.paneSurface.rowContent row).runs, run.semanticContent.known = true

theorem applyTerminalUpdate_rowsKnown {update : TerminalUpdate} (h : update.Sendable) :
    (applyTerminalUpdate pane update force).1.RowsKnown := by
  obtain ⟨-, hruns, hprompts, -⟩ := applyTerminalUpdate_paneSurface_rows pane update force
  refine fun row => ⟨?_, ?_⟩
  · rw [PaneSurface.rowContent_semanticPrompt, hprompts]
    cases hrow : (update.forLines.surfaceSemanticPrompts.take pane.rows.toNat)[row]? with
    | none => rfl
    | some prompt =>
      exact h.forLines_prompts prompt (List.mem_of_mem_take (List.mem_of_getElem? hrow))
  · rw [PaneSurface.rowContent_runs, hruns]
    simp only [List.forall_mem_map]
    cases hrow : (update.forLines.surfaceRowRuns.take pane.rows.toNat)[row]? with
    | none => simp [CellRun.plain, Protocol.ByteEnum.known, Protocol.ByteEnum.variantName,
        Protocol.CellSemanticContent.output]
    | some runs =>
      exact TerminalUpdate.forLines_runs h.contentKnown (fun _ => rfl) runs
        (List.mem_of_mem_take (List.mem_of_getElem? hrow))

end

/-! ### Rows that do not differ -/

/-- Two surfaces of the same height hold the same client row wherever their row vectors agree. -/
theorem PaneSurface.clientRows_getElem?_congr {a b : PaneSurface} {row : Nat} (hrows : a.rows = b.rows)
    (hline : a.lines[row]? = b.lines[row]?) (hruns : a.rowRuns[row]? = b.rowRuns[row]?)
    (hprompt : a.semanticPrompts[row]? = b.semanticPrompts[row]?)
    (hdirty : a.dirtyRows[row]? = b.dirtyRows[row]?)
    (hkitty : a.kittyPlaceholders[row]? = b.kittyPlaceholders[row]?) :
    a.clientRows[row]? = b.clientRows[row]? := by
  by_cases h : row < a.rows.toNat
  · have hcontent := rowContent_congr hline hruns hprompt hdirty hkitty
    have hinside : row < a.lines.length ↔ row < b.lines.length := by
      rw [← not_le, ← not_le, ← List.getElem?_eq_none_iff, ← List.getElem?_eq_none_iff, hline]
    rw [clientRows_getElem? _ h, clientRows_getElem? _ (hrows ▸ h), hcontent]
    simp only [hinside]
  · rw [List.getElem?_eq_none (by simpa using h), List.getElem?_eq_none (by simpa [← hrows] using h)]

section
variable {pane : PaneState} {update : TerminalUpdate}

/-- A row that no comparison tells apart is the same row on the client, before and after. -/
theorem clientRows_of_not_rowDiffers (halign : pane.Aligned) {row : Nat}
    (h : rowDiffers pane update.forLines row = false) :
    pane.paneSurface.clientRows[row]? =
      (applyTerminalUpdate pane update false).1.paneSurface.clientRows[row]? := by
  have hrows : pane.paneSurface.rows = (applyTerminalUpdate pane update false).1.paneSurface.rows :=
    (applyTerminalUpdate_rows pane update false).symm
  by_cases hlt : row < pane.rows.toNat
  · simp only [rowDiffers, Bool.or_eq_false_iff, bne_eq_false_iff_eq] at h
    obtain ⟨⟨⟨⟨hline, hruns⟩, hprompt⟩, hdirty⟩, hkitty⟩ := h
    obtain ⟨kruns, kprompts, kdirty, kkitty⟩ := halign.paneSurface_rows
    obtain ⟨alines, aruns, aprompts, adirty, akitty⟩ :=
      applyTerminalUpdate_paneSurface_rows pane update false
    refine PaneSurface.clientRows_getElem?_congr hrows ?_ ?_ ?_ ?_ ?_
    · rw [alines, List.getElem?_take_of_lt hlt]
      exact hline
    · rw [kruns, aruns, List.getElem?_take_of_lt hlt, hruns]
    · rw [kprompts, aprompts, List.getElem?_take_of_lt hlt, hprompt]
    · rw [kdirty, adirty, List.getElem?_take_of_lt hlt, hdirty]
    · rw [kkitty, akitty, List.getElem?_take_of_lt hlt, hkitty]
  · rw [List.getElem?_eq_none, List.getElem?_eq_none]
    · simpa [PaneState.paneSurface] using hlt
    · simpa [PaneState.paneSurface] using hlt

/-- Below the last line of both, neither has a row. -/
theorem rowDiffers_beyond (update : TerminalUpdate) (halign : pane.Aligned) {row : Nat} (hpane : pane.surfaceLines.length ≤ row)
    (hupdate : update.surfaceLines.length ≤ row) : rowDiffers pane update.forLines row = false := by
  have hnone {α : Type} {l : List α} {len : Nat} (hlen : l.length = len) (h : len ≤ row) :
      l[row]? = none :=
    List.getElem?_eq_none (hlen ▸ h)
  simp only [rowDiffers, Bool.or_eq_false_iff, bne_eq_false_iff_eq]
  refine ⟨⟨⟨⟨?_, ?_⟩, ?_⟩, ?_⟩, ?_⟩
  · exact (hnone rfl hpane).trans (hnone rfl hupdate).symm
  · exact (hnone halign.runs_length hpane).trans (hnone (rowRunsForLines_length _ _) hupdate).symm
  · exact (hnone halign.prompts hpane).trans (hnone (rowSemanticPromptsForLines_length _ _) hupdate).symm
  · exact (hnone halign.dirty hpane).trans (hnone (rowDirtyFlagsForLines_length _ _) hupdate).symm
  · exact (hnone halign.kitty hpane).trans (hnone (rowKittyPlaceholdersForLines_length _ _) hupdate).symm

/-- Without a row change no row differs. -/
theorem rowDiffers_of_rows_same
    (h : (updateChanges pane update false).rowsOrRowMetadataChanged = false) (row : Nat) :
    rowDiffers pane update.forLines row = false := by
  simp only [updateChanges, terminalPatchChanges, TerminalPatchChanges.rowsOrRowMetadataChanged,
    Bool.or_eq_false_iff, bne_eq_false_iff_eq] at h
  obtain ⟨⟨⟨⟨hlines, hruns⟩, hprompts⟩, hdirty⟩, hkitty⟩ := h
  simp [rowDiffers, hlines, hruns, hprompts, hdirty, hkitty]

theorem clientRows_of_rows_same (halign : pane.Aligned)
    (h : (updateChanges pane update false).rowsOrRowMetadataChanged = false) :
    pane.paneSurface.clientRows =
      (applyTerminalUpdate pane update false).1.paneSurface.clientRows :=
  List.ext_getElem? fun row => clientRows_of_not_rowDiffers halign (rowDiffers_of_rows_same h row)

/-! ### The remembered row indices -/

theorem mem_surfaceRowUpdateIndices {index : UInt32}
    (h : index ∈ surfaceRowUpdateIndices pane update.forLines false) :
    ∃ row < update.surfaceLines.length, UInt32.ofNat row = index := by
  rw [surfaceRowUpdateIndices, if_neg (by simp)] at h
  split at h
  case isTrue =>
    obtain ⟨row, hrow, rfl⟩ := List.mem_map.mp h
    exact ⟨row, List.mem_range.mp hrow, rfl⟩
  case isFalse =>
    obtain ⟨row, hrow, rfl⟩ := List.mem_map.mp h
    exact ⟨row, List.mem_range.mp (List.mem_filter.mp hrow).1, rfl⟩

/-- A row of the update that differs is remembered. -/
theorem surfaceRowUpdateIndices_complete {row : Nat} (hrow : row < update.surfaceLines.length)
    (h : rowDiffers pane update.forLines row = true) :
    UInt32.ofNat row ∈ surfaceRowUpdateIndices pane update.forLines false := by
  rw [surfaceRowUpdateIndices, if_neg (by simp)]
  split
  · exact List.mem_map_of_mem (List.mem_range.mpr hrow)
  · exact List.mem_map_of_mem (List.mem_filter.mpr ⟨List.mem_range.mpr hrow, h⟩)

theorem surfaceRowUpdateIndices_nodup (h : update.surfaceLines.length ≤ 2 ^ 32) :
    (surfaceRowUpdateIndices pane update.forLines false).Nodup := by
  rw [surfaceRowUpdateIndices, if_neg (by simp)]
  split
  · exact ofNat_range_nodup h
  · exact (ofNat_range_nodup h).sublist (List.filter_sublist.map _)

end

/-! ### The planned kind -/

/-- What each planned kind says about the changes, for a change that is neither forced nor made to a
pane with another row count. -/
theorem terminalPatchKind_cases {changes : TerminalPatchChanges}
    (hchanged : changes.surfaceChanged = true) (hforce : changes.forceFullRefresh = false)
    (hcount : changes.rowCountChanged = false)
    (hfull : terminalPatchKind changes ≠ .fullRefreshRequired) :
    changes.surfaceKindChanged = false ∧ changes.stylesChanged = false ∧
      ((terminalPatchKind changes = .replaceRows ∧ changes.colorsChanged = false) ∨
        (changes.rowsOrRowMetadataChanged = false ∧
          (terminalPatchKind changes = .colorOnly ∨
            (changes.colorsChanged = false ∧
              (terminalPatchKind changes = .modeOnly ∨
                (terminalPatchKind changes = .cursorOnly ∧ changes.modesChanged = false)))))) := by
  simp only [TerminalPatchChanges.surfaceChanged, terminalPatchKind] at *
  split_ifs at hfull ⊢ <;> simp_all

/-- Two different lists of one length first differ inside both, and agree up to there. -/
theorem firstDifference {old new : List UInt32} (hlen : new.length = old.length) (h : old ≠ new) :
    ∃ i, (old.zip new).findIdx? (fun (old, new) => old != new) = some i ∧ i < new.length ∧
      old.take i = new.take i := by
  cases hfind : (old.zip new).findIdx? (fun (old, new) => old != new) with
  | none =>
    refine absurd (List.ext_getElem hlen.symm fun i hi hi' => ?_) h
    have := List.findIdx?_eq_none_iff.mp hfind (old[i], new[i])
      (List.mem_iff_getElem.mpr ⟨i, by simp [hi, hi'], by simp⟩)
    simpa using this
  | some i =>
    obtain ⟨hi, -, hbefore⟩ := List.findIdx?_eq_some_iff_getElem.mp hfind
    have hlt : i < new.length := by
      simp only [List.length_zip] at hi
      omega
    refine ⟨i, rfl, hlt, List.ext_getElem (by simp [hlen]) fun j hj _ => ?_⟩
    have hji : j < i := by
      simp only [List.length_take] at hj
      omega
    simpa using hbefore j hji

/-- Two palettes of one length that differ do so within it, and the difference covers the new one. -/
theorem paletteDiff_covered {old new : List UInt32} (hlen : new.length = old.length)
    (hcount : new.length ≤ 2 ^ 32) : PaletteCovered (paletteDiff old new) old new := by
  rw [paletteDiff]
  split
  case isTrue h => exact h
  case isFalse h =>
    obtain ⟨i, hfind, hlt, htake⟩ := firstDifference hlen h
    have hstart : (UInt32.ofNat i).toNat = i :=
      UInt32.toNat_ofNat_of_lt' (by simp [UInt32.size]; omega)
    simp only [hfind, Option.getD_some, PaletteCovered, hstart, htake, List.take_append_drop, and_true]
    exact ⟨by simpa using hlt, by omega⟩

/-! ### One update -/

section
variable {pane : PaneState} {update : TerminalUpdate}

/-- The rows of a row patch: inside the pane, named once, known to the client, and complete. -/
theorem rowsCovered_of_update (halign : pane.Aligned) (hfits : UpdateFits pane update)
    (hsend : update.Sendable) (hchanged : (updateChanges pane update false).surfaceChanged = true)
    (hkind : terminalPatchKind (updateChanges pane update false) = .replaceRows) :
    RowsCovered pane (applyTerminalUpdate pane update false).1 := by
  have hindices : (applyTerminalUpdate pane update false).1.lastRowUpdateIndices =
      (surfaceRowUpdateIndices pane update.forLines false).filter
        fun row => row.toNat < pane.rows.toNat := by
    simp [applyTerminalUpdate_eq, hchanged, hkind]
  have hsmall {row : Nat} (h : row < update.surfaceLines.length) : (UInt32.ofNat row).toNat = row := by
    have := hfits.rowCount
    exact UInt32.toNat_ofNat_of_lt' (by simp [UInt32.size]; omega)
  have hknown := applyTerminalUpdate_rowsKnown pane false hsend
  constructor
  case inside =>
    rw [hindices, applyTerminalUpdate_surfaceLines]
    intro index hindex
    simp only [List.mem_filter, decide_eq_true_eq] at hindex
    obtain ⟨row, hrow, rfl⟩ := mem_surfaceRowUpdateIndices hindex.1
    rw [List.length_take, hsmall hrow] at *
    omega
  case nodup => exact hindices ▸ (surfaceRowUpdateIndices_nodup hfits.rowCount).filter _
  case promptsKnown => exact fun row _ => (hknown row.toNat).1
  case contentKnown => exact fun row _ => (hknown row.toNat).2
  case cover =>
    intro row
    by_cases hdiff : rowDiffers pane update.forLines row = true
    · by_cases hlt : row < pane.rows.toNat
      · have hrow : row < update.surfaceLines.length := by
          by_contra hbeyond
          have hpast : update.surfaceLines.length ≤ row := by omega
          have := rowDiffers_beyond update halign (hfits.rows.trans hpast) hpast
          simp [this] at hdiff
        refine .inr (List.mem_map.mpr ⟨UInt32.ofNat row, ?_, hsmall hrow⟩)
        rw [hindices, List.mem_filter]
        exact ⟨surfaceRowUpdateIndices_complete hrow hdiff, by simpa [hsmall hrow] using hlt⟩
      · refine .inl ?_
        rw [List.getElem?_eq_none, List.getElem?_eq_none]
        · simpa [PaneState.paneSurface] using hlt
        · simpa [PaneState.paneSurface] using hlt
    · exact .inl (clientRows_of_not_rowDiffers halign (by simpa using hdiff))

/-- **One planned update.** An update that changes the surface and does not ask for a full refresh
leaves a patch that leads from the pane before it. -/
theorem retainedPatch_of_update (halign : pane.Aligned)
    (hversion : pane.surfaceVersion.toNat + 1 < 2 ^ 64) (hfits : UpdateFits pane update)
    (hsend : update.Sendable) (hchanged : (updateChanges pane update false).surfaceChanged = true)
    (hfull : terminalPatchKind (updateChanges pane update false) ≠ .fullRefreshRequired) :
    RetainedPatch pane (applyTerminalUpdate pane update false).1 := by
  obtain ⟨hsurface, hstyles, hplan⟩ := terminalPatchKind_cases hchanged rfl rfl hfull
  have hkind : (applyTerminalUpdate pane update false).1.lastPatchKind =
      terminalPatchKind (updateChanges pane update false) := by
    simp [applyTerminalUpdate_eq, hchanged]
  have hcolors (h : (updateChanges pane update false).colorsChanged = false) :
      (applyTerminalUpdate pane update false).1.colors = pane.colors := by
    have : pane.colors = update.colors := by
      simpa [updateChanges, terminalPatchChanges, TerminalUpdate.forLines] using h
    simp [applyTerminalUpdate_eq, this]
  have hmodes (h : (updateChanges pane update false).modesChanged = false) :
      (applyTerminalUpdate pane update false).1.modes = pane.modes := by
    have : pane.modes = update.modes := by
      simpa [updateChanges, terminalPatchChanges, TerminalUpdate.forLines] using h
    simp [applyTerminalUpdate_eq, this]
  constructor
  case id => simp
  case cols => simp
  case rows => simp
  case version => rw [applyTerminalUpdate_version, if_pos hchanged, satAdd64_one hversion]
  case surface =>
    have : pane.surface = update.surface := by
      simpa [updateChanges, terminalPatchChanges, TerminalUpdate.forLines] using hsurface
    simp [applyTerminalUpdate_eq, this]
  case styles =>
    have : pane.styles = update.styles := by
      simpa [updateChanges, terminalPatchChanges, TerminalUpdate.forLines] using hstyles
    simp [applyTerminalUpdate_eq, this]
  case plan =>
    rcases hplan with ⟨hk, hc⟩ | ⟨hrows, hk | ⟨hc, hk | ⟨hk, hm⟩⟩⟩
    · exact .replaceRows (hkind.trans hk)
        (rowsCovered_of_update halign hfits hsend hchanged hk) (hcolors hc)
    · refine .colorOnly (hkind.trans hk) (clientRows_of_rows_same halign hrows) ?_
      have hdiff := paletteDiff_covered hfits.palette hfits.paletteCount
      simpa [applyTerminalUpdate_eq, hchanged, hk] using hdiff
    · exact .modeOnly (hkind.trans hk) (clientRows_of_rows_same halign hrows) (hcolors hc)
    · exact .cursorOnly (hkind.trans hk) (clientRows_of_rows_same halign hrows) (hcolors hc) (hmodes hm)

end

end Nmux
