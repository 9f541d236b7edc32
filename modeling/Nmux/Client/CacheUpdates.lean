import Nmux.Client.Atomic

/-! Surface updates of a client. Whatever a server sends, an update the client refuses leaves its cache
as it was, and one it accepts leaves surfaces that can be rendered: no row, style or hyperlink is looked
up outside its table. -/
namespace Nmux.Client

open Lib (replaceFirst)
open Lib.Check
open Lib.InPlace

/-- Seven vectors of the declared length, and runs inside the tables. -/
structure StoredSurface.Intact (surface : StoredSurface) : Prop where
  rowText : surface.rowText.length = surface.rows.toNat
  rowRuns : surface.rowRuns.length = surface.rows.toNat
  rowDirtyHashes : surface.rowDirtyHashes.length = surface.rows.toNat
  rowSemanticPrompts : surface.rowSemanticPrompts.length = surface.rows.toNat
  rowDirty : surface.rowDirty.length = surface.rows.toNat
  rowKittyPlaceholders : surface.rowKittyPlaceholders.length = surface.rows.toNat
  rowStateHashes : surface.rowStateHashes.length = surface.rows.toNat
  runs : ∀ runs ∈ surface.rowRuns, RunsInside surface.styles surface.hyperlinks runs

theorem ClientPaneSurface.Intact.stored {surface : ClientPaneSurface} (h : surface.Intact) :
    surface.stored.Intact where
  rowText := (List.length_map _).trans h.rows
  rowRuns := (List.length_map _).trans h.rows
  rowDirtyHashes := (List.length_map _).trans h.rows
  rowSemanticPrompts := (List.length_map _).trans h.rows
  rowDirty := (List.length_map _).trans h.rows
  rowKittyPlaceholders := (List.length_map _).trans h.rows
  rowStateHashes := (List.length_map _).trans h.rows
  runs := by
    intro runs hruns
    obtain ⟨row, hrow, rfl⟩ := List.mem_map.mp hruns
    exact h.runs row hrow

/-- The rows of the vectors. -/
def StoredSurface.clientRow (surface : StoredSurface) (row : Nat) : ClientRow where
  text := surface.rowText[row]?.getD ""
  runs := surface.rowRuns[row]?.getD []
  dirtyHash := surface.rowDirtyHashes[row]?.getD 0
  semanticPrompt := surface.rowSemanticPrompts[row]?.getD .none
  dirty := surface.rowDirty[row]?.getD false
  kittyPlaceholder := surface.rowKittyPlaceholders[row]?.getD false
  stateHash := surface.rowStateHashes[row]?.getD 0

theorem map_range_getD {α : Type} (xs : List α) (fallback : α) {count : Nat} (h : xs.length = count) :
    (List.range count).map (fun row => xs[row]?.getD fallback) = xs := by
  subst h
  refine List.ext_getElem? fun row => ?_
  rw [List.getElem?_map]
  by_cases hrow : row < xs.length
  · rw [List.getElem?_range hrow, Option.map_some, List.getElem?_eq_getElem hrow]
    rfl
  · rw [List.getElem?_eq_none (by simpa using hrow), List.getElem?_eq_none (by simpa using hrow)]
    rfl

/-- Every intact surface stands for a list of rows. -/
theorem StoredSurface.Intact.exists_rows {surface : StoredSurface} (h : surface.Intact) :
    ∃ rows : ClientPaneSurface, rows.stored = surface ∧ rows.Intact := by
  have hstored : ClientPaneSurface.stored {
      paneId := surface.paneId
      version := surface.version
      cols := surface.cols
      rows := surface.rows
      surface := surface.surface
      cursor := surface.cursor
      modes := surface.modes
      title := surface.title
      workingDirectory := surface.workingDirectory
      colors := surface.colors
      styles := surface.styles
      hyperlinks := surface.hyperlinks
      rowData := (List.range surface.rows.toNat).map surface.clientRow } = surface := by
    simp only [ClientPaneSurface.stored, List.map_map, Function.comp_def, StoredSurface.clientRow]
    rw [map_range_getD _ _ h.rowText, map_range_getD _ _ h.rowRuns, map_range_getD _ _ h.rowDirtyHashes,
      map_range_getD _ _ h.rowSemanticPrompts, map_range_getD _ _ h.rowDirty,
      map_range_getD _ _ h.rowKittyPlaceholders, map_range_getD _ _ h.rowStateHashes]
  refine ⟨_, hstored, by simp, fun row hrow => ?_⟩
  have hruns : row.runs ∈ surface.rowRuns := by
    rw [← congrArg StoredSurface.rowRuns hstored]
    exact List.mem_map_of_mem hrow
  exact h.runs _ hruns

/-! ### Rendering -/

/-- Nothing that renders a surface looks outside its vectors and tables. -/
structure StoredSurface.Renders (surface : StoredSurface) : Prop where
  text : ∃ text, surface.renderText = .ok text
  styled : ∃ text, surface.renderStyledText = .ok text
  summary : ∃ rows, surface.summaryRows = .ok rows
  style : surface.styles ≠ [] → ∀ runs ∈ surface.rowRuns, ∀ run ∈ runs,
    ∃ style, surface.styles[run.styleId.toNat]? = some style
  hyperlink : ∀ runs ∈ surface.rowRuns, ∀ run ∈ runs, run.hyperlinkId ≠ 0 →
    ∃ hyperlink ∈ surface.hyperlinks, hyperlink.id = run.hyperlinkId

variable {surface : StoredSurface}

theorem indexed_of_lt {α : Type} {xs : List α} {index : Nat} (h : index < xs.length) :
    ∃ x, indexed xs index = .ok x := by
  rw [indexed, List.getElem?_eq_getElem h]
  exact ⟨_, rfl⟩

theorem mapM_ok {α β : Type} {f : α → Except String β} {xs : List α} (h : ∀ x ∈ xs, ∃ y, f x = .ok y) :
    ∃ ys, xs.mapM f = .ok ys := by
  induction xs with
  | nil => exact ⟨[], rfl⟩
  | cons x xs ih =>
    obtain ⟨y, hy⟩ := h x List.mem_cons_self
    obtain ⟨ys, hys⟩ := ih fun x hx => h x (List.mem_cons_of_mem _ hx)
    refine ⟨y :: ys, ?_⟩
    rw [List.mapM_cons, hy, ok_bind, hys]
    rfl

theorem visibleRowCount_le (surface : StoredSurface) :
    surface.visibleRowCount ≤ surface.rowText.length := by
  unfold StoredSurface.visibleRowCount
  split
  · exact Nat.sub_le _ _
  · exact Nat.zero_le _

theorem StoredSurface.Intact.renders (h : surface.Intact) : surface.Renders where
  text := by
    rw [renderText, slicedTo, if_pos (visibleRowCount_le surface)]
    exact ⟨_, rfl⟩
  styled := by
    obtain ⟨rows, hrows⟩ : ∃ rows, (List.range surface.visibleRowCount).mapM surface.renderStyledRow =
        .ok rows := mapM_ok fun row hrow => by
      have hlt := Nat.lt_of_lt_of_le (List.mem_range.mp hrow) (visibleRowCount_le surface)
      obtain ⟨runs, hruns⟩ := indexed_of_lt (show row < surface.rowRuns.length by
        rw [h.rowRuns, ← h.rowText]
        exact hlt)
      rw [renderStyledRow, hruns, ok_bind]
      split
      · exact indexed_of_lt hlt
      · exact ⟨_, rfl⟩
    rw [renderStyledText, hrows]
    exact ⟨_, rfl⟩
  summary := mapM_ok fun row hrow => by
    have hlt : row < surface.rows.toNat := by
      rw [← h.rowText]
      exact Nat.lt_of_lt_of_le (List.mem_range.mp hrow) (visibleRowCount_le surface)
    have hbound := surface.rows.toNat_lt
    obtain ⟨text, htext⟩ := indexed_of_lt (h.rowText.symm ▸ hlt)
    obtain ⟨runs, hruns⟩ := indexed_of_lt (h.rowRuns.symm ▸ hlt)
    obtain ⟨dirtyHash, hdirtyHash⟩ := indexed_of_lt (h.rowDirtyHashes.symm ▸ hlt)
    obtain ⟨stateHash, hstateHash⟩ := indexed_of_lt (h.rowStateHashes.symm ▸ hlt)
    obtain ⟨prompt, hprompt⟩ := indexed_of_lt (h.rowSemanticPrompts.symm ▸ hlt)
    obtain ⟨dirty, hdirty⟩ := indexed_of_lt (h.rowDirty.symm ▸ hlt)
    obtain ⟨placeholder, hplaceholder⟩ := indexed_of_lt (h.rowKittyPlaceholders.symm ▸ hlt)
    rw [summaryRow, if_neg (by omega), htext, hruns, hdirtyHash, hstateHash, hprompt, hdirty, hplaceholder]
    exact ⟨_, rfl⟩
  style := by
    intro hne runs hruns run hrun
    have hinside := (h.runs runs hruns run hrun).1
    have hpos := List.length_pos_iff.mpr hne
    exact ⟨_, List.getElem?_eq_getElem (by omega)⟩
  hyperlink := fun runs hruns run hrun hid => (h.runs runs hruns run hrun).2.resolve_left hid

theorem StoredSurface.Renders.renderFor (h : surface.Renders) (styled : Bool) :
    ∃ text, surface.renderFor styled = .ok text := by
  unfold StoredSurface.renderFor
  split
  · exact h.styled
  · exact h.text

/-! ### One surface -/

/-- A cached surface keeps everything if the update is refused, and is the updated one otherwise. -/
theorem updateAndRender_cases {cached : ClientPaneSurface} (h : cached.Intact) (update : SurfaceUpdate)
    (styled : Bool) :
    (∃ message, StoredSurface.updateAndRender update styled cached.stored = .error message cached.stored) ∨
      ∃ text reached, StoredSurface.updateAndRender update styled cached.stored = .ok text reached.stored ∧
        Updated update reached ∧ (cached.styles ≠ [] → reached.styles ≠ []) ∧
        reached.stored.renderFor styled = .ok text := by
  have happly : StoredSurface.applyUpdate update cached.stored =
        outcome cached.stored ((cached.applyUpdate update).map (·.stored)) ∧
      ∀ reached, cached.applyUpdate update = .ok reached →
        Updated update reached ∧ (cached.styles ≠ [] → reached.styles ≠ []) := by
    unfold StoredSurface.applyUpdate ClientPaneSurface.applyUpdate
    cases update.kind with
    | snapshot =>
      refine ⟨?_, fun reached hreached => ?_⟩
      · dsimp only
        rw [storedSnapshot_eq]
        cases ClientPaneSurface.fromSnapshot update <;> rfl
      · obtain ⟨hupdated, hstyles⟩ := fromSnapshot_updated hreached
        exact ⟨hupdated, fun _ => hstyles⟩
    | patch =>
      refine ⟨storedPatch_realizes cached update, fun reached hreached => ?_⟩
      obtain ⟨hupdated, hstyles⟩ := applyPatch_updated h hreached
      exact ⟨hupdated, fun hne => hstyles ▸ hne⟩
  obtain ⟨hstored, hupdated⟩ := happly
  cases hpure : cached.applyUpdate update with
  | error message =>
    refine .inl ⟨message, ?_⟩
    rw [hpure] at hstored
    simp [StoredSurface.updateAndRender, bind, EStateM.bind, hstored, outcome, Except.map]
  | ok reached =>
    obtain ⟨hreached, hstyles⟩ := hupdated reached hpure
    obtain ⟨text, htext⟩ := hreached.intact.stored.renders.renderFor styled
    refine .inr ⟨text, reached, ?_, hreached, hstyles, htext⟩
    rw [hpure] at hstored
    simp [StoredSurface.updateAndRender, bind, EStateM.bind, hstored, outcome, Except.map, inspect, htext]

/-! ### The cache -/

/-- **A refused update changes nothing, an accepted one leaves surfaces that can be rendered**, with the
version of the update on the surface of its pane. -/
theorem applySurfaceUpdateStyled_atomic (state : StoredAttachState)
    (h : ∀ surface ∈ state.surfaces, surface.Intact) (update : SurfaceUpdate) (styled : Bool) :
    match StoredAttachState.applySurfaceUpdateStyled update styled state with
    | .error _ reached => reached = state
    | .ok text reached =>
      (∀ surface ∈ reached.surfaces, surface.Intact ∧ surface.Renders) ∧
      (∃ surface, reached.surfaces.find? (·.paneId == update.paneId) = some surface ∧
        surface.version = update.version ∧ surface.renderFor styled = .ok text) ∧
      ((∀ surface ∈ state.surfaces, surface.styles ≠ []) →
        ∀ surface ∈ reached.surfaces, surface.styles ≠ []) := by
  unfold StoredAttachState.applySurfaceUpdateStyled
  rw [onFirst_eq]
  cases hfound : state.surfaces.find? (·.paneId == update.paneId) with
  | some found =>
    have hmem := List.mem_of_find?_eq_some hfound
    obtain ⟨cached, rfl, hcached⟩ := (h found hmem).exists_rows
    rcases updateAndRender_cases hcached update styled with
      ⟨message, hrefused⟩ | ⟨text, updated, haccepted, hupdated, hstyles, htext⟩
    · rw [Option.map_some, hrefused]
      dsimp only
      rw [replaceFirst_found hfound]
    · rw [Option.map_some, haccepted]
      dsimp only
      refine ⟨fun surface hsurface => ?_, ⟨updated.stored, ?_, hupdated.version, htext⟩,
        fun hne surface hsurface => ?_⟩
      · rcases Lib.mem_replaceFirst hsurface with hkept | ⟨_, _, rfl⟩
        · exact ⟨h surface hkept, (h surface hkept).renders⟩
        · exact ⟨hupdated.intact.stored, hupdated.intact.stored.renders⟩
      · refine (Lib.find?_replaceFirst_self (fun _ _ => ?_) _).trans ?_
        · exact beq_iff_eq.mpr hupdated.paneId
        · rw [hfound]
          rfl
      · rcases Lib.mem_replaceFirst hsurface with hkept | ⟨_, _, rfl⟩
        · exact hne surface hkept
        · exact hstyles (hne _ hmem)
  | none =>
    rw [Option.map_none]
    dsimp only
    by_cases hkind : update.kind ≠ .snapshot
    · rw [if_pos hkind]
    · rw [if_neg hkind, storedSnapshot_eq]
      cases hpure : ClientPaneSurface.fromSnapshot update with
      | error message => rfl
      | ok snapshot =>
        obtain ⟨hupdated, hstyles⟩ := fromSnapshot_updated hpure
        obtain ⟨text, htext⟩ := hupdated.intact.stored.renders.renderFor styled
        dsimp only [Except.map]
        rw [htext]
        dsimp only
        refine ⟨fun surface hsurface => ?_, ⟨snapshot.stored, ?_, hupdated.version, htext⟩,
          fun hne surface hsurface => ?_⟩
        · rcases List.mem_append.mp hsurface with hkept | hnew
          · exact ⟨h surface hkept, (h surface hkept).renders⟩
          · rw [List.mem_singleton.mp hnew]
            exact ⟨hupdated.intact.stored, hupdated.intact.stored.renders⟩
        · rw [List.find?_append, hfound, Option.none_or, List.find?_singleton]
          exact if_pos (beq_iff_eq.mpr hupdated.paneId)
        · rcases List.mem_append.mp hsurface with hkept | hnew
          · exact hne surface hkept
          · rw [List.mem_singleton.mp hnew]
            exact hstyles

/-- One row of one run, sent to a client. -/
def rowUpdate : SurfaceUpdate where
  kind := .patch
  paneId := "pane-1"
  version := 2
  baseVersion := some 1
  patchKind := some .replaceRows
  cols := none
  rows := none
  surface := none
  cursor := none
  modes := TerminalModes.default
  title := ""
  workingDirectory := ""
  colors := none
  rowUpdates := [⟨0, "ok", [.plain "ok"], 0, 0, .none, false, false⟩]
  styles := []
  hyperlinks := []
  text := "ok"

/-- A surface of one row without runs. -/
def bareSurface (styles : List StyleSummary) : StoredSurface where
  paneId := "pane-1"
  version := 1
  cols := 80
  rows := 1
  surface := .main
  cursor := none
  modes := TerminalModes.default
  title := ""
  workingDirectory := ""
  colors := .default
  styles
  hyperlinks := []
  rowText := [""]
  rowRuns := [[]]
  rowDirtyHashes := [0]
  rowSemanticPrompts := [.none]
  rowDirty := [false]
  rowKittyPlaceholders := [false]
  rowStateHashes := [0]

theorem bareSurface_intact (styles : List StyleSummary) : (bareSurface styles).Intact :=
  ⟨rfl, rfl, rfl, rfl, rfl, rfl, rfl, fun runs hruns run hrun => by
    rw [List.mem_singleton.mp hruns] at hrun
    cases hrun⟩

/-- The row is written and rendered. -/
theorem applySurfaceUpdateStyled_atomic_row : ∃ reached surface,
    StoredAttachState.applySurfaceUpdateStyled rowUpdate true ⟨none, [bareSurface [PaneStyle.default]], []⟩ =
      .ok "ok" reached ∧
    reached.surfaces.find? (·.paneId == "pane-1") = some surface ∧ surface.version = 2 ∧
    surface.Intact := by
  have hatomic := applySurfaceUpdateStyled_atomic ⟨none, [bareSurface [PaneStyle.default]], []⟩
    (fun surface hsurface => List.mem_singleton.mp hsurface ▸ bareSurface_intact _) rowUpdate true
  obtain ⟨reached, hrun⟩ : ∃ reached, StoredAttachState.applySurfaceUpdateStyled rowUpdate true
      ⟨none, [bareSurface [PaneStyle.default]], []⟩ = .ok "ok" reached := ⟨_, rfl⟩
  rw [hrun] at hatomic
  obtain ⟨hintact, ⟨surface, hfound, hversion, -⟩, -⟩ := hatomic
  exact ⟨reached, surface, hrun, hfound, hversion, (hintact surface (List.mem_of_find?_eq_some hfound)).1⟩

/-- Every run has a style of the table, also when the table is empty. -/
def StoredSurface.StylesFound (surface : StoredSurface) : Prop :=
  ∀ runs ∈ surface.rowRuns, ∀ run ∈ runs, run.styleId.toNat < surface.styles.length

/-- Over an empty style table the client accepts a run of style zero, which the table does not have. -/
theorem not_stylesFound : (bareSurface []).Intact ∧ (bareSurface []).StylesFound ∧
    ∃ text reached,
      StoredAttachState.applySurfaceUpdateStyled rowUpdate true ⟨none, [bareSurface []], []⟩ =
        .ok text reached ∧
      ∃ surface ∈ reached.surfaces, ¬ surface.StylesFound := by
  refine ⟨bareSurface_intact [], fun runs hruns run hrun => ?_, _, _, rfl, _, List.mem_singleton.mpr rfl,
    fun hfound => ?_⟩
  · rw [List.mem_singleton.mp hruns] at hrun
    cases hrun
  · exact absurd (hfound [.plain "ok"] (by decide) (.plain "ok") (by decide)) (by decide)

end Nmux.Client
