import Nmux.Client.StoredSurface

/-! Surface updates in place. The seven vectors of a surface are always resized and written together,
so a surface stands for a list of rows; an update of the vectors is the update of the rows if that one
succeeds, and no update at all if it fails. -/
namespace Nmux.Client

open Lib (overwrite replaceFirst)
open Lib.Check
open Lib.InPlace

/-- The vectors of a list of rows. -/
def ClientPaneSurface.stored (surface : ClientPaneSurface) : StoredSurface where
  paneId := surface.paneId
  version := surface.version
  cols := surface.cols
  rows := surface.rows
  surface := surface.surface
  cursor := surface.cursor
  modes := surface.modes
  title := surface.title
  workingDirectory := surface.workingDirectory
  colors := surface.colors
  styles := surface.styles
  hyperlinks := surface.hyperlinks
  rowText := surface.rowData.map (·.text)
  rowRuns := surface.rowData.map (·.runs)
  rowDirtyHashes := surface.rowData.map (·.dirtyHash)
  rowSemanticPrompts := surface.rowData.map (·.semanticPrompt)
  rowDirty := surface.rowData.map (·.dirty)
  rowKittyPlaceholders := surface.rowData.map (·.kittyPlaceholder)
  rowStateHashes := surface.rowData.map (·.stateHash)

/-- The surface with other rows. -/
def ClientPaneSurface.withRows (surface : ClientPaneSurface) (rowData : List ClientRow) :
    ClientPaneSurface :=
  { surface with rowData }

variable {surface : ClientPaneSurface} {update : SurfaceUpdate}

/-! ### Rows -/

theorem applyRows_cons (row : SurfaceRowUpdate) (rest : List SurfaceRowUpdate)
    (h : row.row.toNat < surface.rowData.length) :
    StoredSurface.applyRows (row :: rest) surface.stored =
      StoredSurface.applyRows rest
        (surface.withRows (surface.rowData.set row.row.toNat row.clientRow)).stored := by
  simp [ClientPaneSurface.withRows, StoredSurface.applyRows, bind, EStateM.bind, inspect, require, StoredSurface.assign, assigned,
    ClientPaneSurface.stored, h, List.map_set, SurfaceRowUpdate.clientRow]

/-- Rows inside the surface are written over it in all seven vectors. -/
theorem storedRows_overwrite (updates : List SurfaceRowUpdate)
    (h : ∀ row ∈ updates, row.row.toNat < surface.rowData.length) :
    StoredSurface.applyRows updates surface.stored =
      .ok () (surface.withRows
        (overwrite surface.rowData (updates.map fun row => (row.row.toNat, row.clientRow)))).stored := by
  induction updates generalizing surface with
  | nil => rfl
  | cons row rest ih =>
    rw [applyRows_cons row rest (h row List.mem_cons_self)]
    refine ih fun other hother => ?_
    rw [ClientPaneSurface.withRows, List.length_set]
    exact h other (List.mem_cons_of_mem _ hother)

/-- The loop over the vectors is the loop over the rows. -/
theorem storedRows_eq (surface : ClientPaneSurface) (updates : List SurfaceRowUpdate)
    (h : ∀ row ∈ updates, row.row.toNat < surface.rowData.length) :
    ∃ rowData, applyRows surface.rows surface.rowData updates = .ok rowData ∧
      StoredSurface.applyRows updates surface.stored =
        .ok () (surface.withRows rowData).stored :=
  ⟨_, applyRows_eq_overwrite h, storedRows_overwrite updates h⟩

/-! ### Snapshots -/

/-- Functions that agree after a check agree behind it. -/
theorem map_bind_congr {ε α β γ : Type} {x : Except ε α} {f : α → Except ε β} {g : β → γ}
    {f' : α → Except ε γ} (h : ∀ a, x = .ok a → (f a).map g = f' a) : (x >>= f).map g = x >>= f' := by
  cases x with
  | error message => rfl
  | ok a => exact h a rfl

/-- The surface of a snapshot before its rows are written. -/
def blankSurface (update : SurfaceUpdate) (cols rows : UInt32) : ClientPaneSurface where
  paneId := update.paneId
  version := update.version
  cols
  rows
  surface := update.surface.getD .main
  cursor := update.cursor
  modes := update.modes
  title := update.title
  workingDirectory := update.workingDirectory
  colors := update.colors.getD .default
  styles := if update.styles.isEmpty then defaultStyleSummaries else update.styles
  hyperlinks := update.hyperlinks
  rowData := List.replicate rows.toNat .empty

theorem resizeRows_started (update : SurfaceUpdate) (cols rows : UInt32) :
    (StoredSurface.started update cols rows).resizeRows rows.toNat =
      (blankSurface update cols rows).stored := by
  simp [StoredSurface.started, StoredSurface.resizeRows, resized, ClientPaneSurface.stored, blankSurface,
    ClientRow.empty]

theorem storedSnapshot_eq (update : SurfaceUpdate) :
    StoredSurface.fromSnapshot update = (ClientPaneSurface.fromSnapshot update).map (·.stored) := by
  symm
  unfold ClientPaneSurface.fromSnapshot StoredSurface.fromSnapshot
  refine map_bind_congr fun _ _ => map_bind_congr fun cols _ => map_bind_congr fun rows _ =>
    map_bind_congr fun _ _ => map_bind_congr fun _ _ => map_bind_congr fun _ _ =>
    map_bind_congr fun _ _ => map_bind_congr fun _ hindices => map_bind_congr fun _ _ =>
    map_bind_congr fun _ _ => ?_
  have hbound := (validateRowUpdateIndices_eq_ok.mp hindices).1
  obtain ⟨rowData, hpure, hstored⟩ :=
    storedRows_eq (blankSurface update cols rows) update.rowUpdates (by simpa [blankSurface] using hbound)
  change applyRows rows (List.replicate rows.toNat .empty) update.rowUpdates = .ok rowData at hpure
  have hrows : (StoredSurface.started update cols rows).rows = rows := rfl
  rw [hpure, hrows, resizeRows_started, hstored]
  rfl

/-! ### Patches -/

theorem storedPatch_realizes (surface : ClientPaneSurface) (update : SurfaceUpdate) :
    Realizes ClientPaneSurface.stored (StoredSurface.applyPatch update) surface
      (surface.applyPatch update) := by
  unfold StoredSurface.applyPatch ClientPaneSurface.applyPatch
  refine Realizes.inspect_then rfl fun _ _ => Realizes.ite (fun _ => ?_) fun _ =>
    Realizes.ite (fun _ => ?_) fun _ => Realizes.ite (fun _ => ?_) fun _ => ?_
  · exact Realizes.inspect_then rfl fun _ _ => .of_ok rfl
  · exact Realizes.inspect_then rfl fun _ _ => .of_ok rfl
  · exact Realizes.inspect_then rfl fun _ _ => Realizes.inspect_then rfl fun _ _ => .of_ok rfl
  · refine Realizes.inspect_then rfl fun _ _ => Realizes.inspect_then rfl fun _ _ =>
      Realizes.inspect_then rfl fun _ _ =>
      Realizes.inspect_then (by rw [ClientPaneSurface.stored, List.length_map]) fun _ hindices =>
      Realizes.inspect_then rfl fun _ _ => Realizes.inspect_then rfl fun _ _ => ?_
    have hbound := (validateRowUpdateIndices_eq_ok.mp hindices).1
    obtain ⟨rowData, hpure, hstored⟩ := storedRows_eq surface update.rowUpdates hbound
    rw [hpure]
    refine Realizes.of_ok ?_
    simp only [bind, EStateM.bind, hstored]
    rfl

/-! ### The invariant -/

/-- The runs of a surface name styles and hyperlinks of its tables; an empty style table counts as the
default style, and hyperlink zero as none. -/
def RunsInside (styles : List StyleSummary) (hyperlinks : List HyperlinkSummary)
    (runs : List CellRunSummary) : Prop :=
  ∀ run ∈ runs, run.styleId.toNat < max styles.length 1 ∧
    (run.hyperlinkId = 0 ∨ ∃ hyperlink ∈ hyperlinks, hyperlink.id = run.hyperlinkId)

/-- As many rows as declared, and runs inside the tables. -/
structure ClientPaneSurface.Intact (surface : ClientPaneSurface) : Prop where
  rows : surface.rowData.length = surface.rows.toNat
  runs : ∀ row ∈ surface.rowData, RunsInside surface.styles surface.hyperlinks row.runs

theorem runsInside_plain (styles : List StyleSummary) (hyperlinks : List HyperlinkSummary) (text : String) :
    RunsInside styles hyperlinks [.plain text] := by
  intro run hrun
  rw [List.mem_singleton.mp hrun]
  exact ⟨Nat.lt_of_lt_of_le Nat.one_pos (Nat.le_max_right _ _), .inl rfl⟩

theorem validateRowUpdateHyperlinkIds_eq_ok {rows : List SurfaceRowUpdate}
    {hyperlinks : List HyperlinkSummary} : validateRowUpdateHyperlinkIds rows hyperlinks = .ok () ↔
      ∀ row ∈ rows, ∀ run ∈ row.runs,
        run.hyperlinkId = 0 ∨ ∃ hyperlink ∈ hyperlinks, hyperlink.id = run.hyperlinkId := by
  simp only [validateRowUpdateHyperlinkIds, validateCellRunHyperlinkIds, each_eq_ok, require_eq_ok,
    Bool.or_eq_true, beq_iff_eq, List.any_eq_true]

/-- Checked rows are written inside the tables. -/
theorem overwrite_runsInside {styles : List StyleSummary} {hyperlinks : List HyperlinkSummary}
    {rowData : List ClientRow} {updates : List SurfaceRowUpdate}
    (hrows : ∀ row ∈ rowData, RunsInside styles hyperlinks row.runs)
    (hstyles : validateRowUpdateStyleIds updates styles = .ok ())
    (hlinks : validateRowUpdateHyperlinkIds updates hyperlinks = .ok ()) :
    ∀ row ∈ overwrite rowData (updates.map fun row => (row.row.toNat, row.clientRow)),
      RunsInside styles hyperlinks row.runs := by
  intro row hrow
  rcases Lib.mem_overwrite hrow with hkept | hwritten
  · exact hrows row hkept
  · rw [List.map_map] at hwritten
    obtain ⟨update, hupdate, rfl⟩ := List.mem_map.mp hwritten
    rw [validateRowUpdateStyleIds_eq_ok] at hstyles
    rw [validateRowUpdateHyperlinkIds_eq_ok] at hlinks
    change RunsInside styles hyperlinks (if update.runs.isEmpty then [.plain update.text] else update.runs)
    split
    case isTrue => exact runsInside_plain styles hyperlinks update.text
    case isFalse => exact fun run hrun => ⟨hstyles update hupdate run hrun, hlinks update hupdate run hrun⟩

/-- What an accepted update leaves: the pane and version it names, and the invariant. -/
structure Updated (update : SurfaceUpdate) (surface : ClientPaneSurface) : Prop where
  paneId : surface.paneId = update.paneId
  version : surface.version = update.version
  intact : surface.Intact

theorem fromSnapshot_updated (h : ClientPaneSurface.fromSnapshot update = .ok surface) :
    Updated update surface ∧ surface.styles ≠ [] := by
  unfold ClientPaneSurface.fromSnapshot at h
  obtain ⟨-, h⟩ := check_bind_eq_ok.mp h
  obtain ⟨cols, -, h⟩ := bind_eq_ok.mp h
  obtain ⟨rows, -, h⟩ := bind_eq_ok.mp h
  dsimp only at h
  obtain ⟨-, h⟩ := check_bind_eq_ok.mp h
  obtain ⟨-, h⟩ := check_bind_eq_ok.mp h
  obtain ⟨-, h⟩ := check_bind_eq_ok.mp h
  obtain ⟨-, h⟩ := check_bind_eq_ok.mp h
  obtain ⟨hindices, h⟩ := check_bind_eq_ok.mp h
  obtain ⟨hstyles, h⟩ := check_bind_eq_ok.mp h
  obtain ⟨hlinks, h⟩ := check_bind_eq_ok.mp h
  have hbound := (validateRowUpdateIndices_eq_ok.mp hindices).1
  rw [applyRows_eq_overwrite (by simpa using hbound), ok_bind] at h
  obtain rfl := Except.ok.inj h
  refine ⟨⟨rfl, rfl, ?_, ?_⟩, ?_⟩
  · simp
  · refine overwrite_runsInside (fun row hrow => ?_) hstyles hlinks
    rw [List.eq_of_mem_replicate hrow]
    exact fun run hrun => by cases hrun
  · dsimp only
    split
    case isTrue => simp [defaultStyleSummaries]
    case isFalse hne => simpa using hne

theorem applyPatch_updated {patched : ClientPaneSurface} (hintact : surface.Intact)
    (h : surface.applyPatch update = .ok patched) :
    Updated update patched ∧ patched.styles = surface.styles := by
  unfold ClientPaneSurface.applyPatch at h
  obtain ⟨hvalid, h⟩ := check_bind_eq_ok.mp h
  have hpane : surface.paneId = update.paneId := by
    obtain ⟨hpane, -⟩ := check_bind_eq_ok.mp hvalid
    exact (beq_iff_eq.mp (require_eq_ok.mp hpane)).symm
  dsimp only at h
  split at h
  · obtain ⟨-, h⟩ := check_bind_eq_ok.mp h
    obtain rfl := Except.ok.inj h
    exact ⟨⟨hpane, rfl, hintact.rows, hintact.runs⟩, rfl⟩
  split at h
  · obtain ⟨-, h⟩ := check_bind_eq_ok.mp h
    obtain rfl := Except.ok.inj h
    exact ⟨⟨hpane, rfl, hintact.rows, hintact.runs⟩, rfl⟩
  split at h
  · obtain ⟨colors, -, h⟩ := bind_eq_ok.mp h
    obtain ⟨palette, -, h⟩ := bind_eq_ok.mp h
    obtain rfl := Except.ok.inj h
    exact ⟨⟨hpane, rfl, hintact.rows, hintact.runs⟩, rfl⟩
  · obtain ⟨-, h⟩ := check_bind_eq_ok.mp h
    obtain ⟨-, h⟩ := check_bind_eq_ok.mp h
    obtain ⟨-, h⟩ := check_bind_eq_ok.mp h
    obtain ⟨hindices, h⟩ := check_bind_eq_ok.mp h
    obtain ⟨hstyles, h⟩ := check_bind_eq_ok.mp h
    obtain ⟨hlinks, h⟩ := check_bind_eq_ok.mp h
    rw [applyRows_eq_overwrite (validateRowUpdateIndices_eq_ok.mp hindices).1, ok_bind] at h
    obtain rfl := Except.ok.inj h
    exact ⟨⟨hpane, rfl, (Lib.overwrite_length _ _).trans hintact.rows,
      overwrite_runsInside hintact.runs hstyles hlinks⟩, rfl⟩

end Nmux.Client
