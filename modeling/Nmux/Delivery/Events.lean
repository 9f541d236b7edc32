import Nmux.Delivery.History
import Nmux.Core.PaneNames
import Nmux.Publish.Panes

/-! Accepted events as session steps. An event whose writes change the panes they touch, and whose new
panes have rows for their lines and names without a history, takes a session with distinct names one
step along the histories. -/
namespace Nmux

open Client

/-- What an event may make of a pane a client is sent: it sends the same, or it changes. -/
def PaneState.Advances (earlier later : PaneState) : Prop :=
  earlier.Keeps later ∨ earlier.VersionBelowMax ∧ PaneChange earlier later

theorem PaneState.Advances.refl (state : PaneState) : state.Advances state :=
  .inl ⟨rfl, rfl, rfl, rfl⟩

/-- The event advances every pane it writes to, and creates panes under new names only. -/
def EventAdvances {σ : Type} (engine : TerminalEngine σ) (history : History) (core : SessionCore σ)
    (event : SessionEvent) : Prop :=
  ∀ paneId, EventMoves engine PaneState.Advances
    (fun later => history paneId = [] ∧ later.Deliverable) paneId core event

theorem Session.state_isSome_of_named {session : Session} {paneId : String} {state : PaneState}
    (h : state ∈ session.named paneId) : (session.pane paneId).isSome := by
  obtain ⟨node, hnode, rfl, hid⟩ := mem_named.mp h
  rw [pane_isSome, List.any_eq_true]
  exact ⟨node, hnode, by simp [PaneNode.named, hid]⟩

/-- **An accepted event is a session step.** -/
theorem acceptPending_sessionStep {σ : Type} {engine : TerminalEngine σ} {history : History}
    {core : SessionCore σ} {pending : PendingSessionEvent} (hids : core.session.DistinctIds)
    (hhistory : HistoryOf history core.session)
    (h : EventAdvances engine history core pending.event) :
    SessionStep history core.session (core.acceptPending engine pending).1.session := by
  intro paneId
  have hmoves := acceptPending_moves (fun state => .refl state) (h paneId)
  cases hafter : (core.acceptPending engine pending).1.session.pane paneId with
  | none =>
    rw [Session.state, Session.state, hafter]
    exact .gone
  | some pane =>
    rw [Session.state, Session.state, hafter]
    rcases hmoves pane.state (Session.pane_mem_named hafter) with hadvance | ⟨hfresh, hdeliverable⟩
    · obtain ⟨earlier, hearlier, hadvance⟩ := hadvance
      -- the name was in use, by this pane only
      obtain ⟨before, hbefore⟩ := Option.isSome_iff_exists.mp (Session.state_isSome_of_named hearlier)
      obtain rfl := List.mem_singleton.mp (hids.named_subset hbefore hearlier)
      rw [hbefore]
      rcases hadvance with hkeeps | ⟨hroom, hchange⟩
      · exact .kept hkeeps
      · exact .changed hroom hchange
    · cases hbefore : core.session.pane paneId with
      | none => exact .created hfresh hdeliverable
      | some before =>
        have hmem := (hhistory.current paneId before.state (by simp [Session.state, hbefore])).1
        rw [hfresh] at hmem
        cases hmem

/-! ### New panes and splits -/

theorem PaneState.rowsKnown_of {pane : PaneState}
    (hprompts : ∀ prompt ∈ pane.paneSurface.semanticPrompts, prompt.known = true)
    (hruns : ∀ runs ∈ pane.paneSurface.rowRuns, ∀ run ∈ runs, run.semanticContent.known = true) :
    pane.RowsKnown := by
  refine fun row => ⟨?_, ?_⟩
  · rw [PaneSurface.rowContent_semanticPrompt]
    cases hrow : pane.paneSurface.semanticPrompts[row]? with
    | none => rfl
    | some prompt => exact hprompts prompt (List.mem_of_getElem? hrow)
  · rw [PaneSurface.rowContent_runs]
    simp only [List.forall_mem_map]
    cases hrow : pane.paneSurface.rowRuns[row]? with
    | none =>
      simp only [Option.getD_none, List.forall_mem_singleton]
      rfl
    | some runs => exact hruns runs (List.mem_of_getElem? hrow)

theorem newPaneFromTemplate_deliverable {id : String} (host : HostSpec) (cols : UInt32) {rows : UInt32}
    (hnamed : id.isEmpty = false) (hrows : 2 ≤ rows.toNat) :
    (newPaneFromTemplate id host cols rows).Deliverable where
  published := (newPaneFromTemplate_published id host cols rows hrows).publishable
  rowsKnown := by
    apply PaneState.rowsKnown_of
    · simp [PaneState.paneSurface, newPaneFromTemplate, rowSemanticPromptsForLines]
      rfl
    · simp [PaneState.paneSurface, newPaneFromTemplate, rowRunsForLines, CellRun.plain]
      rfl
  named := hnamed

/-- The split pane and its container keep the rows, so what a client reads of them. -/
theorem PaneState.Deliverable.existing {pane : PaneState} (h : pane.Deliverable) {sizes : SplitSizes}
    (hfit : pane.surfaceLines.length ≤ sizes.firstRows.toNat) :
    (splitExisting pane sizes).Deliverable where
  published := { h.published with rowsFit := hfit }
  rowsKnown := h.rowsKnown
  named := h.named

theorem PaneState.Deliverable.container {pane : PaneState} (h : pane.Deliverable)
    {axis : Protocol.SplitAxis} {newPaneId : String} {sizes : SplitSizes}
    (hsizes : splitChildSizes pane.cols pane.rows axis = some sizes) :
    (splitContainer pane axis newPaneId sizes).Deliverable where
  published := {
    h.published with
    rowsFit := (splitContainer_rows hsizes).symm ▸ h.published.rowsFit }
  rowsKnown := h.rowsKnown
  named := by simp [splitContainer]

/-! ### The events of a served session -/

section
variable {σ : Type} {engine : TerminalEngine σ} {history : History} {core : SessionCore σ}

/-- Output advances its pane if the engine's update fits it and changes what it shows, or changes
nothing a patch depends on. -/
theorem EventAdvances.paneOutput {target : String} {bytes : List UInt8}
    (h : ∀ state ∈ core.session.named target,
      ∀ update ∈ (engine.applyOutput (core.terminalEngines target) state.terminalInput bytes).2,
        state.VersionBelowMax ∧ state.Aligned ∧ UpdateFits state update ∧ update.Sendable ∧
          ((updateChanges state update false).surfaceChanged = true ∨
            state.surfaceLines.length ≤ state.rows.toNat ∧ state.lastPaletteDiff = none)) :
    EventAdvances engine history core (.paneOutput target bytes) := by
  rintro paneId - state hstate update hupdate
  obtain ⟨hroom, haligned, hfits, hsend, hchanged | ⟨hrows, hdiff⟩⟩ := h state hstate update hupdate
  · exact .inr ⟨hroom, .update update haligned hfits hsend hchanged⟩
  · cases hchanged : (updateChanges state update false).surfaceChanged with
    | true => exact .inr ⟨hroom, .update update haligned hfits hsend hchanged⟩
    | false =>
      obtain ⟨hsurface, hkind, hindices, hnone⟩ := updateStep_unchanged hrows hchanged
      exact .inl ⟨hsurface, hkind, hindices, hnone.trans hdiff.symm⟩

/-- A committed resize asks the clients of its pane for a full refresh. -/
theorem EventAdvances.commitPaneResize {target : String} {cols rows : UInt32}
    (h : ∀ state ∈ core.session.named target, state.VersionBelowMax ∧ state.id.isEmpty = false ∧
      ∀ update ∈ (engine.resize (core.terminalEngines target) state.terminalInput cols rows).2,
        update.Sendable) :
    EventAdvances engine history core (.commitPaneResize target cols rows) := by
  rintro paneId - state hstate update hupdate
  obtain ⟨hroom, hnamed, hsend⟩ := h state hstate
  exact .inr ⟨hroom, .resize cols rows (hsend update hupdate) hnamed⟩

theorem EventAdvances.addTab {tabId title newPaneId : String} {host : HostSpec}
    (hfresh : history newPaneId = [])
    (hrows : ∀ active ∈ core.session.activeTab, 2 ≤ active.root.state.rows.toNat) :
    EventAdvances engine history core (.addTab tabId title newPaneId host) := by
  rintro paneId rfl hnamed - active hactive
  exact ⟨hfresh, newPaneFromTemplate_deliverable _ _ hnamed (hrows active hactive)⟩

/-- A split asks the clients of its pane for a full refresh, if it leaves the pane its lines. -/
theorem EventAdvances.splitPane {target newPaneId : String} {axis : Protocol.SplitAxis}
    {host : HostSpec} (hfresh : history newPaneId = [])
    (hcontainer : history ("split-" ++ target ++ "-" ++ newPaneId) = [])
    (h : ∀ state ∈ core.session.named target, state.VersionBelowMax ∧ state.Deliverable ∧
      ∀ sizes ∈ splitChildSizes state.cols state.rows axis,
        state.surfaceLines.length ≤ sizes.firstRows.toNat ∧ 2 ≤ sizes.secondRows.toNat) :
    EventAdvances engine history core (.splitPane target axis newPaneId host) := by
  intro paneId hnamed _ state hstate sizes hsizes
  obtain ⟨hroom, hdeliverable, hrows⟩ := h state hstate
  obtain ⟨hfirst, hsecond⟩ := hrows sizes hsizes
  refine ⟨?_, fun _ => .inr ⟨hroom, .refresh rfl rfl (hdeliverable.existing hfirst)⟩, ?_⟩
  · rintro rfl
    exact ⟨hcontainer, hdeliverable.container hsizes⟩
  · rintro rfl
    exact ⟨hfresh, newPaneFromTemplate_deliverable _ _ hnamed hsecond⟩

/-- Every other event leaves what the panes send as it is. -/
theorem EventAdvances.other {event : SessionEvent}
    (h : (∃ tabId, event = .switchTab tabId) ∨ (∃ tabId, event = .closeTab tabId) ∨
      (∃ paneId, event = .focusPane paneId) ∨
      (∃ target policy, event = .setPaneResizePolicy target policy) ∨
      (∃ sessionId, event = .requestSessionShutdown sessionId) ∨
      ∃ target inputSeq bytes, event = .forwardPaneInput target inputSeq bytes) :
    EventAdvances engine history core event := by
  intro paneId
  rcases h with ⟨_, rfl⟩ | ⟨_, rfl⟩ | ⟨_, rfl⟩ | ⟨target, policy, rfl⟩ | ⟨_, rfl⟩ | ⟨_, _, _, rfl⟩
  case inr.inr.inr.inl => exact fun _ state _ => .inl ⟨rfl, rfl, rfl, rfl⟩
  all_goals trivial

end

end Nmux
