import Nmux.Publish.Panes
import Nmux.Core.Events
import Nmux.Lib.Run

/-! Every pane of a reachable session, as far as the events leave the panes enough rows. A new tab
takes the size of the active tab's root and shows two lines; a split halves the rows of a pane without
cutting its lines, and its new half shows two lines as well. -/
namespace Nmux

open Client
open Lib

/-- Every node of the session is published, the splits included. -/
def Session.AllPublished (session : Session) : Prop := ∀ node ∈ session.nodes, node.state.Published

namespace Session.AllPublished

variable {session : Session}

theorem of_nodes_eq {session' : Session} (h : session.AllPublished)
    (hnodes : session'.nodes = session.nodes) : session'.AllPublished := by
  rw [Session.AllPublished, hnodes]
  exact h

/-- A write to the first pane of an id, published before, that publishes it. -/
theorem write {write : PaneState → PaneState} {paneId : String} (h : session.AllPublished)
    (hwrite : ∀ pane, session.pane paneId = some pane → (write pane.state).Published) :
    (session.writePane write paneId).AllPublished := by
  intro node hnode
  rw [Session.writePane_nodes] at hnode
  rcases mem_replaceFirst hnode with hnode | ⟨found, hfound, rfl⟩
  · exact h node hnode
  · rw [← Session.pane_asNode, Option.map_eq_some_iff] at hfound
    obtain ⟨pane, hpane, rfl⟩ := hfound
    exact hwrite pane hpane

theorem pane (h : session.AllPublished) {paneId : String} {pane : Pane}
    (hpane : session.pane paneId = some pane) : pane.state.Published :=
  h _ (Session.pane_mem_nodes hpane).2.1

theorem output (h : session.AllPublished) (paneId : String) (bytes : List UInt8)
    (state : InterimAnsiState) :
    (session.applyPaneOutputWithEngine interimTextTerminalEngine paneId bytes state).1.AllPublished := by
  rcases session.applyPaneOutput_cases interimTextTerminalEngine paneId state bytes with hsame | hupdate
  · rw [hsame]
    exact h
  · obtain ⟨pane, update, hpane, hupdate, hresult⟩ := hupdate
    rw [hresult]
    refine h.write fun found hfound => ?_
    obtain rfl := Option.some.inj (hfound.symm.trans hpane)
    have hfound := h.pane hpane
    exact hfound.output (interimApplyOutput_plain hfound.knownInput hupdate)

theorem resize (h : session.AllPublished) (paneId : String) (cols rows : UInt32)
    (state : InterimAnsiState) :
    (session.commitPaneResizeWithEngine interimTextTerminalEngine paneId cols rows
      state).1.AllPublished := by
  rcases session.commitPaneResize_cases interimTextTerminalEngine paneId state cols rows with
    hsame | hupdate
  · rw [hsame]
    exact h
  · obtain ⟨pane, update, hpane, hupdate, hresult⟩ := hupdate
    rw [hresult]
    refine (h.write fun found hfound => ?_).of_nodes_eq (Session.bumpVersion_nodes _)
    obtain rfl := Option.some.inj (hfound.symm.trans hpane)
    exact resizedPane_published (interimResize_plain cols (h.pane hpane).knownInput hupdate)

theorem policy (h : session.AllPublished) (paneId : String) (policy : Protocol.ResizePolicy) :
    (session.setPaneResizePolicy paneId policy).1.AllPublished := by
  rcases session.setPaneResizePolicy_cases paneId policy with hsame | hwrite
  · rw [hsame]
    exact h
  · rw [hwrite]
    exact (h.write fun found hfound => (h.pane hfound).unchecked _ _ policy).of_nodes_eq
      (Session.bumpVersion_nodes _)

end Session.AllPublished

/-! ### Events -/

/-- The rows an event needs: two for the pane of a new tab; for a split, those of the leaf's lines in
its first half and two in its second. An event the session refuses for its ids needs none. -/
def EventFits (session : Session) : SessionEvent → Prop
  | .addTab tabId _ paneId _ =>
    tabId.isEmpty = false → paneId.isEmpty = false → session.tabs.any (·.id == tabId) = false →
      session.pane paneId = none →
        ∀ active ∈ session.activeTab, 2 ≤ active.root.state.rows.toNat
  | .splitPane paneId axis newPaneId _ =>
    newPaneId.isEmpty = false → session.pane newPaneId = none →
      ∀ active ∈ session.activeTab, ∀ node ∈ active.root.nodes, node.leaf = true →
        node.state.id = paneId →
          ∀ sizes ∈ splitChildSizes node.state.cols node.state.rows axis,
            node.state.surfaceLines.length ≤ sizes.firstRows.toNat ∧ 2 ≤ sizes.secondRows.toNat
  | _ => True

instance (session : Session) (event : SessionEvent) : Decidable (EventFits session event) := by
  cases event <;> unfold EventFits <;> infer_instance

theorem Session.AllPublished.split {session : Session} (h : session.AllPublished) {paneId : String}
    {axis : Protocol.SplitAxis} {newPaneId : String} {newHost : HostSpec}
    (hfits : EventFits session (.splitPane paneId axis newPaneId newHost)) :
    (session.splitPane paneId axis newPaneId newHost).1.AllPublished := by
  rcases session.splitPane_cases paneId axis newPaneId newHost with hsame | hsplit
  · rw [hsame]
    exact h
  · obtain ⟨hempty, hfresh, active, root, left, right, hactive, -, hsplit, hnodes, hresult⟩ := hsplit
    obtain ⟨before, after, target, sizes, hroot, hid, hsizes, rfl⟩ := hsplit.split
    have htarget : ⟨target, true⟩ ∈ active.root.nodes := by simp [hroot]
    obtain ⟨hfirst, hsecond⟩ :=
      hfits hempty hfresh active hactive ⟨target, true⟩ htarget rfl hid sizes hsizes
    have hpub : target.Published := h ⟨target, true⟩ (by simp [hnodes, htarget])
    intro node hnode
    rw [hresult] at hnode
    simp only [List.mem_append, List.mem_cons] at hnode
    have hkept (hmem : node ∈ left ∨ (node ∈ before ∨ node ∈ after) ∨ node ∈ right) :
        node.state.Published := by
      refine h node ?_
      simp only [hnodes, hroot, List.mem_append, List.mem_cons]
      tauto
    rcases hnode with (hmem | hmem | rfl | rfl | rfl | hmem) | hmem
    · exact hkept (.inl hmem)
    · exact hkept (.inr (.inl (.inl hmem)))
    · exact hpub.container hsizes
    · exact hpub.existing hfirst
    · exact newPaneFromTemplate_published _ _ _ _ hsecond
    · exact hkept (.inr (.inl (.inr hmem)))
    · exact hkept (.inr (.inr hmem))

theorem Session.AllPublished.addTab {session : Session} (h : session.AllPublished)
    {tabId title paneId : String} {host : HostSpec}
    (hfits : EventFits session (.addTab tabId title paneId host)) :
    (session.addTab tabId title paneId host).1.AllPublished := by
  rcases session.addTab_cases tabId title paneId host with hsame | hadd
  · rw [hsame]
    exact h
  · obtain ⟨htab, hpane, hfreshTab, hfresh, active, hactive, -, hnodes⟩ := hadd
    intro node hnode
    rw [hnodes, List.mem_append, List.mem_singleton] at hnode
    rcases hnode with hnode | rfl
    · exact h node hnode
    · exact newPaneFromTemplate_published _ _ _ _ (hfits htab hpane hfreshTab hfresh active hactive)

/-- One accepted event. -/
theorem applyAccepted_published {core : SessionCore InterimAnsiState} {accepted : AcceptedSessionEvent}
    (h : core.session.AllPublished) (hfits : EventFits core.session accepted.event) :
    (core.applyAccepted interimTextTerminalEngine accepted).1.session.AllPublished := by
  cases hevent : accepted.event <;> simp only [SessionCore.applyAccepted, hevent]
  case addTab tabId title paneId host => exact h.addTab (hevent ▸ hfits)
  case switchTab tabId => exact h.of_nodes_eq (Session.switchTab_nodes _ _)
  case closeTab tabId =>
    exact fun node hnode => h node ((Session.closeTab_nodes _ _).subset hnode)
  case focusPane paneId => exact h.of_nodes_eq (Session.focusPane_nodes _ _)
  case splitPane paneId axis newPaneId newHost => exact h.split (hevent ▸ hfits)
  case setPaneResizePolicy paneId policy => exact h.policy paneId policy
  case paneOutput paneId bytes => exact h.output paneId bytes _
  case commitPaneResize paneId cols rows => exact h.resize paneId cols rows _
  case requestSessionShutdown sessionId => exact h
  case forwardPaneInput paneId inputSeq bytes => exact h

theorem initial_published : Session.initial.AllPublished := by
  intro node hnode
  have hnode' : node = ⟨{ newPaneFromTemplate "pane-1" (.local "local" (.new "sh")) 80 24 with
      host := .local "local" (.new "sh")
      surfaceVersion := 2 }, true⟩ := by
    simpa [Session.nodes, Session.initial, Pane.nodes, Pane.nodesOf] using hnode
  subst hnode'
  have h := newPaneFromTemplate_published "pane-1" (.local "local" (.new "sh")) 80 24
    (by decide)
  exact h.unchecked (.local "local" (.new "sh")) 2 .fixed

/-! ### Runs -/

/-- The core of the interim engine after one accepted event. -/
def interimStep (core : SessionCore InterimAnsiState) (pending : PendingSessionEvent) :
    SessionCore InterimAnsiState :=
  (core.acceptPending interimTextTerminalEngine pending).1

theorem interimStep_published {core : SessionCore InterimAnsiState} {pending : PendingSessionEvent}
    (h : core.session.AllPublished) (hfits : EventFits core.session pending.event) :
    (interimStep core pending).session.AllPublished :=
  applyAccepted_published h hfits

/-- **Every published snapshot is acceptable.** In every session reached from the initial one by
events that leave their panes the rows they need, every leaf keeps its vectors parallel and within its
rows, and a client accepts the snapshot the session sends for it. -/
theorem published_snapshots_acceptable {events : List PendingSessionEvent}
    (hfits : Along interimStep
      (fun (core : SessionCore _) pending => EventFits core.session pending.event)
      (.new interimTextTerminalEngine Session.initial) events) :
    let session := (run interimStep (.new interimTextTerminalEngine Session.initial) events).session
    ∀ node ∈ session.nodes, node.leaf = true → node.state.Published ∧
      ∃ pane surface, session.pane node.state.id = some pane ∧
        ClientPaneSurface.fromSnapshot pane.state.snapshotContent = .ok surface := by
  intro session
  have hall : session.AllPublished :=
    hfits.invariant (I := fun core : SessionCore InterimAnsiState => core.session.AllPublished)
      (fun _ _ h hok => interimStep_published h hok) initial_published
  intro node hnode _
  have hsome : (session.pane node.state.id).isSome = true := by
    rw [Session.pane_isSome, List.any_eq_true]
    exact ⟨node, hnode, by simp [PaneNode.named]⟩
  obtain ⟨pane, hpane⟩ := Option.isSome_iff_exists.mp hsome
  exact ⟨hall node hnode, pane, _, hpane, (hall.pane hpane).accepted⟩

/-- Output, a second tab and a split, with rows to spare. -/
theorem published_snapshots_acceptable_split :
    let events : List PendingSessionEvent := [
      ⟨"pane-1", .pane, 0, .paneOutput "pane-1" [0x68, 0x69]⟩,
      ⟨"control", .control, 1, .splitPane "pane-1" .horizontal "pane-2" (.local "local" (.new "sh"))⟩,
      ⟨"control", .control, 2, .addTab "tab-2" "work" "pane-3" (.local "local" (.new "sh"))⟩]
    let session := (run interimStep (.new interimTextTerminalEngine Session.initial) events).session
    ∀ node ∈ session.nodes, node.leaf = true → node.state.Published ∧
      ∃ pane surface, session.pane node.state.id = some pane ∧
        ClientPaneSurface.fromSnapshot pane.state.snapshotContent = .ok surface := by
  exact published_snapshots_acceptable ⟨trivial, by decide, by decide, trivial⟩

/-- A two row pane shows both its lines in the one row a split leaves it, so no client accepts it. -/
theorem published_snapshot_rejected :
    let events : List PendingSessionEvent := [
      ⟨"pane-1", .pane, 0, .commitPaneResize "pane-1" 80 2⟩,
      ⟨"control", .control, 1, .splitPane "pane-1" .horizontal "pane-2" (.local "local" (.new "sh"))⟩]
    let session := (run interimStep (.new interimTextTerminalEngine Session.initial) events).session
    ∃ node ∈ session.nodes, node.leaf = true ∧
      node.state.rows.toNat < node.state.surfaceLines.length ∧
        ∀ surface, ClientPaneSurface.fromSnapshot node.state.snapshotContent ≠ .ok surface := by
  intro events session
  have hleaf : ∃ node ∈ session.nodes, node.leaf = true ∧
      node.state.rows.toNat < node.state.surfaceLines.length := by decide
  obtain ⟨node, hnode, hleaf, hrows⟩ := hleaf
  refine ⟨node, hnode, hleaf, hrows, fun surface haccepted => ?_⟩
  have hfit := (node.state.fromSnapshot_eq_ok.mp haccepted).1.rowsFit
  omega

end Nmux
