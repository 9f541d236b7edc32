import Nmux.Core.Events
import Nmux.Core.SessionNodes

/-! What an accepted event does to the panes of one name. Every pane there is after it is related to one
before it, or created by it, as far as the event's own writes are: an event writes to the pane it
names, a split and a new tab make new nodes, and all other panes stay as they are. -/
namespace Nmux

namespace Session

/-- The states of the nodes with that id. -/
def named (session : Session) (paneId : String) : List PaneState :=
  (session.nodes.filter (PaneNode.named paneId)).map (·.state)

theorem mem_named {session : Session} {paneId : String} {state : PaneState} :
    state ∈ session.named paneId ↔ ∃ node ∈ session.nodes, node.state = state ∧ state.id = paneId := by
  simp only [named, List.mem_map, List.mem_filter, PaneNode.named, beq_iff_eq]
  constructor
  · rintro ⟨node, ⟨hnode, hid⟩, rfl⟩
    exact ⟨node, hnode, rfl, hid⟩
  · rintro ⟨node, hnode, rfl, hid⟩
    exact ⟨node, ⟨hnode, hid⟩, rfl⟩

theorem pane_mem_named {session : Session} {paneId : String} {pane : Pane}
    (h : session.pane paneId = some pane) : pane.state ∈ session.named paneId := by
  obtain ⟨-, hmem, hid⟩ := pane_mem_nodes h
  exact mem_named.mpr ⟨_, hmem, rfl, hid⟩

/-- Every pane of that name is related to one before, or created. -/
def Moves (related : PaneState → PaneState → Prop) (created : PaneState → Prop) (paneId : String)
    (before after : Session) : Prop :=
  ∀ later ∈ after.named paneId, (∃ earlier ∈ before.named paneId, related earlier later) ∨ created later

variable {related : PaneState → PaneState → Prop} {created : PaneState → Prop} {paneId : String}
  {before after : Session}

theorem Moves.of_nodes (hrefl : ∀ state, related state state)
    (h : ∀ node ∈ after.nodes, node.state.id = paneId → node ∈ before.nodes ∨
      (∃ earlier ∈ before.nodes, earlier.state.id = paneId ∧ related earlier.state node.state) ∨
        created node.state) : Moves related created paneId before after := by
  intro state hstate
  obtain ⟨node, hnode, rfl, hid⟩ := mem_named.mp hstate
  rcases h node hnode hid with hkept | ⟨earlier, hearlier, hearlierId, hrelated⟩ | hcreated
  · exact .inl ⟨_, mem_named.mpr ⟨node, hkept, rfl, hid⟩, hrefl _⟩
  · exact .inl ⟨_, mem_named.mpr ⟨earlier, hearlier, rfl, hearlierId⟩, hrelated⟩
  · exact .inr hcreated

theorem Moves.of_nodes_subset (hrefl : ∀ state, related state state)
    (h : after.nodes ⊆ before.nodes) : Moves related created paneId before after :=
  .of_nodes hrefl fun _ hnode _ => .inl (h hnode)

theorem Moves.of_nodes_eq (hrefl : ∀ state, related state state) (h : after.nodes = before.nodes) :
    Moves related created paneId before after :=
  .of_nodes_subset hrefl (h ▸ fun _ hnode => hnode)

/-- A write to the pane a lookup finds, which keeps its id. -/
theorem Moves.write (hrefl : ∀ state, related state state) {session : Session}
    {write : PaneState → PaneState} {target : String} (hid : ∀ pane, (write pane).id = pane.id)
    (hrelated : target = paneId → ∀ pane, session.pane target = some pane →
      related pane.state (write pane.state)) :
    Moves related created paneId session (session.writePane write target) := by
  refine .of_nodes hrefl fun node hnode hnodeId => ?_
  rw [writePane_nodes] at hnode
  rcases Lib.mem_replaceFirst hnode with hkept | ⟨found, hfound, rfl⟩
  · exact .inl hkept
  · obtain ⟨pane, hpane, rfl⟩ : ∃ pane, session.pane target = some pane ∧ pane.asNode = found := by
      rw [← pane_asNode] at hfound
      exact Option.map_eq_some_iff.mp hfound
    obtain ⟨-, hmem, hpaneId⟩ := pane_mem_nodes hpane
    have htarget : target = paneId := by
      rw [← hpaneId, ← hid]
      exact hnodeId
    exact .inr (.inl ⟨pane.asNode, hmem, hpaneId.trans htarget, hrelated htarget pane hpane⟩)

end Session

/-! ### Events -/

section
variable {σ : Type} (engine : TerminalEngine σ) (related : PaneState → PaneState → Prop)
  (created : PaneState → Prop) (paneId : String)

/-- What the event writes under the name is related to what was there, and what it makes under the
name counts as created. -/
def EventMoves (core : SessionCore σ) : SessionEvent → Prop
  | .addTab _ _ newPaneId host =>
    newPaneId = paneId → newPaneId.isEmpty = false → core.session.pane newPaneId = none →
      ∀ active ∈ core.session.activeTab, created
        (newPaneFromTemplate newPaneId host active.root.state.cols active.root.state.rows)
  | .splitPane target axis newPaneId host =>
    newPaneId.isEmpty = false → core.session.pane newPaneId = none → ∀ state ∈ core.session.named target,
      ∀ sizes ∈ splitChildSizes state.cols state.rows axis,
        ("split-" ++ target ++ "-" ++ newPaneId = paneId →
          created (splitContainer state axis newPaneId sizes)) ∧
        (target = paneId → related state (splitExisting state sizes)) ∧
        (newPaneId = paneId →
          created (newPaneFromTemplate newPaneId host sizes.secondCols sizes.secondRows))
  | .setPaneResizePolicy target policy =>
    target = paneId → ∀ state ∈ core.session.named target, related state { state with resizePolicy := policy }
  | .paneOutput target bytes =>
    target = paneId → ∀ state ∈ core.session.named target,
      ∀ update ∈ (engine.applyOutput (core.terminalEngines target) state.terminalInput bytes).2,
        related state (updateStep state update)
  | .commitPaneResize target cols rows =>
    target = paneId → ∀ state ∈ core.session.named target,
      ∀ update ∈ (engine.resize (core.terminalEngines target) state.terminalInput cols rows).2,
        related state (Session.resizedPane cols rows update state)
  | _ => True

end

section
variable {σ : Type} {engine : TerminalEngine σ} {related : PaneState → PaneState → Prop}
  {created : PaneState → Prop} {paneId : String} {core : SessionCore σ}

theorem Session.addTab_moves (hrefl : ∀ state, related state state) {tabId title newPaneId : String}
    {host : HostSpec}
    (h : EventMoves engine related created paneId core (.addTab tabId title newPaneId host)) :
    Moves related created paneId core.session (core.session.addTab tabId title newPaneId host).1 := by
  rcases core.session.addTab_cases tabId title newPaneId host with hsame | hadd
  · rw [hsame]
    exact .of_nodes_subset hrefl fun _ hnode => hnode
  · obtain ⟨-, hempty, -, hfresh, active, hactive, -, hnodes⟩ := hadd
    refine .of_nodes hrefl fun node hnode hid => ?_
    rw [hnodes, List.mem_append, List.mem_singleton] at hnode
    rcases hnode with hkept | rfl
    · exact .inl hkept
    · exact .inr (.inr (h hid hempty hfresh active hactive))

theorem Session.splitPane_moves (hrefl : ∀ state, related state state) {target newPaneId : String}
    {axis : Protocol.SplitAxis} {newHost : HostSpec}
    (h : EventMoves engine related created paneId core (.splitPane target axis newPaneId newHost)) :
    Moves related created paneId core.session
      (core.session.splitPane target axis newPaneId newHost).1 := by
  rcases core.session.splitPane_cases target axis newPaneId newHost with hsame | hsplit
  · rw [hsame]
    exact .of_nodes_subset hrefl fun _ hnode => hnode
  · obtain ⟨hempty, hfresh, active, root, left, right, -, -, hsplit, hnodes, hresult⟩ := hsplit
    obtain ⟨before, after, state, sizes, hroot, rfl, hsizes, rfl⟩ := hsplit.split
    have hmem : ⟨state, true⟩ ∈ core.session.nodes := by simp [hnodes, hroot]
    obtain ⟨hcontainer, hexisting, hnew⟩ :=
      h hempty hfresh state (mem_named.mpr ⟨_, hmem, rfl, rfl⟩) sizes hsizes
    refine .of_nodes hrefl fun node hnode hname => ?_
    have hkept (hmem : node ∈ left ∨ (node ∈ before ∨ node ∈ after) ∨ node ∈ right) :
        node ∈ core.session.nodes := by
      simp only [hnodes, hroot, List.mem_append, List.mem_cons]
      tauto
    rw [hresult] at hnode
    simp only [List.mem_append, List.mem_cons] at hnode
    rcases hnode with (hmem' | hmem' | rfl | rfl | rfl | hmem') | hmem'
    · exact .inl (hkept (.inl hmem'))
    · exact .inl (hkept (.inr (.inl (.inl hmem'))))
    · exact .inr (.inr (hcontainer hname))
    · exact .inr (.inl ⟨_, hmem, hname, hexisting hname⟩)
    · exact .inr (.inr (hnew hname))
    · exact .inl (hkept (.inr (.inl (.inr hmem'))))
    · exact .inl (hkept (.inr (.inr hmem')))

theorem Session.paneOutput_moves (hrefl : ∀ state, related state state) {target : String}
    {bytes : List UInt8}
    (h : EventMoves engine related created paneId core (.paneOutput target bytes)) :
    Moves related created paneId core.session (core.session.applyPaneOutputWithEngine engine target
      bytes (core.terminalEngines target)).1 := by
  rcases core.session.applyPaneOutput_cases engine target (core.terminalEngines target) bytes with
    hsame | hupdate
  · rw [hsame]
    exact .of_nodes_subset hrefl fun _ hnode => hnode
  · obtain ⟨pane, update, hpane, hupdate, hresult⟩ := hupdate
    rw [hresult]
    refine .write hrefl (fun pane => applyTerminalUpdate_id pane _ _) fun htarget found hfound => ?_
    obtain rfl := Option.some.inj (hfound.symm.trans hpane)
    exact h htarget _ (pane_mem_named hpane) update hupdate

theorem Session.commitPaneResize_moves (hrefl : ∀ state, related state state) {target : String}
    {cols rows : UInt32}
    (h : EventMoves engine related created paneId core (.commitPaneResize target cols rows)) :
    Moves related created paneId core.session (core.session.commitPaneResizeWithEngine engine target
      cols rows (core.terminalEngines target)).1 := by
  rcases core.session.commitPaneResize_cases engine target (core.terminalEngines target) cols rows with
    hsame | hupdate
  · rw [hsame]
    exact .of_nodes_subset hrefl fun _ hnode => hnode
  · obtain ⟨pane, update, hpane, hupdate, hresult⟩ := hupdate
    rw [hresult]
    have hwrite : Moves related created paneId core.session
        (core.session.writePane (resizedPane cols rows update) target) := by
      refine .write hrefl (fun pane => applyTerminalUpdate_id _ _ _) fun htarget found hfound => ?_
      obtain rfl := Option.some.inj (hfound.symm.trans hpane)
      exact h htarget _ (pane_mem_named hpane) update hupdate
    exact hwrite

theorem Session.setPaneResizePolicy_moves (hrefl : ∀ state, related state state) {target : String}
    {policy : Protocol.ResizePolicy}
    (h : EventMoves engine related created paneId core (.setPaneResizePolicy target policy)) :
    Moves related created paneId core.session (core.session.setPaneResizePolicy target policy).1 := by
  rcases core.session.setPaneResizePolicy_cases target policy with hsame | hwrite
  · rw [hsame]
    exact .of_nodes_subset hrefl fun _ hnode => hnode
  · rw [hwrite]
    have hwrite : Moves related created paneId core.session
        (core.session.writePane (fun pane => { pane with resizePolicy := policy }) target) :=
      .write hrefl (fun _ => rfl) fun htarget pane hpane => h htarget _ (pane_mem_named hpane)
    exact hwrite

/-- **One accepted event** moves the panes of a name as its own writes do. -/
theorem acceptPending_moves (hrefl : ∀ state, related state state) {pending : PendingSessionEvent}
    (h : EventMoves engine related created paneId core pending.event) :
    Session.Moves related created paneId core.session
      (core.acceptPending engine pending).1.session := by
  show Session.Moves related created paneId core.session
    (SessionCore.applyAccepted engine { core with nextEventIndex := _ } (core.accepting pending)).1.session
  cases hevent : pending.event <;> rw [hevent] at h <;>
    simp only [SessionCore.applyAccepted, SessionCore.accepting, hevent]
  case addTab => exact Session.addTab_moves hrefl h
  case switchTab => exact .of_nodes_eq hrefl (Session.switchTab_nodes _ _)
  case closeTab => exact .of_nodes_subset hrefl (Session.closeTab_nodes _ _).subset
  case focusPane => exact .of_nodes_eq hrefl (Session.focusPane_nodes _ _)
  case splitPane => exact Session.splitPane_moves hrefl h
  case setPaneResizePolicy => exact Session.setPaneResizePolicy_moves hrefl h
  case paneOutput => exact Session.paneOutput_moves hrefl h
  case commitPaneResize => exact Session.commitPaneResize_moves hrefl h
  case requestSessionShutdown => exact .of_nodes_subset hrefl fun _ hnode => hnode
  case forwardPaneInput => exact .of_nodes_subset hrefl fun _ hnode => hnode

end

end Nmux
