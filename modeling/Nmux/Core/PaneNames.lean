import Nmux.Core.PaneMoves

/-! Names of panes. Two nodes of a session may have one id only after a split whose container takes the
id of another node; as long as containers get fresh names, a lookup finds the only pane of its id. -/
namespace Nmux

/-- No two nodes of the session have the same id. -/
def Session.DistinctIds (session : Session) : Prop := (session.nodes.map (·.state.id)).Nodup

instance (session : Session) : Decidable session.DistinctIds :=
  inferInstanceAs (Decidable (List.Nodup _))

/-- The container of a split gets a name no node has. -/
def ContainerFresh (session : Session) : SessionEvent → Prop
  | .splitPane target _ newPaneId _ => session.pane ("split-" ++ target ++ "-" ++ newPaneId) = none
  | _ => True

instance (session : Session) (event : SessionEvent) : Decidable (ContainerFresh session event) :=
  match event with
  | .splitPane _ _ _ _ => inferInstanceAs (Decidable (_ = none))
  | .paneOutput .. | .commitPaneResize .. | .forwardPaneInput .. | .addTab .. | .closeTab ..
  | .switchTab .. | .focusPane .. | .setPaneResizePolicy .. | .requestSessionShutdown .. =>
    inferInstanceAs (Decidable True)

namespace Session

variable {session : Session}

theorem id_ne_of_pane_none {name : String} (h : session.pane name = none) :
    ∀ node ∈ session.nodes, node.state.id ≠ name := by
  intro node hnode hid
  have hany : session.nodes.any (PaneNode.named name) = true :=
    List.any_eq_true.mpr ⟨node, hnode, by simp [PaneNode.named, hid]⟩
  rw [← pane_isSome, h] at hany
  cases hany

theorem DistinctIds.of_nodes_eq {after : Session} (h : session.DistinctIds)
    (hnodes : after.nodes = session.nodes) : after.DistinctIds := by
  rw [DistinctIds, hnodes]
  exact h

theorem DistinctIds.write (h : session.DistinctIds) {write : PaneState → PaneState} {target : String}
    (hid : ∀ pane, (write pane).id = pane.id) : (session.writePane write target).DistinctIds := by
  rw [DistinctIds, writePane_nodes, Lib.map_replaceFirst fun node => hid node.state]
  exact h

theorem DistinctIds.addTab (h : session.DistinctIds) (tabId title paneId : String) (host : HostSpec) :
    (session.addTab tabId title paneId host).1.DistinctIds := by
  rcases session.addTab_cases tabId title paneId host with hsame | hadd
  · rw [hsame]
    exact h
  · obtain ⟨-, -, -, hfresh, active, -, -, hnodes⟩ := hadd
    rw [DistinctIds, hnodes, List.map_append, List.map_singleton, List.nodup_append]
    refine ⟨h, List.nodup_singleton _, ?_⟩
    intro id hid name hname
    obtain ⟨node, hnode, rfl⟩ := List.mem_map.mp hid
    obtain rfl := List.mem_singleton.mp hname
    exact id_ne_of_pane_none hfresh node hnode

theorem DistinctIds.split (h : session.DistinctIds) {target newPaneId : String}
    {axis : Protocol.SplitAxis} {newHost : HostSpec}
    (hcontainer : ContainerFresh session (.splitPane target axis newPaneId newHost)) :
    (session.splitPane target axis newPaneId newHost).1.DistinctIds := by
  rcases session.splitPane_cases target axis newPaneId newHost with hsame | hsplit
  · rw [hsame]
    exact h
  · obtain ⟨-, hfresh, active, root, left, right, -, -, hsplit, hnodes, hresult⟩ := hsplit
    obtain ⟨before, after, state, sizes, hroot, rfl, -, rfl⟩ := hsplit.split
    have hperm : ((session.splitPane state.id axis newPaneId newHost).1.nodes.map (·.state.id)).Perm
        (("split-" ++ state.id ++ "-" ++ newPaneId) :: newPaneId ::
          session.nodes.map (·.state.id)) := by
      rw [List.perm_iff_count]
      intro id
      rw [hresult, hnodes, hroot]
      simp only [List.map_append, List.map_cons, List.count_append, List.count_cons, splitContainer,
        splitExisting, newPaneFromTemplate]
      omega
    rw [DistinctIds, hperm.nodup_iff, List.nodup_cons, List.nodup_cons]
    refine ⟨?_, ?_, h⟩
    · rw [List.mem_cons, not_or]
      refine ⟨fun hname => ?_, fun hmem => ?_⟩
      · have hlength := congrArg String.length hname
        simp only [String.length_append] at hlength
        have : "split-".length = 6 := rfl
        omega
      · obtain ⟨node, hnode, hid⟩ := List.mem_map.mp hmem
        exact id_ne_of_pane_none hcontainer node hnode hid
    · intro hmem
      obtain ⟨node, hnode, hid⟩ := List.mem_map.mp hmem
      exact id_ne_of_pane_none hfresh node hnode hid

theorem DistinctIds.policy (h : session.DistinctIds) (target : String)
    (policy : Protocol.ResizePolicy) : (session.setPaneResizePolicy target policy).1.DistinctIds := by
  rcases session.setPaneResizePolicy_cases target policy with hsame | hwrite
  · rw [hsame]
    exact h
  · rw [hwrite]
    have hwritten : (session.writePane (fun pane => { pane with resizePolicy := policy }) target).DistinctIds :=
      h.write fun _ => rfl
    exact hwritten.of_nodes_eq (bumpVersion_nodes _)

theorem DistinctIds.output {σ : Type} {engine : TerminalEngine σ} (h : session.DistinctIds)
    (target : String) (bytes : List UInt8) (state : σ) :
    (session.applyPaneOutputWithEngine engine target bytes state).1.DistinctIds := by
  rcases session.applyPaneOutput_cases engine target state bytes with hsame | hupdate
  · rw [hsame]
    exact h
  · obtain ⟨-, update, -, -, hresult⟩ := hupdate
    rw [hresult]
    exact h.write fun pane => applyTerminalUpdate_id pane _ _

theorem DistinctIds.resize {σ : Type} {engine : TerminalEngine σ} (h : session.DistinctIds)
    (target : String) (cols rows : UInt32) (state : σ) :
    (session.commitPaneResizeWithEngine engine target cols rows state).1.DistinctIds := by
  rcases session.commitPaneResize_cases engine target state cols rows with hsame | hupdate
  · rw [hsame]
    exact h
  · obtain ⟨-, update, -, -, hresult⟩ := hupdate
    rw [hresult]
    have hwritten : (session.writePane (resizedPane cols rows update) target).DistinctIds :=
      h.write fun pane => applyTerminalUpdate_id _ _ _
    exact hwritten.of_nodes_eq (bumpVersion_nodes _)

end Session

theorem acceptPending_distinctIds {σ : Type} {engine : TerminalEngine σ} {core : SessionCore σ}
    {pending : PendingSessionEvent} (hdistinct : core.session.DistinctIds)
    (hfresh : ContainerFresh core.session pending.event) :
    (core.acceptPending engine pending).1.session.DistinctIds := by
  show (SessionCore.applyAccepted engine { core with nextEventIndex := _ }
    (core.accepting pending)).1.session.DistinctIds
  cases hevent : pending.event <;> rw [hevent] at hfresh <;>
    simp only [SessionCore.applyAccepted, SessionCore.accepting, hevent]
  case addTab => exact hdistinct.addTab _ _ _ _
  case switchTab => exact hdistinct.of_nodes_eq (Session.switchTab_nodes _ _)
  case closeTab => exact hdistinct.sublist ((Session.closeTab_nodes _ _).map _)
  case focusPane => exact hdistinct.of_nodes_eq (Session.focusPane_nodes _ _)
  case splitPane => exact hdistinct.split hfresh
  case setPaneResizePolicy => exact hdistinct.policy _ _
  case paneOutput => exact hdistinct.output _ _ _
  case commitPaneResize => exact hdistinct.resize _ _ _ _
  case requestSessionShutdown => exact hdistinct
  case forwardPaneInput => exact hdistinct

/-! ### Lookups of distinct names -/

/-- Distinct names hold one pane each. -/
theorem Session.DistinctIds.named_subset {session : Session} (h : session.DistinctIds)
    {paneId : String} {pane : Pane} (hpane : session.pane paneId = some pane) :
    session.named paneId ⊆ [pane.state] := by
  intro state hstate
  obtain ⟨node, hnode, rfl, hid⟩ := mem_named.mp hstate
  obtain ⟨-, hmem, hpaneId⟩ := pane_mem_nodes hpane
  obtain rfl : node = pane.asNode := List.inj_on_of_nodup_map h hnode hmem (hid.trans hpaneId.symm)
  exact List.mem_singleton.mpr rfl

end Nmux
