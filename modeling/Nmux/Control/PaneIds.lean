import Nmux.Control.Reachable
import Nmux.Core.PaneNames
import Nmux.Workspace.Published

/-! Ids of nodes over a history of commands. New panes and tabs are refused under an id in use, the
container of a split is not: its id joins two ids with dashes, and a client may have named a tab so that
its pane has that id already. Where no split meets such an id, an id addresses one node for the session
and the client alike. -/
namespace Nmux

open Client
open Lib (replaceFirst replaceFirst_append)

/-- The command splits no pane whose container would take the id of a node. -/
def ContainerIdFree (session : Session) (command : ControlCommandSummary) : Prop :=
  command.kind = .paneSplit → ∀ split, planPaneSplit session command = .ok split →
    session.pane ("split-" ++ split.targetPaneId ++ "-" ++ split.newPaneId) = none

/-- An id addresses one node: the ids differ, every lookup under a node's id finds that node, a write
through it changes that node, a split of it splits that node, and the client's lookup in the published
tree finds its table. -/
structure Session.OneNodePerId (session : Session) : Prop where
  distinct : session.DistinctIds
  pane : ∀ node ∈ session.nodes, (session.pane node.state.id).map Pane.asNode = some node
  paneMut : ∀ node ∈ session.nodes, ∀ write, ∃ before after,
    session.nodes = before ++ node :: after ∧
      (session.writePane write node.state.id).nodes = before ++ node.write write :: after
  split : ∀ node ∈ session.nodes, ∀ axis newPaneId newHost,
    (session.splitPane node.state.id axis newPaneId newHost).2 = true → node.leaf = true ∧
      ∃ before after sizes, session.nodes = before ++ node :: after ∧
        (session.splitPane node.state.id axis newPaneId newHost).1.nodes =
          before ++ ⟨splitContainer node.state axis newPaneId sizes, false⟩ ::
            ⟨splitExisting node.state sizes, true⟩ ::
            ⟨newPaneFromTemplate newPaneId newHost sizes.secondCols sizes.secondRows, true⟩ :: after
  client : ∀ tab ∈ session.tabs, ∀ node ∈ tab.root.nodes, ∃ pane, pane.asNode = node ∧
    findPaneNode node.state.id (buildPaneNode tab.root) = some (buildPaneNode pane)

/-! ### Distinct ids -/

/-- In a list of distinct ids the first node of an id is the node that has it. -/
theorem find?_named_of_nodup {nodes : List PaneNode} (h : (nodes.map (·.state.id)).Nodup)
    {node : PaneNode} (hnode : node ∈ nodes) : nodes.find? (PaneNode.named node.state.id) = some node := by
  have hsome : (nodes.find? (PaneNode.named node.state.id)).isSome = true :=
    List.find?_isSome.mpr ⟨node, hnode, by simp [PaneNode.named]⟩
  obtain ⟨found, hfound⟩ := Option.isSome_iff_exists.mp hsome
  have hid : found.state.id = node.state.id := by simpa [PaneNode.named] using List.find?_some hfound
  rw [hfound, List.inj_on_of_nodup_map h (List.mem_of_find?_eq_some hfound) hnode hid]

namespace Session.DistinctIds

variable {session : Session}

/-- Around a node no other has its id. -/
theorem around (h : session.DistinctIds) {before after : List PaneNode} {node : PaneNode}
    (hnodes : session.nodes = before ++ node :: after) :
    before.any (PaneNode.named node.state.id) = false := by
  rw [DistinctIds, hnodes, List.map_append, List.map_cons, List.nodup_append] at h
  rw [List.any_eq_false]
  intro other hother hid
  refine h.2.2 other.state.id (List.mem_map_of_mem hother) node.state.id List.mem_cons_self ?_
  simpa [PaneNode.named] using hid

/-- Distinct ids address one node each. -/
theorem oneNodePerId (h : session.DistinctIds) : session.OneNodePerId where
  distinct := h
  pane := by
    intro node hnode
    rw [pane_asNode, find?_named_of_nodup h hnode]
  paneMut := by
    intro node hnode write
    obtain ⟨before, after, hnodes⟩ := List.append_of_mem hnode
    refine ⟨before, after, hnodes, ?_⟩
    have hnamed : PaneNode.named node.state.id node = true := by simp [PaneNode.named]
    rw [writePane_nodes, hnodes, replaceFirst_append, h.around hnodes]
    simp [replaceFirst, hnamed]
  split := by
    intro node hnode axis newPaneId newHost hdone
    rcases session.splitPane_cases node.state.id axis newPaneId newHost with hsame | hsplit
    · rw [hsame] at hdone
      cases hdone
    · obtain ⟨-, -, active, root, left, right, -, -, hsplit, hnodes, hresult⟩ := hsplit
      obtain ⟨before, after, target, sizes, hroot, hid, -, rfl⟩ := hsplit.split
      have hmem : ⟨target, true⟩ ∈ session.nodes := by simp [hnodes, hroot]
      obtain rfl : node = ⟨target, true⟩ := List.inj_on_of_nodup_map h hnode hmem hid.symm
      refine ⟨rfl, left ++ before, after ++ right, sizes, ?_, ?_⟩
      · rw [hnodes, hroot]
        simp
      · rw [hresult]
        simp
  client := by
    intro tab htab node hnode
    have hsub : tab.root.nodes.Sublist session.nodes :=
      List.sublist_flatten_of_mem (List.mem_map_of_mem htab)
    have hfind := paneNode_asNode node.state.id tab.root
    have hfound : tab.root.nodes.find? (fun other => other.state.id == node.state.id) = some node :=
      find?_named_of_nodup (h.sublist (hsub.map _)) hnode
    rw [hfound] at hfind
    obtain ⟨pane, hpane, hasNode⟩ := Option.map_eq_some_iff.mp hfind
    exact ⟨pane, hasNode, by rw [findPaneNode_build, hpane, Option.map_some]⟩

/-- A split that is carried out keeps the ids distinct exactly if its container's id was free. -/
theorem split_iff (h : session.DistinctIds) {target newPaneId : String} {axis : Protocol.SplitAxis}
    {newHost : HostSpec} (hdone : (session.splitPane target axis newPaneId newHost).2 = true) :
    (session.splitPane target axis newPaneId newHost).1.DistinctIds ↔
      session.pane ("split-" ++ target ++ "-" ++ newPaneId) = none := by
  refine ⟨fun hafter => ?_, fun hfree => h.split hfree⟩
  by_contra htaken
  rcases session.splitPane_cases target axis newPaneId newHost with hsame | hsplit
  · rw [hsame] at hdone
    cases hdone
  · obtain ⟨-, -, active, root, left, right, -, -, hsplit, hnodes, hresult⟩ := hsplit
    obtain ⟨before, after, state, sizes, hroot, rfl, -, rfl⟩ := hsplit.split
    have hany : session.nodes.any (PaneNode.named ("split-" ++ state.id ++ "-" ++ newPaneId)) = true := by
      rw [← pane_isSome, Option.isSome_iff_ne_none]
      exact htaken
    obtain ⟨node, hnode, hid⟩ := List.any_eq_true.mp hany
    have hcount : 1 ≤ (session.nodes.map (·.state.id)).count ("split-" ++ state.id ++ "-" ++ newPaneId) :=
      List.one_le_count_iff.mpr (List.mem_map.mpr ⟨node, hnode, by simpa [PaneNode.named] using hid⟩)
    have hafterCount := List.nodup_iff_count_le_one.mp hafter ("split-" ++ state.id ++ "-" ++ newPaneId)
    rw [hresult] at hafterCount
    rw [hnodes, hroot] at hcount
    simp only [List.map_append, List.map_cons, List.count_append, List.count_cons, splitContainer,
      splitExisting, newPaneFromTemplate, beq_self_eq_true, if_true] at hcount hafterCount
    omega

end Session.DistinctIds

/-- One command keeps the ids distinct. -/
theorem Session.CommandStep.distinctIds {session after : Session} {command : ControlCommandSummary}
    (hstep : CommandStep session command after) (hfree : ContainerIdFree session command)
    (h : session.DistinctIds) : after.DistinctIds := by
  cases hstep with
  | same => exact h
  | split split hkind hplan => exact h.split (hfree hkind split hplan)
  | tabNew tab =>
    exact (h.addTab tab.tabId tab.title tab.paneId tab.newHost).of_nodes_eq (switchTab_nodes _ _)
  | tabClose tab => exact h.sublist ((closeTab_nodes session tab.tabId).map _)
  | tabSwitch tabId => exact h.of_nodes_eq (switchTab_nodes session tabId)

/-- **Pane ids address exactly one node** in every session that control commands reach, as long as no
split meets a node with its container's id. -/
theorem pane_ids_address_one_node {session : Session}
    (h : SessionReached ContainerIdFree (fun _ _ _ _ => False) session) : session.OneNodePerId := by
  have hdistinct : session.DistinctIds := by
    induction h with
    | initial => decide
    | command host state command _ hfree ih =>
      exact (Session.applyControlCommand_step host).distinctIds hfree ih
    | resize engine state paneId cols rows _ hnever => exact hnever.elim
  exact hdistinct.oneNodePerId

/-- A split of the initial pane. -/
theorem pane_ids_address_one_node_split :
    (Session.initial.applyControlCommand (some ProcessHost.quiet) ()
      ⟨"alice", 1, .paneSplit, none, none, .vertical, none, none⟩).2.1.OneNodePerId := by
  have hfree : (planPaneSplit Session.initial
      ⟨"alice", 1, .paneSplit, none, none, .vertical, none, none⟩).toOption.all (fun split =>
        (Session.initial.pane ("split-" ++ split.targetPaneId ++ "-" ++ split.newPaneId)).isNone) =
      true := by decide
  have hok : ContainerIdFree Session.initial
      ⟨"alice", 1, .paneSplit, none, none, .vertical, none, none⟩ := by
    intro _ split hplan
    rw [hplan] at hfree
    simpa [Except.toOption] using hfree
  exact pane_ids_address_one_node (.command (some ProcessHost.quiet) () _ .initial hok)

/-- The tab `t` is opened, then one named `split-t-pane-1`, whose pane is `split-t-pane-1-pane-1`; the
first tab is closed, which frees `pane-1`. A split of `t-pane-1` now names its container like that
pane. -/
def collidingCommands : List ControlCommandSummary := [
  ⟨"alice", 1, .tabNew, none, some "t", .none, none, none⟩,
  ⟨"alice", 2, .tabNew, none, some "split-t-pane-1", .none, none, none⟩,
  ⟨"alice", 3, .tabClose, none, some "tab-1", .none, none, none⟩,
  ⟨"alice", 4, .tabSwitch, none, some "t", .none, none, none⟩,
  ⟨"alice", 5, .paneSplit, some "t-pane-1", none, .vertical, none, none⟩]

theorem pane_ids_collide : ¬ ∀ session, ControlReachable session → session.DistinctIds := by
  intro h
  have hreach : ∀ (commands : List ControlCommandSummary) (session : Session),
      ControlReachable session → ControlReachable
        (session.applyControlCommands (some ProcessHost.quiet) () commands).2.1 := by
    intro commands
    induction commands with
    | nil => exact fun session hsession => hsession
    | cons command rest ih =>
      exact fun session hsession => ih _ (.command (some ProcessHost.quiet) () command hsession trivial)
  have hdistinct := h _ (hreach collidingCommands Session.initial .initial)
  revert hdistinct
  decide +kernel

end Nmux
