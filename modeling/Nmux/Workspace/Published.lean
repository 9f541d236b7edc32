import Nmux.Client.Workspace
import Nmux.Control.Reachable
import Nmux.Control.Frames

/-! The published workspace. The client's reading of a workspace frame is the session's own tree, for
every session commands and resizes reach, as long as the frame is verified at all: a tree of panes
higher than 61 nests its tables deeper than the verifier allows, and splits can grow a tree to any
height as long as resizes give the split pane room. -/
namespace Nmux

open Client
open Lib.Check
open Protocol (ResizePolicy)

/-! ### The session's own tree -/

mutual
/-- What a client should know of a pane. -/
def Pane.summary : Pane → WorkspacePaneSummary
  | .node state children =>
    .node {
        paneId := state.id
        cols := state.cols
        rows := state.rows
        resizePolicy := state.resizePolicy
        splitAxis := state.splitAxis }
      (Pane.summaries children)

def Pane.summaries : List Pane → List WorkspacePaneSummary
  | [] => []
  | child :: rest => child.summary :: Pane.summaries rest
end

def Tab.summary (tab : Tab) : WorkspaceTabSummary where
  tabId := tab.id
  title := tab.title
  activePaneId := tab.activePaneId
  root := tab.root.summary

/-- The session with that tab and that pane of it shown as active. -/
def Session.summaryOf (session : Session) (tab : Tab) (pane : Pane) : WorkspaceSummary where
  sessionId := session.id
  tabId := tab.id
  paneId := pane.state.id
  cols := pane.state.cols
  rows := pane.state.rows
  resizePolicy := pane.state.resizePolicy
  paneTree := some tab.root.summary
  tabs := session.tabs.map Tab.summary

/-- What a client should know of the session: its tabs in order, and the active pane of the active
tab. -/
def Session.summary (session : Session) : Option WorkspaceSummary := do
  let tab ← session.activeTab
  let pane ← paneNode tab.activePaneId tab.root
  return session.summaryOf tab pane

/-! ### What the client checks -/

/-- A node whose id, axis and policy pass the client's checks. -/
structure PaneNode.Presentable (node : PaneNode) : Prop where
  id : node.state.id.isEmpty = false
  axis : node.state.splitAxis.known = true
  policy : node.state.resizePolicy.known = true

mutual
theorem validatePaneNode_build : ∀ pane : Pane, (∀ node ∈ pane.nodes, node.Presentable) →
    validatePaneNode (buildPaneNode pane) = .ok ()
  | .node state children, h => by
    obtain ⟨hid, haxis, hpolicy⟩ := h ⟨state, children.isEmpty⟩ (by simp [Pane.nodes])
    have hkind : Protocol.PaneKind.pty.known = true := by decide
    have hchildren := validatePaneNodes_build children fun node hnode =>
      h node (by simp [Pane.nodes, hnode])
    simp only at hid haxis hpolicy
    simp [buildPaneNode, validatePaneNode, requiredString, hid, validatePaneKind, hkind,
      validateSplitAxis, haxis, validateResizePolicy, hpolicy, require, hchildren, pure, Except.pure]

theorem validatePaneNodes_build : ∀ panes : List Pane,
    (∀ node ∈ Pane.nodesOf panes, node.Presentable) →
      validatePaneNodes (buildPaneNodes panes) = .ok ()
  | [], _ => rfl
  | child :: rest, h => by
    have hchild := validatePaneNode_build child fun node hnode => h node (by simp [Pane.nodesOf, hnode])
    have hrest := validatePaneNodes_build rest fun node hnode => h node (by simp [Pane.nodesOf, hnode])
    simp [buildPaneNodes, validatePaneNodes, hchild, hrest]
end

mutual
theorem workspacePaneSummaryFromNode_build : ∀ pane : Pane,
    (∀ node ∈ pane.nodes, node.Presentable) →
      workspacePaneSummaryFromNode (buildPaneNode pane) = .ok pane.summary
  | .node state children, h => by
    obtain ⟨hid, haxis, hpolicy⟩ := h ⟨state, children.isEmpty⟩ (by simp [Pane.nodes])
    have hchildren := workspacePaneSummariesFromNodes_build children fun node hnode =>
      h node (by simp [Pane.nodes, hnode])
    simp only at hid haxis hpolicy
    simp [buildPaneNode, workspacePaneSummaryFromNode, requiredString, hid, validateSplitAxis, haxis,
      validateResizePolicy, hpolicy, require, hchildren, Pane.summary, pure, Except.pure]

theorem workspacePaneSummariesFromNodes_build : ∀ panes : List Pane,
    (∀ node ∈ Pane.nodesOf panes, node.Presentable) →
      workspacePaneSummariesFromNodes (buildPaneNodes panes) = .ok (Pane.summaries panes)
  | [], _ => rfl
  | child :: rest, h => by
    have hchild := workspacePaneSummaryFromNode_build child fun node hnode =>
      h node (by simp [Pane.nodesOf, hnode])
    have hrest := workspacePaneSummariesFromNodes_build rest fun node hnode =>
      h node (by simp [Pane.nodesOf, hnode])
    simp [buildPaneNodes, workspacePaneSummariesFromNodes, hchild, hrest, Pane.summaries, pure,
      Except.pure]
end

mutual
/-- The client's lookup in the tables finds the table of the pane the session's lookup finds. -/
theorem findPaneNode_build (paneId : String) : ∀ pane : Pane,
    findPaneNode paneId (buildPaneNode pane) = (paneNode paneId pane).map buildPaneNode
  | .node state children => by
    by_cases hid : state.id = paneId
    · simp [buildPaneNode, findPaneNode, paneNode, hid]
    · simp [buildPaneNode, findPaneNode, paneNode, hid, findPaneNodeIn_build paneId children]

theorem findPaneNodeIn_build (paneId : String) : ∀ panes : List Pane,
    findPaneNodeIn paneId (buildPaneNodes panes) = (paneNodeIn paneId panes).map buildPaneNode
  | [] => rfl
  | child :: rest => by
    rw [buildPaneNodes, findPaneNodeIn, findPaneNode_build paneId child,
      findPaneNodeIn_build paneId rest, paneNodeIn]
    cases paneNode paneId child <;> rfl
end

/-! ### Sessions a client reads -/

/-- A session whose strings and enums pass the client's checks. -/
structure Session.Presentable (session : Session) : Prop where
  id : session.id.isEmpty = false
  title : ∀ tab ∈ session.tabs, tab.title.isEmpty = false
  nodeId : ∀ node ∈ session.nodes, node.state.id.isEmpty = false
  policy : ∀ node ∈ session.nodes, node.state.resizePolicy.known = true

theorem Pane.WellFormed.axis_known {pane : Pane} (h : pane.WellFormed) :
    ∀ node ∈ pane.nodes, node.state.splitAxis.known = true := by
  induction h with
  | leaf haxis =>
    intro node hnode
    obtain rfl := List.mem_singleton.mp hnode
    simp only [haxis]
    decide
  | split haxis _ _ ihFirst ihSecond =>
    intro node hnode
    rw [Pane.nodes, List.mem_cons] at hnode
    rcases hnode with rfl | hnode
    · rcases haxis with haxis | haxis <;> simp only [haxis] <;> decide
    · simp only [Pane.nodesOf, List.append_nil, List.mem_append] at hnode
      exact hnode.elim (ihFirst node) (ihSecond node)

section
variable {session : Session} (hsession : session.WellFormed) (hpresent : session.Presentable)
include hsession hpresent

theorem Session.Presentable.node {tab : Tab} (htab : tab ∈ session.tabs) :
    ∀ node ∈ tab.root.nodes, node.Presentable := by
  intro node hnode
  have hmem : node ∈ session.nodes := List.mem_flatMap.mpr ⟨tab, htab, hnode⟩
  exact ⟨hpresent.nodeId node hmem, (hsession.tab tab htab).root.axis_known node hnode,
    hpresent.policy node hmem⟩

/-- The active pane of a tab has a name. -/
theorem Session.Presentable.activePane {tab : Tab} (htab : tab ∈ session.tabs) :
    tab.activePaneId.isEmpty = false := by
  have hmem := (paneNode_isSome _ _).mp (hsession.tab tab htab).activePane
  obtain ⟨node, hnode, hid⟩ := List.mem_map.mp hmem
  rw [← hid]
  exact (Session.Presentable.node hsession hpresent htab node hnode).id

theorem workspaceTabSummary_build {tab : Tab} (htab : tab ∈ session.tabs) :
    workspaceTabSummary (buildTabNode tab) = .ok tab.summary := by
  have hnodes := Session.Presentable.node hsession hpresent htab
  have hid : tab.id.isEmpty = false := by simpa using (hsession.tab tab htab).id
  have htitle := hpresent.title tab htab
  have hactive := Session.Presentable.activePane hsession hpresent htab
  simp [workspaceTabSummary, buildTabNode, requiredString, hid, htitle, hactive, okOr,
    validatePaneNode_build tab.root hnodes, workspacePaneSummaryFromNode_build tab.root hnodes,
    Tab.summary, pure, Except.pure]

theorem workspaceTabSummaries_build :
    workspaceTabSummaries (session.tabs.map buildTabNode) = .ok (session.tabs.map Tab.summary) := by
  have hall : ∀ tabs ⊆ session.tabs,
      workspaceTabSummaries (tabs.map buildTabNode) = .ok (tabs.map Tab.summary) := by
    intro tabs hsub
    induction tabs with
    | nil => rfl
    | cons tab rest ih =>
      have htab := workspaceTabSummary_build hsession hpresent (hsub List.mem_cons_self)
      have hrest := ih fun _ hmem => hsub (List.mem_cons_of_mem _ hmem)
      simp [workspaceTabSummaries, htab, hrest, pure, Except.pure]
  exact hall session.tabs fun _ hmem => hmem

/-- A frame that is verified reads as the session's own tree. -/
theorem workspaceSummaryFromFrame_verified {connectionId : String} {seq : UInt64}
    (hdepth : (session.workspaceTreeFrame connectionId seq).depth ≤ maxDepth) :
    ∃ summary, session.summary = some summary ∧
      workspaceSummaryFromFrame (session.workspaceTreeFrame connectionId seq) = .ok summary := by
  obtain ⟨tab, hactive⟩ : ∃ tab, session.activeTab = some tab := by
    obtain ⟨tab, htab, hid⟩ := List.mem_map.mp hsession.activeTab
    have hsome : session.activeTab.isSome = true :=
      List.find?_isSome.mpr ⟨tab, htab, by simpa using hid⟩
    exact Option.isSome_iff_exists.mp hsome
  have htab := Session.activeTab_mem hactive
  have htabId : tab.id = session.activeTabId := by simpa using List.find?_some hactive
  obtain ⟨pane, hpane⟩ := Option.isSome_iff_exists.mp (hsession.tab tab htab).activePane
  have hnodes := Session.Presentable.node hsession hpresent htab
  have hpaneNode : pane.asNode ∈ tab.root.nodes := by
    have hfind := paneNode_asNode tab.activePaneId tab.root
    rw [hpane, Option.map_some] at hfind
    exact List.mem_of_find?_eq_some hfind.symm
  obtain ⟨hpaneId, -, hpolicy⟩ := hnodes pane.asNode hpaneNode
  have hid : session.activeTabId.isEmpty = false := by
    rw [← htabId]
    simpa using (hsession.tab tab htab).id
  have hfind : (session.tabs.map buildTabNode).find?
      (fun tab => tab.tabId = some session.activeTabId) = some (buildTabNode tab) := by
    rw [List.find?_map]
    have hsame : ((fun tab : Protocol.TabNode => decide (tab.tabId = some session.activeTabId)) ∘
        buildTabNode) = fun tab : Tab => tab.id == session.activeTabId := by
      funext tab
      rw [Bool.eq_iff_iff]
      simp [buildTabNode, Function.comp]
    rw [hsame]
    exact congrArg (Option.map buildTabNode) hactive
  have hfields : (buildPaneNode pane).fields.paneId = some pane.state.id ∧
      (buildPaneNode pane).fields.cols = pane.state.cols ∧
      (buildPaneNode pane).fields.rows = pane.state.rows ∧
      (buildPaneNode pane).fields.resizePolicy = pane.state.resizePolicy := by
    cases pane
    exact ⟨rfl, rfl, rfl, rfl⟩
  refine ⟨session.summaryOf tab pane, by simp [Session.summary, hactive, hpane], ?_⟩
  have hread : sizePrefixedRootAsEnvelope (session.workspaceTreeFrame connectionId seq) =
      .ok (session.workspaceTreeFrame connectionId seq) := if_pos hdepth
  rw [workspaceSummaryFromFrame, hread]
  simp only [Session.workspaceTreeFrame, ok_bind, okOr, requiredString, hpresent.id, hid,
    Bool.false_eq_true, if_false, workspaceTabSummaries_build hsession hpresent, hfind,
    buildTabNode, Session.Presentable.activePane hsession hpresent htab, findPaneNode_build, hpane,
    Option.map_some, workspacePaneSummaryFromNode_build tab.root hnodes, hfields,
    show pane.state.id.isEmpty = false from hpaneId, validateResizePolicy,
    show pane.state.resizePolicy.known = true from hpolicy, require, if_true, htabId]
  rw [Session.summaryOf, htabId]
  rfl

end

/-! ### Sessions commands and resizes reach -/

/-- What a client's checks need of a pane, kept by every write of an engine. -/
def PaneState.Presentable (state : PaneState) : Prop :=
  state.id.isEmpty = false ∧ state.resizePolicy.known = true

theorem PaneState.Presentable.update {state : PaneState} (h : state.Presentable)
    (update : TerminalUpdate) (force : Bool) : (applyTerminalUpdate state update force).1.Presentable := by
  rw [applyTerminalUpdate_eq]
  exact h

namespace Session.Presentable

variable {session : Session}

theorem states (h : session.Presentable) : ∀ node ∈ session.nodes, node.state.Presentable :=
  fun node hnode => ⟨h.nodeId node hnode, h.policy node hnode⟩

theorem of_states (hid : session.id.isEmpty = false)
    (htitle : ∀ tab ∈ session.tabs, tab.title.isEmpty = false)
    (hstates : ∀ node ∈ session.nodes, node.state.Presentable) : session.Presentable :=
  ⟨hid, htitle, fun node hnode => (hstates node hnode).1, fun node hnode => (hstates node hnode).2⟩

theorem addTab (h : session.Presentable) {tabId title paneId : String} {host : HostSpec}
    (htitle : tabId.isEmpty = false → title.isEmpty = false) :
    (session.addTab tabId title paneId host).1.Presentable := by
  rcases session.addTab_cases tabId title paneId host with hsame | hadd
  · rwa [hsame]
  · obtain ⟨htabId, hpaneId, htabs, hfresh, active, hactive, -, hnodes⟩ := hadd
    have hresult : (session.addTab tabId title paneId host).1.id = session.id ∧
        ∀ tab ∈ (session.addTab tabId title paneId host).1.tabs, tab ∈ session.tabs ∨ tab.title = title := by
      simp only [Session.addTab, htabId, hpaneId, htabs, hfresh, hactive, Option.isSome_none,
        Bool.or_false, Bool.false_eq_true, if_false]
      refine ⟨rfl, fun tab htab => ?_⟩
      rcases List.mem_append.mp htab with hold | hnew
      · exact .inl hold
      · obtain rfl := List.mem_singleton.mp hnew
        exact .inr rfl
    refine of_states (by rw [hresult.1]; exact h.id) ?_ ?_
    · intro tab htab
      rcases hresult.2 tab htab with hold | hnew
      · exact h.title tab hold
      · rw [hnew]
        exact htitle htabId
    · rw [hnodes]
      intro node hnode
      rcases List.mem_append.mp hnode with hold | hnew
      · exact h.states node hold
      · obtain rfl := List.mem_singleton.mp hnew
        have hfixed : ResizePolicy.fixed.known = true := by decide
        exact ⟨hpaneId, hfixed⟩

theorem switchTab (h : session.Presentable) (tabId : String) :
    (session.switchTab tabId).1.Presentable := by
  have hresult : (session.switchTab tabId).1.id = session.id ∧
      (session.switchTab tabId).1.tabs = session.tabs := by
    unfold Session.switchTab
    repeat' split
    all_goals exact ⟨rfl, rfl⟩
  refine of_states (by rw [hresult.1]; exact h.id) (by rw [hresult.2]; exact h.title) ?_
  rw [switchTab_nodes]
  exact h.states

theorem closeTab (h : session.Presentable) (tabId : String) :
    (session.closeTab tabId).1.Presentable := by
  have hresult : (session.closeTab tabId).1.id = session.id ∧
      (session.closeTab tabId).1.tabs ⊆ session.tabs := by
    unfold Session.closeTab
    split
    · exact ⟨rfl, fun _ htab => htab⟩
    · split
      · exact ⟨rfl, fun _ htab => htab⟩
      · exact ⟨rfl, (List.eraseIdx_sublist _ _).subset⟩
  refine of_states (by rw [hresult.1]; exact h.id) (fun tab htab => h.title tab (hresult.2 htab))
    fun node hnode => h.states node ((closeTab_nodes session tabId).subset hnode)

theorem splitPane (h : session.Presentable) (paneId : String) (axis : Protocol.SplitAxis)
    (newPaneId : String) (newHost : HostSpec) :
    (session.splitPane paneId axis newPaneId newHost).1.Presentable := by
  have hresult : (session.splitPane paneId axis newPaneId newHost).1.id = session.id ∧
      ∀ tab ∈ (session.splitPane paneId axis newPaneId newHost).1.tabs,
        ∃ old ∈ session.tabs, tab.title = old.title := by
    have hsame : ∀ tab ∈ session.tabs, ∃ old ∈ session.tabs, tab.title = old.title :=
      fun tab htab => ⟨tab, htab, rfl⟩
    unfold Session.splitPane
    split
    · exact ⟨rfl, hsame⟩
    split
    · exact ⟨rfl, hsame⟩
    split
    · exact ⟨rfl, hsame⟩
    split
    · exact ⟨rfl, hsame⟩
    · refine ⟨rfl, fun tab htab => ?_⟩
      rcases Lib.mem_replaceFirst htab with hold | ⟨old, hold, rfl⟩
      · exact hsame tab hold
      · exact ⟨old, List.mem_of_find?_eq_some hold, rfl⟩
  refine of_states (by rw [hresult.1]; exact h.id) ?_ ?_
  · intro tab htab
    obtain ⟨old, hold, htitle⟩ := hresult.2 tab htab
    rw [htitle]
    exact h.title old hold
  · rcases session.splitPane_cases paneId axis newPaneId newHost with hsame | hsplit
    · rw [hsame]
      exact h.states
    · obtain ⟨hnew, -, active, root, left, right, -, -, hsplit, hnodes, hresult⟩ := hsplit
      obtain ⟨before, after, state, sizes, hroot, rfl, -, rfl⟩ := hsplit.split
      have hold : ∀ node ∈ left ++ (before ++ ⟨state, true⟩ :: after) ++ right, node.state.Presentable := by
        rw [← hroot, ← hnodes]
        exact h.states
      have htarget := hold ⟨state, true⟩ (by simp)
      have hfixed : ResizePolicy.fixed.known = true := by decide
      have hcontainer : ("split-" ++ state.id ++ "-" ++ newPaneId).isEmpty = false := by
        rw [← Bool.not_eq_true, String.isEmpty_iff]
        intro hempty
        have hlength := congrArg String.length hempty
        simp [String.length_append] at hlength
      rw [hresult]
      intro node hnode
      simp only [List.mem_append, List.mem_cons] at hnode hold
      rcases hnode with (hnode | hnode | rfl | rfl | rfl | hnode) | hnode
      · exact hold node (.inl (.inl hnode))
      · exact hold node (.inl (.inr (.inl hnode)))
      · exact ⟨hcontainer, htarget.2⟩
      · exact htarget
      · exact ⟨hnew, hfixed⟩
      · exact hold node (.inl (.inr (.inr (.inr hnode))))
      · exact hold node (.inr hnode)

theorem resize (h : session.Presentable) {σ : Type} (engine : TerminalEngine σ) (state : σ)
    (paneId : String) (cols rows : UInt32) :
    (session.commitPaneResizeWithEngine engine paneId cols rows state).1.Presentable := by
  rcases session.commitPaneResize_cases engine paneId state cols rows with
    hsame | ⟨-, update, -, -, hresult⟩
  · rwa [hsame]
  · rw [hresult]
    refine of_states h.id ?_ ?_
    · intro tab htab
      rcases mem_writeTabs htab with hold | ⟨old, hold, root, -, rfl⟩
      · exact h.title tab hold
      · exact h.title old hold
    · rw [bumpVersion_nodes, writePane_nodes]
      intro node hnode
      rcases Lib.mem_replaceFirst hnode with hold | ⟨old, hold, rfl⟩
      · exact h.states node hold
      · have hsized : PaneState.Presentable { old.state with cols, rows } :=
          h.states old (List.mem_of_find?_eq_some hold)
        exact hsized.update update true

theorem step {after : Session} {command : ControlCommandSummary}
    (hstep : CommandStep session command after) (hadmitted : command.Admitted) (h : session.Presentable) :
    after.Presentable := by
  cases hstep with
  | same => exact h
  | split split => exact h.splitPane _ _ _ _
  | tabNew tab _ hplan =>
    refine (h.addTab fun htabId => ?_).switchTab _
    obtain ⟨-, htitle⟩ := hadmitted.nonempty
    have htabTitle : tab.title = command.title.getD tab.tabId := by
      rw [planTabNew] at hplan
      split at hplan
      · cases hplan
      · split at hplan
        · cases hplan
        · dsimp only at hplan
          split at hplan
          · cases hplan
          · cases hplan
            rfl
    rw [htabTitle]
    cases hcommand : command.title with
    | none => exact htabId
    | some title => simpa using htitle title (by simp [hcommand])
  | tabClose tab => exact h.closeTab _
  | tabSwitch tabId => exact h.switchTab _

end Session.Presentable

/-- The commands and resizes of the claim: read from a frame, and to positive sizes. -/
def WorkspaceReachable : Session → Prop :=
  SessionReached (fun _ command => command.Admitted) fun _ _ cols rows => 0 < cols ∧ 0 < rows

theorem WorkspaceReachable.presentable {session : Session} (h : WorkspaceReachable session) :
    session.Presentable := by
  induction h with
  | initial =>
    refine .of_states (by decide) (by decide) ?_
    intro node hnode
    obtain rfl := List.mem_singleton.mp hnode
    exact ⟨by decide, by decide⟩
  | command host state command _ hadmitted ih =>
    exact .step (Session.applyControlCommand_step host) hadmitted ih
  | resize engine state paneId cols rows _ _ ih => exact ih.resize engine state paneId cols rows

/-- **A workspace can be published** exactly while no tree is higher than 61: for every session that
commands and resizes reach, the client reads the workspace frame as the session's own tree if and only
if every tab's tree is at most that high. -/
theorem workspace_published {session : Session} (h : WorkspaceReachable session)
    (connectionId : String) (seq : UInt64) :
    (∃ summary, session.summary = some summary ∧
        workspaceSummaryFromFrame (session.workspaceTreeFrame connectionId seq) = .ok summary) ↔
      ∀ tab ∈ session.tabs, tab.root.height ≤ 61 := by
  rw [← workspaceTreeFrame_depth session connectionId seq]
  constructor
  · rintro ⟨summary, -, hread⟩
    by_contra hdeep
    have hrefused : sizePrefixedRootAsEnvelope (session.workspaceTreeFrame connectionId seq) =
        .error "Nested table depth limit reached." := if_neg hdeep
    rw [workspaceSummaryFromFrame, hrefused] at hread
    cases hread
  · exact workspaceSummaryFromFrame_verified h.wellFormed h.presentable

/-- The initial session is published. -/
theorem workspace_published_initial :
    ∃ summary, Session.initial.summary = some summary ∧
      workspaceSummaryFromFrame (Session.initial.workspaceTreeFrame "conn-1" 1) = .ok summary :=
  (workspace_published .initial "conn-1" 1).mpr (by decide)

/-! ### Trees of any height -/

/-- A tree whose first children lead down to the leaf `pane-1`, `n` nodes long. -/
inductive Spine (state : PaneState) : Nat → Pane → Prop
  | leaf (hid : state.id = "pane-1") : Spine state 1 (.node state [])
  | split {container : PaneState} {n : Nat} {first second : Pane} (hid : container.id ≠ "pane-1")
      (hfirst : Spine state n first) : Spine state (n + 1) (.node container [first, second])

namespace Spine

variable {state : PaneState} {n : Nat} {pane : Pane}

theorem height (h : Spine state n pane) : n ≤ pane.height := by
  induction h with
  | leaf => simp [Pane.height, Pane.heights]
  | split _ _ ih =>
    simp only [Pane.height, Pane.heights]
    omega

theorem find (h : Spine state n pane) : paneNode "pane-1" pane = some (.node state []) := by
  induction h with
  | leaf hid => simp [paneNode, hid]
  | split hid _ ih => simp [paneNode, paneNodeIn, hid, ih]

theorem write (h : Spine state n pane) (write : PaneState → PaneState)
    (hwrite : (write state).id = state.id) :
    ∃ written, paneNodeMut write "pane-1" pane = some written ∧ Spine (write state) n written := by
  induction h with
  | leaf hid => exact ⟨.node (write state) [], by simp [paneNodeMut, hid], .leaf (hwrite.trans hid)⟩
  | @split container _ _ second hid _ ih =>
    obtain ⟨first, hfirst, hspine⟩ := ih
    exact ⟨.node container [first, second], by simp [paneNodeMut, paneNodeMutIn, hid, hfirst],
      .split hid hspine⟩

theorem splitLeaf (h : Spine state n pane) {axis : Protocol.SplitAxis} (newPaneId : String)
    (newHost : HostSpec) {sizes : SplitSizes}
    (hsizes : splitChildSizes state.cols state.rows axis = some sizes) :
    ∃ root, splitPaneNode "pane-1" axis newPaneId newHost pane = some root ∧
      Spine (splitExisting state sizes) (n + 1) root := by
  induction h with
  | leaf hid =>
    refine ⟨.node (splitContainer state axis newPaneId sizes) [.node (splitExisting state sizes) [],
      .node (newPaneFromTemplate newPaneId newHost sizes.secondCols sizes.secondRows) []],
      by simp [splitPaneNode, hid, hsizes], .split ?_ (.leaf hid)⟩
    intro hname
    have hlength := congrArg String.length hname
    simp only [splitContainer, hid, String.length_append] at hlength
    have hstem : "split-".length = 6 := rfl
    have hpane : "pane-1".length = 6 := rfl
    have hdash : "-".length = 1 := rfl
    omega
  | @split container _ _ second hid _ ih =>
    obtain ⟨first, hfirst, hspine⟩ := ih
    exact ⟨.node container [first, second], by simp [splitPaneNode, splitPaneNodeIn, hid, hfirst],
      .split hid hspine⟩

end Spine

/-- A reached session with one tab, whose tree is a spine. -/
structure SpineSession (session : Session) (state : PaneState) (n : Nat) : Prop where
  reached : WorkspaceReachable session
  spine : ∃ tab, session.tabs = [tab] ∧ session.activeTabId = tab.id ∧ Spine state n tab.root

namespace SpineSession

variable {session : Session} {state : PaneState} {n : Nat}

theorem pane (h : SpineSession session state n) : session.pane "pane-1" = some (.node state []) := by
  obtain ⟨tab, htabs, -, hspine⟩ := h.spine
  simp [Session.pane, htabs, hspine.find]

/-- A resize gives the leaf room for a split. -/
theorem resize (h : SpineSession session state n) :
    ∃ after resized, SpineSession after resized n ∧ resized.cols = 80 := by
  have hreached := SessionReached.resize interimTextTerminalEngine .ground "pane-1" 80 24 h.reached
    (by decide)
  obtain ⟨tab, htabs, hactive, hspine⟩ := h.spine
  by_cases hsize : state.cols = 80 ∧ state.rows = 24
  · exact ⟨session, state, h, hsize.1⟩
  · generalize hupdate : interimTextUpdate state.terminalInput state.modes 24 state.scrollbackLines
      state.cursor.col = update
    obtain ⟨root, hroot, hspine⟩ := hspine.write (Session.resizedPane 80 24 update)
      (applyTerminalUpdate_id _ _ _)
    have hresult : (session.commitPaneResizeWithEngine interimTextTerminalEngine "pane-1" 80 24
        .ground).1 = (session.writePane (Session.resizedPane 80 24 update) "pane-1").bumpVersion := by
      rw [Session.commitPaneResizeWithEngine, h.pane]
      simp only [Pane.state, hsize, if_false, interimTextTerminalEngine, interimResize]
      rw [← hupdate]
      rfl
    refine ⟨_, Session.resizedPane 80 24 update state, ⟨hreached, { tab with root }, ?_, ?_, hspine⟩, ?_⟩
    · rw [hresult]
      simp [Session.bumpVersion, Session.writePane, htabs, Session.writeTabs, hroot]
    · rw [hresult]
      exact hactive
    · exact applyTerminalUpdate_cols _ _ _

/-- A split of a leaf with room makes the spine longer. -/
theorem split (h : SpineSession session state n) (hcols : state.cols = 80) :
    ∃ after split, SpineSession after split (n + 1) := by
  let command : ControlCommandSummary :=
    ⟨"alice", 1, .paneSplit, some "pane-1", none, .vertical, none, none⟩
  have hadmitted : command.Admitted :=
    ⟨⟨some "alice", 1, .paneSplit, some "pane-1", none, .vertical, none, none⟩, rfl⟩
  have hreached := SessionReached.command (some ProcessHost.quiet) () command h.reached hadmitted
  obtain ⟨tab, htabs, hactive, hspine⟩ := h.spine
  obtain ⟨sizes, hsizes⟩ : ∃ sizes, splitChildSizes state.cols state.rows .vertical = some sizes := by
    rw [hcols]
    exact ⟨_, rfl⟩
  let newHost := hostWithPaneEnvironment state.host session.id (nextPaneId session)
  obtain ⟨root, hroot, hlonger⟩ := hspine.splitLeaf (nextPaneId session) newHost hsizes
  have hplan : planPaneSplit session command = .ok ⟨"pane-1", nextPaneId session, newHost⟩ := by
    have hhost : session.paneHost "pane-1" = some state.host := by
      rw [Session.paneHost, h.pane]
      rfl
    simp [planPaneSplit, splitTarget, command, hhost, newHost]
  have hactiveTab : session.activeTab = some tab := by simp [Session.activeTab, htabs, hactive]
  have hsplit : session.splitPane "pane-1" .vertical (nextPaneId session) newHost =
      ({ session with tabs := session.writeTab fun tab =>
          { tab with root, activePaneId := nextPaneId session } }.bumpVersion, true) := by
    have haxis : ¬ (Protocol.SplitAxis.vertical ≠ .horizontal ∧
        Protocol.SplitAxis.vertical ≠ .vertical) := by decide
    have hfresh : (session.pane (nextPaneId session)).isSome = false := by rw [nextPaneId_fresh]; rfl
    rw [Session.splitPane, if_neg haxis, nextPaneId_isEmpty, hfresh, hactiveTab]
    simp only [hroot]
    rfl
  have hresult : (Session.applyControlCommand (some ProcessHost.quiet) session () command).2.1 =
      (session.splitPane "pane-1" .vertical (nextPaneId session) newHost).1 := by
    show (Session.applyPaneSplitCommand ProcessHost.quiet session () command).2.1 = _
    rw [Session.applyPaneSplitCommand, hplan]
    simp only [ProcessHost.quiet, command, hsplit]
  rw [hresult, hsplit] at hreached
  refine ⟨_, splitExisting state sizes, hreached, { tab with root, activePaneId := nextPaneId session },
    ?_, hactive, hlonger⟩
  simp [Session.bumpVersion, Session.writeTab, htabs, Lib.replaceFirst, hactive]

end SpineSession

/-- Commands and resizes reach spines of any height. -/
theorem spineSession_of_height (n : Nat) : ∃ session state, SpineSession session state (n + 1) := by
  induction n with
  | zero => exact ⟨Session.initial, _, .initial, _, rfl, rfl, .leaf rfl⟩
  | succ n ih =>
    obtain ⟨session, state, hspine⟩ := ih
    obtain ⟨roomy, resized, hresized, hcols⟩ := hspine.resize
    exact hresized.split hcols

/-- After 61 splits of `pane-1`, each after a resize of it, the client refuses the workspace. -/
theorem workspace_not_published :
    ¬ ∀ session, WorkspaceReachable session → ∃ summary, session.summary = some summary ∧
      workspaceSummaryFromFrame (session.workspaceTreeFrame "conn-1" 1) = .ok summary := by
  intro h
  obtain ⟨session, state, hspine⟩ := spineSession_of_height 61
  obtain ⟨summary, -, hread⟩ := h session hspine.reached
  obtain ⟨tab, htabs, -, hheight⟩ := hspine.spine
  have hdeep : ¬ (session.workspaceTreeFrame "conn-1" 1).depth ≤ maxDepth := by
    rw [workspaceTreeFrame_depth]
    intro hall
    have hlow := hall tab (by simp [htabs])
    have hhigh := hheight.height
    omega
  have hrefused : sizePrefixedRootAsEnvelope (session.workspaceTreeFrame "conn-1" 1) =
      .error "Nested table depth limit reached." := if_neg hdeep
  rw [workspaceSummaryFromFrame, hrefused] at hread
  cases hread

end Nmux
