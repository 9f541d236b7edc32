import Nmux.Workspace.Tree
import Nmux.Core.Events
import Nmux.Core.InterimText
import Nmux.Lib.Run

/-! The workspace over any run of session operations. Whatever the arguments, a session keeps its tabs
in order: ids that tell tabs and leaves apart, active ids that resolve, and trees of the right shape.
Its version counts the operations that changed the workspace. -/
namespace Nmux

open Lib (replaceFirst mem_replaceFirst map_replaceFirst)
open Protocol (SplitAxis ResizePolicy)

/-! ### Operations -/

section
variable {σ : Type} (engine : TerminalEngine σ)

/-- The session operation an event stands for, with what the source's function returns. The two events
that are no operation of the session leave it alone. -/
def SessionCore.operate (core : SessionCore σ) : SessionEvent → SessionCore σ × Bool
  | .addTab tabId title paneId host =>
    let (session, changed) := core.session.addTab tabId title paneId host
    ({ core with session }, changed)
  | .switchTab tabId =>
    let (session, changed) := core.session.switchTab tabId
    ({ core with session }, changed)
  | .closeTab tabId =>
    let (session, changed) := core.session.closeTab tabId
    ({ core with session }, changed)
  | .focusPane paneId =>
    let (session, changed) := core.session.focusPane paneId
    ({ core with session }, changed)
  | .splitPane paneId axis newPaneId newHost =>
    let (session, changed) := core.session.splitPane paneId axis newPaneId newHost
    ({ core with session }, changed)
  | .setPaneResizePolicy paneId policy =>
    let (session, changed) := core.session.setPaneResizePolicy paneId policy
    ({ core with session }, changed)
  | .paneOutput paneId bytes =>
    let (session, state, changed) :=
      core.session.applyPaneOutputWithEngine engine paneId bytes (core.terminalEngines paneId)
    ({ core with session, terminalEngines := Function.update core.terminalEngines paneId state }, changed)
  | .commitPaneResize paneId cols rows =>
    let (session, state, changed) :=
      core.session.commitPaneResizeWithEngine engine paneId cols rows (core.terminalEngines paneId)
    ({ core with session, terminalEngines := Function.update core.terminalEngines paneId state }, changed)
  | .requestSessionShutdown _ => (core, false)
  | .forwardPaneInput _ _ _ => (core, false)

/-- What an accepted event does to the core is its operation. -/
theorem SessionCore.applyAccepted_operate (core : SessionCore σ) (accepted : AcceptedSessionEvent) :
    (core.applyAccepted engine accepted).1 = (core.operate engine accepted.event).1 := by
  cases hevent : accepted.event <;> simp only [applyAccepted, operate, hevent] <;> rfl

/-- The core after a run of operations from the initial session. -/
def SessionCore.operated (events : List SessionEvent) : SessionCore σ :=
  Lib.run (fun core event => (core.operate engine event).1) (.new engine Session.initial) events

end

/-- The operations on tabs, focus and splits. -/
def SessionEvent.arranges : SessionEvent → Bool
  | .addTab .. | .switchTab .. | .closeTab .. | .focusPane .. | .splitPane .. => true
  | _ => false

/-- The operations that bump the version if they change anything: all but output. -/
def SessionEvent.bumps : SessionEvent → Bool
  | .setPaneResizePolicy .. | .commitPaneResize .. => true
  | event => event.arranges

/-! ### The invariant -/

/-- An update keeps the axis of its pane. -/
@[simp] theorem applyTerminalUpdate_splitAxis (pane : PaneState) (update : TerminalUpdate) (force : Bool) :
    (applyTerminalUpdate pane update force).1.splitAxis = pane.splitAxis := by
  rw [applyTerminalUpdate_eq]

/-- A tab with an id and a tree of the right shape, in which its active pane is found. -/
structure Tab.WellFormed (tab : Tab) : Prop where
  id : tab.id ≠ ""
  activePane : (paneNode tab.activePaneId tab.root).isSome = true
  root : tab.root.WellFormed

structure Session.WellFormed (session : Session) : Prop where
  nonempty : session.tabs ≠ []
  tab : ∀ tab ∈ session.tabs, tab.WellFormed
  tabIds : (session.tabs.map (·.id)).Nodup
  activeTab : session.activeTabId ∈ session.tabs.map (·.id)
  leafIds : session.leafPaneIds.Nodup
  leafId : "" ∉ session.leafPaneIds

theorem Session.initial_wellFormed : initial.WellFormed where
  nonempty := by simp [initial]
  tab := by
    intro tab htab
    obtain rfl := List.mem_singleton.mp htab
    exact ⟨by decide, by decide, .leaf rfl⟩
  tabIds := by decide
  activeTab := by decide
  leafIds := by decide
  leafId := by decide

/-- A tab with another active pane of its tree. -/
theorem Tab.WellFormed.focus {tab : Tab} (h : tab.WellFormed) {paneId : String}
    (hpane : (paneNode paneId tab.root).isSome = true) :
    { tab with activePaneId := paneId : Tab }.WellFormed where
  id := h.id
  activePane := hpane
  root := h.root

/-- A tab with a written pane. -/
theorem Tab.WellFormed.write {tab : Tab} (h : tab.WellFormed) {write : PaneState → PaneState}
    (hid : ∀ state, (write state).id = state.id)
    (haxis : ∀ state, (write state).splitAxis = state.splitAxis) {paneId : String} {root : Pane}
    (hroot : paneNodeMut write paneId tab.root = some root) : { tab with root : Tab }.WellFormed where
  id := h.id
  activePane := by
    rw [paneNode_isSome, paneNodeMut_ids hid hroot, ← paneNode_isSome]
    exact h.activePane
  root := paneNodeMut_wellFormed haxis h.root root hroot

/-- A tab with a split pane shows the new pane. -/
theorem Tab.WellFormed.split {tab : Tab} (h : tab.WellFormed) {paneId newPaneId : String}
    {axis : SplitAxis} {newHost : HostSpec} {root : Pane}
    (hroot : splitPaneNode paneId axis newPaneId newHost tab.root = some root) :
    { tab with root, activePaneId := newPaneId : Tab }.WellFormed where
  id := h.id
  activePane := by
    rw [paneNode_isSome, Pane.ids, (splitPaneNode_nodes _ _ _ _ _ _ hroot).mem_ids]
    exact .inr (.inl rfl)
  root := splitPaneNode_wellFormed h.root root hroot

namespace Session

variable {session : Session}

/-! ### Tabs after an operation -/

theorem mem_writeTabs {write : PaneState → PaneState} {paneId : String} {tabs : List Tab} {tab : Tab}
    (h : tab ∈ writeTabs write paneId tabs) :
    tab ∈ tabs ∨ ∃ old ∈ tabs, ∃ root, paneNodeMut write paneId old.root = some root ∧
      tab = { old with root } := by
  induction tabs with
  | nil => simp [writeTabs] at h
  | cons first rest ih =>
    rw [writeTabs] at h
    split at h
    case h_1 root hroot =>
      rcases List.mem_cons.mp h with rfl | h
      · exact .inr ⟨first, by simp, root, hroot, rfl⟩
      · exact .inl (by simp [h])
    case h_2 =>
      rcases List.mem_cons.mp h with rfl | h
      · exact .inl (by simp)
      · rcases ih h with h | ⟨old, hold, root, hroot, rfl⟩
        · exact .inl (by simp [h])
        · exact .inr ⟨old, by simp [hold], root, hroot, rfl⟩

theorem writeTabs_ids (write : PaneState → PaneState) (paneId : String) (tabs : List Tab) :
    (writeTabs write paneId tabs).map (·.id) = tabs.map (·.id) := by
  induction tabs with
  | nil => rfl
  | cons first rest ih =>
    rw [writeTabs]
    split
    · rfl
    · rw [List.map_cons, ih, List.map_cons]

theorem activeTab_mem {tab : Tab} (h : session.activeTab = some tab) : tab ∈ session.tabs :=
  List.mem_of_find?_eq_some h

namespace WellFormed

/-- The version plays no part. -/
theorem bump (h : session.WellFormed) : session.bumpVersion.WellFormed :=
  ⟨h.nonempty, h.tab, h.tabIds, h.activeTab, h.leafIds, h.leafId⟩

theorem write (h : session.WellFormed) {write : PaneState → PaneState}
    (hid : ∀ state, (write state).id = state.id)
    (haxis : ∀ state, (write state).splitAxis = state.splitAxis) (paneId : String) :
    (session.writePane write paneId).WellFormed where
  nonempty := by
    have hids := congrArg List.length (writeTabs_ids write paneId session.tabs)
    rw [List.length_map, List.length_map] at hids
    exact List.ne_nil_of_length_pos (hids ▸ List.length_pos_iff.mpr h.nonempty)
  tab := by
    intro tab htab
    rcases mem_writeTabs htab with hold | ⟨old, hold, root, hroot, rfl⟩
    · exact h.tab tab hold
    · exact (h.tab old hold).write hid haxis hroot
  tabIds := by
    rw [writePane, writeTabs_ids]
    exact h.tabIds
  activeTab := by
    rw [writePane, writeTabs_ids]
    exact h.activeTab
  leafIds := by
    rw [writePane_leafPaneIds session hid]
    exact h.leafIds
  leafId := by
    rw [writePane_leafPaneIds session hid]
    exact h.leafId

/-- The active tab is written; it keeps its id, and the leaves are told. -/
theorem writeActive (h : session.WellFormed) {write : Tab → Tab} (hid : ∀ tab, (write tab).id = tab.id)
    (htab : ∀ tab, session.activeTab = some tab → (write tab).WellFormed)
    (hnodup : { session with tabs := session.writeTab write : Session }.leafPaneIds.Nodup)
    (hnonempty : "" ∉ { session with tabs := session.writeTab write : Session }.leafPaneIds) :
    { session with tabs := session.writeTab write : Session }.WellFormed where
  nonempty := by
    have hids := congrArg List.length (map_replaceFirst (p := (·.id == session.activeTabId)) hid
      session.tabs)
    rw [List.length_map, List.length_map] at hids
    exact List.ne_nil_of_length_pos (hids ▸ List.length_pos_iff.mpr h.nonempty)
  tab := by
    intro tab hmem
    rcases mem_replaceFirst hmem with hold | ⟨old, hold, rfl⟩
    · exact h.tab tab hold
    · exact htab old hold
  tabIds := by
    rw [writeTab, map_replaceFirst hid]
    exact h.tabIds
  activeTab := by
    rw [writeTab, map_replaceFirst hid]
    exact h.activeTab
  leafIds := hnodup
  leafId := hnonempty

/-- A new name is no leaf's. -/
theorem fresh_leaf {paneId : String} (h : session.pane paneId = none) : paneId ∉ session.leafPaneIds := by
  rw [leafPaneIds_eq]
  intro hmem
  obtain ⟨node, hnode, hid⟩ := List.mem_map.mp hmem
  have hany : session.nodes.any (PaneNode.named paneId) = true :=
    List.any_eq_true.mpr ⟨node, (List.mem_filter.mp hnode).1, by simp [PaneNode.named, hid]⟩
  rw [← pane_isSome, h] at hany
  cases hany

/-! ### Each operation -/

theorem addTab (h : session.WellFormed) (tabId title paneId : String) (host : HostSpec) :
    (session.addTab tabId title paneId host).1.WellFormed := by
  rw [Session.addTab]
  split
  case isTrue => exact h
  case isFalse hbad =>
    simp only [Bool.or_eq_true, not_or, Bool.not_eq_true, Option.isSome_eq_false_iff,
      Option.isNone_iff_eq_none] at hbad
    obtain ⟨⟨⟨htab, hpane⟩, hfresh⟩, hnone⟩ := hbad
    split
    case h_1 => exact h
    case h_2 active _ =>
      have hleaf := fresh_leaf hnone
      refine WellFormed.bump ⟨by simp, ?_, ?_, ?_, ?_, ?_⟩
      · intro tab hmem
        rcases List.mem_append.mp hmem with hold | hnew
        · exact h.tab tab hold
        · obtain rfl := List.mem_singleton.mp hnew
          refine ⟨fun hempty => ?_, by simp [paneNode, newPaneFromTemplate], .leaf rfl⟩
          simp [show tabId = "" from hempty] at htab
      · rw [List.map_append, List.map_singleton, List.nodup_append]
        refine ⟨h.tabIds, List.nodup_singleton _, ?_⟩
        intro id hid name hname
        obtain rfl := List.mem_singleton.mp hname
        obtain ⟨tab, hmem, rfl⟩ := List.mem_map.mp hid
        simpa using List.any_eq_false.mp hfresh tab hmem
      · rw [List.map_append]
        exact List.mem_append_left _ h.activeTab
      · simp only [leafPaneIds, List.flatMap_append, List.flatMap_singleton]
        show (session.leafPaneIds ++ [paneId]).Nodup
        rw [List.nodup_append]
        refine ⟨h.leafIds, List.nodup_singleton _, ?_⟩
        intro id hid name hname
        obtain rfl := List.mem_singleton.mp hname
        exact fun heq => hleaf (heq ▸ hid)
      · simp only [leafPaneIds, List.flatMap_append, List.flatMap_singleton]
        show "" ∉ session.leafPaneIds ++ [paneId]
        rw [List.mem_append, List.mem_singleton, not_or]
        exact ⟨h.leafId, fun hempty => by simp [← hempty] at hpane⟩

theorem switchTab (h : session.WellFormed) (tabId : String) : (session.switchTab tabId).1.WellFormed := by
  rw [Session.switchTab]
  split
  case h_1 => exact h
  case h_2 tab hfind =>
    split
    · exact h
    · split
      · exact h
      · have hid : tab.id = tabId := by simpa using List.find?_some hfind
        exact WellFormed.bump ⟨h.nonempty, h.tab, h.tabIds,
          List.mem_map.mpr ⟨tab, List.mem_of_find?_eq_some hfind, hid⟩, h.leafIds, h.leafId⟩

/-- A closed tab that was active leaves a neighbour active; another one leaves the active tab. -/
theorem closeTab (h : session.WellFormed) (tabId : String) : (session.closeTab tabId).1.WellFormed := by
  rw [Session.closeTab]
  split
  case isTrue => exact h
  case isFalse hlength =>
    split
    case h_1 => exact h
    case h_2 index hindex =>
      obtain ⟨hlt, hid, -⟩ := List.findIdx?_eq_some_iff_getElem.mp hindex
      have herased : (session.tabs.eraseIdx index).length = session.tabs.length - 1 :=
        List.length_eraseIdx_of_lt hlt
      have hsub : (session.tabs.eraseIdx index).Sublist session.tabs := List.eraseIdx_sublist _ _
      have hleaves : ((session.tabs.eraseIdx index).flatMap
          fun tab => collectLeafPaneIds tab.root).Sublist session.leafPaneIds := hsub.flatMap _
      have hpos : 0 < (session.tabs.eraseIdx index).length := by omega
      refine WellFormed.bump ⟨List.ne_nil_of_length_pos hpos, ?_, ?_, ?_, ?_, ?_⟩
      · exact fun tab hmem => h.tab tab (hsub.subset hmem)
      · exact h.tabIds.sublist (hsub.map _)
      · dsimp only
        split
        case isTrue =>
          have hnext : min index ((session.tabs.eraseIdx index).length - 1) <
              (session.tabs.eraseIdx index).length :=
            lt_of_le_of_lt (min_le_right _ _) (by omega)
          rw [List.getElem?_eq_getElem hnext]
          exact List.mem_map.mpr ⟨_, List.getElem_mem hnext, rfl⟩
        case isFalse hother =>
          obtain ⟨tab, hmem, hactive⟩ := List.mem_map.mp h.activeTab
          obtain ⟨position, hposition, rfl⟩ := List.getElem_of_mem hmem
          have hne : position ≠ index := by
            rintro rfl
            exact hother (hactive.symm.trans (by simpa using hid))
          exact List.mem_map.mpr
            ⟨_, List.mem_eraseIdx_iff_getElem.mpr ⟨position, hposition, hne, rfl⟩, hactive⟩
      · exact h.leafIds.sublist hleaves
      · exact fun hmem => h.leafId (hleaves.subset hmem)

theorem focusPane (h : session.WellFormed) (paneId : String) :
    (session.focusPane paneId).1.WellFormed := by
  rw [Session.focusPane]
  split
  case h_1 => exact h
  case h_2 tab hactive =>
    split
    case isTrue => exact h
    case isFalse hpane =>
      split
      case isTrue => exact h
      case isFalse =>
        have hleaves : { session with tabs := session.writeTab fun tab =>
            { tab with activePaneId := paneId } : Session }.leafPaneIds = session.leafPaneIds :=
          leafPaneIds_of_nodes_eq (writeTab_nodes fun _ => rfl)
        refine WellFormed.bump (h.writeActive (fun _ => rfl) ?_ (hleaves ▸ h.leafIds)
          (hleaves ▸ h.leafId))
        intro found hfound
        obtain rfl := Option.some.inj (hactive.symm.trans hfound)
        refine (h.tab tab (activeTab_mem hactive)).focus ?_
        cases hnode : paneNode paneId tab.root with
        | none => exact absurd (by rw [hnode]; rfl) hpane
        | some => rfl

/-- The leaves after a split are those before it and the new pane. -/
theorem splitPane_leaves (session : Session) (paneId newPaneId : String) (axis : SplitAxis)
    (newHost : HostSpec) (hsplit : (session.splitPane paneId axis newPaneId newHost).2 = true) :
    (session.splitPane paneId axis newPaneId newHost).1.leafPaneIds.Perm
        (newPaneId :: session.leafPaneIds) ∧
      newPaneId ≠ "" ∧ session.pane newPaneId = none := by
  rcases session.splitPane_cases paneId axis newPaneId newHost with hsame | hcases
  · rw [hsame] at hsplit
    cases hsplit
  · obtain ⟨hempty, hfresh, active, root, left, right, -, -, hnodes, hsession, hresult⟩ := hcases
    obtain ⟨before, after, state, sizes, hroot, rfl, -, rfl⟩ := hnodes.split
    refine ⟨?_, by simpa using hempty, hfresh⟩
    rw [leafPaneIds_eq, leafPaneIds_eq, hresult, hsession, hroot, List.perm_iff_count]
    intro id
    simp only [List.filter_append, List.filter_cons, List.map_append, List.map_cons,
      List.count_append, List.count_cons, splitExisting, newPaneFromTemplate, if_true,
      Bool.false_eq_true, if_false]
    omega

theorem splitPane (h : session.WellFormed) (paneId : String) (axis : SplitAxis) (newPaneId : String)
    (newHost : HostSpec) : (session.splitPane paneId axis newPaneId newHost).1.WellFormed := by
  have hleaves := splitPane_leaves session paneId newPaneId axis newHost
  rw [Session.splitPane] at hleaves ⊢
  split
  case isTrue => exact h
  case isFalse haxis =>
  rw [if_neg haxis] at hleaves
  split
  case isTrue => exact h
  case isFalse hnew =>
  rw [if_neg hnew] at hleaves
  split
  case h_1 => exact h
  case h_2 tab hactive =>
  rw [hactive] at hleaves
  dsimp only at hleaves
  split
  case h_1 => exact h
  case h_2 root hroot =>
    rw [hroot] at hleaves
    obtain ⟨hperm, hempty, hfresh⟩ := hleaves rfl
    refine WellFormed.bump (h.writeActive (fun _ => rfl) ?_ ?_ ?_)
    · intro found hfound
      obtain rfl := Option.some.inj (hactive.symm.trans hfound)
      exact (h.tab tab (activeTab_mem hactive)).split hroot
    · exact hperm.nodup_iff.mpr (List.nodup_cons.mpr ⟨fresh_leaf hfresh, h.leafIds⟩)
    · intro hmem
      rcases List.mem_cons.mp (hperm.mem_iff.mp hmem) with heq | hold
      · exact hempty heq.symm
      · exact h.leafId hold

theorem policy (h : session.WellFormed) (paneId : String) (policy : ResizePolicy) :
    (session.setPaneResizePolicy paneId policy).1.WellFormed := by
  rcases session.setPaneResizePolicy_cases paneId policy with hsame | hwrite
  · rwa [hsame]
  · rw [hwrite]
    apply bump
    refine h.write ?_ ?_ paneId <;> exact fun _ => rfl

theorem resize {σ : Type} (h : session.WellFormed) (engine : TerminalEngine σ) (state : σ)
    (paneId : String) (cols rows : UInt32) :
    (session.commitPaneResizeWithEngine engine paneId cols rows state).1.WellFormed := by
  rcases session.commitPaneResize_cases engine paneId state cols rows with
    hsame | ⟨-, update, -, -, hresult⟩
  · rwa [hsame]
  · rw [hresult]
    apply bump
    refine h.write ?_ ?_ paneId
    · exact fun _ => applyTerminalUpdate_id _ _ _
    · exact fun _ => applyTerminalUpdate_splitAxis _ _ _

end WellFormed

end Session

section
variable {σ : Type} {engine : TerminalEngine σ} {core : SessionCore σ}

/-- One operation keeps the workspace well formed, whatever its arguments and the engine. -/
theorem SessionCore.operate_wellFormed (h : core.session.WellFormed) (event : SessionEvent) :
    (core.operate engine event).1.session.WellFormed := by
  cases event with
  | addTab => exact h.addTab _ _ _ _
  | switchTab => exact h.switchTab _
  | closeTab => exact h.closeTab _
  | focusPane => exact h.focusPane _
  | splitPane => exact h.splitPane _ _ _ _
  | setPaneResizePolicy => exact h.policy _ _
  | paneOutput paneId bytes =>
    show (core.session.applyPaneOutputWithEngine engine paneId bytes _).1.WellFormed
    rcases core.session.applyPaneOutput_cases engine paneId (core.terminalEngines paneId) bytes with
      hsame | ⟨-, update, -, -, hresult⟩
    · rwa [hsame]
    · rw [hresult]
      exact h.write (fun _ => applyTerminalUpdate_id _ _ _)
        (fun _ => applyTerminalUpdate_splitAxis _ _ _) paneId
  | commitPaneResize paneId cols rows =>
    show (core.session.commitPaneResizeWithEngine engine paneId cols rows _).1.WellFormed
    exact h.resize engine _ paneId cols rows
  | requestSessionShutdown => exact h
  | forwardPaneInput => exact h

/-- A run of operations keeps it so. -/
theorem SessionCore.operated_wellFormed (events : List SessionEvent) :
    (SessionCore.operated engine events).session.WellFormed := by
  have hrun (core : SessionCore σ) (h : core.session.WellFormed) :
      (Lib.run (fun core event => (core.operate engine event).1) core events).session.WellFormed := by
    induction events generalizing core with
    | nil => exact h
    | cons event rest ih => exact ih _ (SessionCore.operate_wellFormed h event)
  exact hrun _ Session.initial_wellFormed

end

/-! ### The version -/

theorem satAdd64_toNat (a b : UInt64) :
    (satAdd64 a b).toNat = min (a.toNat + b.toNat) (2 ^ 64 - 1) := by
  have ha := a.toNat_lt
  have hb := b.toNat_lt
  rw [satAdd64]
  split
  case isTrue h => rw [UInt64.toNat_add, Nat.mod_eq_of_lt h]; omega
  case isFalse h => rw [UInt64.toNat_ofNat']; omega

/-- The result of an operation whose return value says whether it bumped the version. -/
def Session.Counts (session : Session) (result : Session × Bool) : Prop :=
  result.1.version = if result.2 then satAdd64 session.version 1 else session.version

namespace Session

variable {session : Session}

theorem Counts.same : session.Counts (session, false) := rfl

theorem Counts.bump {changed : Session} (h : changed.version = session.version) :
    session.Counts (changed.bumpVersion, true) := by
  show satAdd64 changed.version 1 = satAdd64 session.version 1
  rw [h]

theorem addTab_counts (tabId title paneId : String) (host : HostSpec) :
    session.Counts (session.addTab tabId title paneId host) := by
  unfold addTab
  split
  · exact .same
  · split
    · exact .same
    · exact .bump rfl

theorem switchTab_counts (tabId : String) : session.Counts (session.switchTab tabId) := by
  unfold switchTab
  split
  · exact .same
  · split
    · exact .same
    · split
      · exact .same
      · exact .bump rfl

theorem closeTab_counts (tabId : String) : session.Counts (session.closeTab tabId) := by
  unfold closeTab
  split
  · exact .same
  · split
    · exact .same
    · exact .bump rfl

theorem focusPane_counts (paneId : String) : session.Counts (session.focusPane paneId) := by
  unfold focusPane
  split
  · exact .same
  · split
    · exact .same
    · split
      · exact .same
      · exact .bump rfl

theorem splitPane_counts (paneId : String) (axis : SplitAxis) (newPaneId : String)
    (newHost : HostSpec) : session.Counts (session.splitPane paneId axis newPaneId newHost) := by
  unfold splitPane
  split
  · exact .same
  · split
    · exact .same
    · split
      · exact .same
      · split
        · exact .same
        · exact .bump rfl

theorem setPaneResizePolicy_counts (paneId : String) (policy : ResizePolicy) :
    session.Counts (session.setPaneResizePolicy paneId policy) := by
  unfold setPaneResizePolicy
  split
  · exact .same
  · split
    · exact .same
    · exact .bump rfl

section
variable {σ : Type} (engine : TerminalEngine σ)

theorem commitPaneResize_counts (paneId : String) (cols rows : UInt32) (state : σ) :
    session.Counts ((session.commitPaneResizeWithEngine engine paneId cols rows state).1,
      (session.commitPaneResizeWithEngine engine paneId cols rows state).2.2) := by
  unfold commitPaneResizeWithEngine
  split
  · exact .same
  · split
    · exact .same
    · split
      · exact .same
      · exact .bump rfl

theorem applyPaneOutput_version (paneId : String) (output : List UInt8) (state : σ) :
    (session.applyPaneOutputWithEngine engine paneId output state).1.version = session.version := by
  rcases session.applyPaneOutput_cases engine paneId state output with hsame | ⟨-, update, -, -, hresult⟩
  · rw [hsame]
  · rw [hresult]
    rfl

end

end Session

/-- What an operation does to the version: it adds one if it is of the kind that bumps and it returns
`true`. -/
theorem SessionCore.operate_version {σ : Type} (engine : TerminalEngine σ) (core : SessionCore σ)
    (event : SessionEvent) : (core.operate engine event).1.session.version =
      if event.bumps && (core.operate engine event).2 then satAdd64 core.session.version 1
      else core.session.version := by
  cases event with
  | addTab => exact Session.addTab_counts _ _ _ _
  | switchTab => exact Session.switchTab_counts _
  | closeTab => exact Session.closeTab_counts _
  | focusPane => exact Session.focusPane_counts _
  | splitPane => exact Session.splitPane_counts _ _ _ _
  | setPaneResizePolicy => exact Session.setPaneResizePolicy_counts _ _
  | paneOutput => exact Session.applyPaneOutput_version engine _ _ _
  | commitPaneResize => exact Session.commitPaneResize_counts engine _ _ _ _
  | requestSessionShutdown => rfl
  | forwardPaneInput => rfl

/-- **The workspace is well formed** after any run of operations, and the next one moves its version
up exactly if it is an operation on tabs, focus, splits, resize policies or sizes that returns `true`;
output never does, and no operation moves it down. -/
theorem workspace_well_formed {σ : Type} (engine : TerminalEngine σ) (events : List SessionEvent)
    (event : SessionEvent) :
    (SessionCore.operated engine events).session.WellFormed ∧
      (SessionCore.operated engine events).session.version ≤
        ((SessionCore.operated engine events).operate engine event).1.session.version ∧
      ((SessionCore.operated engine events).session.version.toNat < 2 ^ 64 - 1 →
        ((SessionCore.operated engine events).session.version <
            ((SessionCore.operated engine events).operate engine event).1.session.version ↔
          event.bumps = true ∧ ((SessionCore.operated engine events).operate engine event).2 = true)) := by
  refine ⟨SessionCore.operated_wellFormed events, ?_, fun hroom => ?_⟩
  all_goals
    rw [SessionCore.operate_version]
    generalize (SessionCore.operated engine events).session.version = version at *
    have hadd := satAdd64_toNat version 1
    have hone : (1 : UInt64).toNat = 1 := rfl
  · split
    · rw [UInt64.le_iff_toNat_le, hadd]
      have := version.toNat_lt
      omega
    · exact UInt64.le_refl version
  · split
    case isTrue h =>
      rw [UInt64.lt_iff_toNat_lt, hadd]
      simp only [Bool.and_eq_true] at h
      simp only [h, and_self, iff_true]
      omega
    case isFalse h =>
      simp only [Bool.and_eq_true] at h
      simp [h]

/-- The initial pane is split: the version goes up. -/
theorem workspace_well_formed_split :
    (SessionCore.operated interimTextTerminalEngine []).session.version <
      ((SessionCore.operated interimTextTerminalEngine []).operate interimTextTerminalEngine
        (.splitPane "pane-1" .vertical "pane-2" (.local "local" (.new "sh")))).1.session.version :=
  ((workspace_well_formed interimTextTerminalEngine [] (.splitPane "pane-1" .vertical "pane-2"
    (.local "local" (.new "sh")))).2.2 (by decide)).mpr (by decide)

/-- A resize policy is none of the operations on tabs, focus and splits, and bumps the version. -/
theorem policy_bumps_version :
    ¬ ∀ (events : List SessionEvent) (event : SessionEvent),
      (SessionCore.operated interimTextTerminalEngine events).session.version.toNat < 2 ^ 64 - 1 →
        ((SessionCore.operated interimTextTerminalEngine events).session.version <
            ((SessionCore.operated interimTextTerminalEngine events).operate
              interimTextTerminalEngine event).1.session.version ↔
          event.arranges = true ∧
            ((SessionCore.operated interimTextTerminalEngine events).operate
              interimTextTerminalEngine event).2 = true) := by
  intro h
  have hpolicy := h [] (.setPaneResizePolicy "pane-1" .manual) (by decide)
  revert hpolicy
  decide

end Nmux
