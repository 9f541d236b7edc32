import Nmux.Control.Reachable

/-! Atomicity of control commands. A command that fails should leave the session and the running panes
as they were, one that succeeds should leave exactly the session's leaves running. What goes wrong is a
stop: the stop that takes back a start is made once and its answer dropped, and a tab is closed before
its panes are stopped. Where every stop a command makes is answered, the command is atomic, and only
there. -/
namespace Nmux

open Protocol (ControlCommandKind)

variable {σ η : Type}

/-- A host that runs a set of panes: a start adds one that did not run, a stop takes one out, a call
that fails changes nothing. -/
structure ProcessHost.Tracks (host : ProcessHost η) (running : η → Set String) : Prop where
  start_ok : ∀ {state paneId spec next}, host.startPane state paneId spec = (.ok (), next) →
    paneId ∉ running state ∧ running next = insert paneId (running state)
  start_error : ∀ {state paneId spec err next}, host.startPane state paneId spec = (.error err, next) →
    running next = running state
  stop_ok : ∀ {state paneId next}, host.stopPane state paneId = (.ok (), next) →
    running next = running state \ {paneId}
  stop_error : ∀ {state paneId err next}, host.stopPane state paneId = (.error err, next) →
    running next = running state

/-- The leaves of the session, as a set. -/
def Session.leaves (session : Session) : Set String := {paneId | paneId ∈ session.leafPaneIds}

/-- What atomicity asks of a command's outcome and what it left. -/
def AtomicResult {α : Type} (before : Session) (running : Set String)
    (outcome : Except ControlCommandError α) (after : Session) (runningAfter : Set String) : Prop :=
  match outcome with
  | .error _ => after = before ∧ runningAfter = running
  | .ok _ => runningAfter = after.leaves

/-- Every stop the command makes is answered: the stop of the pane that was started for a split or a
tab the session then refuses, and the stops of the leaves of a tab it closes. -/
def StopsSucceed (host : ProcessHost η) (session : Session) (state : η)
    (command : ControlCommandSummary) : Prop :=
  (command.kind = .paneSplit → ∀ split, planPaneSplit session command = .ok split → ∀ next,
    host.startPane state split.newPaneId split.newHost = (.ok (), next) →
    (session.splitPane split.targetPaneId command.splitAxis split.newPaneId split.newHost).2 = false →
    (host.stopPane next split.newPaneId).1 = .ok ()) ∧
  (command.kind = .tabNew → ∀ tab, planTabNew session command = .ok tab → ∀ next,
    host.startPane state tab.paneId tab.newHost = (.ok (), next) →
    (session.addTab tab.tabId tab.title tab.paneId tab.newHost).2 = false →
    (host.stopPane next tab.paneId).1 = .ok ()) ∧
  (command.kind = .tabClose → ∀ tab, planTabClose session command = .ok tab →
    (session.closeTab tab.tabId).2 = true →
    (Session.stopPanes host state tab.paneIds).1 = .ok ())

/-! ### What an operation does to the leaves -/

namespace Session

variable {session : Session}

/-- A refused operation leaves the session alone. -/
theorem splitPane_refused {paneId newPaneId : String} {axis : Protocol.SplitAxis} {newHost : HostSpec}
    (h : (session.splitPane paneId axis newPaneId newHost).2 = false) :
    (session.splitPane paneId axis newPaneId newHost).1 = session := by
  rcases session.splitPane_cases paneId axis newPaneId newHost with hsame | hsplit
  · rw [hsame]
  · obtain ⟨-, -, active, root, left, right, -, hdone, -⟩ := hsplit
    rw [hdone] at h
    cases h

theorem closeTab_refused {tabId : String} (h : (session.closeTab tabId).2 = false) :
    (session.closeTab tabId).1 = session := by
  unfold closeTab at h ⊢
  split
  · rfl
  case isFalse hlength =>
    rw [if_neg hlength] at h
    split
    · rfl
    case h_2 hindex =>
      rw [hindex] at h
      cases h

theorem switchTab_leaves (tabId : String) : (session.switchTab tabId).1.leaves = session.leaves := by
  rw [leaves, leafPaneIds_of_nodes_eq (switchTab_nodes session tabId)]
  rfl

theorem switchTab_refused {tabId : String} (h : (session.switchTab tabId).2 = false) :
    (session.switchTab tabId).1 = session := by
  unfold switchTab at h ⊢
  split
  · rfl
  case h_2 hfind =>
    rw [hfind] at h
    dsimp only at h
    split
    · rfl
    case isFalse hpane =>
      rw [if_neg hpane] at h
      split
      · rfl
      case isFalse hactive =>
        rw [if_neg hactive] at h
        cases h

theorem splitPane_leaves_set {paneId newPaneId : String} {axis : Protocol.SplitAxis}
    {newHost : HostSpec} (h : (session.splitPane paneId axis newPaneId newHost).2 = true) :
    (session.splitPane paneId axis newPaneId newHost).1.leaves = insert newPaneId session.leaves := by
  ext id
  rw [leaves, Set.mem_ofPred_eq, (WellFormed.splitPane_leaves _ _ _ _ _ h).1.mem_iff, List.mem_cons]
  rfl

theorem addTab_leaves {tabId title paneId : String} {host : HostSpec}
    (h : (session.addTab tabId title paneId host).2 = true) :
    (session.addTab tabId title paneId host).1.leaves = insert paneId session.leaves := by
  rcases session.addTab_cases tabId title paneId host with hsame | hadd
  · rw [hsame] at h
    cases h
  · obtain ⟨-, -, -, -, active, -, -, hnodes⟩ := hadd
    ext id
    rw [leaves, Set.mem_ofPred_eq, leafPaneIds_eq, hnodes, List.filter_append, List.map_append,
      ← leafPaneIds_eq, List.mem_append]
    simp [leaves, newPaneFromTemplate, or_comm]

/-- A new tab can be switched to, unless it is active already. -/
theorem switchTab_added (hsession : session.WellFormed) {tab : TabNew}
    (h : (session.addTab tab.tabId tab.title tab.paneId tab.newHost).2 = true) :
    (!((session.addTab tab.tabId tab.title tab.paneId tab.newHost).1.switchTab tab.tabId).2 &&
      ((session.addTab tab.tabId tab.title tab.paneId tab.newHost).1.switchTab tab.tabId).1.activeTabId !=
        tab.tabId) = false := by
  have hadded := hsession.addTab tab.tabId tab.title tab.paneId tab.newHost
  have hmem : ∃ found ∈ (session.addTab tab.tabId tab.title tab.paneId tab.newHost).1.tabs,
      found.id = tab.tabId := by
    unfold addTab at h ⊢
    split
    case isTrue hbad =>
      rw [if_pos hbad] at h
      cases h
    case isFalse hgood =>
      rw [if_neg hgood] at h
      split
      case h_1 hactive =>
        rw [hactive] at h
        cases h
      case h_2 => exact ⟨_, List.mem_append_right _ (List.mem_singleton.mpr rfl), rfl⟩
  generalize (session.addTab tab.tabId tab.title tab.paneId tab.newHost).1 = after at *
  obtain ⟨found, hfound, hid⟩ := hmem
  unfold switchTab
  split
  case h_1 hnone =>
    rw [List.find?_eq_none] at hnone
    exact absurd (by simpa using hid) (hnone found hfound)
  case h_2 other hother =>
    have hpane := (hadded.tab other (List.mem_of_find?_eq_some hother)).activePane
    rw [if_neg (by rw [← Option.not_isSome, hpane]; simp)]
    split
    case isTrue hactive => simp [hactive]
    case isFalse => rfl

/-- A closed tab takes its leaves, and no others. -/
theorem closeTab_leaves (hsession : session.WellFormed) {tab : TabClose}
    {command : ControlCommandSummary} (hplan : planTabClose session command = .ok tab)
    (h : (session.closeTab tab.tabId).2 = true) :
    (session.closeTab tab.tabId).1.leaves = session.leaves \ {id | id ∈ tab.paneIds} ∧
      (session.closeTab tab.tabId).1 ≠ session := by
  rw [planTabClose] at hplan
  split at hplan
  · cases hplan
  case h_2 closed hclosed =>
    cases hplan
    simp only at h ⊢
    generalize command.tabId.getD session.activeTabId = tabId at *
    unfold closeTab at h ⊢
    split
    case isTrue hlength =>
      rw [if_pos hlength] at h
      cases h
    case isFalse hlength =>
      split
      case h_1 hindex =>
        rw [if_neg hlength, hindex] at h
        cases h
      case h_2 index hindex =>
        obtain ⟨hlt, hid, hfirst⟩ := List.findIdx?_eq_some_iff_getElem.mp hindex
        have hget : session.tabs[index] = closed := by
          obtain ⟨position, hposition, hother⟩ :=
            List.getElem_of_mem (List.mem_of_find?_eq_some hclosed)
          have hsame := List.inj_on_of_nodup_map hsession.tabIds (List.getElem_mem hlt)
            (List.mem_of_find?_eq_some hclosed)
          refine hsame ?_
          have hfound := List.find?_some hclosed
          simp only [beq_iff_eq] at hid hfound
          rw [hid, hfound]
        have hsplit : session.tabs = session.tabs.take index ++ closed :: session.tabs.drop (index + 1) := by
          rw [← hget, List.getElem_cons_drop, List.take_append_drop]
        have herase : session.tabs.eraseIdx index =
            session.tabs.take index ++ session.tabs.drop (index + 1) :=
          List.eraseIdx_eq_take_drop_succ _ _
        refine ⟨?_, fun hsame => ?_⟩
        · have hnodup := hsession.leafIds
          ext id
          simp only [leaves, leafPaneIds, Set.mem_sdiff, Set.mem_ofPred_eq, bumpVersion, herase]
          rw [leafPaneIds, hsplit] at hnodup
          conv_rhs => rw [hsplit]
          simp only [List.flatMap_append, List.flatMap_cons, List.mem_append]
          simp only [List.flatMap_append, List.flatMap_cons, List.nodup_append, List.mem_append] at hnodup
          obtain ⟨-, ⟨-, -, hright⟩, hleft⟩ := hnodup
          constructor
          · rintro (hid | hid)
            · exact ⟨.inl hid, fun hmem => hleft id hid id (.inl hmem) rfl⟩
            · exact ⟨.inr (.inr hid), fun hmem => hright id hmem id hid rfl⟩
          · rintro ⟨hid | hid | hid, hnot⟩
            · exact .inl hid
            · exact absurd hid hnot
            · exact .inr hid
        · have hlengths := congrArg (fun session : Session => session.tabs.length) hsame
          simp only [bumpVersion, List.length_eraseIdx_of_lt hlt] at hlengths
          omega

/-- The stops of a list of panes: all of them are answered, or one fails. -/
theorem stopPanes_running {host : ProcessHost η} {running : η → Set String}
    (htracks : host.Tracks running) {state : η} {paneIds : List String}
    (h : (stopPanes host state paneIds).1 = .ok ()) :
    running (stopPanes host state paneIds).2 = running state \ {id | id ∈ paneIds} := by
  induction paneIds generalizing state with
  | nil => simp [stopPanes]
  | cons paneId rest ih =>
    rw [stopPanes] at h ⊢
    cases hstop : host.stopPane state paneId with
    | mk result next =>
      rw [hstop] at h
      cases result with
      | error err => cases h
      | ok =>
        show running (stopPanes host next rest).2 = _
        rw [ih h, htracks.stop_ok hstop]
        ext id
        simp only [Set.mem_sdiff, Set.mem_singleton_iff, Set.mem_ofPred_eq, List.mem_cons, not_or,
          and_assoc]

end Session

/-! ### Each command -/

section
variable {host : ProcessHost η} {running : η → Set String} {session : Session} {state : η}
  {command : ControlCommandSummary}

theorem AtomicResult.map_iff {α β : Type} {before after : Session} {running runningAfter : Set String}
    (outcome : Except ControlCommandError α) (f : α → β) :
    AtomicResult before running (outcome.map f) after runningAfter ↔
      AtomicResult before running outcome after runningAfter := by
  cases outcome <;> rfl

/-- A start is taken back exactly if the stop is answered. -/
theorem ProcessHost.Tracks.unwind_iff (htracks : host.Tracks running) {paneId : String}
    {spec : HostSpec} {next : η} (hstart : host.startPane state paneId spec = (.ok (), next)) :
    running (host.stopPane next paneId).2 = running state ↔ (host.stopPane next paneId).1 = .ok () := by
  obtain ⟨hfresh, hstarted⟩ := htracks.start_ok hstart
  cases hstop : host.stopPane next paneId with
  | mk result last =>
    cases result with
    | ok =>
      simp only [iff_true]
      rw [htracks.stop_ok hstop, hstarted, Set.insert_sdiff_self_of_notMem hfresh]
    | error err =>
      simp only [reduceCtorEq, iff_false]
      rw [htracks.stop_error hstop, hstarted]
      intro hsame
      exact hfresh (hsame ▸ Set.mem_insert paneId _)

theorem applyPaneSplitCommand_atomic (htracks : host.Tracks running)
    (hrunning : running state = session.leaves) :
    AtomicResult session (running state) (session.applyPaneSplitCommand host state command).1
        (session.applyPaneSplitCommand host state command).2.1
        (running (session.applyPaneSplitCommand host state command).2.2) ↔
      ∀ split, planPaneSplit session command = .ok split → ∀ next,
        host.startPane state split.newPaneId split.newHost = (.ok (), next) →
        (session.splitPane split.targetPaneId command.splitAxis split.newPaneId split.newHost).2 = false →
        (host.stopPane next split.newPaneId).1 = .ok () := by
  rw [Session.applyPaneSplitCommand]
  cases planPaneSplit session command with
  | error error => simp [AtomicResult]
  | ok split =>
    cases hstart : host.startPane state split.newPaneId split.newHost with
    | mk result next =>
      cases result with
      | error err => simp [AtomicResult, hstart, htracks.start_error hstart]
      | ok =>
        simp only [Except.ok.injEq, forall_eq', hstart, Prod.mk.injEq, true_and]
        cases hsplit : (session.splitPane split.targetPaneId command.splitAxis split.newPaneId
            split.newHost).2 with
        | true =>
          have hleaves := Session.splitPane_leaves_set hsplit
          rw [← Prod.mk.eta (p := session.splitPane _ _ _ _), hsplit]
          simp [AtomicResult, hleaves, (htracks.start_ok hstart).2, hrunning]
        | false =>
          have hsame := Session.splitPane_refused hsplit
          rw [← Prod.mk.eta (p := session.splitPane _ _ _ _), hsplit]
          simp [AtomicResult, hsame, htracks.unwind_iff hstart]

theorem applyTabNewCommand_atomic (hsession : session.WellFormed) (htracks : host.Tracks running)
    (hrunning : running state = session.leaves) :
    AtomicResult session (running state) (session.applyTabNewCommand host state command).1
        (session.applyTabNewCommand host state command).2.1
        (running (session.applyTabNewCommand host state command).2.2) ↔
      ∀ tab, planTabNew session command = .ok tab → ∀ next,
        host.startPane state tab.paneId tab.newHost = (.ok (), next) →
        (session.addTab tab.tabId tab.title tab.paneId tab.newHost).2 = false →
        (host.stopPane next tab.paneId).1 = .ok () := by
  rw [Session.applyTabNewCommand]
  cases hplan : planTabNew session command with
  | error error => simp [AtomicResult]
  | ok tab =>
    cases hstart : host.startPane state tab.paneId tab.newHost with
    | mk result next =>
      cases result with
      | error err => simp [AtomicResult, hstart, htracks.start_error hstart]
      | ok =>
        simp only [Except.ok.injEq, forall_eq', hstart, Prod.mk.injEq, true_and]
        cases hadded : (session.addTab tab.tabId tab.title tab.paneId tab.newHost).2 with
        | true =>
          have hleaves := Session.addTab_leaves hadded
          have hswitch := Session.switchTab_added hsession hadded
          rw [← Prod.mk.eta (p := session.addTab _ _ _ _), hadded]
          simp only [hswitch, Bool.false_eq_true, if_false, reduceCtorEq, false_implies, iff_true,
            AtomicResult]
          rw [Session.switchTab_leaves, hleaves, (htracks.start_ok hstart).2, hrunning]
        | false =>
          have hsame := (Session.switchTab_of_refused hplan hadded).1
          rw [← Prod.mk.eta (p := session.addTab _ _ _ _), hadded]
          simp [AtomicResult, hsame, htracks.unwind_iff hstart]

theorem applyTabCloseCommand_atomic (hsession : session.WellFormed) (htracks : host.Tracks running)
    (hrunning : running state = session.leaves) :
    AtomicResult session (running state) (session.applyTabCloseCommand (some host) state command).1
        (session.applyTabCloseCommand (some host) state command).2.1
        (running (session.applyTabCloseCommand (some host) state command).2.2) ↔
      ∀ tab, planTabClose session command = .ok tab → (session.closeTab tab.tabId).2 = true →
        (Session.stopPanes host state tab.paneIds).1 = .ok () := by
  rw [Session.applyTabCloseCommand]
  cases hplan : planTabClose session command with
  | error error => simp [AtomicResult]
  | ok tab =>
    simp only [Except.ok.injEq, forall_eq']
    cases hclosed : (session.closeTab tab.tabId).2 with
    | false =>
      have hsame := Session.closeTab_refused hclosed
      rw [← Prod.mk.eta (p := session.closeTab _), hclosed]
      simp [AtomicResult, hsame]
    | true =>
      obtain ⟨hleaves, hchanged⟩ := Session.closeTab_leaves hsession hplan hclosed
      rw [← Prod.mk.eta (p := session.closeTab _), hclosed]
      simp only [forall_const]
      cases hstops : (Session.stopPanes host state tab.paneIds).1 with
      | ok =>
        simp only [AtomicResult, iff_true]
        rw [Session.stopPanes_running htracks hstops, hleaves, hrunning]
      | error err => simp [AtomicResult, hchanged]

/-- A switch leaves the leaves alone, and a refused one the session. -/
theorem applyTabSwitchCommand_atomic (hrunning : running state = session.leaves) :
    AtomicResult session (running state) (session.applyTabSwitchCommand command).1
      (session.applyTabSwitchCommand command).2 (running state) := by
  rw [Session.applyTabSwitchCommand]
  cases planTabSwitch session command with
  | error error => exact ⟨rfl, rfl⟩
  | ok tabId =>
    dsimp only
    split
    case isTrue hfailed =>
      simp only [Bool.and_eq_true, Bool.not_eq_true'] at hfailed
      exact ⟨Session.switchTab_refused hfailed.1, rfl⟩
    case isFalse =>
      show running state = (session.switchTab tabId).1.leaves
      rw [Session.switchTab_leaves, hrunning]

/-- Commands on a well-formed session. -/
theorem applyControlCommand_atomic (command : ControlCommandSummary) (hsession : session.WellFormed) (htracks : host.Tracks running)
    (hrunning : running state = session.leaves) :
    AtomicResult session (running state) (session.applyControlCommand (some host) state command).1
        (session.applyControlCommand (some host) state command).2.1
        (running (session.applyControlCommand (some host) state command).2.2) ↔
      StopsSucceed host session state command := by
  have hsplitNew : ControlCommandKind.paneSplit ≠ .tabNew := by decide
  have hsplitClose : ControlCommandKind.paneSplit ≠ .tabClose := by decide
  have hnewClose : ControlCommandKind.tabNew ≠ .tabClose := by decide
  simp only [Session.applyControlCommand, StopsSucceed]
  by_cases hsplit : command.kind = .paneSplit
  · simp [hsplit, hsplitNew, hsplitClose, ← applyPaneSplitCommand_atomic htracks hrunning,
      AtomicResult.map_iff]
  by_cases hnew : command.kind = .tabNew
  · simp [hnew, hsplitNew.symm, hnewClose, ← applyTabNewCommand_atomic hsession htracks hrunning,
      AtomicResult.map_iff]
  by_cases hclose : command.kind = .tabClose
  · simp [hclose, hsplitClose.symm, hnewClose.symm,
      ← applyTabCloseCommand_atomic hsession htracks hrunning, AtomicResult.map_iff]
  simp only [hsplit, hnew, hclose, if_false, false_implies, and_self, iff_true]
  split
  · exact (AtomicResult.map_iff _ _).mpr (applyTabSwitchCommand_atomic hrunning)
  split
  · exact ⟨rfl, rfl⟩
  split
  · refine (AtomicResult.map_iff _ _).mpr ?_
    cases applySessionKillCommand session command with
    | error => exact ⟨rfl, rfl⟩
    | ok => exact hrunning
  · exact ⟨rfl, rfl⟩

end

/-- **A control command is atomic exactly if its stops succeed.** On a session commands can reach, with
a host that runs its leaves: a failed command leaves the session and the running panes as they were,
and a successful one the leaves of the session running, if and only if every stop the command makes is
answered; so it is on the session itself and on an idle actor that holds it. -/
theorem control_command_atomic (engine : TerminalEngine σ) {host : ProcessHost η}
    {running : η → Set String} (daemon : Daemon σ η) (hreachable : ControlReachable daemon.session)
    (hidle : daemon.actor.Idle) (htracks : host.Tracks running)
    (hrunning : running daemon.host = daemon.session.leaves) (command : ControlCommandSummary) :
    (AtomicResult daemon.session (running daemon.host)
        (daemon.session.applyControlCommand (some host) daemon.host command).1
        (daemon.session.applyControlCommand (some host) daemon.host command).2.1
        (running (daemon.session.applyControlCommand (some host) daemon.host command).2.2) ↔
      StopsSucceed host daemon.session daemon.host command) ∧
    (AtomicResult daemon.session (running daemon.host)
        (daemon.applyControlCommand engine host command).1
        (daemon.applyControlCommand engine host command).2.session
        (running (daemon.applyControlCommand engine host command).2.host) ↔
      StopsSucceed host daemon.session daemon.host command) := by
  have hdirect := applyControlCommand_atomic command hreachable.wellFormed htracks hrunning
  refine ⟨hdirect, ?_⟩
  obtain ⟨houtcome, hsession, hhost, -⟩ := Daemon.applyControlCommand_agree engine
    (some host) command hidle
  rw [Daemon.applyControlCommandWithSessionActor] at houtcome hsession hhost
  rw [houtcome, hsession, hhost]
  exact hdirect

/-! ### A host whose stops may fail -/

/-- A host that knows which panes it runs, and cannot stop some of them. -/
def ProcessHost.stuck (isStuck : String → Bool) : ProcessHost (List String) where
  startPane running paneId _ :=
    if paneId ∈ running then (.error (.alreadyRunning paneId), running) else (.ok (), paneId :: running)
  checkPane running paneId :=
    if paneId ∈ running then (.ok (), running) else (.error (.notRunning paneId), running)
  writeInput running paneId _ :=
    if paneId ∈ running then (.ok (), running) else (.error (.notRunning paneId), running)
  resizePane running paneId _ _ :=
    if paneId ∈ running then (.ok (), running) else (.error (.notRunning paneId), running)
  stopPane running paneId :=
    if isStuck paneId then (.error (.io paneId "stop" "No such process"), running)
    else if paneId ∈ running then (.ok (), running.filter (· ≠ paneId))
    else (.error (.notRunning paneId), running)
  tryReadOutput running paneId :=
    if paneId ∈ running then (.ok [], running) else (.error (.notRunning paneId), running)

theorem ProcessHost.stuck_tracks (isStuck : String → Bool) :
    (ProcessHost.stuck isStuck).Tracks fun running => {paneId | paneId ∈ running} where
  start_ok h := by
    simp only [stuck] at h
    split at h
    · cases h
    case isFalse hfresh =>
      cases h
      refine ⟨hfresh, ?_⟩
      ext id
      simp
  start_error h := by
    simp only [stuck] at h
    split at h <;> cases h
    rfl
  stop_ok h := by
    simp only [stuck] at h
    split at h
    · cases h
    split at h
    · cases h
      ext id
      simp
    · cases h
  stop_error h := by
    simp only [stuck] at h
    split at h
    · cases h
      rfl
    split at h <;> cases h
    rfl

/-- A vertical split of the initial pane, on a host that can stop every pane. -/
theorem control_command_atomic_split :
    AtomicResult Session.initial {paneId | paneId ∈ ["pane-1"]}
      (Session.initial.applyControlCommand (some (.stuck fun _ => false)) ["pane-1"]
        ⟨"alice", 1, .paneSplit, none, none, .vertical, none, none⟩).1
      (Session.initial.applyControlCommand (some (.stuck fun _ => false)) ["pane-1"]
        ⟨"alice", 1, .paneSplit, none, none, .vertical, none, none⟩).2.1
      {paneId | paneId ∈ (Session.initial.applyControlCommand (some (.stuck fun _ => false)) ["pane-1"]
        ⟨"alice", 1, .paneSplit, none, none, .vertical, none, none⟩).2.2} := by
  have hidle : (Daemon.start interimTextTerminalEngine Session.initial 16 ["pane-1"]).actor.Idle :=
    SessionActor.new_idle _ _
  have hrunning : ({paneId | paneId ∈ ["pane-1"]} : Set String) = Session.initial.leaves := by
    rw [Session.leaves, show Session.initial.leafPaneIds = ["pane-1"] by decide]
  refine (control_command_atomic interimTextTerminalEngine
    (Daemon.start interimTextTerminalEngine Session.initial 16 ["pane-1"]) .initial hidle
    (ProcessHost.stuck_tracks fun _ => false) hrunning _).1.mpr ⟨?_, ?_, ?_⟩
  · intro _ split hplan next _ hrefused
    have hdone : (planPaneSplit Session.initial
        ⟨"alice", 1, .paneSplit, none, none, .vertical, none, none⟩).toOption.all (fun split =>
          (Session.initial.splitPane split.targetPaneId .vertical split.newPaneId split.newHost).2) =
        true := by decide
    rw [show planPaneSplit Session.initial _ = .ok split from hplan] at hdone
    exact absurd (hdone.symm.trans hrefused) (by decide)
  · exact fun hkind => absurd hkind (by decide)
  · exact fun hkind => absurd hkind (by decide)

/-- A second tab is opened and the first one closed, on a host that cannot stop its pane: the command
fails, and the tab is gone. -/
theorem tab_close_not_atomic :
    ¬ ∀ (session : Session) (host : ProcessHost (List String)) (state : List String)
      (command : ControlCommandSummary), ControlReachable session →
      (host.Tracks fun running => {paneId | paneId ∈ running}) →
      ({paneId | paneId ∈ state} : Set String) = session.leaves →
      AtomicResult session {paneId | paneId ∈ state}
        (session.applyControlCommand (some host) state command).1
        (session.applyControlCommand (some host) state command).2.1
        {paneId | paneId ∈ (session.applyControlCommand (some host) state command).2.2} := by
  intro h
  have hreach : ControlReachable _ := SessionReached.initial.command
    (some (.stuck (· == "pane-1"))) ["pane-1"] ⟨"alice", 1, .tabNew, none, none, .none, none, none⟩ trivial
  have hleaves : (Session.initial.applyControlCommand (some (.stuck (· == "pane-1"))) ["pane-1"]
      ⟨"alice", 1, .tabNew, none, none, .none, none, none⟩).2.1.leafPaneIds =
        ["pane-1", "tab-2-pane-1"] := by decide
  have hatomic := h _ (.stuck (· == "pane-1")) ["pane-1", "tab-2-pane-1"]
    ⟨"alice", 2, .tabClose, none, some "tab-1", .none, none, none⟩ hreach
    (ProcessHost.stuck_tracks _) (by rw [Session.leaves, hleaves])
  unfold AtomicResult at hatomic
  split at hatomic
  case h_1 heq =>
    have hlengths := congrArg (fun session : Session => session.tabs.length) hatomic.1
    exact absurd hlengths (by decide)
  case h_2 heq =>
    have hfails : (Session.applyControlCommand (some (.stuck (· == "pane-1")))
        (Session.initial.applyControlCommand (some (.stuck (· == "pane-1"))) ["pane-1"]
          ⟨"alice", 1, .tabNew, none, none, .none, none, none⟩).2.1 ["pane-1", "tab-2-pane-1"]
        ⟨"alice", 2, .tabClose, none, some "tab-1", .none, none, none⟩).1.isOk = false := by decide
    rw [heq] at hfails
    cases hfails

end Nmux
