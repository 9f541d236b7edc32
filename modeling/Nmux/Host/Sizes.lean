import Nmux.Control.Atomic
import Nmux.Live.Drain
import Nmux.Lib.Run

/-! The size of a pane and the window of its process. They are set apart: a process gets its window at
its start, from the host spec, and at every resize; a pane gets its size from its tab or its split and
at every resize. A split sizes two panes and tells the host of neither, a new tab may start from a spec
that no longer says the pane's size, and a resize beyond 65535 is cut to 16 bits for the window. Where
none of this happens, the two agree. -/
namespace Nmux

open Protocol (SplitAxis ControlCommandKind)

/-! ### A host whose calls succeed -/

/-- An operating system whose calls succeed: processes keep running, and the window of one is that of
its start or its latest resize. -/
structure PtySystem.Succeeds {τ ρ : Type} (system : PtySystem τ ρ) (window : ρ → PtySize) : Prop where
  openpty : ∀ now size, system.openpty now size = .ok ()
  spawn : ∀ now size command, ∃ child, system.spawn now size command = .ok child ∧ window child = size
  tryWait : ∀ now child, (system.tryWait now child).1 = .ok false ∧
    window (system.tryWait now child).2 = window child
  write : ∀ now child bytes, (system.write now child bytes).1 = .ok () ∧
    window (system.write now child bytes).2 = window child
  resize : ∀ now child size, (system.resize now child size).1 = .ok () ∧
    window (system.resize now child size).2 = size

/-- An engine that answers every resize between sizes of 16 bits. -/
def TerminalEngine.AnswersResizes {σ : Type} (engine : TerminalEngine σ) : Prop :=
  ∀ (state : σ) (input : TerminalInput) (cols rows : UInt32),
    input.cols.toNat < 2 ^ 16 → input.rows.toNat < 2 ^ 16 →
    0 < cols.toNat → 0 < rows.toNat → cols.toNat < 2 ^ 16 → rows.toNat < 2 ^ 16 →
    (engine.resize state input cols rows).2.isSome = true

/-- A window says the size. -/
def PtySize.Denotes (size : PtySize) (cols rows : UInt32) : Prop :=
  size.cols.toNat = cols.toNat ∧ size.rows.toNat = rows.toNat

instance (size : PtySize) (cols rows : UInt32) : Decidable (size.Denotes cols rows) :=
  inferInstanceAs (Decidable (_ ∧ _))

namespace LocalPtyProcess

variable {τ ρ : Type} {system : PtySystem τ ρ} {window : ρ → PtySize} {now : τ} {paneId : String}
  {slot : Option (LocalPtyProcess ρ)} {size : PtySize}

/-- The pane has a running process with that window. -/
def RunsIn (window : ρ → PtySize) (size : PtySize) (slot : Option (LocalPtyProcess ρ)) : Prop :=
  ∃ process, slot = some process ∧ process.process.status = .running ∧ window process.child = size

/-- A start changes nothing, or starts a process where none ran. -/
theorem startPane_cases (hsystem : system.Succeeds window) (spec : HostSpec) :
    ((∃ error, (startPane system now paneId spec slot).1 = .error error) ∧
        (startPane system now paneId spec slot).2 = slot) ∨
      ((∀ size, ¬ RunsIn window size slot) ∧
        (∃ process, (startPane system now paneId spec slot).1 = .ok process) ∧
        RunsIn window (initialPtySize spec) (startPane system now paneId spec slot).2) := by
  unfold startPane
  split
  · exact .inl ⟨⟨_, rfl⟩, rfl⟩
  case isFalse hstopped =>
    rw [hsystem.openpty]
    dsimp only
    split
    · exact .inl ⟨⟨_, rfl⟩, rfl⟩
    · obtain ⟨child, hspawn, hwindow⟩ := hsystem.spawn now (initialPtySize spec) ‹_›
      rw [hspawn]
      refine .inr ⟨?_, ⟨_, rfl⟩, _, rfl, rfl, hwindow⟩
      rintro size ⟨process, rfl, hrunning, -⟩
      exact hstopped (by simp [hrunning])

theorem reapExitedProcess_runs (hsystem : system.Succeeds window) (h : RunsIn window size slot) :
    ∃ process, reapExitedProcess system now paneId slot = (.ok false, some process) ∧
      process.process.status = .running ∧ window process.child = size := by
  obtain ⟨process, rfl, hrunning, hwindow⟩ := h
  obtain ⟨hanswer, hkept⟩ := hsystem.tryWait now process.child
  refine ⟨process.waited (system.tryWait now process.child).2 false, ?_, hrunning, hkept.trans hwindow⟩
  rw [reapExitedProcess]
  simp only [hrunning, ne_eq, not_true, if_false]
  rw [← Prod.mk.eta (p := system.tryWait now process.child), hanswer]

/-- A call on a running process reaches it. -/
theorem running_runs {α : Type} (hsystem : system.Succeeds window) (h : RunsIn window size slot)
    (call : LocalPtyProcess ρ → Except HostError α × Option (LocalPtyProcess ρ)) :
    ∃ process, running system now paneId slot call = call process ∧
      process.process.status = .running ∧ window process.child = size := by
  obtain ⟨process, hreaped, hrunning, hwindow⟩ : ∃ process,
      reapExitedProcess system now paneId slot = (.ok false, some process) ∧
        process.process.status = .running ∧ window process.child = size :=
    reapExitedProcess_runs hsystem h
  refine ⟨process, ?_, hrunning, hwindow⟩
  rw [running, hreaped]
  simp [hrunning]

theorem writeInput_runs (hsystem : system.Succeeds window) (h : RunsIn window size slot)
    (bytes : List UInt8) : RunsIn window size (writeInput system now paneId bytes slot).2 := by
  rw [writeInput]
  obtain ⟨process, hcall, hrunning, hwindow⟩ := running_runs hsystem h _
  rw [hcall]
  obtain ⟨hanswer, hkept⟩ := hsystem.write now process.child bytes
  rw [← Prod.mk.eta (p := system.write now process.child bytes), hanswer]
  exact ⟨_, rfl, hrunning, hkept.trans hwindow⟩

theorem resizePane_runs (hsystem : system.Succeeds window) (h : RunsIn window size slot)
    (cols rows : UInt32) :
    (resizePane system now paneId cols rows slot).1 = .ok () ∧
      RunsIn window (resizedPtySize cols rows) (resizePane system now paneId cols rows slot).2 := by
  rw [resizePane]
  obtain ⟨process, hcall, hrunning, hwindow⟩ := running_runs hsystem h _
  rw [hcall]
  obtain ⟨hanswer, hsized⟩ := hsystem.resize now process.child (resizedPtySize cols rows)
  rw [← Prod.mk.eta (p := system.resize now process.child _), hanswer]
  exact ⟨rfl, _, rfl, hrunning, hsized⟩

/-- Up to 65535 nothing is cut. -/
theorem resizedPtySize_denotes {cols rows : UInt32} (hcols : cols.toNat < 2 ^ 16)
    (hrows : rows.toNat < 2 ^ 16) : (resizedPtySize cols rows).Denotes cols rows := by
  constructor
  · show cols.toUInt16.toNat = cols.toNat
    rw [UInt32.toNat_toUInt16, Nat.mod_eq_of_lt hcols]
  · show rows.toUInt16.toNat = rows.toNat
    rw [UInt32.toNat_toUInt16, Nat.mod_eq_of_lt hrows]

end LocalPtyProcess

/-! ### The invariant -/

/-- Every leaf has a running process, in a window that says the size of the pane. -/
def SizesFollow {ρ : Type} (window : ρ → PtySize) (session : Session) (host : LocalPtyHost ρ) : Prop :=
  ∀ paneId ∈ session.leafPaneIds, ∃ size cols rows,
    LocalPtyProcess.RunsIn window size (host.processes paneId) ∧
      session.paneSize paneId = some (cols, rows) ∧ size.Denotes cols rows

namespace SizesFollow

open LocalPtyProcess

variable {τ ρ : Type} {system : PtySystem τ ρ} {window : ρ → PtySize} {now : τ} {session : Session}
  {host : LocalPtyHost ρ}

theorem fits (h : SizesFollow window session host) {paneId : String} (hleaf : paneId ∈ session.leafPaneIds)
    {cols rows : UInt32} (hsize : session.paneSize paneId = some (cols, rows)) :
    cols.toNat < 2 ^ 16 ∧ rows.toNat < 2 ^ 16 := by
  obtain ⟨size, cols', rows', -, hsame, hcols, hrows⟩ := h paneId hleaf
  rw [hsize] at hsame
  obtain ⟨rfl, rfl⟩ := Prod.mk.injEq .. ▸ Option.some.inj hsame
  exact ⟨hcols ▸ size.cols.toNat_lt, hrows ▸ size.rows.toNat_lt⟩

/-- What happens to a pane that is no leaf does not matter. -/
theorem off (h : SizesFollow window session host) {paneId : String}
    (hleaf : paneId ∉ session.leafPaneIds) {α : Type}
    (call : Option (LocalPtyProcess ρ) → α × Option (LocalPtyProcess ρ)) :
    SizesFollow window session (host.onPane paneId call).2 := by
  intro other hother
  have hne : other ≠ paneId := fun heq => hleaf (heq ▸ hother)
  obtain ⟨size, cols, rows, hruns, hsize, hdenotes⟩ := h other hother
  refine ⟨size, cols, rows, ?_, hsize, hdenotes⟩
  show RunsIn window size (Function.update host.processes paneId _ other)
  rwa [Function.update_of_ne hne]

/-- A call that keeps the window of a running process keeps all sizes. -/
theorem kept (h : SizesFollow window session host) (paneId : String) {α : Type}
    {call : Option (LocalPtyProcess ρ) → α × Option (LocalPtyProcess ρ)}
    (hcall : ∀ size slot, RunsIn window size slot → RunsIn window size (call slot).2) :
    SizesFollow window session (host.onPane paneId call).2 := by
  intro other hother
  obtain ⟨size, cols, rows, hruns, hsize, hdenotes⟩ := h other hother
  refine ⟨size, cols, rows, ?_, hsize, hdenotes⟩
  show RunsIn window size (Function.update host.processes paneId _ other)
  by_cases hsame : other = paneId
  · subst hsame
    rw [Function.update_self]
    exact hcall size _ hruns
  · rwa [Function.update_of_ne hsame]

/-- A start is refused, or it is of a pane that is no leaf. -/
theorem start (h : SizesFollow window session host) (hsystem : system.Succeeds window) (now : τ)
    (paneId : String) (spec : HostSpec) :
    (∃ error next, (ProcessHost.localPty system now).startPane host paneId spec = (.error error, next) ∧
        SizesFollow window session next) ∨
      ∃ next, (ProcessHost.localPty system now).startPane host paneId spec = (.ok (), next) ∧
        paneId ∉ session.leafPaneIds ∧ SizesFollow window session next ∧
        RunsIn window (initialPtySize spec) (next.processes paneId) := by
  have hcall : (ProcessHost.localPty system now).startPane host paneId spec =
      ((startPane system now paneId spec (host.processes paneId)).1.map fun _ => (),
        (host.onPane paneId (startPane system now paneId spec)).2) := rfl
  have hcases := @startPane_cases _ _ _ _ now paneId (host.processes paneId) hsystem spec
  rcases hcases with ⟨⟨error, herror⟩, hsame⟩ | ⟨hstopped, ⟨process, hok⟩, hruns⟩
  · have hhost : (host.onPane paneId (startPane system now paneId spec)).2 = host := by
      show LocalPtyHost.mk (Function.update host.processes paneId _) = host
      rw [hsame, Function.update_eq_self]
    rw [hcall, herror, hhost]
    exact .inl ⟨error, host, rfl, h⟩
  · have hleaf : paneId ∉ session.leafPaneIds := fun hmem => by
      obtain ⟨size, -, -, hrunning, -⟩ := h paneId hmem
      exact hstopped size hrunning
    rw [hcall, hok]
    refine .inr ⟨_, rfl, hleaf, h.off hleaf _, ?_⟩
    show RunsIn window _ (Function.update host.processes paneId _ paneId)
    rwa [Function.update_self]

/-- A session with the same nodes has the same sizes. -/
theorem of_nodes_eq (h : SizesFollow window session host) {after : Session}
    (hnodes : after.nodes = session.nodes) : SizesFollow window after host := by
  intro paneId hleaf
  rw [Session.leafPaneIds_of_nodes_eq hnodes] at hleaf
  rw [Session.paneSize_of_nodes_eq hnodes]
  exact h paneId hleaf

/-- A new tab, once its process has started in a window that says the size it gets. -/
theorem addTab (h : SizesFollow window session host) {tabId title paneId : String} {spec : HostSpec}
    (hadded : (session.addTab tabId title paneId spec).2 = true) {size : PtySize}
    (hruns : RunsIn window size (host.processes paneId))
    (hsize : ∀ tab, session.activeTab = some tab →
      size.Denotes tab.root.state.cols tab.root.state.rows) :
    SizesFollow window (session.addTab tabId title paneId spec).1 host := by
  rcases session.addTab_cases tabId title paneId spec with hsame | hadd
  · rw [hsame] at hadded
    cases hadded
  · obtain ⟨-, -, -, hfresh, active, hactive, -, hnodes⟩ := hadd
    have hnew : session.nodes.find? (PaneNode.named paneId) = none := by
      rw [← Session.pane_asNode, hfresh]
      rfl
    intro other hother
    rw [Session.leafPaneIds_eq, hnodes, List.filter_append, List.map_append, ← Session.leafPaneIds_eq,
      List.mem_append] at hother
    rw [Session.paneSize_eq, hnodes, List.find?_append]
    rcases hother with hold | hnew
    · obtain ⟨size, cols, rows, hruns, hsize, hdenotes⟩ := h other hold
      rw [Session.paneSize_eq] at hsize
      obtain ⟨node, hfind, hnode⟩ := Option.map_eq_some_iff.mp hsize
      exact ⟨size, cols, rows, hruns, by rw [hfind, Option.some_or, Option.map_some, hnode], hdenotes⟩
    · obtain rfl : other = paneId := by simpa [newPaneFromTemplate] using hnew
      refine ⟨size, active.root.state.cols, active.root.state.rows, hruns, ?_, hsize active hactive⟩
      rw [‹session.nodes.find? _ = none›]
      simp [PaneNode.named, newPaneFromTemplate]

/-- A committed resize, once the window has its size. -/
theorem resized {σ : Type} {engine : TerminalEngine σ} (hengine : engine.AnswersResizes)
    (hsystem : system.Succeeds window) (h : SizesFollow window session host) (state : σ) (paneId : String)
    {cols rows : UInt32} (hpositive : 0 < cols.toNat ∧ 0 < rows.toNat)
    (hfits : cols.toNat < 2 ^ 16 ∧ rows.toNat < 2 ^ 16) :
    SizesFollow window (session.commitPaneResizeWithEngine engine paneId cols rows state).1
      (host.onPane paneId (resizePane system now paneId cols rows)).2 := by
  intro other hother
  rw [Session.commitPaneResize_leafPaneIds] at hother
  obtain ⟨size, cols', rows', hruns, hsize, hdenotes⟩ := h other hother
  by_cases hsame : other = paneId
  · subst hsame
    obtain ⟨pane, hpane, hpaneSize⟩ := Option.map_eq_some_iff.mp hsize
    obtain ⟨hcols, hrows⟩ := h.fits hother hsize
    obtain ⟨rfl, rfl⟩ : pane.state.cols = cols' ∧ pane.state.rows = rows' := by simpa using hpaneSize
    refine ⟨resizedPtySize cols rows, cols, rows, ?_,
      Session.commitPaneResize_size engine state hpane
        (hengine _ _ _ _ hcols hrows hpositive.1 hpositive.2 hfits.1 hfits.2),
      resizedPtySize_denotes hfits.1 hfits.2⟩
    show RunsIn window _ (Function.update host.processes other _ other)
    rw [Function.update_self]
    exact (resizePane_runs hsystem hruns cols rows).2
  · refine ⟨size, cols', rows', ?_, ?_, hdenotes⟩
    · show RunsIn window _ (Function.update host.processes paneId _ other)
      rwa [Function.update_of_ne hsame]
    · rwa [Session.commitPaneResize_size_other engine state hsame]

end SizesFollow

/-! ### What the server does to the host -/

namespace Daemon

variable {σ η : Type} {engine : TerminalEngine σ} {host : ProcessHost η} {daemon : Daemon σ η}
  {paneId : String}

/-- Writes to a pane keep the session, and of the host what every write keeps. -/
theorem writeInputs_keeps {P : η → Prop} (hwrite : ∀ state bytes, P state →
    P (host.writeInput state paneId bytes).2) (writes : List (List UInt8)) (h : P daemon.host) :
    (daemon.writeInputs host paneId writes).2.session = daemon.session ∧
      P (daemon.writeInputs host paneId writes).2.host := by
  induction writes generalizing daemon with
  | nil => exact ⟨rfl, h⟩
  | cons bytes rest ih =>
    have hnext : P (daemon.writeInput host paneId bytes).2.host := hwrite _ _ h
    rw [writeInputs]
    split
    case h_1 err reached heq =>
      obtain rfl : _ = reached := congrArg Prod.snd heq
      exact ⟨rfl, hnext⟩
    case h_2 reached heq =>
      obtain rfl : _ = reached := congrArg Prod.snd heq
      exact ih hnext

/-- A committed resize is that of the session, and keeps of the host what every write keeps. -/
theorem commitPaneResize_keeps (engine : TerminalEngine σ) (host : ProcessHost η) {P : η → Prop} (hwrite : ∀ state bytes, P state →
    P (host.writeInput state paneId bytes).2) (hidle : daemon.actor.Idle) (sourceId : String)
    (cols rows : UInt32) (sessionMonoMs : UInt64) (h : P daemon.host) :
    (daemon.commitPaneResize engine host sourceId paneId cols rows sessionMonoMs).2.session =
        (daemon.session.commitPaneResizeWithEngine engine paneId cols rows
          (daemon.actor.core.terminalEngines paneId)).1 ∧
      P (daemon.commitPaneResize engine host sourceId paneId cols rows sessionMonoMs).2.host := by
  have hsession : (daemon.acceptEvent engine
      ⟨sourceId, .client, sessionMonoMs, .commitPaneResize paneId cols rows⟩).1.session =
        (daemon.session.commitPaneResizeWithEngine engine paneId cols rows
          (daemon.actor.core.terminalEngines paneId)).1 := by
    rw [acceptEvent_session hidle]
    rfl
  have hhost : P (daemon.acceptEvent engine
      ⟨sourceId, .client, sessionMonoMs, .commitPaneResize paneId cols rows⟩).1.host := h
  simp only [commitPaneResize]
  generalize (daemon.acceptEvent engine
    ⟨sourceId, .client, sessionMonoMs, .commitPaneResize paneId cols rows⟩).1 = accepted at *
  have hwrites := writeInputs_keeps hwrite (accepted.drainPanePtyWrites engine paneId).2
    (show P (accepted.drainPanePtyWrites engine paneId).1.host from hhost)
  have hforward : (accepted.forwardPtyWrites engine host paneId).2.session = accepted.session ∧
      P (accepted.forwardPtyWrites engine host paneId).2.host := by
    simp only [forwardPtyWrites]
    split
    case h_1 err reached heq =>
      obtain rfl : _ = reached := congrArg Prod.snd heq
      exact hwrites
    case h_2 reached heq =>
      obtain rfl : _ = reached := congrArg Prod.snd heq
      exact hwrites
  rw [← hsession]
  split
  case h_1 err reached heq =>
    obtain rfl : _ = reached := congrArg Prod.snd heq
    exact hforward
  case h_2 reached heq =>
    obtain rfl : _ = reached := congrArg Prod.snd heq
    exact hforward

end Daemon

/-! ### Runs -/

namespace Live

/-- A live session: its daemon, on the host of this machine, and its clients. -/
structure SizedSession (σ ρ : Type) where
  daemon : Daemon σ (LocalPtyHost ρ)
  clients : List LiveAttachedClient

/-- What sizes a pane: a command, a resize intent of a client, and the smallest viewport of a pane,
which the loop applies some time after the intents that asked for it. -/
inductive SizeStep where
  | paneSplit (command : ControlCommandSummary)
  | tabNew (command : ControlCommandSummary)
  | resize (index : Nat) (resize : ResizeIntentSummary)
  | viewport (paneId : String)

section
variable {σ τ ρ : Type} (engine : TerminalEngine σ) (system : PtySystem τ ρ)

/-- A step, at a time of the host and one of the session. -/
def sizeStep (live : SizedSession σ ρ) : τ × UInt64 × SizeStep → SizedSession σ ρ
  | (now, _, .paneSplit command) =>
    { live with daemon := (live.daemon.applyPaneSplitCommand engine (.localPty system now) command).2 }
  | (now, _, .tabNew command) =>
    { live with daemon := (live.daemon.applyTabNewCommand engine (.localPty system now) command).2 }
  | (now, nowMonoMs, .resize index resize) =>
    match live.clients[index]? with
    | none => live
    | some client =>
      let (_, client, daemon) :=
        drainResize engine (.localPty system now) client live.daemon .none resize nowMonoMs
      { daemon, clients := live.clients.set index client }
  | (now, nowMonoMs, .viewport paneId) =>
    { live with daemon := (applyConcurrentFrontendResize engine (.localPty system now) live.clients
        live.daemon paneId nowMonoMs).2 }

end

/-- A size the host is given as it is. -/
def FitsU16 (cols rows : UInt32) : Prop :=
  (0 < cols.toNat ∧ 0 < rows.toNat) ∧ cols.toNat < 2 ^ 16 ∧ rows.toNat < 2 ^ 16

/-- What keeps sizes and windows together. A split finds no leaf of its name with room for it. A new tab
that finds its pane's name free starts its process in the size of the active tab. A resize that is made
at once, and the smallest viewport of a pane, are of 16 bits. -/
def SizeStep.Keeps {σ ρ : Type} (live : SizedSession σ ρ) : SizeStep → Prop
  | .paneSplit command => ∀ split, planPaneSplit live.daemon.session command = .ok split →
    ∀ tab, live.daemon.session.activeTab = some tab → ∀ node ∈ tab.root.nodes, node.leaf = true →
    node.state.id = split.targetPaneId →
    splitChildSizes node.state.cols node.state.rows command.splitAxis = none
  | .tabNew command => ∀ tab, planTabNew live.daemon.session command = .ok tab →
    live.daemon.session.pane tab.paneId = none →
    ∀ active, live.daemon.session.activeTab = some active →
    (LocalPtyProcess.initialPtySize tab.newHost).Denotes active.root.state.cols active.root.state.rows
  | .resize _ intent => intent.reason ≠ .frontendViewport → FitsU16 intent.cols intent.rows
  | .viewport paneId => ∀ cols rows,
    smallestReadWriteFrontendResize live.clients paneId = some (cols, rows) → FitsU16 cols rows

/-- What every state of a run has. -/
structure SizedSession.Follows {σ ρ : Type} (window : ρ → PtySize) (live : SizedSession σ ρ) : Prop where
  idle : live.daemon.actor.Idle
  wellFormed : live.daemon.session.WellFormed
  sizes : SizesFollow window live.daemon.session live.daemon.host

namespace SizedSession.Follows

variable {σ τ ρ : Type} {engine : TerminalEngine σ} {system : PtySystem τ ρ} {window : ρ → PtySize}
  {live : SizedSession σ ρ} {now : τ} {nowMonoMs : UInt64} {session : Session} {host : LocalPtyHost ρ}
  {command : ControlCommandSummary}

/-- A split that finds no room starts its process and stops it again. -/
theorem splitSizes (h : SizesFollow window session host) (hsystem : system.Succeeds window) (now : τ)
    (hroom : ∀ split, planPaneSplit session command = .ok split →
      ∀ tab, session.activeTab = some tab → ∀ node ∈ tab.root.nodes, node.leaf = true →
      node.state.id = split.targetPaneId →
      splitChildSizes node.state.cols node.state.rows command.splitAxis = none) :
    (session.applyPaneSplitCommand (.localPty system now) host command).2.1 = session ∧
      SizesFollow window session
        (session.applyPaneSplitCommand (.localPty system now) host command).2.2 := by
  rw [Session.applyPaneSplitCommand]
  cases hplan : planPaneSplit session command with
  | error error => exact ⟨rfl, h⟩
  | ok split =>
    have hrefused : session.splitPane split.targetPaneId command.splitAxis split.newPaneId
        split.newHost = (session, false) := by
      rcases session.splitPane_cases split.targetPaneId command.splitAxis split.newPaneId split.newHost
        with hsame | ⟨-, -, active, root, left, right, hactive, -, hnodes, -, -⟩
      · exact hsame
      · obtain ⟨before, after, target, sizes, hbefore, hid, hsizes, -⟩ := hnodes.split
        have hnone := hroom split hplan active hactive ⟨target, true⟩ (by rw [hbefore]; simp) rfl hid
        rw [hsizes] at hnone
        cases hnone
    dsimp only
    rcases h.start hsystem now split.newPaneId split.newHost with
      ⟨error, next, hstart, hsizes⟩ | ⟨next, hstart, hleaf, hsizes, -⟩
    · rw [hstart]
      exact ⟨rfl, hsizes⟩
    · rw [hstart, hrefused]
      exact ⟨rfl, hsizes.off hleaf _⟩

/-- A new tab starts in the size it gets, or its process is stopped again. -/
theorem tabSizes (h : SizesFollow window session host) (hsession : session.WellFormed)
    (hsystem : system.Succeeds window) (now : τ)
    (hsize : ∀ tab, planTabNew session command = .ok tab → session.pane tab.paneId = none →
      ∀ active, session.activeTab = some active →
      (LocalPtyProcess.initialPtySize tab.newHost).Denotes active.root.state.cols active.root.state.rows) :
    (session.applyTabNewCommand (.localPty system now) host command).2.1.WellFormed ∧
      SizesFollow window (session.applyTabNewCommand (.localPty system now) host command).2.1
        (session.applyTabNewCommand (.localPty system now) host command).2.2 := by
  rw [Session.applyTabNewCommand]
  cases hplan : planTabNew session command with
  | error error => exact ⟨hsession, h⟩
  | ok tab =>
    dsimp only
    rcases h.start hsystem now tab.paneId tab.newHost with
      ⟨error, next, hstart, hsizes⟩ | ⟨next, hstart, hleaf, hsizes, hruns⟩
    · rw [hstart]
      exact ⟨hsession, hsizes⟩
    · rw [hstart]
      dsimp only
      cases hadded : (session.addTab tab.tabId tab.title tab.paneId tab.newHost).2 with
      | false =>
        have hsame := (Session.switchTab_of_refused hplan hadded).1
        rw [← Prod.mk.eta (p := session.addTab _ _ _ _), hadded, hsame]
        exact ⟨hsession, hsizes.off hleaf _⟩
      | true =>
        have hfresh : session.pane tab.paneId = none := by
          rcases session.addTab_cases tab.tabId tab.title tab.paneId tab.newHost with hsame | hadd
          · rw [hsame] at hadded
            cases hadded
          · exact hadd.2.2.2.1
        have hnew := hsizes.addTab hadded hruns (hsize tab hplan hfresh)
        have hswitch := Session.switchTab_added hsession hadded
        rw [← Prod.mk.eta (p := session.addTab _ _ _ _), hadded]
        simp only [hswitch, Bool.false_eq_true, if_false]
        exact ⟨(hsession.addTab _ _ _ _).switchTab _, hnew.of_nodes_eq (Session.switchTab_nodes _ _)⟩

theorem paneSplit (h : live.Follows window) (hsystem : system.Succeeds window)
    (hkeeps : (SizeStep.paneSplit command).Keeps live) :
    (sizeStep engine system live (now, nowMonoMs, .paneSplit command)).Follows window := by
  have hagree : Daemon.Agrees
      (live.daemon.session.applyPaneSplitCommand (.localPty system now) live.daemon.host command)
      (live.daemon.applyPaneSplitCommand engine (.localPty system now) command) :=
    Daemon.applyPaneSplitCommand_agree _ h.idle
  obtain ⟨-, hsession, hhost, hidle⟩ := hagree
  obtain ⟨hsame, hsizes⟩ := splitSizes h.sizes hsystem now hkeeps
  rw [hsame] at hsession
  rw [← hhost, ← hsession] at hsizes
  exact ⟨hidle, hsession.symm ▸ h.wellFormed, hsizes⟩

theorem tabNew (h : live.Follows window) (hsystem : system.Succeeds window)
    (hkeeps : (SizeStep.tabNew command).Keeps live) :
    (sizeStep engine system live (now, nowMonoMs, .tabNew command)).Follows window := by
  have hagree : Daemon.Agrees
      (live.daemon.session.applyTabNewCommand (.localPty system now) live.daemon.host command)
      (live.daemon.applyTabNewCommand engine (.localPty system now) command) :=
    Daemon.applyTabNewCommand_agree _ h.idle
  obtain ⟨-, hsession, hhost, hidle⟩ := hagree
  have hsizes := tabSizes h.sizes h.wellFormed hsystem now hkeeps
  rw [← hhost, ← hsession] at hsizes
  exact ⟨hidle, hsizes.1, hsizes.2⟩

/-- A resize of the host, and then of the session if the host took it. A leaf's process takes it. -/
theorem resizes (h : live.Follows window) (hsystem : system.Succeeds window)
    (hengine : engine.AnswersResizes) {paneId : String} {cols rows : UInt32} (hfits : FitsU16 cols rows)
    {daemon : Daemon σ (LocalPtyHost ρ)} (clients : List LiveAttachedClient)
    (hresizes : Resizes engine (.localPty system now) live.daemon paneId cols rows daemon) :
    SizedSession.Follows window { daemon, clients } := by
  have hidle : (live.daemon.resizePane (.localPty system now) paneId cols rows).2.actor.Idle := h.idle
  cases hresizes with
  | refused error hrefused =>
    have hleaf : paneId ∉ live.daemon.session.leafPaneIds := by
      intro hleaf
      obtain ⟨size, -, -, hruns, -⟩ := h.sizes paneId hleaf
      have htaken : (live.daemon.resizePane (.localPty system now) paneId cols rows).1 = .ok () :=
        (LocalPtyProcess.resizePane_runs hsystem hruns cols rows).1
      rw [htaken] at hrefused
      cases hrefused
    exact ⟨hidle, h.wellFormed, h.sizes.off hleaf _⟩
  | committed sourceId nowMonoMs =>
    have hwrite : ∀ host bytes,
        SizesFollow window (live.daemon.session.commitPaneResizeWithEngine engine paneId cols rows
          (live.daemon.actor.core.terminalEngines paneId)).1 host →
        SizesFollow window (live.daemon.session.commitPaneResizeWithEngine engine paneId cols rows
          (live.daemon.actor.core.terminalEngines paneId)).1
          ((ProcessHost.localPty system now).writeInput host paneId bytes).2 :=
      fun host bytes hhost => hhost.kept paneId fun size slot hruns =>
        LocalPtyProcess.writeInput_runs hsystem hruns bytes
    obtain ⟨hsession, hhost⟩ := Daemon.commitPaneResize_keeps engine (.localPty system now) hwrite hidle
      sourceId cols rows nowMonoMs
      (SizesFollow.resized hengine hsystem h.sizes _ paneId hfits.1 hfits.2)
    have hserves : Daemon.Serves engine (fun _ _ => True) (fun _ => True)
        (live.daemon.resizePane (.localPty system now) paneId cols rows).2
        ((live.daemon.resizePane (.localPty system now) paneId cols rows).2.commitPaneResize engine
          (.localPty system now) sourceId paneId cols rows nowMonoMs).2 :=
      Daemon.commitPaneResize_serves hidle trivial fun _ _ => trivial
    refine ⟨hserves.idle hidle, ?_, ?_⟩
    · rw [hsession]
      exact h.wellFormed.resize engine _ paneId cols rows
    · rw [hsession]
      exact hhost

/-- A step that keeps sizes and windows together. -/
theorem step (h : live.Follows window) (hsystem : system.Succeeds window)
    (hengine : engine.AnswersResizes) (input : τ × UInt64 × SizeStep) (hkeeps : input.2.2.Keeps live) :
    (sizeStep engine system live input).Follows window := by
  obtain ⟨now, nowMonoMs, step⟩ := input
  cases step with
  | paneSplit command => exact h.paneSplit hsystem hkeeps
  | tabNew command => exact h.tabNew hsystem hkeeps
  | resize index intent =>
    cases hclient : live.clients[index]? with
    | none =>
      simp only [sizeStep, hclient]
      exact h
    | some client =>
      simp only [sizeStep, hclient]
      rcases drainResize_daemon client live.daemon .none intent nowMonoMs with
        hsame | ⟨-, -, -, hreason, hresizes⟩
      · rw [hsame]
        exact ⟨h.idle, h.wellFormed, h.sizes⟩
      · exact h.resizes hsystem hengine (hkeeps hreason) _ hresizes
  | viewport paneId =>
    simp only [sizeStep]
    rcases applyConcurrentFrontendResize_daemon live.clients live.daemon paneId nowMonoMs with
      hsame | ⟨cols, rows, hsmallest, -, hresizes⟩
    · rw [hsame]
      exact h
    · exact h.resizes hsystem hengine (hkeeps cols rows hsmallest) _ hresizes

end SizedSession.Follows

/-- **Windows follow sizes as long as no split finds room, new tabs start in the size of the active one,
and resizes are of 16 bits.** On a host whose calls succeed, in every run whose steps are so, every leaf
has at every point a process whose window says the size of the pane. -/
theorem process_size_follows_pane_size {σ τ ρ : Type} {engine : TerminalEngine σ}
    {system : PtySystem τ ρ} {window : ρ → PtySize} (hengine : engine.AnswersResizes)
    (hsystem : system.Succeeds window) {live : SizedSession σ ρ} (hidle : live.daemon.actor.Idle)
    (hsession : live.daemon.session.WellFormed)
    (hsizes : SizesFollow window live.daemon.session live.daemon.host)
    {steps : List (τ × UInt64 × SizeStep)}
    (hsteps : Lib.Along (sizeStep engine system) (fun live step => step.2.2.Keeps live) live steps)
    {first rest : List (τ × UInt64 × SizeStep)} (hrun : steps = first ++ rest) :
    SizesFollow window (Lib.run (sizeStep engine system) live first).daemon.session
      (Lib.run (sizeStep engine system) live first).daemon.host := by
  subst hrun
  have hfollows := (Lib.along_append (sizeStep engine system)).mp hsteps |>.1.invariant
    (I := SizedSession.Follows window)
    (fun live step hlive hkeeps => hlive.step hsystem hengine step hkeeps)
    ⟨hidle, hsession, hsizes⟩
  exact hfollows.sizes

/-! ### A host that remembers windows -/

/-- Everything succeeds, and a process is its window. -/
def windowSystem : PtySystem Unit PtySize where
  containerRuntime := none
  openpty _ _ := .ok ()
  spawn _ size _ := .ok size
  tryWait _ size := (.ok false, size)
  write _ size _ := (.ok (), size)
  resize _ _ size := (.ok (), size)
  received _ size := ([], size)
  kill _ size := (.ok (), size)
  wait _ size := (.ok (), size)

theorem windowSystem_succeeds : windowSystem.Succeeds id where
  openpty _ _ := rfl
  spawn _ size _ := ⟨size, rfl, rfl⟩
  tryWait _ _ := ⟨rfl, rfl⟩
  write _ _ _ := ⟨rfl, rfl⟩
  resize _ _ _ := ⟨rfl, rfl⟩

theorem interimText_answersResizes : interimTextTerminalEngine.AnswersResizes :=
  fun _ _ _ _ _ _ _ _ _ _ => rfl

/-- The initial session with its pane started, and one client who may write. -/
def sizedStart : SizedSession InterimAnsiState PtySize where
  daemon := .start interimTextTerminalEngine Session.initial 16
    ((ProcessHost.localPty windowSystem ()).startPane .default "pane-1" (.local "local" (.new "sh"))).2
  clients := [{
    transport := .async fun _ => none
    connectionId := "conn-1"
    actor := ⟨"alice", "alice", "alice", .readWrite, none⟩
    hostname := ""
    clientKind := "cli"
    inventorySubscribed := false
    connectedAtMonoMs := 0
    lastSeenMonoMs := 0
    lastInputMonoMs := none
    seq := 1
    knownSurfaceVersions := .empty
    frontendResizeConstraints := .empty
    completedCycles := 0
    handed := 0
    queued := [] }]

theorem sizedStart_follows : SizesFollow id sizedStart.daemon.session sizedStart.daemon.host := by
  intro paneId hleaf
  obtain rfl : paneId = "pane-1" := by
    have hleaves : sizedStart.daemon.session.leafPaneIds = ["pane-1"] := by decide
    simpa [hleaves] using hleaf
  exact ⟨⟨24, 80⟩, 80, 24, ⟨_, rfl, rfl, rfl⟩, by decide, by decide⟩

/-- A tab is opened, then the first pane is resized. -/
theorem process_size_follows_pane_size_tab :
    SizesFollow id
      (Lib.run (sizeStep interimTextTerminalEngine windowSystem) sizedStart [
        ((), 5, .tabNew ⟨"alice", 1, .tabNew, none, none, .none, none, none⟩),
        ((), 6, .resize 0 ⟨"pane-1", "alice", 100, 30, .userCommand⟩)]).daemon.session
      (Lib.run (sizeStep interimTextTerminalEngine windowSystem) sizedStart [
        ((), 5, .tabNew ⟨"alice", 1, .tabNew, none, none, .none, none, none⟩),
        ((), 6, .resize 0 ⟨"pane-1", "alice", 100, 30, .userCommand⟩)]).daemon.host := by
  have hsteps : Lib.Along (sizeStep interimTextTerminalEngine windowSystem)
      (fun live step => step.2.2.Keeps live) sizedStart [
        ((), 5, .tabNew ⟨"alice", 1, .tabNew, none, none, .none, none, none⟩),
        ((), 6, .resize 0 ⟨"pane-1", "alice", 100, 30, .userCommand⟩)] := by
    refine ⟨?_, fun _ => ⟨by decide, by decide⟩, trivial⟩
    intro tab hplan _ active hactive
    have hsize : (planTabNew Session.initial
        ⟨"alice", 1, .tabNew, none, none, .none, none, none⟩).toOption.all
          (fun tab => Session.initial.activeTab.all fun active =>
            decide ((LocalPtyProcess.initialPtySize tab.newHost).Denotes active.root.state.cols
              active.root.state.rows)) = true := by decide
    rw [show planTabNew Session.initial _ = .ok tab from hplan,
      show Session.initial.activeTab = some active from hactive] at hsize
    exact of_decide_eq_true hsize
  have hidle : sizedStart.daemon.actor.Idle := SessionActor.new_idle _ _
  have hsession : sizedStart.daemon.session.WellFormed := Session.initial_wellFormed
  exact process_size_follows_pane_size interimText_answersResizes windowSystem_succeeds hidle hsession
    sizedStart_follows hsteps (List.append_nil _).symm

/-- One split of the initial pane: it is half as wide, and its process is told nothing. -/
theorem process_size_not_followed :
    ¬ ∀ (live : SizedSession InterimAnsiState PtySize) (step : Unit × UInt64 × SizeStep),
      live.daemon.actor.Idle → live.daemon.session.WellFormed →
      SizesFollow id live.daemon.session live.daemon.host →
      SizesFollow id (sizeStep interimTextTerminalEngine windowSystem live step).daemon.session
        (sizeStep interimTextTerminalEngine windowSystem live step).daemon.host := by
  intro h
  have hleaf : "pane-1" ∈ (sizeStep interimTextTerminalEngine windowSystem sizedStart
      ((), 5, .paneSplit ⟨"alice", 1, .paneSplit, none, none, .vertical, none, none⟩)).daemon.session.leafPaneIds := by
    decide
  have hidle : sizedStart.daemon.actor.Idle := SessionActor.new_idle _ _
  have hsession : sizedStart.daemon.session.WellFormed := Session.initial_wellFormed
  obtain ⟨size, cols, rows, ⟨process, hprocess, -, hwindow⟩, hsize, hdenotes⟩ := h sizedStart
    ((), 5, .paneSplit ⟨"alice", 1, .paneSplit, none, none, .vertical, none, none⟩) hidle hsession
    sizedStart_follows "pane-1" hleaf
  have hstarted : ((sizeStep interimTextTerminalEngine windowSystem sizedStart
      ((), 5, .paneSplit ⟨"alice", 1, .paneSplit, none, none, .vertical, none, none⟩)).daemon.host.processes
        "pane-1").map (·.child) = some ⟨24, 80⟩ := by decide
  have hhalf : (sizeStep interimTextTerminalEngine windowSystem sizedStart
      ((), 5, .paneSplit ⟨"alice", 1, .paneSplit, none, none, .vertical, none, none⟩)).daemon.session.paneSize
        "pane-1" = some (40, 24) := by decide
  rw [hprocess] at hstarted
  rw [hhalf] at hsize
  obtain rfl : size = ⟨24, 80⟩ := hwindow.symm.trans (Option.some.inj hstarted)
  obtain ⟨rfl, rfl⟩ := Prod.mk.injEq .. ▸ Option.some.inj hsize
  exact absurd hdenotes (by decide)

end Live

end Nmux
