import Nmux.Versions.Panes
import Nmux.Core.PaneNames
import Nmux.Daemon.Control
import Nmux.Daemon.Output
import Nmux.Daemon.Attach
import Nmux.Lib.Run
import Nmux.Core.InterimText

/-! A surface version over the life of a session. As long as no command makes a new node under the
name of a pane, the pane a client recorded is still the one its version names, and a client that is
told its surface is current holds the current surface. Names are reused, though: the smallest free
ones are given to new panes and tabs, and a new pane starts at version one again. -/
namespace Nmux

open Lib

/-! ### Events -/

/-- The event makes no new node named `paneId`: a new pane is refused under a name in use, a split
container is not. An event on the pane itself finds its version below the maximum, and output finds
its lines within its rows. -/
def EventContinues (paneId : String) (session : Session) : SessionEvent → Prop
  | .addTab _ _ newPaneId _ => newPaneId = paneId → (session.pane paneId).isSome
  | .splitPane target _ newPaneId _ =>
    (newPaneId = paneId → (session.pane paneId).isSome) ∧
      "split-" ++ target ++ "-" ++ newPaneId ≠ paneId ∧
        (target = paneId → ∀ state ∈ session.named paneId, state.VersionBelowMax)
  | .paneOutput target _ => target = paneId → ∀ state ∈ session.named paneId,
      state.VersionBelowMax ∧ state.surfaceLines.length ≤ state.rows.toNat
  | .commitPaneResize target _ _ =>
    target = paneId → ∀ state ∈ session.named paneId, state.VersionBelowMax
  | _ => True

instance (paneId : String) (session : Session) (event : SessionEvent) :
    Decidable (EventContinues paneId session event) :=
  match event with
  | .addTab _ _ newPaneId _ => inferInstanceAs (Decidable (newPaneId = paneId → _))
  | .splitPane _ _ newPaneId _ =>
    inferInstanceAs (Decidable ((newPaneId = paneId → _) ∧ _ ∧ (_ = paneId → _)))
  | .paneOutput target _ => inferInstanceAs (Decidable (target = paneId → _))
  | .commitPaneResize target _ _ => inferInstanceAs (Decidable (target = paneId → _))
  | .switchTab .. | .closeTab .. | .focusPane .. | .setPaneResizePolicy ..
  | .requestSessionShutdown .. | .forwardPaneInput .. =>
    inferInstanceAs (Decidable True)

/-- One accepted event. -/
theorem acceptPending_continues {σ : Type} {engine : TerminalEngine σ} {core : SessionCore σ}
    {paneId : String} {pending : PendingSessionEvent}
    (h : EventContinues paneId core.session pending.event) :
    Session.Continues paneId core.session (core.acceptPending engine pending).1.session := by
  apply Session.Moves.continues
  apply acceptPending_moves fun _ => .refl _
  cases hevent : pending.event <;> rw [hevent] at h
  case addTab tabId title newPaneId host =>
    intro hname _ hfresh
    have hsome := h hname
    rw [← hname, hfresh] at hsome
    cases hsome
  case splitPane target axis newPaneId host =>
    intro _ hfresh state hstate sizes _
    obtain ⟨hnew, hcontainer, hroom⟩ := h
    refine ⟨fun hname => hcontainer hname, fun htarget => ?_, fun hname => ?_⟩
    · exact splitExisting_renews sizes (hroom htarget state (htarget ▸ hstate))
    · have hsome := hnew hname
      rw [← hname, hfresh] at hsome
      cases hsome
  case setPaneResizePolicy => exact fun _ _ _ => ⟨le_rfl, fun _ => rfl⟩
  case paneOutput target bytes =>
    intro htarget state hstate update _
    obtain ⟨hroom, hfit⟩ := h htarget state (htarget ▸ hstate)
    exact updateStep_renews update hroom hfit
  case commitPaneResize target cols rows =>
    exact fun htarget state hstate update _ =>
      resizedPane_renews cols rows update (h htarget state (htarget ▸ hstate))
  all_goals trivial

/-! ### Runs of the session -/

/-- What a run of the session is made of: a control command, output of a pane that the server read,
and a resize it commits. -/
inductive SessionOp where
  | control (command : ControlCommandSummary)
  | output (paneId : String) (chunks : List (List UInt8)) (sessionMonoMs : UInt64)
  | resize (sourceId paneId : String) (cols rows : UInt32) (sessionMonoMs : UInt64)
deriving DecidableEq, Repr

section
variable {σ η : Type} (engine : TerminalEngine σ) (host : ProcessHost η)

def sessionStep (daemon : Daemon σ η) : SessionOp → Daemon σ η
  | .control command => (daemon.applyControlCommand engine host command).2
  | .output paneId chunks sessionMonoMs =>
    (daemon.flushPaneOutputHandoff engine paneId chunks sessionMonoMs).1
  | .resize sourceId paneId cols rows sessionMonoMs =>
    (daemon.commitPaneResize engine host sourceId paneId cols rows sessionMonoMs).2

end

/-- The events the operation asks for are allowed in the session it finds. -/
def SessionOp.Allowed (okEvent : Session → SessionEvent → Prop) (session : Session) :
    SessionOp → Prop
  | .control command => Daemon.CommandAllowed okEvent session command
  | .output paneId chunks _ => okEvent session (.paneOutput paneId chunks.flatten)
  | .resize _ paneId cols rows _ => okEvent session (.commitPaneResize paneId cols rows)

/-- An operation reaches the session only through the events it asks for. -/
theorem sessionStep_serves {σ η : Type} {engine : TerminalEngine σ} {host : ProcessHost η}
    {okEvent : Session → SessionEvent → Prop} {daemon : Daemon σ η} {op : SessionOp}
    (hidle : daemon.actor.Idle) (ok : op.Allowed okEvent daemon.session) :
    Daemon.Serves engine okEvent (fun _ => True) daemon (sessionStep engine host daemon op) := by
  cases op with
  | control command => exact Daemon.applyControlCommand_serves hidle ok
  | output paneId chunks sessionMonoMs =>
    simp only [sessionStep, Daemon.flushPaneOutputHandoff]
    split
    · exact .refl _
    · exact (Daemon.Serves.refl daemon).acceptEvent hidle _ ok
  | resize => exact Daemon.commitPaneResize_serves hidle ok fun _ _ => trivial

/-! ### The recorded version -/

section
variable {σ η : Type} {engine : TerminalEngine σ} {host : ProcessHost η}

theorem run_serves {okEvent : Session → SessionEvent → Prop} {daemon : Daemon σ η}
    {ops : List SessionOp} (hidle : daemon.actor.Idle)
    (hops : Along (sessionStep engine host) (fun daemon op => op.Allowed okEvent daemon.session)
      daemon ops) :
    Daemon.Serves engine okEvent (fun _ => True) daemon (run (sessionStep engine host) daemon ops) := by
  induction ops generalizing daemon with
  | nil => exact .refl _
  | cons op rest ih =>
    have hstep : Daemon.Serves engine okEvent (fun _ => True) daemon (sessionStep engine host daemon op) :=
      sessionStep_serves hidle hops.1
    exact hstep.trans (ih (hstep.idle hidle) hops.2)

/-- Nothing is sent for a known pane exactly if the known version is the current one. -/
theorem AttachRequest.surfaceResponse_eq_none {request : AttachRequest} {session : Session}
    {paneId : String} {known : KnownSurfaceVersion} {pane : Pane}
    (hknown : request.knownSurfaces.find? (·.paneId == paneId) = some known)
    (hpane : session.pane paneId = some pane) :
    request.surfaceResponse session paneId = none ↔ known.version = pane.state.surfaceVersion := by
  simp only [surfaceResponse, Session.surfaceVersion, hpane, Option.map_some, hknown,
    surfaceResponseForKnownVersion]
  constructor
  · intro hnone
    by_contra hne
    rw [if_neg hne] at hnone
    repeat' split at hnone
    all_goals cases hnone
  · intro heq
    rw [if_pos heq]

/-- **A surface version names one content.** A client recorded a pane's version at some point of a run
that gave every split container a fresh name; since then no operation made a new node under the pane's
name. If the server then has nothing to send the client, the pane's surface is the recorded one. -/
theorem surface_version_names_content {session : Session} {traceCap : Nat} {state : η}
    {before after : List SessionOp} {paneId : String} {request : AttachRequest}
    {known : KnownSurfaceVersion} (hdistinct : session.DistinctIds)
    (hbefore : Along (sessionStep engine host)
      (fun daemon op => op.Allowed ContainerFresh daemon.session)
      (.start engine session traceCap state) before) :
    let recorded := run (sessionStep engine host) (.start engine session traceCap state) before
    let current := run (sessionStep engine host) recorded after
    Along (sessionStep engine host)
      (fun daemon op => op.Allowed (EventContinues paneId) daemon.session) recorded after →
    request.knownSurfaces.find? (·.paneId == paneId) = some known →
    recorded.session.surfaceVersion paneId = some known.version →
    (current.session.pane paneId).isSome →
    request.surfaceResponse current.session paneId = none →
    current.session.paneSurface paneId = recorded.session.paneSurface paneId := by
  intro recorded current hafter hknown hversion hlive hcurrent
  have hserved : Daemon.Serves engine ContainerFresh (fun _ => True)
      (.start engine session traceCap state) recorded := run_serves rfl hbefore
  have hidle : recorded.actor.Idle := hserved.idle rfl
  have hids : recorded.session.DistinctIds :=
    hserved.invariant (fun _ _ => acceptPending_distinctIds) hdistinct
  obtain ⟨first, hfirst, hfirstVersion⟩ := Option.map_eq_some_iff.mp hversion
  obtain ⟨last, hlast⟩ := Option.isSome_iff_exists.mp hlive
  have hlastVersion := (request.surfaceResponse_eq_none hknown hlast).mp hcurrent
  have hcontinues : Session.Continues paneId recorded.session current.session :=
    (run_serves hidle hafter).invariant (I := fun later => Session.Continues paneId recorded.session later)
      (fun _ _ hbefore hok => hbefore.trans (acceptPending_continues hok)) .rfl
  have hsame : last.state.paneSurface = first.state.paneSurface := by
    refine ((Descends.of_subset (hids.named_subset hfirst)).trans hcontinues).content_eq
      (Session.pane_mem_named hlast) ?_
    rw [PaneState.versionNumber, PaneState.versionNumber, ← hlastVersion, hfirstVersion]
  rw [Session.paneSurface, Session.paneSurface, hlast, hfirst, Option.map_some, Option.map_some, hsame]

end

/-! ### A kept and a reused name -/

/-- A client's command of that kind, with no argument but the tab. -/
def tabCommand (kind : Protocol.ControlCommandKind) (tabId : Option String) : ControlCommandSummary where
  actorId := "client"
  commandSeq := 1
  kind := kind
  paneId := none
  tabId := tabId
  splitAxis := .none
  title := none
  sessionId := none

/-- An attach of a client that knows one pane. -/
def knowing (paneId : String) (version : UInt64) : AttachRequest where
  actorId := "client"
  userId := "user"
  displayName := "client"
  mode := .readWrite
  focusedPaneId := some paneId
  knownSurfaces := [⟨paneId, version⟩]
  hostname := ""
  clientKind := "terminal"
  subscribeClientInventory := false

/-- The run of one pane of the quiet host from the initial session. -/
def interimSessionRun (ops : List SessionOp) : Daemon InterimAnsiState Unit :=
  run (sessionStep interimTextTerminalEngine .quiet)
    (.start interimTextTerminalEngine Session.initial 16 ()) ops

/-- A new tab beside a pane that has shown a character. -/
theorem surface_version_names_content_tab :
    (interimSessionRun [.output "pane-1" [[0x61]] 0, .control (tabCommand .tabNew none)]).session.paneSurface
        "pane-1" =
      (interimSessionRun [.output "pane-1" [[0x61]] 0]).session.paneSurface "pane-1" := by
  refine @surface_version_names_content _ _ interimTextTerminalEngine .quiet Session.initial 16 ()
    [.output "pane-1" [[0x61]] 0] [.control (tabCommand .tabNew none)] "pane-1" (knowing "pane-1" 3)
    ⟨"pane-1", 3⟩ (by decide) ⟨trivial, trivial⟩ ⟨?_, trivial⟩ rfl (by decide) (by decide) (by decide)
  exact {
    split := fun h => absurd h (by decide)
    addTab := fun _ _ _ _ => by decide
    closeTab := fun h => absurd h (by decide)
    switchTab := fun _ _ => trivial
    shutdown := fun _ _ => trivial }

/-- **A name is reused.** A tab shows `a` and is closed; the next new tab gets its names and shows `b`.
A client that recorded the first is told that its surface is current. -/
theorem surface_version_reused :
    let ops : List SessionOp := [.control (tabCommand .tabNew none), .output "tab-2-pane-1" [[0x61]] 0]
    let recorded := interimSessionRun ops
    let current := interimSessionRun (ops ++ [.control (tabCommand .tabClose (some "tab-2")),
      .control (tabCommand .tabNew none), .output "tab-2-pane-1" [[0x62]] 1])
    recorded.session.surfaceVersion "tab-2-pane-1" = some 2 ∧
      (current.session.pane "tab-2-pane-1").isSome ∧
      (knowing "tab-2-pane-1" 2).surfaceResponse current.session "tab-2-pane-1" = none ∧
      current.session.paneSurface "tab-2-pane-1" ≠ recorded.session.paneSurface "tab-2-pane-1" := by
  decide

end Nmux
