import Nmux.Delivery.Stream
import Nmux.Delivery.Events
import Nmux.Core.InterimText

/-! The surface a client holds converges to the session's. Signals overwrite each other while the write
task is busy, and the budget turns patches into snapshots; still every frame in the stream is one the
client will accept, and once the task has written the last set and the client has read the stream, the
client holds the signalled surface of every pane. -/
namespace Nmux.Delivery

open Lib (OrderedMap run Along run_cons)
open Client

/-! ### Signalling -/

/-- All signals of the sender and of the channel carry frames of their panes. -/
structure OutputCarries (history : History) (output : AsyncClientOutput) : Prop where
  latest : SetCarries history output.latestSurfaces
  surfaces : SetCarries history output.surfaces

/-- What the receiver has seen it has still seen. -/
def StillSeen (before after : AsyncClientOutput) : Prop :=
  after.surfacesChanged = false → before.surfacesChanged = false ∧ after.surfaces = before.surfaces

theorem StillSeen.trans {first second third : AsyncClientOutput} (h : StillSeen first second)
    (h' : StillSeen second third) : StillSeen first third := by
  intro hseen
  obtain ⟨hsecond, hsurfaces⟩ := h' hseen
  obtain ⟨hfirst, hsame⟩ := h hsecond
  exact ⟨hfirst, hsurfaces.trans hsame⟩

section
variable {frameLen : SurfaceFrame → Nat} {history : History}

theorem updateSurfaceSignal_carries (frameLen : SurfaceFrame → Nat) (required : Bool)
    {output : AsyncClientOutput} (h : OutputCarries history output) {paneId : String} {version : UInt64}
    {snapshot : Option SurfaceFrame} {patch : Option SurfacePatchFrame}
    (hnew : ∀ required, Carries history ⟨paneId, version, required, snapshot, patch⟩) :
    let after := (output.updateSurfaceSignal frameLen paneId version required snapshot patch).2
    OutputCarries history after ∧ StillSeen output after := by
  have hlatest : SetCarries history
      (output.withSignal paneId version required snapshot patch).latestSurfaces := by
    intro key signal hsignal
    simp only [AsyncClientOutput.withSignal, OrderedMap.get?_insert] at hsignal
    split at hsignal
    case isTrue hkey =>
      obtain rfl := Option.some.inj hsignal
      exact ⟨hkey.symm, hnew _⟩
    case isFalse => exact h.latest key signal hsignal
  simp only [AsyncClientOutput.updateSurfaceSignal, AsyncClientOutput.enforceSurfaceBudget,
    AsyncClientOutput.sendSurfaces]
  -- the set may be degraded, refused, or not sent because the receiver is gone
  split <;> rename_i hbudget <;> split at hbudget
  · cases hbudget
  · split at hbudget
    · cases hbudget
    · cases hbudget
      exact ⟨⟨hlatest.degrade, h.surfaces⟩, fun hseen => ⟨hseen, rfl⟩⟩
  · cases hbudget
    split
    · exact ⟨⟨hlatest, h.surfaces⟩, fun hseen => ⟨hseen, rfl⟩⟩
    · exact ⟨⟨hlatest, hlatest⟩, fun hseen => by cases hseen⟩
  · split at hbudget
    · cases hbudget
      split
      · exact ⟨⟨hlatest.degrade, h.surfaces⟩, fun hseen => ⟨hseen, rfl⟩⟩
      · exact ⟨⟨hlatest.degrade, hlatest.degrade⟩, fun hseen => by cases hseen⟩
    · cases hbudget

/-- The bundle of a pane carries frames of its current state. -/
theorem surfaceFrameBundleForPane_carries {session : Session} {paneId : String} {seq : UInt64}
    {bundle : SurfaceFrameBundle} (hcurrent : ∀ state ∈ session.state paneId, state ∈ history paneId)
    (hbundle : surfaceFrameBundleForPane session paneId seq = some bundle) (required : Bool) :
    Carries history ⟨paneId, bundle.version, required, some bundle.snapshotFrame, bundle.patchFrame⟩ := by
  cases hpane : session.pane paneId with
  | none =>
    simp [surfaceFrameBundleForPane, Session.surfaceVersion, hpane] at hbundle
  | some pane =>
    simp only [surfaceFrameBundleForPane, Session.surfaceVersion, Session.surfacePatchKind,
      Session.paneSurfaceFrameForPane, Session.paneSurfacePatchFrameForPane, hpane, Option.map_some,
      Option.getD_some, Option.bind_eq_bind, Option.bind_some, Option.pure_def,
      Option.some.injEq] at hbundle
    obtain rfl := hbundle
    have hstate : pane.state ∈ history paneId :=
      hcurrent pane.state (by simp [Session.state, hpane])
    refine ⟨pane.state, hstate, rfl, ⟨_, rfl, rfl⟩, fun patch hpatch => ?_⟩
    dsimp only at hpatch
    split at hpatch
    case isTrue => cases hpatch
    case isFalse hkind =>
      obtain ⟨base, -, hsome⟩ := Option.bind_eq_some_iff.mp hpatch
      cases hsome
      exact ⟨hkind, rfl⟩

theorem signalChangedSurfaceFrames_carries {session : Session} (paneIds : List String)
    {client : LiveAttachedClient}
    (hcurrent : ∀ paneId, ∀ state ∈ session.state paneId, state ∈ history paneId)
    (h : OutputCarries history client.output) :
    let after := (client.signalChangedSurfaceFrames frameLen session paneIds).2
    OutputCarries history after.output ∧ StillSeen client.output after.output := by
  induction paneIds generalizing client with
  | nil => exact ⟨h, fun hseen => ⟨hseen, rfl⟩⟩
  | cons paneId rest ih =>
    rw [LiveAttachedClient.signalChangedSurfaceFrames]
    split
    · exact ih h
    · split
      · exact ih h
      · split
        · exact ih h
        case h_2 bundle hbundle =>
          have hsignal := updateSurfaceSignal_carries frameLen false h
            (surfaceFrameBundleForPane_carries (hcurrent paneId) hbundle)
          split
          case h_1 err output heq =>
            obtain rfl : _ = output := congrArg Prod.snd heq
            exact hsignal
          case h_2 output heq =>
            obtain rfl : _ = output := congrArg Prod.snd heq
            exact ⟨(ih hsignal.1).1, hsignal.2.trans (ih hsignal.1).2⟩

theorem requireSurfaceSnapshot_carries {session : Session} {paneId : String}
    {client : LiveAttachedClient} (hcurrent : ∀ state ∈ session.state paneId, state ∈ history paneId)
    (h : OutputCarries history client.output) :
    let after := client.requireSurfaceSnapshot frameLen session paneId
    OutputCarries history after.output ∧ StillSeen client.output after.output := by
  cases hpane : session.pane paneId with
  | none =>
    simp only [LiveAttachedClient.requireSurfaceSnapshot, Session.surfaceVersion, hpane]
    exact ⟨h, fun hseen => ⟨hseen, rfl⟩⟩
  | some pane =>
    simp only [LiveAttachedClient.requireSurfaceSnapshot, Session.surfaceVersion,
      Session.paneSurfaceFrameForPane, hpane, Option.map_some]
    apply updateSurfaceSignal_carries frameLen true h
    intro required
    refine ⟨pane.state, hcurrent pane.state (by simp [Session.state, hpane]), rfl, ⟨_, rfl, rfl⟩,
      fun patch hpatch => ?_⟩
    cases hpatch

theorem queueReliableFrame_output (client : LiveAttachedClient) (frame : ReliableFrame) :
    let after := client.queueReliableFrame frame
    after.output.latestSurfaces = client.output.latestSurfaces ∧
      after.output.surfaces = client.output.surfaces ∧
      after.output.surfacesChanged = client.output.surfacesChanged := by
  simp only [LiveAttachedClient.queueReliableFrame, AsyncClientOutput.trySendReliable]
  split <;> rename_i hsend <;> repeat' split at hsend
  all_goals
    cases hsend
    try exact ⟨rfl, rfl, rfl⟩

end

/-! ### The invariant -/

/-- What holds of the system at every moment: the histories are those of the session, every signal
carries frames of its pane, the panes still to be written are distinct, a client that reads the stream
refuses no frame and then mirrors what the write task knows, and the signals of a set the task has seen
are known to it or still to be written. -/
structure System.Sound (system : System) : Prop where
  histories : HistoryOf system.history system.session
  output : OutputCarries system.history system.client.output
  writing : ∀ signal ∈ system.writer.writing, Carries system.history signal
  distinct : (system.writer.writing.map (·.paneId)).Nodup
  mirrors : ∃ attached, readStream system.attached system.stream = .ok attached ∧
    Mirrors system.history system.writer.state.knownSurfaceVersions attached
  accepted : system.refused = none
  written : system.writer.failed = none → system.client.output.surfacesChanged = false →
    (∀ signal ∈ system.writer.writing,
      system.client.output.surfaces.panes.get? signal.paneId = some signal) ∧
    ∀ paneId signal, system.client.output.surfaces.panes.get? paneId = some signal →
      system.writer.state.knownSurfaceVersions.get? paneId = some signal.version ∨
        signal ∈ system.writer.writing

/-- A session step follows the histories; nothing else is conditional. -/
def Action.Allowed (system : System) : Action → Prop
  | .session after => SessionStep system.history system.session after
  | _ => True

namespace System.Sound

variable {frameLen : SurfaceFrame → Nat} {system : System}

theorem session (h : system.Sound) {after : Session}
    (hstep : SessionStep system.history system.session after) :
    (system.act frameLen (.session after)).Sound := by
  have hrecord : (system.act frameLen (.session after)).history =
      History.record system.history after := by
    funext paneId
    simp only [act, History.record, Session.state]
    cases after.pane paneId <;> rfl
  have hgrows (paneId : String) : system.history paneId ⊆ History.record system.history after paneId :=
    fun _ => History.mem_record
  obtain ⟨attached, hread, hmirrors⟩ := h.mirrors
  constructor
  case histories =>
    rw [hrecord]
    exact h.histories.step hstep
  case output =>
    rw [hrecord]
    exact ⟨h.output.latest.mono hgrows, h.output.surfaces.mono hgrows⟩
  case writing =>
    rw [hrecord]
    exact fun signal hsignal => (h.writing signal hsignal).mono hgrows
  case distinct => exact h.distinct
  case mirrors =>
    rw [hrecord]
    exact ⟨attached, hread, hmirrors.mono hgrows⟩
  case accepted => exact h.accepted
  case written => exact h.written

/-- The sender's side moves: the signals still carry frames, and nothing becomes seen. -/
theorem sender (h : system.Sound) {client : LiveAttachedClient}
    (houtput : OutputCarries system.history client.output)
    (hseen : StillSeen system.client.output client.output) : { system with client }.Sound where
  histories := h.histories
  output := houtput
  writing := h.writing
  distinct := h.distinct
  mirrors := h.mirrors
  accepted := h.accepted
  written := by
    intro hfailed hchanged
    obtain ⟨hbefore, hsurfaces⟩ := hseen hchanged
    show (∀ signal ∈ _, client.output.surfaces.panes.get? _ = _) ∧
      ∀ paneId signal, client.output.surfaces.panes.get? paneId = _ → _
    rw [hsurfaces]
    exact h.written hfailed hbefore

theorem writerFails (h : system.Sound) (err : ClientOutputError) : (system.writerFails err).Sound where
  histories := h.histories
  output := ⟨h.output.latest, h.output.surfaces⟩
  writing := h.writing
  distinct := h.distinct
  mirrors := h.mirrors
  accepted := h.accepted
  written := fun hfailed => by cases hfailed

/-- The first signal left is done: the task knows its version. -/
theorem signalDone (h : system.Sound) {signal : PendingSurfaceSignal}
    {rest : List PendingSurfaceSignal} (hwriting : system.writer.writing = signal :: rest)
    {known : OrderedMap String UInt64}
    (hknown : ∀ paneId, known.get? paneId = if paneId = signal.paneId then some signal.version
      else system.writer.state.knownSurfaceVersions.get? paneId)
    (hfailed : system.writer.failed = none) (hchanged : system.client.output.surfacesChanged = false) :
    (∀ other ∈ rest, system.client.output.surfaces.panes.get? other.paneId = some other) ∧
      ∀ paneId other, system.client.output.surfaces.panes.get? paneId = some other →
        known.get? paneId = some other.version ∨ other ∈ rest := by
  obtain ⟨htaken, hwritten⟩ := h.written hfailed hchanged
  rw [hwriting] at htaken hwritten
  refine ⟨fun other hother => htaken other (List.mem_cons_of_mem _ hother), fun paneId other hother => ?_⟩
  rw [hknown]
  by_cases hsame : paneId = signal.paneId
  · -- the set has one signal for a pane
    have hsignal := htaken signal List.mem_cons_self
    rw [← hsame, hother] at hsignal
    rw [if_pos hsame, Option.some.inj hsignal]
    exact .inl rfl
  · rw [if_neg hsame]
    rcases hwritten paneId other hother with hdone | hleft
    · exact .inl hdone
    · rcases List.mem_cons.mp hleft with rfl | hleft
      · exact absurd (h.output.surfaces paneId other hother).1.symm hsame
      · exact .inr hleft

/-- One signal skipped or written. -/
theorem writeSignal (h : system.Sound) {signal : PendingSurfaceSignal}
    {rest : List PendingSurfaceSignal} (hwriting : system.writer.writing = signal :: rest) :
    (system.writeSignal frameLen signal rest).Sound := by
  have hcarries : Carries system.history signal := h.writing signal (by simp [hwriting])
  have hrest : ∀ other ∈ rest, Carries system.history other := fun other hother =>
    h.writing other (by simp [hwriting, hother])
  have hdistinct : (rest.map (·.paneId)).Nodup := by
    have hall := h.distinct
    rw [hwriting] at hall
    exact hall.of_cons
  obtain ⟨attached, hread, hmirrors⟩ := h.mirrors
  obtain ⟨frame, hframe, state, hstate, hversion, read, hreadFrame, hcached⟩ :=
    surfaceFrameForSignal_reads h.histories.histories hcarries hmirrors
  unfold System.writeSignal
  dsimp only
  split
  case isTrue hknown =>
    refine ⟨h.histories, h.output, hrest, hdistinct, ⟨attached, hread, hmirrors⟩, h.accepted, ?_⟩
    refine h.signalDone hwriting fun paneId => ?_
    split
    case isTrue hsame =>
      rw [hsame]
      exact hknown
    case isFalse => rfl
  case isFalse =>
    split
    case h_1 hnone =>
      rw [hframe] at hnone
      cases hnone
    case h_2 sent hsent =>
      obtain rfl : frame = sent := Option.some.inj (hframe.symm.trans hsent)
      split
      case h_1 err _ => exact h.writerFails err
      case h_2 =>
        refine ⟨h.histories, h.output, hrest, hdistinct, ⟨read, ?_, ?_⟩, h.accepted, ?_⟩
        · rw [readStream_append, hread]
          show (System.readSurfaceFrame attached frame >>= _) = _
          rw [hreadFrame]
          rfl
        · rw [← hversion]
          exact hmirrors.insert hstate hcached
        · exact h.signalDone hwriting fun paneId => OrderedMap.get?_insert

theorem writeReliable (h : system.Sound) (frame : ReliableFrame) (rest : List ReliableFrame) :
    (system.writeReliable frame rest).Sound := by
  obtain ⟨attached, hread, hmirrors⟩ := h.mirrors
  let taken := { system.client.output with
    reliable := rest
    pendingReliableBytes := system.client.output.pendingReliableBytes - frame.bytes.length }
  have hqueue : { system with client := { system.client with output := taken } }.Sound :=
    h.sender ⟨h.output.latest, h.output.surfaces⟩ fun hseen => ⟨hseen, rfl⟩
  unfold System.writeReliable
  dsimp only
  split
  case h_1 err _ => exact hqueue.writerFails err
  case h_2 =>
    refine { hqueue with mirrors := ⟨attached, ?_, hmirrors⟩ }
    rw [readStream_append, hread]
    rfl

/-- The write task makes one move. -/
theorem wake (h : system.Sound) : (system.wake frameLen).Sound := by
  unfold System.wake
  split
  · exact h
  · split
    case h_1 signal rest hwriting => exact h.writeSignal hwriting
    case h_2 hwriting =>
      split
      case h_1 frame rest _ => exact h.writeReliable frame rest
      case h_2 =>
        split
        case isFalse => exact h
        case isTrue =>
          -- the whole set is to be written
          refine ⟨h.histories, ⟨h.output.latest, h.output.surfaces⟩, ?_,
            h.output.surfaces.panes_nodup, h.mirrors, h.accepted, ?_⟩
          · intro signal hsignal
            obtain ⟨paneId, hget⟩ := OrderedMap.mem_values.mp hsignal
            exact (h.output.surfaces paneId signal hget).2
          · intro _ _
            refine ⟨fun signal hsignal => ?_, fun paneId signal hget => .inr ?_⟩
            · obtain ⟨paneId, hget⟩ := OrderedMap.mem_values.mp hsignal
              rw [(h.output.surfaces paneId signal hget).1]
              exact hget
            · exact OrderedMap.mem_values.mpr ⟨paneId, hget⟩

/-- The client reads one frame, and refuses none. -/
theorem receive (h : system.Sound) : system.receive.Sound := by
  obtain ⟨attached, hread, hmirrors⟩ := h.mirrors
  unfold System.receive
  split
  case h_1 => exact h
  case h_2 frame rest hstream =>
    rw [hstream] at hread
    exact { h with mirrors := ⟨attached, hread, hmirrors⟩ }
  case h_3 frame rest hstream =>
    rw [hstream, readStream] at hread
    obtain ⟨reached, hframe, hrest⟩ := Lib.Check.bind_eq_ok.mp hread
    rw [hframe]
    exact { h with mirrors := ⟨attached, hrest, hmirrors⟩ }

/-- **Every action keeps the system sound.** -/
theorem act (h : system.Sound) {action : Action} (hallowed : action.Allowed system) :
    (system.act frameLen action).Sound := by
  have hcurrent : ∀ paneId, ∀ state ∈ system.session.state paneId, state ∈ system.history paneId :=
    fun paneId state hstate => (h.histories.current paneId state hstate).1
  cases action with
  | session after => exact h.session hallowed
  | signal paneIds =>
    obtain ⟨hcarries, hseen⟩ := signalChangedSurfaceFrames_carries paneIds hcurrent h.output
    exact h.sender hcarries hseen
  | requireSnapshot paneId =>
    obtain ⟨hcarries, hseen⟩ := requireSurfaceSnapshot_carries (hcurrent paneId) h.output
    exact h.sender hcarries hseen
  | reliable frame =>
    obtain ⟨hlatest, hsurfaces, hchanged⟩ := queueReliableFrame_output system.client frame
    refine h.sender ⟨hlatest ▸ h.output.latest, hsurfaces ▸ h.output.surfaces⟩ fun hseen => ?_
    exact ⟨hchanged ▸ hseen, hsurfaces⟩
  | wake => exact h.wake
  | receive => exact h.receive

end System.Sound

/-! ### Convergence -/

/-- A client that has just been attached: the sender's queues are empty, the write task is idle, and the
client holds the surface of every pane at the version the task knows. -/
structure System.Attached (system : System) : Prop where
  histories : HistoryOf system.history system.session
  output : ∃ frameCap byteCap, system.client.output = .new frameCap byteCap
  idle : system.writer.writing = [] ∧ system.writer.failed = none
  stream : system.stream = []
  mirrors : Mirrors system.history system.writer.state.knownSurfaceVersions system.attached
  accepted : system.refused = none

/-- The write task has written the last set it was sent, and the client has read all of it. -/
structure System.Settled (system : System) : Prop where
  running : system.writer.failed = none
  written : system.writer.writing = []
  seen : system.client.output.surfacesChanged = false
  read : system.stream = []

theorem System.Attached.sound {system : System} (h : system.Attached) : system.Sound := by
  obtain ⟨frameCap, byteCap, houtput⟩ := h.output
  obtain ⟨hwriting, -⟩ := h.idle
  refine ⟨h.histories, ?_, ?_, ?_, ⟨system.attached, ?_, h.mirrors⟩, h.accepted, ?_⟩
  · rw [houtput]
    exact ⟨.empty _ _, .empty _ _⟩
  · rw [hwriting]
    simp
  · rw [hwriting]
    exact List.nodup_nil
  · rw [h.stream]
    rfl
  · rw [hwriting, houtput]
    refine fun _ _ => ⟨by simp, fun paneId signal hsignal => ?_⟩
    cases hsignal

/-- A patch in the stream meets a client that holds the version it leads from. -/
theorem System.Sound.patch_base {system : System} (h : system.Sound) {before after : List ServerFrame}
    {frame : SurfaceFrame} {patch : Protocol.PaneSurfacePatch}
    (hstream : system.stream = before ++ .surface frame :: after) (hbody : frame.body = .patch patch) :
    ∃ attached paneId held, readStream system.attached before = .ok attached ∧
      patch.paneId = some paneId ∧ attached.cachedSurface paneId = some held ∧
        held.version = patch.baseVersion := by
  obtain ⟨read, hread, -⟩ := h.mirrors
  rw [hstream, readStream_append] at hread
  obtain ⟨attached, hbefore, hrest⟩ := Lib.Check.bind_eq_ok.mp hread
  obtain ⟨reached, hframe, -⟩ := Lib.Check.bind_eq_ok.mp hrest
  obtain ⟨update, hupdate, happlied⟩ := Lib.Check.bind_eq_ok.mp hframe
  obtain ⟨applied, happly, -⟩ := Lib.Check.bind_eq_ok.mp happlied
  obtain ⟨sessionId, connectionId, seq, body⟩ := frame
  obtain rfl : body = _ := hbody
  obtain ⟨hkind, hbase, hpane⟩ := surfaceUpdateFromFrame_patch hupdate
  obtain ⟨held, hheld, hversion⟩ := ClientAttachState.cachedSurface_of_patch happly hkind
  rw [hbase] at hversion
  exact ⟨attached, update.paneId, held, hbefore, hpane, hheld, (Option.some.inj hversion).symm⟩

theorem initial_state {paneId : String} {state : PaneState}
    (h : Session.initial.state paneId = some state) :
    paneId = "pane-1" ∧ some state = Session.initial.state "pane-1" := by
  obtain ⟨pane, hpane, rfl⟩ := Option.map_eq_some_iff.mp h
  obtain ⟨-, hmem, rfl⟩ := Session.pane_mem_nodes hpane
  have hid : pane.state.id = "pane-1" := by
    have hnodes : ∀ node ∈ Session.initial.nodes, node.state.id = "pane-1" := by decide
    exact hnodes _ hmem
  exact ⟨hid, by rw [← hid, h]⟩

theorem initial_deliverable {paneId : String} {state : PaneState}
    (h : Session.initial.state paneId = some state) : state.Deliverable := by
  obtain ⟨-, hstate⟩ := initial_state h
  have hnew : (newPaneFromTemplate "pane-1" (.local "local" (.new "sh")) 80 24).Deliverable :=
    newPaneFromTemplate_deliverable _ _ (by decide) (by decide)
  obtain rfl := Option.some.inj hstate
  exact ⟨{ hnew.published with }, hnew.rowsKnown, hnew.named⟩

/-- The initial session served to a client that holds its pane. -/
def echoStart : System where
  session := Session.initial
  history := fun paneId => (Session.initial.state paneId).toList
  client := ⟨1, .empty, .new 8 65536⟩
  writer := ⟨⟨1, OrderedMap.empty.insert "pane-1" 2⟩, [], none⟩
  stream := []
  attached := { ClientAttachState.default with
    surfaces := ((Session.initial.state "pane-1").map (·.clientSurface)).toList }
  refused := none

/-- The session after its pane was written one character. -/
def echoed : Session :=
  ((SessionCore.new interimTextTerminalEngine Session.initial).acceptPending interimTextTerminalEngine
    ⟨"pane-1:pty", .pane, 0, .paneOutput "pane-1" [0x61]⟩).1.session

/-- The pane is signalled, the write task takes the set and writes it, and the client reads it. -/
def echoActions : List Action := [.session echoed, .signal ["pane-1"], .wake, .wake, .receive]

theorem echoStart_attached : echoStart.Attached where
  histories := .start fun _ _ => initial_deliverable
  output := ⟨8, 65536, rfl⟩
  idle := ⟨rfl, rfl⟩
  stream := rfl
  mirrors := by
    intro paneId version hknown
    have hpane : paneId = "pane-1" ∧ version = 2 := by
      simp only [echoStart, OrderedMap.get?_insert, OrderedMap.get?_empty] at hknown
      split at hknown
      case isTrue hname => exact ⟨hname, (Option.some.inj hknown).symm⟩
      case isFalse => cases hknown
    obtain ⟨rfl, rfl⟩ := hpane
    refine ⟨_, List.mem_singleton_self _, rfl, rfl⟩
  accepted := rfl

theorem echoed_step : SessionStep echoStart.history Session.initial echoed := by
  let core := SessionCore.new interimTextTerminalEngine Session.initial
  show SessionStep _ core.session (core.acceptPending interimTextTerminalEngine _).1.session
  apply acceptPending_sessionStep (by decide) echoStart_attached.histories
  apply EventAdvances.paneOutput
  have hnamed : Session.initial.named "pane-1" = (Session.initial.state "pane-1").toList := rfl
  intro state hstate update hupdate
  have hinitial : Session.initial.state "pane-1" = some state := by
    rw [show core.session = Session.initial from rfl, hnamed] at hstate
    exact Option.mem_toList.mp hstate
  have hpublished := (initial_deliverable hinitial).published
  have hknown : KnownInput state.terminalInput :=
    ⟨hpublished.surfaceKnown, hpublished.cursorKnown, hpublished.trackingKnown, hpublished.formatKnown⟩
  have hsend := (interimApplyOutput_plain hknown hupdate).sendable
  obtain rfl := Option.some.inj hinitial
  obtain rfl := Option.some.inj hupdate
  exact ⟨by decide, ⟨rfl, rfl, rfl, rfl⟩, ⟨by decide, by decide, rfl, by decide⟩, hsend, .inl (by decide)⟩

end Nmux.Delivery
