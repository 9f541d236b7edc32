import Nmux.Delivery.Writer
import Nmux.Delivery.History
import Nmux.Lib.Run

/-! What the parts of the system keep. A signal carries frames of one state of its pane; the versions
the write task knows are those of the surfaces the client will hold once it has read the stream; and a
frame written for a signal, read by such a client, leaves it with the surface of the signalled state. -/
namespace Nmux.Delivery

open Lib (OrderedMap)
open Client

/-! ### Reading the stream -/

/-- The client after it has read these frames. -/
def readStream : ClientAttachState → List ServerFrame → Except String ClientAttachState
  | attached, [] => .ok attached
  | attached, .reliable _ :: rest => readStream attached rest
  | attached, .surface frame :: rest =>
    System.readSurfaceFrame attached frame >>= fun attached => readStream attached rest

theorem readStream_append (attached : ClientAttachState) (first rest : List ServerFrame) :
    readStream attached (first ++ rest) =
      readStream attached first >>= fun attached => readStream attached rest := by
  induction first generalizing attached with
  | nil => rfl
  | cons frame first ih =>
    cases frame with
    | reliable frame => exact ih attached
    | surface frame =>
      rw [List.cons_append, readStream, readStream, bind_assoc]
      apply congrArg
      funext reached
      exact ih reached

/-! ### What the client mirrors -/

/-- For every version the write task knows, the client holds the surface the pane had at it. -/
def Mirrors (history : History) (known : OrderedMap String UInt64) (attached : ClientAttachState) :
    Prop :=
  ∀ paneId version, known.get? paneId = some version → ∃ state ∈ history paneId,
    state.surfaceVersion = version ∧ attached.cachedSurface paneId = some state.clientSurface

theorem Mirrors.mono {history later : History} {known : OrderedMap String UInt64}
    {attached : ClientAttachState} (h : Mirrors history known attached)
    (hlater : ∀ paneId, history paneId ⊆ later paneId) : Mirrors later known attached := by
  intro paneId version hknown
  obtain ⟨state, hstate, hmirror⟩ := h paneId version hknown
  exact ⟨state, hlater paneId hstate, hmirror⟩

/-- One more surface the client holds. -/
theorem Mirrors.insert {history : History} {known : OrderedMap String UInt64}
    {attached read : ClientAttachState} {paneId : String} {state : PaneState}
    (h : Mirrors history known attached) (hstate : state ∈ history paneId)
    (hread : ∀ other, read.cachedSurface other =
      if other = paneId then some state.clientSurface else attached.cachedSurface other) :
    Mirrors history (known.insert paneId state.surfaceVersion) read := by
  intro other version hknown
  rw [OrderedMap.get?_insert] at hknown
  rw [hread]
  split at hknown
  case isTrue hsame =>
    obtain rfl := Option.some.inj hknown
    exact ⟨state, hsame ▸ hstate, rfl, if_pos hsame⟩
  case isFalse hother =>
    rw [if_neg hother]
    exact h other version hknown

/-! ### Signals -/

/-- The signal is for a state its pane has had: its snapshot is of that state, and so is its patch, if
it has one. -/
def Carries (history : History) (signal : PendingSurfaceSignal) : Prop :=
  ∃ state ∈ history signal.paneId, signal.version = state.surfaceVersion ∧
    (∃ frame, signal.snapshotFrame = some frame ∧ frame.body = .snapshot state.snapshotTable) ∧
    ∀ patch, signal.patchFrame = some patch → state.lastPatchKind ≠ .fullRefreshRequired ∧
      patch.frame.body = .patch (state.patchTable patch.baseVersion)

theorem Carries.mono {history later : History} {signal : PendingSurfaceSignal}
    (h : Carries history signal) (hlater : ∀ paneId, history paneId ⊆ later paneId) :
    Carries later signal := by
  obtain ⟨state, hstate, hcarries⟩ := h
  exact ⟨state, hlater _ hstate, hcarries⟩

/-- Every signal of the set is kept under its pane, and carries frames of it. -/
def SetCarries (history : History) (surfaces : SurfaceSignalSet) : Prop :=
  ∀ paneId signal, surfaces.panes.get? paneId = some signal →
    signal.paneId = paneId ∧ Carries history signal

theorem SetCarries.empty (history : History) (generation : UInt64) :
    SetCarries history ⟨generation, .empty⟩ := by
  intro paneId signal h
  cases h

theorem SetCarries.mono {history later : History} {surfaces : SurfaceSignalSet}
    (h : SetCarries history surfaces) (hlater : ∀ paneId, history paneId ⊆ later paneId) :
    SetCarries later surfaces :=
  fun paneId signal hsignal => (h paneId signal hsignal).imp_right fun hcarries => hcarries.mono hlater

/-- A signal without its patch still carries its snapshot. -/
theorem SetCarries.degrade {history : History} {surfaces : SurfaceSignalSet}
    (h : SetCarries history surfaces) : SetCarries history surfaces.degrade := by
  intro paneId signal hsignal
  rw [SurfaceSignalSet.degrade, OrderedMap.get?_mapValues] at hsignal
  obtain ⟨kept, hkept, rfl⟩ := Option.map_eq_some_iff.mp hsignal
  obtain ⟨hpane, state, hstate, hversion, hsnapshot, -⟩ := h paneId kept hkept
  refine ⟨hpane, state, hstate, hversion, hsnapshot, fun patch hpatch => ?_⟩
  cases hpatch

/-- The panes of a set are distinct. -/
theorem SetCarries.panes_nodup {history : History} {surfaces : SurfaceSignalSet}
    (h : SetCarries history surfaces) : (surfaces.panes.values.map (·.paneId)).Nodup := by
  have hkeys : surfaces.panes.values.map (·.paneId) = surfaces.panes.entries.map Prod.fst := by
    rw [OrderedMap.values, List.map_map]
    refine List.map_congr_left fun entry hentry => ?_
    exact (h entry.1 entry.2 (OrderedMap.mem_entries.mp hentry)).1
  rw [hkeys]
  exact surfaces.panes.sorted.imp ne_of_lt

/-! ### Frames of a signal -/

section
variable {history : History} {attached : ClientAttachState} {frame : SurfaceFrame}

/-- A snapshot frame of a deliverable pane, read, leaves the client with that pane's surface. -/
theorem readSurfaceFrame_snapshot (attached : ClientAttachState) {state : PaneState}
    (h : state.Deliverable)
    (hbody : frame.body = .snapshot state.snapshotTable) :
    ∃ read, System.readSurfaceFrame attached frame = .ok read ∧ ∀ paneId, read.cachedSurface paneId =
      if paneId = state.id then some state.clientSurface else attached.cachedSurface paneId := by
  have hframe : surfaceUpdateFromFrame frame = .ok state.snapshotContent := by
    obtain ⟨sessionId, connectionId, seq, body⟩ := frame
    obtain rfl : body = _ := hbody
    exact h.snapshotFrame
  have hsurface : ClientPaneSurface.fromSnapshot state.snapshotContent = .ok state.clientSurface :=
    state.fromSnapshot_eq_ok.mpr ⟨h.published, rfl⟩
  obtain ⟨read, hread⟩ := attached.applySurfaceUpdate_snapshot rfl hsurface
  refine ⟨read, ?_, ClientAttachState.cachedSurface_of_applySurfaceUpdate hread rfl⟩
  rw [System.readSurfaceFrame, hframe]
  show (attached.applySurfaceUpdate state.snapshotContent >>= _) = _
  rw [hread]
  rfl

/-- A patch frame, read by a client that holds the surface it leads from. -/
theorem readSurfaceFrame_patch {prev cur : PaneState} (h : RetainedPatch prev cur)
    (hcur : cur.Deliverable) (hheld : attached.cachedSurface cur.id = some prev.clientSurface)
    (hbody : frame.body = .patch (cur.patchTable prev.surfaceVersion)) :
    ∃ read, System.readSurfaceFrame attached frame = .ok read ∧ ∀ paneId, read.cachedSurface paneId =
      if paneId = cur.id then some cur.clientSurface else attached.cachedSurface paneId := by
  have hframe : surfaceUpdateFromFrame frame = .ok (cur.patchContent prev.surfaceVersion) := by
    obtain ⟨sessionId, connectionId, seq, body⟩ := frame
    obtain rfl : body = _ := hbody
    exact h.patchFrame hcur
  have happly : prev.clientSurface.applyUpdate (cur.patchContent prev.surfaceVersion) =
      .ok cur.clientSurface :=
    h.applyPatch hcur.published
  have hread := ClientAttachState.applySurfaceUpdate_some hheld happly
  refine ⟨_, ?_, ClientAttachState.cachedSurface_of_applySurfaceUpdate hread rfl⟩
  rw [System.readSurfaceFrame, hframe]
  show (attached.applySurfaceUpdate (cur.patchContent prev.surfaceVersion) >>= _) = _
  rw [hread]
  rfl

/-- The version a checked successor names. -/
theorem checkedSucc64_eq_some {version next : UInt64} (h : checkedSucc64 version = some next) :
    next.toNat = version.toNat + 1 := by
  unfold checkedSucc64 at h
  split at h
  case isTrue hroom =>
    obtain rfl := Option.some.inj h
    rw [UInt64.toNat_add, show (1 : UInt64).toNat = 1 from rfl]
    omega
  case isFalse => cases h

/-- A bundle gives its snapshot, or its patch to a client that is one version behind. -/
theorem bundledSurfaceFrameForSignal_cases (known : ClientWriteTaskState) (signal : PendingSurfaceSignal) :
    bundledSurfaceFrameForSignal known signal = signal.snapshotFrame ∨
      ∃ patch, signal.patchFrame = some patch ∧ signal.snapshotRequired = false ∧
        known.knownSurfaceVersions.get? signal.paneId = some patch.baseVersion ∧
        checkedSucc64 patch.baseVersion = some signal.version ∧
        bundledSurfaceFrameForSignal known signal = some patch.frame := by
  unfold bundledSurfaceFrameForSignal
  split
  case h_2 => exact .inl rfl
  case h_1 knownVersion patch hrequired hknown hpatch =>
    split
    case isFalse => exact .inl rfl
    case isTrue hbase =>
      obtain ⟨rfl, hnext⟩ := hbase
      exact .inr ⟨patch, hpatch, hrequired, hknown, hnext, rfl⟩

/-- A signal with a snapshot never asks the source for a frame. -/
theorem surfaceFrameForSignal_bundled {source : SurfaceFrameSource} {known : ClientWriteTaskState}
    {signal : PendingSurfaceSignal} {snapshot : SurfaceFrame}
    (hsnapshot : signal.snapshotFrame = some snapshot) :
    surfaceFrameForSignal source known signal = bundledSurfaceFrameForSignal known signal ∧
      (bundledSurfaceFrameForSignal known signal).isSome := by
  have hsome : ∃ bundled, bundledSurfaceFrameForSignal known signal = some bundled := by
    rcases bundledSurfaceFrameForSignal_cases known signal with h | ⟨patch, -, -, -, -, h⟩
    · exact ⟨snapshot, h.trans hsnapshot⟩
    · exact ⟨patch.frame, h⟩
  obtain ⟨bundled, hbundled⟩ := hsome
  rw [surfaceFrameForSignal, hbundled]
  exact ⟨rfl, rfl⟩

/-- **The frame written for a signal is the right one.** A client that mirrors the versions the write
task knows accepts it, and then holds the surface of the signalled state. -/
theorem surfaceFrameForSignal_reads {source : SurfaceFrameSource} {known : ClientWriteTaskState}
    {signal : PendingSurfaceSignal} (hhistory : ∀ paneId, PaneHistory paneId (history paneId))
    (hcarries : Carries history signal)
    (hmirrors : Mirrors history known.knownSurfaceVersions attached) :
    ∃ frame, surfaceFrameForSignal source known signal = some frame ∧
      ∃ state ∈ history signal.paneId, state.surfaceVersion = signal.version ∧
        ∃ read, System.readSurfaceFrame attached frame = .ok read ∧ ∀ paneId,
          read.cachedSurface paneId =
            if paneId = signal.paneId then some state.clientSurface else attached.cachedSurface paneId := by
  obtain ⟨state, hstate, hversion, ⟨snapshot, hsnapshot, hbody⟩, hpatch⟩ := hcarries
  have hpane := hhistory signal.paneId
  have hid : state.id = signal.paneId := hpane.id state hstate
  have hdeliverable := hpane.deliverable state hstate
  rw [(surfaceFrameForSignal_bundled hsnapshot).1]
  rcases bundledSurfaceFrameForSignal_cases known signal with hframe | hframe
  · have hread := readSurfaceFrame_snapshot attached hdeliverable hbody
    rw [hid] at hread
    exact ⟨snapshot, hframe.trans hsnapshot, state, hstate, hversion.symm, hread⟩
  · obtain ⟨patch, hsome, -, hknown, hnext, hframe⟩ := hframe
    obtain ⟨hkind, hpatchBody⟩ := hpatch patch hsome
    obtain ⟨prev, hprev, hprevVersion, hheld⟩ := hmirrors signal.paneId patch.baseVersion hknown
    have hsucc : state.versionNumber = prev.versionNumber + 1 := by
      rw [PaneState.versionNumber, PaneState.versionNumber, ← hversion, hprevVersion]
      exact checkedSucc64_eq_some hnext
    have hretained := hpane.patch prev hprev state hstate hkind hsucc
    rw [← hid] at hheld
    rw [← hprevVersion] at hpatchBody
    have hread := readSurfaceFrame_patch hretained hdeliverable hheld hpatchBody
    rw [hid] at hread
    exact ⟨patch.frame, hframe, state, hstate, hversion.symm, hread⟩

end

end Nmux.Delivery
