import Nmux.Delivery.Convergence
import Nmux.Lib.Run

/-! What the surface budget charges. The sender keeps the last signal of every pane it ever signalled,
with its frames, and never learns what the write task has delivered: a client that is served at once is
charged for the panes it has had long ago, and a pane that once needed a snapshot needs one for ever. -/
namespace Nmux.Delivery

open Lib (OrderedMap Along)

variable (frameLen : SurfaceFrame → Nat)

/-! ### Signals -/

/-- The bytes of the snapshots alone. -/
def snapshotBytes (surfaces : SurfaceSignalSet) : Nat :=
  (surfaces.panes.values.map fun signal => signal.snapshotFrame.elim 0 frameLen).sum

theorem surfaceSignalSetBytes_degrade (surfaces : SurfaceSignalSet) :
    surfaceSignalSetBytes frameLen surfaces.degrade = snapshotBytes frameLen surfaces := by
  rw [surfaceSignalSetBytes, snapshotBytes, SurfaceSignalSet.degrade, OrderedMap.values, OrderedMap.values,
    OrderedMap.mapValues, List.map_map, List.map_map, List.map_map]
  rfl

theorem snapshotBytes_le (surfaces : SurfaceSignalSet) :
    snapshotBytes frameLen surfaces ≤ surfaceSignalSetBytes frameLen surfaces :=
  List.sum_le_sum fun _ _ => Nat.le_add_right _ _

/-- A pane whose standing signal asks for a snapshot. -/
def Marked (output : AsyncClientOutput) (paneId : String) : Prop :=
  ∃ signal, output.latestSurfaces.panes.get? paneId = some signal ∧ signal.snapshotRequired = true

/-- The signal was refused for its bytes. -/
def RefusedForBytes (result : Except ClientOutputError Unit) : Prop :=
  ∃ cap pending, result = .error (.surfaceByteQueueFull cap pending)

section
variable (output : AsyncClientOutput) (paneId : String) (version : UInt64) (required : Bool)
  (snapshot : Option SurfaceFrame) (patch : Option SurfacePatchFrame)

/-- What a signal comes to: the set with it is sent, the degraded set is sent, or neither. -/
theorem updateSurfaceSignal_cases :
    let next := output.withSignal paneId version required snapshot patch
    let degraded := { next with latestSurfaces := next.latestSurfaces.degrade }
    let result := output.updateSurfaceSignal frameLen paneId version required snapshot patch
    (surfaceSignalSetBytes frameLen next.latestSurfaces ≤ output.surfaceByteCap ∧
        result = next.sendSurfaces) ∨
      (output.surfaceByteCap < surfaceSignalSetBytes frameLen next.latestSurfaces ∧
        snapshotBytes frameLen next.latestSurfaces ≤ output.surfaceByteCap ∧
        result = degraded.sendSurfaces) ∨
      (output.surfaceByteCap < snapshotBytes frameLen next.latestSurfaces ∧
        result = (.error (.surfaceByteQueueFull output.surfaceByteCap
          (snapshotBytes frameLen next.latestSurfaces)), degraded)) := by
  intro next degraded result
  have hcap : next.surfaceByteCap = output.surfaceByteCap := rfl
  have hle := snapshotBytes_le frameLen next.latestSurfaces
  have hsent : ∀ budgeted, next.enforceSurfaceBudget frameLen = (.ok (), budgeted) →
      result = budgeted.sendSurfaces := by
    intro budgeted h
    show output.updateSurfaceSignal frameLen paneId version required snapshot patch = _
    rw [AsyncClientOutput.updateSurfaceSignal, show (output.withSignal paneId version required snapshot
      patch).enforceSurfaceBudget frameLen = _ from h]
  have hrefused : ∀ err budgeted, next.enforceSurfaceBudget frameLen = (.error err, budgeted) →
      result = (.error err, budgeted) := by
    intro err budgeted h
    show output.updateSurfaceSignal frameLen paneId version required snapshot patch = _
    rw [AsyncClientOutput.updateSurfaceSignal, show (output.withSignal paneId version required snapshot
      patch).enforceSurfaceBudget frameLen = _ from h]
  rw [AsyncClientOutput.enforceSurfaceBudget, hcap] at hsent hrefused
  by_cases hfits : surfaceSignalSetBytes frameLen next.latestSurfaces ≤ output.surfaceByteCap
  · rw [if_pos hfits] at hsent
    exact .inl ⟨hfits, hsent _ rfl⟩
  · rw [if_neg hfits] at hsent hrefused
    dsimp only at hsent hrefused
    rw [surfaceSignalSetBytes_degrade] at hsent hrefused
    right
    by_cases hsnapshots : snapshotBytes frameLen next.latestSurfaces ≤ output.surfaceByteCap
    · rw [if_pos hsnapshots] at hsent
      exact .inl ⟨Nat.lt_of_not_le hfits, hsnapshots, hsent _ rfl⟩
    · rw [if_neg hsnapshots] at hrefused
      exact .inr ⟨Nat.lt_of_not_le hsnapshots, hrefused _ _ rfl⟩

theorem sendSurfaces_latest : output.sendSurfaces.2.latestSurfaces = output.latestSurfaces ∧
    output.sendSurfaces.2.surfaceByteCap = output.surfaceByteCap ∧
    ¬ RefusedForBytes output.sendSurfaces.1 := by
  rw [AsyncClientOutput.sendSurfaces]
  split
  · refine ⟨rfl, rfl, ?_⟩
    rintro ⟨cap, pending, h⟩
    cases h
  · refine ⟨rfl, rfl, ?_⟩
    rintro ⟨cap, pending, h⟩
    cases h

/-- A signal is refused when the snapshots of all panes signalled so far are over the cap. -/
theorem updateSurfaceSignal_refused_iff :
    RefusedForBytes (output.updateSurfaceSignal frameLen paneId version required snapshot patch).1 ↔
      output.surfaceByteCap <
        snapshotBytes frameLen (output.withSignal paneId version required snapshot patch).latestSurfaces := by
  have hle := snapshotBytes_le frameLen
    (output.withSignal paneId version required snapshot patch).latestSurfaces
  rcases updateSurfaceSignal_cases frameLen output paneId version required snapshot patch with
    ⟨hfits, h⟩ | ⟨-, hsnapshots, h⟩ | ⟨hover, h⟩
  · rw [h]
    exact ⟨fun hrefused => absurd hrefused (sendSurfaces_latest _).2.2, fun hover => by omega⟩
  · rw [h]
    exact ⟨fun hrefused => absurd hrefused (sendSurfaces_latest _).2.2, fun hover => by omega⟩
  · rw [h]
    exact ⟨fun _ => hover, fun _ => ⟨_, _, rfl⟩⟩

/-- The latest signals after a signal: with it, and degraded when they are over the cap. -/
theorem updateSurfaceSignal_latest :
    (output.updateSurfaceSignal frameLen paneId version required snapshot patch).2.latestSurfaces =
      if surfaceSignalSetBytes frameLen (output.withSignal paneId version required snapshot
          patch).latestSurfaces ≤ output.surfaceByteCap then
        (output.withSignal paneId version required snapshot patch).latestSurfaces
      else (output.withSignal paneId version required snapshot patch).latestSurfaces.degrade := by
  have hle := snapshotBytes_le frameLen
    (output.withSignal paneId version required snapshot patch).latestSurfaces
  rcases updateSurfaceSignal_cases frameLen output paneId version required snapshot patch with
    ⟨hfits, h⟩ | ⟨hover, -, h⟩ | ⟨hover, h⟩
  · rw [h, if_pos hfits, (sendSurfaces_latest _).1]
  · rw [h, if_neg (by omega), (sendSurfaces_latest _).1]
  · rw [h, if_neg (by omega)]

theorem updateSurfaceSignal_cap :
    (output.updateSurfaceSignal frameLen paneId version required snapshot patch).2.surfaceByteCap =
      output.surfaceByteCap := by
  rcases updateSurfaceSignal_cases frameLen output paneId version required snapshot patch with
    ⟨-, h⟩ | ⟨-, -, h⟩ | ⟨-, h⟩
  · rw [h, (sendSurfaces_latest _).2.1]
    rfl
  · rw [h, (sendSurfaces_latest _).2.1]
    rfl
  · rw [h]
    rfl

/-- The signal stands with its patch and asks for no snapshot when the pane is unmarked and the frames
of all panes signalled so far fit the cap. -/
theorem updateSurfaceSignal_stands_iff (patch : SurfacePatchFrame) :
    (output.updateSurfaceSignal frameLen paneId version false snapshot
        (some patch)).2.latestSurfaces.panes.get? paneId =
        some ⟨paneId, version, false, snapshot, some patch⟩ ↔
      ¬ Marked output paneId ∧
        surfaceSignalSetBytes frameLen (output.withSignal paneId version false snapshot
          (some patch)).latestSurfaces ≤ output.surfaceByteCap := by
  have hget : (output.withSignal paneId version false snapshot (some patch)).latestSurfaces.panes.get? paneId =
      some ⟨paneId, version, (output.latestSurfaces.panes.get? paneId).any (·.snapshotRequired), snapshot,
        some patch⟩ := OrderedMap.get?_insert_self
  have hmarked : Marked output paneId ↔
      (output.latestSurfaces.panes.get? paneId).any (·.snapshotRequired) = true := by
    rw [Option.any_eq_true]
    exact Iff.rfl
  rw [updateSurfaceSignal_latest]
  split
  case isTrue hfits =>
    rw [hget, hmarked, Bool.not_eq_true]
    constructor
    · intro h
      exact ⟨congrArg PendingSurfaceSignal.snapshotRequired (Option.some.inj h), hfits⟩
    · rintro ⟨hunmarked, -⟩
      rw [hunmarked]
  case isFalse hover =>
    refine ⟨fun h => ?_, fun h => absurd h.2 hover⟩
    rw [SurfaceSignalSet.degrade, OrderedMap.get?_mapValues, hget] at h
    cases h

theorem Marked.withSignal {output : AsyncClientOutput} {other : String} (h : Marked output other) :
    Marked (output.withSignal paneId version required snapshot patch) other := by
  obtain ⟨signal, hget, hrequired⟩ := h
  by_cases hpane : other = paneId
  · subst hpane
    refine ⟨_, OrderedMap.get?_insert_self, ?_⟩
    dsimp only
    rw [hget, Option.any_some, hrequired, Bool.or_true]
  · exact ⟨signal, (OrderedMap.get?_insert_of_ne hpane).trans hget, hrequired⟩

/-- A pane once marked is marked by every later signal, of whatever pane. -/
theorem Marked.updateSurfaceSignal {output : AsyncClientOutput} {other : String}
    (h : Marked output other) :
    Marked (output.updateSurfaceSignal frameLen paneId version required snapshot patch).2 other := by
  obtain ⟨signal, hget, hrequired⟩ := h.withSignal paneId version required snapshot patch
  rw [Marked, updateSurfaceSignal_latest]
  split
  · exact ⟨signal, hget, hrequired⟩
  · refine ⟨{ signal with snapshotRequired := true, patchFrame := none }, ?_, rfl⟩
    rw [SurfaceSignalSet.degrade, OrderedMap.get?_mapValues, hget]
    rfl

end

/-! ### Runs -/

/-- What happens at a client's output. -/
inductive OutputAction where
  | bundle (paneId : String) (version : UInt64) (snapshot : SurfaceFrame) (patch : Option SurfacePatchFrame)
  | require (paneId : String) (version : UInt64) (snapshot : SurfaceFrame)
  | wake

namespace System

def signalled (system : System) (result : Except ClientOutputError Unit × AsyncClientOutput) : System :=
  { system with client := { system.client with output := result.2 } }

/-- One action, whether it fails or not. -/
def outputStep (system : System) : OutputAction → System
  | .bundle paneId version snapshot patch =>
    system.signalled
      (system.client.output.signalSurfaceFrameBundle frameLen paneId version snapshot patch)
  | .require paneId version snapshot =>
    system.signalled
      (system.client.output.requireSurfaceSnapshotFrame frameLen paneId version snapshot)
  | .wake => system.wake frameLen

/-- The write task runs, has written every signal it was sent and waits. -/
structure CaughtUp (system : System) : Prop where
  running : system.writer.failed = none
  written : system.writer.writing = []
  seen : system.client.output.surfacesChanged = false

/-- The bytes of the snapshots of all panes signalled so far, with a signal. -/
def snapshotsWith (system : System) (paneId : String) (version : UInt64) (required : Bool)
    (snapshot : SurfaceFrame) (patch : Option SurfacePatchFrame) : Nat :=
  snapshotBytes frameLen
    (system.client.output.withSignal paneId version required (some snapshot) patch).latestSurfaces

/-- The bytes of their frames, patches included. -/
def framesWith (system : System) (paneId : String) (version : UInt64) (required : Bool)
    (snapshot : SurfaceFrame) (patch : Option SurfacePatchFrame) : Nat :=
  surfaceSignalSetBytes frameLen
    (system.client.output.withSignal paneId version required (some snapshot) patch).latestSurfaces

/-- A patch on what the write task has last written of a pane, to the next version. -/
structure Consecutive (system : System) (paneId : String) (version : UInt64) (patch : SurfacePatchFrame) :
    Prop where
  base : system.writer.state.knownSurfaceVersions.get? paneId = some patch.baseVersion
  next : checkedSucc64 patch.baseVersion = some version

/-- The patch of a pane is the one the write task will take: its signal stands with it. -/
def Takes (system : System) (paneId : String) (version : UInt64) (snapshot : SurfaceFrame)
    (patch : SurfacePatchFrame) : Prop :=
  system.client.output.latestSurfaces.panes.get? paneId =
    some ⟨paneId, version, false, some snapshot, some patch⟩

/-- Only undelivered surfaces are charged: with everything delivered a signal whose frames fit on their
own is taken, and with its patch when that is the next one. -/
def ChargesUndelivered (system : System) : OutputAction → Prop
  | .wake => True
  | .require paneId version snapshot =>
    system.CaughtUp → frameLen snapshot ≤ system.client.output.surfaceByteCap →
      ¬ RefusedForBytes
        (system.client.output.requireSurfaceSnapshotFrame frameLen paneId version snapshot).1
  | .bundle paneId version snapshot patch =>
    system.CaughtUp → frameLen snapshot ≤ system.client.output.surfaceByteCap →
      ¬ RefusedForBytes
          (system.client.output.signalSurfaceFrameBundle frameLen paneId version snapshot patch).1 ∧
        ∀ next, patch = some next → system.Consecutive paneId version next →
          frameLen snapshot + frameLen next.frame ≤ system.client.output.surfaceByteCap →
            (system.outputStep frameLen (.bundle paneId version snapshot patch)).Takes paneId version
              snapshot next

/-- The panes signalled so far fit, delivered or not, and the pane was never marked. -/
def Room (system : System) : OutputAction → Prop
  | .wake => True
  | .require paneId version snapshot =>
    system.CaughtUp → frameLen snapshot ≤ system.client.output.surfaceByteCap →
      system.snapshotsWith frameLen paneId version true snapshot none ≤ system.client.output.surfaceByteCap
  | .bundle paneId version snapshot patch =>
    system.CaughtUp → frameLen snapshot ≤ system.client.output.surfaceByteCap →
      system.snapshotsWith frameLen paneId version false snapshot patch ≤
          system.client.output.surfaceByteCap ∧
        ∀ next, patch = some next → system.Consecutive paneId version next →
          frameLen snapshot + frameLen next.frame ≤ system.client.output.surfaceByteCap →
            ¬ Marked system.client.output paneId ∧
              system.framesWith frameLen paneId version false snapshot patch ≤
                system.client.output.surfaceByteCap

variable {frameLen} {system : System}

theorem chargesUndelivered_iff (system : System) (action : OutputAction) :
    system.ChargesUndelivered frameLen action ↔ system.Room frameLen action := by
  cases action with
  | wake => exact Iff.rfl
  | require paneId version snapshot =>
    refine imp_congr_right fun _ => imp_congr_right fun _ => ?_
    rw [AsyncClientOutput.requireSurfaceSnapshotFrame, updateSurfaceSignal_refused_iff, not_lt]
    exact Iff.rfl
  | bundle paneId version snapshot patch =>
    refine imp_congr_right fun _ => imp_congr_right fun _ => and_congr ?_ ?_
    · rw [AsyncClientOutput.signalSurfaceFrameBundle, updateSurfaceSignal_refused_iff, not_lt]
      exact Iff.rfl
    · refine forall_congr' fun next => imp_congr_right fun hpatch => imp_congr_right fun _ =>
        imp_congr_right fun _ => ?_
      subst hpatch
      exact updateSurfaceSignal_stands_iff frameLen system.client.output paneId version (some snapshot) next

/-- The patch that stands is the frame the write task writes for the pane. -/
theorem Takes.writes {paneId : String} {version : UInt64} {snapshot : SurfaceFrame}
    {patch : SurfacePatchFrame} (h : system.Takes paneId version snapshot patch)
    (hnext : system.Consecutive paneId version patch) :
    (system.client.output.latestSurfaces.panes.get? paneId).bind
      (bundledSurfaceFrameForSignal system.writer.state) = some patch.frame := by
  rw [h, Option.bind_some]
  simp only [bundledSurfaceFrameForSignal, hnext.base]
  rw [if_pos ⟨trivial, hnext.next⟩]

/-- The write task leaves the sender's signals alone. -/
theorem wake_latest (system : System) :
    (system.wake frameLen).client.output.latestSurfaces = system.client.output.latestSurfaces := by
  unfold System.wake
  split
  · rfl
  · split
    · unfold System.writeSignal
      dsimp only
      split
      · rfl
      · split
        · rfl
        · split <;> rfl
    · split
      · unfold System.writeReliable
        dsimp only
        split <;> rfl
      · split <;> rfl

theorem marked_outputStep {paneId : String} (h : Marked system.client.output paneId)
    (action : OutputAction) : Marked (system.outputStep frameLen action).client.output paneId := by
  cases action with
  | bundle target version snapshot patch =>
    exact h.updateSurfaceSignal frameLen target version false (some snapshot) patch
  | require target version snapshot =>
    exact h.updateSurfaceSignal frameLen target version true (some snapshot) none
  | wake =>
    rw [Marked, outputStep, wake_latest]
    exact h

/-- A bundle with which the frames of all panes signalled so far fit, and no required snapshot. -/
def Fits (frameLen : SurfaceFrame → Nat) (system : System) : OutputAction → Prop
  | .wake => True
  | .require _ _ _ => False
  | .bundle paneId version snapshot patch =>
    system.framesWith frameLen paneId version false snapshot patch ≤ system.client.output.surfaceByteCap

/-- A bundle that fits marks no pane. -/
theorem unmarked_outputStep (h : ∀ paneId, ¬ Marked system.client.output paneId) {action : OutputAction}
    (hfits : system.Fits frameLen action) (paneId : String) :
    ¬ Marked (system.outputStep frameLen action).client.output paneId := by
  cases action with
  | wake =>
    rw [Marked, outputStep, wake_latest]
    exact h paneId
  | require => cases hfits
  | bundle target version snapshot patch =>
    rintro ⟨signal, hget, hrequired⟩
    have hlatest := (updateSurfaceSignal_latest frameLen system.client.output target version false
      (some snapshot) patch).trans (if_pos hfits)
    have hget' : (system.client.output.withSignal target version false (some snapshot)
        patch).latestSurfaces.panes.get? paneId = some signal := by
      rw [← hlatest]
      exact hget
    rw [AsyncClientOutput.withSignal, OrderedMap.get?_insert] at hget'
    split at hget'
    case isTrue =>
      cases hget'
      dsimp only at hrequired
      rw [Bool.false_or, Option.any_eq_true] at hrequired
      exact h target hrequired
    case isFalse => exact h paneId ⟨signal, hget', hrequired⟩

theorem Room.of_fits (h : ∀ paneId, ¬ Marked system.client.output paneId) {action : OutputAction}
    (hfits : system.Fits frameLen action) : system.Room frameLen action := by
  cases action with
  | wake => trivial
  | require => cases hfits
  | bundle target version snapshot patch =>
    exact fun _ _ => ⟨(snapshotBytes_le frameLen _).trans hfits, fun _ _ _ _ => ⟨h target, hfits⟩⟩

/-- **What the surface budget charges.** In every run the signals of a client that has had everything
are taken as they should be exactly when all panes signalled so far fit the cap together and the pane
was not marked before. While the panes of a run fit and no snapshot is required no pane is marked; a
pane once marked stays so, however much is delivered. -/
theorem surface_budget_iff (frameLen : SurfaceFrame → Nat) (system : System) (actions : List OutputAction) :
    (Along (outputStep frameLen) (ChargesUndelivered frameLen) system actions ↔
        Along (outputStep frameLen) (Room frameLen) system actions) ∧
      ((∀ paneId, ¬ Marked system.client.output paneId) →
        Along (outputStep frameLen) (Fits frameLen) system actions →
          Along (outputStep frameLen) (ChargesUndelivered frameLen) system actions) ∧
      ∀ paneId, Marked system.client.output paneId →
        Marked (Lib.run (outputStep frameLen) system actions).client.output paneId := by
  refine ⟨⟨fun h => h.imp fun system action => (chargesUndelivered_iff system action).mp,
    fun h => h.imp fun system action => (chargesUndelivered_iff system action).mpr⟩, ?_, ?_⟩
  · intro hunmarked hfits
    induction actions generalizing system with
    | nil => trivial
    | cons action actions ih =>
      exact ⟨(chargesUndelivered_iff system action).mpr (.of_fits hunmarked hfits.1),
        ih _ (unmarked_outputStep hunmarked hfits.1) hfits.2⟩
  · intro paneId hmarked
    induction actions generalizing system with
    | nil => exact hmarked
    | cons action actions ih => exact ih _ (marked_outputStep hmarked action)

/-! ### Two panes -/

def initialFrame : SurfaceFrame :=
  (Session.initial.paneSurfaceFrameForPane "local-client" 1 "pane-1").get (by decide)

theorem echoStart_unmarked (paneId : String) : ¬ Marked echoStart.client.output paneId := by
  rintro ⟨signal, hget, -⟩
  cases hget

/-- Two panes whose snapshots fit together. -/
theorem surface_budget_iff_fits :
    Along (outputStep fun _ => 512) (ChargesUndelivered fun _ => 512) echoStart
      [.bundle "pane-1" 3 initialFrame (some ⟨2, initialFrame⟩), .wake, .wake,
        .bundle "pane-2" 1 initialFrame none] :=
  (surface_budget_iff (fun _ => 512) echoStart _).2.1 echoStart_unmarked
    ⟨by unfold Fits; decide +kernel, trivial, trivial, by unfold Fits; decide +kernel, trivial⟩

/-- A pane is signalled and written, and the next one is refused: each is as large as the budget. -/
theorem second_pane_refused : ¬ ∀ frameLen system actions,
    (∀ paneId, ¬ Marked system.client.output paneId) →
      Along (outputStep frameLen) (ChargesUndelivered frameLen) system actions := by
  intro h
  have hruns := h (fun _ => 65536) echoStart
    [.bundle "pane-1" 3 initialFrame none, .wake, .wake, .bundle "pane-2" 1 initialFrame none]
    echoStart_unmarked
  obtain ⟨-, -, -, hlast, -⟩ := hruns
  have hroom := (chargesUndelivered_iff _ _).mp hlast
  have hcaught : CaughtUp (outputStep (fun _ => 65536) (outputStep (fun _ => 65536)
      (outputStep (fun _ => 65536) echoStart (.bundle "pane-1" 3 initialFrame none)) .wake) .wake) :=
    ⟨by decide +kernel, by decide +kernel, by decide +kernel⟩
  have hfits := (hroom hcaught (by decide +kernel)).1
  revert hfits
  decide +kernel

end System

end Nmux.Delivery
