import Nmux.Client.Frames
import Nmux.Versions.Panes

/-! How the panes of a session change while a client is served. Every change of a pane raises its
version by one, and leaves either a patch from the pane before it or a request for a full refresh. The
states a pane has had are its history, and in a history a version names one surface and a patch leads
from the version before. -/
namespace Nmux

open Client

def Session.state (session : Session) (paneId : String) : Option PaneState :=
  (session.pane paneId).map (·.state)

/-- A pane that sends the same surface and the same patch. -/
structure PaneState.Keeps (earlier later : PaneState) : Prop where
  surface : later.paneSurface = earlier.paneSurface
  kind : later.lastPatchKind = earlier.lastPatchKind
  indices : later.lastRowUpdateIndices = earlier.lastRowUpdateIndices
  diff : later.lastPaletteDiff = earlier.lastPaletteDiff

/-- A change of a pane: an engine's update that fits it, or anything that asks for a full refresh. -/
inductive PaneChange (before : PaneState) : PaneState → Prop
  | update (update : TerminalUpdate) (aligned : before.Aligned) (fits : UpdateFits before update)
      (sendable : update.Sendable)
      (changed : (updateChanges before update false).surfaceChanged = true) :
      PaneChange before (updateStep before update)
  | refresh {after : PaneState} (version : after.surfaceVersion = satAdd64 before.surfaceVersion 1)
      (kind : after.lastPatchKind = .fullRefreshRequired) (deliverable : after.Deliverable) :
      PaneChange before after

section
variable {before after : PaneState}

theorem PaneChange.versionNumber (h : PaneChange before after) (hroom : before.VersionBelowMax) :
    after.versionNumber = before.versionNumber + 1 := by
  have hraised : after.surfaceVersion = satAdd64 before.surfaceVersion 1 := by
    cases h with
    | update update _ _ _ changed => rw [updateStep, applyTerminalUpdate_version, if_pos changed]
    | refresh version => exact version
  have hlt : before.surfaceVersion.toNat + 1 < 2 ^ 64 := hroom
  rw [PaneState.versionNumber, PaneState.versionNumber, hraised, satAdd64_one_toNat, if_pos hlt]

theorem PaneChange.deliverable (h : PaneChange before after) (hnamed : before.id.isEmpty = false) :
    after.Deliverable := by
  cases h with
  | update update _ _ sendable =>
    exact {
      published := applyTerminalUpdate_publishable _ _ sendable
      rowsKnown := applyTerminalUpdate_rowsKnown _ _ sendable
      named := by
        rw [updateStep, applyTerminalUpdate_id]
        exact hnamed }
  | refresh _ _ deliverable => exact deliverable

/-- The patch kind says whether a patch leads from the pane before. -/
theorem PaneChange.retainedPatch (h : PaneChange before after) (hroom : before.VersionBelowMax)
    (hkind : after.lastPatchKind ≠ .fullRefreshRequired) : RetainedPatch before after := by
  cases h with
  | update update aligned fits sendable changed =>
    apply retainedPatch_of_update aligned hroom fits sendable changed
    intro hfull
    apply hkind
    simp [updateStep, applyTerminalUpdate_eq, changed, hfull]
  | refresh _ kind => exact absurd kind hkind

/-- What a client needs of a pane is in the surface the pane sends. -/
theorem PaneState.Deliverable.congr (h : before.Deliverable)
    (hsurface : after.paneSurface = before.paneSurface) : after.Deliverable := by
  have hfield {α : Type} (f : PaneSurface → α) : f after.paneSurface = f before.paneSurface :=
    congrArg f hsurface
  have hlines : after.surfaceLines = before.surfaceLines := hfield (·.lines)
  have hrows : after.rows = before.rows := hfield (·.rows)
  have hstyles : after.styles = before.styles := hfield (·.styles)
  have hcursor : after.cursor = before.cursor := hfield (·.cursor)
  have hmodes : after.modes = before.modes := hfield (·.modes)
  have hid : after.id = before.id := hfield (·.paneId)
  have hkind : after.surface = before.surface := hfield (·.surface)
  exact {
    published := {
      surfaceKnown := hkind ▸ h.published.surfaceKnown
      cursorKnown := hcursor ▸ h.published.cursorKnown
      trackingKnown := hmodes ▸ h.published.trackingKnown
      formatKnown := hmodes ▸ h.published.formatKnown
      rowsFit := by rw [hlines, hrows]; exact h.published.rowsFit
      stylesKnown := by rw [hsurface, hstyles]; exact h.published.stylesKnown }
    rowsKnown := fun row => by rw [hsurface]; exact h.rowsKnown row
    named := hid ▸ h.named }

end

/-! ### Changes the session makes -/

section
variable {pane : PaneState}

theorem terminalPatchKind_force (pane : PaneState) (update : TerminalUpdate) :
    terminalPatchKind (updateChanges pane update true) = .fullRefreshRequired := by
  simp [updateChanges, terminalPatchChanges, terminalPatchKind]

/-- A committed resize asks for a full refresh. -/
theorem PaneChange.resize (cols rows : UInt32) {update : TerminalUpdate} (hsend : update.Sendable)
    (hnamed : pane.id.isEmpty = false) : PaneChange pane (Session.resizedPane cols rows update pane) := by
  refine .refresh ?_ ?_ ?_
  · rw [Session.resizedPane, applyTerminalUpdate_version, if_pos (updateChanges_force _ _)]
  · simp [Session.resizedPane, applyTerminalUpdate_eq, updateChanges_force, terminalPatchKind_force]
  · exact {
      published := applyTerminalUpdate_publishable _ _ hsend
      rowsKnown := applyTerminalUpdate_rowsKnown _ _ hsend
      named := by
        rw [Session.resizedPane, applyTerminalUpdate_id]
        exact hnamed }

end

/-! ### Histories -/

/-- The states a pane has had, the current one last. -/
structure PaneHistory (paneId : String) (states : List PaneState) : Prop where
  id : ∀ state ∈ states, state.id = paneId
  deliverable : ∀ state ∈ states, state.Deliverable
  content : ∀ earlier ∈ states, ∀ later ∈ states,
    later.versionNumber = earlier.versionNumber → later.paneSurface = earlier.paneSurface
  patch : ∀ earlier ∈ states, ∀ later ∈ states, later.lastPatchKind ≠ .fullRefreshRequired →
    later.versionNumber = earlier.versionNumber + 1 → RetainedPatch earlier later

namespace PaneHistory

variable {paneId : String} {states : List PaneState} {current later : PaneState}

theorem nil : PaneHistory paneId [] where
  id := by simp
  deliverable := by simp
  content := by simp
  patch := by simp

/-- One more state, no older than the others. -/
theorem append (h : PaneHistory paneId states) (hid : later.id = paneId) (hdeliverable : later.Deliverable)
    (hlatest : ∀ state ∈ states, state.versionNumber ≤ later.versionNumber)
    (hcontent : ∀ state ∈ states, later.versionNumber = state.versionNumber →
      later.paneSurface = state.paneSurface)
    (hpatch : later.lastPatchKind ≠ .fullRefreshRequired → ∀ state ∈ states,
      later.versionNumber = state.versionNumber + 1 → RetainedPatch state later) :
    PaneHistory paneId (states ++ [later]) where
  id := by
    intro state hstate
    rcases List.mem_append.mp hstate with hstate | hstate
    · exact h.id state hstate
    · rw [List.mem_singleton.mp hstate]
      exact hid
  deliverable := by
    intro state hstate
    rcases List.mem_append.mp hstate with hstate | hstate
    · exact h.deliverable state hstate
    · rw [List.mem_singleton.mp hstate]
      exact hdeliverable
  content := by
    intro a ha b hb hversion
    rcases List.mem_append.mp ha with hold | hnew <;> rcases List.mem_append.mp hb with hold' | hnew'
    · exact h.content a hold b hold' hversion
    · rw [List.mem_singleton.mp hnew'] at hversion ⊢
      exact hcontent a hold hversion
    · rw [List.mem_singleton.mp hnew] at hversion ⊢
      exact (hcontent b hold' hversion.symm).symm
    · rw [List.mem_singleton.mp hnew, List.mem_singleton.mp hnew']
  patch := by
    intro a ha b hb hkind hversion
    rcases List.mem_append.mp ha with hold | hnew <;> rcases List.mem_append.mp hb with hold' | hnew'
    · exact h.patch a hold b hold' hkind hversion
    · rw [List.mem_singleton.mp hnew'] at hkind hversion ⊢
      exact hpatch hkind a hold hversion
    · rw [List.mem_singleton.mp hnew] at hversion
      have := hlatest b hold'
      omega
    · rw [List.mem_singleton.mp hnew, List.mem_singleton.mp hnew'] at hversion
      omega

/-- A changed pane extends its history. -/
theorem change (h : PaneHistory paneId states) (hcurrent : current ∈ states)
    (hlatest : ∀ state ∈ states, state.versionNumber ≤ current.versionNumber) (hid : later.id = paneId)
    (hroom : current.VersionBelowMax) (hchange : PaneChange current later) :
    PaneHistory paneId (states ++ [later]) := by
  have hversion := hchange.versionNumber hroom
  refine h.append hid (hchange.deliverable (h.deliverable current hcurrent).named) ?_ ?_ ?_
  · intro state hstate
    have := hlatest state hstate
    omega
  · intro state hstate hsame
    have := hlatest state hstate
    omega
  · intro hkind state hstate hnext
    -- the state one version earlier sends what the changed pane sent
    have hsurface : state.paneSurface = current.paneSurface :=
      h.content current hcurrent state hstate (by omega)
    exact (hchange.retainedPatch hroom hkind).congr_prev hsurface

/-- So does a pane that sends the same again. -/
theorem keep (h : PaneHistory paneId states) (hcurrent : current ∈ states)
    (hlatest : ∀ state ∈ states, state.versionNumber ≤ current.versionNumber)
    (hkeeps : current.Keeps later) : PaneHistory paneId (states ++ [later]) := by
  have hversion : later.versionNumber = current.versionNumber :=
    congrArg (·.version.toNat) hkeeps.surface
  have hid : later.id = current.id := congrArg (·.paneId) hkeeps.surface
  refine h.append (hid.trans (h.id current hcurrent))
    ((h.deliverable current hcurrent).congr hkeeps.surface) ?_ ?_ ?_
  · rw [hversion]
    exact hlatest
  · intro state hstate hsame
    exact hkeeps.surface.trans (h.content state hstate current hcurrent (hversion.symm.trans hsame))
  · intro hkind state hstate hnext
    rw [hkeeps.kind] at hkind
    exact (h.patch state hstate current hcurrent hkind (hversion.symm.trans hnext)).congr
      hkeeps.surface hkeeps.kind hkeeps.indices hkeeps.diff

end PaneHistory

/-! ### Sessions and their histories -/

/-- What becomes of a pane in one step of the session, given the states it has had: it sends the same,
it changes, it is created under a name without a history, or it goes. -/
inductive PaneStep (past : List PaneState) : Option PaneState → Option PaneState → Prop
  | kept {earlier later : PaneState} (keeps : earlier.Keeps later) :
      PaneStep past (some earlier) (some later)
  | changed {earlier later : PaneState} (room : earlier.VersionBelowMax)
      (change : PaneChange earlier later) : PaneStep past (some earlier) (some later)
  | created {later : PaneState} (fresh : past = []) (deliverable : later.Deliverable) :
      PaneStep past none (some later)
  | gone {earlier : Option PaneState} : PaneStep past earlier none

/-- The states each pane has had. -/
abbrev History := String → List PaneState

def SessionStep (history : History) (before after : Session) : Prop :=
  ∀ paneId, PaneStep (history paneId) (before.state paneId) (after.state paneId)

def History.record (history : History) (session : Session) : History :=
  fun paneId => history paneId ++ (session.state paneId).toList

/-- The histories of a session: every pane it has is the latest state of its own. -/
structure HistoryOf (history : History) (session : Session) : Prop where
  histories : ∀ paneId, PaneHistory paneId (history paneId)
  current : ∀ paneId, ∀ state ∈ session.state paneId, state ∈ history paneId ∧
    ∀ earlier ∈ history paneId, earlier.versionNumber ≤ state.versionNumber

theorem Session.state_id {session : Session} {paneId : String} {state : PaneState}
    (h : session.state paneId = some state) : state.id = paneId := by
  obtain ⟨pane, hpane, rfl⟩ := Option.map_eq_some_iff.mp h
  exact (pane_mem_nodes hpane).2.2

theorem History.mem_record {history : History} {session : Session} {paneId : String}
    {state : PaneState} (h : state ∈ history paneId) : state ∈ history.record session paneId :=
  List.mem_append_left _ h

/-- A session whose panes are deliverable is the start of its own history. -/
theorem HistoryOf.start {session : Session}
    (h : ∀ paneId state, session.state paneId = some state → state.Deliverable) :
    HistoryOf (fun paneId => (session.state paneId).toList) session where
  histories := by
    intro paneId
    cases hstate : session.state paneId with
    | none => exact .nil
    | some state =>
      apply PaneHistory.nil.append (Session.state_id hstate) (h paneId state hstate) <;> simp
  current := by
    intro paneId state hstate
    have hsome : session.state paneId = some state := hstate
    simp [hsome]

/-- **A step of the session extends the histories.** -/
theorem HistoryOf.step {history : History} {before after : Session} (h : HistoryOf history before)
    (hstep : SessionStep history before after) : HistoryOf (history.record after) after := by
  constructor
  case histories =>
    intro paneId
    have hpast := h.histories paneId
    have hpane := hstep paneId
    rw [History.record]
    cases hafter : after.state paneId with
    | none => simpa using hpast
    | some later =>
      cases hbefore : before.state paneId with
      | none =>
        rw [hbefore, hafter] at hpane
        cases hpane with
        | created fresh deliverable =>
          rw [fresh]
          apply PaneHistory.nil.append (Session.state_id hafter) deliverable <;> simp
      | some earlier =>
        obtain ⟨hmem, hlatest⟩ := h.current paneId earlier hbefore
        rw [hbefore, hafter] at hpane
        cases hpane with
        | kept keeps => exact hpast.keep hmem hlatest keeps
        | changed room change => exact hpast.change hmem hlatest (Session.state_id hafter) room change
  case current =>
    intro paneId state hstate
    have hafter : after.state paneId = some state := hstate
    have hpane := hstep paneId
    rw [History.record, hafter]
    refine ⟨by simp, fun earlier hearlier => ?_⟩
    rcases List.mem_append.mp hearlier with hearlier | hearlier
    · cases hbefore : before.state paneId with
      | none =>
        rw [hbefore, hafter] at hpane
        cases hpane with
        | created fresh => simp [fresh] at hearlier
      | some current =>
        have hle := (h.current paneId current hbefore).2 earlier hearlier
        rw [hbefore, hafter] at hpane
        cases hpane with
        | kept keeps =>
          have hsame : state.versionNumber = current.versionNumber :=
            congrArg (·.version.toNat) keeps.surface
          omega
        | changed room change =>
          have := change.versionNumber room
          omega
    · rw [List.mem_singleton.mp hearlier]

end Nmux
