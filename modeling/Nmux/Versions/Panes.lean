import Nmux.Lib.Versioned
import Nmux.Core.PaneMoves

/-! Surface versions along a history of panes. What writes to a pane raises its version, or leaves what
the pane sends as it is; two writes keep this only under a condition. A version at its maximum is not
raised, and output that changes nothing still cuts lines a split left below the pane. -/
namespace Nmux

open Lib (Renews)

def PaneState.versionNumber (pane : PaneState) : Nat := pane.surfaceVersion.toNat

/-- A pane that renews another has another version or sends the same surface. -/
abbrev PaneState.Renews (earlier later : PaneState) : Prop :=
  Lib.Renews PaneState.versionNumber PaneState.paneSurface earlier later

/-- The version can be raised. -/
def PaneState.VersionBelowMax (pane : PaneState) : Prop := pane.surfaceVersion.toNat + 1 < 2 ^ 64

instance (pane : PaneState) : Decidable pane.VersionBelowMax :=
  inferInstanceAs (Decidable (_ < _))

section
variable {pane : PaneState}

theorem PaneState.renews_of_bump {later : PaneState} (h : pane.VersionBelowMax)
    (hversion : later.surfaceVersion = satAdd64 pane.surfaceVersion 1) : pane.Renews later := by
  apply Lib.Renews.of_lt
  have hroom : pane.surfaceVersion.toNat + 1 < 2 ^ 64 := h
  rw [versionNumber, versionNumber, hversion, satAdd64_one_toNat, if_pos hroom]
  exact Nat.lt_succ_self _

theorem updateStep_renews (update : TerminalUpdate) (h : pane.VersionBelowMax)
    (hfit : pane.surfaceLines.length ≤ pane.rows.toNat) : pane.Renews (updateStep pane update) := by
  cases hchanged : (updateChanges pane update false).surfaceChanged with
  | false =>
    have hsurface := (updateStep_unchanged hfit hchanged).1
    have hversion : (updateStep pane update).versionNumber = pane.versionNumber :=
      congrArg (·.version.toNat) hsurface
    exact ⟨hversion.ge, fun _ => hsurface⟩
  | true =>
    exact PaneState.renews_of_bump h (by rw [updateStep, applyTerminalUpdate_version, if_pos hchanged])

/-- A forced update always counts as a change. -/
theorem updateChanges_force (pane : PaneState) (update : TerminalUpdate) :
    (updateChanges pane update true).surfaceChanged = true := by
  simp [updateChanges, terminalPatchChanges, TerminalPatchChanges.surfaceChanged]

theorem resizedPane_renews (cols rows : UInt32) (update : TerminalUpdate) (h : pane.VersionBelowMax) :
    pane.Renews (Session.resizedPane cols rows update pane) := by
  apply PaneState.renews_of_bump h
  rw [Session.resizedPane, applyTerminalUpdate_version, if_pos (updateChanges_force _ _)]

theorem splitExisting_renews (sizes : SplitSizes) (h : pane.VersionBelowMax) :
    pane.Renews (splitExisting pane sizes) :=
  PaneState.renews_of_bump h rfl

end

/-! ### The panes of one name -/

namespace Session

/-- The panes of that name descend from those before. -/
def Continues (paneId : String) (before after : Session) : Prop :=
  Lib.Descends PaneState.versionNumber PaneState.paneSurface (before.named paneId)
    (after.named paneId)

protected theorem Continues.rfl {session : Session} {paneId : String} :
    Continues paneId session session :=
  Lib.Descends.of_subset fun _ h => h

protected theorem Continues.trans {first second third : Session} {paneId : String}
    (h : Continues paneId first second) (h' : Continues paneId second third) :
    Continues paneId first third :=
  Lib.Descends.trans h h'

/-- Panes that only renew others descend from them. -/
theorem Moves.continues {before after : Session} {paneId : String}
    (h : Moves PaneState.Renews (fun _ => False) paneId before after) : Continues paneId before after :=
  fun later hlater => (h later hlater).resolve_right fun hnone => hnone

end Session

end Nmux
