import Nmux.Client.Surface
import Nmux.Lib.FirstMatch

/-! The surfaces a client caches. A client keeps one surface for each pane it has been sent, and every
surface update it reads goes to the cached surface of its pane; a patch without one is refused. -/
namespace Nmux.Client

open Lib (replaceFirst)

/-- A socket, by the file it is bound to. -/
structure SocketIdentity where
  dev : UInt64
  ino : UInt64
  ctime : Int64
  ctimeNsec : Int64
deriving DecidableEq, Repr

structure ClientPaneScrollback where
  paneId : String
  version : UInt64
  startLine : UInt64
  lineCount : UInt32
  totalLines : UInt64
deriving DecidableEq, Repr

structure ClientAttachState where
  scope : Option SocketIdentity
  surfaces : List ClientPaneSurface
  scrollbacks : List ClientPaneScrollback
deriving DecidableEq, Repr

namespace ClientAttachState

def default : ClientAttachState where
  scope := none
  surfaces := []
  scrollbacks := []

/-- The surface every reader of the cache looks up. -/
def cachedSurface (state : ClientAttachState) (paneId : String) : Option ClientPaneSurface :=
  state.surfaces.find? (·.paneId == paneId)

/-- `apply_surface_update`, with the surface it renders. -/
def applySurfaceUpdate (state : ClientAttachState) (update : SurfaceUpdate) :
    Except String (ClientAttachState × ClientPaneSurface) :=
  match state.cachedSurface update.paneId with
  | some surface => do
    let surface ← surface.applyUpdate update
    return ({ state with
      surfaces := replaceFirst (·.paneId == update.paneId) (fun _ => surface) state.surfaces }, surface)
  | none =>
    if update.kind = .snapshot then do
      let surface ← ClientPaneSurface.fromSnapshot update
      return ({ state with surfaces := state.surfaces ++ [surface] }, surface)
    else .error ("cannot apply pane " ++ update.paneId ++ " patch without a cached snapshot")

/-! ### What an update leaves in the cache -/

variable {state reached : ClientAttachState} {update : SurfaceUpdate} {surface : ClientPaneSurface}

/-- The cached surface of the pane takes an update as `applyUpdate` says. -/
theorem applySurfaceUpdate_some {cached : ClientPaneSurface}
    (hcached : state.cachedSurface update.paneId = some cached)
    (hupdate : cached.applyUpdate update = .ok surface) :
    state.applySurfaceUpdate update = .ok ({ state with
      surfaces := replaceFirst (·.paneId == update.paneId) (fun _ => surface) state.surfaces },
      surface) := by
  rw [applySurfaceUpdate, hcached]
  show (cached.applyUpdate update >>= _) = _
  rw [hupdate]
  rfl

theorem applySurfaceUpdate_none (hcached : state.cachedSurface update.paneId = none)
    (hkind : update.kind = .snapshot) (hupdate : ClientPaneSurface.fromSnapshot update = .ok surface) :
    state.applySurfaceUpdate update =
      .ok ({ state with surfaces := state.surfaces ++ [surface] }, surface) := by
  rw [applySurfaceUpdate, hcached]
  simp only [hkind, if_true]
  rw [hupdate]
  rfl

/-- A snapshot that a client can build a surface from is taken whatever it has cached. -/
theorem applySurfaceUpdate_snapshot (state : ClientAttachState) (hkind : update.kind = .snapshot)
    (hupdate : ClientPaneSurface.fromSnapshot update = .ok surface) :
    ∃ reached, state.applySurfaceUpdate update = .ok (reached, surface) := by
  cases hcached : state.cachedSurface update.paneId with
  | none => exact ⟨_, applySurfaceUpdate_none hcached hkind hupdate⟩
  | some cached =>
    refine ⟨_, applySurfaceUpdate_some hcached ?_⟩
    rw [ClientPaneSurface.applyUpdate, hkind]
    exact hupdate

/-- A patch is taken over the surface of exactly its base version. -/
theorem cachedSurface_of_patch (h : state.applySurfaceUpdate update = .ok (reached, surface))
    (hkind : update.kind = .patch) :
    ∃ held, state.cachedSurface update.paneId = some held ∧ update.baseVersion = some held.version := by
  rw [applySurfaceUpdate] at h
  cases hcached : state.cachedSurface update.paneId with
  | none =>
    rw [hcached, hkind] at h
    cases h
  | some held =>
    rw [hcached] at h
    obtain ⟨applied, happlied, -⟩ := Lib.Check.bind_eq_ok.mp h
    rw [ClientPaneSurface.applyUpdate, hkind] at happlied
    obtain ⟨hvalid, -⟩ := Lib.Check.check_bind_eq_ok.mp happlied
    obtain ⟨-, hrest⟩ := Lib.Check.check_bind_eq_ok.mp hvalid
    obtain ⟨hbase, -⟩ := Lib.Check.check_bind_eq_ok.mp hrest
    exact ⟨held, rfl, by simpa using hbase⟩

/-- The pane of the update has the surface it left; every other pane has the one it had. -/
theorem cachedSurface_of_applySurfaceUpdate
    (h : state.applySurfaceUpdate update = .ok (reached, surface))
    (hpane : surface.paneId = update.paneId) (paneId : String) :
    reached.cachedSurface paneId =
      if paneId = update.paneId then some surface else state.cachedSurface paneId := by
  rw [applySurfaceUpdate] at h
  cases hcached : state.cachedSurface update.paneId with
  | some cached =>
    rw [hcached] at h
    obtain ⟨applied, -, hreached⟩ := Lib.Check.bind_eq_ok.mp h
    obtain ⟨rfl, rfl⟩ := Prod.mk.inj (Except.ok.inj hreached)
    split
    case isTrue hsame =>
      subst hsame
      refine (Lib.find?_replaceFirst_self (fun _ _ => ?_) _).trans
        (congrArg (Option.map fun _ => applied) hcached)
      exact beq_iff_eq.mpr hpane
    case isFalse hother =>
      refine Lib.find?_replaceFirst_other (fun cached hcached => ?_) (fun _ _ => ?_) _
      · rw [beq_iff_eq] at hcached
        rw [hcached]
        exact beq_eq_false_iff_ne.mpr (Ne.symm hother)
      · rw [hpane]
        exact beq_eq_false_iff_ne.mpr (Ne.symm hother)
  | none =>
    rw [hcached] at h
    simp only at h
    split at h
    case isFalse => cases h
    case isTrue =>
      obtain ⟨applied, -, hreached⟩ := Lib.Check.bind_eq_ok.mp h
      obtain ⟨rfl, rfl⟩ := Prod.mk.inj (Except.ok.inj hreached)
      rw [cachedSurface, List.find?_append]
      split
      case isTrue hsame =>
        subst hsame
        rw [show state.surfaces.find? (·.paneId == update.paneId) = none from hcached]
        simp [hpane]
      case isFalse hother =>
        rw [List.find?_singleton, if_neg (by simpa [hpane] using Ne.symm hother)]
        exact Option.or_none

end ClientAttachState

end Nmux.Client
