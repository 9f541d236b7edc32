import Nmux.Client.SpeculativeEcho
import Nmux.Client.CacheUpdates
import Nmux.Lib.Run

/-! Predicted keys over a run of typed keys and surface updates. A pending prediction stands at the end
of a row that nothing has written since, on the surface of the version it names; two misses without a
confirmation or a refused key between them refuse the next three keys. -/
namespace Nmux.Client

open SpeculativeEchoOverlay
open Lib.Check

/-! ### What an update writes -/

theorem applyRows_other {rows : UInt32} {rowData reached : List ClientRow} {updates : List SurfaceRowUpdate}
    {row : UInt32} (h : applyRows rows rowData updates = .ok reached)
    (hnone : updates.find? (·.row == row) = none) : reached[row.toNat]? = rowData[row.toNat]? := by
  induction updates generalizing rowData with
  | nil => rw [← Except.ok.inj h]
  | cons update rest ih =>
    rw [List.find?_cons] at hnone
    split at hnone
    case h_1 => cases hnone
    case h_2 hrow =>
      rw [applyRows] at h
      split at h
      case isFalse => cases h
      case isTrue =>
        rw [ih h hnone, List.getElem?_set_ne fun hsame => ?_]
        rw [UInt32.toNat_inj.mp hsame, beq_self_eq_true] at hrow
        cases hrow

theorem applyRows_found {rows : UInt32} {rowData reached : List ClientRow} {updates : List SurfaceRowUpdate}
    {row : UInt32} {found : SurfaceRowUpdate} (h : applyRows rows rowData updates = .ok reached)
    (hnodup : (updates.map (·.row)).Nodup) (hfound : updates.find? (·.row == row) = some found) :
    reached[row.toNat]? = some found.clientRow := by
  induction updates generalizing rowData with
  | nil => cases hfound
  | cons update rest ih =>
    rw [List.map_cons, List.nodup_cons] at hnodup
    rw [applyRows] at h
    split at h
    case isFalse => cases h
    case isTrue hlt =>
      rw [List.find?_cons] at hfound
      split at hfound
      case h_1 hrow =>
        obtain rfl := Option.some.inj hfound
        obtain rfl := beq_iff_eq.mp hrow
        have hrest : rest.find? (·.row == update.row) = none := by
          refine List.find?_eq_none.mpr fun other hother hsame => hnodup.1 ?_
          exact List.mem_map.mpr ⟨other, hother, beq_iff_eq.mp hsame⟩
        rw [applyRows_other h hrest, List.getElem?_set_self hlt]
      case h_2 => exact ih h hnodup.2 hfound

/-- What an accepted patch leaves of a surface, as far as a prediction depends on it. -/
structure Patched (held : ClientPaneSurface) (update : SurfaceUpdate) (surface : ClientPaneSurface) :
    Prop where
  pane : surface.paneId = update.paneId
  version : surface.version = update.version
  kept : ∀ row, update.rowUpdates.find? (·.row == row) = none →
    surface.rowData[row.toNat]? = held.rowData[row.toNat]?
  written : ∀ row found, update.rowUpdates.find? (·.row == row) = some found →
    surface.rowData[row.toNat]? = some found.clientRow

theorem validatePatch_noRows {held : ClientPaneSurface} {update : SurfaceUpdate}
    (hvalid : held.validatePatch update = .ok ())
    (hkind : update.patchKind = some .cursorOnly ∨ update.patchKind = some .modeOnly ∨
      update.patchKind = some .colorOnly) : update.rowUpdates = [] := by
  unfold ClientPaneSurface.validatePatch at hvalid
  obtain ⟨-, hvalid⟩ := check_bind_eq_ok.mp hvalid
  obtain ⟨-, hvalid⟩ := check_bind_eq_ok.mp hvalid
  obtain ⟨-, hvalid⟩ := check_bind_eq_ok.mp hvalid
  obtain ⟨-, hvalid⟩ := check_bind_eq_ok.mp hvalid
  obtain ⟨-, hvalid⟩ := check_bind_eq_ok.mp hvalid
  obtain ⟨-, hvalid⟩ := check_bind_eq_ok.mp hvalid
  obtain ⟨-, hvalid⟩ := check_bind_eq_ok.mp hvalid
  obtain ⟨hpayload, -⟩ := check_bind_eq_ok.mp hvalid
  rcases hkind with hkind | hkind | hkind <;>
  · rw [hkind] at hpayload
    have hrows := require_eq_ok.mp hpayload
    simpa using hrows

theorem applyPatch_patched {held surface : ClientPaneSurface} {update : SurfaceUpdate}
    (h : held.applyPatch update = .ok surface) : Patched held update surface := by
  unfold ClientPaneSurface.applyPatch at h
  obtain ⟨hvalid, h⟩ := check_bind_eq_ok.mp h
  have hpane : held.paneId = update.paneId := by
    obtain ⟨hpane, -⟩ := check_bind_eq_ok.mp hvalid
    exact (beq_iff_eq.mp (require_eq_ok.mp hpane)).symm
  have hnone : update.rowUpdates = [] → ∀ row found,
      update.rowUpdates.find? (·.row == row) = some found → False := by
    intro hrows row found hfound
    rw [hrows] at hfound
    cases hfound
  dsimp only at h
  split at h
  case isTrue hkind =>
    obtain ⟨-, h⟩ := check_bind_eq_ok.mp h
    obtain rfl := Except.ok.inj h
    have hrows := validatePatch_noRows hvalid (.inl hkind)
    exact ⟨hpane, rfl, fun _ _ => rfl, fun row found hfound => (hnone hrows row found hfound).elim⟩
  split at h
  case isTrue hkind =>
    obtain ⟨-, h⟩ := check_bind_eq_ok.mp h
    obtain rfl := Except.ok.inj h
    have hrows := validatePatch_noRows hvalid (.inr (.inl hkind))
    exact ⟨hpane, rfl, fun _ _ => rfl, fun row found hfound => (hnone hrows row found hfound).elim⟩
  split at h
  case isTrue hkind =>
    obtain ⟨colors, -, h⟩ := bind_eq_ok.mp h
    obtain ⟨palette, -, h⟩ := bind_eq_ok.mp h
    obtain rfl := Except.ok.inj h
    have hrows := validatePatch_noRows hvalid (.inr (.inr hkind))
    exact ⟨hpane, rfl, fun _ _ => rfl, fun row found hfound => (hnone hrows row found hfound).elim⟩
  case isFalse =>
    obtain ⟨-, h⟩ := check_bind_eq_ok.mp h
    obtain ⟨-, h⟩ := check_bind_eq_ok.mp h
    obtain ⟨-, h⟩ := check_bind_eq_ok.mp h
    obtain ⟨hindices, h⟩ := check_bind_eq_ok.mp h
    obtain ⟨-, h⟩ := check_bind_eq_ok.mp h
    obtain ⟨-, h⟩ := check_bind_eq_ok.mp h
    obtain ⟨rowData, hrows, h⟩ := bind_eq_ok.mp h
    obtain rfl := Except.ok.inj h
    exact ⟨hpane, rfl, fun _ hother => applyRows_other hrows hother,
      fun _ _ hfound => applyRows_found hrows (validateRowUpdateIndices_eq_ok.mp hindices).2 hfound⟩

/-! ### A client that predicts -/

/-- A client, its prediction, and what the row of the prediction held when it was made. -/
structure EchoClient where
  state : ClientAttachState
  overlay : SpeculativeEchoOverlay
  predictedFrom : Option String
deriving DecidableEq, Repr

/-- A key is offered for prediction, or an update of the server is reconciled and applied. -/
inductive EchoEvent where
  | key (paneId : String) (inputSeq : UInt64) (text : String) (styled : Bool)
  | update (update : SurfaceUpdate)
deriving DecidableEq, Repr

/-- The text of the row a prediction is drawn on. -/
def ClientAttachState.rowText (state : ClientAttachState) (prediction : SpeculativeEchoPrediction) :
    Option String :=
  (state.cachedSurface prediction.paneId).bind fun surface =>
    (surface.rowData[prediction.row.toNat]?).map (·.text)

namespace EchoClient

def start (state : ClientAttachState) : EchoClient := ⟨state, SpeculativeEchoOverlay.default, none⟩

def step (client : EchoClient) : EchoEvent → EchoClient
  | .key paneId inputSeq text styled =>
    let overlay := (client.state.renderSpeculativeEcho client.overlay paneId inputSeq text styled).2
    { client with
      overlay
      predictedFrom := if client.overlay.prediction.isSome then client.predictedFrom
        else overlay.prediction.bind client.state.rowText }
  | .update update =>
    let overlay := (client.overlay.reconcileUpdate update).2
    match client.state.applySurfaceUpdate update with
    | .ok (state, _) => { client with state, overlay }
    -- a client that refuses an update stops
    | .error _ => { client with overlay }

/-- The client takes the update, and a patch leads to a later version, as those of a server do. -/
def Takes (client : EchoClient) : EchoEvent → Prop
  | .key .. => True
  | .update update => (∃ applied, client.state.applySurfaceUpdate update = .ok applied) ∧
      (update.kind = .patch → ∀ base, update.baseVersion = some base → base < update.version)

/-- The prediction the event would make if nothing suppressed it. -/
def offered (client : EchoClient) : EchoEvent → Option SpeculativeEchoPrediction
  | .key paneId inputSeq text _ =>
    if client.overlay.prediction.isSome then none
    else (client.state.cachedSurface paneId).bind fun surface => predictable surface inputSeq text
  | .update _ => none

def finding (client : EchoClient) : EchoEvent → Finding
  | .key .. => .noPrediction
  | .update update => client.overlay.finding update

/-- The key could be predicted and is not. -/
def Refuses (client : EchoClient) (event : EchoEvent) : Prop :=
  client.offered event ≠ none ∧ (client.step event).overlay.prediction = none

/-- The keys of a run that could be predicted. -/
def offers (client : EchoClient) : List EchoEvent → ℕ
  | [] => 0
  | event :: rest => (if client.offered event = none then 0 else 1) + offers (client.step event) rest

/-! ### One event -/

variable {client : EchoClient}

theorem renderSpeculativeEcho_overlay (state : ClientAttachState) (overlay : SpeculativeEchoOverlay)
    (paneId : String) (inputSeq : UInt64) (text : String) (styled : Bool) :
    (state.renderSpeculativeEcho overlay paneId inputSeq text styled).2 =
      (state.cachedSurface paneId).elim overlay
        fun surface => (overlay.predictPrintableKey surface inputSeq text).2 := by
  unfold ClientAttachState.renderSpeculativeEcho
  cases state.cachedSurface paneId with
  | none => rfl
  | some surface =>
    dsimp only [Option.elim_some]
    split
    case h_1 hanswer => rw [hanswer]
    case h_2 => rfl

/-- What a key does is decided by the prediction it offers. -/
theorem step_key (paneId : String) (inputSeq : UInt64) (text : String) (styled : Bool) :
    (client.step (.key paneId inputSeq text styled)).overlay =
      match client.offered (.key paneId inputSeq text styled) with
      | none => client.overlay
      | some prediction =>
        if client.overlay.predictionSuppressed then client.overlay.recordSuppressedPredictableKey
        else { client.overlay with prediction := some prediction } := by
  rw [step, renderSpeculativeEcho_overlay, offered]
  cases client.state.cachedSurface paneId with
  | none =>
    rw [Option.bind_none, ite_self]
    rfl
  | some surface =>
    rw [Option.elim_some, predictPrintableKey, Option.bind_some]
    split
    · rfl
    · cases predictable surface inputSeq text with
      | none => rfl
      | some prediction =>
        dsimp only
        split <;> rfl

/-- An offered prediction stands past the last character of a row of the surface it names. -/
theorem offered_some {event : EchoEvent} {prediction : SpeculativeEchoPrediction}
    (h : client.offered event = some prediction) :
    client.overlay.prediction = none ∧ ∃ surface row,
      client.state.cachedSurface prediction.paneId = some surface ∧
        prediction.baseVersion = surface.version ∧
        surface.rowData[prediction.row.toNat]? = some row ∧ row.text.length = prediction.col.toNat := by
  cases event with
  | update update => cases h
  | key paneId inputSeq text styled =>
    rw [offered] at h
    split at h
    case isTrue => cases h
    case isFalse hprediction =>
      obtain ⟨surface, hcached, hpredictable⟩ := Option.bind_eq_some_iff.mp h
      refine ⟨Option.not_isSome_iff_eq_none.mp hprediction, surface, ?_⟩
      have hpane : surface.paneId = paneId := by
        simpa using List.find?_some hcached
      obtain ⟨ch, -, hpredictable⟩ := Option.bind_eq_some_iff.mp hpredictable
      obtain ⟨cursor, -, hpredictable⟩ := Option.bind_eq_some_iff.mp hpredictable
      split at hpredictable
      case isTrue => cases hpredictable
      case isFalse =>
        obtain ⟨row, hrow, hpredictable⟩ := Option.bind_eq_some_iff.mp hpredictable
        split at hpredictable
        case isTrue => cases hpredictable
        case isFalse hcol =>
          obtain rfl := Option.some.inj hpredictable
          refine ⟨row, by rw [hpane]; exact hcached, rfl, hrow, ?_⟩
          exact (not_ne_iff.mp (not_or.mp hcol).1).symm

theorem applySurfaceUpdate_patched {state reached : ClientAttachState} {update : SurfaceUpdate}
    {surface : ClientPaneSurface} (h : state.applySurfaceUpdate update = .ok (reached, surface))
    (hkind : update.kind = .patch) : ∃ held, state.cachedSurface update.paneId = some held ∧
      update.baseVersion = some held.version ∧ Patched held update surface := by
  obtain ⟨held, hheld, hbase⟩ := ClientAttachState.cachedSurface_of_patch h hkind
  refine ⟨held, hheld, hbase, ?_⟩
  rw [ClientAttachState.applySurfaceUpdate, hheld] at h
  obtain ⟨applied, happlied, hreached⟩ := bind_eq_ok.mp h
  obtain ⟨-, rfl⟩ := Prod.mk.inj (Except.ok.inj hreached)
  rw [ClientPaneSurface.applyUpdate, hkind] at happlied
  exact applyPatch_patched happlied

theorem applySurfaceUpdate_paneId {state reached : ClientAttachState} {update : SurfaceUpdate}
    {surface : ClientPaneSurface} (h : state.applySurfaceUpdate update = .ok (reached, surface)) :
    surface.paneId = update.paneId := by
  cases hkind : update.kind with
  | patch =>
    obtain ⟨held, -, -, hpatched⟩ := applySurfaceUpdate_patched h hkind
    exact hpatched.pane
  | snapshot =>
    rw [ClientAttachState.applySurfaceUpdate] at h
    split at h
    · obtain ⟨applied, happlied, hreached⟩ := bind_eq_ok.mp h
      obtain ⟨-, rfl⟩ := Prod.mk.inj (Except.ok.inj hreached)
      rw [ClientPaneSurface.applyUpdate, hkind] at happlied
      exact (fromSnapshot_updated happlied).1.paneId
    · rw [if_pos hkind] at h
      obtain ⟨applied, happlied, hreached⟩ := bind_eq_ok.mp h
      obtain ⟨-, rfl⟩ := Prod.mk.inj (Except.ok.inj hreached)
      exact (fromSnapshot_updated happlied).1.paneId

/-! ### A pending prediction -/

/-- The prediction is for the surface the client holds, and stands past the last character of a row that
is still what it was predicted from. -/
structure Stands (client : EchoClient) (prediction : SpeculativeEchoPrediction) : Prop where
  surface : ∃ surface row, client.state.cachedSurface prediction.paneId = some surface ∧
    prediction.baseVersion = surface.version ∧ surface.rowData[prediction.row.toNat]? = some row ∧
    row.text.length = prediction.col.toNat
  unwritten : client.state.rowText prediction = client.predictedFrom

def Pending (client : EchoClient) : Prop :=
  ∀ prediction, client.overlay.prediction = some prediction → client.Stands prediction

theorem rowText_eq {state : ClientAttachState} {prediction : SpeculativeEchoPrediction}
    {surface : ClientPaneSurface} (h : state.cachedSurface prediction.paneId = some surface) :
    state.rowText prediction = (surface.rowData[prediction.row.toNat]?).map (·.text) := by
  rw [ClientAttachState.rowText, h, Option.bind_some]

/-- What a finding about a pending prediction rests on. -/
inductive Finds (prediction : SpeculativeEchoPrediction) (update : SurfaceUpdate) : Finding → Prop
  | other : prediction.paneId ≠ update.paneId → Finds prediction update .pending
  | stale : prediction.paneId = update.paneId → update.kind = .patch →
      update.version ≤ prediction.baseVersion → Finds prediction update .pending
  | rebased : prediction.paneId = update.paneId → update.kind = .patch →
      update.rowUpdates.find? (·.row == prediction.row) = none → Finds prediction update .rebased
  | confirmed {row : SurfaceRowUpdate} {ch : Char} : prediction.paneId = update.paneId →
      update.kind = .patch → update.rowUpdates.find? (·.row == prediction.row) = some row →
      row.text.toList[prediction.col.toNat]? = some ch → String.singleton ch = prediction.text →
      Finds prediction update .confirmed
  | mismatched : Finds prediction update .mismatched
  | displaced : Finds prediction update .displaced

theorem finding_finds {overlay : SpeculativeEchoOverlay} {prediction : SpeculativeEchoPrediction}
    (h : overlay.prediction = some prediction) (update : SurfaceUpdate) :
    Finds prediction update (overlay.finding update) := by
  rw [SpeculativeEchoOverlay.finding, h]
  dsimp only
  split
  case isTrue hother => exact .other hother
  case isFalse hpane =>
    rw [not_ne_iff] at hpane
    split
    case isTrue => exact .mismatched
    case isFalse hpatch =>
      have hkind : update.kind = .patch := by
        cases hkind : update.kind with
        | patch => rfl
        | snapshot => exact absurd (.inl hkind) hpatch
      split
      case isTrue hold => exact .stale hpane hkind hold
      case isFalse =>
        split
        case isTrue => exact .displaced
        case isFalse =>
          split
          case h_1 hnone => exact .rebased hpane hkind hnone
          case h_2 row hrow =>
            split
            case h_2 => exact .displaced
            case h_1 ch hch =>
              split
              case isTrue htext => exact .confirmed hpane hkind hrow hch htext
              case isFalse => exact .mismatched

theorem step_update {update : SurfaceUpdate} {reached : ClientAttachState} {surface : ClientPaneSurface}
    (h : client.state.applySurfaceUpdate update = .ok (reached, surface)) :
    client.step (.update update) =
      { client with state := reached, overlay := (client.overlay.reconcileUpdate update).2 } := by
  rw [step, h]

/-- A patch of the pane is taken over the surface the prediction stands on. -/
theorem Stands.patched {prediction : SpeculativeEchoPrediction} {update : SurfaceUpdate}
    {reached : ClientAttachState} {surface : ClientPaneSurface} (h : client.Stands prediction)
    (happlied : client.state.applySurfaceUpdate update = .ok (reached, surface))
    (hpane : prediction.paneId = update.paneId) (hkind : update.kind = .patch) :
    ∃ held row, client.state.cachedSurface prediction.paneId = some held ∧
      update.baseVersion = some prediction.baseVersion ∧
      held.rowData[prediction.row.toNat]? = some row ∧ row.text.length = prediction.col.toNat ∧
      Patched held update surface ∧ reached.cachedSurface prediction.paneId = some surface := by
  obtain ⟨held, row, hheld, hversion, hrow, hcol⟩ := h.surface
  obtain ⟨base, hbase, hupdate, hpatched⟩ := applySurfaceUpdate_patched happlied hkind
  obtain rfl : held = base := Option.some.inj (hheld.symm.trans (hpane ▸ hbase))
  refine ⟨held, row, hheld, hversion ▸ hupdate, hrow, hcol, hpatched, ?_⟩
  rw [ClientAttachState.cachedSurface_of_applySurfaceUpdate happlied
    (applySurfaceUpdate_paneId happlied), if_pos hpane]

/-- An update leaves the prediction standing, or takes it away. -/
theorem pending_update {update : SurfaceUpdate} (h : client.Pending)
    (htakes : client.Takes (.update update)) : (client.step (.update update)).Pending := by
  obtain ⟨⟨⟨reached, surface⟩, happlied⟩, hahead⟩ := htakes
  rw [step_update happlied]
  intro prediction hprediction
  dsimp only at hprediction
  cases hpending : client.overlay.prediction with
  | none =>
    rw [reconcileUpdate, SpeculativeEchoOverlay.finding, hpending] at hprediction
    exact absurd (hpending.symm.trans hprediction) nofun
  | some pending =>
    have hstands := h pending hpending
    have hfinds := finding_finds hpending update
    rw [reconcileUpdate] at hprediction
    generalize client.overlay.finding update = finding at hfinds hprediction
    cases hfinds with
    | other hother =>
      -- an update of another pane leaves the surface of the prediction as it is
      obtain rfl := Option.some.inj (hpending.symm.trans hprediction)
      obtain ⟨held, row, hheld, hrest⟩ := hstands.surface
      have hsame : reached.cachedSurface pending.paneId = some held := by
        rw [ClientAttachState.cachedSurface_of_applySurfaceUpdate happlied
          (applySurfaceUpdate_paneId happlied), if_neg hother, hheld]
      exact ⟨⟨held, row, hsame, hrest⟩, by
        rw [rowText_eq hsame, ← rowText_eq hheld]; exact hstands.unwritten⟩
    | stale hpane hkind hold =>
      obtain ⟨held, row, -, hbase, -⟩ := hstands.patched happlied hpane hkind
      exact absurd (hahead hkind _ hbase) (UInt64.not_lt.mpr hold)
    | rebased hpane hkind hnone =>
      obtain ⟨held, row, hheld, -, hrow, hcol, hpatched, hreached⟩ :=
        hstands.patched happlied hpane hkind
      obtain rfl : { pending with baseVersion := update.version } = prediction := by
        rw [rebasePendingPrediction, hpending] at hprediction
        exact Option.some.inj hprediction
      have hkept := hpatched.kept pending.row hnone
      have hunwritten := hstands.unwritten
      rw [rowText_eq hheld] at hunwritten
      refine ⟨⟨surface, row, hreached, hpatched.version.symm, hkept.trans hrow, hcol⟩, ?_⟩
      exact (@rowText_eq _ { pending with baseVersion := update.version } _ hreached).trans
        ((congrArg _ hkept).trans hunwritten)
    | confirmed => cases hprediction
    | mismatched => cases hprediction
    | displaced => cases hprediction

theorem pending_step {event : EchoEvent} (h : client.Pending) (htakes : client.Takes event) :
    (client.step event).Pending := by
  cases event with
  | update update => exact pending_update h htakes
  | key paneId inputSeq text styled =>
    intro prediction hprediction
    have hkey := @step_key client paneId inputSeq text styled
    cases hoffered : client.offered (.key paneId inputSeq text styled) with
    | none =>
      rw [hoffered] at hkey
      rw [hkey] at hprediction
      have hstands := h prediction hprediction
      refine ⟨hstands.surface, ?_⟩
      rw [step, if_pos (by rw [hprediction]; rfl)]
      exact hstands.unwritten
    | some offer =>
      obtain ⟨hnone, surface, row, hcached, hversion, hrow, hcol⟩ := offered_some hoffered
      rw [hoffered] at hkey
      dsimp only at hkey
      split at hkey
      case isTrue =>
        rw [hkey, recordSuppressedPredictableKey] at hprediction
        split at hprediction <;> exact absurd (hnone.symm.trans hprediction) nofun
      case isFalse =>
        obtain rfl : offer = prediction := by
          rw [hkey] at hprediction
          exact Option.some.inj hprediction
        refine ⟨⟨surface, row, hcached, hversion, hrow, hcol⟩, ?_⟩
        show client.state.rowText offer = if _ then _ else _
        rw [if_neg (by rw [hnone]; decide)]
        exact (congrArg (Option.bind · client.state.rowText) hprediction).symm

theorem pending_run {state : ClientAttachState} {events : List EchoEvent}
    (h : Lib.Along step Takes (start state) events) : (Lib.run step (start state) events).Pending :=
  h.invariant (fun _ _ hpending htakes => pending_step hpending htakes) nofun

/-- A confirmation is what the newer surface shows. -/
theorem confirmed_shows {update : SurfaceUpdate} (h : client.Pending)
    (htakes : client.Takes (.update update))
    (hconfirmed : (client.overlay.reconcileUpdate update).1 = .confirmed) :
    ∃ prediction surface row ch, client.overlay.prediction = some prediction ∧
      (client.step (.update update)).state.cachedSurface prediction.paneId = some surface ∧
      prediction.baseVersion < surface.version ∧
      surface.rowData[prediction.row.toNat]? = some row ∧
      row.text.toList[prediction.col.toNat]? = some ch ∧ prediction.text = String.singleton ch := by
  obtain ⟨⟨⟨reached, surface⟩, happlied⟩, hahead⟩ := htakes
  rw [step_update happlied]
  cases hpending : client.overlay.prediction with
  | none =>
    rw [reconcileUpdate, SpeculativeEchoOverlay.finding, hpending] at hconfirmed
    cases hconfirmed
  | some pending =>
    have hfinds := finding_finds hpending update
    rw [reconcileUpdate] at hconfirmed
    generalize client.overlay.finding update = finding at hfinds hconfirmed
    cases hfinds with
    | confirmed hpane hkind hrow hch htext =>
      obtain ⟨held, _, -, hbase, -, -, hpatched, hreached⟩ :=
        (h pending hpending).patched happlied hpane hkind
      refine ⟨pending, surface, _, _, rfl, hreached, ?_, hpatched.written _ _ hrow, hch, htext.symm⟩
      rw [hpatched.version]
      exact hahead hkind _ hbase
    | other => cases hconfirmed
    | stale => cases hconfirmed
    | rebased => cases hconfirmed
    | mismatched => cases hconfirmed
    | displaced => cases hconfirmed

/-- What is not confirmed stays as it is, up to the version, or is gone. -/
theorem unconfirmed_kept {update : SurfaceUpdate} {prediction : SpeculativeEchoPrediction}
    (hpending : client.overlay.prediction = some prediction) :
    (client.overlay.reconcileUpdate update).2.prediction = none ∨ ∃ version,
      (client.overlay.reconcileUpdate update).2.prediction =
        some { prediction with baseVersion := version } := by
  rw [reconcileUpdate]
  cases client.overlay.finding update with
  | noPrediction => exact .inr ⟨prediction.baseVersion, hpending⟩
  | pending => exact .inr ⟨prediction.baseVersion, hpending⟩
  | rebased => exact .inr ⟨update.version, congrArg (Option.map _) hpending⟩
  | confirmed => exact .inl rfl
  | mismatched => exact .inl rfl
  | displaced => exact .inl rfl

end EchoClient

/-! ### Drawing -/

variable {surface : ClientPaneSurface}

/-- A row of a surface as it is drawn. -/
def ClientPaneSurface.shownRow (surface : ClientPaneSurface) (style : SpeculativeSurfaceStyle) (row : ℕ) :
    String :=
  match surface.rowData[row]?, style with
  | none, _ => ""
  | some row, .plainText => row.text
  | some row, .structuredSgr =>
    if row.runs.isEmpty then row.text
    else String.join (row.runs.map (StoredSurface.renderStyledRun surface.styles))

theorem renderedRow_eq (style : SpeculativeSurfaceStyle) {row : ℕ} (h : row < surface.rowData.length) :
    renderedRow surface style row = .ok (surface.shownRow style row) := by
  have hrow := List.getElem?_eq_getElem h
  unfold renderedRow ClientPaneSurface.shownRow
  rw [hrow]
  cases style with
  | plainText => simp [indexed, ClientPaneSurface.stored, hrow]
  | structuredSgr =>
    simp only [StoredSurface.renderStyledRow, indexed, ClientPaneSurface.stored, List.getElem?_map, hrow,
      Option.map_some, ok_bind]
    split <;> rfl

theorem mapM_eq_map {α β : Type} {f : α → Except String β} {g : α → β} {xs : List α}
    (h : ∀ x ∈ xs, f x = .ok (g x)) : xs.mapM f = .ok (xs.map g) := by
  induction xs with
  | nil => rfl
  | cons x xs ih =>
    rw [List.mapM_cons, h x List.mem_cons_self, ok_bind, ih fun x hx => h x (List.mem_cons_of_mem _ hx)]
    rfl

theorem visibleRowCount_stored (surface : ClientPaneSurface) :
    surface.stored.visibleRowCount ≤ surface.rowData.length := by
  have hle := visibleRowCount_le surface.stored
  rwa [show surface.stored.rowText.length = surface.rowData.length from List.length_map _] at hle

/-- What is drawn without a prediction. -/
def ClientPaneSurface.Authoritative (surface : ClientPaneSurface) : SpeculativeSurfaceStyle → String → Prop
  | .plainText, text => surface.stored.renderText = .ok text
  | .structuredSgr, text => surface.stored.renderStyledText = .ok text

theorem authoritative_rows (surface : ClientPaneSurface) (style : SpeculativeSurfaceStyle) :
    surface.Authoritative style (String.intercalate "\n"
      ((List.range surface.stored.visibleRowCount).map (surface.shownRow style))) := by
  have hvisible := visibleRowCount_stored surface
  have hrows : ∀ row ∈ List.range surface.stored.visibleRowCount,
      renderedRow surface style row = .ok (surface.shownRow style row) := fun row hrow =>
    renderedRow_eq style (Nat.lt_of_lt_of_le (List.mem_range.mp hrow) hvisible)
  cases style with
  | plainText =>
    unfold ClientPaneSurface.Authoritative StoredSurface.renderText
    rw [slicedTo, if_pos (visibleRowCount_le surface.stored), ok_bind]
    congr 2
    refine List.ext_getElem? fun row => ?_
    rw [List.getElem?_take, List.getElem?_map]
    by_cases hlt : row < surface.stored.visibleRowCount
    · have hrow := hrows row (List.mem_range.mpr hlt)
      rw [if_pos hlt, List.getElem?_range hlt, Option.map_some]
      unfold renderedRow indexed at hrow
      dsimp only at hrow
      split at hrow
      case h_1 hfound => rw [hfound, Except.ok.inj hrow]
      case h_2 => cases hrow
    · rw [if_neg hlt, List.getElem?_eq_none (by rw [List.length_range]; omega)]
      rfl
  | structuredSgr =>
    show surface.stored.renderStyledText = _
    rw [StoredSurface.renderStyledText, @mapM_eq_map _ _ surface.stored.renderStyledRow _ _ hrows]
    rfl

/-- The row of the prediction is drawn with its character behind it, every other row as it is. -/
theorem drawn_rows {overlay : SpeculativeEchoOverlay} {prediction : SpeculativeEchoPrediction}
    {row : ClientRow} (hprediction : overlay.prediction = some prediction)
    (hpane : prediction.paneId = surface.paneId) (hversion : prediction.baseVersion = surface.version)
    (hrow : surface.rowData[prediction.row.toNat]? = some row)
    (hcol : row.text.length = prediction.col.toNat) (decoration : PredictionDecoration)
    (style : SpeculativeSurfaceStyle) :
    overlay.renderWithSpeculativeStyle surface decoration style =
      .ok (some (String.intercalate "\n"
        ((List.range (max surface.stored.visibleRowCount (prediction.row.toNat + 1))).map fun row =>
          if row = prediction.row.toNat then
            surface.shownRow style row ++ PredictionDecoration.decorate decoration prediction.text
          else surface.shownRow style row))) := by
  rw [renderWithSpeculativeStyle, hprediction]
  dsimp only
  rw [if_neg (not_or.mpr ⟨not_ne_iff.mpr hpane, not_ne_iff.mpr hversion⟩), hrow]
  dsimp only
  rw [if_neg (not_ne_iff.mpr hcol.symm)]
  have hlt := (List.getElem?_eq_some_iff.mp hrow).1
  have hvisible := visibleRowCount_stored surface
  rw [mapM_eq_map (g := fun row => if row = prediction.row.toNat then
    surface.shownRow style row ++ PredictionDecoration.decorate decoration prediction.text
    else surface.shownRow style row) fun current hcurrent => ?_]
  · rfl
  · have hbound := List.mem_range.mp hcurrent
    rw [renderedRow_eq style (by omega), ok_bind]
    split <;> rfl

end Nmux.Client
