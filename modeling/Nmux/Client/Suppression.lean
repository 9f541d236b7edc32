import Nmux.Client.Predictions

/-! Suppressed predictions. Two misses with neither a confirmation nor a refused key between them
refuse the next three keys that could have been predicted, and no more. -/
namespace Nmux.Client

open SpeculativeEchoOverlay

namespace EchoClient

variable {client : EchoClient}

/-! ### Counting misses -/

/-- Suppression begins with the second miss, and no prediction is pending then. -/
structure Counted (client : EchoClient) : Prop where
  misses : client.overlay.consecutiveMisses ≤ 2
  idle : client.overlay.consecutiveMisses = 2 → client.overlay.prediction = none

theorem finding_of_none {event : EchoEvent} (h : client.overlay.prediction = none) :
    client.finding event = .noPrediction := by
  cases event with
  | key => rfl
  | update update => rw [finding, SpeculativeEchoOverlay.finding, h]

theorem step_update_overlay (update : SurfaceUpdate) :
    (client.step (.update update)).overlay = (client.overlay.reconcileUpdate update).2 := by
  rw [step]
  split <;> rfl

/-- Without a prediction, an event that offers none changes nothing. -/
theorem step_idle {event : EchoEvent} (h : client.overlay.prediction = none)
    (hoffered : client.offered event = none) : (client.step event).overlay = client.overlay := by
  cases event with
  | key paneId inputSeq text styled => rw [step_key, hoffered]
  | update update => rw [step_update_overlay, reconcileUpdate, SpeculativeEchoOverlay.finding, h]

theorem counted_step {event : EchoEvent} (h : client.Counted) : (client.step event).Counted := by
  cases event with
  | key paneId inputSeq text styled =>
    have hkey := @step_key client paneId inputSeq text styled
    cases hoffered : client.offered (.key paneId inputSeq text styled) with
    | none =>
      rw [hoffered] at hkey
      exact ⟨hkey ▸ h.misses, hkey ▸ h.idle⟩
    | some prediction =>
      rw [hoffered] at hkey
      dsimp only at hkey
      split at hkey
      case isTrue =>
        rw [recordSuppressedPredictableKey] at hkey
        split at hkey
        · exact ⟨by rw [hkey]; exact Nat.zero_le 2, fun _ => by rw [hkey]; exact (offered_some hoffered).1⟩
        · exact ⟨by rw [hkey]; exact h.misses, by rw [hkey]; exact h.idle⟩
      case isFalse hallowed =>
        refine ⟨by rw [hkey]; exact h.misses, fun htwo => ?_⟩
        rw [hkey] at htwo
        refine absurd ?_ hallowed
        rw [predictionSuppressed, show client.overlay.consecutiveMisses = 2 from htwo]
        rfl
  | update update =>
    have hreconcile := @step_update_overlay client update
    cases hpending : client.overlay.prediction with
    | none =>
      have hsame := @step_idle client (.update update) hpending rfl
      exact ⟨hsame ▸ h.misses, hsame ▸ h.idle⟩
    | some pending =>
      have hone : client.overlay.consecutiveMisses ≤ 1 := by
        have := h.misses
        by_contra hmore
        have hidle := h.idle (by omega)
        rw [hpending] at hidle
        cases hidle
      rw [reconcileUpdate] at hreconcile
      have hmisses : (client.step (.update update)).overlay.consecutiveMisses ≤ 1 ∨
          (client.step (.update update)).overlay.consecutiveMisses = 2 ∧
            (client.step (.update update)).overlay.prediction = none := by
        rw [hreconcile]
        cases client.overlay.finding update with
        | noPrediction => exact .inl hone
        | pending => exact .inl hone
        | rebased => exact .inl hone
        | confirmed => exact .inl (Nat.zero_le 1)
        | displaced => exact .inl hone
        | mismatched =>
          show satAddU8 client.overlay.consecutiveMisses ≤ 1 ∨
            satAddU8 client.overlay.consecutiveMisses = 2 ∧ _
          rw [satAddU8]
          rcases Nat.le_one_iff_eq_zero_or_eq_one.mp hone with hzero | hone
          · rw [hzero]
            exact .inl (by decide)
          · rw [hone]
            exact .inr ⟨by decide, rfl⟩
      rcases hmisses with hmisses | ⟨hmisses, hidle⟩
      · exact ⟨by omega, fun htwo => by omega⟩
      · exact ⟨by omega, fun _ => hidle⟩

theorem counted_run {state : ClientAttachState} {events : List EchoEvent} :
    (Lib.run step (start state) events).Counted := by
  refine List.foldlRecOn events step ⟨Nat.zero_le 2, nofun⟩ fun client h event _ => counted_step h

/-- Neither a confirmation nor a miss. -/
def Unsettled (client : EchoClient) (event : EchoEvent) : Prop :=
  client.finding event ≠ .confirmed ∧ client.finding event ≠ .mismatched

/-- Nor a key that could have been predicted and is not. -/
def Between (client : EchoClient) (event : EchoEvent) : Prop :=
  client.Unsettled event ∧ ¬ client.Refuses event

/-- `count` keys have been refused since predictions were suppressed. -/
def Recovering (client : EchoClient) (count : ℕ) : Prop :=
  client.overlay = if count < 3 then ⟨none, 2, count⟩ else ⟨none, 0, 0⟩

theorem Recovering.idle {count : ℕ} (h : client.Recovering count) :
    client.overlay.prediction = none := by
  rw [Recovering] at h
  split at h <;> rw [h]

/-- A key that is offered while predictions are suppressed is refused. -/
theorem Recovering.offered {count : ℕ} {event : EchoEvent} {prediction : SpeculativeEchoPrediction}
    (h : client.Recovering count) (hcount : count < 3) (hoffered : client.offered event = some prediction) :
    (client.step event).Recovering (count + 1) := by
  cases event with
  | update update => cases hoffered
  | key paneId inputSeq text styled =>
    rw [Recovering, if_pos hcount] at h
    rw [Recovering, step_key, hoffered, h]
    dsimp only
    rw [if_pos (by rfl), recordSuppressedPredictableKey]
    have hsum : satAddU8 count = count + 1 := by
      rw [satAddU8]
      omega
    dsimp only
    rw [hsum]
    by_cases hlast : count = 2
    · subst hlast
      rfl
    · rw [if_neg (by rw [recoveryPredictableKeys]; omega), if_pos (by omega)]

/-- The keys that are offered after suppression began are refused, up to the third. -/
theorem Recovering.run {count : ℕ} {events : List EchoEvent} (h : client.Recovering count)
    (hcount : count + client.offers events ≤ 3) :
    (Lib.run step client events).Recovering (count + client.offers events) := by
  induction events generalizing client count with
  | nil => exact h
  | cons event rest ih =>
    rw [offers] at hcount ⊢
    cases hoffered : client.offered event with
    | none =>
      rw [hoffered, if_pos rfl, Nat.zero_add] at hcount
      rw [if_pos rfl, Nat.zero_add]
      exact ih (by rw [Recovering, step_idle h.idle hoffered]; exact h) hcount
    | some prediction =>
      rw [hoffered, if_neg (Option.some_ne_none prediction), ← Nat.add_assoc] at hcount
      rw [if_neg (Option.some_ne_none prediction), ← Nat.add_assoc]
      exact ih (h.offered (by omega) hoffered) hcount

theorem step_mismatched {event : EchoEvent} (h : client.finding event = .mismatched) :
    (client.step event).overlay = ⟨none, satAddU8 client.overlay.consecutiveMisses, 0⟩ := by
  cases event with
  | key => cases h
  | update update => rw [step_update_overlay, reconcileUpdate, show client.overlay.finding update = _ from h]; rfl

/-- One miss is remembered as long as nothing settles a prediction. -/
theorem between_one {events : List EchoEvent} (h : client.overlay.consecutiveMisses = 1)
    (hbetween : Lib.Along step Between client events) :
    (Lib.run step client events).overlay.consecutiveMisses = 1 := by
  refine hbetween.invariant (I := fun client => client.overlay.consecutiveMisses = 1) ?_ h
  rintro client event hone ⟨⟨hconfirmed, hmismatched⟩, -⟩
  cases event with
  | key paneId inputSeq text styled =>
    rw [step_key]
    split
    · exact hone
    · rw [if_neg (by rw [predictionSuppressed, hone]; decide)]
      exact hone
  | update update =>
    rw [finding] at hconfirmed hmismatched
    rw [step_update_overlay, reconcileUpdate]
    cases hfinding : client.overlay.finding update with
    | confirmed => exact absurd hfinding hconfirmed
    | mismatched => exact absurd hfinding hmismatched
    | noPrediction => exact hone
    | pending => exact hone
    | rebased => exact hone
    | displaced => exact hone

/-- While predictions are suppressed and no key is refused, none is pending. -/
theorem between_two {events : List EchoEvent} (h : client.overlay.consecutiveMisses = 2)
    (hidle : client.overlay.prediction = none) (hbetween : Lib.Along step Between client events) :
    (Lib.run step client events).overlay.prediction = none := by
  refine (hbetween.invariant (I := fun client => client.overlay.consecutiveMisses = 2 ∧
    client.overlay.prediction = none) ?_ ⟨h, hidle⟩).2
  rintro client event ⟨htwo, hidle⟩ ⟨-, hrefuses⟩
  cases hoffered : client.offered event with
  | none => exact (step_idle hidle hoffered).symm ▸ ⟨htwo, hidle⟩
  | some prediction =>
    refine absurd ⟨by rw [hoffered]; nofun, ?_⟩ hrefuses
    cases event with
    | update update => cases hoffered
    | key paneId inputSeq text styled =>
      rw [step_key, hoffered]
      dsimp only
      rw [if_pos (by rw [predictionSuppressed, htwo]; rfl), recordSuppressedPredictableKey]
      split <;> exact hidle

/-- The second of two misses suppresses predictions. -/
theorem recovering_of_misses {missed again : EchoEvent} {between : List EchoEvent}
    (hcounted : client.Counted) (hmissed : client.finding missed = .mismatched)
    (hbetween : Lib.Along step Between (client.step missed) between)
    (hagain : (Lib.run step (client.step missed) between).finding again = .mismatched) :
    ((Lib.run step (client.step missed) between).step again).Recovering 0 := by
  have hfirst := step_mismatched hmissed
  have hone : (Lib.run step (client.step missed) between).overlay.consecutiveMisses = 1 := by
    have hmisses := (counted_step hcounted : (client.step missed).Counted).misses
    rw [hfirst] at hmisses
    rcases Nat.lt_or_eq_of_le hmisses with hlt | htwo
    · refine between_one ?_ hbetween
      rw [hfirst]
      show satAddU8 client.overlay.consecutiveMisses = 1
      dsimp only at hlt
      rw [satAddU8] at hlt ⊢
      omega
    · have hnone := between_two (by rw [hfirst]; exact htwo) (by rw [hfirst]) hbetween
      rw [finding_of_none hnone] at hagain
      cases hagain
  rw [Recovering, step_mismatched hagain, hone]
  rfl

/-- The second of two misses refuses exactly the next three keys that could be predicted. `between` is
what may happen between the two. -/
def Suppresses (between : EchoClient → EchoEvent → Prop) (client : EchoClient) : Prop :=
  ∀ missed middle again after key prediction, client.finding missed = .mismatched →
    Lib.Along step between (client.step missed) middle →
    (Lib.run step (client.step missed) middle).finding again = .mismatched →
    let suppressed := (Lib.run step (client.step missed) middle).step again
    (Lib.run step suppressed after).offered key = some prediction →
      (suppressed.offers after < 3 → (Lib.run step suppressed after).Refuses key) ∧
      (suppressed.offers after = 3 →
        ((Lib.run step suppressed after).step key).overlay.prediction = some prediction)

theorem Counted.suppresses (h : client.Counted) : client.Suppresses Between := by
  intro missed middle again after key prediction hmissed hmiddle hagain suppressed hoffered
  have hrecovering : suppressed.Recovering 0 := recovering_of_misses h hmissed hmiddle hagain
  constructor
  · intro hfew
    have hreached := @Recovering.run _ _ after hrecovering (by omega)
    rw [Nat.zero_add] at hreached
    exact ⟨by rw [hoffered]; nofun, (hreached.offered hfew hoffered).idle⟩
  · intro hthree
    have hreached := @Recovering.run _ _ after hrecovering (by omega)
    rw [Nat.zero_add, hthree, Recovering, if_neg (Nat.lt_irrefl 3)] at hreached
    cases key with
    | update update => cases hoffered
    | key paneId inputSeq text styled =>
      rw [step_key, hoffered, hreached]
      rfl

/-! ### Every run -/

/-- What holds of the speculative echo of a client. `between` is what may happen between two misses that
suppress predictions. -/
structure Faithful (between : EchoClient → EchoEvent → Prop) (client : EchoClient) : Prop where
  /-- The prediction is of the version drawn, at the end of a row that is what it was predicted from. -/
  pending : client.Pending
  /-- The surface is drawn with the character behind that row, and with nothing else changed. -/
  drawn : ∀ prediction surface, client.overlay.prediction = some prediction →
    client.state.cachedSurface prediction.paneId = some surface → ∀ decoration style,
      surface.Authoritative style (String.intercalate "\n"
        ((List.range surface.stored.visibleRowCount).map (surface.shownRow style))) ∧
      client.overlay.renderWithSpeculativeStyle surface decoration style =
        .ok (some (String.intercalate "\n"
          ((List.range (max surface.stored.visibleRowCount (prediction.row.toNat + 1))).map fun row =>
            if row = prediction.row.toNat then
              surface.shownRow style row ++ PredictionDecoration.decorate decoration prediction.text
            else surface.shownRow style row)))
  /-- A confirmation is what the newer surface shows. -/
  confirmed : ∀ update, client.Takes (.update update) →
    (client.overlay.reconcileUpdate update).1 = .confirmed →
      ∃ prediction surface row ch, client.overlay.prediction = some prediction ∧
        (client.step (.update update)).state.cachedSurface prediction.paneId = some surface ∧
        prediction.baseVersion < surface.version ∧
        surface.rowData[prediction.row.toNat]? = some row ∧
        row.text.toList[prediction.col.toNat]? = some ch ∧ prediction.text = String.singleton ch
  /-- What is not confirmed is gone or still pending. -/
  unconfirmed : ∀ update prediction, client.overlay.prediction = some prediction →
    (client.overlay.reconcileUpdate update).2.prediction = none ∨ ∃ version,
      (client.overlay.reconcileUpdate update).2.prediction =
        some { prediction with baseVersion := version }
  suppresses : client.Suppresses between

/-- **Speculative echo shows nothing that is not the surface and one character.** In every state a
client reaches by keys and updates, a pending prediction is of the version it is drawn on and stands at
the end of an unwritten row; a confirmation is read off the newer surface; and two misses without a
confirmation or a refused key between them refuse the next three keys. -/
theorem speculative_echo_faithful {state : ClientAttachState} {events : List EchoEvent}
    (h : Lib.Along step Takes (start state) events) :
    (Lib.run step (start state) events).Faithful Between where
  pending := pending_run h
  drawn := by
    intro prediction surface hprediction hcached decoration style
    obtain ⟨_, row, hsurface, hversion, hrow, hcol⟩ := (pending_run h prediction hprediction).surface
    obtain rfl := Option.some.inj (hcached.symm.trans hsurface)
    have hpane : surface.paneId = prediction.paneId := by
      simpa using List.find?_some hcached
    exact ⟨authoritative_rows surface style,
      drawn_rows hprediction hpane.symm hversion hrow hcol decoration style⟩
  confirmed := fun update htakes hconfirmed => confirmed_shows (pending_run h) htakes hconfirmed
  unconfirmed := fun update prediction hprediction => unconfirmed_kept hprediction
  suppresses := counted_run.suppresses

/-! ### Misses on both sides of a recovery -/

/-- A client at the end of the row `ab`. -/
def typing : ClientAttachState where
  scope := none
  surfaces := [{
    paneId := "pane-1"
    version := 1
    cols := 80
    rows := 1
    surface := .main
    cursor := some ⟨0, 2, true, .block, false⟩
    modes := TerminalModes.default
    title := ""
    workingDirectory := ""
    colors := .default
    styles := defaultStyleSummaries
    hyperlinks := []
    rowData := [{ ClientRow.empty with text := "ab" }] }]
  scrollbacks := []

/-- The server answers with another row than the predicted one. -/
def answered (base : UInt64) (text : String) : EchoEvent :=
  .update {
    kind := .patch
    paneId := "pane-1"
    version := base + 1
    baseVersion := some base
    patchKind := some .replaceRows
    cols := none
    rows := none
    surface := none
    cursor := some ⟨0, UInt32.ofNat text.length, true, .block, false⟩
    modes := TerminalModes.default
    title := ""
    workingDirectory := ""
    colors := none
    rowUpdates := [⟨0, text, [], 0, 0, .none, true, false⟩]
    styles := []
    hyperlinks := []
    text }

def typed (inputSeq : UInt64) : EchoEvent := .key "pane-1" inputSeq "c" false

theorem typed_takes : Lib.Along step Takes (start typing) [typed 1, answered 1 "abX", typed 2] := by
  refine ⟨trivial, ⟨⟨_, rfl⟩, fun _ base hbase => ?_⟩, trivial, trivial⟩
  obtain rfl := Option.some.inj hbase
  decide

theorem typed_faithful :
    (Lib.run step (start typing) [typed 1, answered 1 "abX", typed 2]).Faithful Between :=
  speculative_echo_faithful typed_takes

/-- The misses before and after a recovery suppress nothing: two more are needed. -/
theorem recovered_misses_forgiven : ¬ ∀ state events, Lib.Along step Takes (start state) events →
    (Lib.run step (start state) events).Faithful Unsettled := by
  intro h
  have hsuppresses := (h typing [typed 1, answered 1 "abX", typed 2] typed_takes).suppresses
    (answered 2 "abXX") [typed 3, typed 4, typed 5, typed 6] (answered 3 "abXXX") [] (typed 7)
    ⟨"pane-1", 4, 7, 0, 5, "c"⟩ (by decide +kernel)
    ⟨⟨nofun, nofun⟩, ⟨nofun, nofun⟩, ⟨nofun, nofun⟩, ⟨nofun, nofun⟩, trivial⟩ (by decide +kernel)
    (by decide +kernel)
  exact absurd (hsuppresses.1 (by decide +kernel)).2 (by decide +kernel)

end EchoClient

end Nmux.Client
