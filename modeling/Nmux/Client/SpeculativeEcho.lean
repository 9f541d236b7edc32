import Nmux.Client.Atomic
import Nmux.Client.AttachState

/-! Speculative echo. A printable key typed at the end of a row is shown at once, before the server
has answered it; the next updates of the pane confirm the prediction or take it back. Two misses
suppress further predictions until a few keys that could have been predicted have passed. -/
namespace Nmux.Client

open Protocol (SurfaceKind)

structure SpeculativeEchoPrediction where
  paneId : String
  baseVersion : UInt64
  inputSeq : UInt64
  row : UInt32
  col : UInt32
  text : String
deriving DecidableEq, Repr

/-- The two counters are bytes that saturate. -/
structure SpeculativeEchoOverlay where
  prediction : Option SpeculativeEchoPrediction
  consecutiveMisses : ℕ
  suppressedPredictableKeys : ℕ
deriving DecidableEq, Repr

inductive SpeculativeEchoReconcile where
  | noPrediction | pending | confirmed | mismatched
deriving DecidableEq, Repr

inductive PredictionDecoration where
  | plain | underlined
deriving DecidableEq, Repr

inductive SpeculativeSurfaceStyle where
  | plainText | structuredSgr
deriving DecidableEq, Repr

def satAddU8 (count : ℕ) : ℕ := min (count + 1) 255

def isControlChar (ch : Char) : Bool :=
  ch.toNat < 0x20 || (0x7f ≤ ch.toNat && ch.toNat ≤ 0x9f)

def singlePredictableChar (text : String) : Option Char :=
  match text.toList with
  | [ch] => if isControlChar ch || 0x80 ≤ ch.toNat then none else some ch
  | _ => none

namespace SpeculativeEchoOverlay

def default : SpeculativeEchoOverlay := ⟨none, 0, 0⟩

def maxConsecutiveMisses : ℕ := 2
def recoveryPredictableKeys : ℕ := 3

/-! ### Suppression -/

def predictionSuppressed (overlay : SpeculativeEchoOverlay) : Bool :=
  maxConsecutiveMisses ≤ overlay.consecutiveMisses

def recordSuppressedPredictableKey (overlay : SpeculativeEchoOverlay) : SpeculativeEchoOverlay :=
  if recoveryPredictableKeys ≤ satAddU8 overlay.suppressedPredictableKeys then
    { overlay with consecutiveMisses := 0, suppressedPredictableKeys := 0 }
  else { overlay with suppressedPredictableKeys := satAddU8 overlay.suppressedPredictableKeys }

/-! ### Rendering -/

/-- The text of a row without the prediction. -/
def renderedRow (surface : ClientPaneSurface) (style : SpeculativeSurfaceStyle) (row : ℕ) :
    Except String String :=
  match style with
  | .plainText => indexed surface.stored.rowText row
  | .structuredSgr => surface.stored.renderStyledRow row

def PredictionDecoration.decorate (decoration : PredictionDecoration) (text : String) : String :=
  match decoration with
  | .plain => text
  | .underlined => "\x1b[4m" ++ text ++ "\x1b[24m"

def renderWithSpeculativeStyle (overlay : SpeculativeEchoOverlay) (surface : ClientPaneSurface)
    (decoration : PredictionDecoration) (style : SpeculativeSurfaceStyle) :
    Except String (Option String) :=
  match overlay.prediction with
  | none => return none
  | some prediction =>
    if prediction.paneId ≠ surface.paneId ∨ prediction.baseVersion ≠ surface.version then return none
    else
      match surface.rowData[prediction.row.toNat]? with
      | none => return none
      | some row =>
        if prediction.col.toNat ≠ row.text.length then return none
        else do
          let visibleRows := max surface.stored.visibleRowCount (prediction.row.toNat + 1)
          let rows ← (List.range visibleRows).mapM fun currentRow => do
            let rendered ← renderedRow surface style currentRow
            return if currentRow = prediction.row.toNat then
              rendered ++ PredictionDecoration.decorate decoration prediction.text else rendered
          return some (String.intercalate "\n" rows)

def render (overlay : SpeculativeEchoOverlay) (surface : ClientPaneSurface) :
    Except String (Option String) :=
  overlay.renderWithSpeculativeStyle surface .plain .plainText

def renderUnderlined (overlay : SpeculativeEchoOverlay) (surface : ClientPaneSurface) :
    Except String (Option String) :=
  overlay.renderWithSpeculativeStyle surface .underlined .plainText

def renderUnderlinedStyled (overlay : SpeculativeEchoOverlay) (surface : ClientPaneSurface) :
    Except String (Option String) :=
  overlay.renderWithSpeculativeStyle surface .underlined .structuredSgr

/-! ### Predicting -/

/-- The prediction a key gives, when none is pending and nothing suppresses it. -/
def predictable (surface : ClientPaneSurface) (inputSeq : UInt64) (text : String) :
    Option SpeculativeEchoPrediction := do
  let ch ← singlePredictableChar text
  let cursor ← surface.cursor
  if surface.surface ≠ .main ∨ cursor.visible = false ∨ cursor.row ≥ surface.rows ∨
      cursor.col ≥ surface.cols then none
  else
    let row ← surface.rowData[cursor.row.toNat]?
    if cursor.col.toNat ≠ row.text.length ∨ cursor.col + 1 > surface.cols then none
    else some ⟨surface.paneId, surface.version, inputSeq, cursor.row, cursor.col, String.singleton ch⟩

def predictPrintableKey (overlay : SpeculativeEchoOverlay) (surface : ClientPaneSurface)
    (inputSeq : UInt64) (text : String) : Except String (Option String) × SpeculativeEchoOverlay :=
  if overlay.prediction.isSome then (.ok none, overlay)
  else
    match predictable surface inputSeq text with
    | none => (.ok none, overlay)
    | some prediction =>
      if overlay.predictionSuppressed then (.ok none, overlay.recordSuppressedPredictableKey)
      else
        let overlay := { overlay with prediction := some prediction }
        (overlay.render surface, overlay)

/-! ### Reconciling -/

/-- What an update says about the prediction, by the function of the source that answers. -/
inductive Finding where
  | noPrediction | pending | rebased | confirmed | mismatched | displaced
deriving DecidableEq, Repr

def finding (overlay : SpeculativeEchoOverlay) (update : SurfaceUpdate) : Finding :=
  match overlay.prediction with
  | none => .noPrediction
  | some prediction =>
    if prediction.paneId ≠ update.paneId then .pending
    else if update.kind = .snapshot ∨ update.surface.any (· != .main) then .mismatched
    else if update.version ≤ prediction.baseVersion then .pending
    else if update.cursor.any (fun cursor => cursor.row != prediction.row || cursor.col < prediction.col)
    then .displaced
    else
      match update.rowUpdates.find? (·.row == prediction.row) with
      | none => .rebased
      | some row =>
        match row.text.toList[prediction.col.toNat]? with
        | some ch => if String.singleton ch = prediction.text then .confirmed else .mismatched
        | none => .displaced

def rebasePendingPrediction (overlay : SpeculativeEchoOverlay) (update : SurfaceUpdate) :
    SpeculativeEchoReconcile × SpeculativeEchoOverlay :=
  (.pending, { overlay with
    prediction := overlay.prediction.map fun prediction =>
      { prediction with baseVersion := update.version } })

def clearConfirmed (_overlay : SpeculativeEchoOverlay) :
    SpeculativeEchoReconcile × SpeculativeEchoOverlay := (.confirmed, ⟨none, 0, 0⟩)

def clearMismatched (overlay : SpeculativeEchoOverlay) :
    SpeculativeEchoReconcile × SpeculativeEchoOverlay :=
  (.mismatched, ⟨none, satAddU8 overlay.consecutiveMisses, 0⟩)

/-- A prediction whose place is gone is no miss. -/
def clearDisplaced (overlay : SpeculativeEchoOverlay) :
    SpeculativeEchoReconcile × SpeculativeEchoOverlay :=
  (.mismatched, ⟨none, overlay.consecutiveMisses, 0⟩)

def reconcileUpdate (overlay : SpeculativeEchoOverlay) (update : SurfaceUpdate) :
    SpeculativeEchoReconcile × SpeculativeEchoOverlay :=
  match overlay.finding update with
  | .noPrediction => (.noPrediction, overlay)
  | .pending => (.pending, overlay)
  | .rebased => overlay.rebasePendingPrediction update
  | .confirmed => overlay.clearConfirmed
  | .mismatched => overlay.clearMismatched
  | .displaced => overlay.clearDisplaced

end SpeculativeEchoOverlay

/-- `render_speculative_echo`: the surface of the pane with the key just typed, if it is predicted. -/
def ClientAttachState.renderSpeculativeEcho (state : ClientAttachState)
    (overlay : SpeculativeEchoOverlay) (paneId : String) (inputSeq : UInt64) (text : String)
    (styled : Bool) : Except String (Option String) × SpeculativeEchoOverlay :=
  match state.cachedSurface paneId with
  | none => (.ok none, overlay)
  | some surface =>
    match overlay.predictPrintableKey surface inputSeq text with
    | (.ok (some _), overlay) =>
      (if styled then overlay.renderUnderlinedStyled surface else overlay.renderUnderlined surface, overlay)
    | answer => answer

end Nmux.Client
