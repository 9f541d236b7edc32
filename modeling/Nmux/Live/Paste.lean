import Nmux.Live.Loop
import Nmux.Lib.Occurrence
import Nmux.Lib.Utf8

/-! Pasted text. A pane that asked for bracketed paste gets the text between two markers; text that
holds the end marker is refused, whether the pane asked or not. The markers overlap neither the text
nor each other, so the end marker the process sees first is the one behind the text. -/
namespace Nmux.Live

open Lib (OccursAt)

/-- `input_summary_from_frame`, for a paste. -/
def pasteSummary (paneId actorId : String) (inputSeq : UInt64) (pasteText : String) : InputSummary where
  paneId := paneId
  actorId := actorId
  inputSeq := inputSeq
  text := pasteText
  bytes := utf8Bytes pasteText
  pasteText := some pasteText
  keyName := none
  keyModifiers := 0
  mouse := none
  requiresFocusReporting := false
  requiresMouseTracking := false

/-- The text holds the end marker. -/
def Terminated (text : String) : Prop := "\x1b[201~".toList <:+: text.toList

def pasteStart : List UInt8 := [0x1b, 0x5b, 0x32, 0x30, 0x30, 0x7e]
def pasteEnd : List UInt8 := [0x1b, 0x5b, 0x32, 0x30, 0x31, 0x7e]

/-- What a paste comes to for the process of a pane. -/
structure Framed (bracketed : Bool) (text : String) (bytes : List UInt8) : Prop where
  plain : bracketed = false → bytes = utf8Bytes text
  marked : bracketed = true → bytes = pasteStart ++ utf8Bytes text ++ pasteEnd
  once : bracketed = true → ∀ place, OccursAt pasteEnd bytes place ↔ place + pasteEnd.length = bytes.length

/-! ### The markers -/

theorem utf8Bytes_pasteStart : utf8Bytes "\x1b[200~" = pasteStart := by
  rw [utf8Bytes, Lib.toUTF8_toList]
  decide

theorem utf8Bytes_pasteEnd : utf8Bytes "\x1b[201~" = pasteEnd := by
  rw [utf8Bytes, Lib.toUTF8_toList]
  decide

theorem pasteEnd_toList : "\x1b[201~".toList = ['\x1b', '[', '2', '0', '1', '~'] := by
  decide

/-- The end marker stands in the bytes of a text when it stands in the text. -/
theorem terminated_of_occurs {text : String} {place : ℕ} (h : OccursAt pasteEnd (utf8Bytes text) place) :
    Terminated text := by
  have hwithin := h.isInfix
  rw [← utf8Bytes_pasteEnd, utf8Bytes, utf8Bytes, Lib.toUTF8_toList, Lib.toUTF8_toList] at hwithin
  have hsmall : ∀ ch ∈ "\x1b[201~".toList, ch.toNat < 0x80 := by
    simp [pasteEnd_toList]
  refine (Lib.encoded_isInfix ?_ hsmall).mp hwithin
  rw [pasteEnd_toList]
  exact List.cons_ne_nil _ _

/-- No end marker begins in the start marker. -/
theorem pasteStart_free {items : List UInt8} {place : ℕ}
    (h : OccursAt pasteEnd (pasteStart ++ items) place) : pasteStart.length ≤ place := by
  by_contra hlt
  obtain ⟨after, hafter⟩ := h
  have hplace : place < 6 := Nat.lt_of_not_le hlt
  interval_cases place <;> simp [pasteStart, pasteEnd] at hafter

theorem framed_once {text : String} (h : ¬ Terminated text) (place : ℕ) :
    OccursAt pasteEnd (pasteStart ++ utf8Bytes text ++ pasteEnd) place ↔
      place + pasteEnd.length = (pasteStart ++ utf8Bytes text ++ pasteEnd).length := by
  rw [List.length_append]
  constructor
  · intro hoccurs
    rcases Lib.occursAt_append_pattern (by decide) hoccurs with hbefore | rfl
    · have hplace := pasteStart_free hbefore
      obtain ⟨back, rfl⟩ := Nat.exists_eq_add_of_le hplace
      rw [← Lib.occursAt_drop, List.drop_left] at hbefore
      exact absurd (terminated_of_occurs hbefore) h
    · rfl
  · intro hplace
    rw [Nat.add_right_cancel hplace, OccursAt, List.drop_left]

/-! ### Encoding -/

theorem pasteInputBytes_terminated {text : String} (h : Terminated text) (bracketed : Bool) :
    pasteInputBytes text bracketed = .error "paste input contains a bracketed paste terminator" := by
  rw [pasteInputBytes, if_pos (String.contains_string_iff.mpr h)]

theorem pasteInputBytes_framed {text : String} (h : ¬ Terminated text) (bracketed : Bool) :
    ∃ bytes, pasteInputBytes text bracketed = .ok bytes ∧ Framed bracketed text bytes := by
  rw [pasteInputBytes, if_neg fun hcontains => h (String.contains_string_iff.mp hcontains),
    utf8Bytes_pasteStart, utf8Bytes_pasteEnd]
  cases bracketed with
  | false => exact ⟨_, rfl, fun _ => rfl, (by simp), (by simp)⟩
  | true => exact ⟨_, rfl, (by simp), fun _ => rfl, fun _ => framed_once h⟩

/-! ### Delivery -/

variable {σ η : Type} (engine : TerminalEngine σ) (host : ProcessHost η)

theorem setEngine_self (daemon : Daemon σ η) (paneId : String) :
    daemon.setEngine paneId (daemon.actor.core.terminalEngines paneId) = daemon := by
  rw [Daemon.setEngine, Function.update_eq_self]

theorem forwardedBytes_paste (session : Session) (state : σ) (paneId actorId : String)
    (inputSeq : UInt64) (text : String) :
    (pasteSummary paneId actorId inputSeq text).forwardedBytes engine session state =
      (pasteInputBytes text (session.paneBracketedPaste paneId), state) := rfl

variable {paneId : String} {pane : Pane} {daemon : Daemon σ η}

theorem paste_known (hpane : daemon.session.pane paneId = some pane) (actorId : String)
    (inputSeq : UInt64) (text : String) :
    ¬ (daemon.session.surfaceVersion (pasteSummary paneId actorId inputSeq text).paneId).isNone = true := by
  rw [Session.surfaceVersion, show (pasteSummary paneId actorId inputSeq text).paneId = paneId from rfl,
    hpane]
  exact Bool.false_ne_true

theorem paste_mode (hpane : daemon.session.pane paneId = some pane) :
    daemon.session.paneBracketedPaste paneId = pane.state.modes.bracketedPaste := by
  rw [Session.paneBracketedPaste, Session.paneModes, hpane]
  rfl

theorem paste_accepted (session : Session) (actorId : String) (inputSeq : UInt64) (text : String) :
    (pasteSummary paneId actorId inputSeq text).forwardingRejection session = none := rfl

/-- Live input that is a paste, on a pane the session has. -/
theorem forwardLiveInput_paste (hpane : daemon.session.pane paneId = some pane)
    (client : LiveAttachedClient) (actorId : String) (inputSeq : UInt64) (text : String)
    (nowMonoMs : UInt64) :
    forwardLiveInput engine host client daemon (pasteSummary paneId actorId inputSeq text) nowMonoMs =
      match pasteInputBytes text pane.state.modes.bracketedPaste with
      | .error message =>
        let answer := client.queueProtocolError .unknown message (some paneId) inputSeq
        (answer.1, answer.2, daemon)
      | .ok bytes =>
        match (daemon.acceptPaneInput engine client.actor.id paneId inputSeq bytes nowMonoMs).writeInput
            host paneId bytes with
        | (.ok _, daemon) => (.ok (), client, daemon)
        | (.error error, daemon) =>
          if inputWriteTargetExited error paneId then (.ok (), client, daemon)
          else
            let answer := client.queueProtocolError .unknown
              ("input forwarding failed: " ++ error.message) (some paneId) inputSeq
            (answer.1, answer.2, daemon) := by
  rw [forwardLiveInput, if_neg (paste_known hpane actorId inputSeq text), paste_accepted]
  dsimp only
  rw [forwardedBytes_paste]
  dsimp only [pasteSummary]
  rw [setEngine_self, paste_mode hpane]
  cases pasteInputBytes text pane.state.modes.bracketedPaste <;> rfl

/-- The same of a client that is not live. -/
theorem forwardOneShotInput_paste (hpane : daemon.session.pane paneId = some pane)
    (stream : ClientStream) (actorId : String) (inputSeq : UInt64) (text : String) :
    (forwardOneShotInput engine host stream daemon (pasteSummary paneId actorId inputSeq text)).2.2 =
      match pasteInputBytes text pane.state.modes.bracketedPaste with
      | .error _ => daemon
      | .ok bytes => (daemon.writeInput host paneId bytes).2 := by
  rw [forwardOneShotInput, if_neg (paste_known hpane actorId inputSeq text), paste_accepted]
  dsimp only
  rw [forwardedBytes_paste]
  dsimp only [pasteSummary]
  rw [setEngine_self, paste_mode hpane]
  cases pasteInputBytes text pane.state.modes.bracketedPaste with
  | error message => rfl
  | ok bytes =>
    dsimp only
    split
    case h_1 heq => rw [heq]
    case h_2 error reached heq =>
      rw [heq]
      exact (apply_ite (fun answer : Except ServeError Bool × ClientStream × Daemon σ η => answer.2.2)
        _ _ _).trans (ite_self _)

theorem forwardLiveInput_paste_host (hpane : daemon.session.pane paneId = some pane)
    (client : LiveAttachedClient) (actorId : String) (inputSeq : UInt64) {text : String}
    {bytes : List UInt8} (hbytes : pasteInputBytes text pane.state.modes.bracketedPaste = .ok bytes)
    (nowMonoMs : UInt64) :
    (forwardLiveInput engine host client daemon (pasteSummary paneId actorId inputSeq text)
      nowMonoMs).2.2.host = (host.writeInput daemon.host paneId bytes).2 := by
  rw [forwardLiveInput_paste engine host hpane, hbytes]
  dsimp only
  have hwritten : ((daemon.acceptPaneInput engine client.actor.id paneId inputSeq bytes
      nowMonoMs).writeInput host paneId bytes).2.host = (host.writeInput daemon.host paneId bytes).2 := rfl
  split
  case h_1 heq => rw [← hwritten, heq]
  case h_2 error reached heq =>
    rw [← hwritten, heq]
    by_cases hexited : inputWriteTargetExited error paneId = true
    · rw [if_pos hexited]
    · rw [if_neg hexited]

/-- **A paste cannot be escaped.** It is refused exactly when its text holds the end marker, and then
nothing is written. What is written otherwise is the text, between the markers when the pane it goes to
asks for them as the paste is delivered, with no other end marker in it. -/
theorem paste_cannot_escape (hpane : daemon.session.pane paneId = some pane)
    (client : LiveAttachedClient) (stream : ClientStream) (actorId : String) (inputSeq : UInt64)
    (text : String) (nowMonoMs : UInt64) (state : σ) :
    let input := pasteSummary paneId actorId inputSeq text
    let live := forwardLiveInput engine host client daemon input nowMonoMs
    let oneShot := forwardOneShotInput engine host stream daemon input
    ((∃ message, (input.forwardedBytes engine daemon.session state).1 = .error message) ↔
        Terminated text) ∧
      (Terminated text → live.2.2 = daemon ∧ oneShot.2.2 = daemon) ∧
      (¬ Terminated text → ∃ bytes, Framed pane.state.modes.bracketedPaste text bytes ∧
        live.2.2.host = (host.writeInput daemon.host paneId bytes).2 ∧
        oneShot.2.2.host = (host.writeInput daemon.host paneId bytes).2) := by
  dsimp only
  rw [forwardedBytes_paste, paste_mode hpane]
  by_cases h : Terminated text
  · have hrefused := pasteInputBytes_terminated h pane.state.modes.bracketedPaste
    refine ⟨⟨fun _ => h, fun _ => ⟨_, hrefused⟩⟩, fun _ => ⟨?_, ?_⟩, fun hfree => absurd h hfree⟩
    · rw [forwardLiveInput_paste engine host hpane, hrefused]
    · rw [forwardOneShotInput_paste engine host hpane, hrefused]
  · obtain ⟨bytes, hbytes, hframed⟩ := pasteInputBytes_framed h pane.state.modes.bracketedPaste
    refine ⟨⟨fun ⟨message, hmessage⟩ => ?_, fun hterminated => absurd hterminated h⟩,
      fun hterminated => absurd hterminated h, fun _ => ⟨bytes, hframed, ?_, ?_⟩⟩
    · dsimp only at hmessage
      rw [hbytes] at hmessage
      cases hmessage
    · exact forwardLiveInput_paste_host engine host hpane client actorId inputSeq hbytes nowMonoMs
    · rw [forwardOneShotInput_paste engine host hpane, hbytes]
      rfl

/-- A host that keeps what is written to it. -/
def recordingHost : ProcessHost (List UInt8) where
  startPane written _ _ := (.ok (), written)
  checkPane written _ := (.ok (), written)
  writeInput written _ bytes := (.ok (), written ++ bytes)
  resizePane written _ _ _ := (.ok (), written)
  stopPane written _ := (.ok (), written)
  tryReadOutput written _ := (.ok [], written)

/-- The first pane has asked for bracketed paste. -/
def pastingDaemon : Daemon InterimAnsiState (List UInt8) :=
  ((Daemon.start interimTextTerminalEngine .initial 16 []).acceptEvent interimTextTerminalEngine
    ⟨"pane-1:pty", .pane, 0, .paneOutput "pane-1" [0x1b, 0x5b, 0x3f, 0x32, 0x30, 0x30, 0x34, 0x68]⟩).1

/-- A text that ends with all of the end marker but its last character. -/
theorem paste_cannot_escape_cut :
    let client := (plainArrival (.attach none plainRequest)).client plainRequest "client-1"
      plainRequest.actor ⟨fun _ => none, 0, []⟩
    Framed true "ls\x1b[201" (forwardLiveInput interimTextTerminalEngine recordingHost client pastingDaemon
      (pasteSummary "pane-1" "actor" 7 "ls\x1b[201") 5).2.2.host := by
  intro client
  have hbracketed : (pastingDaemon.session.pane "pane-1").any (·.state.modes.bracketedPaste) = true := by
    decide +kernel
  obtain ⟨pane, hpane, hmode⟩ := (Option.any_eq_true _ _).mp hbracketed
  have hfree : ¬ Terminated "ls\x1b[201" := by
    unfold Terminated
    decide
  obtain ⟨bytes, hframed, hlive, -⟩ := (paste_cannot_escape interimTextTerminalEngine recordingHost hpane
    client ⟨fun _ => none, 0, []⟩ "actor" 7 "ls\x1b[201" 5 interimTextTerminalEngine.init).2.2 hfree
  rw [hlive]
  rw [hmode] at hframed
  exact hframed

end Nmux.Live
