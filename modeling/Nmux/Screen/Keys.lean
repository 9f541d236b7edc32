import Nmux.Screen.Handlers
import Nmux.Tui.KeySequences

/-! Key sequences at the client. A key that the overlay or the menu has no use for goes to the pane, and
so do the bytes that no key takes. An escape byte is a key of its own, so the sequences the client does
not recognise are taken apart when it closes an overlay or a menu. -/
namespace Nmux.Screen

open Client (SpeculativeEchoOverlay)
open Tui (KeySequence Recognised StdinKeyInput escapeKey keyBytes splitStdinBytesForDetach stdinByteForwards)

/-- What goes to the pane of what is typed. A report of the mouse has no bytes yet. -/
def SentInput.bytes : SentInput → List UInt8
  | .raw _ bytes => bytes
  | .paste _ text => utf8Bytes text
  | .mouse _ _ => []
  | .key _ text => utf8Bytes text

/-- The overlay or the menu takes keys. -/
def Captures (setup : Setup) (client : LiveClient) : Prop :=
  setup.args.redraw = true ∧ setup.args.outputJson = false ∧
    (client.activeOverlay.isSome ∨ client.activeMenuIndex.isSome)

/-- The bytes that go to the pane are the whole sequence or nothing. -/
def TakenWhole (sent : List SentInput) (bytes : List UInt8) : Prop :=
  sent.flatMap SentInput.bytes = bytes ∨ sent.flatMap SentInput.bytes = []

/-- The client detaches at a byte of the sequence. -/
def Detaches (setup : Setup) (bytes : List UInt8) : Prop :=
  ∃ byte ∈ bytes, setup.args.detachKey.byte = some byte

variable {setup : Setup} {moment : Moment} {moments : ℕ → Moment} {client : LiveClient}

/-! ### Paints -/

/-- A frame without an overlay is always painted. -/
theorem paint_ok (setup : Setup) (terminal : UInt32 × UInt32) (client : LiveClient)
    {input : WorkspaceFrameInput} (h : input.overlay = none) :
    ∃ painted, client.paint setup terminal input = .ok { client with painted } := by
  unfold LiveClient.paint
  by_cases hredraw : setup.args.redraw = true ∧ setup.args.stdoutTty = true
  · obtain ⟨frame, hframe, -⟩ := Tui.renderWorkspaceFrame_eq setup.rects input.workspace
      (max (Tui.redrawTerminalArea setup.rects terminal.1 terminal.2).width 1)
      (max (Lib.Word16.saturatingSub (Tui.redrawTerminalArea setup.rects terminal.1 terminal.2).height 1) 1)
    rw [if_pos hredraw, renderWorkspace, renderWorkspaceFrame, h, hframe]
    exact ⟨_, rfl⟩
  · rw [if_neg hredraw]
    exact ⟨client.painted, rfl⟩

theorem printLiveSurface_ok (setup : Setup) (terminal : UInt32 × UInt32) (client : LiveClient) :
    ∃ painted, printLiveSurface setup terminal client = .ok { client with painted } :=
  paint_ok setup terminal client rfl

/-! ### Keys -/

/-- What no overlay and no menu takes is forwarded, but for the keys that open one. -/
theorem handleLiveTuiKey_forward (h : ¬Captures setup client) {key : StdinKeyInput}
    (hkey : ∀ action, key.key ≠ .openMenu action) :
    handleLiveTuiKey setup moment client key = .ok (.forward key.bytes, client) := by
  unfold handleLiveTuiKey
  by_cases hplain : setup.args.outputJson = true ∨ (!setup.args.redraw) = true
  · rw [if_pos hplain]
    rfl
  · obtain ⟨hjson, hredraw⟩ := not_or.mp hplain
    rw [Bool.not_eq_true'] at hredraw
    have hoff : client.activeOverlay = none ∧ client.activeMenuIndex = none := by
      rw [← Option.not_isSome_iff_eq_none, ← Option.not_isSome_iff_eq_none, ← not_or]
      exact fun hon => h ⟨by simpa using hredraw, by simpa using hjson, hon⟩
    rw [if_neg hplain]
    cases hpressed : key.key with
    | openMenu action => exact absurd hpressed (hkey action)
    | escape => simp only [hoff.1, hoff.2]; rfl
    | up | down | left | right | enter | tab | backTab => simp only [hoff.1, hoff.2]; rfl

/-- The escape key closes the overlay, or else the menu. -/
theorem handleLiveTuiKey_escape (h : Captures setup client) :
    ∃ painted, handleLiveTuiKey setup moment client escapeKey =
      .ok (.handled, { client with
        painted
        activeOverlay := none
        activeMenuIndex := if client.activeOverlay.isSome then client.activeMenuIndex else none }) := by
  obtain ⟨hredraw, hjson, hon⟩ := h
  unfold handleLiveTuiKey
  rw [if_neg (by simp [hredraw, hjson])]
  dsimp only [escapeKey]
  by_cases hoverlay : client.activeOverlay.isSome = true
  · rw [if_pos hoverlay]
    obtain ⟨painted, hpaint⟩ := printLiveSurface_ok setup moment.terminal { client with activeOverlay := none }
    exact ⟨painted, by rw [hpaint]; simp only [hoverlay]; rfl⟩
  · have hnone := Option.not_isSome_iff_eq_none.mp hoverlay
    rw [if_neg hoverlay, if_pos (hon.resolve_left hoverlay)]
    obtain ⟨painted, hpaint⟩ :=
      printLiveSurface_ok setup moment.terminal { client with activeMenuIndex := none }
    exact ⟨painted, by rw [hpaint]; simp only [hnone]; rfl⟩

theorem handled_of_bind {x : Except String LiveClient} {handling : LiveKeyHandling} {reached : LiveClient}
    (h : (do return (LiveKeyHandling.handled, ← x)) = Except.ok (handling, reached)) : handling = .handled := by
  obtain ⟨_, -, hpair⟩ := Lib.Check.bind_eq_ok.mp h
  exact (Prod.mk.inj (Except.ok.inj hpair)).1.symm

/-- An active menu without an overlay takes the escape key, the enter key and the tab key. -/
theorem handleLiveTuiKey_menu (hcaptures : Captures setup client) (hoverlay : client.activeOverlay = none)
    {key : StdinKeyInput} (hkey : key.key = .escape ∨ key.key = .enter ∨ key.key = .tab)
    {handling : LiveKeyHandling} {reached : LiveClient}
    (h : handleLiveTuiKey setup moment client key = .ok (handling, reached)) : handling = .handled := by
  obtain ⟨hredraw, hjson, hon⟩ := hcaptures
  obtain ⟨index, hindex⟩ := Option.isSome_iff_exists.mp (hon.resolve_left (by simp [hoverlay]))
  unfold handleLiveTuiKey at h
  rw [if_neg (by simp [hredraw, hjson])] at h
  rcases hkey with hkey | hkey | hkey
  · simp only [hkey, hoverlay, hindex, Option.isSome_none, Option.isSome_some, if_true, if_false,
      Bool.false_eq_true] at h
    exact handled_of_bind h
  all_goals
    simp only [hkey, hoverlay, hindex] at h
    split at h
    · exact handled_of_bind h
    · cases h

/-! ### Bytes -/

theorem forwardRaw_sent (setup : Setup) (moment : Moment) (client : LiveClient) (bytes : List UInt8) :
    (forwardRaw setup moment client bytes).1 = [.raw client.attachedPaneId bytes] := by
  unfold forwardRaw
  dsimp only
  split <;> rfl

/-- What is no printable key is never predicted. -/
theorem renderSpeculativeEcho_unpredictable {text : String} {inputSeq : UInt64}
    (h : ∀ surface, SpeculativeEchoOverlay.predictable surface inputSeq text = none)
    (state : Client.ClientAttachState) (overlay : SpeculativeEchoOverlay) (paneId : String) (styled : Bool) :
    state.renderSpeculativeEcho overlay paneId inputSeq text styled = (.ok none, overlay) := by
  unfold Client.ClientAttachState.renderSpeculativeEcho
  cases state.cachedSurface paneId with
  | none => rfl
  | some surface =>
    dsimp only
    rw [SpeculativeEchoOverlay.predictPrintableKey, h]
    by_cases hpending : overlay.prediction.isSome = true
    · rw [if_pos hpending]
    · rw [if_neg hpending]

/-- An escape byte is never predicted, so the client goes on as it is. -/
theorem renderSpeculativeEcho_escape (state : Client.ClientAttachState) (overlay : SpeculativeEchoOverlay)
    (paneId : String) (inputSeq : UInt64) (styled : Bool) :
    state.renderSpeculativeEcho overlay paneId inputSeq "\x1b" styled = (.ok none, overlay) :=
  renderSpeculativeEcho_unpredictable (fun _ => rfl) state overlay paneId styled

theorem forwardRaw_escape (setup : Setup) (moment : Moment) (client : LiveClient) :
    (forwardRaw setup moment client [0x1b]).2 =
      .ok { client with nextInputSeq := client.nextInputSeq + 1 } := by
  have htext : Tui.fromUtf8 [0x1b] = some "\x1b" := by decide +kernel
  unfold forwardRaw
  rw [htext]
  dsimp only
  unfold repaintSpeculativeEcho
  by_cases henabled : (!stdinBytesSpeculativeEchoEnabled setup.args) = true
  · rw [if_pos henabled]
    rfl
  · rw [if_neg henabled, renderSpeculativeEcho_escape]
    rfl

/-- A key that goes to the pane goes there as it was typed. -/
theorem handleLiveTuiKey_bytes {key : StdinKeyInput} {bytes : List UInt8} {reached : LiveClient}
    (h : handleLiveTuiKey setup moment client key = .ok (.forward bytes, reached)) :
    bytes = key.bytes ∧ reached = client := by
  have hhandled {x : Except String LiveClient}
      (h : (do return (LiveKeyHandling.handled, ← x)) = Except.ok (.forward bytes, reached)) : False := by
    cases handled_of_bind h
  unfold handleLiveTuiKey at h
  split at h
  · cases h
    exact ⟨rfl, rfl⟩
  · split at h
    · split at h
      · exact (hhandled h).elim
      · split at h
        · exact (hhandled h).elim
        · cases h
          exact ⟨rfl, rfl⟩
    · exact (hhandled h).elim
    · split at h
      · split at h
        · exact (hhandled h).elim
        · exact (hhandled h).elim
        · exact (hhandled h).elim
        · exact (hhandled h).elim
        · split at h
          · exact (hhandled h).elim
          · cases h
        · cases h
          exact ⟨rfl, rfl⟩
      · split at h
        · dsimp only at h
          split at h
          · cases h
            exact ⟨rfl, rfl⟩
          · split at h
            · exact (hhandled h).elim
            · cases h
        · cases h
          exact ⟨rfl, rfl⟩

/-- Nothing of a mouse report is sent as bytes. -/
theorem handleLiveMouse_bytes {mouse : Tui.SgrMouseInput} {sent : List SentInput} {reached : LiveClient}
    (h : handleLiveMouse setup moment client mouse = .ok (sent, reached)) :
    sent.flatMap SentInput.bytes = [] := by
  have hnothing {x : Except String LiveClient}
      (h : (do return (([] : List SentInput), ← x)) = Except.ok (sent, reached)) : sent = [] := by
    obtain ⟨_, -, hpair⟩ := Lib.Check.bind_eq_ok.mp h
    exact (Prod.mk.inj (Except.ok.inj hpair)).1.symm
  obtain ⟨dispatch, -, h⟩ := Lib.Check.bind_eq_ok.mp h
  cases dispatch with
  | none => cases h; rfl
  | some dispatch =>
    cases dispatch with
    | focusPane paneId =>
      obtain ⟨focused, -, hpair⟩ := Lib.Check.bind_eq_ok.mp h
      cases hpair
      rfl
    | paneMouse paneId input => cases h; rfl
    | paneScroll paneId direction visibleRows =>
      obtain ⟨scrolled, -, hpair⟩ := Lib.Check.bind_eq_ok.mp h
      cases hpair
      rfl
    | menu action => rw [hnothing h]; rfl
    | overlay action => rw [hnothing h]; rfl
    | clearOverlay =>
      dsimp only at h
      split at h
      · rw [hnothing h]
        rfl
      · split at h
        · rw [hnothing h]
          rfl
        · cases h
          rfl

/-! ### One read -/

/-- The detach byte in a key sequence is the character behind the escape byte. -/
theorem eq_of_detaches {bytes : List UInt8} (hbytes : KeySequence bytes) (h : Detaches setup bytes) :
    setup.args.detachKey = .ctrlRightBracket ∧ bytes = [0x1b, 0x1d] := by
  obtain ⟨byte, hbyte, hdetach⟩ := h
  cases hkey : setup.args.detachKey with
  | none =>
    rw [hkey] at hdetach
    cases hdetach
  | ctrlRightBracket =>
    rw [hkey] at hdetach
    obtain rfl : Tui.stdinBytesDetach = byte := Option.some.inj hdetach
    refine ⟨rfl, ?_⟩
    cases hbytes with
    | escape => exact absurd hbyte (by decide)
    | character ch =>
      have hmem := (List.mem_cons.mp hbyte).resolve_left (by decide)
      rw [(Lib.utf8EncodeChar_of_small hmem (by decide)).2]
      rfl
    | control hintroducer hparams hintermediates hfinal =>
      have hlow {low byte : UInt8} (hle : low ≤ byte) (heq : byte = Tui.stdinBytesDetach)
          (hlt : Tui.stdinBytesDetach < low) : False :=
        absurd (heq ▸ hle) (UInt8.not_le.mpr hlt)
      rcases List.mem_cons.mp hbyte with hbyte | hbyte
      · exact absurd hbyte (by decide)
      · rcases List.mem_cons.mp hbyte with hbyte | hbyte
        · rcases hintroducer with rfl | rfl <;> exact absurd hbyte (by decide)
        · rcases List.mem_append.mp hbyte with hbyte | hbyte
          · rcases List.mem_append.mp hbyte with hbyte | hbyte
            · exact (hlow (hparams _ hbyte).1 rfl (by decide)).elim
            · exact (hlow (hintermediates _ hbyte).1 rfl (by decide)).elim
          · exact (hlow hfinal.1 (List.mem_singleton.mp hbyte).symm (by decide)).elim

theorem splitStdinBytesForDetach_of_not {bytes : List UInt8} (h : ¬Detaches setup bytes) :
    splitStdinBytesForDetach bytes setup.args.detachKey.byte = (some bytes, false) := by
  unfold splitStdinBytesForDetach
  cases hkey : setup.args.detachKey.byte with
  | none => rfl
  | some detachByte =>
    have hnone : bytes.findIdx? (fun byte => byte == detachByte) = none := by
      rw [List.findIdx?_eq_none_iff]
      intro byte hbyte
      rw [beq_eq_false_iff_ne]
      exact fun heq => h ⟨byte, hbyte, by rw [hkey, heq]⟩
    simp only [hnone]

theorem sentForRead_one {bytes : List UInt8} {forward : Tui.StdinByteForward} (h : ¬Detaches setup bytes)
    (hforward : stdinByteForwards bytes = [forward]) :
    sentForRead setup moments client bytes = (handleForward setup (moments 0) client forward).1 := by
  unfold sentForRead
  rw [splitStdinBytesForDetach_of_not h]
  dsimp only
  rw [hforward]
  show (handleForwards setup [(moments 0, forward)] client).1 = _
  unfold handleForwards
  generalize handleForward setup (moments 0) client forward = handled
  obtain ⟨sent, reached⟩ := handled
  cases reached with
  | error error => rfl
  | ok reached => exact List.append_nil sent

theorem sentForRead_two {bytes : List UInt8} {first second : Tui.StdinByteForward} {sent : List SentInput}
    {reached : LiveClient} (h : ¬Detaches setup bytes)
    (hforwards : stdinByteForwards bytes = [first, second])
    (hfirst : handleForward setup (moments 0) client first = (sent, .ok reached)) :
    sentForRead setup moments client bytes =
      sent ++ (handleForward setup (moments 1) reached second).1 := by
  unfold sentForRead
  rw [splitStdinBytesForDetach_of_not h]
  dsimp only
  rw [hforwards]
  show (handleForwards setup [(moments 0, first), (moments 1, second)] client).1 = _
  rw [handleForwards, hfirst]
  dsimp only
  congr 1
  unfold handleForwards
  generalize handleForward setup (moments 1) reached second = handled
  obtain ⟨sent, reached⟩ := handled
  cases reached with
  | error error => rfl
  | ok reached => exact List.append_nil sent

/-! ### The escape key -/

theorem captures_escape_iff (h : Captures setup client) (painted : Option PaintedFrame) :
    Captures setup { client with
        painted
        activeOverlay := none
        activeMenuIndex := if client.activeOverlay.isSome then client.activeMenuIndex else none } ↔
      client.activeOverlay.isSome = true ∧ client.activeMenuIndex.isSome = true := by
  obtain ⟨hredraw, hjson, -⟩ := h
  constructor
  · rintro ⟨-, -, hon⟩
    have hmenu := hon.resolve_left (by simp)
    dsimp only at hmenu
    split at hmenu
    case isTrue hoverlay => exact ⟨hoverlay, hmenu⟩
    case isFalse => cases hmenu
  · rintro ⟨hoverlay, hmenu⟩
    exact ⟨hredraw, hjson, .inr (by dsimp only; rw [if_pos hoverlay]; exact hmenu)⟩

theorem handleForward_escape (h : Captures setup client) :
    ∃ painted, handleForward setup moment client (.key escapeKey) = ([], .ok { client with
        painted
        activeOverlay := none
        activeMenuIndex := if client.activeOverlay.isSome then client.activeMenuIndex else none }) := by
  obtain ⟨painted, hkey⟩ := @handleLiveTuiKey_escape setup moment client h
  exact ⟨painted, by unfold handleForward; dsimp only; rw [hkey]⟩

theorem handleForward_escape_forward (h : ¬Captures setup client) :
    handleForward setup moment client (.key escapeKey) =
      ([.raw client.attachedPaneId [0x1b]], .ok { client with nextInputSeq := client.nextInputSeq + 1 }) := by
  have hkey := @handleLiveTuiKey_forward setup moment client h escapeKey (fun action heq => by cases heq)
  unfold handleForward
  dsimp only
  rw [hkey]
  exact Prod.ext (forwardRaw_sent setup moment client [0x1b]) (forwardRaw_escape setup moment client)

/-- What no overlay and no menu takes is sent. -/
theorem handleForward_key_sent (h : ¬Captures setup client) {key : StdinKeyInput}
    (hkey : ∀ action, key.key ≠ .openMenu action) :
    (handleForward setup moment client (.key key)).1 = [.raw client.attachedPaneId key.bytes] := by
  unfold handleForward
  dsimp only
  rw [handleLiveTuiKey_forward h hkey]
  exact forwardRaw_sent setup moment client key.bytes

/-- A key is sent as it was typed, or not at all. -/
theorem handleForward_key_bytes (setup : Setup) (moment : Moment) (client : LiveClient) (key : StdinKeyInput) :
    TakenWhole (handleForward setup moment client (.key key)).1 key.bytes := by
  unfold handleForward
  dsimp only
  cases hkey : handleLiveTuiKey setup moment client key with
  | error error => exact .inr rfl
  | ok handled =>
    obtain ⟨handling, reached⟩ := handled
    cases handling with
    | handled => exact .inr rfl
    | forward bytes =>
      obtain ⟨rfl, rfl⟩ := handleLiveTuiKey_bytes hkey
      dsimp only
      rw [forwardRaw_sent]
      exact .inl (List.append_nil _)

theorem handleForward_mouse_bytes (setup : Setup) (moment : Moment) (client : LiveClient)
    (mouse : Tui.SgrMouseInput) :
    (handleForward setup moment client (.mouse mouse)).1.flatMap SentInput.bytes = [] := by
  unfold handleForward
  dsimp only
  cases hmouse : handleLiveMouse setup moment client mouse with
  | error error => rfl
  | ok handled =>
    obtain ⟨sent, reached⟩ := handled
    exact handleLiveMouse_bytes hmouse

theorem raw_bytes (paneId : String) (bytes : List UInt8) :
    [SentInput.raw paneId bytes].flatMap SentInput.bytes = bytes :=
  List.append_nil bytes

/-! ### Whole sequences -/

/-- What the client recognises is sent whole or not at all. -/
theorem takenWhole_of_recognised {bytes : List UInt8} (h : ¬Detaches setup bytes)
    (hrecognised : Recognised bytes) : TakenWhole (sentForRead setup moments client bytes) bytes := by
  rcases hrecognised.forwards with ⟨mouse, hforward⟩ | ⟨key, hforward, hkey⟩ | hforward
  · rw [sentForRead_one h hforward]
    exact .inr (handleForward_mouse_bytes setup (moments 0) client mouse)
  · rw [sentForRead_one h hforward, ← hkey]
    exact handleForward_key_bytes setup (moments 0) client key
  · rw [sentForRead_one h hforward]
    unfold handleForward
    dsimp only
    rw [forwardRaw_sent]
    exact .inl (raw_bytes _ _)

/-- Where nothing captures the keys, the parts of a split sequence all go to the pane. -/
theorem takenWhole_of_not_captures {bytes : List UInt8} (hbytes : KeySequence bytes)
    (h : ¬Detaches setup bytes) (hcaptures : ¬Captures setup client) (hnot : ¬Recognised bytes) :
    TakenWhole (sentForRead setup moments client bytes) bytes := by
  obtain ⟨rest, rfl, hne, ⟨hquiet, hforwards⟩ | ⟨byte, hbyte, key, rfl, hforwards, hkey⟩⟩ :=
    hbytes.split hnot
  · rw [sentForRead_two h hforwards (handleForward_escape_forward hcaptures)]
    left
    unfold handleForward
    dsimp only
    rw [forwardRaw_sent, List.flatMap_append, raw_bytes, raw_bytes]
    rfl
  · rw [sentForRead_two h hforwards (handleForward_escape_forward hcaptures)]
    left
    have hmenu : ∀ action, key ≠ .openMenu action := by
      rcases hkey with rfl | rfl | rfl <;> exact fun action heq => by cases heq
    have hstill : ¬Captures setup { client with nextInputSeq := client.nextInputSeq + 1 } := hcaptures
    have hsent := @handleForward_key_sent setup (moments 1) _ hstill ⟨key, [byte]⟩ hmenu
    rw [hsent, List.flatMap_append, raw_bytes, raw_bytes]
    rfl

/-- An overlay over an active menu takes both keys of an escape byte and a key by itself. -/
theorem takenWhole_of_both {bytes : List UInt8} (h : ¬Detaches setup bytes)
    (hcaptures : Captures setup client) {key : Tui.StdinKey}
    (hkey : key = .escape ∨ key = .enter ∨ key = .tab) {byte : UInt8}
    (hforwards : stdinByteForwards bytes = [.key escapeKey, .key ⟨key, [byte]⟩])
    (hoverlay : client.activeOverlay.isSome = true) (hmenu : client.activeMenuIndex.isSome = true) :
    sentForRead setup moments client bytes = [] := by
  obtain ⟨painted, hescape⟩ := @handleForward_escape setup (moments 0) client hcaptures
  rw [sentForRead_two h hforwards hescape, List.nil_append]
  have hstill := (captures_escape_iff hcaptures painted).mpr ⟨hoverlay, hmenu⟩
  unfold handleForward
  dsimp only
  cases hhandled : handleLiveTuiKey setup (moments 1) _ ⟨key, [byte]⟩ with
  | error error => rfl
  | ok handled =>
    obtain ⟨handling, reached⟩ := handled
    obtain rfl := handleLiveTuiKey_menu hstill rfl hkey hhandled
    rfl

/-- The escape key closes an overlay or a menu, and the rest of the sequence goes to the pane. -/
theorem sentForRead_rest {bytes rest : List UInt8} (hbytes : bytes = 0x1b :: rest)
    (h : ¬Detaches setup bytes) (hcaptures : Captures setup client)
    (hparts : stdinByteForwards bytes = [.key escapeKey, .raw rest] ∨
      ¬(client.activeOverlay.isSome = true ∧ client.activeMenuIndex.isSome = true) ∧
        ∃ byte key, rest = [byte] ∧ stdinByteForwards bytes = [.key escapeKey, .key ⟨key, [byte]⟩] ∧
          (key = .escape ∨ key = .enter ∨ key = .tab)) :
    (sentForRead setup moments client bytes).flatMap SentInput.bytes = rest := by
  obtain ⟨painted, hescape⟩ := @handleForward_escape setup (moments 0) client hcaptures
  rcases hparts with hforwards | ⟨hboth, byte, key, rfl, hforwards, hkey⟩
  · rw [sentForRead_two h hforwards hescape, List.nil_append]
    unfold handleForward
    dsimp only
    rw [forwardRaw_sent, raw_bytes]
  · rw [sentForRead_two h hforwards hescape, List.nil_append]
    have hmenu : ∀ action, key ≠ .openMenu action := by
      rcases hkey with rfl | rfl | rfl <;> exact fun action heq => by cases heq
    have hsent := @handleForward_key_sent setup (moments 1) _
      ((captures_escape_iff hcaptures painted).not.mpr hboth) ⟨key, [byte]⟩ hmenu
    rw [hsent, raw_bytes]

/-- At a detach byte the escape byte before it is sent if nothing takes the escape key. -/
theorem sentForRead_detach (hkey : setup.args.detachKey = .ctrlRightBracket) :
    sentForRead setup moments client [0x1b, 0x1d] =
      (handleForward setup (moments 0) client (.key escapeKey)).1 := by
  have hsplit : splitStdinBytesForDetach [0x1b, 0x1d] (Tui.DetachKey.byte .ctrlRightBracket) =
      (some [0x1b], true) := by decide
  have hforwards : stdinByteForwards [0x1b] = [.key escapeKey] := by decide +kernel
  unfold sentForRead
  rw [hkey, hsplit]
  dsimp only
  rw [hforwards]
  show (handleForwards setup [(moments 0, .key escapeKey)] client).1 = _
  unfold handleForwards
  generalize handleForward setup (moments 0) client (.key escapeKey) = handled
  obtain ⟨sent, reached⟩ := handled
  cases reached with
  | error error => rfl
  | ok reached => exact List.append_nil sent

/-- **When a key sequence is taken whole.** Of a sequence in one read the pane gets all bytes or none
exactly when no overlay and no menu takes keys, or the client recognises the sequence, or an overlay
over an active menu takes an escape byte and a key behind it. Before a detach byte the pane gets the
escape byte unless the overlay or the menu takes it. -/
theorem takenWhole_iff (setup : Setup) (moments : ℕ → Moment) (client : LiveClient) {bytes : List UInt8}
    (hbytes : KeySequence bytes) :
    TakenWhole (sentForRead setup moments client bytes) bytes ↔
      (Detaches setup bytes ∧ Captures setup client) ∨
        (¬Detaches setup bytes ∧ (¬Captures setup client ∨ Recognised bytes ∨
          (client.activeOverlay.isSome = true ∧ client.activeMenuIndex.isSome = true ∧
            ∃ byte ∈ keyBytes, bytes = [0x1b, byte]))) := by
  by_cases hdetach : Detaches setup bytes
  · obtain ⟨hkey, rfl⟩ := eq_of_detaches hbytes hdetach
    rw [sentForRead_detach hkey]
    by_cases hcaptures : Captures setup client
    · obtain ⟨painted, hescape⟩ := @handleForward_escape setup (moments 0) client hcaptures
      rw [hescape]
      exact iff_of_true (.inr rfl) (.inl ⟨hdetach, hcaptures⟩)
    · rw [handleForward_escape_forward hcaptures]
      refine iff_of_false ?_ ?_
      · rw [TakenWhole, raw_bytes]
        decide
      · rintro (⟨-, h⟩ | ⟨h, -⟩)
        · exact hcaptures h
        · exact h hdetach
  · have hgoal : (Detaches setup bytes ∧ Captures setup client) ∨ (¬Detaches setup bytes ∧
        (¬Captures setup client ∨ Recognised bytes ∨ (client.activeOverlay.isSome = true ∧
          client.activeMenuIndex.isSome = true ∧ ∃ byte ∈ keyBytes, bytes = [0x1b, byte]))) ↔
        (¬Captures setup client ∨ Recognised bytes ∨ (client.activeOverlay.isSome = true ∧
          client.activeMenuIndex.isSome = true ∧ ∃ byte ∈ keyBytes, bytes = [0x1b, byte])) := by
      rw [or_iff_right (fun h => hdetach h.1), and_iff_right hdetach]
    rw [hgoal]
    by_cases hrecognised : Recognised bytes
    · exact iff_of_true (takenWhole_of_recognised hdetach hrecognised) (.inr (.inl hrecognised))
    by_cases hcaptures : Captures setup client
    swap
    · exact iff_of_true (takenWhole_of_not_captures hbytes hdetach hcaptures hrecognised) (.inl hcaptures)
    obtain ⟨rest, hrest, hne, hparts⟩ := hbytes.split hrecognised
    -- the rest alone is neither nothing nor the sequence
    have hpart (hsent : (sentForRead setup moments client bytes).flatMap SentInput.bytes = rest) :
        ¬TakenWhole (sentForRead setup moments client bytes) bytes := by
      rw [TakenWhole, hsent, hrest]
      exact not_or.mpr ⟨fun h => absurd (congrArg List.length h) (by simp), hne⟩
    rcases hparts with ⟨hquiet, hforwards⟩ | ⟨byte, hbyte, key, hone, hforwards, hkey⟩
    · refine iff_of_false (hpart (sentForRead_rest hrest hdetach hcaptures (.inl hforwards))) ?_
      rintro (h | h | ⟨-, -, byte, hbyte, heq⟩)
      · exact h hcaptures
      · exact hrecognised h
      · rw [hrest] at heq
        exact hquiet byte ((List.cons.inj heq).2 ▸ List.mem_singleton_self byte) hbyte
    · by_cases hboth : client.activeOverlay.isSome = true ∧ client.activeMenuIndex.isSome = true
      · refine iff_of_true (.inr ?_) (.inr (.inr ⟨hboth.1, hboth.2, byte, hbyte, by rw [hrest, hone]⟩))
        rw [takenWhole_of_both hdetach hcaptures hkey hforwards hboth.1 hboth.2]
        rfl
      · refine iff_of_false
          (hpart (sentForRead_rest hrest hdetach hcaptures (.inr ⟨hboth, byte, key, hone, hforwards, hkey⟩))) ?_
        rintro (h | h | ⟨hoverlay, hmenu, -⟩)
        · exact h hcaptures
        · exact hrecognised h
        · exact hboth ⟨hoverlay, hmenu⟩

/-! ### A menu that is open -/

/-- A buffer in which nothing is drawn. -/
def blankCanvas : Canvas where
  text _ _ _ cols rows := "\n".intercalate (List.replicate rows.toNat ("".pushn ' ' cols.toNat))

/-- A client that redraws a terminal, with the detach key it has by default. -/
def redrawSetup : Setup where
  rects := Tui.limitedRects
  canvas := blankCanvas
  args := ⟨false, true, true, true, false, .off, .ctrlRightBracket⟩
  actorId := "cli"

/-- A daemon that answers nothing. -/
def silentMoment : Moment where
  terminal := (100, 21)
  socketScope := none
  answers := {
    newSession := .error "daemon closed"
    tabSwitch _ := .error "daemon closed"
    sessionInventory := .error "daemon closed"
    attach _ := .error "daemon closed"
    scrollback _ _ _ _ := .error "daemon closed" }

/-- A client whose menu of windows is open. -/
def windowsClient : LiveClient where
  attachedPaneId := "pane-2"
  currentWorkspace := Tui.splitWorkspace
  surfaceState := ⟨.default, TerminalModes.default, "", .empty, .empty, .empty, .empty⟩
  clientState := .default
  speculativeEcho := .default
  clientInventory := .empty
  nextInputSeq := 1
  pendingPing := none
  activeMenuIndex := some 2
  activeOverlay := some Tui.windowsOverlay
  painted := none

/-- The page-up key closes the menu and types the rest of its sequence into the pane. -/
theorem pageUp_split : KeySequence [0x1b, 0x5b, 0x35, 0x7e] ∧
    (sentForRead redrawSetup (fun _ => silentMoment) windowsClient [0x1b, 0x5b, 0x35, 0x7e]).flatMap
      SentInput.bytes = [0x5b, 0x35, 0x7e] ∧
    ¬TakenWhole (sentForRead redrawSetup (fun _ => silentMoment) windowsClient [0x1b, 0x5b, 0x35, 0x7e])
      [0x1b, 0x5b, 0x35, 0x7e] := by
  have hsequence : KeySequence (0x1b :: 0x5b :: ([0x35] ++ [] ++ [0x7e])) :=
    .control (.inr rfl) (by simp) (by simp) (by decide)
  have hsent := @sentForRead_rest redrawSetup (fun _ => silentMoment) windowsClient
    [0x1b, 0x5b, 0x35, 0x7e] [0x5b, 0x35, 0x7e] rfl
    (by rintro ⟨byte, hbyte, heq⟩; cases heq; exact absurd hbyte (by decide))
    ⟨rfl, rfl, .inl rfl⟩ (.inl (by decide +kernel))
  refine ⟨hsequence, hsent, ?_⟩
  rw [TakenWhole, hsent]
  decide

/-- The up arrow is taken whole by the menu. -/
theorem up_takenWhole :
    TakenWhole (sentForRead redrawSetup (fun _ => silentMoment) windowsClient [0x1b, 0x5b, 0x41])
      [0x1b, 0x5b, 0x41] := by
  have hsequence : KeySequence (0x1b :: 0x5b :: ([] ++ [] ++ [0x41])) :=
    .control (.inr rfl) (by simp) (by simp) (by decide)
  refine (takenWhole_iff redrawSetup (fun _ => silentMoment) windowsClient hsequence).mpr (.inr ⟨?_, ?_⟩)
  · rintro ⟨byte, hbyte, heq⟩
    cases heq
    exact absurd hbyte (by decide)
  · exact .inr (.inl (@Recognised.key ([0x1b, 0x5b, 0x41], .up) (by decide)))

end Nmux.Screen
