import Nmux.Control.Reachable
import Nmux.Terminal.Chunks

/-! The scrollback of an interim pane. Whatever a pane has been through, another chunk of output leaves all
its lines but the last as they are, types behind the last one, and shows the end of what it has then;
nothing but text and tabs is typed. -/
namespace Nmux

/-- A line without control characters other than tabs. -/
def Sanitised (line : String) : Prop := ∀ ch ∈ line.toList, isControl ch = true → ch = '\t'

instance (line : String) : Decidable (Sanitised line) := List.decidableBAll _ line.toList

theorem Sanitised.append {front back : String} (h : Sanitised front) (h' : Sanitised back) :
    Sanitised (front ++ back) := by
  intro ch hch
  rw [String.toList_append, List.mem_append] at hch
  exact hch.elim (h ch) (h' ch)

theorem Sanitised.push {line : String} (h : Sanitised line) {ch : Char} (hch : isControl ch = true → ch = '\t') :
    Sanitised (line.push ch) := by
  intro other hother
  rw [String.toList_push, List.mem_append, List.mem_singleton] at hother
  rcases hother with hother | rfl
  · exact h other hother
  · exact hch

/-! ### Lines that grow -/

/-- All lines but the last are as they were, and the last one was typed behind. -/
structure Extends (before after : List String) : Prop where
  kept : ∀ index, index + 1 < before.length → after[index]? = before[index]?
  last : ∀ line, before.getLast? = some line →
    ∃ now, after[before.length - 1]? = some now ∧ line.toList <+: now.toList

theorem Extends.refl (lines : List String) : Extends lines lines where
  kept _ _ := rfl
  last line h := ⟨line, by rw [← h, List.getLast?_eq_getElem?], List.prefix_refl _⟩

theorem Extends.length_le {before after : List String} (h : Extends before after) :
    before.length ≤ after.length := by
  cases hlast : before.getLast? with
  | none =>
    rw [List.getLast?_eq_none_iff.mp hlast]
    exact Nat.zero_le _
  | some line =>
    obtain ⟨now, hnow, -⟩ := h.last line hlast
    obtain ⟨hbound, -⟩ := List.getElem?_eq_some_iff.mp hnow
    omega

theorem Extends.trans {first second third : List String} (h : Extends first second)
    (h' : Extends second third) : Extends first third where
  kept index hindex := by
    have hlength := h.length_le
    rw [h'.kept index (by omega), h.kept index hindex]
  last line hline := by
    obtain ⟨now, hnow, hprefix⟩ := h.last line hline
    have hlength := h.length_le
    by_cases hsame : first.length = second.length
    · rw [hsame, ← List.getLast?_eq_getElem?] at hnow
      obtain ⟨later, hlater, hprefix'⟩ := h'.last now hnow
      exact ⟨later, by rw [hsame, hlater], hprefix.trans hprefix'⟩
    · have hsome : first ≠ [] := by
        rintro rfl
        cases hline
      have hpositive := List.length_pos_iff.mpr hsome
      exact ⟨now, by rw [h'.kept _ (by omega), hnow], hprefix⟩

theorem extends_append (lines more : List String) : Extends lines (lines ++ more) where
  kept index hindex := List.getElem?_append_left (by omega)
  last line hline := by
    have hsome : lines ≠ [] := by
      rintro rfl
      cases hline
    have hpositive := List.length_pos_iff.mpr hsome
    rw [List.getLast?_eq_getElem?] at hline
    exact ⟨line, by rw [List.getElem?_append_left (by omega), hline], List.prefix_refl _⟩

theorem extends_last (front : List String) {line now : String} (h : line.toList <+: now.toList) :
    Extends (front ++ [line]) (front ++ [now]) where
  kept index hindex := by
    rw [List.length_append, List.length_singleton] at hindex
    rw [List.getElem?_append_left (by omega), List.getElem?_append_left (by omega)]
  last last hlast := by
    rw [List.getLast?_concat] at hlast
    cases hlast
    exact ⟨now, by simp, h⟩

namespace LineBuffer

variable {buffer : LineBuffer}

theorem type_extends (h : buffer.Typed) (ch : Char) : Extends buffer.lines (buffer.type ch).lines := by
  unfold type
  split
  · split
    · exact .refl _
    · exact extends_append _ _
  · split
    · obtain ⟨front, line, hlines⟩ : ∃ front line, buffer.lines = front ++ [line] :=
        ⟨_, _, (List.dropLast_append_getLast h.lines_ne).symm⟩
      have hlast : buffer.last = line := by
        rw [last, hlines, List.getLast?_concat, Option.getD_some]
      show Extends buffer.lines (buffer.lines.dropLast ++ [buffer.last.push ch])
      rw [hlast, hlines, List.dropLast_concat]
      refine extends_last front ?_
      rw [String.toList_push]
      exact List.prefix_append _ _
    · exact extends_append _ _

theorem typeText_extends (h : buffer.Typed) (text : List Char) :
    Extends buffer.lines (buffer.typeText text).lines := by
  induction text generalizing buffer with
  | nil => exact .refl _
  | cons ch rest ih => exact (type_extends h ch).trans (ih (type_typed h ch))

/-- All lines are sanitised. -/
def AllSanitised (buffer : LineBuffer) : Prop := ∀ line ∈ buffer.lines, Sanitised line

theorem type_sanitised (h : buffer.AllSanitised) {ch : Char} (hch : Visible ch = true) :
    (buffer.type ch).AllSanitised := by
  unfold type
  by_cases hnewline : ch = '\n'
  · rw [if_pos hnewline]
    split
    · exact h
    · intro line hline
      rcases List.mem_append.mp hline with hline | hline
      · exact h line hline
      · rw [List.mem_singleton.mp hline]
        decide
  · have hkept : isControl ch = true → ch = '\t' := fun hcontrol => by
      simpa [Visible, hnewline, hcontrol] using hch
    rw [if_neg hnewline]
    split
    · intro line hline
      rcases List.mem_append.mp hline with hline | hline
      · exact h line (List.dropLast_subset _ hline)
      · rw [List.mem_singleton.mp hline]
        refine Sanitised.push ?_ hkept
        unfold last
        cases hlast : buffer.lines.getLast? with
        | none => decide
        | some line => exact h line (List.mem_of_getLast? hlast)
    · intro line hline
      rcases List.mem_append.mp hline with hline | hline
      · exact h line hline
      · rw [List.mem_singleton.mp hline]
        exact Sanitised.push (by decide) hkept

theorem typeText_sanitised (h : buffer.AllSanitised) {text : List Char}
    (htext : ∀ ch ∈ text, Visible ch = true) : (buffer.typeText text).AllSanitised := by
  induction text generalizing buffer with
  | nil => exact h
  | cons ch rest ih =>
    exact ih (type_sanitised h (htext ch List.mem_cons_self))
      fun other hother => htext other (List.mem_cons_of_mem _ hother)

end LineBuffer

theorem visibleText_visible (output : List UInt8) : ∀ ch ∈ visibleText output, Visible ch = true :=
  fun _ hch => (List.mem_filter.mp hch).2

/-! ### Mouse modes -/

/-- The mouse is tracked exactly in the modes that track it. -/
def MouseConsistent (modes : TerminalModes) : Prop :=
  modes.mouseTracking = true ↔ modes.mouseTrackingMode ≠ .none

variable {modes : TerminalModes}

theorem MouseConsistent.setTracking (h : MouseConsistent modes) {mode : Protocol.MouseTrackingMode}
    (hmode : mode ≠ .none) (enabled : Bool) : MouseConsistent (setInterimMouseTracking modes mode enabled) := by
  unfold setInterimMouseTracking
  split
  · exact iff_of_true rfl hmode
  · split
    · exact iff_of_false Bool.false_ne_true fun hnone => hnone rfl
    · exact h

theorem MouseConsistent.applyMode (h : MouseConsistent modes) (isPrivate : Bool) (code : Nat)
    (enabled : Bool) : MouseConsistent (applyInterimMode modes isPrivate code enabled) := by
  unfold applyInterimMode
  split
  case h_4 => exact h.setTracking (by decide) enabled
  case h_5 => exact h.setTracking (by decide) enabled
  case h_6 => exact h.setTracking (by decide) enabled
  all_goals first
    | exact h
    | unfold setInterimMouseFormat; split <;> [exact h; (split <;> exact h)]

theorem MouseConsistent.applyModeSet (h : MouseConsistent modes) (params : List UInt8) (enabled : Bool) :
    MouseConsistent (applyInterimModeSet modes params enabled) := by
  unfold applyInterimModeSet
  dsimp only
  generalize splitParams _ = codes
  induction codes generalizing modes with
  | nil => exact h
  | cons code rest ih =>
    refine ih ?_
    dsimp only
    split
    · exact h.applyMode _ _ _
    · exact h

theorem MouseConsistent.consumeByte {out : InterimAnsiOutput} (h : MouseConsistent out.modes) (byte : UInt8) :
    MouseConsistent (consumeByte out byte).modes := by
  have hcsi : ∀ buffer, MouseConsistent (applyInterimCsi out.modes buffer byte) := fun buffer => by
    unfold applyInterimCsi
    split
    · exact h.applyModeSet _ _
    · split
      · exact h.applyModeSet _ _
      · exact h
  obtain ⟨state, text, modes⟩ := out
  cases state <;> simp only [Nmux.consumeByte] <;> (repeat' split) <;> first | exact h | exact hcsi _

theorem MouseConsistent.consume (h : MouseConsistent modes) (state : InterimAnsiState) (bytes : List UInt8) :
    MouseConsistent (consume state bytes modes).modes := by
  have hfold : ∀ (bytes : List UInt8) (out : InterimAnsiOutput), MouseConsistent out.modes →
      MouseConsistent (bytes.foldl Nmux.consumeByte out).modes := by
    intro bytes
    induction bytes with
    | nil => exact fun _ hout => hout
    | cons byte rest ih => exact fun out hout => ih _ (hout.consumeByte byte)
  exact hfold bytes _ h

/-! ### Panes -/

/-- What holds of an interim pane after any events: it has lines to type into, without control
characters, and its mouse modes agree. -/
structure InterimPane (pane : PaneState) : Prop where
  typed : pane.buffer.Typed
  sanitised : pane.buffer.AllSanitised
  mouse : MouseConsistent pane.modes

theorem newPaneFromTemplate_interim {id : String} (hid : Sanitised id) (host : HostSpec) (cols rows : UInt32) :
    InterimPane (newPaneFromTemplate id host cols rows) where
  typed := newPaneFromTemplate_typed id host cols rows
  sanitised := by
    intro line hline
    have hnamed : Sanitised ("nmux " ++ id) := Sanitised.append (by decide) hid
    have hlines : line ∈ ["booting nmux workspace", "nmux " ++ id, "server-owned terminal state"] := hline
    simp only [List.mem_cons, List.not_mem_nil, or_false] at hlines
    rcases hlines with rfl | rfl | rfl
    · decide
    · exact hnamed
    · decide
  mouse := iff_of_false Bool.false_ne_true fun hnone => hnone rfl

/-- An interim update leaves its modes. -/
theorem interimTextUpdate_modes (pane : PaneState) (input : TerminalInput) (modes : TerminalModes)
    (rows : UInt32) (lines : List String) (col : UInt32) (force : Bool) :
    (applyTerminalUpdate pane (interimTextUpdate input modes rows lines col) force).1.modes = modes := by
  rw [applyTerminalUpdate_eq]
  rfl

/-- **Interim panes** stay interim panes. -/
theorem interimPane_invariant : PaneInvariant interimTextTerminalEngine Sanitised InterimPane where
  created id host cols rows hid := newPaneFromTemplate_interim hid host cols rows
  container state axis newPaneId sizes h := ⟨h.typed, h.sanitised, h.mouse⟩
  existing state sizes h := ⟨h.typed, h.sanitised, h.mouse⟩
  policy state policy h := ⟨h.typed, h.sanitised, h.mouse⟩
  output state engineState bytes update hupdate h := by
    cases hupdate
    have hbuffer := mergeInterimPtyOutput_buffer h.typed (consume engineState bytes state.modes).text
    have hlines : (updateStep state (interimTextUpdate state.terminalInput
        (consume engineState bytes state.modes).modes state.rows
        (mergeInterimPtyOutput state.scrollbackLines (0 < state.cursor.col)
          (consume engineState bytes state.modes).text).1
        (mergeInterimPtyOutput state.scrollbackLines (0 < state.cursor.col)
          (consume engineState bytes state.modes).text).2)).buffer =
          state.buffer.typeText (visibleText (consume engineState bytes state.modes).text) :=
      (interimTextUpdate_buffer _ _ _ _ _ _ _).trans hbuffer
    refine ⟨?_, ?_, ?_⟩
    · exact hlines ▸ LineBuffer.typeText_typed h.typed _
    · exact hlines ▸ LineBuffer.typeText_sanitised h.sanitised (visibleText_visible _)
    · exact (interimTextUpdate_modes state _ _ _ _ _ _).symm ▸ h.mouse.consume engineState bytes
  resize state engineState cols rows update hupdate h := by
    cases hupdate
    refine ⟨?_, ?_, ?_⟩
    · exact (interimTextUpdate_buffer _ _ _ _ _ _ _).symm ▸ h.typed
    · exact (interimTextUpdate_buffer _ _ _ _ _ _ _).symm ▸ h.sanitised
    · exact (interimTextUpdate_modes _ _ _ _ _ _ _).symm ▸ h.mouse

theorem coreAfter_interim {events : List PendingSessionEvent}
    (hids : ∀ pending ∈ events, pending.event.MakesOnly Sanitised) :
    (coreAfter events).session.All InterimPane := by
  refine interimPane_invariant.coreAfter (fun node hnode => ?_) hids
  obtain rfl := List.mem_singleton.mp hnode
  have hid : Sanitised "pane-1" := by decide
  have hpane := newPaneFromTemplate_interim hid (.local "local" (.new "sh")) 80 24
  exact ⟨hpane.typed, hpane.sanitised, hpane.mouse⟩

/-- The ids the daemon gives its new panes are sanitised. -/
theorem nextPaneId_sanitised (session : Session) : Sanitised (nextPaneId session) := by
  obtain ⟨number, hname⟩ := nextPaneId_eq session
  have hnumber : Sanitised (toString number) := by
    intro ch hch hcontrol
    have hdigits : (toString number).toList = Nat.toDigits 10 number := Nat.toList_repr
    rw [hdigits] at hch
    have hdigit := Nat.isDigit_of_mem_toDigits (by decide) (by decide) hch
    simp only [Char.isDigit, Bool.and_eq_true, decide_eq_true_eq, ge_iff_le, UInt32.le_iff_toNat_le] at hdigit
    simp only [isControl, Bool.or_eq_true, Bool.and_eq_true, decide_eq_true_eq, Char.toNat] at hcontrol
    have hlow : '0'.val.toNat = 48 := rfl
    have hhigh : '9'.val.toNat = 57 := rfl
    omega
  rw [hname]
  exact Sanitised.append (by decide) hnumber

/-! ### Another chunk -/

/-- The scrollback and the surface of a pane after a chunk, next to what was before. -/
structure ScrollbackAfter (before after : PaneState) : Prop where
  sanitised : ∀ line ∈ after.scrollbackLines, Sanitised line
  grown : Extends before.scrollbackLines after.scrollbackLines
  surface : after.surfaceLines = after.scrollbackLines.drop
    (after.scrollbackLines.length - min after.rows.toNat after.scrollbackLines.length)
  row : after.cursor.row.toNat = after.surfaceLines.length - 1
  col : after.cursor.col = 0 ∨
    ∃ line, after.scrollbackLines.getLast? = some line ∧ after.cursor.col = lineWidth line
  mouse : after.modes.mouseTracking = true ↔ after.modes.mouseTrackingMode ≠ .none

end Nmux
