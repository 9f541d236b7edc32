import Nmux.Core.PaneInvariant
import Nmux.Terminal.Lines
import Nmux.Terminal.Panes

/-! Terminal output in chunks. A pane of the interim engine that is fed chunks comes to show the text of
its chunks, typed behind what it showed; fed all their bytes at once it comes to show the text of these.
The parser does not mind the cuts, so the two differ exactly where a cut takes a character or a newline of
two bytes of the emitted text apart. -/
namespace Nmux

open Lib (run)

/-! ### One chunk -/

/-- What a pane shows: its surface lines, its scrollback lines, its cursor, its modes and its title. -/
structure PaneScreen where
  surfaceLines : List String
  scrollbackLines : List String
  cursor : Cursor
  modes : TerminalModes
  title : String
deriving DecidableEq, Repr

namespace PaneState

def screen (pane : PaneState) : PaneScreen where
  surfaceLines := pane.surfaceLines
  scrollbackLines := pane.scrollbackLines
  cursor := pane.cursor
  modes := pane.modes
  title := pane.terminalTitle

/-- The lines of a pane as the next chunk finds them. -/
def buffer (pane : PaneState) : LineBuffer where
  lines := pane.scrollbackLines
  unfinished := 0 < pane.cursor.col

/-- What the pane shows once its lines are these. -/
def shows (pane : PaneState) (buffer : LineBuffer) (modes : TerminalModes) : PaneScreen where
  surfaceLines := (buffer.lines.drop (buffer.lines.length - pane.rows.toNat)).take pane.rows.toNat
  scrollbackLines := buffer.lines
  cursor := { pane.cursor with
    row := UInt32.ofNat ((buffer.lines.drop (buffer.lines.length - pane.rows.toNat)).length - 1)
    col := buffer.col }
  modes
  title := pane.terminalTitle

end PaneState

namespace TerminalPane

/-- Chunks of output, one after the other. -/
def outputs (terminal : TerminalPane InterimAnsiState) (chunks : List (List UInt8)) :
    TerminalPane InterimAnsiState :=
  chunks.foldl (output interimTextTerminalEngine) terminal

/-- The text the parser emits for each chunk. -/
def emitted (state : InterimAnsiState) (modes : TerminalModes) : List (List UInt8) → List (List UInt8)
  | [] => []
  | chunk :: rest =>
    (consume state chunk modes).text ::
      emitted (consume state chunk modes).state (consume state chunk modes).modes rest

theorem emitted_flatten (state : InterimAnsiState) (modes : TerminalModes) (chunks : List (List UInt8)) :
    (emitted state modes chunks).flatten = (consume state chunks.flatten modes).text := by
  induction chunks generalizing state modes with
  | nil => rfl
  | cons chunk rest ih =>
    rw [emitted, List.flatten_cons, List.flatten_cons, ih, consume_append]

variable {terminal : TerminalPane InterimAnsiState}

/-- The lines a chunk leaves. -/
def typed (terminal : TerminalPane InterimAnsiState) (chunk : List UInt8) : LineBuffer :=
  terminal.pane.buffer.typeText (visibleText (consume terminal.state chunk terminal.pane.modes).text)

theorem output_eq (h : terminal.pane.buffer.Typed) (chunk : List UInt8) :
    terminal.output interimTextTerminalEngine chunk =
      ⟨(applyTerminalUpdate terminal.pane (interimTextUpdate terminal.pane.terminalInput
          (consume terminal.state chunk terminal.pane.modes).modes terminal.pane.rows
          (terminal.typed chunk).lines (terminal.typed chunk).col) false).1,
        (consume terminal.state chunk terminal.pane.modes).state⟩ := by
  have hmerge : mergeInterimPtyOutput terminal.pane.terminalInput.scrollbackLines
      (0 < terminal.pane.terminalInput.cursor.col)
      (consume terminal.state chunk terminal.pane.terminalInput.modes).text =
        ((terminal.typed chunk).lines, (terminal.typed chunk).col) := mergeInterimPtyOutput_eq h.lines_ne _ _
  show TerminalPane.mk (applyTerminalUpdate _ (interimTextUpdate _ _ _
    (mergeInterimPtyOutput _ _ _).1 (mergeInterimPtyOutput _ _ _).2) false).1 _ = _
  rw [hmerge]
  rfl

theorem output_state (h : terminal.pane.buffer.Typed) (chunk : List UInt8) :
    (terminal.output interimTextTerminalEngine chunk).state =
      (consume terminal.state chunk terminal.pane.modes).state := by
  rw [output_eq h]

theorem output_modes (h : terminal.pane.buffer.Typed) (chunk : List UInt8) :
    (terminal.output interimTextTerminalEngine chunk).pane.modes =
      (consume terminal.state chunk terminal.pane.modes).modes := by
  rw [output_eq h, applyTerminalUpdate_eq]
  rfl

theorem output_screen (h : terminal.pane.buffer.Typed) (chunk : List UInt8) :
    (terminal.output interimTextTerminalEngine chunk).pane.screen =
      terminal.pane.shows (terminal.typed chunk) (consume terminal.state chunk terminal.pane.modes).modes := by
  rw [output_eq h, applyTerminalUpdate_eq]
  rfl

/-- A chunk changes what the pane shows, and not how it would show other lines. -/
theorem output_shows (h : terminal.pane.buffer.Typed) (chunk : List UInt8) :
    (terminal.output interimTextTerminalEngine chunk).pane.shows = terminal.pane.shows := by
  rw [output_eq h, applyTerminalUpdate_eq]
  rfl

theorem typed_typed (h : terminal.pane.buffer.Typed) (chunk : List UInt8) : (terminal.typed chunk).Typed :=
  LineBuffer.typeText_typed h _

/-- **The next chunk finds the lines as the last one left them.** -/
theorem output_buffer (h : terminal.pane.buffer.Typed) (chunk : List UInt8) :
    (terminal.output interimTextTerminalEngine chunk).pane.buffer = terminal.typed chunk := by
  have hlines : (terminal.output interimTextTerminalEngine chunk).pane.scrollbackLines =
      (terminal.typed chunk).lines := congrArg PaneScreen.scrollbackLines (output_screen h chunk)
  have hcol : (terminal.output interimTextTerminalEngine chunk).pane.cursor.col =
      (terminal.typed chunk).col := congrArg (fun screen => screen.cursor.col) (output_screen h chunk)
  unfold PaneState.buffer
  rw [hlines, hcol]
  exact LineBuffer.of_col (typed_typed h chunk)

/-! ### Chunks -/

/-- **What a pane shows after chunks** is the text of the chunks, typed behind what it showed. -/
theorem outputs_screen (h : terminal.pane.buffer.Typed) (first : List UInt8) (rest : List (List UInt8)) :
    (terminal.outputs (first :: rest)).pane.screen =
      terminal.pane.shows
        (terminal.pane.buffer.typeText (cutText (emitted terminal.state terminal.pane.modes (first :: rest))))
        (consume terminal.state (first :: rest).flatten terminal.pane.modes).modes := by
  induction rest generalizing terminal first with
  | nil =>
    show (terminal.output interimTextTerminalEngine first).pane.screen = _
    rw [output_screen h, List.flatten_singleton]
    show _ = terminal.pane.shows (terminal.pane.buffer.typeText (visibleText _ ++ [])) _
    rw [List.append_nil]
    rfl
  | cons second rest ih =>
    have htyped : (terminal.output interimTextTerminalEngine first).pane.buffer.Typed := by
      rw [output_buffer h]
      exact typed_typed h first
    show ((terminal.output interimTextTerminalEngine first).outputs (second :: rest)).pane.screen = _
    rw [ih htyped, output_shows h, output_buffer h, output_state h, output_modes h]
    have hcut : cutText (emitted terminal.state terminal.pane.modes (first :: second :: rest)) =
        visibleText (consume terminal.state first terminal.pane.modes).text ++
          cutText (emitted (consume terminal.state first terminal.pane.modes).state
            (consume terminal.state first terminal.pane.modes).modes (second :: rest)) := rfl
    have hflatten : (first :: second :: rest).flatten = first ++ (second :: rest).flatten := rfl
    rw [hcut, LineBuffer.typeText_append, hflatten, consume_append]
    rfl

/-- Two texts typed behind the same lines show the same only if they are of one length. -/
theorem length_of_shows_eq {pane : PaneState} (h : pane.buffer.Typed) {first second : List Char}
    {modes modes' : TerminalModes} (hshows : pane.shows (pane.buffer.typeText first) modes =
      pane.shows (pane.buffer.typeText second) modes') : first.length = second.length := by
  have hlines : (pane.buffer.typeText first).lines = (pane.buffer.typeText second).lines :=
    congrArg PaneScreen.scrollbackLines hshows
  have hcol : (pane.buffer.typeText first).col = (pane.buffer.typeText second).col :=
    congrArg (fun screen => screen.cursor.col) hshows
  have hopen : (pane.buffer.typeText first).unfinished = (pane.buffer.typeText second).unfinished := by
    rw [Bool.eq_iff_iff, ← LineBuffer.col_pos (LineBuffer.typeText_typed h first),
      ← LineBuffer.col_pos (LineBuffer.typeText_typed h second), hcol]
  have hbuffer : pane.buffer.typeText first = pane.buffer.typeText second := by
    cases hfirst : pane.buffer.typeText first with
    | mk lines unfinished =>
      cases hsecond : pane.buffer.typeText second with
      | mk lines' unfinished' =>
        rw [hfirst, hsecond] at hlines hopen
        obtain rfl : lines = lines' := hlines
        obtain rfl : unfinished = unfinished' := hopen
        rfl
  have hsize := congrArg LineBuffer.size hbuffer
  rw [LineBuffer.typeText_size h, LineBuffer.typeText_size h] at hsize
  omega

/-- **Chunks show what all their bytes at once show** exactly if the cuts are clean. -/
theorem outputs_iff (h : terminal.pane.buffer.Typed) (first : List UInt8) (rest : List (List UInt8)) :
    (terminal.outputs (first :: rest)).pane.screen =
        (terminal.outputs [(first :: rest).flatten]).pane.screen ↔
      CleanCuts (emitted terminal.state terminal.pane.modes (first :: rest)) := by
  have hwhole : cutText (emitted terminal.state terminal.pane.modes [(first :: rest).flatten]) =
      visibleText (emitted terminal.state terminal.pane.modes (first :: rest)).flatten := by
    rw [emitted_flatten]
    exact List.append_nil _
  obtain ⟨-, hclean, htext⟩ := cutText_length (emitted terminal.state terminal.pane.modes (first :: rest))
  rw [outputs_screen h, outputs_screen h, hwhole, List.flatten_singleton]
  constructor
  · intro hshows
    exact hclean (length_of_shows_eq h hshows)
  · intro hcuts
    rw [htext hcuts]

end TerminalPane

/-! ### Panes of a session -/

/-- Every pane has lines, and an open last line that is not empty. -/
def Session.AllTyped (session : Session) : Prop := ∀ node ∈ session.nodes, node.state.buffer.Typed

theorem newPaneFromTemplate_typed (id : String) (host : HostSpec) (cols rows : UInt32) :
    (newPaneFromTemplate id host cols rows).buffer.Typed :=
  ⟨List.cons_ne_nil _ _, nofun⟩

/-- An interim update leaves the lines it was made for. -/
theorem interimTextUpdate_buffer (pane : PaneState) (input : TerminalInput) (modes : TerminalModes)
    (rows : UInt32) (lines : List String) (col : UInt32) (force : Bool) :
    (applyTerminalUpdate pane (interimTextUpdate input modes rows lines col) force).1.buffer =
      ⟨lines, 0 < col⟩ := by
  rw [applyTerminalUpdate_eq]
  rfl

/-- Lines that can be typed into stay such lines. -/
theorem typed_invariant :
    PaneInvariant interimTextTerminalEngine (fun _ => True) fun pane => pane.buffer.Typed where
  created id host cols rows _ := newPaneFromTemplate_typed id host cols rows
  container _ _ _ _ h := h
  existing _ _ h := h
  policy _ _ h := h
  output state engineState bytes update hupdate h := by
    cases hupdate
    have hbuffer := mergeInterimPtyOutput_buffer h (consume engineState bytes state.modes).text
    show ((applyTerminalUpdate state (interimTextUpdate _ _ _ (mergeInterimPtyOutput _ _ _).1
      (mergeInterimPtyOutput _ _ _).2) false).1.buffer).Typed
    rw [interimTextUpdate_buffer]
    exact hbuffer ▸ LineBuffer.typeText_typed h _
  resize state engineState cols rows update hupdate h := by
    cases hupdate
    show ((applyTerminalUpdate _ (interimTextUpdate _ _ _ _ _) true).1.buffer).Typed
    rw [interimTextUpdate_buffer]
    exact h

/-- What every event keeps holds after all of them. -/
theorem PaneInvariant.coreAfter {okId : String → Prop} {holds : PaneState → Prop}
    (h : PaneInvariant interimTextTerminalEngine okId holds) (hinit : Session.initial.All holds)
    {events : List PendingSessionEvent} (hids : ∀ pending ∈ events, pending.event.MakesOnly okId) :
    (coreAfter events).session.All holds := by
  have hcore : (SessionCore.new interimTextTerminalEngine Session.initial).session.All holds := hinit
  unfold Nmux.coreAfter
  generalize SessionCore.new interimTextTerminalEngine Session.initial = core at hcore
  induction events generalizing core with
  | nil => exact hcore
  | cons pending rest ih =>
    exact ih (fun later hlater => hids later (List.mem_cons_of_mem _ hlater)) _
      (h.acceptPending hcore (hids pending List.mem_cons_self))

theorem makesOnly_any (event : SessionEvent) : event.MakesOnly fun _ => True := by
  cases event <;> trivial

theorem coreAfter_allTyped (events : List PendingSessionEvent) : (coreAfter events).session.AllTyped := by
  refine typed_invariant.coreAfter (fun node hnode => ?_) fun pending _ => makesOnly_any pending.event
  obtain rfl := List.mem_singleton.mp hnode
  exact newPaneFromTemplate_typed "pane-1" (.local "local" (.new "sh")) 80 24

/-- **Terminal output is chunk-invariant** exactly under clean cuts. Whatever pane of whatever session was
reached, chunks leave on it what all their bytes at once leave if and only if no cut takes a character or a
newline of two bytes of the emitted text apart; so two ways of cutting the same bytes that do not leave
the same. -/
theorem output_chunk_invariant_iff {events : List PendingSessionEvent} {paneId : String}
    {terminal : TerminalPane InterimAnsiState}
    (hterminal : (coreAfter events).terminalPane paneId = some terminal)
    (first : List UInt8) (rest : List (List UInt8)) :
    ((terminal.outputs (first :: rest)).pane.screen =
        (terminal.outputs [(first :: rest).flatten]).pane.screen ↔
      CleanCuts (TerminalPane.emitted terminal.state terminal.pane.modes (first :: rest))) ∧
    ∀ first' rest', (first' :: rest').flatten = (first :: rest).flatten →
      CleanCuts (TerminalPane.emitted terminal.state terminal.pane.modes (first :: rest)) →
      CleanCuts (TerminalPane.emitted terminal.state terminal.pane.modes (first' :: rest')) →
      (terminal.outputs (first :: rest)).pane.screen = (terminal.outputs (first' :: rest')).pane.screen := by
  have htyped : terminal.pane.buffer.Typed := by
    obtain ⟨pane, hpane, rfl⟩ := Option.map_eq_some_iff.mp hterminal
    exact coreAfter_allTyped events _ (Session.pane_mem_nodes hpane).2.1
  refine ⟨TerminalPane.outputs_iff htyped first rest, fun first' rest' hbytes hclean hclean' => ?_⟩
  rw [(TerminalPane.outputs_iff htyped first rest).mpr hclean,
    (TerminalPane.outputs_iff htyped first' rest').mpr hclean', hbytes]

/-- A cut inside a sequence is clean. -/
theorem output_chunk_invariant_sequence : ∃ terminal, (coreAfter []).terminalPane "pane-1" = some terminal ∧
    (terminal.outputs [[0x68, 0x1b], [0x5b, 0x3f, 0x31], [0x68, 0xc3, 0xa9, 0x0a]]).pane.screen =
      (terminal.outputs [[0x68, 0x1b, 0x5b, 0x3f, 0x31, 0x68, 0xc3, 0xa9, 0x0a]]).pane.screen := by
  have hterminal : (coreAfter []).terminalPane "pane-1" = some
    ⟨{ newPaneFromTemplate "pane-1" (.local "local" (.new "sh")) 80 24 with
        host := .local "local" (.new "sh")
        surfaceVersion := 2 }, .ground⟩ := rfl
  refine ⟨_, hterminal, ?_⟩
  exact ((output_chunk_invariant_iff hterminal [0x68, 0x1b]
    [[0x5b, 0x3f, 0x31], [0x68, 0xc3, 0xa9, 0x0a]]).1).mpr (by decide +kernel)

/-- **A character that is cut is lost**: the two bytes of `é` in two chunks are two replacement characters. -/
theorem output_not_chunk_invariant :
    ¬ ∀ (events : List PendingSessionEvent) (paneId : String) (terminal : TerminalPane InterimAnsiState)
      (first first' : List UInt8) (rest rest' : List (List UInt8)),
      (coreAfter events).terminalPane paneId = some terminal →
      (first :: rest).flatten = (first' :: rest').flatten →
      (terminal.outputs (first :: rest)).pane.screen = (terminal.outputs (first' :: rest')).pane.screen := by
  intro h
  have hsame := h [] "pane-1" _ [0xc3] [0xc3, 0xa9] [[0xa9]] [] rfl rfl
  have hlines := congrArg PaneScreen.scrollbackLines hsame
  revert hlines
  decide

end Nmux
