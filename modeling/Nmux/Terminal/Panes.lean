import Nmux.Lib.Run
import Nmux.Core.Events
import Nmux.Core.PaneUpdate
import Nmux.Core.SessionNodes
import Nmux.Terminal.Parser

/-! A pane together with its engine. Output and resizes of a pane read and write nothing else, so what
becomes of a pane is a run over these two. A new pane is the same wherever it is made, but its engine is
looked up by its id and outlives the panes of that id: what a closed pane left in the parser is found
again by the next pane that takes its id. -/
namespace Nmux

open Lib (run run_cons)

/-- A pane's state and the state of the engine of its id. -/
structure TerminalPane (σ : Type) where
  pane : PaneState
  state : σ

section
variable {σ : Type} (engine : TerminalEngine σ)

namespace TerminalPane

/-- Output of the pane. -/
def output (terminal : TerminalPane σ) (bytes : List UInt8) : TerminalPane σ :=
  match engine.applyOutput terminal.state terminal.pane.terminalInput bytes with
  | (state, none) => { terminal with state }
  | (state, some update) => ⟨(applyTerminalUpdate terminal.pane update false).1, state⟩

/-- A resize of the pane. -/
def resize (terminal : TerminalPane σ) (cols rows : UInt32) : TerminalPane σ :=
  if terminal.pane.cols = cols ∧ terminal.pane.rows = rows then terminal
  else
    match engine.resize terminal.state terminal.pane.terminalInput cols rows with
    | (state, none) => { terminal with state }
    | (state, some update) => ⟨Session.resizedPane cols rows update terminal.pane, state⟩

/-- What the terminal makes of an event of its pane. -/
def feed (terminal : TerminalPane σ) : SessionEvent → TerminalPane σ
  | .paneOutput _ bytes => terminal.output engine bytes
  | .commitPaneResize _ cols rows => terminal.resize engine cols rows
  | _ => terminal

end TerminalPane

/-- An event that is output or a resize of the pane. -/
def SessionEvent.Feeds (paneId : String) : SessionEvent → Prop
  | .paneOutput target _ => target = paneId
  | .commitPaneResize target _ _ => target = paneId
  | _ => False

/-- An event that makes a pane of that id, for this host. -/
def SessionEvent.Makes (paneId : String) (host : HostSpec) : SessionEvent → Prop
  | .addTab _ _ newPaneId newHost => newPaneId = paneId ∧ newHost = host
  | .splitPane _ _ newPaneId newHost => newPaneId = paneId ∧ newHost = host
  | _ => False

namespace SessionCore

/-- The core after an event. -/
def step (core : SessionCore σ) (pending : PendingSessionEvent) : SessionCore σ :=
  (core.acceptPending engine pending).1

/-- The pane of that id and its engine. -/
def terminalPane (core : SessionCore σ) (paneId : String) : Option (TerminalPane σ) :=
  (core.session.pane paneId).map fun pane => ⟨pane.state, core.terminalEngines paneId⟩

/-! ### The events of a pane -/

/-- A lookup finds what was written. -/
theorem pane_state_write (session : Session) (write : PaneState → PaneState) (paneId : String)
    (hid : ∀ pane, (write pane).id = pane.id) :
    ((session.writePane write paneId).pane paneId).map (·.state) =
      (session.pane paneId).map fun pane => write pane.state := by
  have hstate : ∀ session : Session, (session.pane paneId).map (·.state) =
      (session.nodes.find? (PaneNode.named paneId)).map (·.state) := fun session => by
    rw [← Session.pane_asNode, Option.map_map]
    rfl
  have hnamed : ∀ node, PaneNode.named paneId node = true →
      PaneNode.named paneId (PaneNode.write write node) = true := fun node hnode => by
    unfold PaneNode.named PaneNode.write at *
    rwa [hid]
  rw [hstate, Session.writePane_nodes, Lib.find?_replaceFirst_self hnamed, ← Session.pane_asNode,
    Option.map_map, Option.map_map]
  rfl

variable {core : SessionCore σ} {paneId : String}

theorem terminalPane_output (eventIndex : UInt64) (bytes : List UInt8) :
    (core.applyPaneOutputEvent engine eventIndex paneId bytes).1.terminalPane paneId =
      (core.terminalPane paneId).map fun terminal => terminal.output engine bytes := by
  unfold applyPaneOutputEvent terminalPane Session.applyPaneOutputWithEngine TerminalPane.output
  cases hpane : core.session.pane paneId with
  | none => simp [hpane]
  | some pane =>
    rcases hupdate : engine.applyOutput (core.terminalEngines paneId) pane.state.terminalInput bytes with
      ⟨state, update⟩
    cases update with
    | none => simp [hpane, hupdate]
    | some update =>
      have hwrite := pane_state_write core.session
        (fun pane => (applyTerminalUpdate pane update false).1) paneId
        fun pane => applyTerminalUpdate_id pane update false
      rw [hpane] at hwrite
      obtain ⟨written, hwritten, hstate⟩ := Option.map_eq_some_iff.mp hwrite
      simp [hupdate, hwritten, hstate]

theorem terminalPane_resize (eventIndex : UInt64) (cols rows : UInt32) :
    (core.applyPaneResizeEvent engine eventIndex paneId cols rows).1.terminalPane paneId =
      (core.terminalPane paneId).map fun terminal => terminal.resize engine cols rows := by
  unfold applyPaneResizeEvent terminalPane Session.commitPaneResizeWithEngine TerminalPane.resize
  cases hpane : core.session.pane paneId with
  | none => simp [hpane]
  | some pane =>
    by_cases hsize : pane.state.cols = cols ∧ pane.state.rows = rows
    · simp [hpane, hsize]
    · rcases hupdate : engine.resize (core.terminalEngines paneId) pane.state.terminalInput cols rows with
        ⟨state, update⟩
      cases update with
      | none => simp [hpane, hsize, hupdate]
      | some update =>
        have hwrite := pane_state_write core.session (Session.resizedPane cols rows update) paneId
          fun pane => applyTerminalUpdate_id _ update true
        rw [hpane] at hwrite
        obtain ⟨written, hwritten, hstate⟩ := Option.map_eq_some_iff.mp hwrite
        have hbump : ((core.session.writePane (Session.resizedPane cols rows update) paneId).bumpVersion.pane
            paneId) = some written := hwritten
        simp [hsize, hupdate, hbump, hstate]

/-- **An event of a pane** does to the pane and its engine what the terminal makes of it. -/
theorem terminalPane_step {pending : PendingSessionEvent} (hfeeds : pending.event.Feeds paneId) :
    (core.step engine pending).terminalPane paneId =
      (core.terminalPane paneId).map fun terminal => terminal.feed engine pending.event := by
  obtain ⟨sourceId, lane, now, event⟩ := pending
  cases event with
  | paneOutput target bytes =>
    cases hfeeds
    exact @terminalPane_output σ engine { core with nextEventIndex := satAdd64 core.nextEventIndex 1 } paneId
      core.nextEventIndex bytes
  | commitPaneResize target cols rows =>
    cases hfeeds
    exact @terminalPane_resize σ engine { core with nextEventIndex := satAdd64 core.nextEventIndex 1 } paneId
      core.nextEventIndex cols rows
  | _ => exact hfeeds.elim

theorem terminalPane_run {feed : List PendingSessionEvent} (hfeeds : ∀ pending ∈ feed, pending.event.Feeds paneId) :
    (run (step engine) core feed).terminalPane paneId =
      (core.terminalPane paneId).map fun terminal =>
        (feed.map (·.event)).foldl (TerminalPane.feed engine) terminal := by
  induction feed generalizing core with
  | nil => exact Option.map_id'.symm
  | cons pending rest ih =>
    obtain ⟨hfirst, hrest⟩ := List.forall_mem_cons.mp hfeeds
    rw [run_cons, ih hrest, terminalPane_step engine hfirst, Option.map_map]
    rfl

/-! ### New panes -/

/-- The event makes the pane, which was not there, in this size. -/
structure Creation (core : SessionCore σ) (pending : PendingSessionEvent) (paneId : String)
    (size : UInt32 × UInt32) : Prop where
  absent : core.session.pane paneId = none
  made : (core.step engine pending).session.paneSize paneId = some size

theorem absent_nodes {session : Session} (h : session.pane paneId = none) :
    session.nodes.find? (PaneNode.named paneId) = none := by
  rw [← Session.pane_asNode, h]
  rfl

theorem pane_state_of_find {session : Session} (node : PaneNode)
    (h : session.nodes.find? (PaneNode.named paneId) = some node) :
    (session.pane paneId).map (·.state) = some node.state := by
  have hnode : (session.pane paneId).map Pane.asNode = some node := (Session.pane_asNode _ _).trans h
  obtain ⟨pane, hpane, rfl⟩ := Option.map_eq_some_iff.mp hnode
  rw [hpane]
  rfl

/-- A container's id is longer than that of the pane made with it. -/
theorem container_not_named (target : String) {state : PaneState} {axis : Protocol.SplitAxis}
    {sizes : SplitSizes} (h : state.id = target) (leaf : Bool) :
    PaneNode.named paneId ⟨splitContainer state axis paneId sizes, leaf⟩ = false := by
  have hlonger : "split-" ++ target ++ "-" ++ paneId ≠ paneId := by
    intro heq
    have hlength := congrArg String.length heq
    simp only [String.length_append] at hlength
    have hdash : "-".length = 1 := rfl
    omega
  rw [PaneNode.named, splitContainer, h]
  exact beq_eq_false_iff_ne.mpr hlonger

/-- **A new pane** is made from the template, whatever the session. -/
theorem Creation.state {engine : TerminalEngine σ} {pending : PendingSessionEvent} {host : HostSpec}
    {size : UInt32 × UInt32} (h : Creation engine core pending paneId size)
    (hmakes : pending.event.Makes paneId host) :
    ((core.step engine pending).session.pane paneId).map (·.state) =
      some (newPaneFromTemplate paneId host size.1 size.2) := by
  have hnew : ∀ cols rows, ((core.step engine pending).session.pane paneId).map (·.state) =
      some (newPaneFromTemplate paneId host cols rows) →
      ((core.step engine pending).session.pane paneId).map (·.state) =
        some (newPaneFromTemplate paneId host size.1 size.2) := by
    intro cols rows hstate
    obtain ⟨pane, hpane, hpaneState⟩ := Option.map_eq_some_iff.mp hstate
    have hsize := h.made
    rw [Session.paneSize, hpane, Option.map_some, hpaneState] at hsize
    cases hsize
    exact hstate
  have habsent := absent_nodes h.absent
  obtain ⟨sourceId, lane, now, event⟩ := pending
  have hmade := h.made
  cases event with
  | addTab tabId title newPaneId newHost =>
    obtain ⟨rfl, rfl⟩ := hmakes
    rcases core.session.addTab_cases tabId title newPaneId newHost with hsame | hadd
    · have hsession : (core.step engine ⟨sourceId, lane, now, .addTab tabId title newPaneId newHost⟩).session =
          core.session := congrArg Prod.fst hsame
      rw [hsession, Session.paneSize, h.absent] at hmade
      cases hmade
    · obtain ⟨-, -, -, -, active, -, -, hnodes⟩ := hadd
      refine hnew _ _ (pane_state_of_find ⟨newPaneFromTemplate newPaneId newHost
        active.root.state.cols active.root.state.rows, true⟩ ?_)
      show (core.session.addTab tabId title newPaneId newHost).1.nodes.find? _ = _
      rw [hnodes, List.find?_append, habsent, Option.none_or]
      exact List.find?_cons_of_pos (beq_self_eq_true newPaneId)
  | splitPane target axis newPaneId newHost =>
    obtain ⟨rfl, rfl⟩ := hmakes
    rcases core.session.splitPane_cases target axis newPaneId newHost with hsame | hsplit
    · have hsession : (core.step engine ⟨sourceId, lane, now,
          .splitPane target axis newPaneId newHost⟩).session = core.session := congrArg Prod.fst hsame
      rw [hsession, Session.paneSize, h.absent] at hmade
      cases hmade
    · obtain ⟨-, -, active, root, left, right, -, -, hsplit, hnodes, hresult⟩ := hsplit
      obtain ⟨before, after, state, sizes, hroot, hid, hsizes, rfl⟩ := hsplit.split
      rw [hnodes, hroot] at habsent
      simp only [List.find?_append, List.find?_cons, Option.or_eq_none_iff] at habsent
      obtain ⟨⟨hleft, hbefore, hrest⟩, -⟩ := habsent
      have hother : PaneNode.named newPaneId ⟨splitExisting state sizes, true⟩ = false := by
        split at hrest
        · cases hrest
        case h_2 hnamed => exact hnamed
      refine hnew _ _ (pane_state_of_find ⟨newPaneFromTemplate newPaneId newHost
        sizes.secondCols sizes.secondRows, true⟩ ?_)
      show (core.session.splitPane target axis newPaneId newHost).1.nodes.find? _ = _
      rw [hresult, List.append_assoc, List.find?_append, hleft, Option.none_or, List.find?_append,
        List.find?_append, hbefore, Option.none_or,
        List.find?_cons_of_neg (by simp [container_not_named target hid]),
        List.find?_cons_of_neg (by simp [hother]),
        List.find?_cons_of_pos (by simp [PaneNode.named, newPaneFromTemplate]), Option.some_or]
  | _ => exact hmakes.elim

/-- Making a pane leaves the engines alone. -/
theorem step_engines_of_makes {pending : PendingSessionEvent} {host : HostSpec}
    (hmakes : pending.event.Makes paneId host) :
    (core.step engine pending).terminalEngines = core.terminalEngines := by
  obtain ⟨sourceId, lane, now, event⟩ := pending
  cases event with
  | addTab => rfl
  | splitPane => rfl
  | _ => exact hmakes.elim

/-- The new pane, with what its id's engine was left in. -/
theorem Creation.terminalPane {engine : TerminalEngine σ} {pending : PendingSessionEvent} {host : HostSpec}
    {size : UInt32 × UInt32} (h : Creation engine core pending paneId size)
    (hmakes : pending.event.Makes paneId host) :
    (core.step engine pending).terminalPane paneId =
      some ⟨newPaneFromTemplate paneId host size.1 size.2, core.terminalEngines paneId⟩ := by
  obtain ⟨pane, hpane, hstate⟩ := Option.map_eq_some_iff.mp (h.state hmakes)
  rw [SessionCore.terminalPane, hpane, Option.map_some, hstate, step_engines_of_makes engine hmakes]

end SessionCore

end

/-! ### The engine of a new pane -/

/-- A parser that is inside a sequence does not emit the letter `x`. -/
theorem consume_pending_x {state : InterimAnsiState} (h : state ≠ .ground) (modes : TerminalModes) :
    (consume state [0x78] modes).text = [] := by
  cases state with
  | ground => exact absurd rfl h
  | osc escapePending => cases escapePending <;> rfl
  | stringControl escapePending => cases escapePending <;> rfl
  | _ => rfl

/-- Output that emits nothing leaves the lines of a pane that has some. -/
theorem mergeInterimPtyOutput_nil {lines : List String} (h : lines ≠ []) (append : Bool) :
    (mergeInterimPtyOutput lines append []).1 = lines := by
  have hsome : lines.isEmpty = false := List.isEmpty_eq_false_iff.mpr h
  unfold mergeInterimPtyOutput
  simp [fromUtf8Lossy, fromUtf8LossyFrom, normalizeNewlines, hsome]

section
variable (paneId : String) (host : HostSpec) (cols rows : UInt32)

/-- A new pane whose engine is new shows the letter on a line of its own. -/
theorem output_x_ground :
    (TerminalPane.output interimTextTerminalEngine
      ⟨newPaneFromTemplate paneId host cols rows, .ground⟩ [0x78]).pane.scrollbackLines.length = 4 := by
  show (applyTerminalUpdate _ _ false).1.scrollbackLines.length = 4
  rw [applyTerminalUpdate_eq]
  rfl

/-- A new pane whose engine is inside a sequence shows nothing. -/
theorem output_x_pending {state : InterimAnsiState} (h : state ≠ .ground) :
    (TerminalPane.output interimTextTerminalEngine
      ⟨newPaneFromTemplate paneId host cols rows, state⟩ [0x78]).pane.scrollbackLines.length = 3 := by
  have hlines : ∀ append, (mergeInterimPtyOutput (newPaneFromTemplate paneId host cols rows).scrollbackLines
      append (consume state [0x78] (newPaneFromTemplate paneId host cols rows).modes).text).1 =
      (newPaneFromTemplate paneId host cols rows).scrollbackLines := fun append => by
    rw [consume_pending_x h]
    exact mergeInterimPtyOutput_nil (List.cons_ne_nil _ _) append
  show (applyTerminalUpdate _ _ false).1.scrollbackLines.length = 3
  rw [applyTerminalUpdate_eq]
  exact congrArg List.length (hlines _)

end

open SessionCore (Creation)

/-- **A new pane starts from a fresh terminal** exactly if its id's parser was left in the ground state.
Two runs make the pane by the same event in the same size, and in one of them the parser is in the ground
state; then all output and all resizes that follow leave the same terminal in both if and only if it is so
in the other. -/
theorem new_pane_starts_fresh_iff {core core' : SessionCore InterimAnsiState} {pending : PendingSessionEvent}
    {paneId : String} {host : HostSpec} {size : UInt32 × UInt32} (hmakes : pending.event.Makes paneId host)
    (hcreated : Creation interimTextTerminalEngine core pending paneId size)
    (hcreated' : Creation interimTextTerminalEngine core' pending paneId size)
    (hfresh : core'.terminalEngines paneId = .ground) :
    (∀ feed : List PendingSessionEvent, (∀ fed ∈ feed, fed.event.Feeds paneId) →
      ((run (SessionCore.step interimTextTerminalEngine) core (pending :: feed)).session.pane paneId).map
          (·.state.terminalInput) =
        ((run (SessionCore.step interimTextTerminalEngine) core' (pending :: feed)).session.pane paneId).map
          (·.state.terminalInput)) ↔
      core.terminalEngines paneId = .ground := by
  have hinput : ∀ core : SessionCore InterimAnsiState,
      (core.session.pane paneId).map (·.state.terminalInput) =
        (core.terminalPane paneId).map (·.pane.terminalInput) := fun core => by
    rw [SessionCore.terminalPane, Option.map_map]
    rfl
  have hrun : ∀ {core : SessionCore InterimAnsiState},
      Creation interimTextTerminalEngine core pending paneId size → ∀ {feed : List PendingSessionEvent},
      (∀ fed ∈ feed, fed.event.Feeds paneId) →
      ((run (SessionCore.step interimTextTerminalEngine) core (pending :: feed)).session.pane paneId).map
          (·.state.terminalInput) =
        some ((feed.map (·.event)).foldl (TerminalPane.feed interimTextTerminalEngine)
          ⟨newPaneFromTemplate paneId host size.1 size.2, core.terminalEngines paneId⟩).pane.terminalInput := by
    intro core hcreated feed hfeeds
    rw [hinput, run_cons, SessionCore.terminalPane_run _ hfeeds, hcreated.terminalPane hmakes]
    rfl
  constructor
  · intro hsame
    by_contra hpending
    have hx : ∀ fed ∈ [(⟨"", .pane, 0, .paneOutput paneId [0x78]⟩ : PendingSessionEvent)],
        fed.event.Feeds paneId := fun fed hmem => by
      rw [List.mem_singleton.mp hmem]
      rfl
    have hsame := hsame _ hx
    rw [hrun hcreated hx, hrun hcreated' hx, hfresh] at hsame
    have hlength := congrArg (fun input => input.scrollbackLines.length) (Option.some.inj hsame)
    have hleft := output_x_pending paneId host size.1 size.2 hpending
    have hright := output_x_ground paneId host size.1 size.2
    have hdiffer : 3 = 4 := hleft.symm.trans (hlength.trans hright)
    omega
  · intro hground feed hfeeds
    rw [hrun hcreated hfeeds, hrun hcreated' hfeeds, hground, hfresh]

/-- A second tab with a pane. -/
def addPaneEvent : PendingSessionEvent :=
  ⟨"control", .control, 0, .addTab "tab-2" "work" "pane-2" (.local "local" (.new "sh"))⟩

/-- Output of that pane. -/
def outputEvent (bytes : List UInt8) : PendingSessionEvent := ⟨"pane-2", .pane, 0, .paneOutput "pane-2" bytes⟩

/-- The core on the initial session after these events. -/
def coreAfter (events : List PendingSessionEvent) : SessionCore InterimAnsiState :=
  run (SessionCore.step interimTextTerminalEngine) (.new interimTextTerminalEngine .initial) events

/-- Closes the second tab. -/
def closeTabEvent : PendingSessionEvent := ⟨"control", .control, 0, .closeTab "tab-2"⟩

/-- A pane that is closed between two sequences leaves nothing behind. -/
theorem new_pane_starts_fresh_reused :
    (coreAfter [addPaneEvent, outputEvent [0x1b, 0x5b, 0x6d, 0x61], closeTabEvent]).terminalEngines
        "pane-2" = .ground ∧
      ∀ feed : List PendingSessionEvent, (∀ fed ∈ feed, fed.event.Feeds "pane-2") →
        ((run (SessionCore.step interimTextTerminalEngine)
            (coreAfter [addPaneEvent, outputEvent [0x1b, 0x5b, 0x6d, 0x61], closeTabEvent])
            (addPaneEvent :: feed)).session.pane "pane-2").map (·.state.terminalInput) =
          ((run (SessionCore.step interimTextTerminalEngine) (coreAfter [])
            (addPaneEvent :: feed)).session.pane "pane-2").map (·.state.terminalInput) := by
  have hmakes : addPaneEvent.event.Makes "pane-2" (.local "local" (.new "sh")) := ⟨rfl, rfl⟩
  have hcreated : Creation interimTextTerminalEngine
      (coreAfter [addPaneEvent, outputEvent [0x1b, 0x5b, 0x6d, 0x61], closeTabEvent]) addPaneEvent "pane-2"
      (80, 24) := ⟨by decide, by decide⟩
  have hcreated' : Creation interimTextTerminalEngine (coreAfter []) addPaneEvent "pane-2" (80, 24) :=
    ⟨by decide, by decide⟩
  have hground : (coreAfter [addPaneEvent, outputEvent [0x1b, 0x5b, 0x6d, 0x61],
      closeTabEvent]).terminalEngines "pane-2" = .ground := by
    decide
  exact ⟨hground, (new_pane_starts_fresh_iff hmakes hcreated hcreated' rfl).mpr hground⟩

/-- **An escape byte outlives its pane**: the pane that takes the id next does not show its first letter. -/
theorem new_pane_not_fresh :
    ¬ ∀ (earlier earlier' feed : List PendingSessionEvent) (size : UInt32 × UInt32),
      Creation interimTextTerminalEngine (coreAfter earlier) addPaneEvent "pane-2" size →
      Creation interimTextTerminalEngine (coreAfter earlier') addPaneEvent "pane-2" size →
      (∀ fed ∈ feed, fed.event.Feeds "pane-2") →
      ((coreAfter (earlier ++ addPaneEvent :: feed)).session.pane "pane-2").map (·.state.terminalInput) =
        ((coreAfter (earlier' ++ addPaneEvent :: feed)).session.pane "pane-2").map (·.state.terminalInput) := by
  intro h
  have hsame := h [addPaneEvent, outputEvent [0x1b], closeTabEvent] [] [outputEvent [0x78]] (80, 24)
    ⟨by decide, by decide⟩ ⟨by decide, by decide⟩ (fun fed hmem => by rw [List.mem_singleton.mp hmem]; rfl)
  revert hsame
  decide

end Nmux
