import Nmux.Lib.Run
import Nmux.Core.PaneMoves

/-! Properties that all panes of a session have, the containers of splits included. If new panes have one
and the writes of the events keep it, it holds in every session the events lead to. -/
namespace Nmux

open Lib (run)

/-- A property that new panes of some ids have and that the writes of all events keep. -/
structure PaneInvariant {σ : Type} (engine : TerminalEngine σ) (okId : String → Prop)
    (holds : PaneState → Prop) : Prop where
  created : ∀ id host cols rows, okId id → holds (newPaneFromTemplate id host cols rows)
  container : ∀ state axis newPaneId sizes, holds state → holds (splitContainer state axis newPaneId sizes)
  existing : ∀ state sizes, holds state → holds (splitExisting state sizes)
  policy : ∀ (state : PaneState) policy, holds state → holds { state with resizePolicy := policy }
  output : ∀ state engineState bytes,
    ∀ update ∈ (engine.applyOutput engineState state.terminalInput bytes).2, holds state →
      holds (updateStep state update)
  resize : ∀ state engineState cols rows,
    ∀ update ∈ (engine.resize engineState state.terminalInput cols rows).2, holds state →
      holds (Session.resizedPane cols rows update state)

/-- An event that makes a pane makes it under one of some ids. -/
def SessionEvent.MakesOnly (okId : String → Prop) : SessionEvent → Prop
  | .addTab _ _ newPaneId _ => okId newPaneId
  | .splitPane _ _ newPaneId _ => okId newPaneId
  | _ => True

def Session.All (session : Session) (holds : PaneState → Prop) : Prop :=
  ∀ node ∈ session.nodes, holds node.state

theorem Session.All.named {session : Session} {holds : PaneState → Prop} (h : session.All holds)
    {paneId : String} {state : PaneState} (hstate : state ∈ session.named paneId) : holds state := by
  obtain ⟨node, hnode, rfl, -⟩ := Session.mem_named.mp hstate
  exact h node hnode

theorem Session.All.pane {session : Session} {holds : PaneState → Prop} (h : session.All holds)
    {paneId : String} {pane : Pane} (hpane : session.pane paneId = some pane) : holds pane.state :=
  h.named (Session.pane_mem_named hpane)

namespace PaneInvariant

variable {σ : Type} {engine : TerminalEngine σ} {okId : String → Prop} {holds : PaneState → Prop}

/-- **Every event** keeps it in all panes. -/
theorem acceptPending (h : PaneInvariant engine okId holds) {core : SessionCore σ}
    (hall : core.session.All holds) {pending : PendingSessionEvent} (hids : pending.event.MakesOnly okId) :
    (core.acceptPending engine pending).1.session.All holds := by
  intro node hnode
  have hmoves : Session.Moves (fun before after => holds before → holds after) holds node.state.id
      core.session (core.acceptPending engine pending).1.session := by
    refine acceptPending_moves (fun _ hstate => hstate) ?_
    obtain ⟨sourceId, lane, now, event⟩ := pending
    cases event with
    | addTab => exact fun _ _ _ _ _ => h.created _ _ _ _ hids
    | splitPane target axis newPaneId newHost =>
      intro _ _ state hstate sizes _
      exact ⟨fun _ => h.container _ _ _ _ (hall.named hstate), fun _ => h.existing _ _,
        fun _ => h.created _ _ _ _ hids⟩
    | setPaneResizePolicy => exact fun _ _ _ => h.policy _ _
    | paneOutput => exact fun _ _ _ update hupdate => h.output _ _ _ update hupdate
    | commitPaneResize => exact fun _ _ _ update hupdate => h.resize _ _ _ _ update hupdate
    | _ => trivial
  have hname : node.state ∈ (core.acceptPending engine pending).1.session.named node.state.id :=
    Session.mem_named.mpr ⟨node, hnode, rfl, rfl⟩
  rcases hmoves node.state hname with ⟨earlier, hearlier, hkept⟩ | hcreated
  · exact hkept (hall.named hearlier)
  · exact hcreated

end PaneInvariant

end Nmux
