import Nmux.Client.Held
import Nmux.Screen.Attached

/-! A client that is restarted. Its cache is saved and loaded, which fills the rows that no update has
written; nothing that is done with the cache afterwards can tell, neither the attaches and updates the
client takes nor the versions it says it knows. -/
namespace Nmux.Screen

open Client (ClientAttachState ClientPaneSurface ScrollbackChunkSummary SocketIdentity SurfaceUpdate
  WorkspaceSummary scrollbackChunkFromFrame surfaceUpdateFromFrame)
open Lib.Check
open Live (AttachStatusSummary)

/-! ### Steps -/

structure KnownScrollbackVersion where
  paneId : String
  startLine : UInt64
  lineCount : UInt32
  version : UInt64
deriving DecidableEq, Repr

def knownSurfacesForScope (state : ClientAttachState) (scope : Option SocketIdentity) :
    List KnownSurfaceVersion :=
  if state.scope = scope then state.surfaces.map fun surface => ⟨surface.paneId, surface.version⟩ else []

def knownScrollbackVersionsForScope (state : ClientAttachState) (scope : Option SocketIdentity) :
    List KnownScrollbackVersion :=
  if state.scope = scope then
    state.scrollbacks.map fun scrollback =>
      ⟨scrollback.paneId, scrollback.startLine, scrollback.lineCount, scrollback.version⟩
  else []

/-- What a client does with its cache: an attach under a scope, an update or a chunk that is read, or a
restart, which saves the cache and loads it. -/
inductive CacheStep where
  | attach (scope : Option SocketIdentity) (workspace : WorkspaceSummary) (status : AttachStatusSummary)
      (surface : Option SurfaceFrame) (scrollback : Option Protocol.ScrollbackChunk)
  | update (frame : SurfaceFrame)
  | chunk (frame : Protocol.ScrollbackChunk)
  | restart

def CacheStep.isRestart : CacheStep → Bool
  | .restart => true
  | _ => false

def readOptional {α β : Type} (read : α → Except String β) : Option α → Except String (Option β)
  | none => return none
  | some frame => return some (← read frame)

def CacheStep.apply (state : ClientAttachState) : CacheStep → Except String ClientAttachState
  | .attach scope workspace status surface scrollback => do
    let surface ← readOptional surfaceUpdateFromFrame surface
    let scrollback ← readOptional scrollbackChunkFromFrame scrollback
    let attached ← renderAttach (applyScope state scope) ⟨workspace, status, surface, scrollback⟩
    return attached.1
  | .update frame => do
    let update ← surfaceUpdateFromFrame frame
    let updated ← state.applySurfaceUpdate update
    return updated.1
  | .chunk frame => do
    let chunk ← scrollbackChunkFromFrame frame
    return cacheScrollbackChunk state chunk
  | .restart => ClientAttachState.decode state.encode

/-- The steps of a client in order, from the cache it starts with; the first that fails ends it. -/
def runCache (steps : List CacheStep) (state : ClientAttachState) : Except String ClientAttachState :=
  steps.foldlM CacheStep.apply state

/-! ### Scrollback and scope -/

variable {state reached : ClientAttachState}

theorem applyScope_held (h : state.Held) (scope : Option SocketIdentity) : (applyScope state scope).Held := by
  unfold applyScope
  split
  · exact ⟨fun _ hmem => (by cases hmem), fun _ hmem => (by cases hmem)⟩
  · exact ⟨h.surfaces, h.scrollbacks⟩

theorem applyScope_settled (state : ClientAttachState) (scope : Option SocketIdentity) :
    applyScope state.settled scope = (applyScope state scope).settled := by
  unfold applyScope
  show (if state.scope ≠ scope then _ else _) = _
  split <;> rfl

theorem cacheScrollbackChunk_settled (state : ClientAttachState) (chunk : ScrollbackChunkSummary) :
    cacheScrollbackChunk state.settled chunk = (cacheScrollbackChunk state chunk).settled := by
  unfold cacheScrollbackChunk
  split <;> rfl

theorem cacheScrollbackChunk_held {chunk : ScrollbackChunkSummary} (h : state.Held)
    (hstart : chunk.startLine ≠ 0) : (cacheScrollbackChunk state chunk).Held := by
  unfold cacheScrollbackChunk
  split
  · exact h
  case isFalse hlines =>
    have hcount : UInt32.ofNat (min chunk.lines.length (2 ^ 32 - 1)) ≠ 0 := by
      have hpos : 0 < chunk.lines.length := List.length_pos_iff.mpr (by simpa using hlines)
      intro hzero
      have hnat := congrArg UInt32.toNat hzero
      rw [UInt32.toNat_ofNat', UInt32.toNat_zero, Nat.mod_eq_of_lt (by omega)] at hnat
      omega
    refine ⟨h.surfaces, fun scrollback hmem => ?_⟩
    dsimp only at hmem
    split at hmem
    · rcases Lib.mem_replaceFirst hmem with hkept | ⟨old, -, rfl⟩
      · exact h.scrollbacks scrollback hkept
      · exact ⟨hstart, hcount⟩
    · rcases List.mem_append.mp hmem with hkept | hnew
      · exact h.scrollbacks scrollback hkept
      · rw [List.mem_singleton.mp hnew]
        exact ⟨hstart, hcount⟩

theorem scrollbackChunk_startLine {frame : Protocol.ScrollbackChunk} {chunk : ScrollbackChunkSummary}
    (h : scrollbackChunkFromFrame frame = .ok chunk) : chunk.startLine ≠ 0 := by
  unfold scrollbackChunkFromFrame at h
  obtain ⟨-, h⟩ := check_bind_eq_ok.mp h
  obtain ⟨-, h⟩ := check_bind_eq_ok.mp h
  split at h
  · cases h
  · obtain ⟨hstart, h⟩ := check_bind_eq_ok.mp h
    obtain ⟨lines, -, h⟩ := bind_eq_ok.mp h
    obtain ⟨paneId, -, h⟩ := bind_eq_ok.mp h
    obtain rfl := Except.ok.inj h
    simpa [Client.validateScrollbackChunkStartLine] using hstart

/-! ### Attaching -/

/-- The cache that an attach leaves, without what it shows. -/
def attachedCache (state : ClientAttachState) (snapshot : AttachSnapshot) : Except String ClientAttachState := do
  let paneId := snapshot.status.paneId
  let state ← match snapshot.surface with
    | some update => do
      validateAttachSurfaceUpdate snapshot.status update
      let updated ← state.applySurfaceUpdate update
      pure updated.1
    | none => do
      if snapshot.status.surfaceState ≠ .current then
        .error ("attach status " ++ snapshot.status.surfaceState.debug ++ " requires a matching surface frame")
      else do
        let _ ← cachedCurrentSurface state paneId snapshot.status.surfaceVersion
        pure state
  let _ ← cachedCurrentSurface state paneId snapshot.status.surfaceVersion
  return snapshot.scrollback.elim state (cacheScrollbackChunk state)

theorem Held.currentSurface (h : state.Held) {paneId : String} {version : UInt64} {surface : ClientPaneSurface}
    (hcurrent : cachedCurrentSurface state paneId version = .ok surface) : surface.stored.Renders :=
  (Client.Held.cachedSurface h (cachedCurrentSurface_eq hcurrent)).storable.intact.stored.renders

/-- The last lines of an attach, which make the summary and keep the chunk. -/
theorem map_attachRest (h : state.Held) (snapshot : AttachSnapshot) (text : String) :
    ((do
      let surface ← cachedCurrentSurface state snapshot.status.paneId snapshot.status.surfaceVersion
      let summary ← surfaceSummary surface
      let state := match snapshot.scrollback with
        | some scrollback => cacheScrollbackChunk state scrollback
        | none => state
      return (state, ({
        workspace := snapshot.workspace
        status := snapshot.status
        surfaceMetadata := ⟨surface.title, surface.workingDirectory⟩
        modes := surface.modes
        surface := summary
        surfaceText := some text } : RenderedAttach))) : Except String _).map Prod.fst =
    (do
      let _ ← cachedCurrentSurface state snapshot.status.paneId snapshot.status.surfaceVersion
      return snapshot.scrollback.elim state (cacheScrollbackChunk state)) := by
  refine Client.map_bind_congr fun surface hsurface => ?_
  obtain ⟨rows, hrows⟩ := (Held.currentSurface h hsurface).summary
  have hsummary : ∃ summary, surfaceSummary surface = .ok summary := by
    rw [surfaceSummary, hrows]
    exact ⟨_, rfl⟩
  obtain ⟨summary, hsummary⟩ := hsummary
  rw [hsummary, ok_bind]
  cases snapshot.scrollback <;> rfl

theorem renderAttach_cache (h : state.Held) {snapshot : AttachSnapshot}
    (hread : ∀ update, snapshot.surface = some update → update.Read) :
    (renderAttach state snapshot).map Prod.fst = attachedCache state snapshot := by
  unfold renderAttach attachedCache
  dsimp only
  cases hsurface : snapshot.surface with
  | none =>
    dsimp only
    split
    · rfl
    · simp only [pure_bind]
      refine Client.map_bind_congr fun current hcurrent => ?_
      obtain ⟨text, htext⟩ := (Held.currentSurface h hcurrent).text
      rw [htext, ok_bind]
      exact map_attachRest h snapshot text
  | some update =>
    simp only [pure_bind]
    refine Client.map_bind_congr fun _ _ => Client.map_bind_congr fun updated hupdated => ?_
    have hreached := Client.applySurfaceUpdate_held h (hread update hsurface) hupdated
    have hnext := Client.updatedSurface_held h (hread update hsurface) hupdated
    obtain ⟨text, htext⟩ := hnext.storable.intact.stored.renders.text
    rw [htext, ok_bind]
    exact map_attachRest hreached snapshot text

/-! ### Caches that come back alike -/

/-- Two results that agree after `f` agree after `g`, where what follows keeps the agreement. -/
theorem bind_agree {α β γ δ : Type} {x y : Except String α} {f : α → γ} {k l : α → Except String β} {g : β → δ}
    (h : x.map f = y.map f)
    (hnext : ∀ a b, x = .ok a → y = .ok b → f a = f b → (k a).map g = (l b).map g) :
    (x >>= k).map g = (y >>= l).map g := by
  cases x with
  | error message =>
    cases y with
    | error text => exact congrArg Except.error (Except.error.inj h)
    | ok b => cases h
  | ok a =>
    cases y with
    | error text => cases h
    | ok b => exact hnext a b rfl rfl (Except.ok.inj h)

theorem map_map {α β γ : Type} (x : Except String α) (f : α → β) (g : β → γ) :
    (x.map f).map g = x.map (g ∘ f) := by
  cases x <;> rfl

theorem cachedCurrentSurface_settled (state : ClientAttachState) (paneId : String) (version : UInt64) :
    cachedCurrentSurface state.settled paneId version =
      (cachedCurrentSurface state paneId version).map ClientPaneSurface.settled := by
  unfold cachedCurrentSurface
  rw [ClientAttachState.settled_cachedSurface]
  cases state.cachedSurface paneId with
  | none => rfl
  | some surface =>
    dsimp only [Option.map_some]
    show (if surface.version ≠ version then _ else _) = _
    split <;> rfl

/-- Caches that hold the same, but for the rows that loading fills. -/
structure Alike (state other : ClientAttachState) : Prop where
  left : state.Held
  right : other.Held
  settled : state.settled = other.settled

variable {other : ClientAttachState}

theorem Alike.current (h : state.settled = other.settled) (paneId : String) (version : UInt64) :
    (cachedCurrentSurface state paneId version).map ClientPaneSurface.settled =
      (cachedCurrentSurface other paneId version).map ClientPaneSurface.settled := by
  rw [← cachedCurrentSurface_settled, ← cachedCurrentSurface_settled, h]

theorem Alike.chunk (h : state.settled = other.settled) (chunk : ScrollbackChunkSummary) :
    (cacheScrollbackChunk state chunk).settled = (cacheScrollbackChunk other chunk).settled := by
  rw [← cacheScrollbackChunk_settled, ← cacheScrollbackChunk_settled, h]

theorem Alike.scope (h : Alike state other) (scope : Option SocketIdentity) :
    Alike (applyScope state scope) (applyScope other scope) where
  left := applyScope_held h.left scope
  right := applyScope_held h.right scope
  settled := by rw [← applyScope_settled, ← applyScope_settled, h.settled]

theorem Alike.update (h : Alike state other) {update : SurfaceUpdate} (hread : update.Read) :
    (state.applySurfaceUpdate update).map Client.settledResult =
      (other.applySurfaceUpdate update).map Client.settledResult := by
  rw [← Client.applySurfaceUpdate_settled h.left hread, ← Client.applySurfaceUpdate_settled h.right hread,
    h.settled]

theorem Alike.rest (h : state.settled = other.settled) (snapshot : AttachSnapshot) :
    (do
      let _ ← cachedCurrentSurface state snapshot.status.paneId snapshot.status.surfaceVersion
      return snapshot.scrollback.elim state (cacheScrollbackChunk state) :
        Except String ClientAttachState).map ClientAttachState.settled =
    (do
      let _ ← cachedCurrentSurface other snapshot.status.paneId snapshot.status.surfaceVersion
      return snapshot.scrollback.elim other (cacheScrollbackChunk other) :
        Except String ClientAttachState).map ClientAttachState.settled := by
  refine bind_agree (Alike.current h _ _) fun _ _ _ _ _ => congrArg Except.ok ?_
  cases snapshot.scrollback with
  | none => exact h
  | some chunk => exact Alike.chunk h chunk

theorem Alike.attached (h : Alike state other) {snapshot : AttachSnapshot}
    (hread : ∀ update, snapshot.surface = some update → update.Read) :
    (attachedCache state snapshot).map ClientAttachState.settled =
      (attachedCache other snapshot).map ClientAttachState.settled := by
  unfold attachedCache
  dsimp only
  cases hsurface : snapshot.surface with
  | none =>
    dsimp only
    split
    · rfl
    · exact bind_agree (Alike.current h.settled _ _) fun _ _ _ _ _ => Alike.rest h.settled snapshot
  | some update =>
    simp only [pure_bind]
    refine bind_agree (f := id) rfl fun _ _ _ _ _ => ?_
    refine bind_agree (h.update (hread update hsurface)) fun reached later _ _ hsame => ?_
    exact Alike.rest (congrArg Prod.fst hsame) snapshot

/-! ### Steps keep caches alike -/

theorem attachedCache_held (h : state.Held) {snapshot : AttachSnapshot}
    (hread : ∀ update, snapshot.surface = some update → update.Read)
    (hchunk : ∀ chunk, snapshot.scrollback = some chunk → chunk.startLine ≠ 0)
    (hreached : attachedCache state snapshot = .ok reached) : reached.Held := by
  have hlast {applied : ClientAttachState} (happlied : applied.Held) :
      (snapshot.scrollback.elim applied (cacheScrollbackChunk applied)).Held := by
    cases hscrollback : snapshot.scrollback with
    | none => exact happlied
    | some chunk => exact cacheScrollbackChunk_held happlied (hchunk chunk hscrollback)
  unfold attachedCache at hreached
  dsimp only at hreached
  cases hsurface : snapshot.surface with
  | none =>
    rw [hsurface] at hreached
    dsimp only at hreached
    split at hreached
    · cases hreached
    · simp only [pure_bind] at hreached
      obtain ⟨_, -, hreached⟩ := bind_eq_ok.mp hreached
      obtain ⟨_, -, hreached⟩ := bind_eq_ok.mp hreached
      obtain rfl := Except.ok.inj hreached
      exact hlast h
  | some update =>
    rw [hsurface] at hreached
    simp only [pure_bind] at hreached
    obtain ⟨-, hreached⟩ := check_bind_eq_ok.mp hreached
    obtain ⟨updated, hupdated, hreached⟩ := bind_eq_ok.mp hreached
    obtain ⟨_, -, hreached⟩ := bind_eq_ok.mp hreached
    obtain rfl := Except.ok.inj hreached
    exact hlast (Client.applySurfaceUpdate_held h (hread update hsurface) hupdated)

theorem readOptional_some {α β : Type} {read : α → Except String β} {frame : Option α} {value : β}
    {result : Option β} (h : readOptional read frame = .ok result) (hsome : result = some value) :
    ∃ sent, read sent = .ok value := by
  subst hsome
  cases frame with
  | none => cases h
  | some sent =>
    obtain ⟨got, hgot, h⟩ := bind_eq_ok.mp h
    obtain rfl := Option.some.inj (Except.ok.inj h)
    exact ⟨sent, hgot⟩

/-- A step leaves a cache that can be saved whole. -/
theorem CacheStep.apply_held {step : CacheStep} (h : state.Held) (hreached : step.apply state = .ok reached) :
    reached.Held := by
  unfold CacheStep.apply at hreached
  cases step with
  | attach scope workspace status surface scrollback =>
    obtain ⟨update, hupdate, hreached⟩ := bind_eq_ok.mp hreached
    obtain ⟨chunk, hchunk, hreached⟩ := bind_eq_ok.mp hreached
    obtain ⟨attached, hattached, hreached⟩ := bind_eq_ok.mp hreached
    obtain rfl := Except.ok.inj hreached
    have hread : ∀ read, update = some read → read.Read := fun read hsome => by
      obtain ⟨frame, hframe⟩ := readOptional_some hupdate hsome
      exact Client.surfaceUpdateFromFrame_read hframe
    have hstart : ∀ read, chunk = some read → read.startLine ≠ 0 := fun read hsome => by
      obtain ⟨frame, hframe⟩ := readOptional_some hchunk hsome
      exact scrollbackChunk_startLine hframe
    have hcache := @renderAttach_cache _ (applyScope_held h scope) ⟨workspace, status, update, chunk⟩ hread
    rw [hattached] at hcache
    exact attachedCache_held (applyScope_held h scope) hread hstart hcache.symm
  | update frame =>
    obtain ⟨update, hupdate, hreached⟩ := bind_eq_ok.mp hreached
    obtain ⟨updated, hupdated, hreached⟩ := bind_eq_ok.mp hreached
    obtain rfl := Except.ok.inj hreached
    exact Client.applySurfaceUpdate_held h (Client.surfaceUpdateFromFrame_read hupdate) hupdated
  | chunk frame =>
    obtain ⟨chunk, hchunk, hreached⟩ := bind_eq_ok.mp hreached
    obtain rfl := Except.ok.inj hreached
    exact cacheScrollbackChunk_held h (scrollbackChunk_startLine hchunk)
  | restart =>
    obtain ⟨hstorable, hfilled⟩ := Client.decode_accepted hreached
    exact ⟨fun surface hmem => ⟨hstorable.surfaces surface hmem, (hfilled surface hmem).styles⟩,
      hstorable.scrollbacks⟩

/-- What a step that is no restart does to caches that are alike is alike. -/
theorem CacheStep.apply_alike {step : CacheStep} (h : Alike state other) (hstep : step.isRestart = false) :
    (step.apply state).map ClientAttachState.settled = (step.apply other).map ClientAttachState.settled := by
  unfold CacheStep.apply
  cases step with
  | attach scope workspace status surface scrollback =>
    refine bind_agree (f := id) rfl fun update _ hupdate hsame heq => ?_
    obtain rfl : update = _ := heq
    refine bind_agree (f := id) rfl fun chunk _ _ _ heq => ?_
    obtain rfl : chunk = _ := heq
    have hread : ∀ read, update = some read → read.Read := fun read hsome => by
      obtain ⟨frame, hframe⟩ := readOptional_some hupdate hsome
      exact Client.surfaceUpdateFromFrame_read hframe
    have hscoped := h.scope scope
    have hattached := @Alike.attached _ _ hscoped ⟨workspace, status, update, chunk⟩ hread
    rw [← renderAttach_cache hscoped.left hread, ← renderAttach_cache hscoped.right hread, map_map, map_map]
      at hattached
    exact bind_agree hattached fun _ _ _ _ heq => congrArg Except.ok heq
  | update frame =>
    refine bind_agree (f := id) rfl fun update _ hupdate _ heq => ?_
    obtain rfl : update = _ := heq
    refine bind_agree (h.update (Client.surfaceUpdateFromFrame_read hupdate)) fun _ _ _ _ heq => ?_
    exact congrArg Except.ok (congrArg Prod.fst heq)
  | chunk frame =>
    refine bind_agree (f := id) rfl fun chunk _ _ _ heq => ?_
    obtain rfl : chunk = _ := heq
    exact congrArg Except.ok (Alike.chunk h.settled chunk)
  | restart => cases hstep

/-- A restart loads the cache that was saved, as it comes back. -/
theorem CacheStep.apply_restart (h : state.Held) : CacheStep.restart.apply state = .ok state.settled :=
  Client.ClientAttachState.decode_encode h.storable

theorem Alike.restart (h : Alike state other) : Alike state.settled other where
  left := CacheStep.apply_held h.left (CacheStep.apply_restart h.left)
  right := h.right
  settled := by rw [ClientAttachState.settled_settled, h.settled]

/-! ### Runs -/

theorem default_held : ClientAttachState.default.Held :=
  ⟨fun _ hmem => (by cases hmem), fun _ hmem => (by cases hmem)⟩

/-- The rest of a run, from caches that are alike, with its restarts and without them. -/
theorem runCache_alike {steps : List CacheStep} (h : Alike state other) :
    (runCache steps state).map ClientAttachState.settled =
      (runCache (steps.filter fun step => !step.isRestart) other).map ClientAttachState.settled := by
  unfold runCache
  induction steps generalizing state other with
  | nil => exact congrArg Except.ok h.settled
  | cons step rest ih =>
    rw [List.foldlM_cons]
    cases hstep : step.isRestart with
    | true =>
      obtain rfl : step = .restart := by
        cases step with
        | restart => rfl
        | _ => cases hstep
      rw [List.filter_cons_of_neg (by simp [hstep]), CacheStep.apply_restart h.left]
      exact ih h.restart
    | false =>
      rw [List.filter_cons_of_pos (by simp [hstep]), List.foldlM_cons]
      refine bind_agree (CacheStep.apply_alike h hstep) fun left right hleft hright hsame => ?_
      exact ih ⟨CacheStep.apply_held h.left hleft, CacheStep.apply_held h.right hright, hsame⟩

theorem knownSurfacesForScope_settled (state : ClientAttachState) (scope : Option SocketIdentity) :
    knownSurfacesForScope state.settled scope = knownSurfacesForScope state scope := by
  unfold knownSurfacesForScope ClientAttachState.settled
  dsimp only
  rw [List.map_map]
  rfl

theorem map_of_settled {α : Type} {f : ClientAttachState → α} (hf : ∀ state, f state.settled = f state)
    {x y : Except String ClientAttachState}
    (h : x.map ClientAttachState.settled = y.map ClientAttachState.settled) : x.map f = y.map f := by
  have hsame : f ∘ ClientAttachState.settled = f := funext hf
  rw [← hsame, ← map_map, ← map_map, h]

/-- **Restarts go unseen.** However attaches, updates and scrollback chunks of the server come in, and
wherever the client is restarted between them, the run fails where it would have failed without the
restarts, with the same error; and what the client then announces, the version of every surface and of
every range of scrollback, is what it would have announced. What it holds differs in the rows no update has
written, which loading fills. -/
theorem restarts_unseen (steps : List CacheStep) (scope : Option SocketIdentity) :
    let kept := runCache (steps.filter fun step => !step.isRestart) .default
    (runCache steps .default).map ClientAttachState.settled = kept.map ClientAttachState.settled ∧
      (runCache steps .default).map (knownSurfacesForScope · scope) = kept.map (knownSurfacesForScope · scope) ∧
      (runCache steps .default).map (knownScrollbackVersionsForScope · scope) =
        kept.map (knownScrollbackVersionsForScope · scope) := by
  have halike := @runCache_alike _ _ steps ⟨default_held, default_held, rfl⟩
  exact ⟨halike, map_of_settled (fun state => knownSurfacesForScope_settled state scope) halike,
    map_of_settled (fun _ => rfl) halike⟩

end Nmux.Screen
