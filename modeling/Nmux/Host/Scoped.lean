import Nmux.Host.LocalPty
import Nmux.Lib.Slots
import Nmux.Daemon.Control

/-! The sessions of a daemon share one host. Each calls it through a scope, which puts the session's id
and a colon before the ids of its panes. The ids of sessions may hold colons as well, so the scopes are
apart exactly if no session's id continues another one's after a colon; then every session sees of the
host what it would see of one of its own. -/
namespace Nmux

/-! ### Keys -/

/-- `strip_prefix`. -/
def stripPrefix (text stem : String) : Option String :=
  if stem.toList.isPrefixOf text.toList then some (String.ofList (text.toList.drop stem.toList.length))
  else none

theorem stripPrefix_append (stem text : String) : stripPrefix (stem ++ text) stem = some text := by
  have hstem : stem.toList.isPrefixOf (stem ++ text).toList = true := by
    rw [String.toList_append, List.isPrefixOf_iff_prefix]
    exact List.prefix_append _ _
  rw [stripPrefix, if_pos hstem, String.toList_append, List.drop_left, String.ofList_toList]

namespace ScopedLocalPtyHost

def hostPaneId (sessionId paneId : String) : String := sessionId ++ ":" ++ paneId

def clientPaneId (sessionId hostPaneId : String) : String :=
  ((stripPrefix hostPaneId sessionId).bind fun suffix => stripPrefix suffix ":").getD hostPaneId

theorem clientPaneId_hostPaneId (sessionId paneId : String) :
    clientPaneId sessionId (hostPaneId sessionId paneId) = paneId := by
  rw [clientPaneId, hostPaneId, String.append_assoc, stripPrefix_append, Option.bind_some,
    stripPrefix_append, Option.getD_some]

/-- Two keys agree only if the session of one continues that of the other after a colon. -/
theorem hostPaneId_inj {sessionId sessionId' paneId paneId' : String}
    (h : hostPaneId sessionId paneId = hostPaneId sessionId' paneId')
    (hapart : ∀ suffix, sessionId' ≠ sessionId ++ ":" ++ suffix)
    (hapart' : ∀ suffix, sessionId ≠ sessionId' ++ ":" ++ suffix) :
    sessionId = sessionId' ∧ paneId = paneId' := by
  have hcolon : ":".toList = [':'] := rfl
  have hsuffix : ∀ (stem longer suffix : String), (∀ suffix, longer ≠ stem ++ ":" ++ suffix) →
      ∀ more, longer.toList = stem.toList ++ more → ∀ own other : List Char,
        ':' :: own = more ++ ':' :: other → more = [] := by
    intro stem longer suffix hne more hmore own other hlist
    cases more with
    | nil => rfl
    | cons first rest =>
      obtain ⟨rfl, -⟩ := List.cons_eq_cons.mp hlist
      refine absurd (String.toList_inj.mp ?_) (hne (String.ofList rest))
      rw [hmore, String.toList_append, String.toList_append, hcolon, String.toList_ofList]
      simp
  have hlist := congrArg String.toList h
  simp only [hostPaneId, String.toList_append, hcolon, List.append_assoc, List.singleton_append] at hlist
  rcases List.append_eq_append_iff.mp hlist with ⟨more, hlonger, hrest⟩ | ⟨more, hlonger, hrest⟩
  · obtain rfl := hsuffix _ _ "" hapart more hlonger _ _ hrest
    simp only [List.append_nil, List.nil_append, List.cons.injEq, true_and] at hlonger hrest
    exact ⟨(String.toList_inj.mp hlonger).symm, String.toList_inj.mp hrest⟩
  · obtain rfl := hsuffix _ _ "" hapart' more hlonger _ _ hrest
    simp only [List.append_nil, List.nil_append, List.cons.injEq, true_and] at hlonger hrest
    exact ⟨String.toList_inj.mp hlonger, (String.toList_inj.mp hrest).symm⟩

end ScopedLocalPtyHost

/-! ### Renaming panes -/

def PaneProcess.mapId (rename : String → String) (process : PaneProcess) : PaneProcess :=
  { process with paneId := rename process.paneId }

/-- Every error but that of an unsupported kind names a pane. -/
def HostError.mapId (rename : String → String) : HostError → HostError
  | .unsupportedHostKind hostId kind => .unsupportedHostKind hostId kind
  | .unsupportedOperation paneId operation => .unsupportedOperation (rename paneId) operation
  | .alreadyRunning paneId => .alreadyRunning (rename paneId)
  | .notRunning paneId => .notRunning (rename paneId)
  | .io paneId operation message => .io (rename paneId) operation message

/-- A result with the panes of its value and its error renamed. -/
def mapResult {α : Type} (rename : String → String) (value : α → α) :
    Except HostError α → Except HostError α
  | .ok result => .ok (value result)
  | .error error => .error (error.mapId rename)

def HostReply.mapId (rename : String → String) : HostReply → HostReply
  | .process result => .process (mapResult rename (·.mapId rename) result)
  | .done result => .done (mapResult rename id result)
  | .output result => .output (mapResult rename id result)

def LocalPtyProcess.mapId {ρ : Type} (rename : String → String) (process : LocalPtyProcess ρ) :
    LocalPtyProcess ρ :=
  { process with process := process.process.mapId rename }

theorem HostReply.mapId_mapId {rename back : String → String} (h : ∀ paneId, back (rename paneId) = paneId)
    (reply : HostReply) : (reply.mapId rename).mapId back = reply := by
  have herror : ∀ error : HostError, (error.mapId rename).mapId back = error := by
    intro error
    cases error <;> simp [HostError.mapId, h]
  cases reply with
  | process result => cases result <;> simp [mapId, mapResult, PaneProcess.mapId, h, herror]
  | done result => cases result <;> simp [mapId, mapResult, herror]
  | output result => cases result <;> simp [mapId, mapResult, herror]

namespace LocalPtyProcess

variable {τ ρ : Type} {system : PtySystem τ ρ} {now : τ} {paneId : String} {rename : String → String}
  {slot : Option (LocalPtyProcess ρ)}

/-- What a call does under another name is what it does, renamed. -/
def Natural {α : Type} (rename : String → String) (value : α → α)
    (renamed plain : Except HostError α × Option (LocalPtyProcess ρ)) : Prop :=
  renamed = (mapResult rename value plain.1, plain.2.map (mapId rename))

theorem hostIoError_mapId (operation : String) (error : IoError) :
    hostIoError (rename paneId) operation error = (hostIoError paneId operation error).mapId rename := rfl

theorem startPane_natural (spec : HostSpec) :
    Natural rename (·.mapId rename) (startPane system now (rename paneId) spec (slot.map (mapId rename)))
      (startPane system now paneId spec slot) := by
  have hrunning : ((slot.map (mapId rename)).any fun process => process.process.status == .running) =
      slot.any fun process => process.process.status == .running := by
    cases slot <;> rfl
  have hspawn : ∀ error, spawnCommandForHost (system.containerRuntime.getD "docker") spec true =
      .error error → error.mapId rename = error := by
    intro error h
    unfold spawnCommandForHost at h
    split at h
    · cases h
    · cases h
    · cases h
      rfl
  unfold Natural startPane
  rw [hrunning]
  split
  · rfl
  split
  · rfl
  split
  case h_1 error hcommand =>
    show (_, _) = (Except.error (error.mapId rename), _)
    rw [hspawn error hcommand]
  split
  · rfl
  · rfl

@[simp] theorem mapId_status (process : LocalPtyProcess ρ) :
    (process.mapId rename).process.status = process.process.status := rfl

@[simp] theorem mapId_child (process : LocalPtyProcess ρ) :
    (process.mapId rename).child = process.child := rfl

theorem waited_mapId (process : LocalPtyProcess ρ) (child : ρ) (exited : Bool) :
    (process.mapId rename).waited child exited = (process.waited child exited).mapId rename := by
  cases exited <;> rfl

theorem reapExitedProcess_natural :
    Natural rename id (reapExitedProcess system now (rename paneId) (slot.map (mapId rename)))
      (reapExitedProcess system now paneId slot) := by
  unfold Natural reapExitedProcess
  cases slot with
  | none => rfl
  | some process =>
    by_cases hstatus : process.process.status = .running
    · rw [Option.map_some]
      simp only [mapId_status, mapId_child, hstatus, ne_eq, not_true, if_false]
      rcases system.tryWait now process.child with ⟨error | exited, child⟩
      · rfl
      · simp only [waited_mapId]
        rfl
    · simp [hstatus, mapResult]

/-- Running calls are natural if what they do to a running process is. -/
theorem running_natural {α : Type} {value : α → α}
    {renamed plain : LocalPtyProcess ρ → Except HostError α × Option (LocalPtyProcess ρ)}
    (h : ∀ process, Natural rename value (renamed (process.mapId rename)) (plain process)) :
    Natural rename value (running system now (rename paneId) (slot.map (mapId rename)) renamed)
      (running system now paneId slot plain) := by
  unfold Natural running
  rw [reapExitedProcess_natural]
  rcases reapExitedProcess system now paneId slot with ⟨error | reaped, next⟩
  · rfl
  · cases reaped with
    | true => rfl
    | false =>
      cases next with
      | none => rfl
      | some process =>
        by_cases hstatus : process.process.status = .running
        · simpa [hstatus, mapResult, Natural] using h process
        · simp [hstatus, mapResult, HostError.mapId]

theorem checkPane_natural :
    Natural rename id (checkPane system now (rename paneId) (slot.map (mapId rename)))
      (checkPane system now paneId slot) :=
  running_natural fun _ => rfl

theorem writeInput_natural (bytes : List UInt8) :
    Natural rename id (writeInput system now (rename paneId) bytes (slot.map (mapId rename)))
      (writeInput system now paneId bytes slot) := by
  refine running_natural fun process => ?_
  unfold Natural
  simp only [mapId_child]
  rcases system.write now process.child bytes with ⟨error | _, child⟩
  · by_cases hclosed : closedPaneWriteError error
    · have hreaped : Natural rename id
          (reapExitedProcess system now (rename paneId)
            (Option.map (mapId rename) (some { process with child })))
          (reapExitedProcess system now paneId (some { process with child })) :=
        reapExitedProcess_natural
      rw [Natural, Option.map_some] at hreaped
      simp only [hclosed, if_true]
      rw [show ({ process.mapId rename with child } : LocalPtyProcess ρ) =
        mapId rename { process with child } from rfl, hreaped]
      rcases reapExitedProcess system now paneId (some { process with child }) with
        ⟨error | reaped, next⟩
      · rfl
      · cases reaped <;> rfl
    · simp only [hclosed]
      rfl
  · rfl

theorem resizePane_natural (cols rows : UInt32) :
    Natural rename id (resizePane system now (rename paneId) cols rows (slot.map (mapId rename)))
      (resizePane system now paneId cols rows slot) := by
  refine running_natural fun process => ?_
  unfold Natural
  simp only [mapId_child]
  rcases system.resize now process.child (resizedPtySize cols rows) with ⟨error | _, child⟩ <;> rfl

theorem stopPane_natural :
    Natural rename (·.mapId rename) (stopPane system now (rename paneId) (slot.map (mapId rename)))
      (stopPane system now paneId slot) := by
  unfold Natural stopPane
  cases slot with
  | none => rfl
  | some process =>
    by_cases hstatus : process.process.status = .exited
    · simp only [Option.map_some, mapId_status, hstatus, if_true]
      rfl
    · simp only [Option.map_some, mapId_status, mapId_child, hstatus, if_false]
      rcases killChild system now process.child with ⟨error | _, child⟩
      · rfl
      · dsimp only
        rcases (system.wait now child).1 with error | _ <;> rfl

theorem tryReadOutput_natural (limit : Nat) :
    Natural rename id (tryReadOutput system now (rename paneId) limit (slot.map (mapId rename)))
      (tryReadOutput system now paneId limit slot) := by
  unfold Natural tryReadOutput
  cases slot with
  | none => rfl
  | some process =>
    have hpending : (process.mapId rename).pendingOutput = process.pendingOutput := rfl
    simp only [Option.map_some, mapId_child, mapId_status, hpending]
    by_cases houtput : 0 < ((process.pendingOutput ++ (system.received now process.child).1).take limit).length
    · simp only [houtput, if_true]
      rfl
    · simp only [houtput, if_false]
      by_cases hstatus : process.process.status = .running
      · simp only [hstatus, ne_eq, not_true, if_false]
        rcases system.tryWait now (system.received now process.child).2 with ⟨error | exited, child⟩
        · rfl
        · cases exited <;> rfl
      · simp only [hstatus, ne_eq, not_false_eq_true, if_true]
        rfl

/-- **A pane's name is only a name.** -/
theorem answer_natural (request : τ × HostRequest) :
    answer system (rename paneId) request (slot.map (mapId rename)) =
      ((answer system paneId request slot).1.mapId rename,
        (answer system paneId request slot).2.map (mapId rename)) := by
  obtain ⟨now, request⟩ := request
  cases request with
  | start spec => simp only [answer]; rw [startPane_natural]; rfl
  | check => simp only [answer]; rw [checkPane_natural]; rfl
  | write bytes => simp only [answer]; rw [writeInput_natural]; rfl
  | resize cols rows => simp only [answer]; rw [resizePane_natural]; rfl
  | stop => simp only [answer]; rw [stopPane_natural]; rfl
  | read limit => simp only [answer]; rw [tryReadOutput_natural]; rfl

end LocalPtyProcess

/-! ### Calls through a scope -/

namespace ScopedLocalPtyHost

variable {τ ρ : Type} (system : PtySystem τ ρ)

/-- `client_process` and `client_error`. -/
def clientReply (sessionId : String) (reply : HostReply) : HostReply :=
  reply.mapId (clientPaneId sessionId)

/-- A call of a session on the shared host. -/
def answer (sessionId : String) (host : LocalPtyHost ρ) (paneId : String) (request : τ × HostRequest) :
    HostReply × LocalPtyHost ρ :=
  (host.onPane (hostPaneId sessionId paneId)
    (LocalPtyProcess.answer system (hostPaneId sessionId paneId) request)).map (clientReply sessionId) id

/-- What the sessions see of calls on the shared host: session, pane and request, in order. -/
def replies (host : LocalPtyHost ρ) :
    List (String × String × τ × HostRequest) → List (String × HostReply)
  | [] => []
  | (sessionId, paneId, request) :: rest =>
    (sessionId, (answer system sessionId host paneId request).1) ::
      replies (answer system sessionId host paneId request).2 rest

end ScopedLocalPtyHost

/-- What a session sees of calls on a host of its own. -/
def LocalPtyHost.replies {τ ρ : Type} (system : PtySystem τ ρ) (host : LocalPtyHost ρ) :
    List (String × τ × HostRequest) → List HostReply
  | [] => []
  | (paneId, request) :: rest =>
    (host.onPane paneId (LocalPtyProcess.answer system paneId request)).1 ::
      replies system (host.onPane paneId (LocalPtyProcess.answer system paneId request)).2 rest

namespace ScopedLocalPtyHost

variable {τ ρ : Type} {system : PtySystem τ ρ}

theorem replies_eq (calls : List (String × String × τ × HostRequest)) (host : LocalPtyHost ρ) :
    replies system host calls =
      (Lib.sharedReplies (LocalPtyProcess.answer system) hostPaneId host.processes calls).map
        fun reply => (reply.1, clientReply reply.1 reply.2) := by
  induction calls generalizing host with
  | nil => rfl
  | cons call rest ih =>
    obtain ⟨sessionId, paneId, request⟩ := call
    rw [replies, ih]
    rfl

theorem own_replies_eq (calls : List (String × τ × HostRequest)) (host : LocalPtyHost ρ) :
    host.replies system calls = Lib.slotReplies (LocalPtyProcess.answer system) host.processes calls := by
  induction calls generalizing host with
  | nil => rfl
  | cons call rest ih =>
    obtain ⟨paneId, request⟩ := call
    rw [LocalPtyHost.replies, ih]
    rfl

theorem answer_renames (sessionId : String) :
    Lib.Renames (LocalPtyProcess.answer system) (LocalPtyProcess.answer system) (hostPaneId sessionId)
      (LocalPtyProcess.mapId (hostPaneId sessionId)) (clientReply sessionId) where
  reply paneId request slot := by
    rw [LocalPtyProcess.answer_natural]
    exact HostReply.mapId_mapId (clientPaneId_hostPaneId sessionId) _
  slot paneId request slot := by
    rw [LocalPtyProcess.answer_natural]

end ScopedLocalPtyHost

/-! ### Isolation -/

/-- The ids panes get: the first pane's, and those commands choose. -/
inductive AdmittedPaneId : String → Prop
  | initial : AdmittedPaneId "pane-1"
  | split {session : Session} {command : ControlCommandSummary} {split : PaneSplit}
      (plan : planPaneSplit session command = .ok split) : AdmittedPaneId split.newPaneId
  | tabNew {session : Session} {command : ControlCommandSummary} {tab : TabNew}
      (plan : planTabNew session command = .ok tab) : AdmittedPaneId tab.paneId

/-- A tab of any id can be asked for, so its pane is admitted. -/
theorem AdmittedPaneId.ofTab (tabId : String) (h : tabId ≠ "tab-1") :
    AdmittedPaneId (tabId ++ "-pane-1") := by
  have hfree : Session.initial.tabs.any (·.id == tabId) = false := by
    simpa [Session.initial] using h.symm
  have hplan : planTabNew Session.initial
      ⟨"client", 1, .tabNew, none, some tabId, .none, none, none⟩ = .ok {
        tabId
        title := tabId
        paneId := tabId ++ "-pane-1"
        newHost := hostWithPaneEnvironment (.local "local" (.new "sh")) "local" (tabId ++ "-pane-1") } := by
    have hactive : Session.initial.activePaneId = some "pane-1" := by decide
    have hhost : Session.initial.paneHost "pane-1" = some (.local "local" (.new "sh")) := by decide
    simp only [planTabNew, hactive, hhost, Option.getD_some, hfree, Bool.false_eq_true, if_false]
    rfl
  exact .tabNew hplan

/-- No session's id continues another one's after a colon. -/
def SessionsApart (sessionIds : Set String) : Prop :=
  ∀ sessionId ∈ sessionIds, ∀ other ∈ sessionIds, ∀ suffix, other ≠ sessionId ++ ":" ++ suffix

/-- What isolation asks: the keys of different panes differ, the scope gives a pane's own id back, and
whatever the sessions call, in any order, at any time and on any operating system, each sees what it
would see of a host of its own. -/
structure SessionsIsolated (sessionIds : Set String) : Prop where
  keys : Set.InjOn (fun id : String × String => ScopedLocalPtyHost.hostPaneId id.1 id.2)
    {id | id.1 ∈ sessionIds ∧ AdmittedPaneId id.2}
  back : ∀ sessionId ∈ sessionIds, ∀ paneId, AdmittedPaneId paneId →
    ScopedLocalPtyHost.clientPaneId sessionId (ScopedLocalPtyHost.hostPaneId sessionId paneId) = paneId
  observed : ∀ {τ ρ : Type} (system : PtySystem τ ρ) (calls : List (String × String × τ × HostRequest)),
    (∀ call ∈ calls, call.1 ∈ sessionIds) → ∀ sessionId ∈ sessionIds,
    Lib.repliesOf sessionId (ScopedLocalPtyHost.replies system .default calls) =
      LocalPtyHost.default.replies system (Lib.requestsOf sessionId calls)

namespace ScopedLocalPtyHost

theorem observed_of_apart {sessionIds : Set String} (hapart : SessionsApart sessionIds) {τ ρ : Type}
    (system : PtySystem τ ρ) (calls : List (String × String × τ × HostRequest))
    (hcalls : ∀ call ∈ calls, call.1 ∈ sessionIds) {sessionId : String}
    (hsession : sessionId ∈ sessionIds) :
    Lib.repliesOf sessionId (replies system .default calls) =
      LocalPtyHost.default.replies system (Lib.requestsOf sessionId calls) := by
  have hrenames : Lib.Renames (LocalPtyProcess.answer system) (LocalPtyProcess.answer system)
      (hostPaneId sessionId) (LocalPtyProcess.mapId (hostPaneId sessionId)) (clientReply sessionId) :=
    answer_renames sessionId
  have hisolated := Lib.sharedReplies_isolated hrenames calls (fun _ => none) (fun _ => none)
    (fun call hcall paneId hkey => hostPaneId_inj hkey
      (hapart _ (hcalls call hcall) _ hsession) (hapart _ hsession _ (hcalls call hcall)))
    (fun _ => rfl)
  rw [own_replies_eq, replies_eq]
  refine Eq.trans ?_ hisolated
  simp only [Lib.repliesOf, List.filter_map, List.map_map]
  refine List.map_congr_left fun reply hreply => ?_
  have hown : reply.1 = sessionId := by simpa using (List.mem_filter.mp hreply).2
  simp [hown]

/-- Nested sessions can name one key in two ways. -/
theorem hostPaneId_nested (sessionId suffix : String) :
    hostPaneId sessionId (suffix ++ ":t" ++ "-pane-1") =
      hostPaneId (sessionId ++ ":" ++ suffix) ("t" ++ "-pane-1") := by
  simp only [hostPaneId, String.append_assoc]
  rfl

theorem not_injOn_of_nested {sessionIds : Set String} {sessionId suffix : String}
    (hsession : sessionId ∈ sessionIds) (hother : sessionId ++ ":" ++ suffix ∈ sessionIds) :
    ¬ Set.InjOn (fun id : String × String => hostPaneId id.1 id.2)
      {id | id.1 ∈ sessionIds ∧ AdmittedPaneId id.2} := by
  intro hinj
  have hends : suffix ++ ":t" ≠ "tab-1" := by
    intro h
    have hlast := congrArg (fun text : String => text.toList.getLast?) h
    rw [String.toList_append] at hlast
    simp at hlast
  have hsame : (sessionId, suffix ++ ":t" ++ "-pane-1") = (sessionId ++ ":" ++ suffix, "t" ++ "-pane-1") :=
    hinj ⟨hsession, .ofTab _ hends⟩ ⟨hother, .ofTab "t" (by decide)⟩
      (hostPaneId_nested sessionId suffix)
  have hlength := congrArg (fun id : String × String => id.1.length) hsame
  have hcolon : ":".length = 1 := rfl
  simp only [String.length_append, hcolon] at hlength
  omega

end ScopedLocalPtyHost

/-- **Sessions are isolated exactly if their ids are apart.** The scopes of a set of sessions have
different keys for different panes, and every session sees of the shared host what it would see of its
own, if and only if no session's id is another one's, a colon, and more. -/
theorem sessions_isolated_iff (sessionIds : Set String) :
    SessionsIsolated sessionIds ↔ SessionsApart sessionIds := by
  constructor
  · rintro h sessionId hsession other hother suffix rfl
    exact ScopedLocalPtyHost.not_injOn_of_nested hsession hother h.keys
  · intro hapart
    refine ⟨?_, fun sessionId _ paneId _ => ScopedLocalPtyHost.clientPaneId_hostPaneId sessionId paneId,
      fun system calls hcalls sessionId hsession =>
        ScopedLocalPtyHost.observed_of_apart hapart system calls hcalls hsession⟩
    rintro ⟨sessionId, paneId⟩ ⟨hsession, -⟩ ⟨other, otherPaneId⟩ ⟨hother, -⟩ hkey
    obtain ⟨rfl, rfl⟩ := ScopedLocalPtyHost.hostPaneId_inj hkey (hapart _ hsession _ hother)
      (hapart _ hother _ hsession)
    rfl

/-- An operating system on which everything succeeds and no process exits or writes. -/
def PtySystem.quiet : PtySystem Unit Unit where
  containerRuntime := none
  openpty _ _ := .ok ()
  spawn _ _ _ := .ok ()
  tryWait _ _ := (.ok false, ())
  write _ _ _ := (.ok (), ())
  resize _ _ _ := (.ok (), ())
  received _ _ := ([], ())
  kill _ _ := (.ok (), ())
  wait _ _ := (.ok (), ())

/-- The call did what it was asked to and answers nothing else. -/
def HostReply.succeeded : HostReply → Bool
  | .done (.ok _) => true
  | _ => false

/-- Sessions `a` and `a:b`: a tab `b:t` of the first and a tab `t` of the second have one process, so
what is typed in a pane the second never started goes to the first one's. -/
theorem sessions_not_isolated :
    ¬ ∀ sessionIds : Set String, (∀ sessionId ∈ sessionIds, sessionId ≠ "") →
      SessionsIsolated sessionIds := by
  intro h
  have hobserved := (h {"a", "a:b"} (by simp)).observed PtySystem.quiet
    [("a", "b:t-pane-1", (), .start (.local "local" (.new "sh"))),
      ("a:b", "t-pane-1", (), .write [104, 105])] (by simp) "a:b" (by simp)
  exact absurd (congrArg (List.map HostReply.succeeded) hobserved) (by decide)

end Nmux
