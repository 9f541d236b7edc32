import Nmux.Core.Host

/-! The host that runs panes on pseudo-terminals of this machine. What it asks of the operating system
is a parameter: every answer may depend on when it is given and on the process it is about, and on
nothing else. Each call of the host looks up one pane and leaves the others alone. -/
namespace Nmux

inductive ProcessStatus where
  | running
  | exited
deriving DecidableEq, Repr

structure PaneProcess where
  paneId : String
  hostId : String
  status : ProcessStatus
deriving DecidableEq, Repr

/-- A window size, as the terminal is given it. Pixels are always 0. -/
structure PtySize where
  rows : UInt16
  cols : UInt16
deriving DecidableEq, Repr

/-! ### Spawn commands -/

structure HostSpawnCommand where
  program : String
  args : List String
  workingDir : Option String
  env : List (String × String)
deriving DecidableEq, Repr

def HostSpawnCommand.fromCommand (command : CommandSpec) : HostSpawnCommand where
  program := command.program
  args := command.args
  workingDir := command.workingDir
  env := command.env

def containerSpawnCommand (runtime image : String) (command : CommandSpec) (allocateTty : Bool) :
    HostSpawnCommand where
  program := runtime
  args := ["run", "--rm", "-i"] ++ (if allocateTty then ["-t"] else []) ++
    (match command.workingDir with
      | none => []
      | some workingDir => ["--workdir", workingDir]) ++
    command.env.flatMap (fun (key, value) => ["-e", key ++ "=" ++ value]) ++
    [image, command.program] ++ command.args
  workingDir := none
  env := []

/-- Sandboxes are for macOS only. -/
def sandboxSpawnCommand (hostId profile : String) : Except HostError HostSpawnCommand :=
  .error (.unsupportedHostKind hostId (.sandbox profile))

def spawnCommandForHost (runtime : String) (spec : HostSpec) (allocateTty : Bool) :
    Except HostError HostSpawnCommand :=
  match spec.kind with
  | .localHost => .ok (.fromCommand spec.command)
  | .container image => .ok (containerSpawnCommand runtime image spec.command allocateTty)
  | .sandbox profile => sandboxSpawnCommand spec.id profile

/-! ### The operating system -/

/-- The kinds of I/O error that are told apart somewhere. -/
inductive IoErrorKind where
  | brokenPipe
  | invalidInput
  | unexpectedEof
  | connectionReset
  | notConnected
  | timedOut
  | wouldBlock
  | invalidData
  | other
deriving DecidableEq, Repr

structure IoError where
  kind : IoErrorKind
  rawOsError : Option Int
  message : String
deriving DecidableEq, Repr

/-- What the host uses of the operating system, at a time `τ` and for a process `ρ`. `spawn` stands for
everything between the terminal and the pump of its output, with the operation that failed;
`tryWait` says whether the process has exited, `received` what it wrote since the last time. -/
structure PtySystem (τ ρ : Type) where
  containerRuntime : Option String
  openpty : τ → PtySize → Except IoError Unit
  spawn : τ → PtySize → HostSpawnCommand → Except (String × IoError) ρ
  tryWait : τ → ρ → Except IoError Bool × ρ
  write : τ → ρ → List UInt8 → Except IoError Unit × ρ
  resize : τ → ρ → PtySize → Except IoError Unit × ρ
  received : τ → ρ → List UInt8 × ρ
  kill : τ → ρ → Except IoError Unit × ρ
  wait : τ → ρ → Except IoError Unit × ρ

def hostIoError (paneId operation : String) (error : IoError) : HostError :=
  .io paneId operation error.message

/-! ### The host -/

structure LocalPtyProcess (ρ : Type) where
  process : PaneProcess
  child : ρ
  pendingOutput : List UInt8

/-- The processes by pane. -/
structure LocalPtyHost (ρ : Type) where
  processes : String → Option (LocalPtyProcess ρ)

def LocalPtyHost.default {ρ : Type} : LocalPtyHost ρ := ⟨fun _ => none⟩

namespace LocalPtyProcess

variable {τ ρ : Type} (system : PtySystem τ ρ) (now : τ) (paneId : String)

/-- `u16::try_from(value).unwrap_or(u16::MAX)`. -/
def clampedU16 (value : UInt32) : UInt16 := if value.toNat < 2 ^ 16 then value.toUInt16 else 65535

/-- The window a process is started in. -/
def initialPtySize (spec : HostSpec) : PtySize :=
  let (cols, rows) := spec.command.initialSize.getD (80, 24)
  { rows := clampedU16 rows, cols := clampedU16 cols }

/-- The window a resize asks for, `as u16`. -/
def resizedPtySize (cols rows : UInt32) : PtySize := { rows := rows.toUInt16, cols := cols.toUInt16 }

/-- `start_pane`, for what the host has under the pane's id. -/
def startPane (spec : HostSpec) (slot : Option (LocalPtyProcess ρ)) :
    Except HostError PaneProcess × Option (LocalPtyProcess ρ) :=
  if (slot.any fun process => process.process.status == .running) = true then
    (.error (.alreadyRunning paneId), slot)
  else
    match system.openpty now (initialPtySize spec) with
    | .error error => (.error (hostIoError paneId "openpty" error), slot)
    | .ok _ =>
      match spawnCommandForHost (system.containerRuntime.getD "docker") spec true with
      | .error error => (.error error, slot)
      | .ok command =>
        match system.spawn now (initialPtySize spec) command with
        | .error (operation, error) => (.error (hostIoError paneId operation error), slot)
        | .ok child =>
          let process : PaneProcess := { paneId, hostId := spec.id, status := .running }
          (.ok process, some { process, child, pendingOutput := [] })

/-- The process after a `try_wait` that found it exited, or not. -/
def waited (process : LocalPtyProcess ρ) (child : ρ) (exited : Bool) : LocalPtyProcess ρ :=
  { process with
    process := if exited then { process.process with status := .exited } else process.process
    child }

/-- `reap_exited_process`. -/
def reapExitedProcess (slot : Option (LocalPtyProcess ρ)) :
    Except HostError Bool × Option (LocalPtyProcess ρ) :=
  match slot with
  | none => (.error (.notRunning paneId), none)
  | some process =>
    if process.process.status ≠ .running then (.ok true, some process)
    else
      match system.tryWait now process.child with
      | (.error error, child) =>
        (.error (hostIoError paneId "try_wait" error), some { process with child })
      | (.ok exited, child) => (.ok exited, some (process.waited child exited))

/-- A call on a process that has been found running: `reap_exited_process`, then `process_mut`. -/
def running {α : Type} (slot : Option (LocalPtyProcess ρ))
    (call : LocalPtyProcess ρ → Except HostError α × Option (LocalPtyProcess ρ)) :
    Except HostError α × Option (LocalPtyProcess ρ) :=
  match reapExitedProcess system now paneId slot with
  | (.error error, slot) => (.error error, slot)
  | (.ok true, slot) => (.error (.notRunning paneId), slot)
  | (.ok false, none) => (.error (.notRunning paneId), none)
  | (.ok false, some process) =>
    if process.process.status ≠ .running then (.error (.notRunning paneId), some process)
    else call process

/-- `check_pane`. -/
def checkPane (slot : Option (LocalPtyProcess ρ)) :
    Except HostError Unit × Option (LocalPtyProcess ρ) :=
  running system now paneId slot fun process => (.ok (), some process)

def closedPaneWriteError (error : IoError) : Bool :=
  error.kind == .brokenPipe || error.rawOsError == some 5

/-- `write_input`. A write to a closed terminal is one to a process that has exited, if it has. -/
def writeInput (bytes : List UInt8) (slot : Option (LocalPtyProcess ρ)) :
    Except HostError Unit × Option (LocalPtyProcess ρ) :=
  running system now paneId slot fun process =>
    match system.write now process.child bytes with
    | (.ok _, child) => (.ok (), some { process with child })
    | (.error error, child) =>
      if closedPaneWriteError error then
        match reapExitedProcess system now paneId (some { process with child }) with
        | (.error reaped, slot) => (.error reaped, slot)
        | (.ok true, slot) => (.error (.notRunning paneId), slot)
        | (.ok false, slot) => (.error (hostIoError paneId "write_input" error), slot)
      else (.error (hostIoError paneId "write_input" error), some { process with child })

/-- `resize_pane`. -/
def resizePane (cols rows : UInt32) (slot : Option (LocalPtyProcess ρ)) :
    Except HostError Unit × Option (LocalPtyProcess ρ) :=
  running system now paneId slot fun process =>
    match system.resize now process.child (resizedPtySize cols rows) with
    | (.error error, child) => (.error (hostIoError paneId "resize_pane" error), some { process with child })
    | (.ok _, child) => (.ok (), some { process with child })

/-- The kill of `stop_pane`: a process that is gone need not be killed. -/
def killChild (child : ρ) : Except IoError Unit × ρ :=
  match system.tryWait now child with
  | (.error error, child) => (.error error, child)
  | (.ok true, child) => (.ok (), child)
  | (.ok false, child) =>
    match system.kill now child with
    | (.ok _, child) => (.ok (), child)
    | (.error error, child) =>
      if error.kind = .invalidInput ∨ error.rawOsError = some 22 then
        match system.tryWait now child with
        | (.error waited, child) => (.error waited, child)
        | (.ok true, child) => (.ok (), child)
        | (.ok false, child) => (.error error, child)
      else (.error error, child)

/-- `stop_pane`. The process is forgotten whatever comes of the stop. -/
def stopPane (slot : Option (LocalPtyProcess ρ)) :
    Except HostError PaneProcess × Option (LocalPtyProcess ρ) :=
  match slot with
  | none => (.error (.notRunning paneId), none)
  | some process =>
    if process.process.status = .exited then (.ok process.process, none)
    else
      match killChild system now process.child with
      | (.error error, _) => (.error (hostIoError paneId "stop" error), none)
      | (.ok _, child) =>
        match (system.wait now child).1 with
        | .error error => (.error (hostIoError paneId "stop" error), none)
        | .ok _ => (.ok { process.process with status := .exited }, none)

/-- `try_read_output`, into a buffer of `limit` bytes. -/
def tryReadOutput (limit : Nat) (slot : Option (LocalPtyProcess ρ)) :
    Except HostError (List UInt8) × Option (LocalPtyProcess ρ) :=
  match slot with
  | none => (.error (.notRunning paneId), none)
  | some process =>
    let (received, child) := system.received now process.child
    let pending := process.pendingOutput ++ received
    let process := { process with child, pendingOutput := pending.drop limit }
    if 0 < (pending.take limit).length then (.ok (pending.take limit), some process)
    else if process.process.status ≠ .running then (.ok [], some process)
    else
      match system.tryWait now process.child with
      | (.error error, child) =>
        (.error (hostIoError paneId "try_wait" error), some { process with child })
      | (.ok exited, child) => (.ok [], some (process.waited child exited))

end LocalPtyProcess

/-! ### Calls -/

/-- A call on the host, without its pane. -/
inductive HostRequest where
  | start (spec : HostSpec)
  | check
  | write (bytes : List UInt8)
  | resize (cols rows : UInt32)
  | stop
  | read (limit : Nat)
deriving DecidableEq, Repr

inductive HostReply where
  | process (result : Except HostError PaneProcess)
  | done (result : Except HostError Unit)
  | output (result : Except HostError (List UInt8))

/-- How the host answers a request at a time, from what it has under the pane's id. -/
def LocalPtyProcess.answer {τ ρ : Type} (system : PtySystem τ ρ) (paneId : String)
    (request : τ × HostRequest) (slot : Option (LocalPtyProcess ρ)) :
    HostReply × Option (LocalPtyProcess ρ) :=
  match request with
  | (now, .start spec) => (startPane system now paneId spec slot).map .process id
  | (now, .check) => (checkPane system now paneId slot).map .done id
  | (now, .write bytes) => (writeInput system now paneId bytes slot).map .done id
  | (now, .resize cols rows) => (resizePane system now paneId cols rows slot).map .done id
  | (now, .stop) => (stopPane system now paneId slot).map .process id
  | (now, .read limit) => (tryReadOutput system now paneId limit slot).map .output id

namespace LocalPtyHost

variable {τ ρ : Type}

/-- A call on the process of one pane. -/
def onPane {α : Type} (host : LocalPtyHost ρ) (paneId : String)
    (call : Option (LocalPtyProcess ρ) → α × Option (LocalPtyProcess ρ)) : α × LocalPtyHost ρ :=
  ((call (host.processes paneId)).1,
    ⟨Function.update host.processes paneId (call (host.processes paneId)).2⟩)

end LocalPtyHost

def paneOutputHandoffChunkBytes : Nat := 4096

/-- The host, at a time, as the server sees it. -/
def ProcessHost.localPty {τ ρ : Type} (system : PtySystem τ ρ) (now : τ) :
    ProcessHost (LocalPtyHost ρ) where
  startPane host paneId spec :=
    (host.onPane paneId (LocalPtyProcess.startPane system now paneId spec)).map (·.map fun _ => ()) id
  checkPane host paneId := host.onPane paneId (LocalPtyProcess.checkPane system now paneId)
  writeInput host paneId bytes := host.onPane paneId (LocalPtyProcess.writeInput system now paneId bytes)
  resizePane host paneId cols rows :=
    host.onPane paneId (LocalPtyProcess.resizePane system now paneId cols rows)
  stopPane host paneId :=
    (host.onPane paneId (LocalPtyProcess.stopPane system now paneId)).map (·.map fun _ => ()) id
  tryReadOutput host paneId :=
    host.onPane paneId (LocalPtyProcess.tryReadOutput system now paneId paneOutputHandoffChunkBytes)

end Nmux
