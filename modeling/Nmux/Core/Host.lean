import Nmux.Protocol

/-! Hosts: what a pane's process is started from, and the calls the server makes on the host that
runs the processes. -/
namespace Nmux

/-- What runs in a pane. -/
structure CommandSpec where
  program : String
  args : List String
  workingDir : Option String
  env : List (String × String)
  initialSize : Option (UInt32 × UInt32)
deriving DecidableEq, Repr

def CommandSpec.new (program : String) : CommandSpec :=
  { program, args := [], workingDir := none, env := [], initialSize := none }

/-- Where it runs. -/
inductive HostKind where
  | localHost
  | container (image : String)
  | sandbox (profile : String)
deriving DecidableEq, Repr

structure HostSpec where
  id : String
  kind : HostKind
  command : CommandSpec
deriving DecidableEq, Repr

def HostSpec.local (id : String) (command : CommandSpec) : HostSpec :=
  { id, kind := .localHost, command }

/-! ### The process host -/

inductive HostError where
  | unsupportedHostKind (hostId : String) (kind : HostKind)
  | unsupportedOperation (paneId operation : String)
  | alreadyRunning (paneId : String)
  | notRunning (paneId : String)
  | io (paneId operation message : String)
deriving DecidableEq, Repr

/-- The derived `Debug` text of a host kind. -/
def HostKind.debug : HostKind → String
  | .localHost => "Local"
  | .container image => "Container \x7b image: " ++ image.quote ++ " \x7d"
  | .sandbox profile => "Sandbox \x7b profile: " ++ profile.quote ++ " \x7d"

def HostError.message : HostError → String
  | .unsupportedHostKind hostId kind => "unsupported host kind for " ++ hostId ++ ": " ++ kind.debug
  | .unsupportedOperation paneId operation =>
    "unsupported host operation " ++ operation ++ " for " ++ paneId
  | .alreadyRunning paneId => "pane process is already running: " ++ paneId
  | .notRunning paneId => "pane process is not running: " ++ paneId
  | .io paneId operation message =>
    "host I/O error during " ++ operation ++ " for " ++ paneId ++ ": " ++ message

/-- `ProcessHostOutput`: a host with its state, whatever it is. Output comes in chunks; an empty one
ends a read. The process a call returns is not used by the server and is left out. -/
structure ProcessHost (η : Type) where
  startPane : η → String → HostSpec → Except HostError Unit × η
  checkPane : η → String → Except HostError Unit × η
  writeInput : η → String → List UInt8 → Except HostError Unit × η
  resizePane : η → String → UInt32 → UInt32 → Except HostError Unit × η
  stopPane : η → String → Except HostError Unit × η
  tryReadOutput : η → String → Except HostError (List UInt8) × η

/-- A host on which every call succeeds and no process writes anything. -/
def ProcessHost.quiet : ProcessHost Unit where
  startPane _ _ _ := (.ok (), ())
  checkPane _ _ := (.ok (), ())
  writeInput _ _ _ := (.ok (), ())
  resizePane _ _ _ _ := (.ok (), ())
  stopPane _ _ := (.ok (), ())
  tryReadOutput _ _ := (.ok [], ())

end Nmux
