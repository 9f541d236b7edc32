import Nmux.Core.Events
import Nmux.Core.InterimText
import Nmux.Core.PaneTree
import Nmux.Core.SessionNodes
import Nmux.Daemon.Attach
import Nmux.Daemon.Control
import Nmux.Daemon.Output
import Nmux.Patch.Retention
import Nmux.Publish.Interim
import Nmux.Publish.Panes
import Nmux.Publish.Session
import Nmux.Versions.Session
import Nmux.Client.Frames
import Nmux.Lib.OrderedMap
import Nmux.Client.AttachState
import Nmux.Delivery.History
import Nmux.Delivery.Writer
import Nmux.Delivery.Stream
import Nmux.Delivery.Events
import Nmux.Delivery.Convergence
import Nmux.Workspace.Tree
import Nmux.Workspace.WellFormed
import Nmux.Daemon.SessionControl
import Nmux.Control.Agreement
import Nmux.Control.Reachable
import Nmux.Control.Frames
import Nmux.Control.Atomic
import Nmux.Core.WorkspaceFrames
import Nmux.Client.Workspace
import Nmux.Workspace.Published
import Nmux.Control.PaneIds
import Nmux.Host.Scoped
import Nmux.Host.Sizes
import Nmux.Registry.Kill
import Nmux.Registry.Creation
import Nmux.Live.Updates
import Nmux.Core.Scheduler
import Nmux.Terminal.Chunks
import Nmux.Live.Arbitration
import Nmux.Tui.Agreement
import Nmux.Ghostty.ModeQuery
import Nmux.Scrollback.Ranges
import Nmux.Core.Reported
import Nmux.Workspace.Split
import Nmux.Client.CacheUpdates
import Nmux.Wire.Timeouts
import Nmux.Terminal.Scrollback
import Nmux.Ghostty.FastPath
import Nmux.Tui.Typed
import Nmux.Live.Replay
import Nmux.Client.Suppression
import Nmux.Live.Paste
import Nmux.Daemon.Handoff
import Nmux.Delivery.Budget
import Nmux.Tui.Overlay
import Nmux.Tui.Columns
import Nmux.Screen.Keys
import Nmux.Screen.Visible
import Nmux.Tui.Partition
import Nmux.Ghostty.WorkingDirectory
import Nmux.Daemon.Ready
import Nmux.Tui.SgrMouse
import Nmux.Core.TraceContainer
import Nmux.Delivery.Reliable
import Nmux.Screen.Scrolling
import Nmux.Screen.Saved
import Nmux.Wire.TcpAuth
import Nmux.Screen.Reattached
import Nmux.Screen.Fetched
import Nmux.Lib.Aligned
import Nmux.Live.Observers
import Nmux.Live.Watched
import Nmux.Live.Leaves
