import NetTool.Helper.DesiredState
import NetTool.Lib.Table
import NetTool.Lib.Run
import NetTool.Lib.Prog
import NetTool.Error
import NetTool.SafeApply.Model
import NetTool.SafeApply.Protocol
import NetTool.SafeApply.Refine
import NetTool.SafeApply.Confirm
import NetTool.SafeApply.Rollback
import NetTool.SafeApply.Agree
import NetTool.SafeApply.Replay
import NetTool.SafeApply.Orderly
import NetTool.SafeApply.Calm
import NetTool.Resource
import NetTool.Speed.Config
import NetTool.Speed.Lifecycle
import NetTool.Node.Prepare
import NetTool.Node.Coordinator
import NetTool.Node.Invariant
import NetTool.Node.Calls
import NetTool.Node.Effects
import NetTool.Node.Idempotent
import NetTool.Node.Atomic
import NetTool.Agent.Scheduler
import NetTool.Agent.Liveness
import NetTool.Node.History
import NetTool.Lib.Check
import NetTool.Node.Wire
import NetTool.Speed.Request
import NetTool.Node.Server
import NetTool.Node.Client
import NetTool.Node.Orchestrator
import NetTool.Node.Agreement
import NetTool.Speed.Rate
import NetTool.Agent.RunConfig
import NetTool.Lib.Slice
import NetTool.Packet.Generator
import NetTool.Dpdk.Transmit
import NetTool.Lib.Files
import NetTool.Helper.AtomicReplace
import NetTool.Helper.Hosts
import NetTool.Agent.SpeedRun
import NetTool.Agent.CleanUp
import NetTool.Lib.Numeral
import NetTool.Address
import NetTool.Hosts.Section
import NetTool.Hosts.Layout
import NetTool.Hosts.Parse
import NetTool.Hosts.Laws
import NetTool.NetworkManager.Executor
import NetTool.NetworkManager.Restore
import NetTool.NetworkManager.Terse
import NetTool.LinuxResources.Executor
import NetTool.LinuxResources.Specs
import NetTool.LinuxResources.Recovery
import NetTool.Lib.Slot
import NetTool.LinuxResources.Shared
import NetTool.PlatformNetwork.Executor
import NetTool.PlatformNetwork.Macos
import NetTool.PlatformNetwork.Windows
import NetTool.PlatformNetwork.Rollback
import NetTool.PlatformNetwork.Verify
import NetTool.SafeApply.Sweep
import NetTool.Helper.WindowsLoop
import NetTool.Capture.Reader
import NetTool.Capture.RoundTrip
import NetTool.Lib.OnesComplement
import NetTool.Lib.Serial
import NetTool.Packet.Bounds
import NetTool.Packet.Fragments
import NetTool.Packet.Tcp
import NetTool.Packet.FlowKey
import NetTool.Packet.Template
import NetTool.Agent.Authenticate
import NetTool.Lib.TwoRun
import NetTool.Node.Alike
import NetTool.Node.Isolation
import NetTool.Storage.ById
import NetTool.Dpdk.Preflight
import NetTool.Lib.Reader
import NetTool.Node.Frame
import NetTool.Speed.Handshake
import NetTool.Resource.Runs
import NetTool.Agent.Captures
import NetTool.Speed.Pacing
import NetTool.Speed.Phases
import NetTool.Node.Guard
import NetTool.Benchmark.Environment
import NetTool.PlatformNetwork.Boundary
import NetTool.Dpdk.Planning
import NetTool.Agent.RemoteMac
import NetTool.Speed.Jitter
import NetTool.Helper.Server
import NetTool.AfXdp.Redirect
