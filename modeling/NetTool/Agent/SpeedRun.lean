import NetTool.Agent.RunConfig
import NetTool.Dpdk.Transmit
/-!
# Agent.SpeedRun — `speed.run` of the Agent (`apps/agent/src/action_speed.rs`)

`execute_speed` checks the request, connects to the Node, binds its own endpoints, prepares the remote session and then
runs one of three executors.  What the machine, the storage and the engines do in a run is given (`Surroundings`); what
the Node answers is a `Link`.  The run leaves a list of events behind, the last one first.
-/
namespace NetTool
namespace Agent

open Prog Speed Node

/-! ## What a run leaves behind -/

inductive RunEvent
  | sent (envelope : Envelope)
  | accepted (prepared : PreparedRemoteSpeedSession)
  | received (result : TestResult)
  | terminated (error : NetToolError)

/-- The Node at the other end, and the events so far. -/
structure World (σ : Type) where
  peer : σ
  events : List RunEvent

abbrev RunM (σ : Type) := Prog (World σ) NetToolError

section
variable {σ : Type}

def World.add (event : RunEvent) (w : World σ) : World σ := { w with events := event :: w.events }

def note (event : RunEvent) : RunM σ Unit := modify (World.add event)

/-- A link that notes what it is given. -/
def logged (link : Link σ) : Link (World σ) := fun envelope => do
  note (.sent envelope)
  zoom (·.peer) (fun peer w => { w with peer := peer }) (link envelope)

end

/-! ## What a run is given -/

inductive AcceleratedBackend
  | dpdk | afXdp | rio

def AcceleratedBackend.fromId (value : String) : Option AcceleratedBackend :=
  if value = "dpdk" then some .dpdk
  else if value = "af_xdp" then some .afXdp
  else if value = "rio" then some .rio
  else none

inductive Platform
  | linux | macOs | windows | unknown
  deriving DecidableEq

structure Nic where
  name : String
  pciAddress : Option String

/-- What the two checks below read of a report. -/
structure HardwareReport where
  platform : Platform
  afXdpCapable : Bool
  afXdpZeroCopyCapable : Bool
  nics : List Nic

/-- The build of the Agent: its platform and the accelerated backends that are linked. -/
structure AgentBuild where
  windows : Bool
  dpdkBuilt : Bool
  afXdpBuilt : Bool
  rioBuilt : Bool

/-- The machine, the storage and the engines during one run.  `sessionId` is what `random_session_id` returned; the
other identifiers are the request IDs that are drawn for the exchanges.  `polls` is the number of times the deadline of
the result is found not to have passed. -/
structure Surroundings where
  agent : AgentBuild
  probeEnvironment : Result HardwareReport
  resolveTrustedNode : Result (Option String)
  connect : Result (NodeControlClient × IpAddr)
  udpBind : Except String Unit
  udpPort : Except String UInt16
  tcpBind : Except String Unit
  tcpPort : Except String UInt16
  sessionId : Result SessionId
  beginSession : Result Unit
  markRunning : Result Unit
  completeSession : Result Unit
  now : Nat
  capabilitiesId : Except String (Bytes 16)
  prepareId : Except String (Bytes 16)
  startId : Except String (Bytes 16)
  stopId : Except String (Bytes 16)
  resultId : Nat → Except String (Bytes 16)
  polls : Nat
  queuePlan : Result Dpdk.QueuePlan
  burst : Dpdk.NativeDpdkExecutionRequest → Result Json
  engine : EngineConfig → Result Json

/-! ## Before the first message -/

def speedFailed (message : String) (retryable : Bool) : NetToolError := .new .speedFailed message retryable

def actionUnsupported (message : String) : NetToolError := .new .actionUnsupported message false

def backendNotBuilt (message : String) : NetToolError := .new .backendNotBuilt message false

structure LocalSpeedEndpoints where
  udpSocket : Bool
  tcpListener : Bool
  sourcePort : UInt16
  receivePort : UInt16

section
variable (env : Surroundings) (request : SpeedRunRequest)

def validateSocketSpeedOptions : Result Unit :=
  if request.autoTune ∨ request.latencyUnderLoad then
    .error (actionUnsupported "socket speed executor does not implement auto-tune or latency-under-load")
  else .ok ()

/-- An interface name is replaced by the PCI address it resolves to. -/
def resolveAcceleratedPci : Result SpeedRunRequest :=
  if AcceleratedBackend.fromId request.backend = none ∨ request.acceleratedPciAddress.isSome then .ok request
  else
    match request.acceleratedInterfaceName with
    | none => .error (Speed.invalid "accelerated NIC selector is missing")
    | some interface => do
      let report ← env.probeEnvironment
      match (report.nics.filter (fun nic => nic.name == interface)).filterMap (·.pciAddress) with
      | [pci] => pure { request with acceleratedPciAddress := some pci, acceleratedInterfaceName := none }
      | _ => .error (Speed.invalid "accelerated interface must resolve to exactly one PCI BDF")

/-- Every branch for an accelerated backend ends in an error. -/
def validateAcceleratedBackend : Result Unit :=
  match AcceleratedBackend.fromId request.backend with
  | some .dpdk =>
    if env.agent.dpdkBuilt then
      .error (actionUnsupported "native DPDK speed orchestration is not attached to the Agent runtime")
    else .error (backendNotBuilt "speed request is valid, but native DPDK is not linked in this build")
  | some .afXdp => do
    let report ← env.probeEnvironment
    if !env.agent.afXdpBuilt ∨ report.platform ≠ .linux ∨ !report.afXdpCapable ∨ !report.afXdpZeroCopyCapable then
      .error (backendNotBuilt
        "AF_XDP requires a linked Linux implementation and verified zero-copy runtime capability")
    else .error (actionUnsupported "AF_XDP speed orchestration is not attached to the Agent runtime")
  | some .rio =>
    if !env.agent.windows ∨ !env.agent.rioBuilt then
      .error (backendNotBuilt "RIO requires a linked Windows Registered I/O implementation")
    else .error (actionUnsupported "RIO speed orchestration is not attached to the Agent runtime")
  | none => .ok ()

/-- An error of the system, as an error of the run. -/
def inspect {α : Type} (message : String) (retryable : Bool) : Except String α → Result α
  | .ok a => .ok a
  | .error error => .error (speedFailed (message ++ error) retryable)

def bindIf (asked : Bool) (message : String) (bound : Except String Unit) : Result Unit :=
  if asked then inspect message true bound else .ok ()

def portIf (asked : Bool) (message : String) (port : Except String UInt16) : Result UInt16 :=
  if asked then inspect message false port else .ok 0

def bindLocalSpeedEndpoints : Result LocalSpeedEndpoints := do
  let udp := request.protocol == .udp
  let tcp := request.protocol == .tcp && Direction.receives request.direction
  bindIf udp "cannot bind UDP source endpoint: " env.udpBind
  bindIf tcp "cannot bind TCP receiver endpoint: " env.tcpBind
  let sourcePort ← portIf (udp && Direction.sends request.direction) "cannot inspect UDP source endpoint: " env.udpPort
  let receivePort ←
    (if udp && Direction.receives request.direction then
      inspect "cannot inspect UDP receiver endpoint: " false env.udpPort
    else portIf tcp "cannot inspect TCP receiver endpoint: " env.tcpPort)
  pure ⟨udp, tcp, sourcePort, receivePort⟩

/-- What a run has before its first message after the Hello. -/
structure Ready where
  request : SpeedRunRequest
  client : NodeControlClient
  address : IpAddr
  endpoints : LocalSpeedEndpoints
  sessionId : SessionId

def Ready.operationId (ready : Ready) : String := "speed-" ++ hexString ready.sessionId.1

def Ready.ports (ready : Ready) : LocalDataPlanePorts := ⟨ready.endpoints.sourcePort, ready.endpoints.receivePort⟩

def setUp : Result Ready := do
  request.validate
  let request ← resolveAcceleratedPci env request
  request.validate
  validateSocketSpeedOptions request
  match ← env.resolveTrustedNode with
  | none =>
    .error (.new .nodeNotPaired "speed target is not a trusted paired node with TLS connection material" false)
  | some _ =>
    validateAcceleratedBackend env request
    let (client, address) ← env.connect
    let endpoints ← bindLocalSpeedEndpoints env request
    let sid ← env.sessionId
    env.beginSession
    pure ⟨request, client, address, endpoints, sid⟩

end

/-! ## With the Node -/

section
variable {σ α : Type} (env : Surroundings) (build : Build) (ext : Externals) (link : Link σ) (ready : Ready)
  (prepared : PreparedRemoteSpeedSession)

/-- `let _ = prepared.stop(..)`. -/
def stopRemote : RunM σ Unit := do
  let _ ← attempt some (prepared.stop ready.client build (logged link) env.stopId (ready.operationId ++ "-stop"))
  pure ()

/-- A step whose failure is returned after the remote session was stopped. -/
def orStop (step : RunM σ α) : RunM σ α := do
  match ← attempt some step with
  | .ok a => pure a
  | .error error => do
    stopRemote env build link ready prepared
    fail error

-- folded, or a reading of the clock plus the delay is counted up to the bound one by one
@[irreducible] def startDelayNanoseconds : Nat := 200000000

/-- The head of the three executors. -/
def startRemote : RunM σ Unit := do
  let startAt ← ofOption (speedFailed "scheduled start overflow" false) (checkedAdd env.now startDelayNanoseconds)
  orStop env build link ready prepared
    (prepared.start ready.client build (logged link) env.startId (ready.operationId ++ "-start") startAt)

/-- The loop, over the number of times the deadline is found not to have passed. -/
def waitForRemoteResult : Nat → RunM σ TestResult
  | 0 => prepared.result ready.client build (logged link) (env.resultId 0) ext
  | polls + 1 => do
    match ← attempt some (prepared.result ready.client build (logged link) (env.resultId (polls + 1)) ext) with
    | .ok result => pure result
    | .error error => if error.retryable then waitForRemoteResult polls else fail error

def remoteResult : RunM σ TestResult := do
  let result ← orStop env build link ready prepared (waitForRemoteResult env build ext link ready prepared env.polls)
  note (.received result)
  pure result

def parseRemote (message : String) (result : TestResult) : Result Json :=
  match ext.fromSlice result.resultJson with
  | .ok value => .ok value
  | .error error => .error (protocol (message ++ error))

def oneWayReport (sender receiver : Json) : Json :=
  .object [("session_id", .string (hexString prepared.sessionId.1)), ("sender", sender), ("receiver", receiver)]

def runUploadSender : Result Json :=
  match ready.request.protocol with
  | .raw => Dpdk.runRawUpload env.burst env.queuePlan ready.request
  | .tcp => env.engine (.tcpSender (tcpSender ready.request prepared))
  | .udp =>
    if ready.endpoints.udpSocket then env.engine (.udpSender (udpSender ready.request prepared))
    else .error (speedFailed "UDP source socket is unavailable" false)

def executePreparedUpload : RunM σ Json := do
  startRemote env build link ready prepared
  let sender ← orStop env build link ready prepared (ofExcept (runUploadSender env ready prepared))
  let result ← remoteResult env build ext link ready prepared
  let receiver ← ofExcept (parseRemote ext "remote result JSON is invalid: " result)
  pure (oneWayReport prepared sender receiver)

def runDownloadReceiver : Result Json :=
  match ready.request.protocol with
  | .tcp => env.engine (.tcpReceiver (tcpReceiver ready.request prepared))
  | .udp => env.engine (.udpReceiver (udpReceiver ready.request prepared ready.address))
  | .raw => .error (actionUnsupported "raw download receiver is not attached")

/-- What `execute_prepared_download` looks at before it starts. -/
def checkDownloadEndpoints : Result Unit := do
  if ready.request.protocol = .tcp ∧ !ready.endpoints.tcpListener then
    .error (speedFailed "TCP download receiver endpoint is unavailable" false)
  if ready.request.protocol = .udp ∧ !ready.endpoints.udpSocket then
    .error (speedFailed "UDP download receiver endpoint is unavailable" false)

def executePreparedDownload : RunM σ Json := do
  ofExcept (checkDownloadEndpoints ready)
  startRemote env build link ready prepared
  let receiver ← orStop env build link ready prepared (ofExcept (runDownloadReceiver env ready prepared))
  let result ← remoteResult env build ext link ready prepared
  let sender ← ofExcept (parseRemote ext "remote sender result JSON is invalid: " result)
  pure (oneWayReport prepared sender receiver)

/-- Both engines run to their end; the receiver's error comes first.  Neither is followed by a stop. -/
def runBothWays : Result Json :=
  match ready.request.protocol with
  | .tcp =>
    if ready.endpoints.tcpListener then do
      let receiver ← env.engine (.tcpReceiver (tcpReceiver ready.request prepared))
      let sender ← env.engine (.tcpSender (tcpSender ready.request prepared))
      pure (.object [("protocol", .string "tcp"), ("sender", sender), ("receiver", receiver)])
    else .error (speedFailed "TCP bidirectional receiver endpoint is unavailable" false)
  | .udp =>
    if ready.endpoints.udpSocket then do
      let receiver ← env.engine (.udpReceiver (udpReceiver ready.request prepared ready.address))
      let sender ← env.engine (.udpSender (udpSender ready.request prepared))
      pure (.object [("protocol", .string "udp"), ("sender", sender), ("receiver", receiver)])
    else .error (speedFailed "UDP bidirectional receiver endpoint is unavailable" false)
  | .raw => .error (actionUnsupported "raw bidirectional executor is not attached")

def executePreparedBidirectional : RunM σ Json := do
  startRemote env build link ready prepared
  let both ← ofExcept (runBothWays env ready prepared)
  let result ← remoteResult env build ext link ready prepared
  let remote ← ofExcept (parseRemote ext "remote bidirectional result JSON is invalid: " result)
  pure (.object [("session_id", .string (hexString prepared.sessionId.1)), ("direction", .string "bidirectional"),
    ("local", both), ("remote", remote)])

def executePrepared : RunM σ Json :=
  match ready.request.direction with
  | .download => executePreparedDownload env build ext link ready prepared
  | .upload => executePreparedUpload env build ext link ready prepared
  | .bidirectional => executePreparedBidirectional env build ext link ready prepared

/-- A step whose failure ends the session in the storage. -/
def orTerminate (step : RunM σ α) : RunM σ α := do
  match ← attempt some step with
  | .ok a => pure a
  | .error error => do
    note (.terminated error)
    fail error

/-- How a run ends without a report: with the error it returns, or not at all. -/
inductive RunEnd
  | returned (error : NetToolError)
  | blocked

/-- The part of a run after the answer to the prepare was accepted.  Where the storage does not mark the session,
`mark_speed_running_or_terminate` still holds the lock of the storage when it asks `terminate_speed_persistence` to take
it again: the guard lives to the end of the `if let`. -/
def runPrepared : Prog (World σ) RunEnd Json :=
  match env.markRunning with
  | .error _ => fail .blocked
  | .ok () => mapError .returned do
    let value ← orTerminate (executePrepared env build ext link ready prepared)
    ofExcept env.completeSession
    pure value

def executeSpeed (request : SpeedRunRequest) : Prog (World σ) RunEnd Json := do
  let (ready, prepared) ← mapError .returned do
    let ready ← ofExcept (setUp env request)
    let prepared ← orTerminate (prepareRemoteSpeedSession ready.client build (logged link)
      env.capabilitiesId env.prepareId ready.request ready.operationId ready.sessionId ready.ports)
    note (.accepted prepared)
    pure (ready, prepared)
  runPrepared env build ext link ready prepared

end

end Agent
end NetTool
