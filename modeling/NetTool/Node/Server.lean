import NetTool.Node.Coordinator
import NetTool.Node.Wire
import NetTool.Speed.Request
/-!
# Node.Server — the dispatcher of one control connection (`crates/node/src/server.rs`)

A connection has its own `NodeControlService`; the coordinator behind it is shared.  `dispatch` checks the envelope,
then the version agreed in the Hello, and hands the message to the coordinator; an error becomes an error message.
Other connections may use the coordinator between two calls of `handle_prepare`; a session it has is not taken away by
them.
-/
namespace NetTool
namespace Node

open Prog Speed

structure NodeControlService where
  identity : LocalNodeIdentity
  expectedPeerNodeId : Bytes 16
  peerAddress : IpAddr
  bindAddress : IpAddr
  selectedMinor : Option Nat
  dpdkAvailable : Bool

/-- A connection: its service and the coordinator it shares. -/
structure Connection where
  service : NodeControlService
  coordinator : SessionCoordinator

abbrev Dispatch (α : Type) : Type := Prog Connection NetToolError α

def onCoordinator {α : Type} (m : Coord α) : Dispatch α :=
  zoom (·.coordinator) (fun coordinator connection => { connection with coordinator := coordinator }) m

/-! ## Capabilities -/

def capabilityTcpSpeed : Nat := 0x0001
def capabilityUdpSpeed : Nat := 0x0002
def capabilityBidirectional : Nat := 0x0003
def capabilityLatency : Nat := 0x0004
def capabilityDpdk : Nat := 0x0005
def capabilityAfXdp : Nat := 0x0006
def capabilityRio : Nat := 0x0007
def capabilityJumboFrame : Nat := 0x000B
def capabilityRawPacketGenerator : Nat := 0x000C
def capabilityLatencyUnderLoad : Nat := 0x000D

def runtimeCapabilities (dpdkAvailable : Bool) : List CapabilityMessage :=
  [(capabilityTcpSpeed, true), (capabilityUdpSpeed, true), (capabilityDpdk, dpdkAvailable),
    (capabilityRawPacketGenerator, dpdkAvailable)].map (fun p => ⟨p.1, 1, 1, p.2⟩)

/-! ## Checks of a request -/

def versionIncompatible : NetToolError :=
  .new .protocolIncompatible "control request protocol version is incompatible" false

def validateEnvelope (build : Build) (request : Envelope) : Result Unit := do
  if request.protocolMajor ≠ build.major ∨ build.minor < request.protocolMinor then .error versionIncompatible
  if request.requestId.length ≠ 16 ∨ request.requestId.all (· == 0) then
    .error (protocol "control request ID must be non-zero 128-bit bytes")

def parseSessionId (value : List UInt8) : Result SessionId :=
  if h : value.length = 16 then
    if value.all (· == 0) then .error (protocol "session ID must not be zero") else .ok ⟨value, h⟩
  else .error (protocol "session ID must be 128-bit bytes")

def authorizationTtl (prepare : PrepareTest) : Result Nat :=
  match ((checkedAdd prepare.warmupMs prepare.durationMs).bind (checkedAdd · prepare.cooldownMs)).bind
      (checkedAdd · 999) with
  | none => .error (invalid "test duration overflow")
  | some total => .ok (min 3600 (max 10 (saturatingAdd (total / 1000) 10)))

/-- `u16::try_from`. -/
def toPort (message : String) (value : Nat) : Result UInt16 :=
  if value < 2 ^ 16 then .ok (UInt16.ofNat value) else .error (invalid message)

def stateName : NodeConnectionState → String
  | .testReady => "TEST_READY"
  | .running => "RUNNING"
  | .finalizing => "FINALIZING"
  | .completed => "COMPLETED"
  | .canceled => "CANCELED"
  | _ => "FAILED"

/-- `SessionCoordinator::authorization`: it looks at the TCP and the UDP sessions. -/
def SessionCoordinator.authorization (c : SessionCoordinator) (sid : SessionId) : Option DataPlaneAuthorization :=
  ((c.sessions.tcp.lookup sid).map (·.authorization)).or ((c.sessions.udp.lookup sid).map (·.authorization))

def unsupported (message : String) : NetToolError := .new .unsupported message false

/-! ## Prepare -/

def defaultTcpPayloadBytes : Nat := 64 * 1024
def defaultUdpDatagramBytes : Nat := 1200
def defaultUdpIdleTimeoutMilliseconds : Nat := 2000

namespace NodeControlService

variable (service : NodeControlService) (prepare : PrepareTest) (sid : SessionId)

def validPciBdf : String → Bool := isPciBdf

def validUnicastMac : String → Bool := isUnicastMac

/-- The checks at the head of `handle_prepare`. -/
def checkPrepare : Result Unit := do
  if prepare.direction ≠ "upload" ∧ prepare.direction ≠ "download" ∧ prepare.direction ≠ "bidirectional" then
    .error (unsupported "unsupported speed direction")
  if prepare.backend = "dpdk" ∧ !service.dpdkAvailable then
    .error (.new .backendNotBuilt "Node DPDK runtime is not built" false)
  if acceleratedBackend prepare.backend ∧ !validPciBdf prepare.acceleratedPciAddress then
    .error (invalid "accelerated prepare requires a valid PCI BDF")
  if prepare.backend = "dpdk" ∧ !validPciBdf prepare.remoteAcceleratedPciAddress then
    .error (invalid "DPDK prepare requires a valid remote PCI BDF")
  if prepare.backend = "dpdk" ∧ prepare.testType = "raw" ∧ !validUnicastMac prepare.remoteMacAddress then
    .error (invalid "DPDK raw prepare requires a valid remote unicast MAC")

def dpdkReceiverRequest (ttl : Nat) : PrepareDpdkReceiverRequest where
  sessionId := sid
  operationId := prepare.operationId
  sourceNodeId := service.expectedPeerNodeId
  pciAddress := prepare.remoteAcceleratedPciAddress
  durationMilliseconds := prepare.durationMs
  remoteMacAddress := prepare.remoteMacAddress
  authorizationTtlSeconds := ttl

def handleDpdkPrepare (os : Os) (now ttl : Nat) : Coord PrepareTestResponse := do
  if prepare.direction ≠ "upload" then
    fail (unsupported "DPDK raw receiver is currently supported for upload only")
  else
    let _ ← prepareDpdkReceiver (service.dpdkReceiverRequest prepare sid ttl) os now
    let c ← get
    -- the DPDK sessions are not looked at, so there is no tag
    pure ⟨true, 0, ((c.authorization sid).map (·.authorizationTag)).getD "", 0⟩

def tcpRunConfig (streams : UInt16) : TcpRunConfig where
  streams := streams
  payloadBytes := max prepare.payloadSize defaultTcpPayloadBytes
  warmupMilliseconds := prepare.warmupMs
  measurementMilliseconds := prepare.durationMs

def tcpRequest (streams : UInt16) (ttl : Nat) : PrepareTcpRequest where
  sessionId := sid
  operationId := prepare.operationId
  sourceNodeId := service.expectedPeerNodeId
  sourceAddress := service.peerAddress
  bindAddress := .new service.bindAddress 0
  config := tcpRunConfig prepare streams
  authorizationTtlSeconds := ttl

def tcpBidirectionalRequest (streams receivePort : UInt16) (ttl : Nat) : PrepareTcpBidirectionalRequest where
  sessionId := sid
  operationId := prepare.operationId
  sourceNodeId := service.expectedPeerNodeId
  sourceAddress := service.peerAddress
  bindAddress := .new service.bindAddress 0
  destination := .new service.peerAddress receivePort
  config := tcpRunConfig prepare streams
  authorizationTtlSeconds := ttl

def tcpSenderRequest (streams receivePort : UInt16) (ttl : Nat) : PrepareTcpSenderRequest where
  sessionId := sid
  operationId := prepare.operationId
  sourceNodeId := service.identity.nodeId
  sourceAddress := service.bindAddress
  destination := .new service.peerAddress receivePort
  config := tcpRunConfig prepare streams
  authorizationTtlSeconds := ttl

def handleTcpPrepare (os : Os) (now ttl : Nat) : Coord PrepareTcpResponse := do
  let streams ← ofExcept (toPort "TCP stream count is too large" (max prepare.streams 1))
  if prepare.direction = "upload" then prepareTcp (service.tcpRequest prepare sid streams ttl) os now
  else
    let receivePort ← ofExcept (toPort "TCP receiver port is outside the valid range" prepare.receiveDataPort)
    if receivePort = 0 then fail (invalid "TCP download requires a pre-bound receiver port")
    else if prepare.direction = "bidirectional" then
      prepareTcpBidirectional (service.tcpBidirectionalRequest prepare sid streams receivePort ttl) os now
    else prepareTcpSender (service.tcpSenderRequest prepare sid streams receivePort ttl) os now

/-- `(prepare.target_rate_bps != 0).then_some(prepare.target_rate_bps)`. -/
def targetRate : Option Nat := if prepare.targetRateBps ≠ 0 then some prepare.targetRateBps else none

def datagramBytes : Nat := max prepare.payloadSize defaultUdpDatagramBytes

def udpBidirectionalRequest (sourcePort receivePort : UInt16) (ttl : Nat) : PrepareUdpBidirectionalRequest where
  sessionId := sid
  operationId := prepare.operationId
  sourceNodeId := service.expectedPeerNodeId
  sourceAddress := .new service.peerAddress sourcePort
  bindAddress := service.bindAddress
  destination := .new service.peerAddress receivePort
  streamId := 0
  datagramBytes := datagramBytes prepare
  measurementMilliseconds := prepare.durationMs
  targetBitsPerSecond := targetRate prepare
  authorizationTtlSeconds := ttl

def udpSenderRequest (receivePort : UInt16) (ttl : Nat) : PrepareUdpSenderRequest where
  sessionId := sid
  operationId := prepare.operationId
  sourceNodeId := service.identity.nodeId
  sourceAddress := service.bindAddress
  destination := .new service.peerAddress receivePort
  streamId := 0
  datagramBytes := datagramBytes prepare
  measurementMilliseconds := prepare.durationMs
  targetBitsPerSecond := targetRate prepare
  authorizationTtlSeconds := ttl

def udpRequest (sourcePort : UInt16) (ttl : Nat) : PrepareUdpRequest where
  sessionId := sid
  operationId := prepare.operationId
  sourceNodeId := service.expectedPeerNodeId
  sourceAddress := .new service.peerAddress sourcePort
  bindAddress := .new service.bindAddress 0
  streamId := 0
  maximumDatagramBytes := datagramBytes prepare
  idleTimeoutMilliseconds := defaultUdpIdleTimeoutMilliseconds
  authorizationTtlSeconds := ttl

def handleUdpPrepare (os : Os) (now ttl : Nat) : Coord PrepareTestResponse := do
  if prepare.direction = "bidirectional" then
    let sourcePort ← ofExcept (toPort "UDP source port is outside the valid range" prepare.sourceDataPort)
    let receivePort ← ofExcept (toPort "UDP receiver port is outside the valid range" prepare.receiveDataPort)
    if sourcePort = 0 ∨ receivePort = 0 then
      fail (invalid "UDP bidirectional requires pre-bound source and receiver ports")
    else
      let response ← prepareUdpBidirectional (service.udpBidirectionalRequest prepare sid sourcePort
        receivePort ttl) os now
      let c ← get
      let sourceDataPort := ((c.authorization sid).map (·.destinationPort)).getD 0
      pure ⟨true, response.dataPort.toNat, response.authorizationTag, sourceDataPort.toNat⟩
  else if prepare.direction ≠ "upload" then
    let receivePort ← ofExcept (toPort "UDP receiver port is outside the valid range" prepare.receiveDataPort)
    if receivePort = 0 then fail (invalid "UDP download requires a pre-bound receiver port")
    else
      let response ← prepareUdpSender (service.udpSenderRequest prepare sid receivePort ttl) os now
      let c ← get
      let sourceDataPort := ((c.authorization sid).bind (·.sourcePort)).getD 0
      pure ⟨true, 0, response.authorizationTag, sourceDataPort.toNat⟩
  else
    let sourcePort ← ofExcept (toPort "UDP source port is outside the valid range" prepare.sourceDataPort)
    let response ← prepareUdp (service.udpRequest prepare sid sourcePort ttl) os now
    pure ⟨true, response.dataPort.toNat, response.authorizationTag, 0⟩

def handlePrepare (os : Os) (now : Nat) : Coord PrepareTestResponse := do
  let sid ← ofExcept (parseSessionId prepare.sessionId)
  ofExcept (service.checkPrepare prepare)
  let nowSeconds := now / nanosecondsPerSecond
  let ttl ← ofExcept (authorizationTtl prepare)
  if prepare.backend = "dpdk" ∧ prepare.testType = "raw" then service.handleDpdkPrepare prepare sid os nowSeconds ttl
  else if prepare.testType = "tcp" ∧ socketBackend prepare.backend then
    let response ← service.handleTcpPrepare prepare sid os nowSeconds ttl
    pure ⟨true, response.dataPort.toNat, response.authorizationTag, 0⟩
  else if prepare.testType = "udp" ∧ socketBackend prepare.backend then
    service.handleUdpPrepare prepare sid os nowSeconds ttl
  else fail (unsupported "test type/backend is not available in the socket Node runtime")

end NodeControlService

/-! ## Dispatch -/

def handleHello (build : Build) (hello : HelloRequest) : Dispatch ControlMessage := do
  let connection ← get
  let service := connection.service
  if service.selectedMinor.isSome then fail (protocol "Hello cannot be repeated on an active connection")
  else if hello.nodeId ≠ service.expectedPeerNodeId.1 then
    fail (.new .nodeTlsFailed "Hello Node ID does not match the authenticated peer" false)
  else if trimIsEmpty hello.nodeName ∨ hello.maxMinor < hello.minMinor ∨ build.minor < hello.minMinor then
    fail (.new .protocolIncompatible "Hello version range or Node name is invalid" false)
  else
    let selectedMinor := min hello.maxMinor build.minor
    modify (fun connection => { connection with service :=
      { connection.service with selectedMinor := some selectedMinor } })
    pure (.helloResponse ⟨selectedMinor, service.identity.nodeId.1, service.identity.name⟩)

/-- The commands a connection answers after its Hello. -/
def command (service : NodeControlService) (message : ControlMessage) (os : Os) (now : Nat) : Dispatch ControlMessage :=
  match message with
  | .capabilityRequest => pure (.capabilityResponse (runtimeCapabilities service.dpdkAvailable))
  | .prepareTest prepare => do
    let response ← onCoordinator (service.handlePrepare prepare os now)
    pure (.prepareTestResponse response)
  | .startTest request => do
    let sid ← ofExcept (parseSessionId request.sessionId)
    let state ← onCoordinator (start sid request.operationId request.startAtUnixNanoseconds now)
    pure (.testStatus ⟨sid.1, stateName state⟩)
  | .stopTest request => do
    let sid ← ofExcept (parseSessionId request.sessionId)
    let state ← onCoordinator (stop sid request.operationId)
    pure (.testStatus ⟨sid.1, stateName state⟩)
  | .testResultRequest sessionId => do
    let sid ← ofExcept (parseSessionId sessionId)
    let connection ← get
    let result ← ofExcept (testResult connection.coordinator sid)
    pure (.testResult result)
  | .ping nonce => pure (.pong nonce)
  | _ => fail (protocol "message type is not valid as a server request")

/-- The part of `dispatch_message` for what comes after the Hello. -/
def afterHello (message : ControlMessage) (protocolMinor : Nat) (os : Os) (now : Nat) : Dispatch ControlMessage := do
  let connection ← get
  match connection.service.selectedMinor with
  | none => fail (protocol "Hello must complete before control commands")
  | some selected =>
    if selected < protocolMinor then
      fail (.new .protocolIncompatible "control request exceeds the negotiated protocol minor" false)
    else command connection.service message os now

def dispatchMessage (build : Build) (request : Envelope) (os : Os) (now : Nat) : Dispatch ControlMessage := do
  ofExcept (validateEnvelope build request)
  match request.message with
  | none => fail (protocol "control request has no message")
  | some (.helloRequest hello) => handleHello build hello
  | some message => afterHello message request.protocolMinor os now

def protocolError (error : NetToolError) : ProtocolError := ⟨error.code.asStr, error.message, error.retryable⟩

def dispatch (build : Build) (request : Envelope) (os : Os) (now : Nat) (connection : Connection) :
    Envelope × Connection :=
  let answered := dispatchMessage build request os now connection
  let message := match answered.1 with
    | .ok message => message
    | .error error => .error (protocolError error)
  (⟨build.major, answered.2.service.selectedMinor.getD build.minor, request.requestId, some message⟩, answered.2)

end Node
end NetTool
