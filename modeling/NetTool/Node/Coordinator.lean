import NetTool.Lib.Run
import NetTool.Node.Prepare
/-!
# Node.Coordinator — starting, handing out, and ending a session (`crates/node/src/session.rs`)

`start` schedules a session, the `begin_and_take` family switches it to running and hands its endpoint out, and `stop`,
`complete` and `fail` end it and release its reservation.  `Call` collects the operations of the coordinator, and a run
is a list of calls with whatever the clock and the system answer.
-/
namespace NetTool
namespace Node

open Prog Speed Resource

inductive Json
  | null
  | bool (value : Bool)
  | number (text : String)
  | string (value : String)
  | array (items : List Json)
  | object (members : List (String × Json))

/-- The libraries the coordinator calls: SHA-256 and the JSON parser. -/
structure Externals where
  sha256 : List UInt8 → List UInt8
  fromSlice : List UInt8 → Except String Json

def nanosecondsPerSecond : Nat := 1000000000

def authorizationExpired (message : String) : NetToolError := .new .authorizationExpired message false

/-! ## Start -/

def matchingStart (sid : SessionId) (startAt : Nat) : OperationRecord → Option NodeConnectionState
  | .start stored storedStart state => if stored = sid ∧ storedStart = startAt then some state else none
  | _ => none

def matchingStop (sid : SessionId) : OperationRecord → Option NodeConnectionState
  | .stop stored state => if stored = sid then some state else none
  | _ => none

def start (sid : SessionId) (operationId : String) (startAt now : Nat) : Coord NodeConnectionState := do
  let c ← get
  match c.operations.lookup operationId with
  | some record => ofOption operationConflict (matchingStart sid startAt record)
  | none =>
    let s ← ofOption sessionMissing (c.session sid)
    if s.authorization.expiresAtUnixSeconds < now / nanosecondsPerSecond then
      fail (authorizationExpired "data-plane authorization expired")
    else if s.state ≠ .testReady then fail (invalidState "session is not ready")
    else if s.authorization.expiresAtUnixSeconds < startAt / nanosecondsPerSecond then
      fail (authorizationExpired "scheduled start exceeds data-plane authorization lifetime")
    else
      let _ ← onLifecycle sid (markReady .remotePeer)
      -- the readiness is kept when the schedule is refused
      onLifecycle sid (scheduleStart startAt now)
      modify (·.log operationId (.start sid startAt s.state))
      pure s.state

def beginScheduled (sid : SessionId) (now : Nat) : Coord NodeConnectionState := do
  let c ← get
  let s ← ofOption sessionMissing (c.session sid)
  if s.state ≠ .testReady then fail (invalidState "session is not waiting for scheduled start")
  else if s.authorization.expiresAtUnixSeconds < now / nanosecondsPerSecond then
    fail (authorizationExpired "data-plane authorization expired before scheduled start")
  else
    onLifecycle sid (beginWarmup now)
    let c ← get
    let s ← ofOption sessionMissing (c.session sid)
    modify (·.setSession sid (s.setState .running))
    pure .running

/-! ## Handing out the endpoint -/

def TcpSession.receiverConfig (s : TcpSession) (sid : SessionId) : AuthorizedTcpReceiverConfig :=
  ⟨s.config.streams, sid, s.authorization.authorizationTag⟩

def TcpSession.authorizedSender (s : TcpSession) (sid : SessionId) (run : TcpRunConfig) : AuthorizedTcpSenderConfig :=
  ⟨run, sid, s.authorization.authorizationTag⟩

def UdpSession.receiverConfig (s : UdpSession) (sid : SessionId) (sourcePort : UInt16) : UdpReceiverConfig where
  sessionId := sid
  streamId := s.streamId
  expectedSource := .new s.authorization.sourceAddress sourcePort
  maximumDatagramBytes := s.maximumDatagramBytes
  idleTimeoutMilliseconds := s.idleTimeoutMilliseconds
  authorizationTag := s.authorization.authorizationTag

def takeTcpListener (sid : SessionId) : Coord (TcpListener × AuthorizedTcpReceiverConfig) := do
  let c ← get
  let s ← ofOption sessionMissing (c.sessions.tcp.lookup sid)
  if s.senderDestination.isSome then fail (invalidState "session is a TCP sender")
  else if s.state ≠ .running then fail (invalidState "session is not running")
  else
    let listener ← ofOption (invalidState "session listener was already consumed") s.listener
    modify (·.setSession sid (.tcp { s with listener := none }))
    pure (listener, s.receiverConfig sid)

def takeTcpSender (sid : SessionId) : Coord PreparedSocketSender := do
  let c ← get
  let s ← ofOption sessionMissing (c.sessions.tcp.lookup sid)
  if s.state ≠ .running then fail (invalidState "session is not running")
  else if s.senderConfig.isSome then fail (invalidState "session is bidirectional")
  else
    let destination ← ofOption (invalidState "session is not a TCP sender") s.senderDestination
    modify (·.setSession sid (.tcp { s with senderDestination := none }))
    pure (.tcp (s.authorizedSender sid s.config) destination)

def takeTcpBidirectional (sid : SessionId) : Coord PreparedSocketBidirectional := do
  let c ← get
  let s ← ofOption sessionMissing (c.sessions.tcp.lookup sid)
  if s.state ≠ .running then fail (invalidState "session is not running")
  else
    let listener ← ofOption (invalidState "session listener was already consumed") s.listener
    modify (·.setSession sid (.tcp { s with listener := none }))
    let destination ← ofOption (invalidState "session is not bidirectional") s.senderDestination
    modify (·.setSession sid (.tcp { s with listener := none, senderDestination := none }))
    let run ← ofOption (invalidState "session sender configuration is missing") s.senderConfig
    modify (·.setSession sid (.tcp { s with listener := none, senderDestination := none, senderConfig := none }))
    pure (.tcp listener (s.receiverConfig sid) (s.authorizedSender sid run) destination)

def takeUdpSocket (sid : SessionId) : Coord (UdpSocket × UdpReceiverConfig) := do
  let c ← get
  let s ← ofOption sessionMissing (c.sessions.udp.lookup sid)
  if s.senderDestination.isSome then fail (invalidState "session is a UDP sender")
  else if s.state ≠ .running then fail (invalidState "session is not running")
  else
    let socket ← ofOption (invalidState "session UDP socket was already consumed") s.socket
    modify (·.setSession sid (.udp { s with socket := none }))
    let sourcePort ← ofOption (invalidState "UDP authorization is missing its source port") s.authorization.sourcePort
    pure (socket, s.receiverConfig sid sourcePort)

def takeUdpSender (sid : SessionId) : Coord PreparedSocketSender := do
  let c ← get
  let s ← ofOption sessionMissing (c.sessions.udp.lookup sid)
  if s.state ≠ .running then fail (invalidState "session is not running")
  else if s.senderConfig.isNone then fail (invalidState "session is not a UDP sender")
  else
    let destination ← ofOption (invalidState "session is not a UDP sender") s.senderDestination
    modify (·.setSession sid (.udp { s with senderDestination := none }))
    let socket ← ofOption (invalidState "session sender socket was already consumed") s.socket
    modify (·.setSession sid (.udp { s with senderDestination := none, socket := none }))
    let config ← ofOption (invalidState "session sender configuration is missing") s.senderConfig
    modify (·.setSession sid (.udp { s with senderDestination := none, socket := none, senderConfig := none }))
    pure (.udp socket config destination)

def takeUdpBidirectional (sid : SessionId) : Coord PreparedSocketBidirectional := do
  let c ← get
  let s ← ofOption sessionMissing (c.sessions.udp.lookup sid)
  if s.state ≠ .running then fail (invalidState "session is not running")
  else
    let socket ← ofOption (invalidState "session UDP socket was already consumed") s.socket
    modify (·.setSession sid (.udp { s with socket := none }))
    let sourcePort ← ofOption (invalidState "UDP authorization is missing its source port") s.authorization.sourcePort
    let destination ← ofOption (invalidState "session is not bidirectional") s.senderDestination
    modify (·.setSession sid (.udp { s with socket := none, senderDestination := none }))
    let sender ← ofOption (invalidState "session sender configuration is missing") s.senderConfig
    modify (·.setSession sid (.udp { s with socket := none, senderDestination := none, senderConfig := none }))
    pure (.udp socket (s.receiverConfig sid sourcePort) sender destination)

namespace SessionCoordinator

variable (c : SessionCoordinator) (sid : SessionId)

def tcpSender : Bool := ((c.sessions.tcp.lookup sid).map (fun s => s.senderDestination.isSome)).getD false
def udpSender : Bool := ((c.sessions.udp.lookup sid).map (fun s => s.senderDestination.isSome)).getD false
def tcpBidirectional : Bool :=
  ((c.sessions.tcp.lookup sid).map (fun s => s.senderDestination.isSome && s.senderConfig.isSome)).getD false
def udpBidirectional : Bool :=
  ((c.sessions.udp.lookup sid).map (fun s => s.senderDestination.isSome && s.senderConfig.isSome)).getD false

end SessionCoordinator

def beginAndTakeReceiver (sid : SessionId) (now : Nat) : Coord PreparedSocketReceiver := do
  let c ← get
  if c.tcpSender sid || c.udpSender sid then fail (invalidState "session is a TCP sender")
  else
    let _ ← beginScheduled sid now
    let c ← get
    if (c.sessions.tcp.lookup sid).isSome then
      let p ← takeTcpListener sid
      pure (.tcp p.1 p.2)
    else
      let p ← takeUdpSocket sid
      pure (.udp p.1 p.2)

def beginAndTakeSender (sid : SessionId) (now : Nat) : Coord PreparedSocketSender := do
  let c ← get
  if !c.tcpSender sid && !c.udpSender sid then fail (invalidState "session is not a socket sender")
  else
    let _ ← beginScheduled sid now
    if c.tcpSender sid then takeTcpSender sid else takeUdpSender sid

def beginAndTakeBidirectional (sid : SessionId) (now : Nat) : Coord PreparedSocketBidirectional := do
  let c ← get
  if !c.tcpBidirectional sid && !c.udpBidirectional sid then fail (invalidState "session is not bidirectional")
  else
    let _ ← beginScheduled sid now
    if c.tcpBidirectional sid then takeTcpBidirectional sid else takeUdpBidirectional sid

def beginAndTakeDpdkReceiver (sid : SessionId) (now : Nat) : Coord PreparedDpdkReceiver := do
  let c ← get
  if (c.sessions.dpdk.lookup sid).isNone then fail (invalidState "session is not a DPDK receiver")
  else
    let _ ← beginScheduled sid now
    let c ← get
    let s ← ofOption (invalidState "session is not a DPDK receiver") (c.sessions.dpdk.lookup sid)
    let plan ← ofOption (invalidState "DPDK receiver worker was already taken") s.plan
    modify (·.setSession sid (.dpdk { s with plan := none }))
    pure plan

/-! ## Ending a session -/

/-- The states a session can be stopped or failed from. -/
def cancelable (state : NodeConnectionState) : Bool :=
  state == .testReady || state == .running || state == .finalizing

def stop (sid : SessionId) (operationId : String) : Coord NodeConnectionState := do
  let c ← get
  match c.operations.lookup operationId with
  | some record => ofOption operationConflict (matchingStop sid record)
  | none =>
    if c.sessionState sid = some .canceled then
      modify (·.log operationId (.stop sid .canceled))
      pure .canceled
    else
      let s ← ofOption sessionMissing (c.session sid)
      if !cancelable s.state then fail (invalidState "session cannot be canceled from current state")
      else
        modify (·.setSession sid (s.setState .canceled).closeEndpoint)
        let _ ← onResources (beginRelease s.reservationId)
        let _ ← onResources (finishRelease s.reservationId)
        modify (·.log operationId (.stop sid .canceled))
        pure .canceled

def maxControlPayloadBytes : Nat := 1024 * 1024

/-- `value.as_object()?.get("schema_version")?.as_str()`. -/
def schemaVersion : Json → Option String
  | .object members =>
    match members.lookup "schema_version" with
    | some (.string version) => some version
    | _ => none
  | _ => none

def validateResultJson (ext : Externals) (resultJson : List UInt8) : Result Unit := do
  if resultJson.isEmpty ∨ maxControlPayloadBytes < resultJson.length then
    .error (invalid "test result JSON is empty or exceeds 1 MiB")
  match ext.fromSlice resultJson with
  | .error error => .error (.new .protocolInvalid ("test result JSON is invalid: " ++ error) false)
  | .ok value =>
    if ((schemaVersion value).getD "").isEmpty then
      .error (invalid "test result JSON must contain a non-empty schema_version")

/-- The result waits here while the reservation is released. -/
def keepPending (sid : SessionId) (result : TestResult) : Coord Unit := do
  let c ← get
  match c.pendingResults.lookup sid with
  | some pending => if pending ≠ result then fail operationConflict
  | none => modify (fun c => { c with pendingResults := c.pendingResults.put sid result })

/-- `complete` and `fail`: they differ in the states they end a session from and in the state they leave it in. -/
def conclude (ext : Externals) (allowed : NodeConnectionState → Bool) (refusal : String) (final : NodeConnectionState)
    (sid : SessionId) (resultJson : List UInt8) : Coord TestResult := do
  ofExcept (validateResultJson ext resultJson)
  let c ← get
  match c.results.lookup sid with
  | some existing => if existing.resultJson = resultJson then pure existing else fail operationConflict
  | none =>
    let result : TestResult := ⟨sid.1, resultJson, ext.sha256 resultJson⟩
    let s ← ofOption sessionMissing (c.session sid)
    if !allowed s.state then fail (invalidState refusal)
    else
      modify (·.setSession sid (s.setState .finalizing))
      keepPending sid result
      let _ ← onResources (beginRelease s.reservationId)
      let _ ← onResources (finishRelease s.reservationId)
      let c ← get
      let s ← ofOption sessionMissing (c.session sid)
      modify (·.setSession sid (s.closeEndpoint.setState final))
      modify (fun c => { c with pendingResults := c.pendingResults.erase sid, results := c.results.put sid result })
      pure result

def complete (ext : Externals) : SessionId → List UInt8 → Coord TestResult :=
  conclude ext (fun state => state == .running || state == .finalizing) "only a running session can complete" .completed

/-- `SessionCoordinator::fail`. -/
def failSession (ext : Externals) : SessionId → List UInt8 → Coord TestResult :=
  conclude ext cancelable "session cannot transition to failed" .failed

def testResult (c : SessionCoordinator) (sid : SessionId) : Result TestResult :=
  match c.results.lookup sid with
  | some result => .ok result
  | none =>
    if c.sessionExists sid then .error (.new .invalidState "test result is not ready" true) else .error sessionMissing

/-! ## Calls and runs -/

/-- The operations that carry an operation ID. -/
inductive Request
  | prepareTcp (request : PrepareTcpRequest)
  | prepareTcpSender (request : PrepareTcpSenderRequest)
  | prepareTcpBidirectional (request : PrepareTcpBidirectionalRequest)
  | prepareUdp (request : PrepareUdpRequest)
  | prepareUdpSender (request : PrepareUdpSenderRequest)
  | prepareUdpBidirectional (request : PrepareUdpBidirectionalRequest)
  | prepareDpdkReceiver (request : PrepareDpdkReceiverRequest)
  | start (sessionId : SessionId) (operationId : String) (startAtUnixNanoseconds : Nat)
  | stop (sessionId : SessionId) (operationId : String)
  deriving DecidableEq

inductive Response
  | tcp (response : PrepareTcpResponse)
  | udp (response : PrepareUdpResponse)
  | dpdk (plan : PreparedDpdkReceiver)
  | state (state : NodeConnectionState)
  deriving DecidableEq

def Request.operationId : Request → String
  | prepareTcp r => r.operationId
  | prepareTcpSender r => r.operationId
  | prepareTcpBidirectional r => r.operationId
  | prepareUdp r => r.operationId
  | prepareUdpSender r => r.operationId
  | prepareUdpBidirectional r => r.operationId
  | prepareDpdkReceiver r => r.operationId
  | start _ id _ => id
  | stop _ id => id

/-- A prepare reads the clock in seconds, as the control service passes it. -/
def Request.answer (os : Os) (now : Nat) : Request → Coord Response
  | prepareTcp r => do pure (.tcp (← Node.prepareTcp r os (now / nanosecondsPerSecond)))
  | prepareTcpSender r => do pure (.tcp (← Node.prepareTcpSender r os (now / nanosecondsPerSecond)))
  | prepareTcpBidirectional r => do pure (.tcp (← Node.prepareTcpBidirectional r os (now / nanosecondsPerSecond)))
  | prepareUdp r => do pure (.udp (← Node.prepareUdp r os (now / nanosecondsPerSecond)))
  | prepareUdpSender r => do pure (.udp (← Node.prepareUdpSender r os (now / nanosecondsPerSecond)))
  | prepareUdpBidirectional r => do pure (.udp (← Node.prepareUdpBidirectional r os (now / nanosecondsPerSecond)))
  | prepareDpdkReceiver r => do pure (.dpdk (← Node.prepareDpdkReceiver r os (now / nanosecondsPerSecond)))
  | start sid id startAt => do pure (.state (← Node.start sid id startAt now))
  | stop sid id => do pure (.state (← Node.stop sid id))

inductive Call
  | request (request : Request) (os : Os) (now : Nat)
  | beginScheduled (sid : SessionId) (now : Nat)
  | beginAndTakeDpdkReceiver (sid : SessionId) (now : Nat)
  | beginAndTakeBidirectional (sid : SessionId) (now : Nat)
  | beginAndTakeReceiver (sid : SessionId) (now : Nat)
  | beginAndTakeSender (sid : SessionId) (now : Nat)
  | takeTcpListener (sid : SessionId)
  | takeTcpSender (sid : SessionId)
  | takeTcpBidirectional (sid : SessionId)
  | takeUdpSocket (sid : SessionId)
  | takeUdpSender (sid : SessionId)
  | takeUdpBidirectional (sid : SessionId)
  | complete (sid : SessionId) (resultJson : List UInt8)
  | fail (sid : SessionId) (resultJson : List UInt8)

def Call.run (ext : Externals) : Call → Coord Unit
  | request r os now => do let _ ← r.answer os now
  | beginScheduled sid now => do let _ ← Node.beginScheduled sid now
  | beginAndTakeDpdkReceiver sid now => do let _ ← Node.beginAndTakeDpdkReceiver sid now
  | beginAndTakeBidirectional sid now => do let _ ← Node.beginAndTakeBidirectional sid now
  | beginAndTakeReceiver sid now => do let _ ← Node.beginAndTakeReceiver sid now
  | beginAndTakeSender sid now => do let _ ← Node.beginAndTakeSender sid now
  | takeTcpListener sid => do let _ ← Node.takeTcpListener sid
  | takeTcpSender sid => do let _ ← Node.takeTcpSender sid
  | takeTcpBidirectional sid => do let _ ← Node.takeTcpBidirectional sid
  | takeUdpSocket sid => do let _ ← Node.takeUdpSocket sid
  | takeUdpSender sid => do let _ ← Node.takeUdpSender sid
  | takeUdpBidirectional sid => do let _ ← Node.takeUdpBidirectional sid
  | complete sid json => do let _ ← Node.complete ext sid json
  | fail sid json => do let _ ← failSession ext sid json

/-- What a call leaves behind, whether it returns or stops. -/
def step (ext : Externals) (c : SessionCoordinator) (call : Call) : SessionCoordinator := (call.run ext c).2

def Reachable (ext : Externals) (ok : Call → Prop) : SessionCoordinator → Prop :=
  Reach .new (step ext) (fun _ call => ok call)

end Node
end NetTool
