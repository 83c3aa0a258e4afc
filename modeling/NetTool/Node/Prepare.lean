import NetTool.Node.Session
/-!
# Node.Prepare — preparing a session (`crates/node/src/session_prepare_*.rs`)

The six socket prepares are one sequence of steps (`prepare`): answer a repeated request from the log, check the
request, bind, draw the authorization tag, reserve and activate, keep the session, log.  `Preparation` is what they
differ in.  The DPDK receiver has its own body: it checks other fields, and it reserves before it draws the tag.
-/
namespace NetTool
namespace Node

open Prog Speed Resource

/-- What the operating system answers during one call. -/
structure Os where
  bind : SocketAddr → Except String Nat
  localAddr : Except String SocketAddr
  random : Except String (Bytes 32)

def randomTag (os : Os) : Result String :=
  match os.random with
  | .ok bytes    => .ok (hexString bytes.1)
  | .error error => .error (.new .randomFailed ("secure random generation failed: " ++ error) true)

/-- A socket bound for a session: its handle and the local address it got. -/
structure Bound where
  handle : Nat
  localAddress : SocketAddr

def bindSocket (address : SocketAddr) (os : Os) : Result Bound :=
  match os.bind address with
  | .error error => .error (ioError error)
  | .ok handle =>
    match os.localAddr with
    | .error error => .error (ioError error)
    | .ok localAddress => .ok ⟨handle, localAddress⟩

/-- What a prepare leaves behind: the reservation, the response, the session without its lifecycle, the log entry. -/
structure Prepared (Response : Type) where
  reservation : ReservationRequest
  response : Response
  session : SpeedTestLifecycle → Session
  record : OperationRecord

structure Preparation (Endpoint Response : Type) where
  sessionId : SessionId
  operationId : String
  authorizationTtlSeconds : Nat
  validate : Result Unit
  matching : OperationRecord → Option Response
  endpoint : Os → Result Endpoint
  prepared : Nat → Endpoint → String → Prepared Response

def sessionIdExists : NetToolError := .new .resourceConflict "session ID already exists" false

section
variable {Endpoint Response : Type}

def prepare (p : Preparation Endpoint Response) (os : Os) (now : Nat) : Coord Response := do
  let c ← get
  match c.operations.lookup p.operationId with
  | some record => ofOption operationConflict (p.matching record)
  | none =>
    ofExcept p.validate
    if c.sessionExists p.sessionId then fail sessionIdExists
    else
      let expiresAt ← ofOption (invalid "authorization expiration overflow") (checkedAdd now p.authorizationTtlSeconds)
      let endpoint ← ofExcept (p.endpoint os)
      let authorizationTag ← ofExcept (randomTag os)
      let prepared := p.prepared expiresAt endpoint authorizationTag
      let _ ← onResources (reserve prepared.reservation)
      let _ ← onResources (activate prepared.reservation.reservationId)
      let lifecycle ← ofExcept localReady
      modify (·.setSession p.sessionId (prepared.session lifecycle))
      modify (·.log p.operationId prepared.record)
      pure prepared.response

end

/-! ## What the members of the family share -/

def validateTtl (seconds : Nat) : Result Unit :=
  if seconds < 10 ∨ 3600 < seconds then .error (invalid "authorization TTL must be between 10 seconds and one hour")
  else .ok ()

def validateOperationId (operationId : String) : Result Unit :=
  if trimIsEmpty operationId then .error (invalid "operation ID is required") else .ok ()

def dataPortClaim (protocol : String) (localAddress : SocketAddr) : ResourceClaim :=
  ⟨.dataPort protocol localAddress.ip.display localAddress.port, .exclusive, 1⟩

def reservationRequest (kind : String) (sid : SessionId) (claim : ResourceClaim) : ReservationRequest :=
  ⟨kind ++ hexSessionId sid, hexSessionId sid, [claim]⟩

def authorizationOf (sid : SessionId) (sourceNodeId : Bytes 16) (sourceAddress : IpAddr) (sourcePort : Option UInt16)
    (protocol : String) (destination : SocketAddr) (expiresAt : Nat) (authorizationTag : String) :
    DataPlaneAuthorization where
  sessionId := sid
  sourceNodeId
  sourceAddress
  sourcePort
  destinationAddress := destination.ip
  protocol
  destinationPort := destination.port
  authorizationTag
  expiresAtUnixSeconds := expiresAt

/-- What the three TCP prepares leave behind: a ready session that is answered with its tag and expiry. -/
def preparedTcp (kind : String) (claim : ResourceClaim) (authorization : DataPlaneAuthorization) (dataPort : UInt16)
    (config : TcpRunConfig) (listener : Option TcpListener) (senderDestination : Option SocketAddr)
    (senderConfig : Option TcpRunConfig) (record : PrepareTcpResponse → OperationRecord) :
    Prepared PrepareTcpResponse :=
  let sid := authorization.sessionId
  let response :=
    ⟨sid, dataPort, authorization.authorizationTag, authorization.expiresAtUnixSeconds, .testReady⟩
  { reservation := reservationRequest kind sid claim
    response
    session := fun lifecycle => .tcp
      { response, authorization, config, listener, lifecycle, senderDestination, senderConfig
        state := .testReady
        reservationId := (reservationRequest kind sid claim).reservationId }
    record := record response }

def preparedUdp (kind : String) (claim : ResourceClaim) (authorization : DataPlaneAuthorization) (dataPort : UInt16)
    (socket : UdpSocket) (streamId : UInt32) (maximumDatagramBytes idleTimeoutMilliseconds : Nat)
    (senderDestination : Option SocketAddr) (senderConfig : Option UdpSenderConfig)
    (record : PrepareUdpResponse → OperationRecord) : Prepared PrepareUdpResponse :=
  let sid := authorization.sessionId
  let response :=
    ⟨sid, dataPort, authorization.authorizationTag, authorization.expiresAtUnixSeconds, .testReady⟩
  { reservation := reservationRequest kind sid claim
    response
    session := fun lifecycle => .udp
      { response, authorization, streamId, maximumDatagramBytes, idleTimeoutMilliseconds, lifecycle, senderDestination
        senderConfig
        socket := some socket
        state := .testReady
        reservationId := (reservationRequest kind sid claim).reservationId }
    record := record response }

/-! ## TCP receiver -/

def validatePrepare (request : PrepareTcpRequest) : Result Unit := do
  validateOperationId request.operationId
  if request.bindAddress.port ≠ 0 then
    .error (invalid "data-plane bind port must be zero for dynamic allocation")
  validateTtl request.authorizationTtlSeconds
  request.config.validate

def tcpPreparation (request : PrepareTcpRequest) : Preparation Bound PrepareTcpResponse where
  sessionId := request.sessionId
  operationId := request.operationId
  authorizationTtlSeconds := request.authorizationTtlSeconds
  validate := validatePrepare request
  matching := fun
    | .prepareTcp stored response => if stored = request then some response else none
    | _ => none
  endpoint := bindSocket request.bindAddress
  prepared := fun expiresAt bound authorizationTag =>
    preparedTcp "data-port-" (dataPortClaim "tcp" bound.localAddress)
      (authorizationOf request.sessionId request.sourceNodeId request.sourceAddress none "tcp" bound.localAddress
        expiresAt authorizationTag)
      bound.localAddress.port request.config (some ⟨bound.handle, request.bindAddress⟩) none none (.prepareTcp request)

def prepareTcp (request : PrepareTcpRequest) : Os → Nat → Coord PrepareTcpResponse := prepare (tcpPreparation request)

/-! ## TCP sender -/

def validateTcpSenderPrepare (request : PrepareTcpSenderRequest) : Result Unit := do
  validateOperationId request.operationId
  if request.destination.port = 0 then .error (invalid "TCP sender destination port must be non-zero")
  validateTtl request.authorizationTtlSeconds
  request.config.validate

/-- The TCP sender binds nothing: it connects when it starts. -/
def tcpSenderPreparation (request : PrepareTcpSenderRequest) : Preparation Unit PrepareTcpResponse where
  sessionId := request.sessionId
  operationId := request.operationId
  authorizationTtlSeconds := request.authorizationTtlSeconds
  validate := validateTcpSenderPrepare request
  matching := fun
    | .prepareTcpSender stored response => if stored = request then some response else none
    | _ => none
  endpoint := fun _ => .ok ()
  prepared := fun expiresAt _ authorizationTag =>
    preparedTcp "tcp-sender-" ⟨.managementInterface ("tcp-sender:" ++ request.destination.display), .shared, 1⟩
      (authorizationOf request.sessionId request.sourceNodeId request.sourceAddress none "tcp" request.destination
        expiresAt authorizationTag)
      0 request.config none (some request.destination) none (.prepareTcpSender request)

def prepareTcpSender (request : PrepareTcpSenderRequest) : Os → Nat → Coord PrepareTcpResponse :=
  prepare (tcpSenderPreparation request)

/-! ## TCP in both directions -/

def validateTcpBidirectionalPrepare (request : PrepareTcpBidirectionalRequest) : Result Unit := do
  validateOperationId request.operationId
  if request.bindAddress.port ≠ 0 ∨ request.destination.port = 0 then
    .error (invalid "TCP bidirectional endpoints are invalid")
  validateTtl request.authorizationTtlSeconds
  request.config.validate

def tcpBidirectionalPreparation (request : PrepareTcpBidirectionalRequest) : Preparation Bound PrepareTcpResponse where
  sessionId := request.sessionId
  operationId := request.operationId
  authorizationTtlSeconds := request.authorizationTtlSeconds
  validate := validateTcpBidirectionalPrepare request
  matching := fun
    | .prepareTcpBidirectional stored response => if stored = request then some response else none
    | _ => none
  endpoint := bindSocket request.bindAddress
  prepared := fun expiresAt bound authorizationTag =>
    preparedTcp "tcp-bidirectional-" (dataPortClaim "tcp" bound.localAddress)
      (authorizationOf request.sessionId request.sourceNodeId request.sourceAddress none "tcp" bound.localAddress
        expiresAt authorizationTag)
      bound.localAddress.port request.config (some ⟨bound.handle, request.bindAddress⟩) (some request.destination)
      (some request.config) (.prepareTcpBidirectional request)

def prepareTcpBidirectional (request : PrepareTcpBidirectionalRequest) : Os → Nat → Coord PrepareTcpResponse :=
  prepare (tcpBidirectionalPreparation request)

/-! ## UDP receiver -/

/-- The tag that stands in a configuration which is only validated. -/
def prepareValidationTag : String := "prepare-validation"

def validateUdpPrepare (request : PrepareUdpRequest) : Result Unit := do
  validateOperationId request.operationId
  if request.bindAddress.port ≠ 0 then
    .error (invalid "data-plane bind port must be zero for dynamic allocation")
  if request.sourceAddress.port = 0 then .error (invalid "UDP source port must be allocated before prepare")
  validateTtl request.authorizationTtlSeconds
  UdpReceiverConfig.validate
    { sessionId := request.sessionId
      streamId := request.streamId
      expectedSource := request.sourceAddress
      maximumDatagramBytes := request.maximumDatagramBytes
      idleTimeoutMilliseconds := request.idleTimeoutMilliseconds
      authorizationTag := prepareValidationTag }

def udpPreparation (request : PrepareUdpRequest) : Preparation Bound PrepareUdpResponse where
  sessionId := request.sessionId
  operationId := request.operationId
  authorizationTtlSeconds := request.authorizationTtlSeconds
  validate := validateUdpPrepare request
  matching := fun
    | .prepareUdp stored response => if stored = request then some response else none
    | _ => none
  endpoint := bindSocket request.bindAddress
  prepared := fun expiresAt bound authorizationTag =>
    preparedUdp "data-port-" (dataPortClaim "udp" bound.localAddress)
      (authorizationOf request.sessionId request.sourceNodeId request.sourceAddress.ip (some request.sourceAddress.port)
        "udp" bound.localAddress expiresAt authorizationTag)
      bound.localAddress.port ⟨bound.handle, request.bindAddress⟩ request.streamId request.maximumDatagramBytes
      request.idleTimeoutMilliseconds none none (.prepareUdp request)

def prepareUdp (request : PrepareUdpRequest) : Os → Nat → Coord PrepareUdpResponse := prepare (udpPreparation request)

/-! ## UDP sender -/

/-- The sender settings of a UDP session, under a tag. -/
def udpSenderConfig (request : PrepareUdpSenderRequest) (authorizationTag : String) : UdpSenderConfig where
  sessionId := request.sessionId
  streamId := request.streamId
  datagramBytes := request.datagramBytes
  measurementMilliseconds := request.measurementMilliseconds
  targetBitsPerSecond := request.targetBitsPerSecond
  maximumPacketsPerBurst := 32
  authorizationTag := authorizationTag

def validateUdpSenderPrepare (request : PrepareUdpSenderRequest) : Result Unit := do
  validateOperationId request.operationId
  if request.destination.port = 0 then .error (invalid "UDP sender destination port must be non-zero")
  validateTtl request.authorizationTtlSeconds
  (udpSenderConfig request prepareValidationTag).validate

def udpSenderPreparation (request : PrepareUdpSenderRequest) : Preparation Bound PrepareUdpResponse where
  sessionId := request.sessionId
  operationId := request.operationId
  authorizationTtlSeconds := request.authorizationTtlSeconds
  validate := validateUdpSenderPrepare request
  matching := fun
    | .prepareUdpSender stored response => if stored = request then some response else none
    | _ => none
  endpoint := bindSocket (.new request.sourceAddress 0)
  prepared := fun expiresAt bound authorizationTag =>
    preparedUdp "udp-sender-" (dataPortClaim "udp" bound.localAddress)
      (authorizationOf request.sessionId request.sourceNodeId bound.localAddress.ip (some bound.localAddress.port) "udp"
        request.destination expiresAt authorizationTag)
      0 ⟨bound.handle, .new request.sourceAddress 0⟩ request.streamId request.datagramBytes 2000
      (some request.destination) (some (udpSenderConfig request authorizationTag)) (.prepareUdpSender request)

def prepareUdpSender (request : PrepareUdpSenderRequest) : Os → Nat → Coord PrepareUdpResponse :=
  prepare (udpSenderPreparation request)

/-! ## UDP in both directions -/

def udpBidirectionalSenderConfig (request : PrepareUdpBidirectionalRequest) (authorizationTag : String) :
    UdpSenderConfig where
  sessionId := request.sessionId
  streamId := request.streamId
  datagramBytes := request.datagramBytes
  measurementMilliseconds := request.measurementMilliseconds
  targetBitsPerSecond := request.targetBitsPerSecond
  maximumPacketsPerBurst := 32
  authorizationTag := authorizationTag

def validateUdpBidirectionalPrepare (request : PrepareUdpBidirectionalRequest) : Result Unit := do
  validateOperationId request.operationId
  if request.sourceAddress.port = 0 ∨ request.destination.port = 0 then
    .error (invalid "UDP bidirectional endpoints are invalid")
  validateTtl request.authorizationTtlSeconds
  (udpBidirectionalSenderConfig request prepareValidationTag).validate

def udpBidirectionalPreparation (request : PrepareUdpBidirectionalRequest) : Preparation Bound PrepareUdpResponse where
  sessionId := request.sessionId
  operationId := request.operationId
  authorizationTtlSeconds := request.authorizationTtlSeconds
  validate := validateUdpBidirectionalPrepare request
  matching := fun
    | .prepareUdpBidirectional stored response => if stored = request then some response else none
    | _ => none
  endpoint := bindSocket (.new request.bindAddress 0)
  prepared := fun expiresAt bound authorizationTag =>
    preparedUdp "udp-bidirectional-" (dataPortClaim "udp" bound.localAddress)
      (authorizationOf request.sessionId request.sourceNodeId request.sourceAddress.ip (some request.sourceAddress.port)
        "udp" bound.localAddress expiresAt authorizationTag)
      bound.localAddress.port ⟨bound.handle, .new request.bindAddress 0⟩ request.streamId request.datagramBytes 2000
      (some request.destination) (some (udpBidirectionalSenderConfig request authorizationTag))
      (.prepareUdpBidirectional request)

def prepareUdpBidirectional (request : PrepareUdpBidirectionalRequest) : Os → Nat → Coord PrepareUdpResponse :=
  prepare (udpBidirectionalPreparation request)

/-! ## DPDK receiver -/

def validDpdkBdf : String → Bool := isPciBdf

def validDpdkMac : String → Bool := isUnicastMac

def validateDpdk (request : PrepareDpdkReceiverRequest) : Result Unit := do
  if !validDpdkBdf request.pciAddress then .error (invalid "DPDK receiver requires a valid PCI BDF")
  if request.durationMilliseconds = 0 ∨ 86400000 < request.durationMilliseconds then
    .error (invalid "DPDK receiver duration is outside the valid range")
  if !validDpdkMac request.remoteMacAddress then
    .error (invalid "DPDK receiver requires a valid remote unicast MAC")

def dpdkReservation (request : PrepareDpdkReceiverRequest) : ReservationRequest :=
  reservationRequest "dpdk-rx-" request.sessionId
    ⟨.managementInterface ("pci:" ++ request.pciAddress), .exclusive, 1⟩

def dpdkPlan (request : PrepareDpdkReceiverRequest) : PreparedDpdkReceiver :=
  ⟨request.pciAddress, request.durationMilliseconds, request.remoteMacAddress⟩

def dpdkSession (request : PrepareDpdkReceiverRequest) (expiresAt : Nat) (authorizationTag : String)
    (lifecycle : SpeedTestLifecycle) : DpdkSession where
  authorization := authorizationOf request.sessionId request.sourceNodeId (.v4 0) none "dpdk-raw" (.v4 0 0) expiresAt
    authorizationTag
  state := .testReady
  reservationId := (dpdkReservation request).reservationId
  lifecycle
  plan := some (dpdkPlan request)

def matchingDpdk (request : PrepareDpdkReceiverRequest) : OperationRecord → Option PreparedDpdkReceiver
  | .prepareDpdkReceiver stored plan => if stored = request then some plan else none
  | _ => none

def prepareDpdkReceiver (request : PrepareDpdkReceiverRequest) (os : Os) (now : Nat) : Coord PreparedDpdkReceiver := do
  let c ← get
  match c.operations.lookup request.operationId with
  | some record => ofOption operationConflict (matchingDpdk request record)
  | none =>
    ofExcept (validateDpdk request)
    if c.sessionExists request.sessionId then fail sessionIdExists
    else
      let expiresAt ← ofOption (invalid "authorization expiration overflow")
        (checkedAdd now request.authorizationTtlSeconds)
      let _ ← onResources (reserve (dpdkReservation request))
      let _ ← onResources (activate (dpdkReservation request).reservationId)
      -- a failure here leaves the reservation behind
      let authorizationTag ← ofExcept (randomTag os)
      let lifecycle ← ofExcept localReady
      modify (·.setSession request.sessionId (.dpdk (dpdkSession request expiresAt authorizationTag lifecycle)))
      modify (·.log request.operationId (.prepareDpdkReceiver request (dpdkPlan request)))
      pure (dpdkPlan request)

end Node
end NetTool
