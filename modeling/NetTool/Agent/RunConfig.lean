import NetTool.Node.Agreement
/-!
# Agent.RunConfig — the engine settings of a speed run (`action_speed.rs`, and `server.rs` on the other side)

For one request the Agent sets up its sender or receiver, or both, and the Node it asked sets up the other side.  The
engines check these settings by bounds of their own, which the check of the request does not know: the duration, the
number of TCP streams, and the idle timeout of a UDP receiver, which the Agent derives from the duration
(`configs_pass_iff`).
-/
namespace NetTool
namespace Agent

open Prog Speed Node NodeControlService

/-! ## The Agent -/

def defaultUdpDatagramBytesU16 : Nat := 1200

section
variable (request : SpeedRunRequest) (prepared : PreparedRemoteSpeedSession) (address : IpAddr)

def tcpRun : TcpRunConfig where
  streams := request.streams.getD 1
  payloadBytes := max ((request.frameSize.map (·.toNat)).getD 16384) 1024
  warmupMilliseconds := request.warmupMs
  measurementMilliseconds := request.durationMs

def tcpSender : AuthorizedTcpSenderConfig := ⟨tcpRun request, prepared.sessionId, prepared.authorizationTag⟩

def tcpReceiver : AuthorizedTcpReceiverConfig :=
  ⟨request.streams.getD 1, prepared.sessionId, prepared.authorizationTag⟩

def datagramBytes : Nat := max ((request.frameSize.map (·.toNat)).getD defaultUdpDatagramBytesU16) 64

def udpSender : UdpSenderConfig where
  sessionId := prepared.sessionId
  streamId := 0
  datagramBytes := datagramBytes request
  measurementMilliseconds := request.durationMs
  targetBitsPerSecond := request.targetRateBps
  maximumPacketsPerBurst := 32
  authorizationTag := prepared.authorizationTag

/-- The receiver waits as long as the run takes, and two seconds. -/
def udpReceiver : UdpReceiverConfig where
  sessionId := prepared.sessionId
  streamId := 0
  expectedSource := .new address prepared.remoteSourceDataPort
  maximumDatagramBytes := datagramBytes request
  idleTimeoutMilliseconds := saturatingAdd request.durationMs 2000
  authorizationTag := prepared.authorizationTag

/-- The settings the Agent runs its socket engines with. -/
def localConfigs : List EngineConfig :=
  match request.protocol, request.direction with
  | .tcp, .upload => [.tcpSender (tcpSender request prepared)]
  | .tcp, .download => [.tcpReceiver (tcpReceiver request prepared)]
  | .tcp, .bidirectional => [.tcpReceiver (tcpReceiver request prepared), .tcpSender (tcpSender request prepared)]
  | .udp, .upload => [.udpSender (udpSender request prepared)]
  | .udp, .download => [.udpReceiver (udpReceiver request prepared address)]
  | .udp, .bidirectional =>
    [.udpReceiver (udpReceiver request prepared address), .udpSender (udpSender request prepared)]
  | .raw, _ => []

end

/-! ## The Node -/

/-- What a Node fills in while it prepares: what the clock, the system and the random source gave. -/
structure Granted where
  expiresAt : Nat
  bound : Bound
  tag : Bytes 32

section
variable (service : NodeControlService) (message : PrepareTest) (sid : SessionId) (ttl : Nat) (granted : Granted)

/-- The stream count and the ports of a message that fit in 16 bits. -/
def messageStreams : UInt16 := .ofNat (max message.streams 1)
def messageSourcePort : UInt16 := .ofNat message.sourceDataPort
def messageReceivePort : UInt16 := .ofNat message.receiveDataPort

def Granted.kept {Endpoint Response : Type} (p : Preparation Endpoint Response) (endpoint : Endpoint) : Session :=
  (p.prepared granted.expiresAt endpoint (hexString granted.tag.1)).session .waiting

/-- The session a Node keeps for a socket request. -/
def remoteSession (protocol : SpeedProtocol) (direction : Direction) : Option Session :=
  let streams := messageStreams message
  let sourcePort := messageSourcePort message
  let receivePort := messageReceivePort message
  match protocol, direction with
  | .tcp, .upload => some (granted.kept (tcpPreparation (service.tcpRequest message sid streams ttl)) granted.bound)
  | .tcp, .download =>
    some (granted.kept (tcpSenderPreparation (service.tcpSenderRequest message sid streams receivePort ttl)) ())
  | .tcp, .bidirectional =>
    some (granted.kept (tcpBidirectionalPreparation
      (service.tcpBidirectionalRequest message sid streams receivePort ttl)) granted.bound)
  | .udp, .upload => some (granted.kept (udpPreparation (service.udpRequest message sid sourcePort ttl)) granted.bound)
  | .udp, .download =>
    some (granted.kept (udpSenderPreparation (service.udpSenderRequest message sid receivePort ttl)) granted.bound)
  | .udp, .bidirectional =>
    some (granted.kept (udpBidirectionalPreparation
      (service.udpBidirectionalRequest message sid sourcePort receivePort ttl)) granted.bound)
  | .raw, _ => none

end

def receiverConfigs : PreparedSocketReceiver → List EngineConfig
  | .tcp _ config => [.tcpReceiver config]
  | .udp _ config => [.udpReceiver config]

def senderConfigs : PreparedSocketSender → List EngineConfig
  | .tcp config _ => [.tcpSender config]
  | .udp _ config _ => [.udpSender config]

def bidirectionalConfigs : PreparedSocketBidirectional → List EngineConfig
  | .tcp _ receiver sender _ => [.tcpReceiver receiver, .tcpSender sender]
  | .udp _ receiver sender _ => [.udpReceiver receiver, .udpSender sender]

/-- The settings a session is prepared with and hands out to its engines. -/
def sessionConfigs (sid : SessionId) (s : Session) : List EngineConfig :=
  (match s with
    | .tcp x => [.tcpRun x.config]
    | _ => []) ++
    (s.receiver sid).toList.flatMap receiverConfigs ++ (s.sender sid).toList.flatMap senderConfigs ++
    (s.bidirectional sid).toList.flatMap bidirectionalConfigs

/-! ## What a Node keeps -/

section
variable {orphans : Prop} {c : SessionCoordinator} {os : Os}

theorem randomTag_hexString {tag : String} (h : randomTag os = .ok tag) :
    ∃ bytes : Bytes 32, tag = hexString bytes.1 := by
  unfold randomTag at h
  split at h
  · cases h
    exact ⟨_, rfl⟩
  · cases h

/-- A number that is read goes on as it was written in the message. -/
theorem wp_toPort {α : Type} {message : String} {value : Nat} {rest : UInt16 → Coord α}
    {Q : α → SessionCoordinator → Prop} (h : wp (rest (.ofNat value)) Q (fun _ _ => True) c) :
    wp (ofExcept (toPort message value) >>= rest) Q (fun _ _ => True) c := by
  unfold toPort
  split
  · exact h
  · trivial

theorem prepare_keeps {Endpoint Response : Type} {p : Preparation Endpoint Response}
    {R : Response → SessionCoordinator → Prop} (hg : Good orphans c) (hfresh : c.operations.lookup p.operationId = none)
    (now : Nat) (hkept : ∀ expiresAt endpoint (tag : Bytes 32) c',
      c'.session p.sessionId =
        some ((p.prepared expiresAt endpoint (hexString tag.1)).session SpeedTestLifecycle.waiting) →
      R (p.prepared expiresAt endpoint (hexString tag.1)).response c') :
    wp (prepare p os now) R (fun _ _ => True) c := by
  apply wp_mono (wp_prepare p os now c)
  · rintro a c' (⟨-, record, hop, -⟩ | ⟨expiresAt, endpoint, tag, r, m, h⟩)
    · rw [hfresh] at hop
      cases hop
    · obtain ⟨bytes, rfl⟩ := randomTag_hexString h.drawn
      rw [h.response]
      exact hkept expiresAt endpoint bytes c' (h.writes hg).self
  · exact fun _ _ _ => trivial

variable (service : NodeControlService) {request : SpeedRunRequest} {operationId : String} {sid : SessionId}
  {ports : LocalDataPlanePorts}

/-- The session kept for a request, and the tag that is answered. -/
def Keeps (service : NodeControlService) (request : SpeedRunRequest) (message : PrepareTest)
    (sid : SessionId) (ttl : Nat) (tag : String) (c : SessionCoordinator) : Prop :=
  ∃ granted : Granted, tag = hexString granted.tag.1 ∧
    c.session sid = remoteSession service message sid ttl granted request.protocol request.direction

section
variable (hg : Good orphans c) (hfresh : c.operations.lookup operationId = none)
include hg hfresh

theorem handleTcpPrepare_keeps (htcp : request.protocol = .tcp) (now ttl : Nat) :
    wp (service.handleTcpPrepare (prepareMessage request operationId sid ports) sid os now ttl)
      (fun a => Keeps service request (prepareMessage request operationId sid ports) sid ttl a.authorizationTag)
      (fun _ _ => True) c := by
  unfold handleTcpPrepare Keeps
  rw [htcp]
  apply wp_toPort
  rw [wp_ite]
  constructor
  · intro hup
    have hup : request.direction = .upload := directionName_injective hup
    apply prepare_keeps hg hfresh
    intro expiresAt bound tag c' hs
    rw [hup]
    exact ⟨⟨expiresAt, bound, tag⟩, rfl, hs⟩
  · intro hup
    apply wp_toPort
    rw [wp_ite]
    refine ⟨fun _ => trivial, fun _ => ?_⟩
    rw [wp_ite]
    constructor
    · intro hboth
      have hboth : request.direction = .bidirectional := directionName_injective hboth
      apply prepare_keeps hg hfresh
      intro expiresAt bound tag c' hs
      rw [hboth]
      exact ⟨⟨expiresAt, bound, tag⟩, rfl, hs⟩
    · intro hboth
      have hdown : request.direction = .download := eq_download hup hboth
      apply prepare_keeps hg hfresh
      intro expiresAt _ tag c' hs
      rw [hdown]
      -- the TCP sender binds nothing
      exact ⟨⟨expiresAt, ⟨0, .new service.bindAddress 0⟩, tag⟩, rfl, hs⟩

theorem handleUdpPrepare_keeps (hudp : request.protocol = .udp) (now ttl : Nat) :
    wp (service.handleUdpPrepare (prepareMessage request operationId sid ports) sid os now ttl)
      (fun a => Keeps service request (prepareMessage request operationId sid ports) sid ttl a.authorizationTag)
      (fun _ _ => True) c := by
  unfold handleUdpPrepare Keeps
  rw [hudp, wp_ite]
  constructor
  · intro hboth
    have hboth : request.direction = .bidirectional := directionName_injective hboth
    apply wp_toPort
    apply wp_toPort
    rw [wp_ite]
    refine ⟨fun _ => trivial, fun _ => ?_⟩
    rw [wp_bind]
    apply prepare_keeps hg hfresh
    intro expiresAt bound tag c' hs
    rw [hboth]
    exact ⟨⟨expiresAt, bound, tag⟩, rfl, hs⟩
  intro hboth
  rw [wp_ite]
  constructor
  · intro hup
    have hdown : request.direction = .download := eq_download hup hboth
    apply wp_toPort
    rw [wp_ite]
    refine ⟨fun _ => trivial, fun _ => ?_⟩
    rw [wp_bind]
    apply prepare_keeps hg hfresh
    intro expiresAt bound tag c' hs
    rw [hdown]
    exact ⟨⟨expiresAt, bound, tag⟩, rfl, hs⟩
  · intro hup
    have hup : request.direction = .upload := directionName_injective (not_not.1 hup)
    apply wp_toPort
    rw [wp_bind]
    apply prepare_keeps hg hfresh
    intro expiresAt bound tag c' hs
    rw [hup]
    exact ⟨⟨expiresAt, bound, tag⟩, rfl, hs⟩

theorem handlePrepare_keeps (hsocket : socketBackend request.backend = true) (now : Nat) :
    wp (service.handlePrepare (prepareMessage request operationId sid ports) os now)
      (fun a c' => ∃ ttl, authorizationTtl (prepareMessage request operationId sid ports) = .ok ttl ∧
        Keeps service request (prepareMessage request operationId sid ports) sid ttl a.authorizationTag c')
      (fun _ _ => True) c := by
  refine wp_check (fun sid' hsid => ?_) (fun _ _ => trivial)
  have hsid : sid' = sid := Subtype.ext (parseSessionId_eq hsid).symm
  rw [hsid]
  refine wp_check (fun _ _ => ?_) (fun _ _ => trivial)
  refine wp_check (fun ttl httl => ?_) (fun _ _ => trivial)
  rw [wp_ite]
  constructor
  · rintro ⟨hbackend, -⟩
    have hbackend : request.backend = "dpdk" := hbackend
    rw [hbackend] at hsocket
    cases hsocket
  intro _
  rw [wp_ite]
  constructor
  · rintro ⟨htype, -⟩
    exact wp_then (handleTcpPrepare_keeps service hg hfresh (protocolName_injective htype) _ ttl)
      (fun _ _ h => ⟨ttl, httl, h⟩) (fun _ _ h => h)
  intro _
  rw [wp_ite]
  constructor
  · rintro ⟨htype, -⟩
    exact wp_mono (handleUdpPrepare_keeps service hg hfresh (protocolName_injective htype) _ ttl)
      (fun _ _ h => ⟨ttl, httl, h⟩) (fun _ _ h => h)
  · exact fun _ => trivial

end

end

/-! ## What passes -/

/-- The session the Agent holds after it accepted an answer with the granted tag. -/
def acceptedSession (sid : SessionId) (plan : SpeedSessionPlan) (dataPort sourcePort : UInt16) (granted : Granted) :
    PreparedRemoteSpeedSession := ⟨sid, plan, dataPort, sourcePort, hexString granted.tag.1⟩

/-- The configurations of both sides.  A message whose times overflow is refused before there is any. -/
def builtConfigs (service : NodeControlService) (request : SpeedRunRequest) (message : PrepareTest)
    (prepared : PreparedRemoteSpeedSession) (address : IpAddr) (granted : Granted) : List EngineConfig :=
  match authorizationTtl message with
  | .error _ => []
  | .ok ttl =>
    (remoteSession service message prepared.sessionId ttl granted request.protocol request.direction).toList.flatMap
        (sessionConfigs prepared.sessionId) ++
      localConfigs request prepared address

def Passing (configs : List EngineConfig) : Prop := ∀ config ∈ configs, config.validate = .ok ()

theorem passing_cons {config : EngineConfig} {configs : List EngineConfig} :
    Passing (config :: configs) ↔ config.validate = .ok () ∧ Passing configs := List.forall_mem_cons

theorem passing_nil : Passing [] ↔ True := iff_true_intro (List.forall_mem_nil _)

def ConfigsPass (service : NodeControlService) (request : SpeedRunRequest) (message : PrepareTest)
    (prepared : PreparedRemoteSpeedSession) (address : IpAddr) (granted : Granted) : Prop :=
  Passing (builtConfigs service request message prepared address granted)

/-- The requests within the bounds of the engines. -/
def Runnable (request : SpeedRunRequest) : Prop :=
  100 ≤ request.durationMs ∧
    match request.protocol with
    | .tcp => request.durationMs ≤ 86400000 ∧ (request.streams.getD 1).toNat ≤ 128
    | .udp => request.durationMs ≤ if Direction.receives request.direction then 58000 else 86400000
    | .raw => False

instance (request : SpeedRunRequest) : Decidable (Runnable request) := by
  unfold Runnable
  cases request.protocol <;> exact inferInstanceAs (Decidable (_ ∧ _))

section
variable {request : SpeedRunRequest} {prepared : PreparedRemoteSpeedSession} {address : IpAddr}

section
variable (h : request.streams ≠ some 0)
include h

/-- Streams are counted from one; `validate` refuses zero. -/
theorem streams_pos : 1 ≤ (request.streams.getD 1).toNat := by
  cases hs : request.streams with
  | none => decide
  | some n =>
    have hne : n ≠ 0 := fun hzero => h (by rw [hs, hzero])
    have hpos : n.toNat ≠ 0 := fun hzero => hne (UInt16.toNat_inj.1 hzero)
    show 1 ≤ n.toNat
    omega

/-- A message carries the stream count as it is, or 0 for none. -/
theorem messageStreams_eq (operationId : String) (sid : SessionId) (ports : LocalDataPlanePorts) :
    messageStreams (prepareMessage request operationId sid ports) = request.streams.getD 1 := by
  show UInt16.ofNat (max ((request.streams.map (·.toNat)).getD 0) 1) = _
  cases hs : request.streams with
  | none => rfl
  | some n =>
    have hpos := streams_pos h
    rw [hs] at hpos
    have hmax : max ((Option.map UInt16.toNat (some n)).getD 0) 1 = n.toNat := max_eq_left hpos
    rw [hmax]
    exact UInt16.ofNat_toNat

theorem tcpRun_ok {run : TcpRunConfig} (hstreams : run.streams = request.streams.getD 1)
    (hpayload : 1024 ≤ run.payloadBytes ∧ run.payloadBytes ≤ 16 * 1024 * 1024)
    (hmeasurement : run.measurementMilliseconds = request.durationMs) :
    run.validate = .ok () ↔
      100 ≤ request.durationMs ∧ request.durationMs ≤ 86400000 ∧ (request.streams.getD 1).toNat ≤ 128 := by
  have hpos := streams_pos h
  rw [TcpRunConfig.validate_ok, hstreams, hmeasurement]
  constructor
  · rintro ⟨⟨-, hle⟩, -, hfrom, hto⟩
    exact ⟨hfrom, hto, hle⟩
  · rintro ⟨hfrom, hto, hle⟩
    exact ⟨⟨hpos, hle⟩, hpayload, hfrom, hto⟩

end

theorem tcpSender_ok {tag : String} (htag : ValidTag tag) (sid : SessionId) (run : TcpRunConfig) :
    (⟨run, sid, tag⟩ : AuthorizedTcpSenderConfig).validate = .ok () ↔ run.validate = .ok () := by
  rw [AuthorizedTcpSenderConfig.validate_ok]
  exact and_iff_right htag

theorem tcpReceiver_ok (h : request.streams ≠ some 0) {tag : String} (htag : ValidTag tag) (sid : SessionId) :
    (⟨request.streams.getD 1, sid, tag⟩ : AuthorizedTcpReceiverConfig).validate = .ok () ↔
      (request.streams.getD 1).toNat ≤ 128 := by
  rw [AuthorizedTcpReceiverConfig.validate_ok]
  exact ⟨fun hok => hok.2.2, fun hle => ⟨htag, streams_pos h, hle⟩⟩

theorem udpSender_ok {tag : String} (htag : ValidTag tag) (sid : SessionId) {target : Option Nat}
    (htarget : target ≠ some 0) (measurement : Nat) :
    (⟨sid, 0, 1200, measurement, target, 32, tag⟩ : UdpSenderConfig).validate = .ok () ↔
      100 ≤ measurement ∧ measurement ≤ 86400000 := by
  rw [UdpSenderConfig.validate_ok]
  constructor
  · exact fun hok => hok.2.1
  · intro hmeasurement
    have hsize : udpSpeedHeaderBytes ≤ 1200 ∧ 1200 ≤ maxUdpDatagramBytes := by decide
    have hburst : 1 ≤ (32 : UInt32).toNat ∧ (32 : UInt32).toNat ≤ 4096 := by decide
    exact ⟨hsize, hmeasurement, htarget, hburst, htag⟩

theorem udpReceiver_ok {tag : String} (htag : ValidTag tag) (sid : SessionId) (source : SocketAddr) (idle : Nat) :
    (⟨sid, 0, source, 1200, idle, tag⟩ : UdpReceiverConfig).validate = .ok () ↔ 100 ≤ idle ∧ idle ≤ 60000 := by
  rw [UdpReceiverConfig.validate_ok]
  constructor
  · exact fun hok => hok.2.1
  · intro hidle
    have hsize : udpSpeedHeaderBytes ≤ 1200 ∧ 1200 ≤ maxUdpDatagramBytes := by decide
    exact ⟨hsize, hidle, htag⟩

theorem targetRate_ne_zero (message : PrepareTest) : targetRate message ≠ some 0 := by
  unfold targetRate
  by_cases h : message.targetRateBps = 0
  · simp [h]
  · simp [h]

theorem idle_ok (duration : Nat) :
    100 ≤ saturatingAdd duration 2000 ∧ saturatingAdd duration 2000 ≤ 60000 ↔ duration ≤ 58000 := by
  unfold saturatingAdd
  omega

end

/-! ## What a request describes -/

/-- The session kept for a request: the Node receives what the Agent sends, and sends what it receives. -/
def Describes (service : NodeControlService) (request : SpeedRunRequest) (ports : LocalDataPlanePorts) (sid : SessionId)
    (tag : String) : Session → Prop
  | .tcp s =>
    request.protocol = .tcp ∧ s.state = .testReady ∧ s.authorization.authorizationTag = tag ∧
    s.config = ⟨request.streams.getD 1, 65536, request.warmupMs, request.durationMs⟩ ∧
    s.listener.map (·.bindAddress) = (if request.direction = .download then none
      else some (.new service.bindAddress 0)) ∧
    (request.direction ≠ .download → s.authorization.sourceAddress = service.peerAddress) ∧
    s.senderDestination =
      (if request.direction = .upload then none else some (.new service.peerAddress ports.receive)) ∧
    s.senderConfig = (if request.direction = .bidirectional then some s.config else none)
  | .udp s =>
    request.protocol = .udp ∧ s.state = .testReady ∧ s.authorization.authorizationTag = tag ∧
    s.streamId = 0 ∧ s.maximumDatagramBytes = 1200 ∧ s.idleTimeoutMilliseconds = 2000 ∧
    s.socket.map (·.bindAddress) = some (.new service.bindAddress 0) ∧
    (request.direction ≠ .download →
      s.authorization.sourceAddress = service.peerAddress ∧ s.authorization.sourcePort = some ports.send) ∧
    s.senderDestination =
      (if request.direction = .upload then none else some (.new service.peerAddress ports.receive)) ∧
    s.senderConfig = (if request.direction = .upload then none
      else some ⟨sid, 0, 1200, request.durationMs, request.targetRateBps, 32, tag⟩)
  | .dpdk _ => False

section
variable {service : NodeControlService} {request : SpeedRunRequest} {operationId : String} {sid : SessionId}
  {ports : LocalDataPlanePorts}

theorem targetRate_eq (operationId : String) (sid : SessionId) (ports : LocalDataPlanePorts)
    (h : request.targetRateBps ≠ some 0) :
    targetRate (prepareMessage request operationId sid ports) = request.targetRateBps := by
  show (if request.targetRateBps.getD 0 ≠ 0 then some (request.targetRateBps.getD 0) else none) = _
  cases hrate : request.targetRateBps with
  | none => rfl
  | some rate => exact if_pos fun (hzero : rate = 0) => h (by rw [hrate, hzero])

theorem remoteSession_describes (hvalid : request.Valid) {ttl : Nat} {granted : Granted} {s : Session}
    (h : remoteSession service (prepareMessage request operationId sid ports) sid ttl granted request.protocol
      request.direction = some s) : Describes service request ports sid (hexString granted.tag.1) s := by
  have hsource : messageSourcePort (prepareMessage request operationId sid ports) = ports.send := UInt16.ofNat_toNat
  have hreceive : messageReceivePort (prepareMessage request operationId sid ports) = ports.receive :=
    UInt16.ofNat_toNat
  unfold remoteSession at h
  rw [messageStreams_eq hvalid.streams, hsource, hreceive] at h
  cases hprotocol : request.protocol with
  | tcp =>
    cases hdirection : request.direction <;> rw [hprotocol, hdirection] at h <;> cases h <;>
      refine ⟨hprotocol, rfl, rfl, rfl, ?_, ?_, ?_, ?_⟩ <;> rw [hdirection] <;>
      first | rfl | exact fun _ => rfl | exact fun hne => absurd rfl hne
  | udp =>
    have hpeer : (SocketAddr.new service.peerAddress ports.send).ip = service.peerAddress ∧
        some (SocketAddr.new service.peerAddress ports.send).port = some ports.send := by
      cases service.peerAddress <;> exact ⟨rfl, rfl⟩
    have hrate := targetRate_eq operationId sid ports
      (SpeedRunRequest.validateProtocol_udp hprotocol hvalid.protocol).2
    cases hdirection : request.direction <;> rw [hprotocol, hdirection] at h <;> cases h <;>
      refine ⟨hprotocol, rfl, rfl, rfl, rfl, rfl, rfl, ?_, ?_, ?_⟩ <;> rw [hdirection] <;>
      first | rfl | exact fun _ => hpeer | exact fun hne => absurd rfl hne | rw [← hrate]; rfl
  | raw =>
    rw [hprotocol] at h
    cases h

/-- **A Node that answers keeps what the request describes, under the tag it answers with.** -/
theorem prepared_session_is_described {orphans : Prop} {c : SessionCoordinator} {os : Os}
    (hvalid : request.validate = .ok ()) (hsocket : socketBackend request.backend = true) (hg : Good orphans c)
    (hfresh : c.operations.lookup operationId = none) (now : Nat) :
    wp (service.handlePrepare (prepareMessage request operationId sid ports) os now)
      (fun a c' => ∃ s, c'.session sid = some s ∧ Describes service request ports sid a.authorizationTag s)
      (fun _ _ => True) c := by
  have hvalid := SpeedRunRequest.validate_ok.1 hvalid
  refine wp_mono (handlePrepare_keeps service hg hfresh hsocket now) ?_ (fun _ _ _ => trivial)
  rintro a c' ⟨ttl, -, granted, htag, hs⟩
  cases hsession : c'.session sid with
  | some s =>
    rw [hsession] at hs
    rw [htag]
    exact ⟨s, rfl, remoteSession_describes hvalid hs.symm⟩
  | none =>
    -- only for raw frames no session is kept, and their backend is another one
    rw [hsession] at hs
    cases hprotocol : request.protocol with
    | raw =>
      rw [SpeedRunRequest.validateProtocol_raw hprotocol hvalid.protocol] at hsocket
      cases hsocket
    | _ => cases hdirection : request.direction <;> rw [hprotocol, hdirection] at hs <;> cases hs

end

theorem prepared_session_is_described_upload : ∃ a c' s,
    sampleService.handlePrepare (prepareMessage sampleRequest "run-1" (sampleId 7) .default) sampleOs 0
      .new = (.ok a, c') ∧
    c'.session (sampleId 7) = some s ∧
    Describes sampleService sampleRequest .default (sampleId 7) a.authorizationTag s := by
  have hrun : sampleService.handlePrepare (prepareMessage sampleRequest "run-1" (sampleId 7) .default) sampleOs 0 .new =
    (.ok _, _) := rfl
  obtain ⟨s, hs, hdescribes⟩ :=
    wp_ok (prepared_session_is_described (by decide) (by decide) (good_new True) rfl 0) hrun
  exact ⟨_, _, s, hrun, hs, hdescribes⟩

/-! ## Each protocol -/

section
variable {request : SpeedRunRequest} (service : NodeControlService) (operationId : String) (sid : SessionId)
  (ports : LocalDataPlanePorts) (plan : SpeedSessionPlan) (dataPort sourcePort : UInt16) (address : IpAddr)
  (granted : Granted)

theorem configsPass_tcp {ttl : Nat} (httl : authorizationTtl (prepareMessage request operationId sid ports) = .ok ttl)
    (htcp : request.protocol = .tcp) (hvalid : request.Valid) :
    ConfigsPass service request (prepareMessage request operationId sid ports)
      (acceptedSession sid plan dataPort sourcePort granted) address granted ↔ Runnable request := by
  have hstreams := messageStreams_eq hvalid.streams operationId sid ports
  have hframe := (SpeedRunRequest.validateProtocol_tcp htcp hvalid.protocol).1
  have hpayload : (tcpRun request).payloadBytes = 16384 := by
    show max ((request.frameSize.map (·.toNat)).getD 16384) 1024 = 16384
    rw [hframe]
    rfl
  have hlocal : (tcpRun request).validate = .ok () ↔
      100 ≤ request.durationMs ∧ request.durationMs ≤ 86400000 ∧ (request.streams.getD 1).toNat ≤ 128 :=
    tcpRun_ok hvalid.streams rfl (by rw [hpayload]; decide) rfl
  have hremote : (tcpRunConfig (prepareMessage request operationId sid ports)
      (request.streams.getD 1)).validate = .ok () ↔
      100 ≤ request.durationMs ∧ request.durationMs ≤ 86400000 ∧ (request.streams.getD 1).toNat ≤ 128 :=
    tcpRun_ok hvalid.streams rfl (by show 1024 ≤ max 0 65536 ∧ max 0 65536 ≤ _; decide) rfl
  have hsender := tcpSender_ok (validTag_hexString granted.tag) sid
  have hreceiver := tcpReceiver_ok hvalid.streams (validTag_hexString granted.tag) sid
  unfold ConfigsPass builtConfigs localConfigs Runnable remoteSession
  rw [httl, htcp, hstreams]
  cases request.direction with
  | upload =>
    show Passing [.tcpRun (tcpRunConfig _ (request.streams.getD 1)),
      .tcpReceiver ⟨request.streams.getD 1, sid, hexString granted.tag.1⟩,
      .tcpSender ⟨tcpRun request, sid, hexString granted.tag.1⟩] ↔ _
    simp only [passing_cons, passing_nil, and_true, EngineConfig.validate, hlocal, hremote, hsender, hreceiver]
    omega
  | download =>
    show Passing [.tcpRun (tcpRunConfig _ (request.streams.getD 1)),
      .tcpSender ⟨tcpRunConfig _ (request.streams.getD 1), sid, hexString granted.tag.1⟩,
      .tcpReceiver ⟨request.streams.getD 1, sid, hexString granted.tag.1⟩] ↔ _
    simp only [passing_cons, passing_nil, and_true, EngineConfig.validate, hremote, hsender, hreceiver]
    omega
  | bidirectional =>
    show Passing [.tcpRun (tcpRunConfig _ (request.streams.getD 1)),
      .tcpReceiver ⟨request.streams.getD 1, sid, hexString granted.tag.1⟩,
      .tcpSender ⟨tcpRunConfig _ (request.streams.getD 1), sid, hexString granted.tag.1⟩,
      .tcpReceiver ⟨request.streams.getD 1, sid, hexString granted.tag.1⟩,
      .tcpSender ⟨tcpRun request, sid, hexString granted.tag.1⟩] ↔ _
    simp only [passing_cons, passing_nil, and_true, EngineConfig.validate, hlocal, hremote, hsender, hreceiver]
    omega

theorem configsPass_udp {ttl : Nat} (httl : authorizationTtl (prepareMessage request operationId sid ports) = .ok ttl)
    (hudp : request.protocol = .udp) (hvalid : request.Valid) :
    ConfigsPass service request (prepareMessage request operationId sid ports)
      (acceptedSession sid plan dataPort sourcePort granted) address granted ↔ Runnable request := by
  obtain ⟨hframe, htarget⟩ := SpeedRunRequest.validateProtocol_udp hudp hvalid.protocol
  have hsize : datagramBytes request = 1200 := by
    unfold datagramBytes
    rw [hframe]
    rfl
  have htag := validTag_hexString granted.tag
  have hlocal := udpSender_ok htag sid htarget request.durationMs
  have hremote := udpSender_ok htag sid (targetRate_ne_zero (prepareMessage request operationId sid ports))
    request.durationMs
  have hlocalReceiver := fun source => udpReceiver_ok htag sid source (saturatingAdd request.durationMs 2000)
  have hremoteReceiver := fun source => udpReceiver_ok htag sid source 2000
  have hidle := idle_ok request.durationMs
  unfold ConfigsPass builtConfigs localConfigs Runnable udpSender udpReceiver
  rw [httl, hudp, hsize]
  cases request.direction with
  | upload =>
    show Passing [.udpReceiver ⟨sid, 0, _, 1200, 2000, hexString granted.tag.1⟩,
      .udpSender ⟨sid, 0, 1200, request.durationMs, request.targetRateBps, 32, hexString granted.tag.1⟩] ↔ _
    simp only [passing_cons, passing_nil, and_true, EngineConfig.validate, hlocal, hremoteReceiver]
    rw [if_neg (by decide)]
    omega
  | download =>
    show Passing [.udpSender ⟨sid, 0, 1200, request.durationMs, targetRate _, 32, hexString granted.tag.1⟩,
      .udpReceiver ⟨sid, 0, _, 1200, 2000, hexString granted.tag.1⟩,
      .udpSender ⟨sid, 0, 1200, request.durationMs, targetRate _, 32, hexString granted.tag.1⟩,
      .udpReceiver ⟨sid, 0, _, 1200, saturatingAdd request.durationMs 2000, hexString granted.tag.1⟩] ↔ _
    simp only [passing_cons, passing_nil, and_true, EngineConfig.validate, hremote, hremoteReceiver,
      hlocalReceiver, hidle]
    rw [if_pos (by decide)]
    omega
  | bidirectional =>
    show Passing [.udpSender ⟨sid, 0, 1200, request.durationMs, targetRate _, 32, hexString granted.tag.1⟩,
      .udpReceiver ⟨sid, 0, _, 1200, 2000, hexString granted.tag.1⟩,
      .udpSender ⟨sid, 0, 1200, request.durationMs, targetRate _, 32, hexString granted.tag.1⟩,
      .udpReceiver ⟨sid, 0, _, 1200, saturatingAdd request.durationMs 2000, hexString granted.tag.1⟩,
      .udpSender ⟨sid, 0, 1200, request.durationMs, request.targetRateBps, 32, hexString granted.tag.1⟩] ↔ _
    simp only [passing_cons, passing_nil, and_true, EngineConfig.validate, hlocal, hremote, hremoteReceiver,
      hlocalReceiver, hidle]
    rw [if_pos (by decide)]
    omega

/-- The durations whose sum overflows: the Node refuses the message. -/
def Overlong (request : SpeedRunRequest) : Prop :=
  2 ^ 64 ≤ request.warmupMs + request.durationMs + request.cooldownMs + 999

/-- **What passes, both sides**: the bounds of the engines are not those of `validate`. -/
theorem configs_pass_iff (request : SpeedRunRequest) (hvalid : request.validate = .ok ())
    (hsocket : socketBackend request.backend = true) :
    ConfigsPass service request (prepareMessage request operationId sid ports)
      (acceptedSession sid plan dataPort sourcePort granted) address granted ↔ Runnable request ∨ Overlong request := by
  have hvalid := SpeedRunRequest.validate_ok.1 hvalid
  cases httl : authorizationTtl (prepareMessage request operationId sid ports) with
  | error e =>
    have hoverlong : Overlong request := by
      by_contra hlt
      have hlt : request.warmupMs + request.durationMs + request.cooldownMs + 999 < 2 ^ 64 := Nat.not_le.1 hlt
      obtain ⟨ttl, hok⟩ : ∃ ttl, authorizationTtl (prepareMessage request operationId sid ports) = .ok ttl :=
        authorizationTtl_ok.2 hlt
      rw [httl] at hok
      cases hok
    unfold ConfigsPass builtConfigs
    rw [httl]
    exact iff_of_true (passing_nil.2 trivial) (.inr hoverlong)
  | ok ttl =>
    have hshort : ¬ Overlong request := Nat.not_le.2 (authorizationTtl_ok.1 ⟨ttl, httl⟩)
    rw [or_iff_left hshort]
    cases hprotocol : request.protocol with
    | tcp =>
      exact configsPass_tcp service operationId sid ports plan dataPort sourcePort address granted httl hprotocol hvalid
    | udp =>
      exact configsPass_udp service operationId sid ports plan dataPort sourcePort address granted httl hprotocol hvalid
    | raw =>
      have hbackend := SpeedRunRequest.validateProtocol_raw hprotocol hvalid.protocol
      rw [hbackend] at hsocket
      cases hsocket

end

def sampleGranted : Granted := ⟨3600, ⟨0, .new (.v4 0) 5001⟩, Bytes.replicate 32 7⟩

theorem configs_pass_upload : ConfigsPass sampleService sampleRequest
    (prepareMessage sampleRequest "run-1" (sampleId 7) .default)
    (acceptedSession (sampleId 7) (samplePlan sampleRequest) 5001 0 sampleGranted) (.v4 0) sampleGranted :=
  (configs_pass_iff _ _ _ _ _ _ _ _ _ sampleRequest (by decide) (by decide)).2 (.inl (by decide))

/-- A UDP download of a minute: the Agent's receiver would wait for 62 seconds, and its engine allows 60. -/
def sampleMinute : SpeedRunRequest :=
  { sampleRequest with protocol := .udp, direction := .download, durationMs := 60000 }

theorem minute_download_is_refused :
    sampleMinute.validate = .ok () ∧ socketBackend sampleMinute.backend = true ∧
    (EngineConfig.udpReceiver (udpReceiver sampleMinute
      (acceptedSession (sampleId 7) (samplePlan sampleMinute) 0 5001 sampleGranted) (.v4 0))).validate =
      .error (Speed.invalid "UDP idle timeout must be between 100 ms and 60 seconds") ∧
    ¬ ConfigsPass sampleService sampleMinute (prepareMessage sampleMinute "run-1" (sampleId 7) ⟨0, 5002⟩)
      (acceptedSession (sampleId 7) (samplePlan sampleMinute) 0 5001 sampleGranted) (.v4 0) sampleGranted := by
  refine ⟨by decide, by decide, by decide, ?_⟩
  intro hpass
  have hreceiver := hpass (.udpReceiver (udpReceiver sampleMinute
    (acceptedSession (sampleId 7) (samplePlan sampleMinute) 0 5001 sampleGranted) (.v4 0))) (by decide)
  revert hreceiver
  decide

end Agent
end NetTool
