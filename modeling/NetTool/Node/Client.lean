import NetTool.Lib.Check
import NetTool.Node.Reservations
import NetTool.Node.Server
/-!
# Node.Client — the control client and its Hello (`crates/node/src/client.rs`)

The client sends an envelope and checks the one that comes back; whatever is at the other end of the stream is a `Link`.
With the server of `Node.Server` there, the Hello succeeds and both ends agree on the lower of their minors exactly when
the client's own minor is not above the server's (`negotiation_iff`): the server looks at the envelope, which carries
the client's highest minor, before it looks at the range the Hello offers.
-/
namespace NetTool
namespace Node

open Prog Speed

/-- The other end of a stream: it takes an envelope and answers with one, or the stream fails. -/
abbrev Link (σ : Type) : Type := Envelope → Prog σ NetToolError Envelope

/-- A client after its Hello; before that it carries the build's own minor. -/
structure NodeControlClient where
  remoteNodeId : Bytes 16
  negotiatedMinor : Nat

def randomRequestId : Except String (Bytes 16) → Result (Bytes 16)
  | .ok value => .ok value
  | .error error => .error (.new .randomFailed ("cannot generate Node request ID: " ++ error) false)

def remoteError (error : ProtocolError) : NetToolError :=
  { code := .nodeTransportFailed
    message := "remote Node rejected request: " ++ error.message
    retryable := error.retryable
    details := [("remote_code", error.code)] }

def resultQueryMinimumMinor : Nat := 1

namespace NodeControlClient

variable {σ : Type} (client : NodeControlClient) (build : Build) (link : Link σ) (random : Except String (Bytes 16))

def envelope (requestId : Bytes 16) (message : ControlMessage) : Envelope :=
  ⟨build.major, client.negotiatedMinor, requestId.1, some message⟩

def exchange (message : ControlMessage) : Prog σ NetToolError ControlMessage := do
  let requestId ← ofExcept (randomRequestId random)
  let response ← link (client.envelope build requestId message)
  if response.protocolMajor ≠ build.major ∨ client.negotiatedMinor < response.protocolMinor then
    fail (.new .protocolIncompatible "peer response protocol version is incompatible" false)
  else if response.requestId ≠ requestId.1 then fail (protocol "peer response request ID mismatch")
  else
    match response.message with
    | some (.error error) => fail (remoteError error)
    | some message => pure message
    | none => fail (protocol "peer response does not contain a control message")

def capabilities : Prog σ NetToolError (List CapabilityMessage) := do
  match ← client.exchange build link random .capabilityRequest with
  | .capabilityResponse capabilities => pure capabilities
  | _ => fail (protocol "capability request received an unexpected response type")

def prepareTest (request : PrepareTest) : Prog σ NetToolError PrepareTestResponse := do
  match ← client.exchange build link random (.prepareTest request) with
  | .prepareTestResponse response => pure response
  | _ => fail (protocol "prepare test received an unexpected response type")

def startTest (request : StartTest) : Prog σ NetToolError TestStatus := do
  match ← client.exchange build link random (.startTest request) with
  | .testStatus response => pure response
  | _ => fail (protocol "start test received an unexpected response type")

def stopTest (request : StopTest) : Prog σ NetToolError TestStatus := do
  match ← client.exchange build link random (.stopTest request) with
  | .testStatus response => pure response
  | _ => fail (protocol "stop test received an unexpected response type")

def validateTestResult (ext : Externals) (response : TestResult) (sid : SessionId) : Result Unit := do
  if response.sessionId ≠ sid.1 then .error (protocol "test result session ID mismatch")
  if response.checksum ≠ ext.sha256 response.resultJson then .error (protocol "test result checksum mismatch")

def testResult (ext : Externals) (sid : SessionId) : Prog σ NetToolError TestResult := do
  if sid = Bytes.replicate 16 0 then fail (invalid "result session ID must not be zero")
  else if client.negotiatedMinor < resultQueryMinimumMinor then
    fail (.new .protocolIncompatible "peer does not support retryable test result queries" false)
  else
    match ← client.exchange build link random (.testResultRequest sid.1) with
    | .testResult response => do
      ofExcept (validateTestResult ext response sid)
      pure response
    | _ => fail (protocol "result request received an unexpected response type")

end NodeControlClient

def helloOf (build : Build) (identity : LocalNodeIdentity) : HelloRequest :=
  ⟨identity.nodeId.1, identity.name, build.minimumMinor, build.minor⟩

def negotiate {σ : Type} (build : Build) (link : Link σ) (random : Except String (Bytes 16))
    (identity : LocalNodeIdentity) (expectedRemoteNodeId : Bytes 16) : Prog σ NetToolError NodeControlClient := do
  if trimIsEmpty identity.name then fail (invalid "local Node name must not be empty")
  else
    let client : NodeControlClient := ⟨expectedRemoteNodeId, build.minor⟩
    match ← client.exchange build link random (.helloRequest (helloOf build identity)) with
    | .helloResponse hello =>
      if hello.nodeId ≠ expectedRemoteNodeId.1 then
        fail (.new .nodeTlsFailed "Hello Node ID does not match the paired identity" false)
      else if build.minor < hello.selectedMinor then
        fail (.new .protocolIncompatible "peer selected an unsupported protocol minor" false)
      else pure { client with negotiatedMinor := hello.selectedMinor }
    | _ => fail (protocol "Hello request received an unexpected response type")

/-! ## A client and a server -/

inductive ClientRequest
  | capabilities
  | prepareTest (request : PrepareTest)
  | startTest (request : StartTest)
  | stopTest (request : StopTest)
  | testResult (sid : SessionId)
  | ping (nonce : Nat)

def ClientRequest.message : ClientRequest → ControlMessage
  | capabilities => .capabilityRequest
  | prepareTest request => .prepareTest request
  | startTest request => .startTest request
  | stopTest request => .stopTest request
  | testResult sid => .testResultRequest sid.1
  | ping nonce => .ping nonce

def serverLink (server : Build) (os : Os) (now : Nat) : Link Connection :=
  fun request connection => (.ok (dispatch server request os now connection).1,
    (dispatch server request os now connection).2)

/-- A later request, with what its exchange draws and what the server reads while it answers. -/
structure LaterRequest where
  request : ClientRequest
  random : Except String (Bytes 16)
  os : Os
  now : Nat

def afterRequests (clientBuild server : Build) (client : NodeControlClient) (requests : List LaterRequest)
    (connection : Connection) : Connection :=
  requests.foldl (fun connection r =>
    (client.exchange clientBuild (serverLink server r.os r.now) r.random r.request.message connection).2) connection

/-- Two ends that were paired: each expects the other, the connection is new, the client has a name and draws a
request ID that is not zero. -/
structure Paired (identity : LocalNodeIdentity) (expectedRemoteNodeId : Bytes 16) (requestId : Bytes 16)
    (connection : Connection) : Prop where
  name : trimIsEmpty identity.name = false
  peer : connection.service.expectedPeerNodeId = identity.nodeId
  remote : connection.service.identity.nodeId = expectedRemoteNodeId
  fresh : connection.service.selectedMinor = none
  requestId : requestId.1.all (· == 0) = false

/-- The Hello succeeds, both ends select the lower minor, and whatever is asked later, the next request is passed on to
its command. -/
def Negotiates (client server : Build) (identity : LocalNodeIdentity)
    (expectedRemoteNodeId requestId : Bytes 16) (os : Os) (now : Nat) (connection : Connection) : Prop :=
  ∃ negotiated connection',
    negotiate client (serverLink server os now) (.ok requestId) identity expectedRemoteNodeId connection =
      (.ok negotiated, connection') ∧
    negotiated.negotiatedMinor = min client.minor server.minor ∧
    connection'.service.selectedMinor = some (min client.minor server.minor) ∧
    ∀ (requests : List LaterRequest) (next : ClientRequest) (id : Bytes 16) (os : Os) (now : Nat),
      id.1.all (· == 0) = false →
      dispatchMessage server (negotiated.envelope client id next.message) os now
          (afterRequests client server negotiated requests connection') =
        command (afterRequests client server negotiated requests connection').service next.message os now
          (afterRequests client server negotiated requests connection')

/-! ## What the server does with an envelope -/

section
variable {server : Build} {connection : Connection} {os : Os} {now : Nat}

theorem validateEnvelope_ok {major minor : Nat} {id : Bytes 16} {message : Option ControlMessage} :
    validateEnvelope server ⟨major, minor, id.1, message⟩ = .ok () ↔
      major = server.major ∧ minor ≤ server.minor ∧ id.1.all (· == 0) = false := by
  unfold validateEnvelope
  simp only [Check.error_bind, Check.guard_ok, Check.pure_ok, id.2]
  constructor
  · rintro ⟨hversion, hid, -⟩
    exact ⟨by omega, by omega, by simpa using hid⟩
  · rintro ⟨hmajor, hminor, hid⟩
    exact ⟨by omega, by simpa using hid, trivial⟩

/-- A request that keeps to both versions reaches its command. -/
theorem dispatchMessage_command {minor selected : Nat} {id : Bytes 16} (next : ClientRequest)
    (hid : id.1.all (· == 0) = false) (hminor : minor ≤ server.minor)
    (hselected : connection.service.selectedMinor = some selected) (hle : minor ≤ selected) :
    dispatchMessage server ⟨server.major, minor, id.1, some next.message⟩ os now connection =
      command connection.service next.message os now connection := by
  have hvalid : validateEnvelope server ⟨server.major, minor, id.1, some next.message⟩ = .ok () :=
    validateEnvelope_ok.2 ⟨rfl, hminor, hid⟩
  have hnot : ¬ selected < minor := by omega
  have hagreed : ∀ message : ControlMessage, afterHello message minor os now connection =
      command connection.service message os now connection := by
    intro message
    unfold afterHello
    rw [get_bind, hselected]
    exact congrFun (if_neg hnot) connection
  unfold dispatchMessage
  rw [hvalid]
  cases next <;> exact hagreed _

end

/-! ## What an exchange keeps -/

namespace NodeControlClient

variable {σ : Type} {client : NodeControlClient} {build : Build} {link : Link σ} {I : σ → Prop}
    {D : NetToolError → Prop}

theorem wp_exchange {message : ControlMessage} {random : Except String (Bytes 16)} {R : σ → Prop}
    {E : NetToolError → σ → Prop} {s : σ} (hdraw : ∀ text, random = .error text → ∀ e, E e s)
    (hlink : ∀ id, random = .ok id → wp (link (client.envelope build id message)) (fun _ => R) E s)
    (hE : ∀ e s', R s' → E e s') : wp (client.exchange build link random message) (fun _ => R) E s := by
  cases random with
  | error text => exact hdraw text rfl _
  | ok id =>
    show wp (pure id >>= _) _ _ s
    rw [wp_bind]
    refine wp_seq (hlink id rfl) ?_
    intro response s' h
    rw [wp_ite]
    refine ⟨fun _ => hE _ _ h, fun _ => ?_⟩
    rw [wp_ite]
    refine ⟨fun _ => hE _ _ h, fun _ => ?_⟩
    cases response.message with
    | none => exact hE _ _ h
    | some message => cases message <;> first | exact hE _ _ h | exact h

theorem exchange_keeps {message : ControlMessage} (random : Except String (Bytes 16))
    (hlink : ∀ id, Keeps I D (link (client.envelope build id message))) :
    Keeps I D (client.exchange build link random message) :=
  fun s hs => wp_exchange (fun _ _ _ => .inr hs) (fun id _ => hlink id s hs) (fun _ _ h => .inr h)

end NodeControlClient

/-! ## The agreed minor stays -/

def Agreed (selected : Nat) (connection : Connection) : Prop := connection.service.selectedMinor = some selected

section
variable {selected : Nat} {D : NetToolError → Prop}

theorem keeps_onCoordinator {α : Type} (m : Coord α) : Keeps (Agreed selected) D (onCoordinator m) := by
  intro connection h
  unfold onCoordinator
  rw [wp_zoom]
  exact wp_mono (wp_of_state (P := fun _ => Agreed selected connection) h) (fun _ _ h => h) (fun _ _ h => .inr h)

theorem keeps_command (service : NodeControlService) (message : ControlMessage) (os : Os) (now : Nat) :
    Keeps (Agreed selected) D (command service message os now) := by
  cases message with
  | prepareTest prepare => exact (keeps_onCoordinator _).bind (fun _ => .pure _)
  | startTest request
  | stopTest request =>
    exact (Keeps.ofExcept _).bind (fun _ => (keeps_onCoordinator _).bind (fun _ => .pure _))
  | testResultRequest sid =>
    exact (Keeps.ofExcept _).bind (fun _ => Keeps.get.bind (fun _ => (Keeps.ofExcept _).bind (fun _ => .pure _)))
  | capabilityRequest => exact .pure _
  | ping nonce => exact .pure _
  | _ => exact .fail _

theorem keeps_dispatchMessage (server : Build) (major minor : Nat) (id : List UInt8) (next : ClientRequest) (os : Os)
    (now : Nat) : Keeps (Agreed selected) D (dispatchMessage server ⟨major, minor, id, some next.message⟩ os now) := by
  have hafter : ∀ message : ControlMessage, Keeps (Agreed selected) D (afterHello message minor os now) := by
    intro message
    apply Keeps.get.bind
    intro connection
    cases connection.service.selectedMinor with
    | none => exact .fail _
    | some _ => exact .ite (.fail _) (keeps_command _ _ _ _)
  apply (Keeps.ofExcept _).bind
  intro _
  cases next <;> exact hafter _

/-- **Whatever is asked on a connection, it keeps the minor it agreed on.** -/
theorem afterRequests_agreed (clientBuild server : Build) (client : NodeControlClient) (requests : List LaterRequest) :
    ∀ connection, Agreed selected connection →
      Agreed selected (afterRequests clientBuild server client requests connection) := by
  induction requests with
  | nil => exact fun _ h => h
  | cons r rest ih =>
    intro connection h
    apply ih
    have hkeeps : Keeps (Agreed selected) (fun _ => False) (client.exchange clientBuild (serverLink server r.os r.now)
        r.random r.request.message) := by
      apply NodeControlClient.exchange_keeps
      intro id connection h
      exact wp_state (P := Agreed selected)
        ((keeps_dispatchMessage server clientBuild.major client.negotiatedMinor id.1 r.request r.os r.now).always h)
    exact wp_state (P := Agreed selected) (hkeeps.always h)

end

/-! ## The Hello of a client and a server -/

namespace NodeControlClient

variable {σ : Type} (client : NodeControlClient) {build : Build} {link : Link σ} {id : Bytes 16}
    {message : ControlMessage}
  {minor : Nat} {s s' : σ}

section
variable {answer : ControlMessage}
  (hlink : link (client.envelope build id message) s = (.ok ⟨build.major, minor, id.1, some answer⟩, s'))
  (hle : minor ≤ client.negotiatedMinor)
include hlink hle

/-- An answer that keeps to the client's version is handed back, or its error is. -/
theorem exchange_answered : client.exchange build link (.ok id) message s =
    (match answer with | .error error => fail (remoteError error) | message => pure message : Prog σ
      NetToolError _) s' := by
  have hversion : ¬ (build.major ≠ build.major ∨ client.negotiatedMinor < minor) := by omega
  have hid : (ofExcept (randomRequestId (.ok id)) : Prog σ NetToolError (Bytes 16)) s = (.ok id, s) := rfl
  unfold exchange
  rw [bind_of_ok hid, bind_of_ok hlink, if_neg hversion, if_neg (fun h => h rfl)]
  cases answer <;> rfl

theorem exchange_ok (hanswer : ∀ error, answer ≠ .error error) :
    client.exchange build link (.ok id) message s = (.ok answer, s') := by
  rw [client.exchange_answered hlink hle]
  cases answer with
  | error error => exact absurd rfl (hanswer error)
  | _ => rfl

end

end NodeControlClient

theorem serverLink_eq {server : Build} {os : Os} {now : Nat} {request answer : Envelope}
    {connection connection' : Connection} (h : dispatch server request os now connection = (answer, connection')) :
    serverLink server os now request connection = (.ok answer, connection') := by
  unfold serverLink
  rw [h]

section
variable {client server : Build} {identity : LocalNodeIdentity} {expectedRemoteNodeId requestId : Bytes 16}
  {connection : Connection} (os : Os) (now : Nat)

def agreeOn (selected : Nat) (connection : Connection) : Connection :=
  { connection with service := { connection.service with selectedMinor := some selected } }

theorem dispatch_above (requestId : Bytes 16) (message : Option ControlMessage) (connection : Connection)
    (hlt : server.minor < client.minor) :
    dispatch server ⟨server.major, client.minor, requestId.1, message⟩ os now connection =
      (⟨server.major, connection.service.selectedMinor.getD server.minor, requestId.1,
        some (.error (protocolError versionIncompatible))⟩, connection) := by
  have hmessage : dispatchMessage server ⟨server.major, client.minor, requestId.1, message⟩ os now connection =
      (.error versionIncompatible, connection) := by
    unfold dispatchMessage validateEnvelope
    rw [if_pos (.inr hlt)]
    rfl
  unfold dispatch
  rw [hmessage]

section
variable (hpaired : Paired identity expectedRemoteNodeId requestId connection)
include hpaired

theorem dispatch_hello (hmin : client.minimumMinor ≤ server.minor) (hle : client.minor ≤ server.minor) :
    dispatch server ⟨server.major, client.minor, requestId.1, some (.helloRequest (helloOf client identity))⟩ os now
        connection =
      (⟨server.major, min client.minor server.minor, requestId.1,
        some (.helloResponse ⟨min client.minor server.minor, expectedRemoteNodeId.1,
          connection.service.identity.name⟩)⟩,
        agreeOn (min client.minor server.minor) connection) := by
  have hoffer : ¬ (trimIsEmpty identity.name = true ∨ client.minor < client.minimumMinor ∨
      server.minor < client.minimumMinor) := by
    have hrange := client.range
    rw [hpaired.name]
    rintro (hblank | hbelow | habove)
    · cases hblank
    · omega
    · omega
  have hmessage : dispatchMessage server
      ⟨server.major, client.minor, requestId.1, some (.helloRequest (helloOf client identity))⟩ os now connection =
        handleHello server (helloOf client identity) connection := by
    unfold dispatchMessage
    rw [validateEnvelope_ok.2 ⟨rfl, hle, hpaired.requestId⟩]
    rfl
  unfold dispatch
  rw [hmessage]
  unfold handleHello
  rw [get_bind, if_neg (by simp [hpaired.fresh]), if_neg (by rw [hpaired.peer]; exact fun h => h rfl),
    if_neg (by exact hoffer), ← hpaired.remote]
  rfl

theorem negotiate_agrees (hmajor : client.major = server.major) (hmin : client.minimumMinor ≤ server.minor)
    (hle : client.minor ≤ server.minor) :
    negotiate client (serverLink server os now) (.ok requestId) identity expectedRemoteNodeId connection =
      (.ok ⟨expectedRemoteNodeId, min client.minor server.minor⟩,
        agreeOn (min client.minor server.minor) connection) := by
  have hlink := serverLink_eq (dispatch_hello os now hpaired hmin hle)
  rw [← hmajor] at hlink
  have hexchange := NodeControlClient.exchange_ok ⟨expectedRemoteNodeId, client.minor⟩ hlink
    (Nat.min_le_left _ _) (by intro error h; cases h)
  have hbelow : ¬ client.minor < min client.minor server.minor := by omega
  unfold negotiate
  rw [if_neg (by simp [hpaired.name]), bind_of_ok hexchange]
  dsimp only
  rw [if_neg (fun h => h rfl), if_neg hbelow]
  rfl

theorem negotiate_refused (hmajor : client.major = server.major) (hlt : server.minor < client.minor) :
    negotiate client (serverLink server os now) (.ok requestId) identity expectedRemoteNodeId connection =
      (.error (remoteError (protocolError versionIncompatible)), connection) := by
  have hlink := serverLink_eq
    (dispatch_above os now requestId (some (.helloRequest (helloOf client identity))) connection hlt)
  rw [← hmajor, hpaired.fresh] at hlink
  have hexchange := NodeControlClient.exchange_answered ⟨expectedRemoteNodeId, client.minor⟩ hlink (Nat.le_of_lt hlt)
  unfold negotiate
  rw [if_neg (by simp [hpaired.name]), bind_of_error hexchange]

end

end

/-- **A Hello between two builds of one major agrees on the lower minor, for good, exactly when the client's minor is
not above the server's.**  The client sends its highest minor in the envelope of the Hello, and the server refuses an
envelope above its own minor before it reads the range, which would allow the lower minor. -/
theorem negotiation_iff (client server : Build) (hmajor : client.major = server.major)
    (hmin : client.minimumMinor ≤ server.minor) (identity : LocalNodeIdentity)
    (expectedRemoteNodeId requestId : Bytes 16) (os : Os) (now : Nat) (connection : Connection)
    (hpaired : Paired identity expectedRemoteNodeId requestId connection) :
    Negotiates client server identity expectedRemoteNodeId requestId os now connection ↔
      client.minor ≤ server.minor := by
  constructor
  · rintro ⟨negotiated, connection', hnegotiate, -⟩
    by_contra habove
    rw [negotiate_refused os now hpaired hmajor (by omega)] at hnegotiate
    cases hnegotiate
  · intro hle
    have hselected : Agreed (min client.minor server.minor) (agreeOn (min client.minor server.minor) connection) := rfl
    refine ⟨_, _, negotiate_agrees os now hpaired hmajor hmin hle, rfl, hselected, ?_⟩
    intro requests next id os now hid
    have hagreed := afterRequests_agreed client server ⟨expectedRemoteNodeId, min client.minor server.minor⟩ requests _
      hselected
    unfold NodeControlClient.envelope
    rw [hmajor]
    exact dispatchMessage_command next hid (Nat.min_le_right _ _) hagreed le_rfl

/-- A node and the node it was paired with, on a new connection. -/
def sampleIdentity : LocalNodeIdentity := ⟨Bytes.replicate 16 1, "client"⟩

def sampleService : NodeControlService where
  identity := ⟨Bytes.replicate 16 2, "server"⟩
  expectedPeerNodeId := Bytes.replicate 16 1
  peerAddress := .localhost
  bindAddress := .localhost
  selectedMinor := none
  dpdkAvailable := true

def sampleConnection : Connection := ⟨sampleService, .new⟩

theorem negotiation_current :
    Negotiates Build.current Build.current sampleIdentity (Bytes.replicate 16 2) (Bytes.replicate 16 3) sampleOs 0
      sampleConnection :=
  (negotiation_iff Build.current Build.current rfl (by decide) sampleIdentity (Bytes.replicate 16 2)
    (Bytes.replicate 16 3) _ 0 sampleConnection ⟨by decide, rfl, rfl, rfl, by decide⟩).2 (by decide)

/-- A client one minor ahead that still speaks minor 0 is refused. -/
theorem newer_client_is_refused :
    (negotiate ⟨1, 0, 2, by decide⟩ (serverLink Build.current sampleOs 0) (.ok (Bytes.replicate 16 3))
        sampleIdentity (Bytes.replicate 16 2) sampleConnection).1 =
      .error (remoteError (protocolError versionIncompatible)) := by
  rfl

end Node
end NetTool
