import NetTool.Node.Client
import NetTool.Node.Planner
/-!
# Node.Orchestrator — a remote speed session (`crates/node/src/orchestrator.rs`)

The initiator asks for the capabilities, plans, sends the `PrepareTest` and checks the answer (`acceptPrepared`).  The
session it then holds can be started, stopped and asked for its result; each answer is checked against the session.
-/
namespace NetTool
namespace Node

open Prog Speed

structure PreparedRemoteSpeedSession where
  sessionId : SessionId
  plan : SpeedSessionPlan
  remoteDataPort : UInt16
  remoteSourceDataPort : UInt16
  authorizationTag : String
  deriving DecidableEq

def statusRunning : String := "RUNNING"
def statusTestReady : String := "TEST_READY"
def statusCanceled : String := "CANCELED"

def validateStatus (status : TestStatus) (expected : SessionId) (expectedState : String) : Result Unit :=
  do
  if status.sessionId ≠ expected.1 then .error (protocol "test status session ID mismatch")
  if status.state ≠ expectedState then
    .error (.new .invalidState ("remote Node returned state " ++ status.state ++ " instead of " ++ expectedState) false)

def validateStatusAny (status : TestStatus) (expected : SessionId) (expectedStates : List String) :
    Result Unit := do
  if status.sessionId ≠ expected.1 then .error (protocol "test status session ID mismatch")
  if status.state ∉ expectedStates then
    .error (.new .invalidState ("remote Node returned unexpected state " ++ status.state) false)

/-- The operation ID of a start or a stop. -/
@[irreducible] def validateNodeOperationId (operationId : String) : Result Unit :=
  if trimIsEmpty operationId then .error (invalid "Node operation ID must not be empty") else .ok ()

theorem validateNodeOperationId_ok {operationId : String} (h : trimIsEmpty operationId = false) :
    validateNodeOperationId operationId = .ok () := by
  unfold validateNodeOperationId
  rw [h]
  rfl

/-- `u16::try_from` of a port in an answer. -/
def answeredPort (message : String) (value : Nat) : Result UInt16 :=
  if value < 2 ^ 16 then .ok (UInt16.ofNat value) else .error (protocol message)

def acceptPrepared (request : SpeedRunRequest) (sid : SessionId) (plan : SpeedSessionPlan)
    (response : PrepareTestResponse) :
    Result PreparedRemoteSpeedSession := do
  if !response.ready then .error (.new .invalidState "remote Node did not enter TEST_READY after prepare" true)
  if trimIsEmpty response.authorizationTag then
    .error (protocol "prepare response does not contain an authorization tag")
  let remoteDataPort ← answeredPort "prepare response data port is outside the valid range" response.dataPort
  let remoteSourceDataPort ←
    answeredPort "prepare response source port is outside the valid range" response.sourceDataPort
  -- what the initiator sends the remote node receives
  if request.protocol ≠ .raw ∧ Direction.sends request.direction ∧ remoteDataPort = 0 then
    .error (protocol "socket prepare response does not contain a dynamic data port")
  if request.protocol = .udp ∧ Direction.receives request.direction ∧ remoteSourceDataPort = 0 then
    .error (protocol "UDP prepare response does not contain the remote sender source port")
  pure ⟨sid, plan, remoteDataPort, remoteSourceDataPort, response.authorizationTag⟩

section
variable {σ : Type} (client : NodeControlClient) (build : Build) (link : Link σ)

/-- Two exchanges, each with a request ID of its own. -/
def prepareRemoteSpeedSession (random₁ random₂ : Except String (Bytes 16)) (request : SpeedRunRequest)
    (operationId : String) (sid : SessionId) (ports : LocalDataPlanePorts) :
    Prog σ NetToolError PreparedRemoteSpeedSession := do
  let capabilities ← client.capabilities build link random₁
  let plan ← ofExcept (planSpeedSession request operationId sid ports capabilities)
  let response ← client.prepareTest build link random₂ plan.prepare
  ofExcept (acceptPrepared request sid plan response)

namespace PreparedRemoteSpeedSession

variable (prepared : PreparedRemoteSpeedSession) (random : Except String (Bytes 16))

def start (operationId : String) (startAtUnixNanoseconds : Nat) : Prog σ NetToolError Unit := do
  ofExcept (validateNodeOperationId operationId)
  if startAtUnixNanoseconds = 0 then fail (invalid "scheduled start timestamp must be non-zero")
  else
    let status ← client.startTest build link random ⟨prepared.sessionId.1, operationId, startAtUnixNanoseconds⟩
    ofExcept (validateStatusAny status prepared.sessionId [statusTestReady, statusRunning])

def stop (operationId : String) : Prog σ NetToolError Unit := do
  ofExcept (validateNodeOperationId operationId)
  let status ← client.stopTest build link random ⟨prepared.sessionId.1, operationId⟩
  ofExcept (validateStatus status prepared.sessionId statusCanceled)

def result (ext : Externals) : Prog σ NetToolError TestResult :=
  client.testResult build link random ext prepared.sessionId

end PreparedRemoteSpeedSession
end

/-! ## What the messages keep -/

namespace PreparedRemoteSpeedSession

variable {σ : Type} {client : NodeControlClient} {build : Build} {link : Link σ} {operationId : String} {startAt : Nat}
  {prepared : PreparedRemoteSpeedSession} {random : Except String (Bytes 16)}
  {R : σ → Prop} {E : NetToolError → σ → Prop} {s : σ}

theorem wp_start (hearly : ∀ e, E e s) (hlink : ∀ id, random = .ok id → wp (link (client.envelope build id
      (.startTest ⟨prepared.sessionId.1, operationId, startAt⟩))) (fun _ => R) E s)
    (hE : ∀ e s', R s' → E e s') :
    wp (prepared.start client build link random operationId startAt) (fun _ => R) E s := by
  refine wp_check (fun _ _ => ?_) (fun e _ => hearly e)
  rw [wp_ite]
  refine ⟨fun _ => hearly _, fun _ => ?_⟩
  rw [wp_bind]
  refine wp_seq (NodeControlClient.wp_exchange (fun _ _ => hearly) hlink hE) ?_
  intro answer s' h
  cases answer with
  | testStatus status => exact (wp_ofExcept _).2 ⟨fun _ _ => h, fun e _ => hE e s' h⟩
  | _ => exact hE _ _ h

theorem wp_stop (hvisible : trimIsEmpty operationId = false) (hdraw : ∀ text, random = .error text → R s)
    (hlink : ∀ id, random = .ok id →
      wp (link (client.envelope build id (.stopTest ⟨prepared.sessionId.1, operationId⟩))) (fun _ => R)
        (fun _ => R) s) :
    wp (prepared.stop client build link random operationId) (fun _ => R) (fun _ => R) s := by
  apply wp_check_ok (validateNodeOperationId_ok hvisible)
  rw [wp_bind]
  refine wp_seq (NodeControlClient.wp_exchange (fun text h _ => hdraw text h) hlink (fun _ _ h => h)) ?_
  intro answer s' h
  cases answer with
  | testStatus status => exact (wp_ofExcept _).2 ⟨fun _ _ => h, fun _ _ => h⟩
  | _ => exact h

theorem wp_result (ext : Externals) {I : σ → Prop}
    (hlink : ∀ envelope, Keeps I (fun _ => False) (link envelope)) (hs : I s) :
    wp (prepared.result client build link random ext)
      (fun result s' => I s' ∧ result.sessionId = prepared.sessionId.1) (fun _ => I) s := by
  unfold result NodeControlClient.testResult
  rw [wp_ite]
  refine ⟨fun _ => hs, fun _ => ?_⟩
  rw [wp_ite]
  refine ⟨fun _ => hs, fun _ => ?_⟩
  refine wp_seq ((client.exchange_keeps random (fun _ => hlink _)).always hs) ?_
  intro answer s' h
  cases answer with
  | testResult response =>
    refine wp_check (fun _ hvalid => ?_) (fun _ _ => h)
    unfold NodeControlClient.validateTestResult at hvalid
    simp only [Check.error_bind, Check.guard_ok] at hvalid
    exact ⟨h, not_not.1 hvalid.1⟩
  | _ => exact h

end PreparedRemoteSpeedSession

section
variable {σ : Type} (client : NodeControlClient) (build : Build) {link : Link σ}
    (random₁ random₂ : Except String (Bytes 16))
  (request : SpeedRunRequest) (operationId : String) (sid : SessionId) (ports : LocalDataPlanePorts)

theorem prepareRemoteSpeedSession_keeps {I : σ → Prop} {D : NetToolError → Prop}
    (hlink : ∀ envelope, Keeps I D (link envelope)) :
    Keeps I D (prepareRemoteSpeedSession client build link random₁ random₂ request operationId sid ports) := by
  have hcapabilities : Keeps I D (client.capabilities build link random₁) := by
    apply (client.exchange_keeps random₁ (fun _ => hlink _)).bind
    intro answer
    cases answer <;> first | exact Keeps.pure _ | exact Keeps.fail _
  have hprepare : ∀ request, Keeps I D (client.prepareTest build link random₂ request) := by
    intro request
    apply (client.exchange_keeps random₂ (fun _ => hlink _)).bind
    intro answer
    cases answer <;> first | exact Keeps.pure _ | exact Keeps.fail _
  apply hcapabilities.bind
  intro capabilities
  apply (Keeps.ofExcept _).bind
  intro plan
  exact (hprepare plan.prepare).bind (fun _ => Keeps.ofExcept _)

/-- Some capabilities and some answer let the initiator plan the session and accept it. -/
def Obtainable (prepared : PreparedRemoteSpeedSession) : Prop :=
  ∃ capabilities plan response, planSpeedSession request operationId sid ports capabilities = .ok plan ∧
    acceptPrepared request sid plan response = .ok prepared

theorem wp_prepareRemoteSpeedSession (s : σ) :
    wp (prepareRemoteSpeedSession client build link random₁ random₂ request operationId sid ports)
      (fun prepared _ => (∃ id, random₁ = .ok id) ∧ (∃ id, random₂ = .ok id) ∧
        Obtainable request operationId sid ports prepared) (fun _ _ => True) s := by
  -- an exchange that ends with an answer had a request ID to draw
  have hdrew : ∀ (random : Except String (Bytes 16)) (message : ControlMessage) (s : σ),
      wp (client.exchange build link random message) (fun _ _ => ∃ id, random = .ok id) (fun _ _ => True) s := by
    intro random message s
    apply NodeControlClient.wp_exchange (fun _ _ _ => trivial)
    · intro id hid
      exact wp_mono (wp_of_state (P := fun _ => ∃ id, random = .ok id) ⟨id, hid⟩) (fun _ _ h => h)
        (fun _ _ _ => trivial)
    · exact fun _ _ _ => trivial
  unfold prepareRemoteSpeedSession NodeControlClient.capabilities NodeControlClient.prepareTest
  rw [wp_bind]
  apply wp_then (hdrew random₁ _ s) _ (fun _ _ _ => trivial)
  intro answer s₁ hdrew₁
  cases answer with
  | capabilityResponse capabilities =>
    rw [wp_pure, wp_bind, wp_ofExcept]
    refine ⟨fun plan hplan => ?_, fun _ _ => trivial⟩
    rw [wp_bind]
    apply wp_then (hdrew random₂ _ s₁) _ (fun _ _ _ => trivial)
    intro answer s₂ hdrew₂
    cases answer with
    | prepareTestResponse response =>
      rw [wp_pure, wp_ofExcept]
      exact ⟨fun prepared haccept => ⟨hdrew₁, hdrew₂, capabilities, plan, response, hplan, haccept⟩, fun _ _ => trivial⟩
    | _ => trivial
  | _ => trivial

end

end Node
end NetTool
