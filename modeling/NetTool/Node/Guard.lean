import NetTool.Node.Messages
/-!
# Node.Guard — what one connection lets through to the coordinator

At most one Hello is accepted on a connection, from its peer (`Fits`).  A request that comes before it, is above its
minor or is malformed is answered without a look at the coordinator, whatever others do there in between
(`control_connection_guarded`).
-/
namespace NetTool
namespace Node

open Prog

/-- A connection is opened without a minor. -/
def NodeControlService.withCoordinatorAndDpdk (identity : LocalNodeIdentity) (expectedPeerNodeId : Bytes 16)
    (peerAddress bindAddress : IpAddr) (dpdkAvailable : Bool) : NodeControlService :=
  ⟨identity, expectedPeerNodeId, peerAddress, bindAddress, none, dpdkAvailable⟩

/-- A request, and what others have done to the coordinator since the request before it. -/
structure Received where
  request : Envelope
  os : Os
  now : Nat
  others : SessionCoordinator → SessionCoordinator

/-- A connection, and the Hellos it has accepted with their answers. -/
structure Conversation where
  connection : Connection
  accepted : List (Envelope × HelloResponse)

def acceptance (request answer : Envelope) : List (Envelope × HelloResponse) :=
  match request.message, answer.message with
  | some (.helloRequest _), some (.helloResponse response) => [(request, response)]
  | _, _ => []

def Conversation.answer (build : Build) (x : Conversation) (r : Received) : Envelope × Connection :=
  dispatch build r.request r.os r.now { x.connection with coordinator := r.others x.connection.coordinator }

def Conversation.receive (build : Build) (x : Conversation) (r : Received) : Conversation :=
  ⟨(x.answer build r).2, x.accepted ++ acceptance r.request (x.answer build r).1⟩

def ControlMessage.sessionBytes : ControlMessage → Option (List UInt8)
  | .prepareTest prepare => some prepare.sessionId
  | .startTest request => some request.sessionId
  | .stopTest request => some request.sessionId
  | .testResultRequest sessionId => some sessionId
  | _ => none

/-- An ID is 16 bytes, not all of them zero. -/
def IllFormed (id : List UInt8) : Prop := id.length ≠ 16 ∨ id.all (· == 0) = true

def Malformed (request : Envelope) : Prop :=
  IllFormed request.requestId ∨ ∃ id, request.message.bind ControlMessage.sessionBytes = some id ∧ IllFormed id

/-- The program does not look at the coordinator, and changes nothing. -/
def Idle {α : Type} (m : Connection → α × Connection) (service : NodeControlService) : Prop :=
  ∀ c c', (m ⟨service, c⟩).1 = (m ⟨service, c'⟩).1 ∧ (m ⟨service, c⟩).2 = ⟨service, c⟩

def FromPeer (service : NodeControlService) (request : Envelope) : Prop :=
  ∃ hello, request.message = some (.helloRequest hello) ∧ hello.nodeId = service.expectedPeerNodeId.1

/-- The service of a connection, by how it was opened and the Hellos it has accepted: none, or one from the peer. -/
inductive Fits (service : NodeControlService) : NodeControlService → List (Envelope × HelloResponse) → Prop
  | opened : Fits service service []
  | agreed (request : Envelope) (response : HelloResponse) (hpeer : FromPeer service request) :
      Fits service { service with selectedMinor := some response.selectedMinor } [(request, response)]

section
variable {build : Build} {service : NodeControlService} {x : Conversation} {r : Received} {id : List UInt8}
  {message : ControlMessage} {os : Os} {now : Nat}

/-! ## What stops a request -/

theorem parseSessionId_illFormed (h : IllFormed id) : ∃ error, parseSessionId id = .error error := by
  unfold parseSessionId
  by_cases hlength : id.length = 16
  · rw [dif_pos hlength, if_pos (h.resolve_left (not_not.2 hlength))]
    exact ⟨_, rfl⟩
  · rw [dif_neg hlength]
    exact ⟨_, rfl⟩

theorem validateEnvelope_wellFormed {request : Envelope} (h : validateEnvelope build request = .ok ()) :
    ¬ IllFormed request.requestId := by
  unfold validateEnvelope at h
  simp only [Check.error_bind, Check.guard_ok] at h
  exact h.2.1

theorem idle_command (hid : message.sessionBytes = some id) (h : IllFormed id) :
    Idle (command service message os now) service := by
  obtain ⟨error, herror⟩ := parseSessionId_illFormed h
  intro c c'
  cases message <;> cases hid <;> simp only [command, NodeControlService.handlePrepare, herror] <;> exact ⟨rfl, rfl⟩

/-- The checks of the envelope come first, then those of a Hello or of a command. -/
theorem idle_dispatch
    (hhello : ∀ hello, r.request.message = some (.helloRequest hello) → ¬ IllFormed r.request.requestId →
      service.selectedMinor.isSome = true)
    (hcommand : ∀ message selected, r.request.message = some message → ¬ IllFormed r.request.requestId →
      service.selectedMinor = some selected → r.request.protocolMinor ≤ selected →
      Idle (command service message r.os r.now) service) :
    Idle (dispatch build r.request r.os r.now) service := by
  have hidle : Idle (dispatchMessage build r.request r.os r.now) service := by
    unfold dispatchMessage
    cases hvalid : validateEnvelope build r.request with
    | error error => exact fun _ _ => ⟨rfl, rfl⟩
    | ok _ =>
      have hformed := validateEnvelope_wellFormed hvalid
      cases hmessage : r.request.message with
      | none => exact fun _ _ => ⟨rfl, rfl⟩
      | some message =>
        -- a message gets to its command after the Hello and up to its minor
        have hafter : Idle (afterHello message r.request.protocolMinor r.os r.now) service := by
          intro c c'
          rw [afterHello, get_bind, get_bind]
          cases hselected : service.selectedMinor with
          | none => exact ⟨rfl, rfl⟩
          | some selected =>
            by_cases hminor : selected < r.request.protocolMinor
            · simp only [if_pos hminor]
              exact ⟨rfl, rfl⟩
            · simp only [if_neg hminor]
              exact hcommand message selected hmessage hformed hselected (Nat.not_lt.1 hminor) c c'
        cases message with
        | helloRequest hello =>
          intro c c'
          show (handleHello build hello _).1 = (handleHello build hello _).1 ∧ (handleHello build hello _).2 = _
          simp only [handleHello, get_bind, if_pos (hhello hello hmessage hformed)]
          exact ⟨rfl, rfl⟩
        | _ => exact hafter
  intro c c'
  unfold dispatch
  simp only [(hidle c c').1, (hidle c c').2, (hidle c' c).2, and_self]

/-! ## The Hello -/

/-- **One Hello at most is accepted**, from the peer; nothing else changes the service. -/
theorem Fits.receive (h : Fits service x.connection.service x.accepted) :
    Fits service (x.receive build r).connection.service (x.receive build r).accepted := by
  have hwp : wp (dispatchMessage build r.request r.os r.now)
      (fun a k => ∀ major minor,
        Fits service k.service (x.accepted ++ acceptance r.request ⟨major, minor, r.request.requestId, some a⟩))
      (fun _ k => Fits service k.service x.accepted)
      { x.connection with coordinator := r.others x.connection.coordinator } := by
    refine wp_dispatchMessage (fun _ => h) (fun hello hmessage => ?_) (fun message hmessage => ?_)
    · unfold handleHello
      rw [wp_bind]
      simp only [wp_ite]
      refine ⟨fun _ => h, fun hfirst => ⟨fun _ => h, fun hpeer => ⟨fun _ => h, fun _ major minor => ?_⟩⟩⟩
      generalize x.connection.service = current, x.accepted = accepted at h hfirst hpeer ⊢
      cases h with
      | opened =>
        rw [acceptance, hmessage]
        exact .agreed _ ⟨_, service.identity.nodeId.1, service.identity.name⟩ ⟨hello, hmessage, not_not.1 hpeer⟩
      | agreed => exact absurd rfl hfirst
    · cases message with
      | helloRequest hello => exact h
      | _ =>
        refine wp_mono (command_leaves (P := fun _ => True) trivial (fun sid id _ _ => after_true sid id _)) ?_ ?_
        · intro a k hk major minor
          simpa [acceptance, hmessage, hk.1] using h
        · intro e k hk
          rwa [hk.1]
  unfold wp at hwp
  unfold Conversation.receive Conversation.answer dispatch
  rcases hrun : dispatchMessage build r.request r.os r.now _ with ⟨error | a, k⟩ <;> rw [hrun] at hwp
  · simpa [acceptance] using hwp
  · exact hwp _ _

end

/-! ## A connection -/

/-- What holds of a request, whatever came before it on its connection. -/
structure GuardedAt (build : Build) (service : NodeControlService) (x : Conversation) (r : Received) : Prop where
  once : x.accepted.length ≤ 1
  peer : ∀ hello ∈ x.accepted, FromPeer service hello.1
  answered : (x.answer build r).1.requestId = r.request.requestId
  unopened : x.accepted = [] → (∀ hello, r.request.message ≠ some (.helloRequest hello)) →
    Idle (dispatch build r.request r.os r.now) x.connection.service
  minor : ∀ hello ∈ x.accepted, hello.2.selectedMinor < r.request.protocolMinor →
    Idle (dispatch build r.request r.os r.now) x.connection.service
  formed : Malformed r.request → Idle (dispatch build r.request r.os r.now) x.connection.service

/-- **A connection is guarded**: over every sequence of requests and whatever happens at the coordinator in between. -/
theorem control_connection_guarded (build : Build) (identity : LocalNodeIdentity) (expectedPeerNodeId : Bytes 16)
    (peerAddress bindAddress : IpAddr) (dpdkAvailable : Bool) (c : SessionCoordinator) (received : List Received)
    (r : Received) : let service : NodeControlService :=
      .withCoordinatorAndDpdk identity expectedPeerNodeId peerAddress bindAddress dpdkAvailable
    GuardedAt build service (received.foldl (Conversation.receive build) ⟨⟨service, c⟩, []⟩) r := by
  intro service
  have hfits : Fits service (received.foldl (Conversation.receive build) ⟨⟨service, c⟩, []⟩).connection.service
      (received.foldl (Conversation.receive build) ⟨⟨service, c⟩, []⟩).accepted :=
    List.foldlRecOn received (motive := fun x : Conversation => Fits service x.connection.service x.accepted) _ .opened
      (fun _ h _ _ => h.receive)
  generalize received.foldl (Conversation.receive build) ⟨⟨service, c⟩, []⟩ = x at hfits
  have hformed : Malformed r.request → Idle (dispatch build r.request r.os r.now) x.connection.service := by
    rintro (hrequest | ⟨id, hid, hill⟩)
    · exact idle_dispatch (fun _ _ h => absurd hrequest h) (fun _ _ _ h => absurd hrequest h)
    · refine idle_dispatch (fun hello hmessage => ?_) (fun message _ hmessage _ _ _ => ?_)
      · rw [hmessage] at hid
        cases hid
      · rw [hmessage] at hid
        exact idle_command hid hill
  obtain ⟨⟨current, c'⟩, accepted⟩ := x
  dsimp only at hfits hformed
  cases hfits with
  | opened =>
    refine ⟨Nat.zero_le _, by simp, rfl, fun _ hother => ?_, by simp, hformed⟩
    exact idle_dispatch (fun hello hmessage => absurd hmessage (hother hello))
      (fun _ _ _ _ hselected => nomatch hselected)
  | agreed request response hpeer =>
    refine ⟨Nat.le_refl 1, by simpa using hpeer, rfl, by simp, fun hello hmem habove => ?_, hformed⟩
    cases List.mem_singleton.1 hmem
    refine idle_dispatch (fun _ _ _ => rfl) (fun _ selected _ _ hselected hle => ?_)
    cases hselected
    exact absurd hle (Nat.not_le.2 habove)

end Node
end NetTool
