import NetTool.Node.Outside
import NetTool.Node.Server
/-!
# Node.Messages — one message, seen from a group of sessions

A command reaches a session by the ID it carries; whose session it is is not looked at.  A command about a session
outside of the group leaves the group as it was (`dispatch_leaves`), and a command about a session of the group is
answered alike on coordinators that are alike, unless a conflict stops a prepare on one of them
(`dispatchMessage_agreeBut`).
-/
namespace NetTool
namespace Node

open Prog Speed Resource

/-! ## What a command names -/

def ControlMessage.session : ControlMessage → Option SessionId
  | .prepareTest prepare => (parseSessionId prepare.sessionId).toOption
  | .startTest request => (parseSessionId request.sessionId).toOption
  | .stopTest request => (parseSessionId request.sessionId).toOption
  | .testResultRequest sessionId => (parseSessionId sessionId).toOption
  | _ => none

def ControlMessage.operation : ControlMessage → Option String
  | .prepareTest prepare => some prepare.operationId
  | .startTest request => some request.operationId
  | .stopTest request => some request.operationId
  | _ => none

def ControlMessage.isPrepare : ControlMessage → Bool
  | .prepareTest _ => true
  | _ => false

section
variable {own : SessionId → Bool} {held : String → Prop} {c c' : SessionCoordinator} {sid : SessionId} {α β : Type}

theorem toOption_of_ok {x : Result α} {a : α} (h : x = .ok a) : x.toOption = some a := by
  rw [h]
  rfl

/-! ## Prepare, as the dispatcher does it -/

/-- The property holds now, and after every request for the session under the operation ID. -/
structure After (P : SessionCoordinator → Prop) (sid : SessionId) (id : String) (c : SessionCoordinator) : Prop where
  now : P c
  prepare : ∀ {Endpoint Response : Type} (p : Preparation Endpoint Response), p.Names → p.Sound → p.sessionId = sid →
    p.operationId = id → ∀ os now, Leaves P (prepare p os now) c
  prepareDpdkReceiver : ∀ request : PrepareDpdkReceiverRequest, request.sessionId = sid → request.operationId = id →
    ∀ os now, Leaves P (prepareDpdkReceiver request os now) c
  start : ∀ startAt now, Leaves P (start sid id startAt now) c
  stop : Leaves P (stop sid id) c

theorem known_leaves {P : SessionCoordinator → Prop} {id : String} {Endpoint Reply : Type}
    {p : Preparation Endpoint Reply}
    (h : After P sid id c) (hp : p.Known) (hsid : p.sessionId = sid) (hid : p.operationId = id) (os : Os) (now : Nat) :
    Leaves P (prepare p os now) c :=
  h.prepare p hp.names hp.sound hsid hid os now

theorem after_true (sid : SessionId) (id : String) (c : SessionCoordinator) : After (fun _ => True) sid id c where
  now := trivial
  prepare := fun _ _ _ _ _ _ _ => wp_of_state trivial
  prepareDpdkReceiver := fun _ _ _ _ _ => wp_of_state trivial
  start := fun _ _ => wp_of_state trivial
  stop := wp_of_state trivial

theorem after_acts (hg : Good True c) (os : Os) (sid : SessionId) (id : String) : After (Acts True c) sid id c where
  now := .refl c
  prepare := by
    rintro _ _ p - hp - - os now
    apply wp_mono (wp_prepare p os now c)
    · rintro a c' (⟨rfl, -⟩ | ⟨_, _, _, _, _, h⟩)
      · exact .refl _
      · exact h.effect hp
    · rintro e c' rfl
      exact .refl _
  prepareDpdkReceiver := fun request _ _ os now =>
    wp_replies_acts (r := .stop sid id) hg (prepareDpdkReceiver_replies request os now)
  start := fun startAt now => wp_replies_acts hg (start_replies hg sid id startAt os now)
  stop := wp_replies_acts (r := .stop sid id) hg (stop_replies hg sid id os)

theorem after_alike {id : String} (hg : Good True c) (hsid : own sid = false) (hheld : ¬ held id) :
    After (Alike own held c) sid id c where
  now := .refl c
  prepare := by
    rintro _ _ p hp - rfl rfl os now
    exact prepare_leavesAlike hp hsid hheld os now
  prepareDpdkReceiver := by
    rintro request rfl rfl os now
    apply wp_mono (wp_prepareDpdkReceiver request os now c)
    · rintro a c' (⟨rfl, -⟩ | ⟨_, _, _, _, h⟩)
      · exact .refl _
      · exact h.alike (Preparation.Known.dpdk request).names hsid hheld
    · rintro e c' (⟨rfl, -⟩ | ⟨-, r, m, hacq, rfl⟩)
      · exact .refl _
      · exact ((Outside.refl_none c).setReservation hsid ⟨"dpdk-rx-", rfl⟩ hacq.sets).alike
  start := start_leavesAlike hsid hg hheld
  stop := stop_leavesAlike hsid hg hheld

theorem Alike.authorization (h : Alike own held c c') (hown : own sid = true) :
    c.authorization sid = c'.authorization sid := by
  unfold SessionCoordinator.authorization
  rw [h.tcp hown, h.udp hown]

section
variable {service : NodeControlService} {prepare : PrepareTest}

variable {P : SessionCoordinator → Prop}

section
variable (h : After P sid prepare.operationId c) (os : Os) (now ttl : Nat)
include h os now ttl

theorem handleDpdkPrepare_leaves : Leaves P (service.handleDpdkPrepare prepare sid os now ttl) c := by
  refine .ite (.fail _ h.now) ?_
  exact (h.prepareDpdkReceiver (service.dpdkReceiverRequest prepare sid ttl) rfl rfl os now).bind_read (fun _ _ => rfl)

theorem handleTcpPrepare_leaves : Leaves P (service.handleTcpPrepare prepare sid os now ttl) c := by
  refine .ofExcept_bind h.now (fun streams _ =>
    .ite ?_ (.ofExcept_bind h.now (fun port _ => .ite (.fail _ h.now) (.ite ?_ ?_))))
  · exact known_leaves h (.tcp _) rfl rfl os now
  · exact known_leaves h (.tcpBidirectional _) rfl rfl os now
  · exact known_leaves h (.tcpSender _) rfl rfl os now

theorem handleUdpPrepare_leaves : Leaves P (service.handleUdpPrepare prepare sid os now ttl) c := by
  refine .ite (.ofExcept_bind h.now (fun _ _ => .ofExcept_bind h.now (fun _ _ => .ite (.fail _ h.now) ?_))) (.ite ?_ ?_)
  · exact (known_leaves h (.udpBidirectional _) rfl rfl os now).bind_read
      (fun _ _ => rfl)
  · refine .ofExcept_bind h.now (fun _ _ => .ite (.fail _ h.now) ?_)
    exact (known_leaves h (.udpSender _) rfl rfl os now).bind_read (fun _ _ => rfl)
  · refine .ofExcept_bind h.now (fun _ _ => ?_)
    exact (known_leaves h (.udp _) rfl rfl os now).bind_read (fun _ _ => rfl)

end

theorem handlePrepare_leaves (hc : P c)
    (h : ∀ sid, (ControlMessage.prepareTest prepare).session = some sid → After P sid prepare.operationId c) (os : Os)
    (now : Nat) : Leaves P (service.handlePrepare prepare os now) c := by
  refine .ofExcept_bind hc (fun sid hparse => .ofExcept_bind hc (fun _ _ => .ofExcept_bind hc (fun ttl _ => ?_)))
  have hafter := h sid (toOption_of_ok hparse)
  refine .ite (handleDpdkPrepare_leaves hafter _ _ _) (.ite ?_ (.ite ?_ (.fail _ hc)))
  · exact (handleTcpPrepare_leaves hafter _ _ _).bind_read (fun _ _ => rfl)
  · exact handleUdpPrepare_leaves hafter _ _ _

section
variable (h : Alike own held c c') (hown : own sid = true) (os : Os) (now ttl : Nat)
include h hown os now ttl

theorem handleDpdkPrepare_agreeBut :
    RespectsBut Conflict (Alike own held) (service.handleDpdkPrepare prepare sid os now ttl) c c' := by
  refine .guard h (fun _ => ?_)
  refine (prepareDpdkReceiver_agreeBut _ h hown os now).bind_read (fun _ c₁ c₁' h₁ => ?_)
  rw [h₁.authorization hown]

theorem handleTcpPrepare_agreeBut :
    RespectsBut Conflict (Alike own held) (service.handleTcpPrepare prepare sid os now ttl) c c' := by
  refine .ofExcept_bind h (fun streams _ => .ite Iff.rfl (fun _ => ?_) (fun _ => .ofExcept_bind h (fun port _ => ?_)))
  · exact prepare_agreeBut (.tcp _) h hown rfl os now
  refine .guard h (fun _ => .ite Iff.rfl (fun _ => ?_) (fun _ => ?_))
  · exact prepare_agreeBut (.tcpBidirectional _) h hown rfl os now
  · exact prepare_agreeBut (.tcpSender _) h hown rfl os now

theorem handleUdpPrepare_agreeBut :
    RespectsBut Conflict (Alike own held) (service.handleUdpPrepare prepare sid os now ttl) c c' := by
  refine .ite Iff.rfl (fun _ => ?_) (fun _ => .ite Iff.rfl (fun _ => ?_) (fun _ => ?_))
  · refine .ofExcept_bind h (fun source _ => .ofExcept_bind h (fun port _ => ?_))
    refine .guard h (fun _ => ?_)
    refine (prepare_agreeBut (.udpBidirectional _) h hown rfl os now).bind_read (fun _ c₁ c₁' h₁ => ?_)
    rw [h₁.authorization hown]
  · refine .ofExcept_bind h (fun port _ => .guard h (fun _ => ?_))
    refine (prepare_agreeBut (.udpSender _) h hown rfl os now).bind_read (fun _ c₁ c₁' h₁ => ?_)
    rw [h₁.authorization hown]
  · refine .ofExcept_bind h (fun source _ => ?_)
    exact (prepare_agreeBut (.udp _) h hown rfl os now).bind_pure

end

theorem handlePrepare_agreeBut (h : Alike own held c c')
    (hown : ∀ sid, (ControlMessage.prepareTest prepare).session = some sid → own sid = true) (os : Os) (now : Nat) :
    RespectsBut Conflict (Alike own held) (service.handlePrepare prepare os now) c c' := by
  refine .ofExcept_bind h (fun sid hparse => .ofExcept_bind h (fun _ _ => .ofExcept_bind h (fun ttl _ => ?_)))
  have hmine : own sid = true := hown sid (toOption_of_ok hparse)
  refine .ite Iff.rfl (fun _ => handleDpdkPrepare_agreeBut h hmine _ _ _)
    (fun _ => .ite Iff.rfl (fun _ => ?_) (fun _ => ?_))
  · exact (handleTcpPrepare_agreeBut h hmine _ _ _).bind_pure
  · exact .ite Iff.rfl (fun _ => handleUdpPrepare_agreeBut h hmine _ _ _) (fun _ => .of_agree (.fail _ h))

end

/-! ## One message -/

section
variable {build : Build} {request : Envelope} {message : ControlMessage} {service : NodeControlService}
    {os : Os} {now : Nat}

variable {P : SessionCoordinator → Prop} {connection : Connection} {k k' : Connection}

theorem wp_onCoordinator {m : Coord α} (h : Leaves P m connection.coordinator) :
    wp (onCoordinator m) (fun _ k => k.service = connection.service ∧ P k.coordinator)
      (fun _ k => k.service = connection.service ∧ P k.coordinator) connection :=
  (wp_zoom _ _ _).2 (wp_mono h (fun _ _ hP => ⟨rfl, hP⟩) (fun _ _ hP => ⟨rfl, hP⟩))

/-- A command leaves its connection's service alone, and the coordinator as a request for the session leaves it. -/
theorem command_leaves (hc : P connection.coordinator)
    (h : ∀ sid id, message.session = some sid → message.operation = some id → After P sid id connection.coordinator) :
    wp (command service message os now) (fun _ k => k.service = connection.service ∧ P k.coordinator)
      (fun _ k => k.service = connection.service ∧ P k.coordinator) connection := by
  cases message with
  | prepareTest prepare =>
    refine (wp_bind _ _).2 (wp_onCoordinator (handlePrepare_leaves hc (fun sid hsid => h sid _ hsid rfl) os now))
  | startTest r =>
    refine (wp_bind _ _).2 ((wp_ofExcept _).2 ⟨fun sid hparse => ?_, fun _ _ => ⟨rfl, hc⟩⟩)
    exact (wp_bind _ _).2 (wp_onCoordinator ((h sid _ (toOption_of_ok hparse) rfl).start _ now))
  | stopTest r =>
    refine (wp_bind _ _).2 ((wp_ofExcept _).2 ⟨fun sid hparse => ?_, fun _ _ => ⟨rfl, hc⟩⟩)
    exact (wp_bind _ _).2 (wp_onCoordinator (h sid _ (toOption_of_ok hparse) rfl).stop)
  | testResultRequest sessionId =>
    refine (wp_bind _ _).2 ((wp_ofExcept _).2 ⟨fun sid _ => ?_, fun _ _ => ⟨rfl, hc⟩⟩)
    exact (wp_bind _ _).2 ((wp_bind _ _).2 ((wp_ofExcept _).2 ⟨fun _ _ => ⟨rfl, hc⟩, fun _ _ => ⟨rfl, hc⟩⟩))
  | _ => exact ⟨rfl, hc⟩

/-- The rules for a message: the checks refuse it, or it is a Hello, or it is a command. -/
theorem wp_dispatchMessage {Q : ControlMessage → Connection → Prop} {E : NetToolError → Connection → Prop}
    (hrefused : ∀ e, E e connection)
    (hhello : ∀ hello, request.message = some (.helloRequest hello) → wp (handleHello build hello) Q E connection)
    (hcommand : ∀ message, request.message = some message →
      wp (command connection.service message os now) Q E connection) :
    wp (dispatchMessage build request os now) Q E connection := by
  refine wp_check (fun _ _ => ?_) (fun e _ => hrefused e)
  cases hmessage : request.message with
  | none => exact hrefused _
  | some message =>
    have hafter : wp (afterHello message request.protocolMinor os now) Q E connection := by
      unfold afterHello
      rw [wp_bind, wp_get]
      cases connection.service.selectedMinor with
      | none => exact hrefused _
      | some selected => exact (wp_ite _ _ _).2 ⟨fun _ => hrefused _, fun _ => hcommand message hmessage⟩
    cases message with
    | helloRequest hello => exact hhello hello hmessage
    | _ => exact hafter

theorem dispatch_leaves (hc : P c)
    (h : ∀ message sid id, request.message = some message → message.session = some sid → message.operation = some id →
      After P sid id c) :
    P (dispatch build request os now ⟨service, c⟩).2.coordinator := by
  have hwp : wp (dispatchMessage build request os now) (fun _ k => P k.coordinator) (fun _ k => P k.coordinator)
      ⟨service, c⟩ := by
    refine wp_dispatchMessage (fun _ => hc) (fun hello _ => ?_) (fun message hmessage => ?_)
    · unfold handleHello
      rw [wp_bind]
      simp only [wp_ite]
      exact ⟨fun _ => hc, fun _ => ⟨fun _ => hc, fun _ => ⟨fun _ => hc, fun _ => hc⟩⟩⟩
    · exact wp_mono (command_leaves hc (fun sid id => h message sid id hmessage)) (fun _ _ hP => hP.2)
        (fun _ _ hP => hP.2)
  exact wp_state hwp

/-- Only a Hello changes the service, and it does not look at the coordinator. -/
theorem dispatch_service (c c' : SessionCoordinator) :
    (dispatch build request os now ⟨service, c⟩).2.service =
      (dispatch build request os now ⟨service, c'⟩).2.service := by
  show (dispatchMessage build request os now ⟨service, c⟩).2.service =
    (dispatchMessage build request os now ⟨service, c'⟩).2.service
  have hcommand : ∀ message c, (afterHello message request.protocolMinor os now ⟨service, c⟩).2.service = service := by
    intro message c
    have hwp : wp (afterHello message request.protocolMinor os now) (fun _ k => k.service = service)
        (fun _ k => k.service = service) ⟨service, c⟩ := by
      unfold afterHello
      rw [wp_bind, wp_get]
      cases service.selectedMinor with
      | none => rfl
      | some selected =>
        refine (wp_ite _ _ _).2 ⟨fun _ => rfl, fun _ => ?_⟩
        refine wp_mono (command_leaves (P := fun _ => True) trivial ?_) (fun _ _ hk => hk.1) (fun _ _ hk => hk.1)
        exact fun sid id _ _ => after_true sid id c
    exact wp_state hwp
  unfold dispatchMessage
  cases validateEnvelope build request with
  | error e => rfl
  | ok _ =>
    cases request.message with
    | none => rfl
    | some message =>
      cases message with
      | helloRequest hello =>
        show (handleHello build hello ⟨service, c⟩).2.service = (handleHello build hello ⟨service, c'⟩).2.service
        unfold handleHello
        rw [get_bind, get_bind]
        split
        · rfl
        · split
          · rfl
          · split <;> rfl
      | _ => exact (hcommand _ c).trans (hcommand _ c').symm

/-! A message about a session of the group, on two connections that are alike. -/

def AlikeConnections (own : SessionId → Bool) (held : String → Prop) (k k' : Connection) : Prop :=
  k.service = k'.service ∧ Alike own held k.coordinator k'.coordinator

/-- The conflicts that are excused: those that stop a prepare. -/
def Excused (message : ControlMessage) (e : NetToolError) : Prop := message.isPrepare = true ∧ Conflict e

theorem command_agreeBut (h : AlikeConnections own held k k') (hg : Good True k.coordinator)
    (hsession : message.session = some sid) (hown : own sid = true)
    (hheld : message.isPrepare = false → ∀ id, message.operation = some id → held id) :
    RespectsBut (Excused message) (AlikeConnections own held) (command service message os now) k k' := by
  have hparsed : ∀ {value : List UInt8} {sid' : SessionId}, (parseSessionId value).toOption = some sid →
      parseSessionId value = .ok sid' → own sid' = true := by
    intro value sid' hsome hok
    rw [hok] at hsome
    cases hsome
    exact hown
  cases message with
  | prepareTest prepare =>
    have hprepare : RespectsBut Conflict (Alike own held) (service.handlePrepare prepare os now) k.coordinator
      k'.coordinator := by
      refine handlePrepare_agreeBut h.2 (fun sid' hsid' => ?_) os now
      rw [hsession] at hsid'
      cases hsid'
      exact hown
    refine AgreeBut.congr (fun e => (and_iff_right rfl).symm) (AgreeBut.bind_pure ?_)
    exact .zoom hprepare (fun _ _ halike => ⟨h.1, halike⟩)
  | startTest r =>
    refine .of_agree (.ofExcept_bind h (fun sid' hparse =>
      .bind (.zoom ?_ (fun _ _ halike => ⟨h.1, halike⟩)) (fun _ _ _ h₁ => .pure _ h₁)))
    exact start_agree h.2 (hparsed hsession hparse) (hheld rfl _ rfl) _ now
  | stopTest r =>
    refine .of_agree (.ofExcept_bind h (fun sid' hparse =>
      .bind (.zoom ?_ (fun _ _ halike => ⟨h.1, halike⟩)) (fun _ _ _ h₁ => .pure _ h₁)))
    exact stop_agree h.2 (hparsed hsession hparse) hg (hheld rfl _ rfl)
  | testResultRequest sessionId =>
    refine .of_agree (.ofExcept_bind h (fun sid' hparse => .get_bind ?_))
    rw [testResult_alike h.2 (hparsed hsession hparse)]
    exact .ofExcept_bind h (fun _ _ => .pure _ h)
  | _ => cases hsession

theorem dispatchMessage_agreeBut (h : AlikeConnections own held k k') (hg : Good True k.coordinator)
    (hmessage : request.message = some message) (hsession : message.session = some sid) (hown : own sid = true)
    (hheld : message.isPrepare = false → ∀ id, message.operation = some id → held id) :
    RespectsBut (Excused message) (AlikeConnections own held) (dispatchMessage build request os now) k k' := by
  have hafter : RespectsBut (Excused message) (AlikeConnections own held)
    (afterHello message request.protocolMinor os now) k k' := by
    refine .get_bind ?_
    rw [h.1]
    cases k'.service.selectedMinor with
    | none => exact .of_agree (.fail _ h)
    | some selected =>
      refine .guard h (fun _ => ?_)
      exact command_agreeBut h hg hsession hown hheld
  refine .ofExcept_bind h (fun _ _ => ?_)
  rw [hmessage]
  cases message with
  | helloRequest hello => cases hsession
  | _ => exact hafter

end

end

end Node
end NetTool
