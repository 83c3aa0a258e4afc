import NetTool.Node.Spend
/-!
# Node.HandOut — taking the endpoint of a running session

A take changes a running session in place (`Takes`).  Each attempt of the scheduler begins a waiting session and takes
from it (`Runs`): it hands out what the session holds for that attempt, or it stops.  Two attempts can stop after the
session has begun: the receiver's on a DPDK session, and the sender's on a TCP session in both directions.
-/
namespace NetTool
namespace Node

open Prog Speed Resource SpeedTestLifecycle Session
open SessionCoordinator (tcpSender udpSender tcpBidirectional udpBidirectional)

variable {α : Type} {c : SessionCoordinator} {sid : SessionId} {orphans : Prop}

/-! ## The takes -/

def Takes (sid : SessionId) (c c' : SessionCoordinator) : Prop :=
  c' = c ∨ ∃ s s', c.session sid = some s ∧ s.state = .running ∧ s'.state = .running ∧ s.SameMap s' ∧
    s'.reservationId = s.reservationId ∧ c' = c.setSession sid s'

theorem Spends.takes {c' : SessionCoordinator} (h : Spends sid c c') : Takes sid c c' := by
  rcases h with rfl | ⟨s, s', hs, hrun, hrun', hages, hid, hc⟩
  · exact .inl rfl
  · exact .inr ⟨s, s', hs, hrun, hrun', hages.sameMap, hid, hc⟩

theorem Takes.effect {c' : SessionCoordinator} (h : Takes sid c c') : Effect orphans c c' ∧ Logs c c' := by
  rcases h with rfl | ⟨s, s', hs, hrun, hrun', hmap, hid, rfl⟩
  · exact ⟨.keep rfl rfl ⟨rfl, rfl⟩, .keep rfl⟩
  · exact ⟨.edit sid s s' hs (.run s' (.inr hrun) hrun' hmap hid) rfl rfl ⟨rfl, rfl⟩, .keep rfl⟩

/-! ## Beginning a session and handing it out -/

section
variable {s : Session} {now startAt : Nat}

def Runs (sid : SessionId) (c c' : SessionCoordinator) : Prop :=
  ∃ s s', c.session sid = some s ∧ s.state = .testReady ∧ s'.state = .running ∧ s.SameMap s' ∧
    s'.reservationId = s.reservationId ∧ c' = c.setSession sid s'

variable {c' : SessionCoordinator} {s' : Session}

theorem Runs.effect (h : Runs sid c c') : Effect orphans c c' ∧ Logs c c' := by
  obtain ⟨s, s', hs, hready, hrun, hmap, hid, rfl⟩ := h
  exact ⟨.edit sid s s' hs (.run s' (.inl hready) hrun hmap hid) rfl rfl ⟨rfl, rfl⟩, .keep rfl⟩

@[simp] theorem Session.state_begun : s.begun.state = .running := by simp [begun]
@[simp] theorem Session.reservationId_begun : s.begun.reservationId = s.reservationId := by simp [begun]
@[simp] theorem Session.sameMap_begun : s'.SameMap s.begun ↔ s'.SameMap s := by simp [begun]

theorem Begins.runs (hb : Begins c sid now s startAt) : Runs sid c (c.setSession sid s.begun) :=
  ⟨s, s.begun, hb.session, hb.state, by simp, by simp, by simp, rfl⟩

section
variable (hg : Good orphans c) (hb : Begins c sid now s startAt)
include hg hb

theorem Begins.good : Good orphans (c.setSession sid s.begun) := by
  obtain ⟨heffect, hlogs⟩ : Effect orphans c (c.setSession sid s.begun) ∧ Logs c (c.setSession sid s.begun) :=
    hb.runs.effect
  exact hg.effect heffect hlogs

theorem Begins.session_begun : (c.setSession sid s.begun).session sid = some s.begun :=
  hg.session_setSession hb.session (by simp)

end

/-- A waiting session began at its time, and perhaps was taken from. -/
def Begun (sid : SessionId) (now : Nat) (c c' : SessionCoordinator) : Prop :=
  ∃ s startAt s', Begins c sid now s startAt ∧ s'.state = .running ∧ s.Ages s' ∧
    s'.reservationId = s.reservationId ∧ c' = c.setSession sid s'

/-- A waiting session began at its time and was emptied. -/
def BegunAndTaken (sid : SessionId) (now : Nat) (c c' : SessionCoordinator) : Prop :=
  ∃ s startAt s', Begins c sid now s startAt ∧ s.Loaded ∧ s'.state = .running ∧ s.Ages s' ∧ (s.Single → ¬ s'.Loaded) ∧
    s'.reservationId = s.reservationId ∧ c' = c.setSession sid s'

theorem BegunAndTaken.begun (h : BegunAndTaken sid now c c') : Begun sid now c c' := by
  obtain ⟨s, startAt, s', hb, -, hrun, hages, -, hid, hc⟩ := h
  exact ⟨s, startAt, s', hb, hrun, hages, hid, hc⟩

theorem Begun.runs (h : Begun sid now c c') : Runs sid c c' := by
  obtain ⟨s, startAt, s', hb, hrun, hages, hid, rfl⟩ := h
  exact ⟨s, s', hb.session, hb.state, hrun, hages.sameMap, hid, rfl⟩

theorem Begins.begun (hb : Begins c sid now s startAt) : Begun sid now c (c.setSession sid s.begun) :=
  ⟨s, startAt, s.begun, hb, by simp, ages_begun, by simp, rfl⟩

section
variable (hg : Good orphans c) (hb : Begins c sid now s startAt)
include hg hb

theorem Begins.spends (hspend : Spends sid (c.setSession sid s.begun) c') : Begun sid now c c' := by
  rcases hspend with rfl | ⟨s₁, s₂, hs₁, -, hrun, hages, hid, rfl⟩
  · exact hb.begun
  · obtain rfl := Option.mem_unique (hb.session_begun hg) hs₁
    rw [setSession_setSession hages.sameMap]
    exact ⟨s, startAt, s₂, hb, hrun, ages_begun.trans hages, by simpa using hid, rfl⟩

theorem Begins.hands (hhands : HandsOver sid (c.setSession sid s.begun) c') : BegunAndTaken sid now c c' := by
  obtain ⟨s₁, s₂, hs₁, -, hloaded, hrun, hages, hempty, hid, rfl⟩ := hhands
  obtain rfl := Option.mem_unique (hb.session_begun hg) hs₁
  rw [setSession_setSession hages.sameMap]
  rw [loaded_begun] at hloaded
  rw [single_begun] at hempty
  exact ⟨s, startAt, _, hb, hloaded, hrun, ages_begun.trans hages, hempty, by simpa using hid, rfl⟩

end

theorem wp_begin_then_take {take : Coord α} (hg : Good orphans c) (sid : SessionId) (now : Nat)
    (htake : ∀ c₁, Good orphans c₁ → wp take (fun _ => HandsOver sid c₁) (fun _ => Spends sid c₁) c₁) :
    wp (beginScheduled sid now >>= fun _ => take) (fun _ => BegunAndTaken sid now c)
      (fun _ c' => c' = c ∨ Begun sid now c c') c := by
  refine wp_then (wp_beginScheduled hg sid now) ?_ (fun _ _ h => .inl h.1)
  rintro _ c₁ ⟨s, startAt, hb, rfl⟩
  exact wp_mono (htake _ (hb.good hg)) (fun _ _ ht => hb.hands hg ht) (fun _ _ ht => .inr (hb.spends hg ht))

/-- What each of the four attempts of the scheduler hands out of a session. -/
def Session.dpdkReceiver : Session → Option PreparedDpdkReceiver
  | .dpdk x => x.plan
  | _ => none

def Session.bidirectional (sid : SessionId) : Session → Option PreparedSocketBidirectional
  | .tcp x =>
    match x.listener, x.senderDestination, x.senderConfig with
    | some listener, some destination, some run =>
      some (.tcp listener (x.receiverConfig sid) (x.authorizedSender sid run) destination)
    | _, _, _ => none
  | .udp x =>
    match x.socket, x.authorization.sourcePort, x.senderDestination, x.senderConfig with
    | some socket, some port, some destination, some sender =>
      some (.udp socket (x.receiverConfig sid port) sender destination)
    | _, _, _, _ => none
  | .dpdk _ => none

def Session.receiver (sid : SessionId) : Session → Option PreparedSocketReceiver
  | .tcp x =>
    match x.listener, x.senderDestination with
    | some listener, none => some (.tcp listener (x.receiverConfig sid))
    | _, _ => none
  | .udp x =>
    match x.socket, x.authorization.sourcePort, x.senderDestination with
    | some socket, some port, none => some (.udp socket (x.receiverConfig sid port))
    | _, _, _ => none
  | .dpdk _ => none

def Session.sender (sid : SessionId) : Session → Option PreparedSocketSender
  | .tcp x =>
    match x.senderDestination, x.senderConfig with
    | some destination, none => some (.tcp (x.authorizedSender sid x.config) destination)
    | _, _ => none
  | .udp x =>
    match x.socket, x.senderDestination, x.senderConfig with
    | some socket, some destination, some sender => some (.udp socket sender destination)
    | _, _, _ => none
  | .dpdk _ => none

def Session.isDpdk : Session → Bool
  | .dpdk _ => true
  | _ => false

def Session.isTcpBidirectional : Session → Bool
  | .tcp x => x.senderDestination.isSome && x.senderConfig.isSome
  | _ => false

/-! ## The attempts on a session that begins -/

/-- What a prepared session holds, by its kind: an armed session, with its endpoints named. -/
inductive Holds : Session → Prop
  | tcpReceiver {x : TcpSession} {listener} (hlistener : x.listener = some listener)
      (hdest : x.senderDestination = none) (hcfg : x.senderConfig = none) : Holds (.tcp x)
  | tcpSender {x : TcpSession} {destination} (hdest : x.senderDestination = some destination)
      (hcfg : x.senderConfig = none) : Holds (.tcp x)
  | tcpBoth {x : TcpSession} {listener destination run} (hlistener : x.listener = some listener)
      (hdest : x.senderDestination = some destination) (hcfg : x.senderConfig = some run) : Holds (.tcp x)
  | udpReceiver {x : UdpSession} {socket port} (hsocket : x.socket = some socket)
      (hport : x.authorization.sourcePort = some port) (hdest : x.senderDestination = none)
      (hcfg : x.senderConfig = none) : Holds (.udp x)
  | udpSender {x : UdpSession} {socket port destination config} (hsocket : x.socket = some socket)
      (hport : x.authorization.sourcePort = some port) (hdest : x.senderDestination = some destination)
      (hcfg : x.senderConfig = some config) : Holds (.udp x)
  | dpdk {x : DpdkSession} {plan} (hplan : x.plan = some plan) : Holds (.dpdk x)

theorem Session.Armed.holds (h : s.Armed) : Holds s := by
  cases s with
  | tcp x =>
    rcases h with ⟨hlistener, hdest, hcfg⟩ | ⟨hdest, hcfg⟩ | ⟨hlistener, hdest, hcfg⟩
    · exact .tcpReceiver (Option.some_get hlistener).symm hdest hcfg
    · exact .tcpSender (Option.some_get hdest).symm hcfg
    · exact .tcpBoth (Option.some_get hlistener).symm (Option.some_get hdest).symm (Option.some_get hcfg).symm
  | udp x =>
    obtain ⟨hsocket, hport, ⟨hdest, hcfg⟩ | ⟨hdest, hcfg⟩⟩ := h
    · exact .udpReceiver (Option.some_get hsocket).symm (Option.some_get hport).symm hdest hcfg
    · exact .udpSender (Option.some_get hsocket).symm (Option.some_get hport).symm
        (Option.some_get hdest).symm (Option.some_get hcfg).symm
  | dpdk x => exact .dpdk (Option.some_get h).symm

section
variable (hg : Good orphans c) (hb : Begins c sid now s startAt)
include hg hb

theorem Begins.wp_then {m : Coord α} {Q : α → SessionCoordinator → Prop} {E : NetToolError → SessionCoordinator → Prop}
    (h : wp m Q E (c.setSession sid s.begun)) : wp (beginScheduled sid now >>= fun _ => m) Q E c := by
  apply Prog.wp_then (wp_beginScheduled hg sid now)
  · rintro _ c₁ ⟨s', startAt', hb', rfl⟩
    have hsame : s' = s := Option.mem_unique hb'.session hb.session
    rw [hsame]
    exact h
  · rintro e c₁ ⟨-, hnot⟩
    exact absurd ⟨s, startAt, hb⟩ hnot

theorem Begins.holds : Holds s := ((hg.shape sid s hb.session).armed hb.state).holds

/-- The receiver's attempt: a sender is refused at once, a DPDK session after it has begun. -/
theorem wp_beginAndTakeReceiver :
    wp (beginAndTakeReceiver sid now) (fun w _ => s.receiver sid = some w)
      (fun _ c' => s.receiver sid = none ∧ ((s.isDpdk = false ∧ c' = c) ∨
        (s.isDpdk = true ∧ c' = c.setSession sid s.begun))) c := by
  have hs₁ := hb.session_begun hg
  have hothers := hg.apart.others_of_find hb.session
  have hothers₁ := (hb.good hg).apart.others_of_find hs₁
  unfold beginAndTakeReceiver
  rw [wp_bind, wp_get]
  cases hb.holds hg with
  | tcpReceiver hlistener hdest hcfg =>
    have hx₁ := Sessions.find_tcp.1 hs₁
    rw [if_neg (by simp [tcpSender, udpSender, Sessions.find_tcp.1 hb.session, hothers.1, hdest])]
    apply hb.wp_then hg
    simp [takeTcpListener, wp_ite, hx₁, hdest, hlistener, receiver, TcpSession.receiverConfig]
  | tcpSender hdest hcfg
  | tcpBoth hlistener hdest hcfg =>
    rw [if_pos (by simp [tcpSender, Sessions.find_tcp.1 hb.session, hdest])]
    simp [receiver, hdest, isDpdk]
  | udpReceiver hsocket hport hdest hcfg =>
    have hx₁ := (hb.good hg).apart.find_udp.1 hs₁
    rw [if_neg (by simp [tcpSender, udpSender, hg.apart.find_udp.1 hb.session, hothers.1, hdest])]
    apply hb.wp_then hg
    simp [takeUdpSocket, wp_ite, hx₁, hothers₁.1, hdest, hsocket, hport, receiver,
      UdpSession.receiverConfig]
  | udpSender hsocket hport hdest hcfg =>
    rw [if_pos (by simp [udpSender, hg.apart.find_udp.1 hb.session, hdest])]
    simp [receiver, hdest, isDpdk]
  | dpdk hplan =>
    -- neither map of sockets has the session, which is running by then
    rw [if_neg (by simp [tcpSender, udpSender, hothers.1, hothers.2])]
    apply hb.wp_then hg
    simp [takeUdpSocket, hothers₁.1, hothers₁.2, receiver, isDpdk]

/-- The sender's attempt: a session without a destination is refused at once, a TCP session in both directions after it
has begun. -/
theorem wp_beginAndTakeSender :
    wp (beginAndTakeSender sid now) (fun w _ => s.sender sid = some w)
      (fun _ c' => s.sender sid = none ∧ ((s.isTcpBidirectional = false ∧ c' = c) ∨
        (s.isTcpBidirectional = true ∧ c' = c.setSession sid s.begun))) c := by
  have hs₁ := hb.session_begun hg
  have hothers := hg.apart.others_of_find hb.session
  unfold beginAndTakeSender
  rw [wp_bind, wp_get]
  cases hb.holds hg with
  | tcpReceiver hlistener hdest hcfg =>
    rw [if_pos (by simp [tcpSender, udpSender, Sessions.find_tcp.1 hb.session, hothers.1, hdest])]
    simp [sender, isTcpBidirectional, hdest]
  | tcpSender hdest hcfg =>
    have htcp : c.tcpSender sid = true := by simp [tcpSender, Sessions.find_tcp.1 hb.session, hdest]
    rw [if_neg (by simp [htcp])]
    apply hb.wp_then hg
    rw [if_pos htcp]
    simp [takeTcpSender, wp_ite, Sessions.find_tcp.1 hs₁, hdest, hcfg, sender, TcpSession.authorizedSender]
  | tcpBoth hlistener hdest hcfg =>
    have htcp : c.tcpSender sid = true := by simp [tcpSender, Sessions.find_tcp.1 hb.session, hdest]
    rw [if_neg (by simp [htcp])]
    apply hb.wp_then hg
    rw [if_pos htcp]
    simp [takeTcpSender, wp_ite, Sessions.find_tcp.1 hs₁, hdest, hcfg, sender, isTcpBidirectional]
  | udpReceiver hsocket hport hdest hcfg =>
    rw [if_pos (by simp [tcpSender, udpSender, hg.apart.find_udp.1 hb.session, hothers.1, hdest])]
    simp [sender, isTcpBidirectional, hdest]
  | udpSender hsocket hport hdest hcfg =>
    have hx₁ := (hb.good hg).apart.find_udp.1 hs₁
    rw [if_neg (by simp [udpSender, hg.apart.find_udp.1 hb.session, hdest])]
    apply hb.wp_then hg
    rw [if_neg (by simp [tcpSender, hothers.1])]
    simp [takeUdpSender, wp_ite, hx₁, hsocket, hdest, hcfg, sender]
  | dpdk hplan =>
    rw [if_pos (by simp [tcpSender, udpSender, hothers.1, hothers.2])]
    simp [sender, isTcpBidirectional]

theorem wp_beginAndTakeBidirectional :
    wp (beginAndTakeBidirectional sid now) (fun w _ => s.bidirectional sid = some w)
      (fun _ c' => s.bidirectional sid = none ∧ c' = c) c := by
  have hs₁ := hb.session_begun hg
  have hothers := hg.apart.others_of_find hb.session
  unfold beginAndTakeBidirectional
  rw [wp_bind, wp_get]
  cases hb.holds hg with
  | tcpReceiver hlistener hdest hcfg =>
    rw [if_pos (by simp [tcpBidirectional, udpBidirectional, Sessions.find_tcp.1 hb.session, hothers.1, hdest])]
    simp [bidirectional, hdest]
  | tcpSender hdest hcfg =>
    rw [if_pos (by simp [tcpBidirectional, udpBidirectional, Sessions.find_tcp.1 hb.session, hothers.1, hcfg])]
    simp [bidirectional, hcfg]
  | tcpBoth hlistener hdest hcfg =>
    have htcp : c.tcpBidirectional sid = true := by
      simp [tcpBidirectional, Sessions.find_tcp.1 hb.session, hdest, hcfg]
    rw [if_neg (by simp [htcp])]
    apply hb.wp_then hg
    rw [if_pos htcp]
    simp [takeTcpBidirectional, wp_ite, Sessions.find_tcp.1 hs₁, hlistener, hdest, hcfg, bidirectional,
      TcpSession.receiverConfig, TcpSession.authorizedSender]
  | udpReceiver hsocket hport hdest hcfg =>
    rw [if_pos (by simp [tcpBidirectional, udpBidirectional, hg.apart.find_udp.1 hb.session, hothers.1, hdest])]
    simp [bidirectional, hdest]
  | udpSender hsocket hport hdest hcfg =>
    have hx₁ := (hb.good hg).apart.find_udp.1 hs₁
    rw [if_neg (by simp [udpBidirectional, hg.apart.find_udp.1 hb.session, hdest, hcfg])]
    apply hb.wp_then hg
    rw [if_neg (by simp [tcpBidirectional, hothers.1])]
    simp [takeUdpBidirectional, wp_ite, hx₁, hsocket, hport, hdest, hcfg, bidirectional, UdpSession.receiverConfig]
  | dpdk hplan =>
    rw [if_pos (by simp [tcpBidirectional, udpBidirectional, hothers.1, hothers.2])]
    simp [bidirectional]

theorem wp_beginAndTakeDpdkReceiver :
    wp (beginAndTakeDpdkReceiver sid now) (fun w c' => s.dpdkReceiver = some w ∧ BegunAndTaken sid now c c')
      (fun _ c' => s.dpdkReceiver = none ∧ c' = c) c := by
  have hs₁ := hb.session_begun hg
  have hothers := hg.apart.others_of_find hb.session
  have harmed := (hg.shape sid s hb.session).armed hb.state
  unfold beginAndTakeDpdkReceiver
  rw [wp_bind, wp_get]
  cases s with
  | tcp x
  | udp x =>
    rw [if_pos (by simp [hothers.2])]
    exact ⟨rfl, rfl⟩
  | dpdk x =>
    have hx₁ := (hb.good hg).apart.find_dpdk.1 hs₁
    obtain ⟨plan, hplan⟩ := Option.isSome_iff_exists.1 harmed
    rw [if_neg (by rw [hg.apart.find_dpdk.1 hb.session]; simp)]
    apply hb.wp_then hg
    simp only [wp_bind, wp_get, wp_ofOption, hx₁, wp_modify, wp_pure]
    refine ⟨?_, fun hnone => (by cases hnone)⟩
    rintro x₁ ⟨⟩
    refine ⟨fun plan' hplan' => ⟨hplan', ?_⟩, fun hnone => ?_⟩
    · rw [setSession_setSession (by exact trivial)]
      refine ⟨_, startAt, _, hb, harmed, ?_, ?_, fun _ hleft => ?_, ?_, rfl⟩
      exacts [rfl, ⟨rfl, .inr rfl⟩, (by cases hleft), rfl]
    · rw [show x.plan = none from hnone] at hplan
      cases hplan

end

/-! ## What an attempt leaves behind -/

theorem wp_not_begins {m : Coord α} {guard : Prop} [Decidable guard] {refusal : NetToolError} (hg : Good orphans c)
    (hnot : ¬ ∃ s startAt, Begins c sid now s startAt) :
    wp (if guard then fail refusal else beginScheduled sid now >>= fun _ => m) (fun _ _ => False)
      (fun _ c' => c' = c) c := by
  rw [wp_ite, wp_bind]
  refine ⟨fun _ => rfl, fun _ => wp_mono (wp_beginScheduled hg sid now) ?_ (fun _ _ h => h.1)⟩
  rintro _ c₁ ⟨s, startAt, hb, -⟩
  exact absurd ⟨s, startAt, hb⟩ hnot

section
variable (hg : Good orphans c) (sid : SessionId) (now : Nat)
include hg

theorem beginAndTakeReceiver_begun :
    wp (beginAndTakeReceiver sid now) (fun _ => BegunAndTaken sid now c)
      (fun _ c' => c' = c ∨ Begun sid now c c') c := by
  unfold beginAndTakeReceiver
  rw [wp_bind, wp_get, wp_ite]
  refine ⟨fun _ => .inl rfl, fun _ => wp_begin_then_take hg sid now (fun c₁ hg₁ => ?_)⟩
  rw [wp_bind, wp_get, wp_ite]
  exact ⟨fun _ => (wp_bind _ _).2 (takeTcpListener_hands sid c₁),
    fun _ => (wp_bind _ _).2 (takeUdpSocket_hands hg₁ sid)⟩

theorem beginAndTakeSender_begun :
    wp (beginAndTakeSender sid now) (fun _ => BegunAndTaken sid now c) (fun _ c' => c' = c ∨ Begun sid now c c') c := by
  unfold beginAndTakeSender
  rw [wp_bind, wp_get, wp_ite]
  refine ⟨fun _ => .inl rfl, fun _ => wp_begin_then_take hg sid now (fun c₁ hg₁ => ?_)⟩
  rw [wp_ite]
  exact ⟨fun _ => takeTcpSender_hands sid c₁, fun _ => takeUdpSender_hands hg₁ sid⟩

theorem beginAndTakeBidirectional_begun :
    wp (beginAndTakeBidirectional sid now) (fun _ => BegunAndTaken sid now c)
      (fun _ c' => c' = c ∨ Begun sid now c c') c := by
  unfold beginAndTakeBidirectional
  rw [wp_bind, wp_get, wp_ite]
  refine ⟨fun _ => .inl rfl, fun _ => wp_begin_then_take hg sid now (fun c₁ hg₁ => ?_)⟩
  rw [wp_ite]
  exact ⟨fun _ => takeTcpBidirectional_hands sid c₁, fun _ => takeUdpBidirectional_hands hg₁ sid⟩

theorem beginAndTakeDpdkReceiver_begun :
    wp (beginAndTakeDpdkReceiver sid now) (fun _ => BegunAndTaken sid now c)
      (fun _ c' => c' = c ∨ Begun sid now c c') c := by
  by_cases hb : ∃ s startAt, Begins c sid now s startAt
  · obtain ⟨s, startAt, hb⟩ := hb
    exact wp_mono (wp_beginAndTakeDpdkReceiver hg hb) (fun _ _ h => h.2) (fun _ _ h => .inl h.2)
  · exact wp_mono (wp_not_begins hg hb) (fun _ _ h => h.elim) (fun _ _ h => .inl h)

end

end

end Node
end NetTool
