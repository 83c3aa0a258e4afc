import NetTool.Node.Calls
/-!
# Node.Spend — what a take does to a session

Between prepare and end a session only ages (`Session.Ages`): its role and its authorization stay, its state and
lifecycle change, and what it has to hand out can be gone.  A take that returns finds the session loaded and leaves it
empty (`HandsOver`); one that stops may have emptied it too.
-/
namespace NetTool
namespace Node

open Prog Speed Resource SpeedTestLifecycle

variable {α : Type} {c : SessionCoordinator} {sid : SessionId} {orphans : Prop}

namespace Session

def Loaded : Session → Prop
  | tcp x => x.listener.isSome ∨ x.senderDestination.isSome
  | udp x => x.socket.isSome
  | dpdk x => x.plan.isSome

/-- A session with a listener and a destination has the settings of both directions. -/
def Single : Session → Prop
  | tcp x => x.senderDestination.isSome → x.senderConfig = none → x.listener = none
  | _ => True

/-- `s'` is `s` later on.  The sender settings outlast the destination. -/
def Ages : Session → Session → Prop
  | tcp x, tcp y => y.authorization = x.authorization ∧ (y.listener = x.listener ∨ y.listener = none) ∧
      ((y.senderDestination = x.senderDestination ∧ y.senderConfig = x.senderConfig) ∨ y.senderDestination = none)
  | udp x, udp y => y.authorization = x.authorization ∧ (y.socket = x.socket ∨ y.socket = none)
  | dpdk x, dpdk y => y.authorization = x.authorization ∧ (y.plan = x.plan ∨ y.plan = none)
  | _, _ => False

variable {s s' s'' : Session}

/-! A field that is as it was or gone stays so, and one that is there was there. -/

theorem kept_trans {β : Type} {a b c : Option β} (h : b = a ∨ b = none) (h' : c = b ∨ c = none) : c = a ∨ c = none := by
  rcases h' with rfl | hnone
  · exact h
  · exact .inr hnone

theorem isSome_of_kept {β : Type} {a b : Option β} (h : b = a ∨ b = none) (hb : b.isSome = true) : a.isSome = true := by
  rcases h with rfl | rfl
  · exact hb
  · cases hb

theorem Ages.refl (s : Session) : s.Ages s := by cases s <;> simp [Ages]

section
variable (h : s.Ages s')
include h

theorem Ages.sameMap : s.SameMap s' := by
  cases s <;> cases s' <;> first | exact trivial | exact h.elim

theorem Ages.authorization : s'.authorization = s.authorization := by
  cases s <;> cases s' <;> first | exact h.1 | exact h.elim

theorem Ages.trans (h' : s'.Ages s'') : s.Ages s'' := by
  cases s with
  | tcp x =>
    cases s' with
    | tcp y =>
      cases s'' with
      | tcp z =>
        refine ⟨h'.1.trans h.1, kept_trans h.2.1 h'.2.1, ?_⟩
        rcases h'.2.2 with ⟨hd, hc⟩ | hd
        · rw [hd, hc]; exact h.2.2
        · exact .inr hd
      | _ => exact h'.elim
    | _ => exact h.elim
  | udp x =>
    cases s' with
    | udp y =>
      cases s'' with
      | udp z => exact ⟨h'.1.trans h.1, kept_trans h.2 h'.2⟩
      | _ => exact h'.elim
    | _ => exact h.elim
  | dpdk x =>
    cases s' with
    | dpdk y =>
      cases s'' with
      | dpdk z => exact ⟨h'.1.trans h.1, kept_trans h.2 h'.2⟩
      | _ => exact h'.elim
    | _ => exact h.elim

theorem Ages.loaded (hl : s'.Loaded) : s.Loaded := by
  cases s with
  | tcp x =>
    cases s' with
    | tcp y => exact hl.imp (isSome_of_kept h.2.1) (isSome_of_kept (h.2.2.imp_left And.left))
    | _ => exact h.elim
  | udp x =>
    cases s' with
    | udp y => exact isSome_of_kept h.2 hl
    | _ => exact h.elim
  | dpdk x =>
    cases s' with
    | dpdk y => exact isSome_of_kept h.2 hl
    | _ => exact h.elim

theorem Ages.single (hs : s.Single) : s'.Single := by
  cases s' with
  | tcp y =>
    cases s with
    | tcp x =>
      intro hd hc
      rcases h.2.2 with ⟨hd', hc'⟩ | hd'
      · rw [hd'] at hd
        rw [hc'] at hc
        have hnone := hs hd hc
        rcases h.2.1 with hl | hl
        · rw [hl]; exact hnone
        · exact hl
      · rw [hd'] at hd; cases hd
    | _ => exact h.elim
  | _ => trivial

end

theorem ages_setLifecycle {l : SpeedTestLifecycle} : s.Ages (s.setLifecycle l) := by
  cases s <;> simp [Ages, setLifecycle]

theorem ages_begun : s.Ages s.begun := by cases s <;> simp [Ages, begun, setState, setLifecycle]

@[simp] theorem loaded_begun : s.begun.Loaded ↔ s.Loaded := by cases s <;> rfl
@[simp] theorem single_begun : s.begun.Single ↔ s.Single := by cases s <;> rfl

end Session

/-! ## The takes -/

/-- A take that stops: the running session may have lost what it had. -/
def Spends (sid : SessionId) (c c' : SessionCoordinator) : Prop :=
  c' = c ∨ ∃ s s', c.session sid = some s ∧ s.state = .running ∧ s'.state = .running ∧ s.Ages s' ∧
    s'.reservationId = s.reservationId ∧ c' = c.setSession sid s'

/-- A take that returns: the running session was loaded and is empty. -/
def HandsOver (sid : SessionId) (c c' : SessionCoordinator) : Prop :=
  ∃ s s', c.session sid = some s ∧ s.state = .running ∧ s.Loaded ∧ s'.state = .running ∧ s.Ages s' ∧
    (s.Single → ¬ s'.Loaded) ∧ s'.reservationId = s.reservationId ∧ c' = c.setSession sid s'

theorem HandsOver.spends {c' : SessionCoordinator} (h : HandsOver sid c c') : Spends sid c c' := by
  obtain ⟨s, s', hs, hrun, -, hrun', hages, -, hid, hc⟩ := h
  exact .inr ⟨s, s', hs, hrun, hrun', hages, hid, hc⟩

@[simp] theorem setSession_tcp_tcp (x y : TcpSession) :
    (c.setSession sid (.tcp x)).setSession sid (.tcp y) = c.setSession sid (.tcp y) := setSession_setSession trivial

@[simp] theorem setSession_udp_udp (x y : UdpSession) :
    (c.setSession sid (.udp x)).setSession sid (.udp y) = c.setSession sid (.udp y) := setSession_setSession trivial

section tcp
variable {x y : TcpSession}

theorem Spends.tcp (hx : c.sessions.tcp.lookup sid = some x) (hrun : ¬ x.state ≠ .running) (hstate : y.state = x.state)
    (hid : y.reservationId = x.reservationId) (hages : (Session.tcp x).Ages (.tcp y)) :
    Spends sid c (c.setSession sid (.tcp y)) := by
  have hrun : x.state = .running := not_not.1 hrun
  exact .inr ⟨.tcp x, .tcp y, Sessions.find_tcp.2 hx, hrun, hstate.trans hrun, hages, hid, rfl⟩

theorem HandsOver.tcp (hx : c.sessions.tcp.lookup sid = some x) (hrun : ¬ x.state ≠ .running)
    (hloaded : (Session.tcp x).Loaded) (hstate : y.state = x.state) (hid : y.reservationId = x.reservationId)
    (hages : (Session.tcp x).Ages (.tcp y)) (hempty : (Session.tcp x).Single → ¬ (Session.tcp y).Loaded) :
    HandsOver sid c (c.setSession sid (.tcp y)) := by
  have hrun : x.state = .running := not_not.1 hrun
  exact ⟨.tcp x, .tcp y, Sessions.find_tcp.2 hx, hrun, hloaded, hstate.trans hrun, hages, hempty, hid, rfl⟩

theorem takeTcpListener_hands (sid : SessionId) (c : SessionCoordinator) :
    wp (takeTcpListener sid) (fun _ => HandsOver sid c) (fun _ => Spends sid c) c := by
  simp only [takeTcpListener, wp_bind, wp_get, wp_ofOption, wp_ite, wp_fail, wp_modify, wp_pure]
  refine ⟨fun x hx => ⟨fun _ => .inl rfl, fun hdest => ⟨fun _ => .inl rfl, fun hrun => ?_⟩⟩, fun _ => .inl rfl⟩
  refine ⟨fun l hl => ?_, fun _ => .inl rfl⟩
  have hloaded : (Session.tcp x).Loaded := .inl (by rw [hl]; rfl)
  refine .tcp hx hrun hloaded rfl rfl ⟨rfl, .inr rfl, .inl ⟨rfl, rfl⟩⟩ (fun _ hleft => ?_)
  rcases hleft with hleft | hleft
  · cases hleft
  · exact hdest hleft

theorem takeTcpSender_hands (sid : SessionId) (c : SessionCoordinator) :
    wp (takeTcpSender sid) (fun _ => HandsOver sid c) (fun _ => Spends sid c) c := by
  simp only [takeTcpSender, wp_bind, wp_get, wp_ofOption, wp_ite, wp_fail, wp_modify, wp_pure]
  refine ⟨fun x hx => ⟨fun _ => .inl rfl, fun hrun => ⟨fun _ => .inl rfl, fun hcfg => ?_⟩⟩, fun _ => .inl rfl⟩
  refine ⟨fun d hd => ?_, fun _ => .inl rfl⟩
  have hdest : x.senderDestination.isSome = true := by rw [hd]; rfl
  refine .tcp hx hrun (.inr hdest) rfl rfl ⟨rfl, .inl rfl, .inr rfl⟩ (fun hsingle hleft => ?_)
  -- without settings of its own the sender has no listener either
  have hlistener : x.listener = none := hsingle hdest (by simpa using hcfg)
  rcases hleft with hleft | hleft
  · rw [hlistener] at hleft
    cases hleft
  · cases hleft

theorem takeTcpBidirectional_hands (sid : SessionId) (c : SessionCoordinator) :
    wp (takeTcpBidirectional sid) (fun _ => HandsOver sid c) (fun _ => Spends sid c) c := by
  simp only [takeTcpBidirectional, wp_bind, wp_get, wp_ofOption, wp_ite, wp_fail, wp_modify, wp_pure,
    setSession_tcp_tcp]
  refine ⟨fun x hx => ⟨fun _ => .inl rfl, fun hrun => ⟨fun l hl => ?_, fun _ => .inl rfl⟩⟩, fun _ => .inl rfl⟩
  have hloaded : (Session.tcp x).Loaded := .inl (by rw [hl]; rfl)
  -- the listener is gone when the destination turns out to be missing
  refine ⟨fun d _ => ⟨fun run _ => ?_, fun _ => ?_⟩, fun _ => ?_⟩
  · refine .tcp hx hrun hloaded rfl rfl ⟨rfl, .inr rfl, .inr rfl⟩ (fun _ hleft => ?_)
    rcases hleft with hleft | hleft <;> cases hleft
  · exact .tcp hx hrun rfl rfl ⟨rfl, .inr rfl, .inr rfl⟩
  · exact .tcp hx hrun rfl rfl ⟨rfl, .inr rfl, .inl ⟨rfl, rfl⟩⟩

end tcp

section udp
variable {x y : UdpSession}

section
variable (hg : Good orphans c)
include hg

theorem Good.spends_udp (hx : c.sessions.udp.lookup sid = some x) (hrun : ¬ x.state ≠ .running)
    (hstate : y.state = x.state) (hid : y.reservationId = x.reservationId) (hages : (Session.udp x).Ages (.udp y)) :
    Spends sid c (c.setSession sid (.udp y)) := by
  have hrun : x.state = .running := not_not.1 hrun
  exact .inr ⟨.udp x, .udp y, hg.apart.find_udp.2 hx, hrun, hstate.trans hrun, hages, hid, rfl⟩

/-- A UDP session that has lost its socket is empty. -/
theorem Good.hands_udp {socket : UdpSocket} (hx : c.sessions.udp.lookup sid = some x)
    (hrun : ¬ x.state ≠ .running) (hsocket : x.socket = some socket) (hstate : y.state = x.state)
    (hid : y.reservationId = x.reservationId) (hauth : y.authorization = x.authorization) (hnone : y.socket = none) :
    HandsOver sid c (c.setSession sid (.udp y)) := by
  have hrun : x.state = .running := not_not.1 hrun
  have hloaded : (Session.udp x).Loaded := by show x.socket.isSome = true; rw [hsocket]; rfl
  refine ⟨.udp x, .udp y, hg.apart.find_udp.2 hx, hrun, hloaded, hstate.trans hrun, ⟨hauth, .inr hnone⟩, ?_, hid, rfl⟩
  intro _ hleft
  have hleft : y.socket.isSome = true := hleft
  rw [hnone] at hleft
  cases hleft

theorem takeUdpSocket_hands (sid : SessionId) :
    wp (takeUdpSocket sid) (fun _ => HandsOver sid c) (fun _ => Spends sid c) c := by
  simp only [takeUdpSocket, wp_bind, wp_get, wp_ofOption, wp_ite, wp_fail, wp_modify, wp_pure]
  refine ⟨fun x hx => ⟨fun _ => .inl rfl, fun _ => ⟨fun _ => .inl rfl, fun hrun => ?_⟩⟩, fun _ => .inl rfl⟩
  refine ⟨fun socket hsocket => ⟨fun _ _ => ?_, fun _ => ?_⟩, fun _ => .inl rfl⟩
  · exact hg.hands_udp hx hrun hsocket rfl rfl rfl rfl
  · exact hg.spends_udp hx hrun rfl rfl ⟨rfl, .inr rfl⟩

theorem takeUdpSender_hands (sid : SessionId) :
    wp (takeUdpSender sid) (fun _ => HandsOver sid c) (fun _ => Spends sid c) c := by
  simp only [takeUdpSender, wp_bind, wp_get, wp_ofOption, wp_ite, wp_fail, wp_modify, wp_pure, setSession_udp_udp]
  refine ⟨fun x hx => ⟨fun _ => .inl rfl, fun hrun => ⟨fun _ => .inl rfl, fun _ => ?_⟩⟩, fun _ => .inl rfl⟩
  refine ⟨fun d _ => ⟨fun socket hsocket => ⟨fun _ _ => ?_, fun _ => ?_⟩, fun _ => ?_⟩, fun _ => .inl rfl⟩
  · exact hg.hands_udp hx hrun hsocket rfl rfl rfl rfl
  · exact hg.spends_udp hx hrun rfl rfl ⟨rfl, .inr rfl⟩
  · exact hg.spends_udp hx hrun rfl rfl ⟨rfl, .inl rfl⟩

theorem takeUdpBidirectional_hands (sid : SessionId) :
    wp (takeUdpBidirectional sid) (fun _ => HandsOver sid c) (fun _ => Spends sid c) c := by
  simp only [takeUdpBidirectional, wp_bind, wp_get, wp_ofOption, wp_ite, wp_fail, wp_modify, wp_pure,
    setSession_udp_udp]
  refine ⟨fun x hx => ⟨fun _ => .inl rfl, fun hrun => ⟨fun socket hsocket => ?_, fun _ => .inl rfl⟩⟩, fun _ => .inl rfl⟩
  have hput : ∀ {y : UdpSession}, y.state = x.state → y.reservationId = x.reservationId →
      y.authorization = x.authorization → y.socket = none → Spends sid c (c.setSession sid (.udp y)) :=
    fun hstate hid hauth hnone => hg.spends_udp hx hrun hstate hid ⟨hauth, .inr hnone⟩
  refine ⟨fun port _ => ⟨fun d _ => ⟨fun _ _ => ?_, fun _ => hput rfl rfl rfl rfl⟩, fun _ => hput rfl rfl rfl rfl⟩,
    fun _ => hput rfl rfl rfl rfl⟩
  exact hg.hands_udp hx hrun hsocket rfl rfl rfl rfl

end

end udp

end Node
end NetTool
