import NetTool.Lib.TwoRun
import NetTool.Node.Effects
/-!
# Node.Alike — coordinators that agree about some sessions

Two coordinators are alike for a group of sessions when they hold the same about them: the sessions, their results,
their reservations, the records that name them, and whatever stands under the operation IDs of the group.  A start, a
stop, and every call of the scheduler and the workers on a session of the group answers the same on both and keeps them
alike.  A prepare does too, unless a conflict stops it on one of them only: a resource or an operation ID may be taken
by a session outside of the group.
-/
namespace NetTool
namespace Node

open Prog Speed Resource SpeedTestLifecycle SessionCoordinator

def OperationRecord.sessionId : OperationRecord → SessionId
  | .prepareTcp request _ => request.sessionId
  | .prepareTcpSender request _ => request.sessionId
  | .prepareTcpBidirectional request _ => request.sessionId
  | .prepareUdpSender request _ => request.sessionId
  | .prepareUdpBidirectional request _ => request.sessionId
  | .prepareUdp request _ => request.sessionId
  | .prepareDpdkReceiver request _ => request.sessionId
  | .start sid _ _ => sid
  | .stop sid _ => sid

def AlikeReservations (own : SessionId → Bool) (m m' : ResourceManager) : Prop :=
  ∀ sid, own sid = true → ∀ kind,
    m.reservations.lookup (kind ++ hexSessionId sid) = m'.reservations.lookup (kind ++ hexSessionId sid)

/-- The coordinators agree about the sessions `own`, and about the operation IDs `held`. -/
structure Alike (own : SessionId → Bool) (held : String → Prop) (c c' : SessionCoordinator) : Prop where
  tcp : Table.EqOn (own · = true) c.sessions.tcp c'.sessions.tcp
  udp : Table.EqOn (own · = true) c.sessions.udp c'.sessions.udp
  dpdk : Table.EqOn (own · = true) c.sessions.dpdk c'.sessions.dpdk
  results : Table.EqOn (own · = true) c.results c'.results
  pending : Table.EqOn (own · = true) c.pendingResults c'.pendingResults
  reservations : AlikeReservations own c.resources c'.resources
  records : ∀ id record, own record.sessionId = true →
    (c.operations.lookup id = some record ↔ c'.operations.lookup id = some record)
  operations : Table.EqOn held c.operations c'.operations

section
variable {own : SessionId → Bool} {held : String → Prop} {c c' c'' : SessionCoordinator} {sid : SessionId} {α : Type}

namespace Alike

theorem refl (c : SessionCoordinator) : Alike own held c c :=
  ⟨fun _ _ => rfl, fun _ _ => rfl, fun _ _ => rfl, fun _ _ => rfl, fun _ _ => rfl, fun _ _ _ => rfl,
    fun _ _ _ => Iff.rfl, fun _ _ => rfl⟩

theorem symm (h : Alike own held c c') : Alike own held c' c :=
  ⟨h.tcp.symm, h.udp.symm, h.dpdk.symm, h.results.symm, h.pending.symm,
    fun sid hown kind => (h.reservations sid hown kind).symm, fun id record hown => (h.records id record hown).symm,
    h.operations.symm⟩

theorem trans (h : Alike own held c c') (h' : Alike own held c' c'') : Alike own held c c'' :=
  ⟨h.tcp.trans h'.tcp, h.udp.trans h'.udp, h.dpdk.trans h'.dpdk, h.results.trans h'.results,
    h.pending.trans h'.pending,
    fun sid hown kind => (h.reservations sid hown kind).trans (h'.reservations sid hown kind),
    fun id record hown => (h.records id record hown).trans (h'.records id record hown),
    h.operations.trans h'.operations⟩

/-! What is read of a session of the group. -/

section
variable (h : Alike own held c c') (hown : own sid = true)
include h hown

theorem session : c.session sid = c'.session sid := by
  unfold SessionCoordinator.session Sessions.find
  rw [h.tcp hown, h.udp hown, h.dpdk hown]

theorem sessionExists : c.sessionExists sid = c'.sessionExists sid := by
  unfold SessionCoordinator.sessionExists
  rw [h.tcp hown, h.udp hown, h.dpdk hown]

theorem sessionState : c.sessionState sid = c'.sessionState sid := by
  unfold SessionCoordinator.sessionState
  rw [h.tcp hown, h.udp hown, h.dpdk hown]

end

/-! A write that both do. -/

section
variable (h : Alike own held c c')
include h

theorem setSession (sid : SessionId) (s : Session) : Alike own held (c.setSession sid s) (c'.setSession sid s) := by
  cases s with
  | tcp x => exact { h with tcp := h.tcp.put sid x }
  | udp x => exact { h with udp := h.udp.put sid x }
  | dpdk x => exact { h with dpdk := h.dpdk.put sid x }

theorem log (id : String) (record : OperationRecord) : Alike own held (c.log id record) (c'.log id record) := by
  refine { h with
    records := fun id' record' hown => ?_
    operations := h.operations.put id record }
  show (c.operations.put id record).lookup id' = some record' ↔ (c'.operations.put id record).lookup id' = some record'
  rw [Table.lookup_put, Table.lookup_put]
  split
  · exact Iff.rfl
  · exact h.records id' record' hown

theorem setResources {m m' : ResourceManager} (hm : AlikeReservations own m m') :
    Alike own held { c with resources := m } { c' with resources := m' } :=
  { h with reservations := hm }

theorem putResult (sid : SessionId) (result : TestResult) :
    Alike own held { c with pendingResults := c.pendingResults.erase sid, results := c.results.put sid result }
      { c' with pendingResults := c'.pendingResults.erase sid, results := c'.results.put sid result } :=
  { h with results := h.results.put sid result, pending := h.pending.erase sid }

end

end Alike

variable {m m' : ResourceManager} {id : String} {claim : ResourceClaim} {e : NetToolError}

theorem AlikeReservations.set (h : AlikeReservations own m m') (id : String) (r : Reservation) :
    AlikeReservations own (m.set id r) (m'.set id r) := by
  intro sid hown kind
  rw [(sets_set id r m).lookup, (sets_set id r m').lookup, h sid hown kind]

/-! ## The reservation of a session of the group -/

def ReservationFor (sid : SessionId) (id : String) : Prop := ∃ kind, id = kind ++ hexSessionId sid

theorem transition_agree (h : AlikeReservations own m m') (hown : own sid = true) (hid : ReservationFor sid id)
    (next : ReservationState → Result ReservationState) :
    Respects (AlikeReservations own) (transition id next) m m' := by
  obtain ⟨kind, rfl⟩ := hid
  refine .get_bind (.ofOption_bind (h sid hown kind) h (fun r _ => .ofExcept_bind h (fun state _ => ?_)))
  exact .modify_bind (.pure _ (h.set _ _))

section
variable (h : Alike own held c c') (hown : own sid = true)
include h hown

theorem onLifecycle_agree (m : Life α) :
    Respects (Alike own held) (onLifecycle sid m) c c' := by
  have hsession := h.session hown
  refine .zoom (S := Eq) ⟨by rw [hsession], by rw [hsession]⟩ ?_
  rintro l _ rfl
  rw [hsession]
  cases c'.session sid with
  | none => exact h
  | some s => exact h.setSession sid _

/-- Releasing the reservation of a session of the group, before what follows. -/
theorem release_agree {k k' : Reservation → Coord α} (hid : ReservationFor sid id)
    (hk : ∀ r c₁ c₁', Alike own held c₁ c₁' → Agree (Alike own held) (k r) (k' r) c₁ c₁') :
    Agree (Alike own held) (onResources (beginRelease id) >>= fun _ => onResources (finishRelease id) >>= k)
      (onResources (beginRelease id) >>= fun _ => onResources (finishRelease id) >>= k') c c' := by
  refine .bind (.zoom (transition_agree h.reservations hown hid _) (fun _ _ hm => h.setResources hm))
    (fun _ c₁ c₁' h₁ => ?_)
  exact .bind (.zoom (transition_agree h₁.reservations hown hid _) (fun _ _ hm => h₁.setResources hm)) hk

/-! ## Start and stop -/

theorem start_agree (hheld : held id) (startAt now : Nat) :
    Respects (Alike own held) (start sid id startAt now) c c' := by
  refine .get_bind ?_
  rw [h.operations hheld]
  cases c'.operations.lookup id with
  | some record => exact .ofOption _ _ h
  | none =>
    refine .ofOption_bind (h.session hown) h (fun s _ => ?_)
    refine .guard h (fun _ => .guard h (fun _ => ?_))
    refine .guard h (fun _ => ?_)
    refine .bind (onLifecycle_agree h hown _) (fun _ c₁ c₁' h₁ => ?_)
    refine .bind (onLifecycle_agree h₁ hown _) (fun _ c₂ c₂' h₂ => ?_)
    exact .modify_bind (.pure _ (h₂.log _ _))

theorem stop_agree {orphans : Prop} (hg : Good orphans c)
    (hheld : held id) : Respects (Alike own held) (stop sid id) c c' := by
  refine .get_bind ?_
  rw [h.operations hheld, h.sessionState hown]
  cases c'.operations.lookup id with
  | some record => exact .ofOption _ _ h
  | none =>
    refine .ite Iff.rfl (fun _ => .modify_bind (.pure _ (h.log _ _))) (fun _ => ?_)
    refine .ofOption_bind (h.session hown) h (fun s hs => .guard h (fun _ => ?_))
    refine .modify_bind (release_agree (h.setSession sid _) hown (hg.shape sid s hs).reservation
      (fun _ c₁ c₁' h₁ => ?_))
    exact .modify_bind (.pure _ (h₁.log _ _))

theorem testResult_alike : testResult c sid = testResult c' sid := by
  unfold testResult
  rw [h.results hown, h.sessionExists hown]

/-! ## The scheduler and the workers -/

variable (now : Nat)

theorem beginScheduled_agree : Respects (Alike own held) (beginScheduled sid now) c c' := by
  refine .get_bind (.ofOption_bind (h.session hown) h (fun s _ => ?_))
  refine .guard h (fun _ => .guard h (fun _ => ?_))
  refine .bind (onLifecycle_agree h hown _) (fun _ c₁ c₁' h₁ => ?_)
  refine .get_bind (.ofOption_bind (h₁.session hown) h₁ (fun s₁ _ => ?_))
  exact .modify_bind (.pure _ (h₁.setSession sid _))

theorem takeTcpListener_agree : Respects (Alike own held) (takeTcpListener sid) c c' := by
  refine .get_bind (.ofOption_bind (h.tcp hown) h (fun s _ => ?_))
  refine .guard h (fun _ => .guard h (fun _ => ?_))
  exact .ofOption_bind rfl h (fun _ _ => .modify_bind (.pure _ (h.setSession sid _)))

theorem takeTcpSender_agree : Respects (Alike own held) (takeTcpSender sid) c c' := by
  refine .get_bind (.ofOption_bind (h.tcp hown) h (fun s _ => ?_))
  refine .guard h (fun _ => .guard h (fun _ => ?_))
  exact .ofOption_bind rfl h (fun _ _ => .modify_bind (.pure _ (h.setSession sid _)))

theorem takeTcpBidirectional_agree : Respects (Alike own held) (takeTcpBidirectional sid) c c' := by
  refine .get_bind (.ofOption_bind (h.tcp hown) h (fun s _ => .guard h (fun _ => ?_)))
  have h₁ := h.setSession sid (.tcp { s with listener := none })
  refine .ofOption_bind rfl h (fun _ _ => .modify_bind (.ofOption_bind rfl h₁ (fun _ _ => .modify_bind ?_)))
  have h₂ := h₁.setSession sid (.tcp { s with listener := none, senderDestination := none })
  exact .ofOption_bind rfl h₂ (fun _ _ => .modify_bind (.pure _ (h₂.setSession sid _)))

theorem takeUdpSocket_agree : Respects (Alike own held) (takeUdpSocket sid) c c' := by
  refine .get_bind (.ofOption_bind (h.udp hown) h (fun s _ => ?_))
  refine .guard h (fun _ => .guard h (fun _ => ?_))
  have h₁ := h.setSession sid (.udp { s with socket := none })
  exact .ofOption_bind rfl h (fun _ _ => .modify_bind (.ofOption_bind rfl h₁ (fun _ _ => .pure _ h₁)))

theorem takeUdpSender_agree : Respects (Alike own held) (takeUdpSender sid) c c' := by
  refine .get_bind (.ofOption_bind (h.udp hown) h (fun s _ => ?_))
  refine .guard h (fun _ => .guard h (fun _ => ?_))
  have h₁ := h.setSession sid (.udp { s with senderDestination := none })
  refine .ofOption_bind rfl h (fun _ _ => .modify_bind (.ofOption_bind rfl h₁ (fun _ _ => .modify_bind ?_)))
  have h₂ := h₁.setSession sid (.udp { s with senderDestination := none, socket := none })
  exact .ofOption_bind rfl h₂ (fun _ _ => .modify_bind (.pure _ (h₂.setSession sid _)))

theorem takeUdpBidirectional_agree : Respects (Alike own held) (takeUdpBidirectional sid) c c' := by
  refine .get_bind (.ofOption_bind (h.udp hown) h (fun s _ => .guard h (fun _ => ?_)))
  have h₁ := h.setSession sid (.udp { s with socket := none })
  refine .ofOption_bind rfl h (fun _ _ => .modify_bind (.ofOption_bind rfl h₁ (fun _ _ => ?_)))
  refine .ofOption_bind rfl h₁ (fun _ _ => .modify_bind ?_)
  have h₂ := h₁.setSession sid (.udp { s with socket := none, senderDestination := none })
  exact .ofOption_bind rfl h₂ (fun _ _ => .modify_bind (.pure _ (h₂.setSession sid _)))

theorem beginAndTakeReceiver_agree : Respects (Alike own held) (beginAndTakeReceiver sid now) c c' := by
  refine .get_bind (.ite ?_ (fun _ => .fail _ h) (fun _ => ?_))
  · unfold tcpSender udpSender
    rw [h.tcp hown, h.udp hown]
  refine .bind (beginScheduled_agree h hown now) (fun _ c₁ c₁' h₁ => .get_bind (.ite ?_ (fun _ => ?_) (fun _ => ?_)))
  · rw [h₁.tcp hown]
  · exact .bind (takeTcpListener_agree h₁ hown) (fun _ _ _ h₂ => .pure _ h₂)
  · exact .bind (takeUdpSocket_agree h₁ hown) (fun _ _ _ h₂ => .pure _ h₂)

theorem beginAndTakeSender_agree : Respects (Alike own held) (beginAndTakeSender sid now) c c' := by
  have htcp : c.tcpSender sid = c'.tcpSender sid := by simp only [tcpSender, h.tcp hown]
  have hudp : c.udpSender sid = c'.udpSender sid := by simp only [udpSender, h.udp hown]
  refine .get_bind (.ite (by rw [htcp, hudp]) (fun _ => .fail _ h) (fun _ => ?_))
  refine .bind (beginScheduled_agree h hown now) (fun _ c₁ c₁' h₁ => .ite (by rw [htcp]) (fun _ => ?_) (fun _ => ?_))
  · exact takeTcpSender_agree h₁ hown
  · exact takeUdpSender_agree h₁ hown

theorem beginAndTakeBidirectional_agree : Respects (Alike own held) (beginAndTakeBidirectional sid now) c c' := by
  have htcp : c.tcpBidirectional sid = c'.tcpBidirectional sid := by simp only [tcpBidirectional, h.tcp hown]
  have hudp : c.udpBidirectional sid = c'.udpBidirectional sid := by simp only [udpBidirectional, h.udp hown]
  refine .get_bind (.ite (by rw [htcp, hudp]) (fun _ => .fail _ h) (fun _ => ?_))
  refine .bind (beginScheduled_agree h hown now) (fun _ c₁ c₁' h₁ => .ite (by rw [htcp]) (fun _ => ?_) (fun _ => ?_))
  · exact takeTcpBidirectional_agree h₁ hown
  · exact takeUdpBidirectional_agree h₁ hown

theorem beginAndTakeDpdkReceiver_agree : Respects (Alike own held) (beginAndTakeDpdkReceiver sid now) c c' := by
  refine .get_bind (.ite (by rw [h.dpdk hown]) (fun _ => .fail _ h) (fun _ => ?_))
  refine .bind (beginScheduled_agree h hown now) (fun _ c₁ c₁' h₁ => ?_)
  refine .get_bind (.ofOption_bind (h₁.dpdk hown) h₁ (fun s _ => .ofOption_bind rfl h₁ (fun _ _ => ?_)))
  exact .modify_bind (.pure _ (h₁.setSession sid _))

theorem keepPending_agree (result : TestResult) : Respects (Alike own held) (keepPending sid result) c c' := by
  refine .get_bind ?_
  rw [h.pending hown]
  cases c'.pendingResults.lookup sid with
  | some pending => exact .guard h (fun _ => .pure _ h)
  | none => exact .modify { h with pending := h.pending.put sid result }

theorem conclude_agree {orphans : Prop} (hg : Good orphans c) (ext : Externals) (allowed : NodeConnectionState → Bool)
    (refusal : String) (final : NodeConnectionState) (json : List UInt8) :
    Respects (Alike own held) (conclude ext allowed refusal final sid json) c c' := by
  refine .ofExcept_bind h (fun _ _ => .get_bind ?_)
  rw [h.results hown]
  cases c'.results.lookup sid with
  | some existing => exact .ite Iff.rfl (fun _ => .pure _ h) (fun _ => .fail _ h)
  | none =>
    refine .ofOption_bind (h.session hown) h (fun s hs => .guard h (fun _ => .modify_bind ?_))
    refine .bind (keepPending_agree (h.setSession sid _) hown _) (fun _ c₁ c₁' h₁ => ?_)
    refine release_agree h₁ hown (hg.shape sid s hs).reservation (fun _ c₂ c₂' h₂ => ?_)
    refine .get_bind (.ofOption_bind (h₂.session hown) h₂ (fun s₂ _ => .modify_bind (.modify_bind (.pure _ ?_))))
    exact (h₂.setSession sid _).putResult sid _

end

/-! ## Prepare -/

/-- A refusal because a resource, or the operation ID, is taken. -/
def Conflict (e : NetToolError) : Prop := e.code = .resourceConflict ∨ e.code = .operationConflict

/-- No shared claim of the request needs a configured capacity. -/
def Uncounted (request : ReservationRequest) : Prop := ∀ claim ∈ request.claims, claim.resource.requiresCapacity = false

theorem checkClaim_conflict {m : ResourceManager} (hplain : claim.resource.requiresCapacity = false)
    (h : m.checkClaim claim = .error e) : Conflict e := by
  unfold ResourceManager.checkClaim at h
  rw [hplain] at h
  dsimp only at h
  split at h
  · cases h
    exact .inl rfl
  split at h
  · split at h
    · cases h
      exact .inl rfl
    · split at h
      · rename_i hcapacity
        cases hcapacity
      · split at h
        · split at h
          · cases h
            exact .inl rfl
          · cases h
        · cases h
          exact .inl rfl
  · cases h

theorem checkClaims_conflict {m : ResourceManager} : ∀ (claims : List ResourceClaim),
    (∀ claim ∈ claims, claim.resource.requiresCapacity = false) → m.checkClaims claims = .error e → Conflict e
  | [], _, h => by cases h
  | claim :: claims, hplain, h => by
    unfold ResourceManager.checkClaims at h
    cases hclaim : m.checkClaim claim with
    | error e' =>
      rw [hclaim] at h
      cases h
      exact checkClaim_conflict (hplain claim List.mem_cons_self) hclaim
    | ok _ =>
      rw [hclaim] at h
      exact checkClaims_conflict claims (fun other hmem => hplain other (List.mem_cons_of_mem _ hmem)) h

theorem reserve_agreeBut {request : ReservationRequest} (h : AlikeReservations own m m') (hown : own sid = true)
    (hid : ReservationFor sid request.reservationId) (hplain : Uncounted request) :
    RespectsBut Conflict (AlikeReservations own) (reserve request) m m' := by
  obtain ⟨kind, hkind⟩ := hid
  have hlookup : m.reservations.lookup request.reservationId = m'.reservations.lookup request.reservationId := by
    rw [hkind]
    exact h sid hown kind
  refine .get_bind ?_
  rw [hlookup]
  cases m'.reservations.lookup request.reservationId with
  | some existing => exact .of_agree (.ite Iff.rfl (fun _ => .pure _ h) (fun _ => .fail _ h))
  | none =>
    refine .ofExcept_bind h (fun _ _ => ?_)
    -- The claims are checked against everything that is held, by whatever session.
    cases hfree : m.checkClaims request.claims with
    | ok _ =>
      cases hfree' : m'.checkClaims request.claims with
      | ok _ => exact .of_agree (.modify_bind (.pure _ (h.set _ _)))
      | error e' =>
        exact fun hiff => absurd (hiff.2 (refused_error.2 (checkClaims_conflict _ hplain hfree'))) (not_refused_ok _)
    | error e =>
      have hconflict := checkClaims_conflict _ hplain hfree
      cases hfree' : m'.checkClaims request.claims with
      | ok _ => exact fun hiff => absurd (hiff.1 (refused_error.2 hconflict)) (not_refused_ok _)
      | error e' => exact fun _ => ⟨fun hnot => absurd (refused_error.2 hconflict) hnot, h⟩

theorem wp_activate_plain (id : String) (m : ResourceManager) :
    wp (activate id) (fun _ _ => True) (fun e _ => ¬ Conflict e) m := by
  unfold activate Resource.transition
  rw [wp_bind, wp_get, wp_bind, wp_ofOption]
  refine ⟨fun r _ => ?_, fun _ => by rintro (h | h) <;> cases h⟩
  rw [wp_bind, wp_ofExcept]
  refine ⟨fun _ _ => trivial, fun e => ?_⟩
  cases r.state <;> intro he <;> cases he <;> rintro (h | h) <;> cases h

theorem randomTag_plain {os : Os} (h : randomTag os = .error e) : ¬ Conflict e := by
  unfold randomTag at h
  split at h
  · cases h
  · cases h
    rintro (h | h) <;> cases h

/-- A program that first looks for its operation ID in the log. -/
theorem answered_agreeBut {m : Coord α} (id : String) (matching : OperationRecord → Option α) (h : Alike own held c c')
    (hown : own sid = true) (hnames : ∀ record a, matching record = some a → record.sessionId = sid)
    (hrecord : ∀ c record, c.operations.lookup id = some record →
      m c = (ofOption operationConflict (matching record) : Coord α) c)
    (hkeep : ∀ c, wp m (fun _ _ => True) (fun e c' => Conflict e → c' = c) c)
    (hfresh : c.operations.lookup id = none → c'.operations.lookup id = none →
      RespectsBut Conflict (Alike own held) m c c') :
    RespectsBut Conflict (Alike own held) m c c' := by
  -- A record of another session is not the one of this request.
  have hother : ∀ {c record}, c.operations.lookup id = some record → ¬ own record.sessionId = true →
    Refused Conflict (m c).1 := by
    intro c record hlookup hnot
    rw [hrecord c record hlookup]
    cases hmatch : matching record with
    | none => exact ⟨_, rfl, .inr rfl⟩
    | some a => exact absurd (by rw [hnames record a hmatch, hown]) hnot
  have hsame : ∀ c, Refused Conflict (m c).1 → (m c).2 = c := by
    rintro c ⟨e, he, hconflict⟩
    have hstate := wp_error (hkeep c) (Prod.ext he rfl)
    exact hstate hconflict
  have hboth : Refused Conflict (m c).1 → RespectsBut Conflict (Alike own held) m c c' := by
    intro hrefused hiff
    rw [hsame c hrefused, hsame c' (hiff.1 hrefused)]
    exact ⟨fun hnot => absurd hrefused hnot, h⟩
  have hboth' : Refused Conflict (m c').1 → RespectsBut Conflict (Alike own held) m c c' :=
    fun hrefused hiff => hboth (hiff.2 hrefused) hiff
  cases hlookup : c.operations.lookup id with
  | some record =>
    by_cases hmine : own record.sessionId = true
    · have hlookup' := (h.records id record hmine).1 hlookup
      unfold RespectsBut AgreeBut
      rw [hrecord c record hlookup, hrecord c' record hlookup']
      exact AgreeBut.of_agree (.ofOption _ _ h)
    · exact hboth (hother hlookup hmine)
  | none =>
    cases hlookup' : c'.operations.lookup id with
    | some record =>
      by_cases hmine : own record.sessionId = true
      · rw [(h.records id record hmine).2 hlookup'] at hlookup
        cases hlookup
      · exact hboth' (hother hlookup' hmine)
    | none => exact hfresh hlookup hlookup'

/-- What the preparations share: they name their session. -/
structure Preparation.Names {Endpoint Response : Type} (p : Preparation Endpoint Response) : Prop where
  matching : ∀ record a, p.matching record = some a → record.sessionId = p.sessionId
  reservation : ∀ {expiresAt endpoint tag}, ReservationFor p.sessionId
    (p.prepared expiresAt endpoint tag).reservation.reservationId
  plain : ∀ {expiresAt endpoint tag}, Uncounted (p.prepared expiresAt endpoint tag).reservation
  record : ∀ {expiresAt endpoint tag}, (p.prepared expiresAt endpoint tag).record.sessionId = p.sessionId

theorem uncounted_single {id session : String} (h : claim.resource.requiresCapacity = false) :
    Uncounted ⟨id, session, [claim]⟩ := by
  intro other hmem
  rw [List.mem_singleton.1 hmem]
  exact h

theorem Preparation.Known.names {Endpoint Reply : Type} {p : Preparation Endpoint Reply} (h : p.Known) : p.Names where
  matching := by
    intro record a hmatch
    cases h <;> cases record <;> first | cases hmatch | (rw [(Option.ite_none_right_eq_some.1 hmatch).1]; rfl)
  reservation := by cases h <;> exact ⟨_, rfl⟩
  plain := by cases h <;> exact uncounted_single rfl
  record := by cases h <;> exact rfl

theorem acquire_agreeBut {request : ReservationRequest} {rest : Coord α} (h : Alike own held c c')
    (hown : own sid = true) (hid : ReservationFor sid request.reservationId) (hplain : Uncounted request)
    (hrest : ∀ c c', Alike own held c c' → Respects (Alike own held) rest c c')
    (hfails : ∀ c, wp rest (fun _ _ => True) (fun e _ => ¬ Conflict e) c) :
    RespectsBut Conflict (Alike own held) (do
      let _ ← onResources (reserve request)
      let _ ← onResources (activate request.reservationId)
      rest) c c' := by
  refine .bind (.zoom (reserve_agreeBut h.reservations hown hid hplain) (fun _ _ hm => h.setResources hm))
    (fun _ c₁ c₁' h₁ => ?_) ?_ ?_
  · exact .bind (.zoom (transition_agree h₁.reservations hown hid _) (fun _ _ hm => h₁.setResources hm))
      (fun _ => hrest)
  all_goals
    intro _ c₁
    refine not_refused_of_wp ?_
    rw [wp_bind, wp_onResources]
    exact wp_mono (wp_activate_plain _ _) (fun _ _ _ => hfails _) (fun _ _ he => he)

theorem prepare_agreeBut {Endpoint Response : Type} {p : Preparation Endpoint Response} (hp : p.Known)
    (h : Alike own held c c') (hown : own sid = true) (hsid : p.sessionId = sid) (os : Os) (now : Nat) :
    RespectsBut Conflict (Alike own held) (prepare p os now) c c' := by
  have hp := hp.names
  rw [← hsid] at hown
  have hkeep : ∀ c, wp (prepare p os now) (fun _ _ => True) (fun e c' => Conflict e → c' = c) c :=
    fun c => wp_mono (wp_prepare p os now c) (fun _ _ _ => trivial) (fun _ _ hstate _ => hstate)
  refine answered_agreeBut p.operationId p.matching h hown hp.matching (fun c record hlookup => ?_) hkeep
    (fun hnew hnew' => ?_)
  · unfold prepare
    rw [get_bind, hlookup]
  refine .get_bind ?_
  rw [hnew, hnew']
  refine .ofExcept_bind h (fun _ _ => ?_)
  refine .ite (by rw [h.sessionExists hown]) (fun _ => .of_agree (.fail _ h)) (fun _ => ?_)
  refine .ofOption_bind h (fun expiresAt _ => .ofExcept_bind h (fun endpoint _ => .ofExcept_bind h (fun tag _ => ?_)))
  refine acquire_agreeBut h hown hp.reservation hp.plain
    (fun c₁ c₁' h₁ => ?_) (fun c₁ => ?_)
  · refine .ofExcept_bind h₁ (fun lifecycle _ => .modify_bind (.modify_bind (.pure _ ?_)))
    exact (h₁.setSession _ _).log _ _
  · trivial

theorem prepareDpdkReceiver_agreeBut (request : PrepareDpdkReceiverRequest) (h : Alike own held c c')
    (hown : own request.sessionId = true) (os : Os) (now : Nat) :
    RespectsBut Conflict (Alike own held) (prepareDpdkReceiver request os now) c c' := by
  have hnames := (Preparation.Known.dpdk request).names
  refine answered_agreeBut request.operationId (matchingDpdk request) h hown hnames.matching
    (fun c record hlookup => ?_) (fun c => ?_) (fun hnew hnew' => ?_)
  · unfold prepareDpdkReceiver
    rw [get_bind, hlookup]
  · -- the reservation that a prepare leaves behind is not left by a conflict
    refine wp_logged (fun _ _ => ⟨fun _ _ => trivial, fun _ => rfl⟩) (fun _ => ?_)
    refine wp_check (fun _ _ => ?_) (fun _ _ _ => rfl)
    rw [wp_ite]
    refine ⟨fun _ _ => rfl, fun _ => ?_⟩
    rw [wp_bind, wp_ofOption]
    refine ⟨fun expiresAt _ => ?_, fun _ _ => rfl⟩
    simp only [wp_bind]
    refine wp_acquireResources _ (fun r m _ => ?_) (fun _ _ _ => rfl)
    rw [wp_ofExcept]
    refine ⟨fun tag _ => ?_, fun e he hconflict => absurd hconflict (randomTag_plain he)⟩
    trivial
  refine .get_bind ?_
  rw [hnew, hnew']
  refine .ofExcept_bind h (fun _ _ => ?_)
  refine .ite (by rw [h.sessionExists hown]) (fun _ => .of_agree (.fail _ h)) (fun _ => ?_)
  refine .ofOption_bind h (fun expiresAt _ => ?_)
  refine acquire_agreeBut h hown ⟨"dpdk-rx-", rfl⟩ (uncounted_single rfl) (fun c₁ c₁' h₁ => ?_) (fun c₁ => ?_)
  · refine .ofExcept_bind h₁ (fun tag _ => .ofExcept_bind h₁
      (fun lifecycle _ => .modify_bind (.modify_bind (.pure _ ?_))))
    exact (h₁.setSession _ _).log _ _
  · refine wp_check (fun _ _ => ?_) (fun e he => randomTag_plain he)
    trivial

end

end Node
end NetTool
