import NetTool.Node.Invariant
/-!
# Node.Calls — what preparing, starting and beginning a session do

The specification of each operation: what it returns, what it leaves behind, and what an error leaves behind.  The six
socket prepares have one (`wp_prepare`), the DPDK prepare can leave a reservation behind (`Strands`), and a start that
is refused by the schedule still marks the remote side ready.
-/
namespace NetTool
namespace Node

open Prog Speed Resource SpeedTestLifecycle

variable {α : Type} {c : SessionCoordinator} {sid : SessionId} {orphans : Prop}

/-! ## The components -/

section
variable {Q : α → SessionCoordinator → Prop} {E : NetToolError → SessionCoordinator → Prop}

@[simp] theorem wp_onResources (m : Manage α) : wp (onResources m) Q E c ↔
    wp m (fun a r => Q a { c with resources := r }) (fun e r => E e { c with resources := r }) c.resources :=
  wp_zoom _ _ _

theorem wp_onLifecycle {s : Session} (hs : c.session sid = some s) (m : Life α) : wp (onLifecycle sid m) Q E c ↔
    wp m (fun a l => Q a (c.setSession sid (s.setLifecycle l)))
      (fun e l => E e (c.setSession sid (s.setLifecycle l))) s.lifecycle := by
  unfold onLifecycle
  rw [wp_zoom, hs]
  rfl

/-- An operation that first looks for its ID in the log: a record answers it, or it is new. -/
theorem wp_logged {id : String} {replay : OperationRecord → Option α} {fresh : SessionCoordinator → Coord α}
    (hold : ∀ record, c.operations.lookup id = some record → (∀ a, replay record = some a → Q a c) ∧
      E operationConflict c)
    (hnew : c.operations.lookup id = none → wp (fresh c) Q E c) :
    wp (do
      let c ← get
      match c.operations.lookup id with
      | some record => ofOption operationConflict (replay record)
      | none => fresh c) Q E c := by
  rw [wp_bind, wp_get]
  cases hop : c.operations.lookup id with
  | some record => exact (wp_ofOption _ _).2 ⟨(hold record hop).1, fun _ => (hold record hop).2⟩
  | none => exact hnew hop

end

variable {E : NetToolError → SessionCoordinator → Prop} {Q : Reservation → SessionCoordinator → Prop}

theorem wp_acquireResources (request : ReservationRequest)
    (hQ : ∀ r m, Acquired request r c.resources m → Q r { c with resources := m })
    (hE : ∀ e, ¬ Grantable request c.resources → E e c) :
    wp (onResources (reserve request)) (fun _ => wp (onResources (activate request.reservationId)) Q E) E c := by
  simp only [wp_onResources]
  exact (wp_bind _ _).1 (wp_mono (wp_acquire request c.resources) hQ (fun e m hm => by rw [hm.1]; exact hE e hm.2))

theorem wp_releaseResources {id : String} {r : Reservation} (hr : c.resources.reservations.lookup id = some r)
    (hst : r.state = .active)
    (hQ : ∀ a m, Sets id { r with state := .released } c.resources m → Q a { c with resources := m }) :
    wp (onResources (beginRelease id)) (fun _ => wp (onResources (finishRelease id)) Q E) E c := by
  simp only [wp_onResources]
  exact (wp_bind _ _).1 (wp_mono (wp_release hr hst) hQ (fun _ _ h => h.elim))

theorem sessionExists_eq_false : c.sessionExists sid = false ↔ c.session sid = none := by
  unfold SessionCoordinator.sessionExists SessionCoordinator.session
  rw [Sessions.find_eq_none]
  simp only [Bool.or_eq_false_iff, Option.isSome_eq_false_iff, Option.isNone_iff_eq_none, and_assoc]

theorem setSession_setSession {s s' : Session} (h : s.SameMap s') :
    (c.setSession sid s).setSession sid s' = c.setSession sid s' := by
  unfold SessionCoordinator.setSession
  rw [Sessions.set_set h]

theorem Good.setSession_self {s : Session} (h : Good orphans c) (hs : c.session sid = some s) :
    c.setSession sid s = c := by
  unfold SessionCoordinator.setSession
  rw [h.apart.set_self hs]

theorem Good.session_setSession {s s' : Session} (h : Good orphans c) (hs : c.session sid = some s)
    (hm : s.SameMap s') : (c.setSession sid s').session sid = some s' := by
  have hw : Writes sid s' c (c.setSession sid s') := h.writes (.inr ⟨s, hs, hm⟩) rfl
  exact hw.self

/-! ## Prepare -/

/-- What is common to the six socket preparations. -/
structure Preparation.Sound {Endpoint Response : Type} (p : Preparation Endpoint Response) : Prop where
  shape : ∀ {expiresAt endpoint tag}, Shape p.sessionId ((p.prepared expiresAt endpoint tag).session waiting)
  state : ∀ {expiresAt endpoint tag}, ((p.prepared expiresAt endpoint tag).session waiting).state = .testReady
  reservation : ∀ {expiresAt endpoint tag}, (p.prepared expiresAt endpoint tag).reservation.reservationId =
    ((p.prepared expiresAt endpoint tag).session waiting).reservationId
  guarded : ∀ {expiresAt endpoint tag}, Guarded (p.prepared expiresAt endpoint tag).reservation.claims
  record : ∀ {expiresAt endpoint tag},
    p.matching (p.prepared expiresAt endpoint tag).record = some (p.prepared expiresAt endpoint tag).response
  start : ∀ {expiresAt endpoint tag} sid t state, (p.prepared expiresAt endpoint tag).record ≠ .start sid t state

section
variable {Endpoint Response : Type} {p : Preparation Endpoint Response}

/-- A prepare that is not the repetition of an earlier one: what it was granted and what it keeps. -/
structure Prepares (p : Preparation Endpoint Response) (os : Os) (now : Nat) (c : SessionCoordinator)
    (response : Response) (c' : SessionCoordinator) (expiresAt : Nat) (endpoint : Endpoint) (tag : String)
    (r : Reservation) (m : ResourceManager) : Prop where
  fresh : c.operations.lookup p.operationId = none
  valid : p.validate = .ok ()
  new : c.session p.sessionId = none
  expires : checkedAdd now p.authorizationTtlSeconds = some expiresAt
  bound : p.endpoint os = .ok endpoint
  drawn : randomTag os = .ok tag
  acquired : Acquired (p.prepared expiresAt endpoint tag).reservation r c.resources m
  response : response = (p.prepared expiresAt endpoint tag).response
  state : c' = (({ c with resources := m } : SessionCoordinator).setSession p.sessionId
    ((p.prepared expiresAt endpoint tag).session waiting)).log p.operationId (p.prepared expiresAt endpoint tag).record

theorem wp_prepare (p : Preparation Endpoint Response) (os : Os) (now : Nat) (c : SessionCoordinator) :
    wp (prepare p os now)
      (fun a c' => (c' = c ∧ ∃ record, c.operations.lookup p.operationId = some record ∧ p.matching record = some a) ∨
        ∃ expiresAt endpoint tag r m, Prepares p os now c a c' expiresAt endpoint tag r m)
      (fun _ c' => c' = c) c := by
  refine wp_logged (fun record hop => ⟨fun a ha => .inl ⟨rfl, record, hop, ha⟩, rfl⟩) (fun hop => ?_)
  refine wp_check (fun _ hvalid => ?_) (fun _ _ => rfl)
  rw [wp_ite]
  refine ⟨fun _ => rfl, fun hexists => ?_⟩
  have hnew := sessionExists_eq_false.1 (Bool.eq_false_iff.2 hexists)
  rw [wp_bind, wp_ofOption]
  refine ⟨fun expiresAt hexpires => ?_, fun _ => rfl⟩
  refine wp_check (fun endpoint hbound => ?_) (fun _ _ => rfl)
  refine wp_check (fun tag hdrawn => ?_) (fun _ _ => rfl)
  simp only [wp_bind]
  refine wp_acquireResources _ (fun r m hacq => ?_) (fun _ _ => rfl)
  exact .inr ⟨expiresAt, endpoint, tag, r, m, hop, hvalid, hnew, hexpires, hbound, hdrawn, hacq, rfl, rfl⟩

variable {c' : SessionCoordinator} {os : Os} {now expiresAt : Nat} {endpoint : Endpoint} {tag : String}
  {r : Reservation} {m : ResourceManager} {response : Response}
  (h : Prepares p os now c response c' expiresAt endpoint tag r m)
include h

theorem Prepares.effect (hp : p.Sound) : Effect orphans c c' ∧ Logs c c' := by
  have hstate := h.state
  subst hstate
  constructor
  · exact .enroll p.sessionId _ r _
      ⟨h.new, hp.shape, hp.state, hp.reservation, hp.guarded, rfl, h.acquired, ⟨rfl, rfl⟩⟩
  · exact .add p.operationId _ h.fresh rfl (fun sid t state hc => absurd hc (hp.start sid t state))

theorem Prepares.operations :
    c'.operations = c.operations.put p.operationId (p.prepared expiresAt endpoint tag).record :=
  congrArg SessionCoordinator.operations h.state

theorem Prepares.writes (hg : Good orphans c) :
    Writes p.sessionId ((p.prepared expiresAt endpoint tag).session waiting) c c' := by
  have hstate := h.state
  subst hstate
  exact hg.writes (.inl h.new) rfl

end

theorem shape_of_prepared {s : Session} (kind : String) (hres : s.reservationId = kind ++ hexSessionId sid)
    (hstate : s.state = .testReady) (harmed : s.Armed) (hlife : s.lifecycle = waiting) : Shape sid s where
  reservation := ⟨kind, hres⟩
  rests := .inl hstate
  armed := fun _ => harmed
  waits := fun _ => ⟨none, by rw [hlife]; exact .waiting⟩

theorem guarded_exclusive {claim : ResourceClaim} (h : claim.mode = .exclusive) : Guarded [claim] := by
  intro claim' hmem _
  rw [List.mem_singleton.1 hmem]
  exact h

/-- The DPDK receiver in the terms of the others: what it keeps when it returns. -/
def dpdkPreparation (request : PrepareDpdkReceiverRequest) : Preparation Unit PreparedDpdkReceiver where
  sessionId := request.sessionId
  operationId := request.operationId
  authorizationTtlSeconds := request.authorizationTtlSeconds
  validate := validateDpdk request
  matching := matchingDpdk request
  endpoint := fun _ => .ok ()
  prepared := fun expiresAt _ authorizationTag =>
    { reservation := dpdkReservation request
      response := dpdkPlan request
      session := fun lifecycle => .dpdk (dpdkSession request expiresAt authorizationTag lifecycle)
      record := .prepareDpdkReceiver request (dpdkPlan request) }

inductive Preparation.Known : {Endpoint Response : Type} → Preparation Endpoint Response → Prop
  | tcp (request : PrepareTcpRequest) : Known (tcpPreparation request)
  | tcpSender (request : PrepareTcpSenderRequest) : Known (tcpSenderPreparation request)
  | tcpBidirectional (request : PrepareTcpBidirectionalRequest) : Known (tcpBidirectionalPreparation request)
  | udp (request : PrepareUdpRequest) : Known (udpPreparation request)
  | udpSender (request : PrepareUdpSenderRequest) : Known (udpSenderPreparation request)
  | udpBidirectional (request : PrepareUdpBidirectionalRequest) : Known (udpBidirectionalPreparation request)
  | dpdk (request : PrepareDpdkReceiverRequest) : Known (dpdkPreparation request)

theorem Preparation.Known.sound {Endpoint Response : Type} {p : Preparation Endpoint Response} (hp : p.Known) :
    p.Sound where
  shape := by
    cases hp with
    | tcp => exact shape_of_prepared "data-port-" rfl rfl (.inl ⟨rfl, rfl, rfl⟩) rfl
    | tcpSender => exact shape_of_prepared "tcp-sender-" rfl rfl (.inr (.inl ⟨rfl, rfl⟩)) rfl
    | tcpBidirectional => exact shape_of_prepared "tcp-bidirectional-" rfl rfl (.inr (.inr ⟨rfl, rfl, rfl⟩)) rfl
    | udp => exact shape_of_prepared "data-port-" rfl rfl ⟨rfl, rfl, .inl ⟨rfl, rfl⟩⟩ rfl
    | udpSender => exact shape_of_prepared "udp-sender-" rfl rfl ⟨rfl, rfl, .inr ⟨rfl, rfl⟩⟩ rfl
    | udpBidirectional => exact shape_of_prepared "udp-bidirectional-" rfl rfl ⟨rfl, rfl, .inr ⟨rfl, rfl⟩⟩ rfl
    | dpdk => exact shape_of_prepared "dpdk-rx-" rfl rfl rfl rfl
  state := by cases hp <;> exact rfl
  reservation := by cases hp <;> exact rfl
  guarded := by
    cases hp with
    | tcpSender =>
      -- the shared claim is on the destination, which is neither a port of this node nor a device
      intro _ _ _ claim hmem hend
      rw [List.mem_singleton.1 hmem] at hend
      simp [isEndpoint, String.toList_append] at hend
    | _ => exact guarded_exclusive rfl
  record := by cases hp <;> exact if_pos rfl
  start := by
    intro _ _ _ _ _ _ h
    cases hp <;> cases h

/-- The checks of a DPDK prepare pass and the random source then fails. -/
structure Strands (request : PrepareDpdkReceiverRequest) (os : Os) (now : Nat) (c : SessionCoordinator) : Prop where
  fresh : c.operations.lookup request.operationId = none
  valid : validateDpdk request = .ok ()
  new : c.session request.sessionId = none
  expires : ∃ expiresAt, checkedAdd now request.authorizationTtlSeconds = some expiresAt
  random : ∃ error, os.random = .error error

theorem randomTag_error {os : Os} {e : NetToolError} (h : randomTag os = .error e) :
    ∃ error, os.random = .error error := by
  unfold randomTag at h
  cases hr : os.random with
  | ok bytes => rw [hr] at h; cases h
  | error error => exact ⟨error, rfl⟩

theorem wp_prepareDpdkReceiver (request : PrepareDpdkReceiverRequest) (os : Os) (now : Nat) (c : SessionCoordinator) :
    wp (prepareDpdkReceiver request os now)
      (fun a c' => (c' = c ∧ ∃ record, c.operations.lookup request.operationId = some record ∧
          matchingDpdk request record = some a) ∨
        ∃ expiresAt tag r m, Prepares (dpdkPreparation request) os now c a c' expiresAt () tag r m)
      (fun _ c' => (c' = c ∧ ¬ (Strands request os now c ∧ Grantable (dpdkReservation request) c.resources)) ∨
        (Strands request os now c ∧ ∃ r m, Acquired (dpdkReservation request) r c.resources m ∧
          c' = { c with resources := m })) c := by
  refine wp_logged (fun record hop => ⟨fun a ha => .inl ⟨rfl, record, hop, ha⟩, .inl ⟨rfl, ?_⟩⟩) (fun hop => ?_)
  · rintro ⟨hs, -⟩
    rw [hs.fresh] at hop; cases hop
  refine wp_check (fun _ hvalid => ?_) (fun e he => .inl ⟨rfl, fun ⟨hs, _⟩ => by rw [hs.valid] at he; cases he⟩)
  rw [wp_ite]
  constructor
  · exact fun hexists => .inl ⟨rfl, fun ⟨hs, _⟩ => by rw [sessionExists_eq_false.2 hs.new] at hexists; cases hexists⟩
  intro hexists
  have hnew := sessionExists_eq_false.1 (Bool.eq_false_iff.2 hexists)
  rw [wp_bind, wp_ofOption]
  refine ⟨fun expiresAt hexpires => ?_, fun hnone => .inl ⟨rfl, fun ⟨hs, _⟩ => ?_⟩⟩
  swap
  · obtain ⟨expiresAt, hexpires⟩ := hs.expires
    rw [hexpires] at hnone; cases hnone
  simp only [wp_bind]
  refine wp_acquireResources _ (fun r m hacq => ?_) (fun _ hnot => .inl ⟨rfl, fun h => hnot h.2⟩)
  rw [wp_ofExcept]
  constructor
  · intro tag hdrawn
    exact .inr ⟨expiresAt, tag, r, m, hop, hvalid, hnew, hexpires, rfl, hdrawn, hacq, rfl, rfl⟩
  · intro e he
    exact .inr ⟨⟨hop, hvalid, hnew, ⟨expiresAt, hexpires⟩, randomTag_error he⟩, r, m, hacq, rfl⟩

/-! ## Start and begin -/

section
variable {s : Session} {scheduled : Option Nat}

/-- The session waits, and its authorization covers the clock and the start. -/
structure Startable (c : SessionCoordinator) (sid : SessionId) (startAt now : Nat) (s : Session)
    (scheduled : Option Nat) : Prop where
  session : c.session sid = some s
  state : s.state = .testReady
  waits : s.lifecycle.Waits scheduled
  unexpired : now / nanosecondsPerSecond ≤ s.authorization.expiresAtUnixSeconds
  covered : startAt / nanosecondsPerSecond ≤ s.authorization.expiresAtUnixSeconds

theorem wp_start (hg : Good orphans c) (sid : SessionId) (id : String) (startAt now : Nat) :
    wp (start sid id startAt now)
      (fun state c' => (c' = c ∧ ∃ record, c.operations.lookup id = some record ∧
          matchingStart sid startAt record = some state) ∨
        (c.operations.lookup id = none ∧ ∃ s scheduled, Startable c sid startAt now s scheduled ∧
          CanSchedule scheduled startAt now ∧ state = .testReady ∧
          c' = (c.setSession sid (s.setLifecycle (ready (some startAt)))).log id (.start sid startAt .testReady)))
      (fun _ c' => (c' = c ∧ (c.operations.lookup id = none →
        ¬ ∃ s scheduled, Startable c sid startAt now s scheduled)) ∨
        (c.operations.lookup id = none ∧ ∃ s scheduled, Startable c sid startAt now s scheduled ∧
          ¬ CanSchedule scheduled startAt now ∧ c' = c.setSession sid (s.setLifecycle (ready scheduled)))) c := by
  refine wp_logged (fun record hop => ⟨fun a ha => .inl ⟨rfl, record, hop, ha⟩, .inl ⟨rfl, fun hnone => ?_⟩⟩)
    (fun hop => ?_)
  · rw [hnone] at hop; cases hop
  rw [wp_bind, wp_ofOption]
  refine ⟨fun s hs => ?_, fun hnone => .inl ⟨rfl, fun _ ⟨s, _, hst⟩ => by rw [hst.session] at hnone; cases hnone⟩⟩
  have hrefused : (∀ t, ¬ Startable c sid startAt now s t) → c.operations.lookup id = none →
      ¬ ∃ s' t, Startable c sid startAt now s' t := by
    rintro hnot - ⟨s', t, hst⟩
    exact hnot t (Option.mem_unique hst.session hs ▸ hst)
  rw [wp_ite]
  refine ⟨fun hexpired => .inl ⟨rfl, hrefused fun t hst => absurd hst.unexpired (by omega)⟩, fun hexpired => ?_⟩
  rw [wp_ite]
  refine ⟨fun hnot => .inl ⟨rfl, hrefused fun t hst => hnot hst.state⟩, fun hready => ?_⟩
  rw [wp_ite]
  refine ⟨fun hcovered => .inl ⟨rfl, hrefused fun t hst => absurd hst.covered (by omega)⟩, fun hcovered => ?_⟩
  have hready : s.state = .testReady := not_not.1 hready
  obtain ⟨scheduled, hwaits⟩ := (hg.shape sid s hs).waits hready
  have hstartable : Startable c sid startAt now s scheduled := ⟨hs, hready, hwaits, by omega, by omega⟩
  rw [wp_bind, wp_onLifecycle hs]
  unfold wp
  rw [markReady_remote hwaits]
  -- from here on both sides are ready, whatever the schedule says
  have hs1 : (c.setSession sid (s.setLifecycle (ready scheduled))).session sid =
      some (s.setLifecycle (ready scheduled)) := hg.session_setSession hs (by simp)
  have hset : ∀ l, (c.setSession sid (s.setLifecycle (ready scheduled))).setSession sid
      ((s.setLifecycle (ready scheduled)).setLifecycle l) = c.setSession sid (s.setLifecycle l) := by
    intro l
    rw [Session.setLifecycle_twice]
    exact setSession_setSession (by simp)
  show wp (onLifecycle sid (scheduleStart startAt now) >>= fun _ => _) _ _
    (c.setSession sid (s.setLifecycle (ready scheduled)))
  rw [wp_bind, wp_onLifecycle hs1, Session.lifecycle_setLifecycle]
  apply wp_mono (wp_scheduleStart scheduled startAt now)
  · rintro _ l ⟨hcan, rfl⟩
    rw [hset, hready]
    exact .inr ⟨hop, s, scheduled, hstartable, hcan, rfl, rfl⟩
  · rintro e l ⟨hcan, rfl⟩
    rw [hset]
    exact .inr ⟨hop, s, scheduled, hstartable, hcan, rfl⟩

def Session.begun (s : Session) : Session := (s.setLifecycle { s.lifecycle with phase := .warmup }).setState .running

/-- The scheduled start of a waiting session has come and its authorization has not expired. -/
structure Begins (c : SessionCoordinator) (sid : SessionId) (now : Nat) (s : Session) (startAt : Nat) : Prop where
  session : c.session sid = some s
  state : s.state = .testReady
  waits : s.lifecycle.Waits (some startAt)
  come : startAt ≤ now
  unexpired : now / nanosecondsPerSecond ≤ s.authorization.expiresAtUnixSeconds

theorem wp_beginScheduled (hg : Good orphans c) (sid : SessionId) (now : Nat) :
    wp (beginScheduled sid now) (fun _ c' => ∃ s startAt, Begins c sid now s startAt ∧ c' = c.setSession sid s.begun)
      (fun _ c' => c' = c ∧ ¬ ∃ s startAt, Begins c sid now s startAt) c := by
  unfold beginScheduled
  rw [wp_bind, wp_get, wp_bind, wp_ofOption]
  refine ⟨fun s hs => ?_, fun hnone => ⟨rfl, fun ⟨s, _, hb⟩ => by rw [hb.session] at hnone; cases hnone⟩⟩
  have hrefused : (∀ t, ¬ Begins c sid now s t) → ¬ ∃ s' t, Begins c sid now s' t := by
    rintro hnot ⟨s', t, hb⟩
    exact hnot t (Option.mem_unique hb.session hs ▸ hb)
  rw [wp_ite]
  refine ⟨fun hnot => ⟨rfl, hrefused fun t hb => hnot hb.state⟩, fun hready => ?_⟩
  have hready : s.state = .testReady := not_not.1 hready
  rw [wp_ite]
  refine ⟨fun hexpired => ⟨rfl, hrefused fun t hb => absurd hb.unexpired (by omega)⟩, fun hunexpired => ?_⟩
  obtain ⟨scheduled, hwaits⟩ := (hg.shape sid s hs).waits hready
  rw [wp_bind, wp_onLifecycle hs]
  apply wp_mono (wp_beginWarmup hwaits now)
  · rintro _ l ⟨⟨t, ht, hle⟩, rfl⟩
    rw [ht] at hwaits
    have hs1 : (c.setSession sid (s.setLifecycle { s.lifecycle with phase := .warmup })).session sid =
        some (s.setLifecycle { s.lifecycle with phase := .warmup }) :=
      hg.session_setSession hs (by simp)
    rw [wp_bind, wp_get, hs1]
    refine ⟨s, t, ⟨hs, hready, hwaits, hle, by omega⟩, ?_⟩
    exact setSession_setSession (by simp)
  · rintro e l ⟨hnot, rfl⟩
    rw [Session.setLifecycle_self, hg.setSession_self hs]
    exact ⟨rfl, hrefused fun t hb => hnot ⟨t, hwaits.unique hb.waits, hb.come⟩⟩

end

end Node
end NetTool
