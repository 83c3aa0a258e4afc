import NetTool.Node.Coordinator
/-!
# Node.Invariant — what a call can do, and what holds of every coordinator

`Effect` says once what a call can do to the sessions and the reservations: nothing, an edit of one session in place,
the end of a session with the release of its reservation, a new session with its reservation, or a reservation without a
session (a DPDK prepare whose random source fails).  `Good` holds of every reachable coordinator: a session ID stands in
one map, a live session's reservation is active and an ended one's is released, and a waiting session still has its
endpoint.
-/
namespace NetTool
namespace Node

open Prog Speed Resource

/-! ## Sessions -/

/-- What a prepared session holds until it is begun, by role. -/
def Session.Armed : Session → Prop
  | .tcp s => (s.listener.isSome ∧ s.senderDestination = none ∧ s.senderConfig = none) ∨
      (s.senderDestination.isSome ∧ s.senderConfig = none) ∨
      (s.listener.isSome ∧ s.senderDestination.isSome ∧ s.senderConfig.isSome)
  | .udp s => s.socket.isSome ∧ s.authorization.sourcePort.isSome ∧
      ((s.senderDestination = none ∧ s.senderConfig = none) ∨ (s.senderDestination.isSome ∧ s.senderConfig.isSome))
  | .dpdk s => s.plan.isSome

/-- The states a session rests in between calls. -/
def Rests (state : NodeConnectionState) : Prop :=
  state = .testReady ∨ state = .running ∨ state = .completed ∨ state = .failed ∨ state = .canceled

structure Shape (sid : SessionId) (s : Session) : Prop where
  reservation : ∃ kind, s.reservationId = kind ++ hexSessionId sid
  rests : Rests s.state
  armed : s.state = .testReady → s.Armed
  waits : s.state = .testReady → ∃ startAt, s.lifecycle.Waits startAt

/-- A change of a session that leaves its reservation alone: a waiting session is scheduled, or the session runs. -/
inductive Edit (s : Session) : Session → Prop
  | schedule (l : SpeedTestLifecycle) (startAt : Option Nat) : s.state = .testReady → l.Waits startAt →
      (∀ t, s.lifecycle.Waits (some t) → startAt = some t) → Edit s (s.setLifecycle l)
  | run (s' : Session) : s.state = .testReady ∨ s.state = .running → s'.state = .running → s.SameMap s' →
      s'.reservationId = s.reservationId → Edit s s'

variable {s s' : Session}

theorem Edit.sameMap (h : Edit s s') : s.SameMap s' := by
  cases h with
  | schedule => simp [Session.SameMap.refl]
  | run _ _ _ hm _ => exact hm

theorem Edit.reservationId (h : Edit s s') : s'.reservationId = s.reservationId := by
  cases h with
  | schedule => simp
  | run _ _ _ _ hr => exact hr

theorem Edit.live (h : Edit s s') : cancelable s.state = true ∧ cancelable s'.state = true := by
  cases h with
  | schedule _ _ hs => simp [hs, cancelable]
  | run _ hs hs' => rw [hs']; rcases hs with hs | hs <;> rw [hs] <;> exact ⟨rfl, rfl⟩

@[simp] theorem Session.armed_setLifecycle {s : Session} {l : SpeedTestLifecycle} :
    (s.setLifecycle l).Armed ↔ s.Armed := by cases s <;> rfl

theorem Edit.shape {sid : SessionId} (h : Edit s s') (hs : Shape sid s) : Shape sid s' := by
  obtain ⟨kind, hkind⟩ := hs.reservation
  have hres : ∃ kind, s'.reservationId = kind ++ hexSessionId sid := ⟨kind, h.reservationId.trans hkind⟩
  cases h with
  | schedule l startAt hst hw _ =>
    have hstate : (s.setLifecycle l).state = .testReady := by simp [hst]
    refine ⟨hres, .inl hstate, fun _ => ?_, fun _ => ⟨startAt, ?_⟩⟩
    · simpa using hs.armed hst
    · simpa using hw
  | run _ _ hst _ _ =>
    have hne : s'.state ≠ .testReady := by rw [hst]; exact fun hc => by cases hc
    exact ⟨hres, .inr (.inl hst), fun hc => absurd hc hne, fun hc => absurd hc hne⟩

/-! ## Effects -/

/-- A resource that only one session may hold: a data port, or a DPDK device by its PCI address. -/
def isEndpoint : ResourceKey → Bool
  | .dataPort _ _ _ => true
  | .managementInterface name => "pci:".toList.isPrefixOf name.toList
  | _ => false

def Guarded (claims : List ResourceClaim) : Prop :=
  ∀ claim ∈ claims, isEndpoint claim.resource = true → claim.mode = .exclusive

/-- The results a call that ends no session leaves alone. -/
structure SameResults (c c' : SessionCoordinator) : Prop where
  results : c'.results = c.results
  pending : c'.pendingResults = c.pendingResults

/-- A live session ends: its reservation is released, and it has a result unless it was canceled. -/
structure Ending (sid : SessionId) (s s' : Session) (r : Reservation) (c c' : SessionCoordinator) : Prop where
  session : c.session sid = some s
  live : cancelable s.state = true
  map : s.SameMap s'
  id : s'.reservationId = s.reservationId
  sessions : c'.sessions = c.sessions.set sid s'
  held : c.resources.reservations.lookup s.reservationId = some r
  released : Sets s.reservationId { r with state := .released } c.resources c'.resources
  results : (s'.state = .canceled ∧ c'.results = c.results) ∨
    ((s'.state = .completed ∨ s'.state = .failed) ∧ ∃ result, c'.results = c.results.put sid result)
  pending : ∀ sid', c'.pendingResults.lookup sid' = none

/-- A new session, with a reservation it has acquired. -/
structure Enrolling (sid : SessionId) (s : Session) (r : Reservation) (request : ReservationRequest)
    (c c' : SessionCoordinator) : Prop where
  new : c.session sid = none
  shape : Shape sid s
  state : s.state = .testReady
  id : request.reservationId = s.reservationId
  claims : Guarded request.claims
  sessions : c'.sessions = c.sessions.set sid s
  acquired : Acquired request r c.resources c'.resources
  results : SameResults c c'

/-- What a call does to sessions, reservations and results.  `orphans` says whether a reservation may be left without a
session. -/
inductive Effect (orphans : Prop) (c c' : SessionCoordinator) : Prop
  | keep (hsessions : c'.sessions = c.sessions) (hresources : c'.resources = c.resources) (hres : SameResults c c')
  | edit (sid : SessionId) (s s' : Session) (hs : c.session sid = some s) (he : Edit s s')
      (hsessions : c'.sessions = c.sessions.set sid s') (hresources : c'.resources = c.resources)
      (hres : SameResults c c')
  | finish (sid : SessionId) (s s' : Session) (r : Reservation) (h : Ending sid s s' r c c')
  | enroll (sid : SessionId) (s : Session) (r : Reservation) (request : ReservationRequest)
      (h : Enrolling sid s r request c c')
  | orphan (r : Reservation) (request : ReservationRequest) (ho : orphans) (hclaims : Guarded request.claims)
      (hsessions : c'.sessions = c.sessions) (hacq : Acquired request r c.resources c'.resources)
      (hres : SameResults c c')

/-- What a call does to the operation log: an ID that is there keeps its record. -/
inductive Logs (c c' : SessionCoordinator) : Prop
  | keep (h : c'.operations = c.operations)
  | add (id : String) (record : OperationRecord) (hnew : c.operations.lookup id = none)
      (h : c'.operations = c.operations.put id record)
      (hstart : ∀ sid t state, record = .start sid t state → ∃ s, c'.session sid = some s ∧ s.lifecycle.Waits (some t))

/-! ## The invariant -/

/-- The reservation of a session is active while the session is live and released afterwards. -/
def Backed (m : ResourceManager) (s : Session) : Prop :=
  ∃ r, m.reservations.lookup s.reservationId = some r ∧ r.state = if cancelable s.state then .active else .released

structure Good (orphans : Prop) (c : SessionCoordinator) : Prop where
  apart : c.sessions.Apart
  shape : ∀ sid s, c.session sid = some s → Shape sid s
  held : ∀ sid s, c.session sid = some s → Backed c.resources s
  owned : ∀ id r, c.resources.reservations.lookup id = some r →
    (∃ sid s, c.session sid = some s ∧ s.reservationId = id) ∨ (orphans ∧ r.state = .active)
  guarded : ∀ id r, c.resources.reservations.lookup id = some r → Guarded r.request.claims
  exclusive : Exclusive c.resources
  pending : ∀ sid, c.pendingResults.lookup sid = none
  results : ∀ sid result, c.results.lookup sid = some result →
    ∃ s, c.session sid = some s ∧ (s.state = .completed ∨ s.state = .failed)
  started : ∀ id sid t state, c.operations.lookup id = some (.start sid t state) →
    ∃ s, c.session sid = some s ∧ (s.state = .testReady → s.lifecycle.Waits (some t))

@[simp] theorem session_new (sid : SessionId) : SessionCoordinator.new.session sid = none := by
  simp [SessionCoordinator.new, SessionCoordinator.session, Sessions.find]

theorem good_new (orphans : Prop) : Good orphans .new := by
  constructor
  · constructor <;> simp [SessionCoordinator.new]
  · intro sid s h; simp at h
  · intro sid s h; simp at h
  · intro id r h; simp [SessionCoordinator.new, ResourceManager.new] at h
  · intro id r h; simp [SessionCoordinator.new, ResourceManager.new] at h
  · exact exclusive_new
  · intro sid; simp [SessionCoordinator.new]
  · intro sid result h; simp [SessionCoordinator.new] at h
  · intro id sid t state h; simp [SessionCoordinator.new] at h

section
variable {orphans : Prop} {c c' : SessionCoordinator} {sid sid' : SessionId} {s s' : Session}

theorem session_congr (h : c'.sessions = c.sessions) (sid : SessionId) : c'.session sid = c.session sid := by
  unfold SessionCoordinator.session; rw [h]

def Writes (sid : SessionId) (s : Session) (c c' : SessionCoordinator) : Prop :=
  ∀ sid', c'.session sid' = if sid' = sid then some s else c.session sid'

theorem Good.writes (h : Good orphans c) (hfit : c.sessions.Fits sid s)
    (hsessions : c'.sessions = c.sessions.set sid s) : Writes sid s c c' := by
  intro sid'
  unfold SessionCoordinator.session
  rw [hsessions]
  exact h.apart.find_set hfit sid'

section
variable (hw : Writes sid s c c')
include hw

theorem Writes.self : c'.session sid = some s := by rw [hw, if_pos rfl]

theorem Writes.other (hne : sid' ≠ sid) : c'.session sid' = c.session sid' := by
  rw [hw, if_neg hne]

theorem Writes.forall {P : SessionId → Session → Prop} (hself : P sid s)
    (hother : ∀ sid' s', sid' ≠ sid → c.session sid' = some s' → P sid' s') :
    ∀ sid' s', c'.session sid' = some s' → P sid' s' := by
  intro sid' s' hs'
  by_cases hid : sid' = sid
  · rw [hid, hw.self, Option.some.injEq] at hs'
    rw [hid, ← hs']
    exact hself
  · rw [hw.other hid] at hs'
    exact hother sid' s' hid hs'

theorem Writes.exists {P : Session → Prop} (hs' : c.session sid' = some s') (hself : sid' = sid → P s)
    (hother : P s') : ∃ s, c'.session sid' = some s ∧ P s := by
  by_cases hid : sid' = sid
  · exact ⟨s, hid ▸ hw.self, hself hid⟩
  · exact ⟨s', (hw.other hid).trans hs', hother⟩

end

/-- **Two sessions have two reservations.** -/
theorem Good.reservationId_injective (h : Good orphans c) (hs : c.session sid = some s) (hs' : c.session sid' = some s')
    (hid : s.reservationId = s'.reservationId) : sid = sid' := by
  obtain ⟨kind, hkind⟩ := (h.shape sid s hs).reservation
  obtain ⟨kind', hkind'⟩ := (h.shape sid' s' hs').reservation
  rw [hkind, hkind'] at hid
  exact Subtype.ext (append_hexString_injective (sid.2.trans sid'.2.symm) hid)

theorem Good.keep (h : Good orphans c) (hsessions : c'.sessions = c.sessions) (hresources : c'.resources = c.resources)
    (hres : SameResults c c') (hops : c'.operations = c.operations) : Good orphans c' := by
  have hsession := session_congr hsessions
  constructor
  · rw [hsessions]; exact h.apart
  · simpa only [hsession] using h.shape
  · simpa only [hsession, hresources] using h.held
  · simpa only [hsession, hresources] using h.owned
  · simpa only [hresources] using h.guarded
  · rw [hresources]; exact h.exclusive
  · simpa only [hres.pending] using h.pending
  · simpa only [hsession, hres.results] using h.results
  · simpa only [hsession, hops] using h.started

theorem Good.edit (h : Good orphans c) (hs : c.session sid = some s) (he : Edit s s')
    (hsessions : c'.sessions = c.sessions.set sid s') (hresources : c'.resources = c.resources)
    (hres : SameResults c c') (hops : c'.operations = c.operations) : Good orphans c' := by
  have hfit : c.sessions.Fits sid s' := .inr ⟨s, hs, he.sameMap⟩
  have hw := h.writes hfit hsessions
  constructor
  · rw [hsessions]; exact h.apart.set hfit
  · exact hw.forall (he.shape (h.shape sid s hs)) (fun sid₁ s₁ _ => h.shape sid₁ s₁)
  · rw [hresources]
    obtain ⟨r, hr, hstate⟩ := h.held sid s hs
    rw [he.live.1] at hstate
    have hself : Backed c.resources s' := by
      unfold Backed
      rw [he.reservationId, he.live.2]
      exact ⟨r, hr, hstate⟩
    exact hw.forall hself (fun sid₁ s₁ _ => h.held sid₁ s₁)
  · intro id r hr
    rw [hresources] at hr
    refine (h.owned id r hr).imp_left ?_
    rintro ⟨sid₁, s₁, h₁, hid₁⟩
    by_cases hid : sid₁ = sid
    · rw [hid, hs, Option.some.injEq] at h₁
      rw [← h₁, ← he.reservationId] at hid₁
      exact ⟨sid, s', hw.self, hid₁⟩
    · exact ⟨sid₁, s₁, (hw.other hid).trans h₁, hid₁⟩
  · rw [hresources]; exact h.guarded
  · rw [hresources]; exact h.exclusive
  · rw [hres.pending]; exact h.pending
  · intro sid₁ result hr
    rw [hres.results] at hr
    obtain ⟨s₁, h₁, hst⟩ := h.results sid₁ result hr
    refine hw.exists h₁ (fun hid => ?_) hst
    -- a session with a result has ended, so it was not the one edited
    rw [hid, hs, Option.some.injEq] at h₁
    have hlive := he.live.1
    rw [h₁] at hlive
    rcases hst with hst | hst <;> rw [hst] at hlive <;> cases hlive
  · intro id sid₁ t state hop
    rw [hops] at hop
    obtain ⟨s₁, h₁, hwait⟩ := h.started id sid₁ t state hop
    refine hw.exists h₁ (fun hid hst => ?_) hwait
    rw [hid, hs, Option.some.injEq] at h₁
    subst h₁
    cases he with
    | schedule l startAt hready hwl hmono =>
      have hstart := hmono t (hwait hready)
      rw [hstart] at hwl
      simpa using hwl
    | run _ _ hrun => rw [hrun] at hst; cases hst

variable {r : Reservation} {request : ReservationRequest}

section
variable (h : Good orphans c)
include h

theorem Good.finish (he : Ending sid s s' r c c') (hops : c'.operations = c.operations) : Good orphans c' := by
  obtain ⟨hs, hlive, hmap, hid, hsessions, hr, hrelease, hres, hpending⟩ := he
  have hfit : c.sessions.Fits sid s' := .inr ⟨s, hs, hmap⟩
  have hw := h.writes hfit hsessions
  have hended : s'.state = .canceled ∨ s'.state = .completed ∨ s'.state = .failed :=
    hres.elim (fun hc => .inl hc.1) (fun hc => .inr hc.1)
  have hnot : s'.state ≠ .testReady := by rcases hended with he | he | he <;> rw [he] <;> simp
  have hdead : cancelable s'.state = false := by rcases hended with he | he | he <;> rw [he] <;> rfl
  constructor
  · rw [hsessions]; exact h.apart.set hfit
  · refine hw.forall ⟨?_, ?_, fun hc => absurd hc hnot, fun hc => absurd hc hnot⟩ (fun sid₁ s₁ _ => h.shape sid₁ s₁)
    · rw [hid]; exact (h.shape sid s hs).reservation
    · rcases hended with he | he | he <;> rw [he] <;> simp [Rests]
  · have hself : Backed c'.resources s' := by
      refine ⟨{ r with state := .released }, ?_, by rw [hdead]; rfl⟩
      rw [hrelease.lookup, if_pos hid]
    refine hw.forall hself (fun sid₁ s₁ hne h₁ => ?_)
    obtain ⟨r₁, hr₁, hst₁⟩ := h.held sid₁ s₁ h₁
    refine ⟨r₁, ?_, hst₁⟩
    rw [hrelease.lookup, if_neg (fun heq => hne (h.reservationId_injective h₁ hs heq))]
    exact hr₁
  · intro id r₁ hr₁
    rcases hrelease.cases hr₁ with ⟨rfl, -⟩ | ⟨hid₁, hr₁⟩
    · exact .inl ⟨sid, s', hw.self, hid⟩
    · refine (h.owned id r₁ hr₁).imp_left ?_
      rintro ⟨sid₂, s₂, h₂, hid₂⟩
      have hne : sid₂ ≠ sid := by
        intro heq
        rw [heq, hs, Option.some.injEq] at h₂
        exact hid₁ (by rw [h₂]; exact hid₂.symm)
      exact ⟨sid₂, s₂, (hw.other hne).trans h₂, hid₂⟩
  · intro id r₁ hr₁
    rcases hrelease.cases hr₁ with ⟨-, rfl⟩ | ⟨-, hr₁⟩
    · exact h.guarded _ r hr
    · exact h.guarded id r₁ hr₁
  · exact h.exclusive.sets hrelease (fun hheld => by cases hheld)
  · exact hpending
  · intro sid₁ result hr₁
    rcases hres with ⟨-, hsame⟩ | ⟨hst', new, hsame⟩
    · rw [hsame] at hr₁
      obtain ⟨s₁, h₁, hst⟩ := h.results sid₁ result hr₁
      refine hw.exists h₁ (fun hid₁ => ?_) hst
      -- a canceled session was live, so it had no result
      rw [hid₁, hs, Option.some.injEq] at h₁
      rw [h₁] at hlive
      rcases hst with hst | hst <;> rw [hst] at hlive <;> cases hlive
    · rw [hsame] at hr₁
      rcases Table.lookup_put_cases hr₁ with ⟨rfl, -⟩ | ⟨-, hr₁⟩
      · exact ⟨s', hw.self, hst'⟩
      · obtain ⟨s₁, h₁, hst⟩ := h.results sid₁ result hr₁
        exact hw.exists h₁ (fun _ => hst') hst
  · intro id sid₁ t state hop
    rw [hops] at hop
    obtain ⟨s₁, h₁, hwait⟩ := h.started id sid₁ t state hop
    exact hw.exists h₁ (fun _ hst => absurd hst hnot) hwait

theorem Good.acquired (hclaims : Guarded request.claims) (hacq : Acquired request r c.resources c'.resources) :
    Exclusive c'.resources ∧ ∀ id r₁, c'.resources.reservations.lookup id = some r₁ → Guarded r₁.request.claims := by
  refine ⟨h.exclusive.acquired hacq, fun id r₁ hr₁ => ?_⟩
  rcases hacq.sets.cases hr₁ with ⟨-, rfl⟩ | ⟨-, hr₁⟩
  · rw [hacq.same]
    exact hclaims
  · exact h.guarded id r₁ hr₁

/-- A reservation that is acquired was there, active or not at all, so the sessions keep theirs. -/
theorem Good.held_acquired (hacq : Acquired request r c.resources c'.resources) (hs : c.session sid = some s) :
    Backed c'.resources s := by
  obtain ⟨r₁, hr₁, hst₁⟩ := h.held sid s hs
  by_cases hid : s.reservationId = request.reservationId
  · refine ⟨r, by rw [hacq.sets.lookup, if_pos hid], ?_⟩
    rw [hid] at hr₁
    rcases hacq.grounds with hgrant | ⟨old, hold, -, hst⟩
    · rw [hgrant.absent] at hr₁; cases hr₁
    · obtain rfl := Option.mem_unique hold hr₁
      rw [hacq.active]
      by_cases hc : cancelable s.state = true
      · rw [if_pos hc]
      · rw [if_neg hc] at hst₁
        rcases hst with hst | ⟨hst, -⟩ <;> rw [hst₁] at hst <;> cases hst
  · refine ⟨r₁, ?_, hst₁⟩
    rw [hacq.sets.lookup, if_neg hid]
    exact hr₁

theorem Good.enroll (he : Enrolling sid s r request c c') (hops : c'.operations = c.operations) : Good orphans c' := by
  obtain ⟨hnew, hshape, hstate, hid, hclaims, hsessions, hacq, hres⟩ := he
  have hfit : c.sessions.Fits sid s := .inl hnew
  have hw := h.writes hfit hsessions
  have hkeep : ∀ {sid₁ s₁}, c.session sid₁ = some s₁ → c'.session sid₁ = some s₁ := by
    intro sid₁ s₁ h₁
    have hne : sid₁ ≠ sid := fun heq => by rw [heq, hnew] at h₁; cases h₁
    exact (hw.other hne).trans h₁
  constructor
  · rw [hsessions]; exact h.apart.set hfit
  · exact hw.forall hshape (fun sid₁ s₁ _ => h.shape sid₁ s₁)
  · have hself : Backed c'.resources s := by
      refine ⟨r, by rw [hacq.sets.lookup, if_pos hid.symm], ?_⟩
      rw [hacq.active, hstate]
      rfl
    exact hw.forall hself (fun sid₁ s₁ _ h₁ => h.held_acquired hacq h₁)
  · intro id r₁ hr₁
    rcases hacq.sets.cases hr₁ with ⟨rfl, -⟩ | ⟨-, hr₁⟩
    · exact .inl ⟨sid, s, hw.self, hid.symm⟩
    · exact (h.owned id r₁ hr₁).imp_left (fun ⟨sid₁, s₁, h₁, hid₁⟩ => ⟨sid₁, s₁, hkeep h₁, hid₁⟩)
  · exact (h.acquired hclaims hacq).2
  · exact (h.acquired hclaims hacq).1
  · rw [hres.pending]; exact h.pending
  · intro sid₁ result hr₁
    rw [hres.results] at hr₁
    obtain ⟨s₁, h₁, hst⟩ := h.results sid₁ result hr₁
    exact ⟨s₁, hkeep h₁, hst⟩
  · intro id sid₁ t state hop
    rw [hops] at hop
    obtain ⟨s₁, h₁, hwait⟩ := h.started id sid₁ t state hop
    exact ⟨s₁, hkeep h₁, hwait⟩

theorem Good.orphan (ho : orphans) (hclaims : Guarded request.claims) (hsessions : c'.sessions = c.sessions)
    (hacq : Acquired request r c.resources c'.resources) (hres : SameResults c c')
    (hops : c'.operations = c.operations) : Good orphans c' := by
  have hsession := session_congr hsessions
  constructor
  · rw [hsessions]; exact h.apart
  · simpa only [hsession] using h.shape
  · intro sid₁ s₁ h₁
    rw [hsession] at h₁
    exact h.held_acquired hacq h₁
  · intro id r₁ hr₁
    rcases hacq.sets.cases hr₁ with ⟨-, rfl⟩ | ⟨-, hr₁⟩
    · exact .inr ⟨ho, hacq.active⟩
    · simpa only [hsession] using h.owned id r₁ hr₁
  · exact (h.acquired hclaims hacq).2
  · exact (h.acquired hclaims hacq).1
  · rw [hres.pending]; exact h.pending
  · simpa only [hsession, hres.results] using h.results
  · simpa only [hsession, hops] using h.started

/-- The invariant and the operation log: only a start record says something about a session. -/
theorem Good.logged {id : String} {record : OperationRecord}
    (hstart : ∀ sid t state, record = .start sid t state → ∃ s, c.session sid = some s ∧ s.lifecycle.Waits (some t)) :
    Good orphans (c.log id record) := by
  refine { h with started := fun id₁ sid₁ t state hop => ?_ }
  rcases Table.lookup_put_cases hop with ⟨-, heq⟩ | ⟨-, hold⟩
  · obtain ⟨s₁, h₁, hwait⟩ := hstart sid₁ t state heq.symm
    exact ⟨s₁, h₁, fun _ => hwait⟩
  · exact h.started id₁ sid₁ t state hold

/-- **Every effect keeps the invariant.** -/
theorem Good.effect (he : Effect orphans c c') (hl : Logs c c') : Good orphans c' := by
  -- the effect first, with the log as it was
  have hbefore : Good orphans { c' with operations := c.operations } := by
    cases he with
    | keep hsessions hresources hres => exact h.keep hsessions hresources ⟨hres.1, hres.2⟩ rfl
    | edit sid s s' hs he hsessions hresources hres => exact h.edit hs he hsessions hresources ⟨hres.1, hres.2⟩ rfl
    | finish sid s s' r he => exact h.finish { he with } rfl
    | enroll sid s r request he => exact h.enroll { he with results := ⟨he.results.1, he.results.2⟩ } rfl
    | orphan r request ho hclaims hsessions hacq hres =>
      exact h.orphan ho hclaims hsessions hacq ⟨hres.1, hres.2⟩ rfl
  cases hl with
  | keep hops => rw [← hops] at hbefore; exact hbefore
  | add id record hnew hops hstart =>
    have hlog : Good orphans (SessionCoordinator.log id record { c' with operations := c.operations }) :=
      hbefore.logged hstart
    unfold SessionCoordinator.log at hlog
    rw [← hops] at hlog
    exact hlog

end

end

end Node
end NetTool
