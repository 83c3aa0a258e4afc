import NetTool.Node.Atomic
import NetTool.Node.Idempotent
/-!
# Agent.Scheduler — which worker a scheduled session gets (`apps/agent/src/main.rs`)

At the scheduled start the agent tries the roles in turn: DPDK, both directions, receiver, sender.  The role is not kept
in the session; each attempt infers it from the fields that are set.  A UDP sender sets the fields of a session in both
directions, so the second attempt takes it.
-/
namespace NetTool
namespace Agent

open Prog Speed Node SpeedTestLifecycle Session

inductive PreparedSocketWorker
  | dpdk (plan : PreparedDpdkReceiver)
  | receiver (receiver : PreparedSocketReceiver)
  | sender (sender : PreparedSocketSender)
  | bidirectional (worker : PreparedSocketBidirectional)
  deriving DecidableEq

/-- `now_unix_nanoseconds` as each of the four attempts reads it. -/
structure Readings where
  dpdk : Nat
  bidirectional : Nat
  receiver : Nat
  sender : Nat

/-- The attempts of `spawn_scheduled_worker`, under one lock of the coordinator. -/
def scheduledWorker (sid : SessionId) (now : Readings) : Coord PreparedSocketWorker := do
  match ← attempt some (beginAndTakeDpdkReceiver sid now.dpdk) with
  | .ok worker => pure (.dpdk worker)
  | .error _ =>
    match ← attempt some (beginAndTakeBidirectional sid now.bidirectional) with
    | .ok worker => pure (.bidirectional worker)
    | .error _ =>
      match ← attempt some (beginAndTakeReceiver sid now.receiver) with
      | .ok receiver => pure (.receiver receiver)
      | .error _ => do
        let sender ← beginAndTakeSender sid now.sender
        pure (.sender sender)

variable {orphans : Prop} {c : SessionCoordinator} {sid : SessionId} {s : Session} {startAt : Nat} {now : Readings}

/-! ## What the attempts make of a session -/

/-- The first attempt that a session satisfies. -/
def worker (sid : SessionId) (s : Session) : Option PreparedSocketWorker :=
  match s.dpdkReceiver, s.bidirectional sid, s.receiver sid, s.sender sid with
  | some plan, _, _, _ => some (.dpdk plan)
  | none, some w, _, _ => some (.bidirectional w)
  | none, none, some w, _ => some (.receiver w)
  | none, none, none, some w => some (.sender w)
  | none, none, none, none => none

theorem worker_setLifecycle (l : SpeedTestLifecycle) : worker sid (s.setLifecycle l) = worker sid s := by
  cases s <;> rfl

/-- A waiting session has what one of the attempts asks for. -/
theorem worker_isSome (sid : SessionId) (h : s.Armed) : (worker sid s).isSome = true := by
  cases s with
  | tcp x =>
    rcases h with ⟨hl, hd, hc⟩ | ⟨hd, hc⟩ | ⟨hl, hd, hc⟩
    · obtain ⟨listener, hl⟩ := Option.isSome_iff_exists.1 hl
      simp [worker, dpdkReceiver, bidirectional, receiver, hl, hd]
    · obtain ⟨destination, hd⟩ := Option.isSome_iff_exists.1 hd
      -- with or without a listener, only the sender is left
      cases hl : x.listener <;>
        simp [worker, dpdkReceiver, bidirectional, receiver, sender, hl, hd, hc]
    · obtain ⟨listener, hl⟩ := Option.isSome_iff_exists.1 hl
      obtain ⟨destination, hd⟩ := Option.isSome_iff_exists.1 hd
      obtain ⟨run, hc⟩ := Option.isSome_iff_exists.1 hc
      simp [worker, dpdkReceiver, bidirectional, hl, hd, hc]
  | udp x =>
    obtain ⟨socket, hs⟩ := Option.isSome_iff_exists.1 h.1
    obtain ⟨port, hp⟩ := Option.isSome_iff_exists.1 h.2.1
    rcases h.2.2 with ⟨hd, hc⟩ | ⟨hd, hc⟩
    · simp [worker, dpdkReceiver, bidirectional, receiver, hs, hp, hd]
    · obtain ⟨destination, hd⟩ := Option.isSome_iff_exists.1 hd
      obtain ⟨config, hc⟩ := Option.isSome_iff_exists.1 hc
      simp [worker, dpdkReceiver, bidirectional, hs, hp, hd, hc]
  | dpdk x =>
    obtain ⟨plan, hp⟩ := Option.isSome_iff_exists.1 h
    simp [worker, dpdkReceiver, hp]

/-- Every reading is between the start and the end of the authorization. -/
def Readings.Within (now : Readings) (startAt expiresAt : Nat) : Prop :=
  ∀ t ∈ [now.dpdk, now.bidirectional, now.receiver, now.sender], startAt ≤ t ∧ t / nanosecondsPerSecond ≤ expiresAt

instance (startAt expiresAt : Nat) : Decidable (now.Within startAt expiresAt) :=
  inferInstanceAs (Decidable (∀ t ∈ [now.dpdk, now.bidirectional, now.receiver, now.sender], _))

/-- **The attempts on a session that begins hand out what it has, and leave it running.** -/
theorem wp_scheduledWorker (hg : Good orphans c) (hs : c.session sid = some s) (hready : s.state = .testReady)
    (hwaits : s.lifecycle.Waits (some startAt)) (hnow : now.Within startAt s.authorization.expiresAtUnixSeconds) :
    wp (scheduledWorker sid now) (fun w c' => worker sid s = some w ∧ Runs sid c c') (fun _ _ => False) c := by
  have hbegins : ∀ t ∈ [now.dpdk, now.bidirectional, now.receiver, now.sender], Begins c sid t s startAt :=
    fun t ht => ⟨hs, hready, hwaits, (hnow t ht).1, (hnow t ht).2⟩
  have harmed := (hg.shape sid s hs).armed hready
  apply wp_try (wp_beginAndTakeDpdkReceiver hg (hbegins now.dpdk (by simp)))
  · rintro plan c' ⟨hplan, hruns⟩
    exact ⟨by simp only [worker, hplan], hruns.begun.runs⟩
  rintro e c' ⟨hdpdk, rfl⟩
  have hboth := wp_beginAndTakeBidirectional hg (hbegins now.bidirectional (by simp))
  apply wp_try (wp_and hboth (beginAndTakeBidirectional_begun hg sid _))
  · rintro w c₁ ⟨hw, hruns⟩
    exact ⟨by simp only [worker, hdpdk, hw], hruns.begun.runs⟩
  rintro e c₁ ⟨⟨hnone, rfl⟩, -⟩
  have hreceiver := wp_beginAndTakeReceiver hg (hbegins now.receiver (by simp))
  apply wp_try (wp_and hreceiver (beginAndTakeReceiver_begun hg sid _))
  · rintro w c₂ ⟨hw, hruns⟩
    exact ⟨by simp only [worker, hdpdk, hnone, hw], hruns.begun.runs⟩
  rintro e c₂ ⟨⟨hnone', hstate⟩, -⟩
  have hc₂ : c₂ = c₁ := by
    rcases hstate with ⟨-, hsame⟩ | ⟨hisDpdk, -⟩
    · exact hsame
    · -- a DPDK session was handed out by the first attempt
      cases s with
      | dpdk x =>
        obtain ⟨plan, hplan⟩ := Option.isSome_iff_exists.1 harmed
        rw [show x.plan = none from hdpdk] at hplan
        cases hplan
      | _ => cases hisDpdk
  subst hc₂
  have hsender := wp_beginAndTakeSender hg (hbegins now.sender (by simp))
  apply wp_then (wp_and hsender (beginAndTakeSender_begun hg sid _))
  · rintro w c₃ ⟨hw, hruns⟩
    exact ⟨by simp only [worker, hdpdk, hnone, hnone', hw], hruns.begun.runs⟩
  · rintro e c₃ ⟨⟨hnone'', -⟩, -⟩
    have hsome := worker_isSome sid harmed
    simp only [worker, hdpdk, hnone, hnone', hnone''] at hsome
    cases hsome

/-! ## The worker of the prepared role -/

def sessionIdOf : Request → SessionId
  | .prepareTcp r => r.sessionId
  | .prepareTcpSender r => r.sessionId
  | .prepareTcpBidirectional r => r.sessionId
  | .prepareUdp r => r.sessionId
  | .prepareUdpSender r => r.sessionId
  | .prepareUdpBidirectional r => r.sessionId
  | .prepareDpdkReceiver r => r.sessionId
  | .start sid _ _ => sid
  | .stop sid _ => sid

def isPrepare : Request → Bool
  | .start _ _ _ | .stop _ _ => false
  | _ => true

/-- The worker a prepare asks for: its role, the socket it bound, its destination and its configuration. -/
def preparedWorker (os : Os) : Request → Option PreparedSocketWorker
  | .prepareTcp r => do
    let bound ← (bindSocket r.bindAddress os).toOption
    let tag ← (randomTag os).toOption
    pure (.receiver (.tcp ⟨bound.handle, r.bindAddress⟩ ⟨r.config.streams, r.sessionId, tag⟩))
  | .prepareTcpSender r => do
    let tag ← (randomTag os).toOption
    pure (.sender (.tcp ⟨r.config, r.sessionId, tag⟩ r.destination))
  | .prepareTcpBidirectional r => do
    let bound ← (bindSocket r.bindAddress os).toOption
    let tag ← (randomTag os).toOption
    pure (.bidirectional (.tcp ⟨bound.handle, r.bindAddress⟩ ⟨r.config.streams, r.sessionId, tag⟩
      ⟨r.config, r.sessionId, tag⟩ r.destination))
  | .prepareUdp r => do
    let bound ← (bindSocket r.bindAddress os).toOption
    let tag ← (randomTag os).toOption
    pure (.receiver (.udp ⟨bound.handle, r.bindAddress⟩
      ⟨r.sessionId, r.streamId, r.sourceAddress, r.maximumDatagramBytes, r.idleTimeoutMilliseconds, tag⟩))
  | .prepareUdpSender r => do
    let bound ← (bindSocket (.new r.sourceAddress 0) os).toOption
    let tag ← (randomTag os).toOption
    pure (.sender (.udp ⟨bound.handle, .new r.sourceAddress 0⟩
      ⟨r.sessionId, r.streamId, r.datagramBytes, r.measurementMilliseconds, r.targetBitsPerSecond, 32, tag⟩
      r.destination))
  | .prepareUdpBidirectional r => do
    let bound ← (bindSocket (.new r.bindAddress 0) os).toOption
    let tag ← (randomTag os).toOption
    pure (.bidirectional (.udp ⟨bound.handle, .new r.bindAddress 0⟩
      ⟨r.sessionId, r.streamId, r.sourceAddress, r.datagramBytes, 2000, tag⟩
      ⟨r.sessionId, r.streamId, r.datagramBytes, r.measurementMilliseconds, r.targetBitsPerSecond, 32, tag⟩
      r.destination))
  | .prepareDpdkReceiver r => some (.dpdk ⟨r.pciAddress, r.durationMilliseconds, r.remoteMacAddress⟩)
  | .start _ _ _ | .stop _ _ => none

/-- The address is an IP address and a port, without an IPv6 flow label or scope. -/
def Plain (address : SocketAddr) : Prop := .new address.ip address.port = address

/-- The prepares whose worker the attempts find. -/
def Dispatched : Request → Prop
  | .prepareUdpSender _ => False
  | .prepareUdp r => Plain r.sourceAddress
  | .prepareUdpBidirectional r => Plain r.sourceAddress
  | _ => True

/-- A session is kept for the request, and the attempts find the worker it asks for just when it is dispatched. -/
def Offers (os : Os) (r : Request) (c : SessionCoordinator) : Prop :=
  ∃ s w found, c.session (sessionIdOf r) = some s ∧ preparedWorker os r = some w ∧
    worker (sessionIdOf r) s = some found ∧ (found = w ↔ Dispatched r)

theorem prepare_offers {Endpoint Reply : Type} {p : Preparation Endpoint Reply} {r : Request} {os : Os} {now : Nat}
    (f : Reply → Response) (hg : Good orphans c) (hsid : p.sessionId = sessionIdOf r)
    (hfresh : c.operations.lookup p.operationId = none)
    (hoffer : ∀ expiresAt endpoint tag, p.endpoint os = .ok endpoint → randomTag os = .ok tag →
      ∃ w found, preparedWorker os r = some w ∧
        worker (sessionIdOf r) ((p.prepared expiresAt endpoint tag).session waiting) = some found ∧
        (found = w ↔ Dispatched r)) :
    wp (prepare p os now >>= fun a => pure (f a)) (fun _ => Offers os r) (fun _ _ => True) c := by
  refine wp_then (wp_prepare p os now c) ?_ (fun _ _ _ => trivial)
  rintro a c' (⟨-, record, hop, -⟩ | ⟨expiresAt, endpoint, tag, res, m, h⟩)
  · rw [hfresh] at hop; cases hop
  · obtain ⟨w, found, hw, hfound, hiff⟩ := hoffer expiresAt endpoint tag h.bound h.drawn
    refine ⟨_, w, found, ?_, hw, hfound, hiff⟩
    rw [← hsid]
    exact (h.writes hg).self

/-- **What a prepare leaves for the attempts to find.** -/
theorem answer_offers {r : Request} {os : Os} {now : Nat} (hg : Good orphans c) (hrole : isPrepare r = true)
    (hfresh : c.operations.lookup r.operationId = none) :
    wp (r.answer os now) (fun _ => Offers os r) (fun _ _ => True) c := by
  cases r with
  | prepareTcpSender r =>
    apply prepare_offers .tcp hg rfl hfresh
    intro expiresAt _ tag _ htag
    exact ⟨_, _, by simp only [preparedWorker, htag]; rfl, rfl, iff_of_true rfl trivial⟩
  | prepareTcp r
  | prepareTcpBidirectional r =>
    apply prepare_offers .tcp hg rfl hfresh
    intro expiresAt bound tag hbound htag
    have hbound : bindSocket r.bindAddress os = .ok bound := hbound
    exact ⟨_, _, by simp only [preparedWorker, hbound, htag]; rfl, rfl, iff_of_true rfl trivial⟩
  | prepareUdp r =>
    apply prepare_offers .udp hg rfl hfresh
    intro expiresAt bound tag hbound htag
    have hbound : bindSocket r.bindAddress os = .ok bound := hbound
    refine ⟨_, _, by simp only [preparedWorker, hbound, htag]; rfl, rfl, ?_⟩
    simp [Dispatched, Plain, UdpSession.receiverConfig, authorizationOf, sessionIdOf]
  | prepareUdpSender r =>
    apply prepare_offers .udp hg rfl hfresh
    intro expiresAt bound tag hbound htag
    have hbound : bindSocket (.new r.sourceAddress 0) os = .ok bound := hbound
    -- the fields that are set are those of a session in both directions
    exact ⟨_, _, by simp only [preparedWorker, hbound, htag]; rfl, rfl, iff_of_false (fun h => by cases h) id⟩
  | prepareUdpBidirectional r =>
    apply prepare_offers .udp hg rfl hfresh
    intro expiresAt bound tag hbound htag
    have hbound : bindSocket (.new r.bindAddress 0) os = .ok bound := hbound
    refine ⟨_, _, by simp only [preparedWorker, hbound, htag]; rfl, rfl, ?_⟩
    simp [Dispatched, Plain, UdpSession.receiverConfig, authorizationOf, sessionIdOf, udpBidirectionalSenderConfig]
  | prepareDpdkReceiver r =>
    refine (wp_bind _ _).2 (wp_mono (wp_prepareDpdkReceiver r os _ c) ?_ (fun _ _ _ => trivial))
    rintro a c' (⟨-, record, hop, -⟩ | ⟨expiresAt, tag, res, m, h⟩)
    · rw [show c.operations.lookup r.operationId = none from hfresh] at hop; cases hop
    · exact ⟨_, _, _, (h.writes hg).self, rfl, rfl, iff_of_true rfl trivial⟩
  | start sid id startAt => cases hrole
  | stop sid id => cases hrole

/-- **At the scheduled start a session gets the worker it was prepared for, unless it is a UDP sender or the UDP source
has an IPv6 flow label or scope.** -/
theorem scheduled_worker_iff_dispatched {ext : Externals} {c₀ c₁ c₂ c₃ c : SessionCoordinator} {r : Request} {os : Os}
    {response : Response} {operationId : String} {state : NodeConnectionState} {prepareTime startTime startAt : Nat}
    {s : Session} {now : Readings} (h : Reachable ext (fun _ => True) c₀) (hrole : isPrepare r = true)
    (hfresh : c₀.operations.lookup r.operationId = none) (hprepare : r.answer os prepareTime c₀ = (.ok response, c₁))
    (hbetween : Reach c₁ (step ext) (fun _ _ => True) c₂)
    (hstart : start (sessionIdOf r) operationId startAt startTime c₂ = (.ok state, c₃))
    (hafter : Reach c₃ (step ext) (fun _ _ => True) c)
    (hs : c.session (sessionIdOf r) = some s) (hready : s.state = .testReady)
    (hnow : now.Within startAt s.authorization.expiresAtUnixSeconds) :
    ∃ w, preparedWorker os r = some w ∧ ((scheduledWorker (sessionIdOf r) now c).1 = .ok w ↔ Dispatched r) := by
  have hg₀ : Good True c₀ := reachable_good h (fun _ _ _ => trivial)
  obtain ⟨s₁, w, found, hs₁, hw, hfound, hiff⟩ := wp_ok (answer_offers hg₀ hrole hfresh) hprepare
  obtain ⟨heffect₁, hlogs₁⟩ := (wp_ok (answer_replies hg₀ r os prepareTime) hprepare).acts hg₀ (fun _ => trivial)
  have hg₁ : Good True c₁ := hg₀.effect heffect₁ hlogs₁
  have hg₂ : Good True c₂ := reach_good hg₁ hbetween (fun _ _ _ _ => trivial)
  have hcall : Reach c₁ (step ext) (fun _ _ => True) c₃ := by
    have hstep : step ext c₂ (.request (.start (sessionIdOf r) operationId startAt) os startTime) = c₃ := by
      unfold step
      rw [Call.run, bind_pure_snd, Request.answer, bind_pure_snd, hstart]
    rw [← hstep]
    exact .step _ hbetween trivial
  have hg₃ : Good True c₃ := reach_good hg₁ hcall (fun _ _ _ _ => trivial)
  -- the start is in the log, so the session waits for it
  have hrecorded := wp_ok (start_recorded_of_ok hg₂ (sessionIdOf r) operationId startAt startTime) hstart
  have hg : Good True c := reach_good hg₃ hafter (fun _ _ _ _ => trivial)
  obtain ⟨s', hs', hwaits⟩ := hg.started operationId _ startAt state (recorded_stays hg₃ hrecorded hafter)
  obtain rfl := Option.mem_unique hs hs'
  -- and it is the session that was prepared, but for the lifecycle
  have hkept := waiting_kept hg₁ hs₁ (hcall.trans hafter) hs hready
  have hfound' : worker (sessionIdOf r) s = some found := by
    rw [hkept, worker_setLifecycle]
    exact hfound
  refine ⟨w, hw, ?_⟩
  rcases wp_cases (wp_scheduledWorker hg hs hready (hwaits hready) hnow) with
    ⟨a, c', hrun, hworker, -⟩ | ⟨_, _, _, hfalse⟩
  · rw [hfound', Option.some.injEq] at hworker
    rw [hrun, ← hiff, hworker]
    exact ⟨fun heq => Except.ok.inj heq, fun heq => congrArg Except.ok heq⟩
  · exact hfalse.elim

/-! A TCP receiver prepared and started. -/

def startCall : Coord NodeConnectionState := start (sampleId 1) "start-1" 2000000000 1000000000

def sampleScheduled : SessionCoordinator := (startCall sampleWaiting).2

def sampleSession : Session := (sampleScheduled.session (sampleId 1)).get (by decide)

def atStart : Readings := ⟨2000000000, 2000000001, 2000000002, 2000000003⟩

theorem scheduled_worker_iff_dispatched_sample :
    sampleScheduled.session (sampleId 1) = some sampleSession ∧
    ∃ w, preparedWorker sampleOs (.prepareTcp sampleTcp) = some w ∧
      ((scheduledWorker (sampleId 1) atStart sampleScheduled).1 = .ok w ↔ Dispatched (.prepareTcp sampleTcp)) := by
  have hs : sampleScheduled.session (sampleId 1) = some sampleSession := (Option.some_get _).symm
  have hnow : atStart.Within 2000000000 sampleSession.authorization.expiresAtUnixSeconds := by decide
  have hprepare : (Request.prepareTcp sampleTcp).answer sampleOs 0 .new =
      (.ok (.tcp ⟨sampleId 1, 40000, hexString (List.replicate 32 0xab), 30, .testReady⟩), sampleWaiting) :=
    Prod.ext (by decide) rfl
  have hstart : startCall sampleWaiting = (.ok .testReady, sampleScheduled) := Prod.ext (by decide) rfl
  have hnew : Reachable sampleExternals (fun _ => True) .new := .init
  exact ⟨hs, scheduled_worker_iff_dispatched hnew rfl rfl hprepare .init hstart .init hs (by decide) hnow⟩

def sampleUdpSender : PrepareUdpSenderRequest :=
  ⟨sampleId 4, "prepare-4", sampleId 9, .localhost, .v4 0x7f000001#32 5001, 1, 512, 1000, none, 30⟩

def udpSenderScheduled : SessionCoordinator :=
  [Call.request (.prepareUdpSender sampleUdpSender) sampleOs 0,
    .request (.start (sampleId 4) "start-4" 2000000000) sampleOs 1000000000].foldl (step sampleExternals) .new

/-- A UDP sender is handed out as a worker in both directions. -/
theorem udp_sender_runs_bidirectional :
    udpSenderScheduled.operations.lookup "start-4" = some (.start (sampleId 4) 2000000000 .testReady) ∧
    (udpSenderScheduled.session (sampleId 4)).map (fun s => (s.state, s.authorization.expiresAtUnixSeconds)) =
      some (.testReady, 30) ∧
    ∃ socket receiver sender destination,
      preparedWorker sampleOs (.prepareUdpSender sampleUdpSender) = some (.sender (.udp socket sender destination)) ∧
      (scheduledWorker (sampleId 4) atStart udpSenderScheduled).1 =
        .ok (.bidirectional (.udp socket receiver sender destination)) :=
  ⟨by decide, by decide, _, _, _, _, rfl, rfl⟩

end Agent
end NetTool
