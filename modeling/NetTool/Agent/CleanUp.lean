import NetTool.Agent.SpeedRun
/-!
# Agent.CleanUp — what a failed run leaves at the Node

Once the Node has prepared a session, a run that fails before it has the result owes the Node a `StopTest`.  The
executors send it by hand at each of their failures, and miss some: a clock at its end, and the engines of a run in both
directions.  Nor is it sent when no request ID can be drawn for it.  Those are all (`cleans_up_iff`), whatever the Node
answers.  A run whose session the storage does not mark as running never returns.
-/
namespace NetTool
namespace Agent

open Prog Speed Node

/-! ## The property -/

section
variable {σ : Type}

/-- A `StopTest` for the session was written to the stream; whether it arrives is not the Agent's. -/
def Stopped (sid : SessionId) (w : World σ) : Prop :=
  ∃ envelope operationId, .sent envelope ∈ w.events ∧ envelope.message = some (.stopTest ⟨sid.1, operationId⟩)

def Received (sid : SessionId) (w : World σ) : Prop := ∃ result, .received result ∈ w.events ∧ result.sessionId = sid.1

/-- A run that returns an error has stopped the session it prepared, or has its result. -/
def CleansUp (env : Surroundings) (build : Build) (ext : Externals) (link : Link σ) (peer : σ)
    (request : SpeedRunRequest) : Prop :=
  ∀ error w, executeSpeed env build ext link request ⟨peer, []⟩ = (.error (.returned error), w) →
    ∀ prepared, .accepted prepared ∈ w.events → ¬ Received prepared.sessionId w → Stopped prepared.sessionId w

end

/-- No failure of the run's surroundings falls between the places that stop the session. -/
structure Covered (env : Surroundings) (ready : Ready) (prepared : PreparedRemoteSpeedSession) : Prop where
  clock : env.now + startDelayNanoseconds < 2 ^ 64
  stop : ∃ id, env.stopId = .ok id
  engines : ready.request.direction = .bidirectional → (∃ id, env.startId = .ok id) →
    ∀ config ∈ localConfigs ready.request prepared ready.address, ∃ value, env.engine config = .ok value

/-- The storage marks no session, or the surroundings are covered for every session a Node can get the run to accept. -/
def Guarded (env : Surroundings) (request : SpeedRunRequest) : Prop :=
  env.markRunning = .ok () → ∀ ready, setUp env request = .ok ready → (∃ id, env.capabilitiesId = .ok id) →
    (∃ id, env.prepareId = .ok id) →
    ∀ prepared, Obtainable ready.request ready.operationId ready.sessionId ready.ports prepared →
      Covered env ready prepared

/-! ## Events -/

section
variable {σ α : Type} {w : World σ} {event : RunEvent}

theorem mem_add {e : RunEvent} : e ∈ (w.add event).events ↔ e = event ∨ e ∈ w.events := List.mem_cons

variable {E : NetToolError → World σ → Prop}

@[simp] theorem wp_note {Q : Unit → World σ → Prop} :
    wp (note event) Q E w ↔ Q () (w.add event) := Iff.rfl

@[simp] theorem wp_orTerminate {step : RunM σ α} {Q : α → World σ → Prop} :
    wp (orTerminate step) Q E w ↔ wp step Q (fun e w' => E e (w'.add (.terminated e))) w := by
  unfold orTerminate
  rw [wp_bind, wp_attempt_some]
  rfl

/-- What does not look at the Node holds after a message once it holds with the message noted. -/
theorem wp_logged {link : Link σ} {envelope : Envelope} {R : World σ → Prop}
    (h : ∀ peer, R { w.add (.sent envelope) with peer := peer }) :
    wp (logged link envelope) (fun _ => R) (fun _ => R) w := by
  unfold logged
  rw [wp_bind, wp_note, wp_zoom]
  have hlink : wp (link envelope) (fun _ _ => True) (fun _ _ => True) w.peer := wp_of_state (P := fun _ => True) trivial
  exact wp_mono hlink (fun _ peer _ => h peer) (fun _ peer _ => h peer)

/-- Every session the run accepted is one of these. -/
def Accepts (P : PreparedRemoteSpeedSession → Prop) (w : World σ) : Prop :=
  ∀ prepared, .accepted prepared ∈ w.events → P prepared

variable {P : PreparedRemoteSpeedSession → Prop}

theorem Accepts.add (h : Accepts P w) (hevent : ∀ prepared, event = .accepted prepared → P prepared) :
    Accepts P (w.add event) := by
  intro prepared hmem
  rcases mem_add.1 hmem with heq | hmem
  · exact hevent prepared heq.symm
  · exact h prepared hmem

theorem Stopped.add {sid : SessionId} (h : Stopped sid w) : Stopped sid (w.add event) := by
  obtain ⟨envelope, operationId, hmem, hmessage⟩ := h
  exact ⟨envelope, operationId, mem_add.2 (.inr hmem), hmessage⟩

theorem Received.add {sid : SessionId} (h : Received sid w) : Received sid (w.add event) := by
  obtain ⟨result, hmem, hsid⟩ := h
  exact ⟨result, mem_add.2 (.inr hmem), hsid⟩

theorem logged_keeps (link : Link σ) (envelope : Envelope) :
    Prog.Keeps (Accepts P) (fun _ => False) (logged link envelope) := by
  intro w h
  have hadd : ∀ peer : σ, Accepts P { w.add (.sent envelope) with peer := peer } :=
    fun _ => h.add (fun _ heq => by cases heq)
  exact wp_mono (wp_logged hadd) (fun _ _ h => h) (fun _ _ h => .inr h)

/-- The run accepted this session only, and stopped it or has its result. -/
def Cleaned (prepared : PreparedRemoteSpeedSession) (w : World σ) : Prop :=
  Accepts (· = prepared) w ∧ (Stopped prepared.sessionId w ∨ Received prepared.sessionId w)

variable {prepared : PreparedRemoteSpeedSession}

theorem Cleaned.terminate (h : Cleaned prepared w) (error : NetToolError) :
    Cleaned prepared (w.add (.terminated error)) :=
  ⟨h.1.add (fun _ heq => by cases heq), h.2.imp Stopped.add Received.add⟩

end

/-! ## The set-up -/

/-- What the executors find bound. -/
structure Attached (ready : Ready) : Prop where
  notRaw : ready.request.protocol ≠ .raw
  udpSocket : ready.endpoints.udpSocket = (ready.request.protocol == .udp)
  tcpListener : ready.endpoints.tcpListener =
    (ready.request.protocol == .tcp && Direction.receives ready.request.direction)

section
variable {env : Surroundings} {request : SpeedRunRequest} {ready : Ready}

/-- Raw Ethernet asks for DPDK, and every accelerated backend is refused. -/
theorem not_raw (hvalid : request.validate = .ok ()) (hbackend : validateAcceleratedBackend env request = .ok ()) :
    request.protocol ≠ .raw := by
  intro hraw
  have hid : AcceleratedBackend.fromId request.backend = some .dpdk := by
    rw [SpeedRunRequest.validateProtocol_raw hraw (SpeedRunRequest.validate_ok.1 hvalid).protocol]
    rfl
  unfold validateAcceleratedBackend at hbackend
  rw [hid] at hbackend
  by_cases hbuilt : env.agent.dpdkBuilt
  · rw [if_pos hbuilt] at hbackend
    cases hbackend
  · rw [if_neg hbuilt] at hbackend
    cases hbackend

theorem setUp_attached (h : setUp env request = .ok ready) : Attached ready := by
  unfold setUp at h
  simp only [Check.bind_ok] at h
  obtain ⟨_, -, request', -, _, hvalid, _, -, node, -, h⟩ := h
  cases node with
  | none => cases h
  | some _ =>
    simp only [Check.bind_ok, Check.pure_ok] at h
    obtain ⟨_, hbackend, ⟨client, address⟩, -, endpoints, hendpoints, sid, -, _, -, rfl⟩ := h
    unfold bindLocalSpeedEndpoints at hendpoints
    simp only [Check.bind_ok, Check.pure_ok] at hendpoints
    obtain ⟨_, -, _, -, _, -, _, -, rfl⟩ := hendpoints
    exact ⟨not_raw hvalid hbackend, rfl, rfl⟩

variable {prepared : PreparedRemoteSpeedSession}

theorem checkDownloadEndpoints_ok (h : Attached ready) (hdown : ready.request.direction = .download) :
    checkDownloadEndpoints ready = .ok () := by
  have hudp := h.udpSocket
  have htcp := h.tcpListener
  unfold checkDownloadEndpoints
  rw [hdown] at htcp
  cases hprotocol : ready.request.protocol with
  | raw => exact absurd hprotocol h.notRaw
  | tcp =>
    rw [hprotocol] at htcp
    simp [htcp, Direction.receives]
  | udp =>
    rw [hprotocol] at hudp
    simp [hudp]

theorem runBothWays_ok (h : Attached ready) (hboth : ready.request.direction = .bidirectional) :
    (∃ value, runBothWays env ready prepared = .ok value) ↔
      ∀ config ∈ localConfigs ready.request prepared ready.address, ∃ value, env.engine config = .ok value := by
  have hudp := h.udpSocket
  have htcp := h.tcpListener
  unfold runBothWays localConfigs
  rw [hboth] at htcp ⊢
  cases hprotocol : ready.request.protocol with
  | raw => exact absurd hprotocol h.notRaw
  | tcp =>
    have hlistener : ready.endpoints.tcpListener = true := by rw [htcp, hprotocol]; rfl
    simp only [hlistener, if_true, List.forall_mem_cons, List.not_mem_nil, false_implies, implies_true, and_true]
    exact Check.both_ok _ _ _
  | udp =>
    have hsocket : ready.endpoints.udpSocket = true := by rw [hudp, hprotocol]; rfl
    simp only [hsocket, if_true, List.forall_mem_cons, List.not_mem_nil, false_implies, implies_true, and_true]
    exact Check.both_ok _ _ _

theorem operationId_visible (ready : Ready) (text : String) : trimIsEmpty (ready.operationId ++ text) = false := by
  have hspeed : trimIsEmpty "speed-" = false := by decide
  exact trimIsEmpty_append (trimIsEmpty_append hspeed)

end

/-! ## A covered run cleans up -/

section
variable {σ α : Type} {env : Surroundings} {build : Build} {ext : Externals} {link : Link σ} {ready : Ready}
  {prepared : PreparedRemoteSpeedSession} {w : World σ}

/-- **A step that fails under `orStop` leaves a stop behind.** -/
theorem wp_orStop (hstop : ∃ id, env.stopId = .ok id) {step : RunM σ α} {Q : α → World σ → Prop}
    (h : wp step Q (fun _ => Accepts (· = prepared)) w) :
    wp (orStop env build link ready prepared step) Q (fun _ => Cleaned prepared) w := by
  apply wp_try h
  · exact fun _ _ hq => hq
  · intro error w' h'
    obtain ⟨stopId, hstop⟩ := hstop
    unfold stopRemote
    rw [hstop, wp_bind, wp_bind, wp_attempt_some]
    apply PreparedRemoteSpeedSession.wp_stop (operationId_visible ready "-stop") (fun _ h => by cases h)
    intro id _
    apply wp_logged
    intro peer
    exact ⟨h'.add (fun _ heq => by cases heq), .inl ⟨_, _, mem_add.2 (.inl rfl), rfl⟩⟩

theorem wp_startRemote (hcovered : Covered env ready prepared) (h : Accepts (· = prepared) w) :
    wp (startRemote env build link ready prepared)
      (fun _ w' => Accepts (· = prepared) w' ∧ ∃ id, env.startId = .ok id) (fun _ => Cleaned prepared) w := by
  have hclock : checkedAdd env.now startDelayNanoseconds = some (env.now + startDelayNanoseconds) :=
    if_pos hcovered.clock
  apply wp_ofOption_some hclock
  apply wp_orStop hcovered.stop
  apply PreparedRemoteSpeedSession.wp_start (fun _ => h)
  · intro id hid
    exact wp_mono ((logged_keeps link _).always h) (fun _ _ h => ⟨h, id, hid⟩) (fun _ _ h => h)
  · exact fun _ _ h => h.1

/-- The loop, by induction on the number of polls left. -/
theorem wp_waitForRemoteResult (polls : Nat) : ∀ w : World σ, Accepts (· = prepared) w →
    wp (waitForRemoteResult env build ext link ready prepared polls)
      (fun result w' => Accepts (· = prepared) w' ∧ result.sessionId = prepared.sessionId.1)
      (fun _ => Accepts (· = prepared)) w := by
  induction polls with
  | zero => exact fun w h => PreparedRemoteSpeedSession.wp_result ext (logged_keeps link) h
  | succ polls ih =>
    intro w h
    apply wp_try (PreparedRemoteSpeedSession.wp_result ext (logged_keeps link) h)
    · exact fun _ _ h => h
    · intro error w' h'
      rw [wp_ite]
      exact ⟨fun _ => ih w' h', fun _ => h'⟩

section
variable (h : Accepts (· = prepared) w)
include h

theorem wp_remoteResult_then (hstop : ∃ id, env.stopId = .ok id) (message : String) (report : Json → Json) :
    wp (do let result ← remoteResult env build ext link ready prepared
           let remote ← ofExcept (parseRemote ext message result)
           pure (report remote)) (fun _ => Cleaned prepared) (fun _ => Cleaned prepared) w := by
  rw [wp_bind]
  unfold remoteResult
  refine wp_seq (wp_orStop hstop (wp_waitForRemoteResult env.polls w h)) ?_
  rintro result w' ⟨h', hsid⟩
  have hcleaned : Cleaned prepared (w'.add (.received result)) :=
    ⟨h'.add (fun _ heq => by cases heq), .inr ⟨result, mem_add.2 (.inl rfl), hsid⟩⟩
  show wp (ofExcept (parseRemote ext message result) >>= fun remote => pure (report remote)) _ _
    (w'.add (.received result))
  rw [wp_bind, wp_ofExcept]
  exact ⟨fun _ _ => hcleaned, fun _ _ => hcleaned⟩

theorem wp_executePrepared (hattached : Attached ready) (hcovered : Covered env ready prepared) :
    wp (executePrepared env build ext link ready prepared) (fun _ => Cleaned prepared)
      (fun _ => Cleaned prepared) w := by
  -- an engine under `orStop`, then the end of the executor
  have hengine : ∀ (engine : Result Json) (message : String) (report : Json → Json → Json) (w' : World σ),
      Accepts (· = prepared) w' →
      wp (do let value ← orStop env build link ready prepared (ofExcept engine)
             let result ← remoteResult env build ext link ready prepared
             let remote ← ofExcept (parseRemote ext message result)
             pure (report value remote)) (fun _ => Cleaned prepared) (fun _ => Cleaned prepared) w' := by
    intro engine message report w' h'
    rw [wp_bind]
    apply wp_orStop hcovered.stop
    rw [wp_ofExcept]
    exact ⟨fun value _ => wp_remoteResult_then h' hcovered.stop message (report value), fun _ _ => h'⟩
  unfold executePrepared
  cases hdirection : ready.request.direction with
  | upload =>
    show wp (executePreparedUpload env build ext link ready prepared) _ _ w
    unfold executePreparedUpload
    refine wp_seq (wp_startRemote hcovered h) ?_
    exact fun _ w' h' => hengine _ _ (oneWayReport prepared) w' h'.1
  | download =>
    show wp (executePreparedDownload env build ext link ready prepared) _ _ w
    unfold executePreparedDownload
    apply wp_check_ok (checkDownloadEndpoints_ok hattached hdirection)
    refine wp_seq (wp_startRemote hcovered h) ?_
    exact fun _ w' h' => hengine _ _ (fun receiver sender => oneWayReport prepared sender receiver) w' h'.1
  | bidirectional =>
    show wp (executePreparedBidirectional env build ext link ready prepared) _ _ w
    unfold executePreparedBidirectional
    refine wp_seq (wp_startRemote hcovered h) ?_
    rintro _ w' ⟨h', hstart⟩
    obtain ⟨both, hboth⟩ := (runBothWays_ok hattached hdirection).2 (hcovered.engines hdirection hstart)
    exact wp_check_ok hboth (wp_remoteResult_then h' hcovered.stop _ _)

theorem wp_runPrepared (hattached : Attached ready) (hcovered : env.markRunning = .ok () → Covered env ready prepared) :
    wp (runPrepared env build ext link ready prepared) (fun _ _ => True)
      (fun stop w' => stop = .blocked ∨ Cleaned prepared w') w := by
  unfold runPrepared
  cases hmark : env.markRunning with
  | error _ => exact .inl rfl
  | ok _ =>
    rw [wp_mapError, wp_bind, wp_orTerminate]
    apply wp_mono (wp_executePrepared h hattached (hcovered hmark))
    · intro value w' h'
      rw [wp_bind, wp_ofExcept]
      exact ⟨fun _ _ => trivial, fun _ _ => .inr h'⟩
    · exact fun error _ h' => .inr (h'.terminate error)

end

/-- **Whatever the Node answers, a guarded run cleans up.** -/
theorem executeSpeed_cleansUp {request : SpeedRunRequest} (hguarded : Guarded env request) (peer : σ) :
    CleansUp env build ext link peer request := by
  have hrun : wp (executeSpeed env build ext link request) (fun _ _ => True)
      (fun stop w => stop = .blocked ∨ ∀ prepared, .accepted prepared ∈ w.events →
        Stopped prepared.sessionId w ∨ Received prepared.sessionId w) ⟨peer, []⟩ := by
    have hnone : Accepts (fun _ => False) (⟨peer, []⟩ : World σ) := fun _ hmem => by cases hmem
    unfold executeSpeed
    rw [wp_bind, wp_mapError]
    refine wp_check (fun ready hready => ?_) (fun _ _ => .inr fun prepared hmem => absurd hmem (hnone prepared))
    have hkeeps := (prepareRemoteSpeedSession_keeps ready.client build env.capabilitiesId env.prepareId ready.request
      ready.operationId ready.sessionId ready.ports (logged_keeps link)).always hnone
    rw [wp_bind, wp_orTerminate]
    apply wp_mono (wp_and hkeeps (wp_prepareRemoteSpeedSession _ _ _ _ _ _ _ _ _))
    · rintro prepared w ⟨hnone, hcapabilities, hprepare, hobtained⟩
      have hcovered := fun hmark => hguarded hmark ready hready hcapabilities hprepare prepared hobtained
      have honly : Accepts (· = prepared) (w.add (.accepted prepared)) := by
        intro other hmem
        rcases mem_add.1 hmem with heq | hmem
        · cases heq
          rfl
        · exact absurd hmem (hnone other)
      apply wp_mono (wp_runPrepared honly (setUp_attached hready) hcovered)
      · exact fun _ _ _ => trivial
      · rintro _ w' (hblocked | ⟨honly, hclean⟩)
        · exact .inl hblocked
        · exact .inr fun other hmem => honly other hmem ▸ hclean
    · rintro error w ⟨hnone, -⟩
      have hnone' : Accepts (fun _ => False) (w.add (.terminated error)) := hnone.add (fun _ heq => by cases heq)
      exact .inr fun prepared hmem => absurd hmem (hnone' prepared)
  intro error w herror prepared hmem hreceived
  rcases wp_error hrun herror with hblocked | hclean
  · cases hblocked
  · exact (hclean prepared hmem).resolve_right hreceived

end

/-! ## A run that is not guarded is left by some Node -/

/-- The session was accepted; it is neither stopped nor finished. -/
structure Abandoned {σ : Type} (prepared : PreparedRemoteSpeedSession) (w : World σ) : Prop where
  accepted : .accepted prepared ∈ w.events
  unstopped : ¬ Stopped prepared.sessionId w
  unfinished : ¬ Received prepared.sessionId w

/-- The program fails, and the session is left. -/
def Abandons {σ α : Type} (prepared : PreparedRemoteSpeedSession) (program : RunM σ α) (w : World σ) : Prop :=
  wp program (fun _ _ => False) (fun _ => Abandoned prepared) w

section
variable {σ : Type} {env : Surroundings} {build : Build} {ext : Externals} {link : Link σ} {ready : Ready}
  {prepared : PreparedRemoteSpeedSession} {w : World σ}

section
variable (h : Abandoned prepared w)
include h

theorem Abandoned.add {event : RunEvent} (hstop : ∀ envelope operationId, event = .sent envelope →
      envelope.message ≠ some (.stopTest ⟨prepared.sessionId.1, operationId⟩))
    (hresult : ∀ result, event ≠ .received result) : Abandoned prepared (w.add event) := by
  refine ⟨mem_add.2 (.inr h.accepted), ?_, ?_⟩
  · rintro ⟨envelope, operationId, hmem, hmessage⟩
    rcases mem_add.1 hmem with heq | hmem
    · exact hstop envelope operationId heq.symm hmessage
    · exact h.unstopped ⟨envelope, operationId, hmem, hmessage⟩
  · rintro ⟨result, hmem, hsid⟩
    rcases mem_add.1 hmem with heq | hmem
    · exact hresult result heq.symm
    · exact h.unfinished ⟨result, hmem, hsid⟩

theorem Abandoned.terminate (error : NetToolError) : Abandoned prepared (w.add (.terminated error)) :=
  h.add (fun _ _ heq => by cases heq) (fun _ heq => by cases heq)

theorem Abandoned.startSent (id : Bytes 16) (start : StartTest) :
    Abandoned prepared (w.add (.sent (ready.client.envelope build id (.startTest start)))) :=
  h.add (fun _ _ heq hmessage => by cases heq; cases hmessage) (fun _ heq => by cases heq)

theorem executePrepared_unstarted (hstart : Abandons prepared (startRemote env build link ready prepared) w) :
    Abandons prepared (executePrepared env build ext link ready prepared) w := by
  have hrest : ∀ rest : Unit → RunM σ Json,
      Abandons prepared (startRemote env build link ready prepared >>= rest) w := by
    intro rest
    exact wp_seq hstart (fun _ _ => False.elim)
  unfold executePrepared
  cases ready.request.direction with
  | upload => exact hrest _
  | bidirectional => exact hrest _
  | download =>
    show wp (executePreparedDownload env build ext link ready prepared) _ _ w
    unfold executePreparedDownload
    rw [wp_bind, wp_ofExcept]
    exact ⟨fun _ _ => hrest _, fun _ _ => h⟩

end

theorem runPrepared_abandons (hmark : env.markRunning = .ok ())
    (hexecute : Abandons prepared (executePrepared env build ext link ready prepared) w) :
    wp (runPrepared env build ext link ready prepared) (fun _ _ => False)
      (fun stop w' => (∃ error, stop = .returned error) ∧ Abandoned prepared w') w := by
  unfold runPrepared
  rw [hmark]
  rw [wp_mapError, wp_bind, wp_orTerminate]
  exact wp_mono hexecute (fun _ _ => False.elim)
    (fun error _ h' => ⟨⟨error, rfl⟩, h'.terminate error⟩)

end

/-! ## Two Nodes -/

/-- A Node that prepares the session and then starts it or not. -/
def scriptedNode (build : Build) (capabilities : List CapabilityMessage) (response : PrepareTestResponse)
    (starts : Bool) : Link Unit := fun envelope =>
  let answer (message : ControlMessage) : Prog Unit NetToolError Envelope :=
    pure ⟨build.major, 0, envelope.requestId, some message⟩
  match envelope.message with
  | some .capabilityRequest => answer (.capabilityResponse capabilities)
  | some (.prepareTest _) => answer (.prepareTestResponse response)
  | some (.startTest start) =>
    if starts then answer (.testStatus ⟨start.sessionId, statusRunning⟩)
      else fail (protocol "the session does not start")
  | _ => fail (protocol "not in the script")

section
variable {env : Surroundings} {build : Build} {ext : Externals} {request : SpeedRunRequest} {ready : Ready}
  {prepared : PreparedRemoteSpeedSession} {capabilities : List CapabilityMessage} {plan : SpeedSessionPlan}
  {response : PrepareTestResponse} {starts : Bool} {w : World Unit} {id id₁ id₂ : Bytes 16}

/-- An exchange with a Node that answers under the request's own ID. -/
theorem exchange_answered {client : NodeControlClient} {link : Link Unit} {message answer : ControlMessage}
    (h : ∀ s, link (client.envelope build id message) s = (.ok ⟨build.major, 0, id.1, some answer⟩, s))
    (hanswer : ∀ error, answer ≠ .error error) :
    client.exchange build (logged link) (.ok id) message w =
      (.ok answer, w.add (.sent (client.envelope build id message))) := by
  refine client.exchange_ok ?_ (Nat.zero_le _) hanswer
  have hnote : note (.sent (client.envelope build id message)) w =
    (.ok (), w.add (.sent (client.envelope build id message))) := rfl
  rw [logged, bind_of_ok hnote, zoom, h]

theorem orTerminate_of_ok {α : Type} {step : RunM Unit α} {a : α} {w w' : World Unit}
    (h : step w = (.ok a, w')) : orTerminate step w = (.ok a, w') := by
  have hattempt : attempt some step w = (.ok (.ok a), w') := by
    unfold attempt
    rw [h]
  unfold orTerminate
  rw [bind_of_ok hattempt]
  rfl

section
variable (hready : setUp env request = .ok ready) (hcapabilities : env.capabilitiesId = .ok id₁)
  (hprepare : env.prepareId = .ok id₂)
  (hplan : planSpeedSession ready.request ready.operationId ready.sessionId ready.ports capabilities = .ok plan)
  (haccept : acceptPrepared ready.request ready.sessionId plan response = .ok prepared)
include hready hcapabilities hprepare hplan haccept

theorem executeSpeed_accepts :
    executeSpeed env build ext (scriptedNode build capabilities response starts) request ⟨(), []⟩ =
      runPrepared env build ext (scriptedNode build capabilities response starts) ready prepared
        ⟨(), [.accepted prepared, .sent (ready.client.envelope build id₂ (.prepareTest plan.prepare)),
          .sent (ready.client.envelope build id₁ .capabilityRequest)]⟩ := by
  have hfirst : ∀ w : World Unit, ready.client.capabilities build
      (logged (scriptedNode build capabilities response starts)) (.ok id₁) w =
        (.ok capabilities, w.add (.sent (ready.client.envelope build id₁ .capabilityRequest))) := by
    intro w
    unfold NodeControlClient.capabilities
    rw [bind_of_ok (exchange_answered (fun _ => rfl) (fun _ heq => by cases heq))]
    rfl
  have hsecond : ∀ w : World Unit, ready.client.prepareTest build
      (logged (scriptedNode build capabilities response starts)) (.ok id₂) plan.prepare w =
        (.ok response, w.add (.sent (ready.client.envelope build id₂ (.prepareTest plan.prepare)))) := by
    intro w
    unfold NodeControlClient.prepareTest
    rw [bind_of_ok (exchange_answered (fun _ => rfl) (fun _ heq => by cases heq))]
    rfl
  have hprepared :
    prepareRemoteSpeedSession ready.client build (logged (scriptedNode build capabilities response starts))
      env.capabilitiesId env.prepareId ready.request ready.operationId ready.sessionId ready.ports ⟨(), []⟩ =
        (.ok prepared, ⟨(), [.sent (ready.client.envelope build id₂ (.prepareTest plan.prepare)),
          .sent (ready.client.envelope build id₁ .capabilityRequest)]⟩) := by
    unfold prepareRemoteSpeedSession
    rw [hcapabilities, hprepare, bind_of_ok (hfirst _), hplan]
    show (ready.client.prepareTest build _ _ plan.prepare >>= _) _ = _
    rw [bind_of_ok (hsecond _), haccept]
    rfl
  unfold executeSpeed
  refine bind_of_ok (a := (ready, prepared)) (mapError_of_ok ?_) _
  rw [hready]
  show (orTerminate (prepareRemoteSpeedSession ready.client build _ _ _ _ _ _ _) >>= _) _ = _
  rw [bind_of_ok (orTerminate_of_ok hprepared)]
  rfl

theorem not_cleansUp (hmark : env.markRunning = .ok ()) (habandons : ∀ w, Abandoned prepared w →
      Abandons prepared (executePrepared env build ext (scriptedNode build capabilities response starts) ready
        prepared) w) :
    ¬ CleansUp env build ext (scriptedNode build capabilities response starts) () request := by
  intro hclean
  have hprepared : Abandoned prepared (⟨(), [.accepted prepared,
      .sent (ready.client.envelope build id₂ (.prepareTest plan.prepare)),
      .sent (ready.client.envelope build id₁ .capabilityRequest)]⟩ : World Unit) := by
    refine ⟨List.mem_cons_self, ?_, ?_⟩
    · rintro ⟨envelope, operationId, hmem, hmessage⟩
      simp only [List.mem_cons, reduceCtorEq, RunEvent.sent.injEq, List.not_mem_nil, or_false, false_or] at hmem
      rcases hmem with rfl | rfl <;> cases hmessage
    · rintro ⟨result, hmem, -⟩
      simp at hmem
  rcases wp_cases (runPrepared_abandons hmark (habandons _ hprepared)) with
    ⟨_, _, -, hfalse⟩ | ⟨_, w, hrun, ⟨error, rfl⟩, hleft⟩
  · exact hfalse
  · rw [← executeSpeed_accepts hready hcapabilities hprepare hplan haccept] at hrun
    exact hleft.unstopped (hclean error w hrun prepared hleft.accepted hleft.unfinished)

end

/-- The Node does not start the session, and there is no request ID for the stop. -/
theorem startRemote_refused {text : String} (hstop : env.stopId = .error text) (h : Abandoned prepared w) :
    Abandons prepared (startRemote env build (scriptedNode build capabilities response false) ready prepared) w := by
  unfold Abandons startRemote
  rw [wp_bind, wp_ofOption]
  refine ⟨fun startAt _ => ?_, fun _ => h⟩
  have hrefused : Abandons prepared (prepared.start ready.client build
      (logged (scriptedNode build capabilities response false)) env.startId (ready.operationId ++ "-start")
        startAt) w := by
    apply PreparedRemoteSpeedSession.wp_start (fun _ => h)
    · intro id _
      exact h.startSent id _
    · exact fun _ _ => False.elim
  apply wp_try hrefused (fun _ _ => False.elim)
  intro error w' h'
  unfold stopRemote
  rw [hstop, wp_bind, wp_bind, wp_attempt_some]
  exact PreparedRemoteSpeedSession.wp_stop (operationId_visible ready "-stop") (fun _ _ => h')
    (fun _ hok => by cases hok)

theorem startRemote_started (hclock : env.now + startDelayNanoseconds < 2 ^ 64) (hstart : env.startId = .ok id)
    (h : Abandoned prepared w) :
    wp (startRemote env build (scriptedNode build capabilities response true) ready prepared)
      (fun _ => Abandoned prepared) (fun _ _ => False) w := by
  have hsome : checkedAdd env.now startDelayNanoseconds = some (env.now + startDelayNanoseconds) := if_pos hclock
  have hlater : env.now + startDelayNanoseconds ≠ 0 := by
    unfold startDelayNanoseconds
    omega
  have hvalid : validateNodeOperationId (ready.operationId ++ "-start") = .ok () :=
    validateNodeOperationId_ok (operationId_visible ready "-start")
  unfold startRemote
  rw [hstart]
  apply wp_ofOption_some hsome
  unfold orStop PreparedRemoteSpeedSession.start NodeControlClient.startTest
  rw [wp_bind, wp_attempt_some]
  apply wp_check_ok hvalid
  rw [if_neg hlater, wp_bind, wp_bind]
  apply wp_of_ok (exchange_answered (fun _ => rfl) (fun _ heq => by cases heq))
  rw [wp_pure, wp_ofExcept]
  have hstatus : validateStatusAny ⟨prepared.sessionId.1, statusRunning⟩ prepared.sessionId
      [statusTestReady, statusRunning] = .ok () := by
    simp [validateStatusAny]
  rw [hstatus]
  exact ⟨fun _ _ => h.startSent id _, fun _ herror => by cases herror⟩

/-- An engine fails after the start. -/
theorem executePrepared_engine_fails (hboth : ready.request.direction = .bidirectional)
    (hclock : env.now + startDelayNanoseconds < 2 ^ 64) (hstart : env.startId = .ok id)
    (hengines : ¬ ∃ value, runBothWays env ready prepared = .ok value) (h : Abandoned prepared w) :
    Abandons prepared
      (executePrepared env build ext (scriptedNode build capabilities response true) ready prepared) w := by
  unfold executePrepared
  rw [hboth]
  apply wp_then (startRemote_started hclock hstart h)
  · intro _ w' h'
    rw [wp_bind, wp_ofExcept]
    exact ⟨fun value hok => absurd ⟨value, hok⟩ hengines, fun _ _ => h'⟩
  · exact fun _ _ => False.elim

/-- **Where no Node is left with a session, the surroundings are covered.** -/
theorem covered_of_cleansUp (hclean : ∀ link : Link Unit, CleansUp env build ext link () request)
    (hmark : env.markRunning = .ok ()) (hready : setUp env request = .ok ready)
    (hcapabilities : ∃ id, env.capabilitiesId = .ok id) (hprepare : ∃ id, env.prepareId = .ok id)
    (hobtained : Obtainable ready.request ready.operationId ready.sessionId ready.ports prepared) :
    Covered env ready prepared := by
  obtain ⟨id₁, hcapabilities⟩ := hcapabilities
  obtain ⟨id₂, hprepare⟩ := hprepare
  obtain ⟨capabilities, plan, response, hplan, haccept⟩ := hobtained
  have hnot : ∀ starts, ¬ ∀ w, Abandoned prepared w →
      Abandons prepared (executePrepared env build ext (scriptedNode build capabilities response starts) ready
        prepared) w :=
    fun starts habandons => not_cleansUp hready hcapabilities hprepare hplan haccept hmark habandons (hclean _)
  have hclock : env.now + startDelayNanoseconds < 2 ^ 64 := by
    by_contra hclock
    have hnone : checkedAdd env.now startDelayNanoseconds = none := if_neg hclock
    refine hnot false (fun _ h => executePrepared_unstarted h ?_)
    unfold Abandons startRemote
    rw [hnone, wp_bind, wp_ofOption]
    exact ⟨fun _ hsome => (by cases hsome), fun _ => h⟩
  have hstop : ∃ id, env.stopId = .ok id := by
    cases hstop : env.stopId with
    | ok id => exact ⟨id, rfl⟩
    | error text => exact absurd (fun _ h => executePrepared_unstarted h (startRemote_refused hstop h)) (hnot false)
  refine ⟨hclock, hstop, fun hboth hstart => ?_⟩
  obtain ⟨id, hstart⟩ := hstart
  rw [← runBothWays_ok (setUp_attached hready) hboth]
  by_contra hengines
  exact hnot true (fun _ h => executePrepared_engine_fails hboth hclock hstart hengines h)

end

/-- **Whom a failed run leaves**: whatever the Node answers, a run that returns an error cleans up, exactly when no
failure of its surroundings falls between the places that stop the session. -/
theorem cleans_up_iff (env : Surroundings) (build : Build) (ext : Externals) (request : SpeedRunRequest) :
    (∀ (σ : Type) (link : Link σ) (peer : σ), CleansUp env build ext link peer request) ↔ Guarded env request := by
  constructor
  · intro hclean hmark ready hready hcapabilities hprepare prepared hobtained
    exact covered_of_cleansUp (fun link => hclean Unit link ()) hmark hready hcapabilities hprepare hobtained
  · exact fun hguarded _ _ peer => executeSpeed_cleansUp hguarded peer

/-- A machine on which everything works but the TCP receiver. -/
def failingReceiver : Surroundings where
  agent := ⟨false, false, false, false⟩
  probeEnvironment := .ok ⟨.linux, false, false, []⟩
  resolveTrustedNode := .ok (some "node-b")
  connect := .ok (⟨sampleId 2, 1⟩, .v4 0)
  udpBind := .ok ()
  udpPort := .ok 6001
  tcpBind := .ok ()
  tcpPort := .ok 6002
  sessionId := .ok (sampleId 7)
  beginSession := .ok ()
  markRunning := .ok ()
  completeSession := .ok ()
  now := 0
  capabilitiesId := .ok (sampleId 3)
  prepareId := .ok (sampleId 4)
  startId := .ok (sampleId 5)
  stopId := .ok (sampleId 6)
  resultId := fun _ => .ok (sampleId 8)
  polls := 3
  queuePlan := .error (.new .preflightFailed "native DPDK PCI BDF was not found" false)
  burst := fun _ => .ok .null
  engine := fun
    | .tcpReceiver _ => .error (speedFailed "TCP stream authorization timed out" true)
    | _ => .ok .null

def bothWays : SpeedRunRequest := { sampleRequest with direction := .bidirectional }

def sampleReady : Ready := ⟨bothWays, ⟨sampleId 2, 1⟩, .v4 0, ⟨false, true, 0, 6002⟩, sampleId 7⟩

def readyPlan : SpeedSessionPlan :=
  ⟨requiredCapabilities bothWays, prepareMessage bothWays sampleReady.operationId (sampleId 7) sampleReady.ports⟩

/-- What a Node that runs both directions advertises. -/
def bothCapabilities : List CapabilityMessage := ⟨capabilityBidirectional, 1, 1, true⟩ :: runtimeCapabilities false

/-- The Node has prepared and started the session, the Agent's receiver fails, and the Node is not told. -/
theorem failed_receiver_is_not_stopped :
    setUp failingReceiver bothWays = .ok sampleReady ∧
    ¬ CleansUp failingReceiver .current sampleExternals
      (scriptedNode .current bothCapabilities ⟨true, 5001, "tag", 0⟩ true) () bothWays := by
  have hready : setUp failingReceiver bothWays = .ok sampleReady := by rfl
  have hplan : planSpeedSession bothWays sampleReady.operationId (sampleId 7) sampleReady.ports
      bothCapabilities = .ok readyPlan := by decide
  have haccept : acceptPrepared bothWays (sampleId 7) readyPlan ⟨true, 5001, "tag", 0⟩ =
      .ok ⟨sampleId 7, readyPlan, 5001, 0, "tag"⟩ := by decide
  have hclock : failingReceiver.now + startDelayNanoseconds < 2 ^ 64 := by
    unfold startDelayNanoseconds
    decide
  refine ⟨hready, not_cleansUp hready rfl rfl hplan haccept rfl fun _ h =>
    executePrepared_engine_fails rfl hclock rfl ?_ h⟩
  rintro ⟨_, hok⟩
  cases hok

end Agent
end NetTool
