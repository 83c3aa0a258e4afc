import NetTool.Agent.Scheduler
/-!
# Agent.Liveness — what becomes of a session whose start was accepted

The agent answers control requests and spawns a task for every start it accepted.  The task sleeps until the start,
tries the roles once, runs the worker it was handed, and reports the outcome to the coordinator.  A session is attended
while it has a task; nothing else ends it.  So when the attempts fail the session is left as it is
(`clock_strands_session`), and every session is ended once its tasks are over only in the runs where they do not fail
(`Regular`).
-/
namespace NetTool
namespace Agent

open Prog Speed Node Resource SpeedTestLifecycle List

/-! ## The agent -/

/-- A task of `spawn_scheduled_worker` that has not ended. -/
inductive Task
  | sleeping (sid : SessionId) (startAt : Nat)
  | working (sid : SessionId) (worker : PreparedSocketWorker)
  deriving DecidableEq

def Task.sessionId : Task → SessionId
  | sleeping sid _ => sid
  | working sid _ => sid

structure AgentState where
  coordinator : SessionCoordinator
  tasks : List Task

def AgentState.new : AgentState := ⟨.new, []⟩

/-- What a worker reports: the bytes of its result, or of its failure. -/
inductive Outcome
  | completed (json : List UInt8)
  | failed (json : List UInt8)

def Outcome.json : Outcome → List UInt8
  | completed json => json
  | failed json => json

inductive Event
  | serve (request : Request) (os : Os) (now : Nat) (written : Bool)
  | wake (sid : SessionId) (startAt : Nat) (now : Readings)
  | finish (sid : SessionId) (worker : PreparedSocketWorker) (outcome : Outcome)

/-- The response says `TEST_READY` or `RUNNING`. -/
def startAccepted : Result Response → Bool
  | .ok (.state .testReady) => true
  | .ok (.state .running) => true
  | _ => false

def isStart : Request → Bool
  | .start _ _ _ => true
  | _ => false

/-- The task that follows a request: for a start whose acceptance was written to the connection. -/
def spawned (written : Bool) (response : Result Response) : Request → List Task
  | .start sid _ startAt => if written && startAccepted response then [.sleeping sid startAt] else []
  | _ => []

/-- One round of `handle_node_connection`. -/
def serve (request : Request) (os : Os) (now : Nat) (written : Bool) (a : AgentState) : AgentState :=
  let answered := request.answer os now a.coordinator
  ⟨answered.2, spawned written answered.1 request ++ a.tasks⟩

/-- The task wakes, whatever the clock reads by then, and takes a worker or ends. -/
def wake (sid : SessionId) (startAt : Nat) (now : Readings) (a : AgentState) : AgentState :=
  if .sleeping sid startAt ∈ a.tasks then
    let rest := a.tasks.erase (.sleeping sid startAt)
    match scheduledWorker sid now a.coordinator with
    | (.ok worker, c) => ⟨c, .working sid worker :: rest⟩
    | (.error _, c) => ⟨c, rest⟩
  else a

/-- The coordinator is told how the worker ended; an error of `complete` or `fail` is only printed. -/
def report (ext : Externals) (sid : SessionId) : Outcome → Coord TestResult
  | .completed json => complete ext sid json
  | .failed json => failSession ext sid json

def finish (ext : Externals) (sid : SessionId) (worker : PreparedSocketWorker) (outcome : Outcome) (a : AgentState) :
    AgentState :=
  if .working sid worker ∈ a.tasks then
    ⟨(report ext sid outcome a.coordinator).2, a.tasks.erase (.working sid worker)⟩
  else a

def agentStep (ext : Externals) (a : AgentState) : Event → AgentState
  | .serve request os now written => serve request os now written a
  | .wake sid startAt now => wake sid startAt now a
  | .finish sid worker outcome => finish ext sid worker outcome a

/-- A start of the session was accepted: it is in the log. -/
def Accepted (c : SessionCoordinator) (sid : SessionId) : Prop :=
  ∃ id startAt state, c.operations.lookup id = some (.start sid startAt state)

def terminal (state : NodeConnectionState) : Bool := state == .completed || state == .failed || state == .canceled

/-- The events of an agent whose clock and workers behave: the acceptance of a start is delivered, a session that still
waits is tried between its start and the end of its authorization, and a worker reports JSON that the coordinator
accepts. -/
def Regular (ext : Externals) (a : AgentState) : Event → Prop
  | .serve request os now written =>
    isStart request = true → startAccepted (request.answer os now a.coordinator).1 = true → written = true
  | .wake sid startAt now => ∀ s, a.coordinator.session sid = some s → s.state = .testReady →
      now.Within startAt s.authorization.expiresAtUnixSeconds
  | .finish _ _ outcome => validateResultJson ext outcome.json = .ok ()

/-! ## Requests -/

section
variable {orphans : Prop} {c c' : SessionCoordinator} {sid : SessionId} {s : Session}

def NoneBegun (c c' : SessionCoordinator) : Prop :=
  ∀ sid s, c'.session sid = some s → s.state = .running → c.session sid = some s

theorem NoneBegun.refl (c : SessionCoordinator) : NoneBegun c c := fun _ _ hs _ => hs

theorem NoneBegun.of_writes (hw : Writes sid s c c') (hne : s.state ≠ .running) : NoneBegun c c' :=
  hw.forall (fun hrun => absurd hrun hne) (fun _ _ _ hs _ => hs)

/-- What answering a request does, beside its effect: no session begins, and a start that is new in the log was asked
for and accepted. -/
structure Served (r : Request) (c : SessionCoordinator) (response : Result Response)
    (c' : SessionCoordinator) : Prop where
  begun : NoneBegun c c'
  logged : ∀ id sid startAt state, c'.operations.lookup id = some (.start sid startAt state) →
    c.operations.lookup id = some (.start sid startAt state) ∨
      (r = .start sid id startAt ∧ startAccepted response = true)

variable {r : Request} {response : Result Response}

theorem Served.of_same (hbegun : NoneBegun c c') (hops : c'.operations = c.operations) : Served r c response c' :=
  ⟨hbegun, fun _ _ _ _ hop => .inl (by rw [← hops]; exact hop)⟩

theorem Served.refl (c : SessionCoordinator) : Served r c response c := .of_same (.refl c) rfl

theorem Served.of_put {id : String} {record : OperationRecord} (hbegun : NoneBegun c c')
    (hops : c'.operations = c.operations.put id record)
    (hstart : ∀ sid startAt state, record = .start sid startAt state →
      r = .start sid id startAt ∧ startAccepted response = true) : Served r c response c' := by
  refine ⟨hbegun, fun id₁ sid startAt state hop => ?_⟩
  rw [hops] at hop
  rcases Table.lookup_put_cases hop with ⟨rfl, hrecord⟩ | ⟨-, hop⟩
  · exact .inr (hstart sid startAt state hrecord.symm)
  · exact .inl hop

/-- A prepare keeps a session that waits, a start changes the lifecycle of one, and a stop ends one. -/
theorem replies_served {os : Os} (h : Replies r os c response c') (hg : Good orphans c) : Served r c response c' := by
  have hscheduled : ∀ {sid s l}, c.session sid = some s → s.state = .testReady →
      NoneBegun c (c.setSession sid (s.setLifecycle l)) := by
    intro sid s l hs hst
    have hw : Writes sid (s.setLifecycle l) c (c.setSession sid (s.setLifecycle l)) :=
      hg.writes (.inr ⟨s, hs, by simp⟩) rfl
    exact .of_writes hw (by simp [hst])
  cases h with
  | kept => exact .refl c
  | @prepared _ _ p _ expiresAt _ endpoint tag _ _ _ _ hp h =>
    have hwaits : ((p.prepared expiresAt endpoint tag).session waiting).state ≠ .running := by
      rw [hp.sound.state]
      simp
    exact .of_put (.of_writes (h.writes hg) hwaits) h.operations
      (fun sid startAt state hrec => absurd hrec (hp.sound.start sid startAt state))
  | stranded => exact .of_same (fun _ _ hs _ => hs) rfl
  | started hr _ hst =>
    refine .of_put (hscheduled hst.session hst.state) rfl ?_
    rintro _ _ _ ⟨⟩
    exact ⟨hr, rfl⟩
  | refused _ hst => exact .of_same (hscheduled hst.session hst.state) rfl
  | stopped _ hops h =>
    refine .of_put ?_ hops (fun _ _ _ hc => by cases hc)
    rcases h with rfl | hends
    · exact fun _ _ hs _ => hs
    · obtain ⟨s, hw, hcanceled⟩ := hends.writes
      exact .of_writes hw (by simp [hcanceled])

/-! ## The attempts and the report -/

theorem wp_scheduledWorker_refused {now : Readings} (hg : Good orphans c) (hs : c.session sid = some s)
    (hnot : s.state ≠ .testReady) : wp (scheduledWorker sid now) (fun _ _ => False) (fun _ c' => c' = c) c := by
  have hbegins : ∀ t, ¬ ∃ s startAt, Begins c sid t s startAt := by
    rintro t ⟨s', startAt, hb⟩
    obtain rfl : s' = s := Option.mem_unique hb.session hs
    exact hnot hb.state
  refine wp_try (wp_not_begins hg (hbegins now.dpdk)) (fun _ _ h => h.elim) ?_
  rintro e c' rfl
  refine wp_try (wp_not_begins hg (hbegins now.bidirectional)) (fun _ _ h => h.elim) ?_
  rintro e c' rfl
  refine wp_try (wp_not_begins hg (hbegins now.receiver)) (fun _ _ h => h.elim) ?_
  rintro e c' rfl
  exact wp_seq (wp_not_begins hg (hbegins now.sender)) (fun _ _ h => h.elim)

/-- The session does not run, and everything else is as it was or it has ended. -/
structure Reported (sid : SessionId) (c c' : SessionCoordinator) : Prop where
  log : c'.operations = c.operations
  other : ∀ sid', sid' ≠ sid → c'.session sid' = c.session sid'
  stopped : ∀ s, c'.session sid = some s → s.state ≠ .running ∧ (s.state = .testReady → c.session sid = some s)

theorem Reported.of_same (h : ∀ s, c.session sid = some s → s.state ≠ .running) : Reported sid c c :=
  ⟨rfl, fun _ _ => rfl, fun s hs => ⟨h s hs, fun _ => hs⟩⟩

theorem not_running_of_result (hg : Good orphans c) (h : (c.results.lookup sid).isSome = true) :
    ∀ s, c.session sid = some s → s.state ≠ .running := by
  intro s hs
  obtain ⟨result, hresult⟩ := Option.isSome_iff_exists.1 h
  obtain ⟨s', hs', hst⟩ := hg.results sid result hresult
  rw [hs, Option.some.injEq] at hs'
  rw [hs']
  rcases hst with hst | hst <;> rw [hst] <;> simp

theorem conclude_reported {ext : Externals} {allowed : NodeConnectionState → Bool} {refusal : String}
    {final : NodeConnectionState} {json : List UInt8} (hg : Good True c)
    (hallowed : ∀ state, allowed state = true → cancelable state = true) (hrunning : allowed .running = true)
    (hfinal : final = .completed ∨ final = .failed) (hvalid : validateResultJson ext json = .ok ()) :
    Leaves (Reported sid c) (conclude ext allowed refusal final sid json) c := by
  apply wp_mono (wp_conclude hg ext refusal hallowed hfinal sid json)
  · rintro a c' ⟨hops, ⟨rfl, hresult⟩ | ⟨h, -⟩⟩
    · exact .of_same (not_running_of_result hg hresult)
    · obtain ⟨s', hw, hst⟩ := (hg.ends h).writes
      refine ⟨hops, fun _ hne => hw.other hne, fun s hs => ?_⟩
      rw [hw.self, Option.some.injEq] at hs
      rw [← hs, hst]
      rcases hfinal with hfinal | hfinal <;> rw [hfinal] <;> simp
  · rintro e c' ⟨rfl, hwhy⟩
    refine .of_same (fun s hs => ?_)
    rcases hwhy hvalid s hs with hrefused | hresult
    · intro hst
      rw [hst, hrunning] at hrefused
      cases hrefused
    · exact not_running_of_result hg hresult s hs

end

/-! ## The calls of the agent -/

section
variable {ext : Externals} {c : SessionCoordinator}

/-- What a call leaves behind is reachable, whatever is done with its answer. -/
theorem call_reach {α : Type} {m : Coord α} (call : Call) (hcall : (call.run ext c).2 = (m c).2)
    (h : Reachable ext (fun _ => True) c) : Reachable ext (fun _ => True) (m c).2 := by
  rw [← hcall]
  exact .step call h trivial

theorem scheduledWorker_reach (sid : SessionId) (now : Readings) (h : Reachable ext (fun _ => True) c) :
    Reachable ext (fun _ => True) (scheduledWorker sid now c).2 := by
  apply wp_state
  refine wp_try (wp_of_state (call_reach (.beginAndTakeDpdkReceiver sid now.dpdk) (bind_pure_snd _ _ _) h))
    (fun _ _ h => h) ?_
  intro e c₁ h₁
  refine wp_try (wp_of_state (call_reach (.beginAndTakeBidirectional sid now.bidirectional) (bind_pure_snd _ _ _) h₁))
    (fun _ _ h => h) ?_
  intro e c₂ h₂
  refine wp_try (wp_of_state (call_reach (.beginAndTakeReceiver sid now.receiver) (bind_pure_snd _ _ _) h₂))
    (fun _ _ h => h) ?_
  intro e c₃ h₃
  exact wp_seq (wp_of_state (call_reach (.beginAndTakeSender sid now.sender) (bind_pure_snd _ _ _) h₃)) (fun _ _ h => h)

theorem agentStep_reach {a : AgentState} (event : Event) (h : Reachable ext (fun _ => True) a.coordinator) :
    Reachable ext (fun _ => True) (agentStep ext a event).coordinator := by
  cases event with
  | serve request os now written =>
    exact call_reach (.request request os now) (bind_pure_snd _ _ _) h
  | wake sid startAt now =>
    have hattempts := scheduledWorker_reach sid now h
    unfold agentStep wake
    by_cases hmem : Task.sleeping sid startAt ∈ a.tasks
    · dsimp only
      rw [if_pos hmem]
      rcases hrun : scheduledWorker sid now a.coordinator with
        ⟨_ | _, c'⟩ <;> rw [hrun] at hattempts <;> exact hattempts
    · dsimp only
      rw [if_neg hmem]
      exact h
  | finish sid worker outcome =>
    have hreport : Reachable ext (fun _ => True) (report ext sid outcome a.coordinator).2 := by
      cases outcome with
      | completed json => exact call_reach (.complete sid json) (bind_pure_snd _ _ _) h
      | failed json => exact call_reach (.fail sid json) (bind_pure_snd _ _ _) h
    unfold agentStep finish
    by_cases hmem : Task.working sid worker ∈ a.tasks
    · dsimp only
      rw [if_pos hmem]
      exact hreport
    · dsimp only
      rw [if_neg hmem]
      exact h

/-- **The coordinator of an agent is reached by calls of the coordinator**, so what holds of those holds of it. -/
theorem coordinator_reachable {ok : AgentState → Event → Prop} {a : AgentState} (h : Reach .new (agentStep ext) ok a) :
    Reachable ext (fun _ => True) a.coordinator := by
  have hnew : Reachable ext (fun _ => True) AgentState.new.coordinator := .init
  exact Reach.invariant (I := fun a => Reachable ext (fun _ => True) a.coordinator) hnew
    (fun _ event ha _ => agentStep_reach event ha) h

end

/-! ## Runs of the agent -/

/-- Every started session that waits has a task that sleeps, and every session that runs has a worker. -/
structure Attended (a : AgentState) : Prop where
  asked : ∀ sid startAt, Task.sleeping sid startAt ∈ a.tasks →
    ∃ id state, a.coordinator.operations.lookup id = some (.start sid startAt state)
  waits : ∀ sid s, Accepted a.coordinator sid → a.coordinator.session sid = some s → s.state = .testReady →
    ∃ startAt, Task.sleeping sid startAt ∈ a.tasks
  runs : ∀ sid s, a.coordinator.session sid = some s → s.state = .running → ∃ w, Task.working sid w ∈ a.tasks

theorem attended_new : Attended .new := by
  refine ⟨fun _ _ hmem => (by cases hmem), fun sid s _ hs => ?_, fun sid s hs => ?_⟩
  · simp [AgentState.new] at hs
  · simp [AgentState.new] at hs

section
variable {ext : Externals} {a : AgentState}

theorem mem_spawned {written : Bool} {response : Result Response} {r : Request} {task : Task}
    (h : task ∈ spawned written response r) :
    ∃ sid id startAt, r = .start sid id startAt ∧ startAccepted response = true ∧ task = .sleeping sid startAt := by
  cases r with
  | start sid id startAt =>
    simp only [spawned] at h
    by_cases hok : (written && startAccepted response) = true
    · rw [if_pos hok, mem_singleton] at h
      exact ⟨sid, id, startAt, rfl, (Bool.and_eq_true _ _ ▸ hok).2, h⟩
    · rw [if_neg hok] at h; cases h
  | _ => cases h

theorem Attended.serve (h : Attended a) (hg : Good True a.coordinator) (request : Request) (os : Os) (now : Nat)
    {written : Bool} (hwritten : isStart request = true → startAccepted (request.answer os now a.coordinator).1 = true →
      written = true) :
    Attended (serve request os now written a) := by
  obtain ⟨response, c', hanswer⟩ : ∃ response c', request.answer os now a.coordinator = (response, c') := ⟨_, _, rfl⟩
  have hserve : Agent.serve request os now written a = ⟨c', spawned written response request ++ a.tasks⟩ := by
    unfold Agent.serve
    rw [hanswer]
  have hreplies := answered_replies hg request os now
  rw [hanswer] at hreplies hwritten
  have hacts := hreplies.acts hg (fun _ => trivial)
  have hserved := replies_served hreplies hg
  rw [hserve]
  constructor
  · intro sid startAt hmem
    rcases mem_append.1 hmem with hnew | hold
    · obtain ⟨sid', id, startAt', rfl, haccepted, htask⟩ := mem_spawned hnew
      cases htask
      -- an accepted start is in the log
      cases response with
      | error e => cases haccepted
      | ok reply =>
        have hlog : wp ((Request.start sid id startAt).answer os now)
            (fun _ c' => ∃ id state, c'.operations.lookup id = some (.start sid startAt state)) (fun _ _ => True)
              a.coordinator :=
          wp_then (start_recorded_of_ok hg sid id startAt now) (fun state _ h => ⟨id, state, h⟩) (fun _ _ h => h)
        exact wp_ok hlog hanswer
    · obtain ⟨id, state, hop⟩ := h.asked sid startAt hold
      exact ⟨id, state, hacts.2.lookup hop⟩
  · rintro sid s ⟨id, startAt, state, hop⟩ hs hready
    rcases hserved.logged id sid startAt state hop with hold | ⟨rfl, haccepted⟩
    · -- the session was there and waited, so it had a task
      obtain ⟨s₀, hs₀, -⟩ := hg.started id sid startAt state hold
      obtain ⟨s', hs', hwait⟩ := hacts.1.waiting hg hs₀
      obtain rfl : s' = s := Option.mem_unique hs' hs
      obtain ⟨startAt', hmem⟩ := h.waits sid s₀ ⟨id, startAt, state, hold⟩ hs₀ (hwait hready).1
      exact ⟨startAt', mem_append_right _ hmem⟩
    · refine ⟨startAt, mem_append_left _ ?_⟩
      simp [spawned, hwritten rfl haccepted, haccepted]
  · intro sid s hs hrun
    obtain ⟨w, hmem⟩ := h.runs sid s (hserved.begun sid s hs hrun) hrun
    exact ⟨w, mem_append_right _ hmem⟩

/-- One session and its tasks change: what holds of the others still does. -/
theorem Attended.change {sid : SessionId} {c' : SessionCoordinator} {tasks' : List Task} (h : Attended a)
    (hlog : c'.operations = a.coordinator.operations)
    (hother : ∀ sid', sid' ≠ sid → c'.session sid' = a.coordinator.session sid')
    (hkeep : ∀ task ∈ a.tasks, task.sessionId ≠ sid → task ∈ tasks')
    (hasked : ∀ sid' startAt, Task.sleeping sid' startAt ∈ tasks' → Task.sleeping sid' startAt ∈ a.tasks)
    (hwaits : ∀ s, Accepted a.coordinator sid → c'.session sid = some s → s.state = .testReady →
      ∃ startAt, Task.sleeping sid startAt ∈ tasks')
    (hruns : ∀ s, c'.session sid = some s → s.state = .running → ∃ w, Task.working sid w ∈ tasks') :
    Attended ⟨c', tasks'⟩ := by
  constructor
  · intro sid' startAt hmem
    rw [hlog]
    exact h.asked sid' startAt (hasked sid' startAt hmem)
  · intro sid' s hacc hs hready
    unfold Accepted at hacc
    rw [hlog] at hacc
    by_cases hid : sid' = sid
    · rw [hid] at hacc hs ⊢
      exact hwaits s hacc hs hready
    · obtain ⟨startAt, hmem⟩ := h.waits sid' s hacc ((hother sid' hid).symm.trans hs) hready
      exact ⟨startAt, hkeep _ hmem hid⟩
  · intro sid' s hs hrun
    by_cases hid : sid' = sid
    · rw [hid] at hs ⊢
      exact hruns s hs hrun
    · obtain ⟨w, hmem⟩ := h.runs sid' s ((hother sid' hid).symm.trans hs) hrun
      exact ⟨w, hkeep _ hmem hid⟩

theorem Attended.wake (h : Attended a) (hg : Good True a.coordinator) (sid : SessionId) (startAt : Nat) {now : Readings}
    (hnow : ∀ s, a.coordinator.session sid = some s → s.state = .testReady →
      now.Within startAt s.authorization.expiresAtUnixSeconds) : Attended (wake sid startAt now a) := by
  unfold Agent.wake
  by_cases hmem : Task.sleeping sid startAt ∈ a.tasks
  swap
  · rw [if_neg hmem]; exact h
  rw [if_pos hmem]
  obtain ⟨id, state, hop⟩ := h.asked sid startAt hmem
  obtain ⟨s, hs, hwaits⟩ := hg.started id sid startAt state hop
  have hkeep : ∀ task ∈ a.tasks, task.sessionId ≠ sid → task ∈ a.tasks.erase (.sleeping sid startAt) :=
    fun task hmem' hne => (mem_erase_of_ne (fun heq => hne (by rw [heq]; rfl))).2 hmem'
  by_cases hready : s.state = .testReady
  · rcases wp_cases (wp_scheduledWorker hg hs hready (hwaits hready) (hnow s hs hready)) with
      ⟨w, c', hrun, -, hruns⟩ | ⟨_, _, _, hfalse⟩
    swap
    · exact hfalse.elim
    rw [hrun]
    obtain ⟨s₁, s₂, hs₁, -, hrunning, hmap, -, rfl⟩ := hruns
    have hw : Writes sid s₂ a.coordinator (a.coordinator.setSession sid s₂) :=
      hg.writes (.inr ⟨s₁, hs₁, hmap⟩) rfl
    have hlog : (a.coordinator.setSession sid s₂).operations = a.coordinator.operations := rfl
    apply h.change hlog (fun sid' hne => hw.other hne)
    · exact fun task hmem' hne => mem_cons_of_mem _ (hkeep task hmem' hne)
    · intro sid' startAt' hmem'
      rcases mem_cons.1 hmem' with heq | hmem'
      · cases heq
      · exact mem_of_mem_erase hmem'
    · intro s' _ hs' hst
      rw [hw.self, Option.some.injEq] at hs'
      rw [← hs', hrunning] at hst
      cases hst
    · exact fun _ _ _ => ⟨w, mem_cons_self⟩
  · -- another task has the session, or it has ended: this one ends and changes nothing
    rcases wp_cases (wp_scheduledWorker_refused hg hs hready) with ⟨_, _, _, hfalse⟩ | ⟨e, c', hrun, rfl⟩
    · exact hfalse.elim
    rw [hrun]
    apply h.change rfl (fun _ _ => rfl) hkeep (fun _ _ hmem' => mem_of_mem_erase hmem')
    · intro s' _ hs' hst
      rw [hs, Option.some.injEq] at hs'
      rw [← hs'] at hst
      exact absurd hst hready
    · intro s' hs' hst
      obtain ⟨w, hmem'⟩ := h.runs sid s' hs' hst
      exact ⟨w, (mem_erase_of_ne (fun heq => by cases heq)).2 hmem'⟩

theorem Attended.finish (h : Attended a) (hg : Good True a.coordinator) (sid : SessionId)
    (worker : PreparedSocketWorker) {outcome : Outcome} (hvalid : validateResultJson ext outcome.json = .ok ()) :
    Attended (finish ext sid worker outcome a) := by
  unfold Agent.finish
  by_cases hmem : Task.working sid worker ∈ a.tasks
  swap
  · rw [if_neg hmem]; exact h
  rw [if_pos hmem]
  have hrep : Reported sid a.coordinator (report ext sid outcome a.coordinator).2 := by
    cases outcome with
    | completed json =>
      show Reported sid a.coordinator (complete ext sid json a.coordinator).2
      exact wp_state (conclude_reported hg completable rfl (.inl rfl) hvalid)
    | failed json =>
      exact wp_state (conclude_reported hg (fun _ h => h) rfl (.inr rfl) hvalid)
  apply h.change hrep.log hrep.other
  · exact fun task hmem' hne => (mem_erase_of_ne (fun heq => hne (by rw [heq]; rfl))).2 hmem'
  · exact fun _ _ hmem' => mem_of_mem_erase hmem'
  · intro s hacc hs hready
    obtain ⟨startAt, hmem'⟩ := h.waits sid s hacc ((hrep.stopped s hs).2 hready) hready
    exact ⟨startAt, (mem_erase_of_ne (fun heq => by cases heq)).2 hmem'⟩
  · exact fun s hs hrun => absurd hrun (hrep.stopped s hs).1

theorem attended_of_reach (h : Reach .new (agentStep ext) (Regular ext) a) : Good True a.coordinator ∧ Attended a := by
  have hgood : ∀ {a : AgentState}, Reachable ext (fun _ => True) a.coordinator → Good True a.coordinator :=
    fun h => reachable_good h (fun _ _ _ => trivial)
  have hboth : Reachable ext (fun _ => True) a.coordinator ∧ Attended a := by
    have hnew : Reachable ext (fun _ => True) AgentState.new.coordinator := .init
    apply Reach.invariant (I := fun a => Reachable ext (fun _ => True) a.coordinator ∧ Attended a)
      ⟨hnew, attended_new⟩ _ h
    rintro a event ⟨hreached, ha⟩ hok
    refine ⟨agentStep_reach event hreached, ?_⟩
    cases event with
    | serve request os now written => exact ha.serve (hgood hreached) request os now hok
    | wake sid startAt now => exact ha.wake (hgood hreached) sid startAt hok
    | finish sid worker outcome => exact ha.finish (hgood hreached) sid worker hok
  exact ⟨hgood hboth.1, hboth.2⟩

end

/-- **In a regular run a session whose start was accepted has ended, and its reservation is released, once its tasks are
over.** -/
theorem accepted_session_ends {ext : Externals} {a : AgentState} (h : Reach .new (agentStep ext) (Regular ext) a)
    {sid : SessionId} (haccepted : Accepted a.coordinator sid) (hdone : ∀ task ∈ a.tasks, task.sessionId ≠ sid) :
    ∃ s r, a.coordinator.session sid = some s ∧ terminal s.state = true ∧
      a.coordinator.resources.reservations.lookup s.reservationId = some r ∧ r.state = .released := by
  obtain ⟨hg, ha⟩ := attended_of_reach h
  obtain ⟨id, startAt, state, hop⟩ := haccepted
  obtain ⟨s, hs, -⟩ := hg.started id sid startAt state hop
  obtain ⟨r, hr, hst⟩ := hg.held sid s hs
  have hended : s.state = .completed ∨ s.state = .failed ∨ s.state = .canceled := by
    rcases (hg.shape sid s hs).rests with hready | hrun | hended
    · obtain ⟨startAt', hmem⟩ := ha.waits sid s ⟨id, startAt, state, hop⟩ hs hready
      exact absurd rfl (hdone _ hmem)
    · obtain ⟨w, hmem⟩ := ha.runs sid s hs hrun
      exact absurd rfl (hdone _ hmem)
    · exact hended
  refine ⟨s, r, hs, ?_, hr, ?_⟩
  · rcases hended with hended | hended | hended <;> rw [hended] <;> rfl
  · rw [hst]
    rcases hended with hended | hended | hended <;> rw [hended] <;> rfl

/-! A TCP receiver prepared and started. -/

def startedEvents : List Event :=
  [.serve (.prepareTcp sampleTcp) sampleOs 0 true,
    .serve (.start (sampleId 1) "start-1" 2000000000) sampleOs 1000000000 true]

def startedAgent : AgentState := startedEvents.foldl (agentStep sampleExternals) .new

def startedReceiver : PreparedSocketWorker :=
  .receiver (.tcp ⟨7, .v4 0x7f000001#32 0⟩ ⟨1, sampleId 1, hexString (List.replicate 32 0xab)⟩)

def completedAgent : AgentState :=
  [.wake (sampleId 1) 2000000000 atStart, .finish (sampleId 1) startedReceiver (.completed [0x7b, 0x7d])].foldl
    (agentStep sampleExternals) startedAgent

theorem completedAgent_reach : Reach .new (agentStep sampleExternals) (Regular sampleExternals) completedAgent := by
  have hstarted : Reach .new (agentStep sampleExternals) (Regular sampleExternals) startedAgent :=
    Reach.foldl startedEvents _ .init ⟨fun _ _ => rfl, fun _ _ => rfl, trivial⟩
  have hvalid : validateResultJson sampleExternals [0x7b, 0x7d] = .ok () := by decide
  refine Reach.foldl _ _ hstarted ⟨fun s hs _ => ?_, hvalid, trivial⟩
  have hexpires : (startedAgent.coordinator.session (sampleId 1)).map (·.authorization.expiresAtUnixSeconds) =
      some 30 := by decide
  rw [hs, Option.map_some, Option.some.injEq] at hexpires
  rw [hexpires]
  decide

theorem coordinator_reachable_completed : Reachable sampleExternals (fun _ => True) completedAgent.coordinator :=
  coordinator_reachable completedAgent_reach

theorem accepted_session_ends_sample :
    completedAgent.tasks = [] ∧
    ∃ s r, completedAgent.coordinator.session (sampleId 1) = some s ∧ terminal s.state = true ∧
      completedAgent.coordinator.resources.reservations.lookup s.reservationId = some r ∧ r.state = .released := by
  have htasks : completedAgent.tasks = [] := by decide
  have haccepted : Accepted completedAgent.coordinator (sampleId 1) := ⟨"start-1", 2000000000, .testReady, by decide⟩
  exact ⟨htasks, accepted_session_ends completedAgent_reach haccepted (by rw [htasks]; simp)⟩

/-- The same session, when its task wakes at these readings. -/
def wokenAgent (now : Readings) : AgentState :=
  agentStep sampleExternals startedAgent (.wake (sampleId 1) 2000000000 now)

def beforeStart : Readings := ⟨1999999997, 1999999998, 1999999999, 1999999999⟩
def afterExpiry : Readings := ⟨31000000000, 31000000001, 31000000002, 31000000003⟩

/-- The session waits with its reservation held, and has no task. -/
def Stranded (a : AgentState) (sid : SessionId) : Prop :=
  Accepted a.coordinator sid ∧ a.tasks = [] ∧ (a.coordinator.session sid).map (·.state) = some .testReady ∧
    ((a.coordinator.session sid).bind (fun s => a.coordinator.resources.reservations.lookup s.reservationId)).map
      (·.state) = some .active

/-- A clock that was set back, or forward past the authorization, leaves the session without a task for good. -/
theorem clock_strands_session :
    Stranded (wokenAgent beforeStart) (sampleId 1) ∧ Stranded (wokenAgent afterExpiry) (sampleId 1) :=
  ⟨⟨⟨"start-1", 2000000000, .testReady, by decide⟩, by decide, by decide, by decide⟩,
    ⟨⟨"start-1", 2000000000, .testReady, by decide⟩, by decide, by decide, by decide⟩⟩

end Agent
end NetTool
