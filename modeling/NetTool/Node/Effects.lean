import NetTool.Node.HandOut
/-!
# Node.Effects — every call has an effect

Ending a session releases its reservation (`Ends`).  With that, every call of the coordinator has an `Effect` and only
adds to the log (`wp_run`), so `Good` holds of every reachable coordinator (`reachable_good`).
-/
namespace NetTool
namespace Node

open Prog Speed Resource SpeedTestLifecycle

variable {α : Type} {c : SessionCoordinator} {sid : SessionId} {orphans : Prop}

/-! ## Ending a session -/

theorem sessionState_eq : c.sessionState sid = (c.session sid).map (·.state) := by
  unfold SessionCoordinator.sessionState SessionCoordinator.session Sessions.find
  cases c.sessions.tcp.lookup sid <;> cases c.sessions.udp.lookup sid <;> cases c.sessions.dpdk.lookup sid <;> rfl

/-- The session is ended in the state `final`, its reservation released, and the log is as it was. -/
structure Ends (sid : SessionId) (final : NodeConnectionState) (c c' : SessionCoordinator) : Prop where
  effect : Effect False c c'
  writes : ∃ s, Writes sid s c c' ∧ s.state = final
  authorization : ∀ s s', c.session sid = some s → c'.session sid = some s' →
    s.SameMap s' ∧ s'.authorization = s.authorization

variable {c' : SessionCoordinator} {final : NodeConnectionState} {allowed : NodeConnectionState → Bool}
  {ext : Externals} {ok : SessionCoordinator → Call → Prop}

def Finishes (sid : SessionId) (final : NodeConnectionState) (c c' : SessionCoordinator) : Prop :=
  ∃ s s' r, Ending sid s s' r c c' ∧ s'.authorization = s.authorization ∧ s'.state = final

theorem Good.ends (hg : Good orphans c) (h : Finishes sid final c c') : Ends sid final c c' := by
  obtain ⟨s, s', r, he, hauth, rfl⟩ := h
  have hw : Writes sid s' c c' := hg.writes (.inr ⟨s, he.session, he.map⟩) he.sessions
  refine ⟨.finish sid s s' r he, ⟨s', hw, rfl⟩, ?_⟩
  intro s₁ s₁' hs₁ hs₁'
  obtain rfl := Option.mem_unique he.session hs₁
  obtain rfl := Option.mem_unique hw.self hs₁'
  exact ⟨he.map, hauth⟩

theorem wp_stop (hg : Good orphans c) (sid : SessionId) (id : String) :
    wp (stop sid id)
      (fun state c' => (c' = c ∧ ∃ record, c.operations.lookup id = some record ∧
        matchingStop sid record = some state) ∨
        (c.operations.lookup id = none ∧ state = .canceled ∧ c'.operations = c.operations.put id (.stop sid .canceled) ∧
          ((c' = c.log id (.stop sid .canceled) ∧ ∃ s, c.session sid = some s ∧ s.state = .canceled) ∨
            Finishes sid .canceled c c')))
      (fun _ c' => c' = c) c := by
  refine wp_logged (fun record hop => ⟨fun a ha => .inl ⟨rfl, record, hop, ha⟩, rfl⟩) (fun hop => ?_)
  rw [wp_ite]
  constructor
  · intro hcanceled
    rw [sessionState_eq, Option.map_eq_some_iff] at hcanceled
    exact .inr ⟨hop, rfl, rfl, .inl ⟨rfl, hcanceled⟩⟩
  intro _
  rw [wp_bind, wp_ofOption]
  refine ⟨fun s hs => ?_, fun _ => rfl⟩
  rw [wp_ite]
  refine ⟨fun _ => rfl, fun hlive => ?_⟩
  have hlive : cancelable s.state = true := by simpa using hlive
  obtain ⟨r, hr, hactive⟩ := hg.held sid s hs
  rw [if_pos hlive] at hactive
  simp only [wp_bind, wp_modify]
  refine wp_releaseResources hr hactive (fun _ m hrelease => ?_)
  refine .inr ⟨hop, rfl, rfl, .inr ?_⟩
  exact ⟨s, (s.setState .canceled).closeEndpoint, r,
    ⟨hs, hlive, by simp, by simp, rfl, hr, hrelease, .inl ⟨by simp, rfl⟩, hg.pending⟩, by simp, by simp⟩

theorem wp_keepPending (result : TestResult) (hnone : c.pendingResults.lookup sid = none) :
    wp (keepPending sid result) (fun _ c' => c' = { c with pendingResults := c.pendingResults.put sid result })
      (fun _ _ => False) c := by
  simp [keepPending, hnone]

theorem wp_conclude (hg : Good orphans c) (ext : Externals) (refusal : String)
    (hallowed : ∀ state, allowed state = true → cancelable state = true)
    (hfinal : final = .completed ∨ final = .failed) (sid : SessionId) (json : List UInt8) :
    wp (conclude ext allowed refusal final sid json)
      (fun _ c' => c'.operations = c.operations ∧ ((c' = c ∧ (c.results.lookup sid).isSome) ∨
        (Finishes sid final c c' ∧ c'.results = c.results.put sid ⟨sid.1, json, ext.sha256 json⟩)))
      (fun _ c' => c' = c ∧ (validateResultJson ext json = .ok () → ∀ s, c.session sid = some s →
        allowed s.state = false ∨ (c.results.lookup sid).isSome)) c := by
  refine wp_check (fun _ hvalid => ?_) (fun e he => ⟨rfl, fun hok => by rw [he] at hok; cases hok⟩)
  rw [wp_bind, wp_get]
  cases hres : c.results.lookup sid with
  | some existing =>
    rw [wp_ite]
    exact ⟨fun _ => ⟨rfl, .inl ⟨rfl, rfl⟩⟩, fun _ => ⟨rfl, fun _ _ _ => .inr rfl⟩⟩
  | none =>
    rw [wp_bind, wp_ofOption]
    refine ⟨fun s hs => ?_, fun hnone => ⟨rfl, fun _ s hs => by rw [hs] at hnone; cases hnone⟩⟩
    rw [wp_ite]
    constructor
    · intro hnot
      refine ⟨rfl, fun _ s' hs' => .inl ?_⟩
      rw [hs, Option.some.injEq] at hs'
      rw [← hs']
      simpa using hnot
    intro hmay
    have hlive : cancelable s.state = true := hallowed _ (by simpa using hmay)
    obtain ⟨r, hr, hactive⟩ := hg.held sid s hs
    rw [if_pos hlive] at hactive
    rw [wp_bind]
    refine wp_then (wp_keepPending _ (hg.pending sid)) ?_ (fun _ _ h => h.elim)
    rintro _ c₁ rfl
    simp only [wp_bind]
    refine wp_releaseResources hr hactive (fun _ m hrelease => ?_)
    have hs₁ : (c.setSession sid (s.setState .finalizing)).session sid = some (s.setState .finalizing) :=
      hg.session_setSession hs (by simp)
    simp only [wp_get, wp_ofOption, wp_modify, wp_pure]
    refine ⟨fun s₁ hs₁' => ?_, fun hnone => (by cases hs₁.symm.trans hnone)⟩
    obtain rfl : s.setState .finalizing = s₁ := Option.mem_unique hs₁ hs₁'
    refine ⟨rfl, .inr ⟨?_, rfl⟩⟩
    refine ⟨s, (s.setState .finalizing).closeEndpoint.setState final, r, ⟨hs, hlive, by simp, by simp,
      Sessions.set_set (by simp), hr, hrelease, .inr ⟨by simpa using hfinal, _, rfl⟩, fun sid' => ?_⟩, by simp, by simp⟩
    -- the result that was pending is taken out again
    show ((c.pendingResults.put sid _).erase sid).lookup sid' = none
    by_cases hid : sid' = sid
    · rw [hid, AList.lookup_erase]
    · rw [AList.lookup_erase_ne hid, Table.lookup_put, if_neg hid]
      exact hg.pending sid'

/-! ## Every call -/

def Call.RandomFails : Call → Prop
  | .request _ os _ => ∃ error, os.random = .error error
  | _ => False

theorem Effect.mono {orphans' : Prop} (h : Effect orphans c c') (himp : orphans → orphans') : Effect orphans' c c' := by
  cases h with
  | keep hsessions hresources hres => exact .keep hsessions hresources hres
  | edit sid s s' hs he hsessions hresources hres => exact .edit sid s s' hs he hsessions hresources hres
  | finish sid s s' r he => exact .finish sid s s' r he
  | enroll sid s r request he => exact .enroll sid s r request he
  | orphan r request ho hclaims hsessions hacq hres => exact .orphan r request (himp ho) hclaims hsessions hacq hres

def Acts (orphans : Prop) (c c' : SessionCoordinator) : Prop := Effect orphans c c' ∧ Logs c c'

theorem Acts.refl (c : SessionCoordinator) : Acts orphans c c := ⟨.keep rfl rfl ⟨rfl, rfl⟩, .keep rfl⟩

theorem Ends.acts (h : Ends sid final c c') (hlog : Logs c c') : Acts orphans c c' := ⟨h.effect.mono False.elim, hlog⟩

/-! What a request leaves, with the answer it gets.  A request that is answered from the log, or refused, leaves
everything as it was; the rest is a preparation, a DPDK reservation without its session, a start, a start that its time
refuses, or a stop. -/

inductive Replies (r : Request) (os : Os) (c : SessionCoordinator) :
    Result Response → SessionCoordinator → Prop
  | kept (result : Result Response) : Replies r os c result c
  | prepared {Endpoint Reply : Type} {p : Preparation Endpoint Reply} {now expiresAt : Nat} {reply : Reply}
      {endpoint : Endpoint} {tag : String} {res : Reservation} {m : ResourceManager} {c' : SessionCoordinator}
      (result : Result Response) (hp : p.Known)
      (h : Prepares p os now c reply c' expiresAt endpoint tag res m) : Replies r os c result c'
  | stranded {request : PrepareDpdkReceiverRequest} {res : Reservation} {m : ResourceManager} (e : NetToolError)
      (hrandom : ∃ error, os.random = .error error) (hacq : Acquired (dpdkReservation request) res c.resources m) :
      Replies r os c (.error e) { c with resources := m }
  | started {sid : SessionId} {id : String} {startAt now : Nat} {s : Session} {scheduled : Option Nat}
      (hr : r = .start sid id startAt) (hop : c.operations.lookup id = none)
        (hst : Startable c sid startAt now s scheduled)
      (hcan : CanSchedule scheduled startAt now) : Replies r os c (.ok (.state .testReady))
        ((c.setSession sid (s.setLifecycle (ready (some startAt)))).log id (.start sid startAt .testReady))
  | refused {sid : SessionId} {startAt now : Nat} {s : Session} {scheduled : Option Nat} (e : NetToolError)
      (hst : Startable c sid startAt now s scheduled) :
      Replies r os c (.error e) (c.setSession sid (s.setLifecycle (ready scheduled)))
  | stopped {sid : SessionId} {id : String} {c' : SessionCoordinator} (hop : c.operations.lookup id = none)
      (hops : c'.operations = c.operations.put id (.stop sid .canceled))
      (h : c' = c.log id (.stop sid .canceled) ∨ Ends sid .canceled c c') : Replies r os c (.ok (.state .canceled)) c'

section
variable {r : Request}

theorem prepare_replies {Endpoint Reply : Type} {p : Preparation Endpoint Reply} (hp : p.Known) (f : Reply → Response)
    (os : Os) (now : Nat) :
    wp (prepare p os now) (fun a => Replies r os c (.ok (f a))) (fun e => Replies r os c (.error e)) c := by
  apply wp_mono (wp_prepare p os now c)
  · rintro a c' (⟨rfl, -⟩ | ⟨_, _, _, _, _, h⟩)
    · exact .kept _
    · exact .prepared _ hp h
  · rintro e c' rfl
    exact .kept _

theorem prepareDpdkReceiver_replies (request : PrepareDpdkReceiverRequest) (os : Os) (now : Nat) :
    wp (prepareDpdkReceiver request os now) (fun a => Replies r os c (.ok (.dpdk a)))
      (fun e => Replies r os c (.error e)) c := by
  apply wp_mono (wp_prepareDpdkReceiver request os now c)
  · rintro a c' (⟨rfl, -⟩ | ⟨_, _, _, _, h⟩)
    · exact .kept _
    · exact .prepared _ (.dpdk request) h
  · rintro e c' (⟨rfl, -⟩ | ⟨hstrands, res, m, hacq, rfl⟩)
    · exact .kept _
    · exact .stranded e hstrands.random hacq

section
variable (hg : Good orphans c)
include hg

theorem start_replies (sid : SessionId) (id : String) (startAt : Nat) (os : Os) (now : Nat) :
    wp (start sid id startAt now) (fun a => Replies (.start sid id startAt) os c (.ok (.state a)))
      (fun e => Replies (.start sid id startAt) os c (.error e)) c := by
  apply wp_mono (wp_start hg sid id startAt now)
  · rintro a c' (⟨rfl, -⟩ | ⟨hop, s, scheduled, hst, hcan, rfl, rfl⟩)
    · exact .kept _
    · exact .started rfl hop hst hcan
  · rintro e c' (⟨rfl, -⟩ | ⟨-, s, scheduled, hst, -, rfl⟩)
    · exact .kept _
    · exact .refused e hst

theorem stop_replies (sid : SessionId) (id : String) (os : Os) :
    wp (stop sid id) (fun a => Replies r os c (.ok (.state a))) (fun e => Replies r os c (.error e)) c := by
  apply wp_mono (wp_stop hg sid id)
  · rintro a c' (⟨rfl, -⟩ | ⟨hop, rfl, hops, h⟩)
    · exact .kept _
    · exact .stopped hop hops (h.imp And.left hg.ends)
  · rintro e c' rfl
    exact .kept _

/-- **What a request leaves.** -/
theorem answer_replies (r : Request) (os : Os) (now : Nat) :
    wp (r.answer os now) (fun a => Replies r os c (.ok a)) (fun e => Replies r os c (.error e)) c := by
  cases r with
  | prepareTcp r => exact (wp_bind _ _).2 (prepare_replies (.tcp r) .tcp os _)
  | prepareTcpSender r => exact (wp_bind _ _).2 (prepare_replies (.tcpSender r) .tcp os _)
  | prepareTcpBidirectional r => exact (wp_bind _ _).2 (prepare_replies (.tcpBidirectional r) .tcp os _)
  | prepareUdp r => exact (wp_bind _ _).2 (prepare_replies (.udp r) .udp os _)
  | prepareUdpSender r => exact (wp_bind _ _).2 (prepare_replies (.udpSender r) .udp os _)
  | prepareUdpBidirectional r => exact (wp_bind _ _).2 (prepare_replies (.udpBidirectional r) .udp os _)
  | prepareDpdkReceiver r => exact (wp_bind _ _).2 (prepareDpdkReceiver_replies r os _)
  | start sid id startAt => exact (wp_bind _ _).2 (start_replies hg sid id startAt os now)
  | stop sid id => exact (wp_bind _ _).2 (stop_replies hg sid id os)

theorem answered_replies (r : Request) (os : Os) (now : Nat) :
    Replies r os c (r.answer os now c).1 (r.answer os now c).2 := by
  rcases wp_cases (answer_replies hg r os now) with ⟨a, c', hrun, h⟩ | ⟨e, c', hrun, h⟩ <;> rw [hrun] <;> exact h

end

theorem Replies.acts {os : Os} {result : Result Response} (h : Replies r os c result c')
    (hg : Good orphans c) (horphans : (∃ error, os.random = .error error) → orphans) : Acts orphans c c' := by
  cases h with
  | kept => exact .refl c
  | prepared _ hp h => exact h.effect hp.sound
  | stranded _ hrandom hacq =>
    exact ⟨.orphan _ _ (horphans hrandom) (guarded_exclusive rfl) rfl hacq ⟨rfl, rfl⟩, .keep rfl⟩
  | @started sid id startAt now s scheduled _ hop hst hcan =>
    have hedit : Edit s (s.setLifecycle (ready (some startAt))) := by
      refine .schedule _ (some startAt) hst.state (.ready _) (fun t hwaits => ?_)
      have ht := hst.waits.unique hwaits
      rcases hcan.2.2 with hnone | hsome
      · rw [hnone] at ht; cases ht
      · rw [← hsome]; exact ht
    refine ⟨.edit sid s _ hst.session hedit rfl rfl ⟨rfl, rfl⟩, .add id _ hop rfl ?_⟩
    rintro _ _ _ ⟨⟩
    exact ⟨_, hg.session_setSession hst.session (by simp), by simpa using Waits.ready (some startAt)⟩
  | refused _ hst =>
    exact ⟨.edit _ _ _ hst.session (.schedule _ _ hst.state (.ready _) (fun _ ht => hst.waits.unique ht)) rfl rfl
      ⟨rfl, rfl⟩, .keep rfl⟩
  | stopped hop hops h =>
    have hlog : Logs c c' := .add _ _ hop hops (fun _ _ _ hc => by cases hc)
    rcases h with rfl | hends
    · exact ⟨.keep rfl rfl ⟨rfl, rfl⟩, hlog⟩
    · exact hends.acts hlog

/-- A program that leaves what a request leaves acts. -/
theorem wp_replies_acts {m : Coord α} {os : Os} {f : α → Response} (hg : Good True c)
    (h : wp m (fun a => Replies r os c (.ok (f a))) (fun e => Replies r os c (.error e)) c) :
    Leaves (Acts True c) m c :=
  wp_mono h (fun _ _ hr => hr.acts hg (fun _ => trivial)) (fun _ _ hr => hr.acts hg (fun _ => trivial))

end

theorem completable (state : NodeConnectionState) (h : (state == .running || state == .finalizing) = true) :
    cancelable state = true := by
  cases state <;> simp_all [cancelable]

/-- The session a call may begin, and the clock it is given. -/
def Call.beginsAt : Call → Option (SessionId × Nat)
  | .beginScheduled sid now => some (sid, now)
  | .beginAndTakeDpdkReceiver sid now => some (sid, now)
  | .beginAndTakeBidirectional sid now => some (sid, now)
  | .beginAndTakeReceiver sid now => some (sid, now)
  | .beginAndTakeSender sid now => some (sid, now)
  | _ => none

/-- The session a call hands the endpoint or the plan of to its caller when it returns. -/
def Call.handsOut : Call → Option SessionId
  | .beginAndTakeDpdkReceiver sid _ => some sid
  | .beginAndTakeBidirectional sid _ => some sid
  | .beginAndTakeReceiver sid _ => some sid
  | .beginAndTakeSender sid _ => some sid
  | .takeTcpListener sid => some sid
  | .takeTcpSender sid => some sid
  | .takeTcpBidirectional sid => some sid
  | .takeUdpSocket sid => some sid
  | .takeUdpSender sid => some sid
  | .takeUdpBidirectional sid => some sid
  | _ => none

def Call.concludes : Call → Bool
  | .complete _ _ => true
  | .fail _ _ => true
  | _ => false

variable {call : Call}

section
variable (hg : Good orphans c)
include hg

section
variable (ext : Externals)

/-- A call that hands out a session begins it first, or takes from a session that runs. -/
theorem handsOut_run (hcall : call.handsOut = some sid) :
    (∃ now, call.beginsAt = some (sid, now) ∧
      wp (call.run ext) (fun _ => BegunAndTaken sid now c) (fun _ c' => c' = c ∨ Begun sid now c c') c) ∨
    wp (call.run ext) (fun _ => HandsOver sid c) (fun _ => Spends sid c) c := by
  cases call <;> cases hcall
  case beginAndTakeDpdkReceiver now => exact .inl ⟨now, rfl,
    (wp_bind _ _).2 (beginAndTakeDpdkReceiver_begun hg sid now)⟩
  case beginAndTakeBidirectional now => exact .inl ⟨now, rfl,
    (wp_bind _ _).2 (beginAndTakeBidirectional_begun hg sid now)⟩
  case beginAndTakeReceiver now => exact .inl ⟨now, rfl, (wp_bind _ _).2 (beginAndTakeReceiver_begun hg sid now)⟩
  case beginAndTakeSender now => exact .inl ⟨now, rfl, (wp_bind _ _).2 (beginAndTakeSender_begun hg sid now)⟩
  case takeTcpListener => exact .inr ((wp_bind _ _).2 (takeTcpListener_hands sid c))
  case takeTcpSender => exact .inr ((wp_bind _ _).2 (takeTcpSender_hands sid c))
  case takeTcpBidirectional => exact .inr ((wp_bind _ _).2 (takeTcpBidirectional_hands sid c))
  case takeUdpSocket => exact .inr ((wp_bind _ _).2 (takeUdpSocket_hands hg sid))
  case takeUdpSender => exact .inr ((wp_bind _ _).2 (takeUdpSender_hands hg sid))
  case takeUdpBidirectional => exact .inr ((wp_bind _ _).2 (takeUdpBidirectional_hands hg sid))

/-- What a call comes to: an answered request, nothing, the begin of a session, a take, or the end of a session. -/
inductive Act (call : Call) (c c' : SessionCoordinator) : Prop
  | answered (r : Request) (os : Os) (now : Nat) (hcall : call = .request r os now) (h : c' = (r.answer os now c).2)
  | kept (h : c' = c)
  | begun (sid : SessionId) (now : Nat) (hcall : call.beginsAt = some (sid, now)) (h : Begun sid now c c')
  | spent (sid : SessionId) (h : Spends sid c c')
  | ended (sid : SessionId) (final : NodeConnectionState) (hcall : call.concludes = true)
      (hfinal : final = .completed ∨ final = .failed) (hops : c'.operations = c.operations) (h : Ends sid final c c')

theorem handsOut_act (hcall : call.handsOut = some sid) : Leaves (Act call c) (call.run ext) c := by
  rcases handsOut_run hg ext hcall with ⟨now, hbegins, h⟩ | h
  · refine wp_mono h (fun _ _ hr => .begun sid now hbegins hr.begun) ?_
    rintro e c' (rfl | hr)
    · exact .kept rfl
    · exact .begun sid now hbegins hr
  · exact wp_mono h (fun _ _ hands => .spent sid hands.spends) (fun _ _ spends => .spent sid spends)

theorem conclude_act {allowed : NodeConnectionState → Bool} (refusal : String)
    {final : NodeConnectionState} (hallowed : ∀ state, allowed state = true → cancelable state = true)
    (hfinal : final = .completed ∨ final = .failed) (hcall : call.concludes = true) (sid : SessionId)
    (json : List UInt8) : Leaves (Act call c) (conclude ext allowed refusal final sid json) c := by
  apply wp_mono (wp_conclude hg ext refusal hallowed hfinal sid json)
  · rintro a c' ⟨hops, ⟨rfl, -⟩ | ⟨h, -⟩⟩
    · exact .kept rfl
    · exact .ended sid final hcall hfinal hops (hg.ends h)
  · rintro e c' ⟨rfl, -⟩
    exact .kept rfl

theorem step_act (call : Call) : Act call c (step ext c call) := by
  cases call with
  | request r os now => exact .answered r os now rfl (bind_pure_snd (r.answer os now) (fun _ => ()) c)
  | beginScheduled sid now =>
    refine wp_state ((wp_bind _ _).2 (wp_mono (wp_beginScheduled hg sid now) ?_ ?_))
    · rintro _ c' ⟨s, startAt, hb, rfl⟩
      exact .begun sid now rfl hb.begun
    · rintro e c' ⟨rfl, -⟩
      exact .kept rfl
  | complete sid json =>
    exact wp_state ((wp_bind _ _).2 (conclude_act hg ext _ completable (.inl rfl) rfl sid json))
  | fail sid json =>
    exact wp_state ((wp_bind _ _).2 (conclude_act hg ext _ (fun _ h => h) (.inr rfl) rfl sid json))
  | _ => exact wp_state (handsOut_act hg ext rfl)

/-- **Every call has an effect and only adds to the log.** -/
theorem step_acts (call : Call) (horphans : call.RandomFails → orphans) : Acts orphans c (step ext c call) := by
  cases step_act hg ext call with
  | answered r os now hcall h =>
    subst hcall
    rw [h]
    exact (answered_replies hg r os now).acts hg horphans
  | kept h => rw [h]; exact .refl c
  | begun sid now hcall h => exact h.runs.effect
  | spent sid h => exact h.takes.effect
  | ended sid final hcall hfinal hops h => exact h.acts (.keep hops)

end

theorem reach_good (h : Reach c (step ext) ok c')
    (horphans : ∀ c call, ok c call → call.RandomFails → orphans) : Good orphans c' := by
  apply Reach.invariant hg _ h
  intro c call hg hok
  obtain ⟨heffect, hlogs⟩ := step_acts hg ext call (horphans c call hok)
  exact hg.effect heffect hlogs

end

/-- **The invariant holds of every reachable coordinator.** -/
theorem reachable_good {ok : Call → Prop} (h : Reachable ext ok c)
    (horphans : ∀ call, ok call → call.RandomFails → orphans) : Good orphans c :=
  reach_good (good_new orphans) h (fun _ => horphans)

/-! ## A session that still waits -/

/-- A session stays, and while it waits only its lifecycle changes. -/
theorem Effect.waiting {s : Session} (h : Effect orphans c c') (hg : Good orphans c) (hs : c.session sid = some s) :
    ∃ s', c'.session sid = some s' ∧
      (s'.state = .testReady → s.state = .testReady ∧ s' = s.setLifecycle s'.lifecycle) := by
  have hsame : c'.session sid = some s → ∃ s', c'.session sid = some s' ∧
      (s'.state = .testReady → s.state = .testReady ∧ s' = s.setLifecycle s'.lifecycle) :=
    fun h' => ⟨s, h', fun hst => ⟨hst, by simp⟩⟩
  cases h with
  | keep hsessions
  | orphan _ _ _ _ hsessions => exact hsame ((session_congr hsessions sid).trans hs)
  | edit sid₁ s₁ s₂ hs₁ he hsessions =>
    have hw := hg.writes (.inr ⟨s₁, hs₁, he.sameMap⟩) hsessions
    by_cases hid : sid = sid₁
    · subst hid
      obtain rfl := Option.mem_unique hs hs₁
      refine ⟨s₂, hw.self, fun hst => ?_⟩
      cases he with
      | schedule l startAt hready => exact ⟨hready, by simp⟩
      | run _ _ hrun => rw [hrun] at hst; cases hst
    · exact hsame ((hw.other hid).trans hs)
  | finish sid₁ s₁ s₂ r he =>
    have hw := hg.writes (.inr ⟨s₁, he.session, he.map⟩) he.sessions
    by_cases hid : sid = sid₁
    · subst hid
      refine ⟨s₂, hw.self, fun hst => ?_⟩
      rcases he.results with ⟨hend, -⟩ | ⟨hend | hend, -⟩ <;> rw [hend] at hst <;> cases hst
    · exact hsame ((hw.other hid).trans hs)
  | enroll sid₁ s₁ r request he =>
    have hne : sid ≠ sid₁ := by
      rintro rfl
      cases hs.symm.trans he.new
    exact hsame (((hg.writes (.inl he.new) he.sessions).other hne).trans hs)

/-- **A session that still waits is the one that was prepared, but for its lifecycle.** -/
theorem waiting_kept {s s' : Session} (hg : Good True c) (hs : c.session sid = some s)
    (hrun : Reach c (step ext) ok c') (hs' : c'.session sid = some s') (hready : s'.state = .testReady) :
    s' = s.setLifecycle s'.lifecycle := by
  have hinv : Good True c' ∧ ∃ s', c'.session sid = some s' ∧
      (s'.state = .testReady → s' = s.setLifecycle s'.lifecycle) := by
    apply Reach.invariant ⟨hg, s, hs, fun _ => by simp⟩ _ hrun
    rintro c₁ call ⟨hg₁, s₁, hs₁, hkept⟩ _
    obtain ⟨heffect, hlogs⟩ := step_acts hg₁ ext call (fun _ => trivial)
    obtain ⟨s₂, hs₂, hwait⟩ := heffect.waiting hg₁ hs₁
    refine ⟨hg₁.effect heffect hlogs, s₂, hs₂, fun hst => ?_⟩
    obtain ⟨hst₁, hsame⟩ := hwait hst
    rw [hkept hst₁, Session.setLifecycle_twice] at hsame
    exact hsame
  obtain ⟨-, s₁, hs₁, hkept⟩ := hinv
  obtain rfl := Option.mem_unique hs' hs₁
  exact hkept hready

end Node
end NetTool
