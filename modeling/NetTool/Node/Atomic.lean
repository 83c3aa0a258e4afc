import NetTool.Node.Reservations
/-!
# Node.Atomic — what an error leaves behind

An operation that returns an error leaves the coordinator as it was, with four exceptions (`Tears`): a start whose time
is refused after the remote side was marked ready, a DPDK prepare whose random source fails after the reservation, and
two attempts of the scheduler that find out after the session has begun that it is not theirs.
-/
namespace NetTool
namespace Node

open Prog Speed Resource SpeedTestLifecycle

variable {α β : Type} {orphans : Prop} {c : SessionCoordinator} {sid : SessionId} {now : Nat}

/-- The takes, which the `begin_and_take` operations are built from. -/
def Call.isTake : Call → Bool
  | .takeTcpListener _ | .takeTcpSender _ | .takeTcpBidirectional _ | .takeUdpSocket _ | .takeUdpSender _
  | .takeUdpBidirectional _ => true
  | _ => false

/-- The calls that stop after they have changed something. -/
def Tears (c : SessionCoordinator) : Call → Prop
  | .request (.start sid id startAt) _ now =>
    c.operations.lookup id = none ∧ ∃ s, c.session sid = some s ∧ s.state = .testReady ∧
      now / nanosecondsPerSecond ≤ s.authorization.expiresAtUnixSeconds ∧
      startAt / nanosecondsPerSecond ≤ s.authorization.expiresAtUnixSeconds ∧
      s.lifecycle.remoteReady = false ∧ (startAt = 0 ∨ startAt < now)
  | .request (.prepareDpdkReceiver r) os now =>
    Strands r os (now / nanosecondsPerSecond) c ∧ Grantable (dpdkReservation r) c.resources
  | .beginAndTakeReceiver sid now => ∃ s startAt, Begins c sid now s startAt ∧ s.isDpdk = true
  | .beginAndTakeSender sid now => ∃ s startAt, Begins c sid now s startAt ∧ s.isTcpBidirectional = true
  | _ => False

/-- An error of the program leaves the coordinator as it was. -/
def Steady (m : Coord α) (c : SessionCoordinator) : Prop := wp m (fun _ _ => True) (fun _ c' => c' = c) c

theorem steady_iff {m : Coord α} : Steady m c ↔ ∀ e c', m c = (.error e, c') → c' = c := by
  constructor
  · intro h e c' hm
    exact wp_error (E := fun _ c' => c' = c) h hm
  · intro h
    unfold Steady wp
    rcases hm : m c with ⟨e | a, c'⟩
    · exact h e c' hm
    · trivial

theorem Steady.bind_pure {m : Coord α} {f : α → β} (h : Steady m c) : Steady (m >>= fun a => pure (f a)) c :=
  (wp_bind _ _).2 (wp_mono h (fun _ _ _ => trivial) (fun _ _ he => he))

theorem steady_bind_pure {m : Coord α} {f : α → β} : Steady (m >>= fun a => pure (f a)) c ↔ Steady m c := by
  refine ⟨fun h => ?_, Steady.bind_pure⟩
  exact wp_mono ((wp_bind _ _).1 h) (fun _ _ _ => trivial) (fun _ _ he => he)

theorem not_steady {m : Coord α} (h : wp m (fun _ _ => False) (fun _ c' => c' ≠ c) c) : ¬ Steady m c := by
  intro hsteady
  rcases wp_cases (wp_and h hsteady) with ⟨_, _, _, hfalse, -⟩ | ⟨_, c', _, hne, heq⟩
  · exact hfalse
  · exact hne heq

/-! ## The calls that tear -/

theorem ne_of_session {c' : SessionCoordinator} {s s' : Session} (hs : c.session sid = some s)
    (hs' : c'.session sid = some s') (hne : s ≠ s') : c' ≠ c := by
  intro heq
  rw [heq, hs, Option.some.injEq] at hs'
  exact hne hs'

theorem start_steady_iff (hg : Good orphans c) (sid : SessionId) (id : String) (startAt now : Nat) (os : Os) :
    Steady (start sid id startAt now) c ↔ ¬ Tears c (.request (.start sid id startAt) os now) := by
  constructor
  · rintro hsteady ⟨hop, s, hs, hready, hunexpired, hcovered, hremote, hrefused⟩
    refine not_steady ?_ hsteady
    obtain ⟨scheduled, hwaits⟩ := (hg.shape sid s hs).waits hready
    have hstartable : Startable c sid startAt now s scheduled := ⟨hs, hready, hwaits, hunexpired, hcovered⟩
    apply wp_mono (wp_start hg sid id startAt now)
    · rintro state c' (⟨-, record, hrec, -⟩ | ⟨-, s', scheduled', -, hcan, -⟩)
      · rw [hop] at hrec; cases hrec
      · obtain ⟨hzero, hpast, -⟩ := hcan
        omega
    · rintro e c' (⟨-, hnot⟩ | ⟨-, s', scheduled', hstartable', -, rfl⟩)
      · exact absurd ⟨s, scheduled, hstartable⟩ (hnot hop)
      · obtain rfl : s' = s := Option.mem_unique hstartable'.session hs
        apply ne_of_session hs (hg.session_setSession hs (by simp))
        intro heq
        have hlife := congrArg (fun s => s.lifecycle.remoteReady) heq
        simp only [hremote, Session.lifecycle_setLifecycle] at hlife
        cases hlife
  · intro hnot
    refine wp_mono (wp_start hg sid id startAt now) (fun _ _ _ => trivial) ?_
    rintro e c' (⟨rfl, -⟩ | ⟨hop, s, scheduled, hst, hcannot, rfl⟩)
    · rfl
    have hlife : ∀ l, s.lifecycle = l → l = ready scheduled →
      c.setSession sid (s.setLifecycle (ready scheduled)) = c := by
      rintro l rfl hl
      rw [← hl, Session.setLifecycle_self]
      exact hg.setSession_self hst.session
    generalize hl : s.lifecycle = l at hlife
    have hwaits := hst.waits
    rw [hl] at hwaits
    cases hwaits with
    | ready => exact hlife _ rfl rfl
    | waiting =>
      -- nothing was scheduled, so the time itself was refused
      refine absurd ⟨hop, s, hst.session, hst.state, hst.unexpired, hst.covered, by rw [hl]; rfl, ?_⟩ hnot
      by_contra hok
      rw [not_or] at hok
      exact hcannot ⟨hok.1, by omega, .inl rfl⟩

theorem prepareDpdkReceiver_steady_iff (hg : Good orphans c) (r : PrepareDpdkReceiverRequest) (os : Os) (now : Nat) :
    Steady (prepareDpdkReceiver r os (now / nanosecondsPerSecond)) c ↔
      ¬ Tears c (.request (.prepareDpdkReceiver r) os now) := by
  constructor
  · rintro hsteady ⟨hstrands, hgrant⟩
    refine not_steady ?_ hsteady
    apply wp_mono (wp_prepareDpdkReceiver r os _ c)
    · rintro a c' (⟨-, record, hrec, -⟩ | ⟨expiresAt, tag, res, m, hprep⟩)
      · rw [hstrands.fresh] at hrec; cases hrec
      · obtain ⟨error, herror⟩ := hstrands.random
        have hdrawn := hprep.drawn
        unfold randomTag at hdrawn
        rw [herror] at hdrawn
        cases hdrawn
    · rintro e c' (⟨-, hnot⟩ | ⟨-, res, m, hacq, rfl⟩)
      · exact absurd ⟨hstrands, hgrant⟩ hnot
      · intro heq
        have hlookup := hacq.sets.lookup (dpdkReservation r).reservationId
        have hm : m = c.resources := congrArg SessionCoordinator.resources heq
        rw [if_pos rfl, hm, hgrant.absent] at hlookup
        cases hlookup
  · intro hnot
    refine wp_mono (wp_prepareDpdkReceiver r os _ c) (fun _ _ _ => trivial) ?_
    rintro e c' (⟨rfl, -⟩ | ⟨hstrands, res, m, hacq, rfl⟩)
    · rfl
    -- a reservation that was there has no session, so it was left behind active and is unchanged
    rcases hacq.grounds with hgrant | ⟨old, hold, -, hst⟩
    · exact absurd ⟨hstrands, hgrant⟩ hnot
    rcases hst with hpending | ⟨-, rfl⟩
    · exfalso
      rcases hg.owned _ old hold with ⟨sid', s', hs', hid⟩ | ⟨-, hactive⟩
      · obtain ⟨kind, hkind⟩ := (hg.shape sid' s' hs').reservation
        rw [hkind] at hid
        have hsid : sid' = r.sessionId :=
          Subtype.ext (append_hexString_injective (sid'.2.trans r.sessionId.2.symm) hid)
        rw [hsid, hstrands.new] at hs'
        cases hs'
      · rw [hpending] at hactive; cases hactive
    · rfl

theorem begun_ne {s : Session} {startAt : Nat} (hg : Good orphans c) (hb : Begins c sid now s startAt) :
    c.setSession sid s.begun ≠ c := by
  apply ne_of_session hb.session (hb.session_begun hg)
  intro heq
  have hst := congrArg Session.state heq
  rw [hb.state, Session.state_begun] at hst
  cases hst

/-- An attempt on a session that does not begin changes nothing, so only those that begin matter. -/
theorem steady_of_begins {m : Coord α}
    (hrefused : (¬ ∃ s startAt, Begins c sid now s startAt) → wp m (fun _ _ => False) (fun _ c' => c' = c) c)
    (hbegins : ∀ s startAt, Begins c sid now s startAt → Steady m c) : Steady m c := by
  by_cases hb : ∃ s startAt, Begins c sid now s startAt
  · obtain ⟨s, startAt, hb⟩ := hb
    exact hbegins s startAt hb
  · exact wp_mono (hrefused hb) (fun _ _ _ => trivial) (fun _ _ h => h)

theorem beginAndTakeReceiver_steady_iff (hg : Good orphans c) (sid : SessionId) (now : Nat) :
    Steady (beginAndTakeReceiver sid now) c ↔ ¬ Tears c (.beginAndTakeReceiver sid now) := by
  constructor
  · rintro hsteady ⟨s, startAt, hb, hdpdk⟩
    refine not_steady ?_ hsteady
    apply wp_mono (wp_beginAndTakeReceiver hg hb)
    · intro w c' hw
      cases s with
      | dpdk x => cases hw
      | _ => cases hdpdk
    · rintro e c' ⟨-, ⟨hnot, -⟩ | ⟨-, rfl⟩⟩
      · rw [hdpdk] at hnot; cases hnot
      · exact begun_ne hg hb
  · intro hnot
    apply steady_of_begins (wp_not_begins hg)
    intro s startAt hb
    refine wp_mono (wp_beginAndTakeReceiver hg hb) (fun _ _ _ => trivial) ?_
    rintro e c' ⟨-, ⟨-, rfl⟩ | ⟨hdpdk, -⟩⟩
    · rfl
    · exact absurd ⟨s, startAt, hb, hdpdk⟩ hnot

theorem beginAndTakeSender_steady_iff (hg : Good orphans c) (sid : SessionId) (now : Nat) :
    Steady (beginAndTakeSender sid now) c ↔ ¬ Tears c (.beginAndTakeSender sid now) := by
  constructor
  · rintro hsteady ⟨s, startAt, hb, hboth⟩
    refine not_steady ?_ hsteady
    apply wp_mono (wp_beginAndTakeSender hg hb)
    · intro w c' hw
      cases s with
      | tcp x =>
        simp only [Session.isTcpBidirectional, Bool.and_eq_true] at hboth
        obtain ⟨destination, hdest⟩ := Option.isSome_iff_exists.1 hboth.1
        obtain ⟨run, hcfg⟩ := Option.isSome_iff_exists.1 hboth.2
        simp [Session.sender, hdest, hcfg] at hw
      | _ => cases hboth
    · rintro e c' ⟨-, ⟨hnot, -⟩ | ⟨-, rfl⟩⟩
      · rw [hboth] at hnot; cases hnot
      · exact begun_ne hg hb
  · intro hnot
    apply steady_of_begins (wp_not_begins hg)
    intro s startAt hb
    refine wp_mono (wp_beginAndTakeSender hg hb) (fun _ _ _ => trivial) ?_
    rintro e c' ⟨-, ⟨-, rfl⟩ | ⟨hboth, -⟩⟩
    · rfl
    · exact absurd ⟨s, startAt, hb, hboth⟩ hnot

/-! ## The calls that do not -/

theorem prepare_steady {Endpoint Reply : Type} (p : Preparation Endpoint Reply) (os : Os) (now : Nat) :
    Steady (prepare p os now) c := wp_mono (wp_prepare p os now c) (fun _ _ _ => trivial) (fun _ _ h => h)

section
variable (hg : Good orphans c)
include hg

theorem beginAndTakeDpdkReceiver_steady (sid : SessionId) (now : Nat) :
    Steady (beginAndTakeDpdkReceiver sid now) c := by
  apply steady_of_begins (wp_not_begins hg)
  intro s startAt hb
  exact wp_mono (wp_beginAndTakeDpdkReceiver hg hb) (fun _ _ _ => trivial) (fun _ _ h => h.2)

theorem beginAndTakeBidirectional_steady (sid : SessionId) (now : Nat) :
    Steady (beginAndTakeBidirectional sid now) c := by
  apply steady_of_begins (wp_not_begins hg)
  intro s startAt hb
  exact wp_mono (wp_beginAndTakeBidirectional hg hb) (fun _ _ _ => trivial) (fun _ _ h => h.2)

theorem answer_steady_iff (r : Request) (os : Os) (now : Nat) :
    Steady (r.answer os now) c ↔ ¬ Tears c (.request r os now) := by
  cases r with
  | start sid id startAt => exact steady_bind_pure.trans (start_steady_iff hg sid id startAt now os)
  | prepareDpdkReceiver r => exact steady_bind_pure.trans (prepareDpdkReceiver_steady_iff hg r os now)
  | prepareTcp r => exact iff_of_true (prepare_steady (tcpPreparation r) os _).bind_pure id
  | prepareTcpSender r => exact iff_of_true (prepare_steady (tcpSenderPreparation r) os _).bind_pure id
  | prepareTcpBidirectional r => exact iff_of_true (prepare_steady (tcpBidirectionalPreparation r) os _).bind_pure id
  | prepareUdp r => exact iff_of_true (prepare_steady (udpPreparation r) os _).bind_pure id
  | prepareUdpSender r => exact iff_of_true (prepare_steady (udpSenderPreparation r) os _).bind_pure id
  | prepareUdpBidirectional r => exact iff_of_true (prepare_steady (udpBidirectionalPreparation r) os _).bind_pure id
  | stop sid id =>
    exact iff_of_true (Steady.bind_pure (wp_mono (wp_stop hg sid id) (fun _ _ _ => trivial) (fun _ _ h => h)))
      (fun h => h)

end

/-- **An error leaves the coordinator as it was, exactly outside the four cases.** -/
theorem error_leaves_unchanged_iff {ext : Externals} {c : SessionCoordinator} (h : Reachable ext (fun _ => True) c)
    (call : Call) (htake : call.isTake = false) :
    (∀ e c', call.run ext c = (.error e, c') → c' = c) ↔ ¬ Tears c call := by
  have hg : Good True c := reachable_good h (fun _ _ _ => trivial)
  rw [← steady_iff]
  cases call with
  | request r os now => exact steady_bind_pure.trans (answer_steady_iff hg r os now)
  | beginScheduled sid now =>
    exact iff_of_true (Steady.bind_pure (wp_mono (wp_beginScheduled hg sid now) (fun _ _ _ => trivial)
      (fun _ _ h => h.1))) id
  | beginAndTakeDpdkReceiver sid now => exact iff_of_true (beginAndTakeDpdkReceiver_steady hg sid now).bind_pure id
  | beginAndTakeBidirectional sid now => exact iff_of_true (beginAndTakeBidirectional_steady hg sid now).bind_pure id
  | beginAndTakeReceiver sid now => exact steady_bind_pure.trans (beginAndTakeReceiver_steady_iff hg sid now)
  | beginAndTakeSender sid now => exact steady_bind_pure.trans (beginAndTakeSender_steady_iff hg sid now)
  | complete sid json =>
    exact iff_of_true (Steady.bind_pure (wp_mono (wp_conclude hg ext _ completable (.inl rfl) sid json)
      (fun _ _ _ => trivial) (fun _ _ h => h.1))) id
  | fail sid json =>
    exact iff_of_true (Steady.bind_pure (wp_mono (wp_conclude hg ext _ (fun _ h => h) (.inr rfl) sid json)
      (fun _ _ _ => trivial) (fun _ _ h => h.1))) id
  | _ => cases htake

/-! A TCP receiver that waits for its start, and a start at time zero. -/

def sampleWaiting : SessionCoordinator := step sampleExternals .new (.request (.prepareTcp sampleTcp) sampleOs 0)

theorem sampleWaiting_reachable : Reachable sampleExternals (fun _ => True) sampleWaiting := .step _ .init trivial

def startAtZero : Call := .request (.start (sampleId 1) "start-1" 0) sampleOs 0

theorem error_leaves_unchanged_iff_sample :
    Reachable sampleExternals (fun _ => True) sampleWaiting ∧
    ((∀ e c', startAtZero.run sampleExternals sampleWaiting = (.error e, c') → c' = sampleWaiting) ↔
      ¬ Tears sampleWaiting startAtZero) :=
  ⟨sampleWaiting_reachable, error_leaves_unchanged_iff sampleWaiting_reachable startAtZero rfl⟩

/-- The start is refused, and the session is marked ready all the same. -/
theorem refused_start_marks_ready :
    Reachable sampleExternals (fun _ => True) sampleWaiting ∧
    (startAtZero.run sampleExternals sampleWaiting).1 = .error (Speed.invalidArgument "start_at must be non-zero") ∧
    (startAtZero.run sampleExternals sampleWaiting).2 ≠ sampleWaiting := by
  refine ⟨sampleWaiting_reachable, by decide, fun heq => ?_⟩
  have hlife := congrArg (fun c : SessionCoordinator => (c.session (sampleId 1)).map (·.lifecycle.remoteReady)) heq
  revert hlife
  decide

end Node
end NetTool
