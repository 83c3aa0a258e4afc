import Mathlib.Data.List.Induction
import NetTool.Node.Turn
/-!
# Node.History — the life of a session over a whole run

A run is the list of the calls made on a new coordinator, each with the clock its caller read.  Over every run a session
begins at most once and not before an accepted start, is handed out at most once, stays ended, and has a result exactly
when it was completed or failed (`session_history`).  A canceled session never gets one, yet asking for it is answered
with an error that says to ask again (`canceled_result_is_retryable`).
-/
namespace NetTool
namespace Node

open Prog Speed Resource SpeedTestLifecycle

variable {α : Type} {c c' : SessionCoordinator} {sid : SessionId} {orphans : Prop} {ext : Externals} {call : Call}

/-! ## Sessions that have ended, and results -/

variable {state : NodeConnectionState} {s : Session} {result : TestResult} {I : SessionCoordinator → Prop}

theorem Ended.not_live (h : Ended state) : cancelable state = false := by
  rcases h with rfl | rfl | rfl <;> rfl

/-- **An ended session is left alone.** -/
theorem Effect.ended (h : Effect orphans c c') (hg : Good orphans c) (hs : c.session sid = some s)
    (hended : Ended s.state) : c'.session sid = some s := by
  have hother : ∀ {sid₁ s₁ s'}, c.session sid₁ = some s₁ → cancelable s₁.state = true → Writes sid₁ s' c c' →
      c'.session sid = some s := by
    intro sid₁ s₁ s' hs₁ hlive hw
    have hne : sid ≠ sid₁ := by
      intro heq
      rw [← heq, hs, Option.some.injEq] at hs₁
      rw [← hs₁, hended.not_live] at hlive
      cases hlive
    rw [hw.other hne, hs]
  cases h with
  | keep hsessions
  | orphan _ _ _ _ hsessions => rw [session_congr hsessions, hs]
  | edit sid₁ s₁ s₂ hs₁ he hsessions => exact hother hs₁ he.live.1 (hg.writes (.inr ⟨s₁, hs₁, he.sameMap⟩) hsessions)
  | finish sid₁ s₁ s₂ r he => exact hother he.session he.live (hg.writes (.inr ⟨s₁, he.session, he.map⟩) he.sessions)
  | enroll sid₁ s₁ r request he =>
    have hne : sid ≠ sid₁ := by
      rintro rfl
      cases hs.symm.trans he.new
    rw [(hg.writes (.inl he.new) he.sessions).other hne, hs]

def Concluded (s : Session) : Prop := s.state = .completed ∨ s.state = .failed

theorem Concluded.ended (h : Concluded s) : Ended s.state := h.imp_right .inl

/-- A call stores nothing and concludes no session, or it concludes a live session and stores its result. -/
theorem Effect.results (h : Effect orphans c c') (hg : Good orphans c) :
    (c'.results = c.results ∧ ∀ sid s', c'.session sid = some s' → Concluded s' → c.session sid = some s') ∨
    ∃ sid s s' result, c.session sid = some s ∧ cancelable s.state = true ∧ Writes sid s' c c' ∧ Concluded s' ∧
      c'.results = c.results.put sid result := by
  have hsame : ∀ {sid₁ s'}, Writes sid₁ s' c c' → ¬ Concluded s' →
      ∀ sid s, c'.session sid = some s → Concluded s → c.session sid = some s :=
    fun hw hnot => hw.forall (fun hconcluded => absurd hconcluded hnot) (fun _ _ _ hs _ => hs)
  cases h with
  | keep hsessions _ hres
  | orphan _ _ _ _ hsessions _ hres => exact .inl ⟨hres.1, fun sid s' hs' _ => by rw [← session_congr hsessions, hs']⟩
  | edit sid s s' hs he hsessions _ hres =>
    refine .inl ⟨hres.1, hsame (hg.writes (.inr ⟨s, hs, he.sameMap⟩) hsessions) ?_⟩
    have hlive := he.live.2
    rintro (hst | hst) <;> rw [hst] at hlive <;> cases hlive
  | enroll sid s r request he =>
    refine .inl ⟨he.results.1, hsame (hg.writes (.inl he.new) he.sessions) ?_⟩
    rintro (hst | hst) <;> rw [he.state] at hst <;> cases hst
  | finish sid s s' r he =>
    have hw := hg.writes (.inr ⟨s, he.session, he.map⟩) he.sessions
    rcases he.results with ⟨hcanceled, hres⟩ | ⟨hconcluded, result, hres⟩
    · refine .inl ⟨hres, hsame hw ?_⟩
      rintro (hst | hst) <;> rw [hcanceled] at hst <;> cases hst
    · exact .inr ⟨sid, s, s', result, he.session, he.live, hw, hconcluded, hres⟩

theorem Good.no_result (hg : Good orphans c) (hs : c.session sid = some s) (hlive : cancelable s.state = true) :
    c.results.lookup sid = none := by
  refine Option.eq_none_iff_forall_ne_some.2 (fun result hres => ?_)
  obtain ⟨s₁, hs₁, hconcluded⟩ := hg.results sid result hres
  have hconcluded : Concluded s₁ := hconcluded
  rw [hs, Option.some.injEq] at hs₁
  rw [hs₁, hconcluded.ended.not_live] at hlive
  cases hlive

/-- **A stored result stays.** -/
theorem Effect.result_kept (h : Effect orphans c c') (hg : Good orphans c) (hres : c.results.lookup sid = some result) :
    c'.results.lookup sid = some result := by
  rcases h.results hg with ⟨hsame, -⟩ | ⟨sid₁, s₁, s', result', hs₁, hlive, -, -, hput⟩
  · rw [hsame, hres]
  · have hne : sid ≠ sid₁ := by
      intro heq
      rw [heq, hg.no_result hs₁ hlive] at hres
      cases hres
    rw [hput, Table.lookup_put, if_neg hne, hres]

def Stored (c : SessionCoordinator) : Prop :=
  ∀ sid s, c.session sid = some s → Concluded s → (c.results.lookup sid).isSome = true

theorem Effect.stored (h : Effect orphans c c') (hg : Good orphans c) (hstored : Stored c) : Stored c' := by
  rcases h.results hg with ⟨hsame, hconcluded⟩ | ⟨sid₁, s₁, s', result, -, -, hw, -, hput⟩
  · intro sid s hs hend
    rw [hsame]
    exact hstored sid s (hconcluded sid s hs hend) hend
  · rw [Stored, hput]
    refine hw.forall (fun _ => ?_) (fun sid s hne hs hend => ?_)
    · rw [Table.lookup_put, if_pos rfl]
      rfl
    · rw [Table.lookup_put, if_neg hne]
      exact hstored sid s hs hend

def Sealed (ext : Externals) (c : SessionCoordinator) : Prop :=
  ∀ sid result, c.results.lookup sid = some result → result.checksum = ext.sha256 result.resultJson

/-- What a concluding call stores is sealed; the other calls store nothing. -/
theorem step_sealed (hg : Good True c) (ext : Externals) (call : Call) (h : Sealed ext c) :
    Sealed ext (step ext c call) := by
  have hconclude : ∀ {allowed refusal final sid json}, (∀ state, allowed state = true → cancelable state = true) →
      (final = .completed ∨ final = .failed) →
      Sealed ext ((do let _ ← conclude ext allowed refusal final sid json : Coord Unit) c).2 := by
    intro allowed refusal final sid json hallowed hfinal
    apply wp_state
    refine (wp_bind _ _).2 (wp_mono (wp_conclude hg ext refusal hallowed hfinal sid json) ?_ ?_)
    · rintro _ c' ⟨-, ⟨rfl, -⟩ | ⟨-, hput⟩⟩
      · exact h
      · intro sid₁ result hres
        rw [hput] at hres
        rcases Table.lookup_put_cases hres with ⟨-, rfl⟩ | ⟨-, hold⟩
        · rfl
        · exact h sid₁ result hold
    · rintro _ _ ⟨rfl, -⟩
      exact h
  by_cases hcall : call.concludes = true
  · cases call with
    | complete sid json => exact hconclude completable (.inl rfl)
    | fail sid json => exact hconclude (fun _ h => h) (.inr rfl)
    | _ => cases hcall
  · rcases (step_acts hg ext call (fun _ => trivial)).1.results hg with
      ⟨hsame, -⟩ | ⟨sid, s, s', result, hs, hlive, hw, hend, -⟩
    · rw [Sealed, hsame]
      exact h
    · -- a call that concludes nothing leaves no session completed or failed that was live
      exfalso
      cases step_turns hg ext call sid s' hw.self with
      | aged s₁ hs₁ hstate =>
        rw [hs, Option.some.injEq] at hs₁
        rw [hs₁, ← hstate, hend.ended.not_live] at hlive
        cases hlive
      | prepared _ hstate
      | begun _ _ _ _ _ hstate
      | canceled hstate => rcases hend with hst | hst <;> rw [hstate] at hst <;> cases hst
      | concluded hconcludes => exact hcall hconcludes

/-! ## Handing out -/

def Gives (sid : SessionId) (c c' : SessionCoordinator) : Prop :=
  ∃ s s', c.session sid = some s ∧ ¬ Ended s.state ∧ s.Loaded ∧ c'.session sid = some s' ∧ (s.Single → ¬ s'.Loaded)

section
variable (hg : Good orphans c)
include hg

theorem HandsOver.gives (h : HandsOver sid c c') : Gives sid c c' := by
  obtain ⟨s, s', hs, hrun, hloaded, -, hages, hempty, -, rfl⟩ := h
  refine ⟨s, s', hs, ?_, hloaded, hg.session_setSession hs hages.sameMap, hempty⟩
  rw [hrun]
  rintro (hst | hst | hst) <;> cases hst

theorem BegunAndTaken.gives {now : Nat} (h : BegunAndTaken sid now c c') : Gives sid c c' := by
  obtain ⟨s, startAt, s', hb, hloaded, -, hages, hempty, -, rfl⟩ := h
  refine ⟨s, s', hb.session, ?_, hloaded, hg.session_setSession hb.session hages.sameMap, hempty⟩
  rw [hb.state]
  rintro (hst | hst | hst) <;> cases hst

/-- **A call that hands out a session empties it.** -/
theorem HandsOut.gives (h : HandsOut ext c sid call) : Gives sid c (step ext c call) := by
  obtain ⟨hcall, hok⟩ := h
  have hgives : wp (call.run ext) (fun _ => Gives sid c) (fun _ _ => True) c := by
    rcases handsOut_run hg ext hcall with ⟨now, -, h⟩ | h
    · exact wp_mono h (fun _ _ hr => hr.gives hg) (fun _ _ _ => trivial)
    · exact wp_mono h (fun _ _ hands => hands.gives hg) (fun _ _ _ => trivial)
  have hrun : call.run ext c = (.ok (), step ext c call) := Prod.ext hok rfl
  have hempties := wp_ok hgives hrun
  exact hempties

end

def Spent (sid : SessionId) (c : SessionCoordinator) : Prop :=
  ∃ s, c.session sid = some s ∧ (Ended s.state ∨ ¬ s.Loaded)

theorem Spent.not_handsOut (hg : Good orphans c) (h : Spent sid c) : ¬ HandsOut ext c sid call := by
  intro hout
  obtain ⟨s, hs, hspent⟩ := h
  obtain ⟨s₁, -, hs₁, hlive, hloaded, -⟩ := hout.gives hg
  obtain rfl := Option.mem_unique hs hs₁
  rcases hspent with hended | hempty
  · exact hlive hended
  · exact hempty hloaded

/-- The sessions that can still be handed out are whole. -/
def Whole (c : SessionCoordinator) : Prop := ∀ sid s, c.session sid = some s → ¬ Ended s.state → s.Single

theorem Turns.whole (h : Turns call c c') (hwhole : Whole c) : Whole c' := by
  intro sid s' hs' hlive
  cases h sid s' hs' with
  | prepared _ _ _ hsingle => exact hsingle
  | aged s hs hstate hages => exact hages.single (hwhole sid s hs (by rw [← hstate]; exact hlive))
  | begun s now startAt _ hb _ hages =>
    refine hages.single (hwhole sid s hb.session ?_)
    rw [hb.state]
    rintro (hst | hst | hst) <;> cases hst
  | canceled hstate => exact absurd (.inr (.inr hstate)) hlive
  | concluded _ hstate => exact absurd (Concluded.ended hstate) hlive

theorem HandsOut.spent (hg : Good orphans c) (hwhole : Whole c) (h : HandsOut ext c sid call) :
    Spent sid (step ext c call) := by
  obtain ⟨s, s', hs, hlive, -, hs', hempty⟩ := h.gives hg
  exact ⟨s', hs', .inr (hempty (hwhole sid s hs hlive))⟩

theorem Spent.step (hg : Good True c) (h : Spent sid c) : Spent sid (step ext c call) := by
  obtain ⟨s, hs, hspent⟩ := h
  have heffect := (step_acts hg ext call (fun _ => trivial)).1
  obtain ⟨s', hs', -⟩ := heffect.waiting hg hs
  rcases hspent with hended | hempty
  · exact ⟨s, heffect.ended hg hs hended, .inl hended⟩
  · refine ⟨s', hs', ?_⟩
    cases step_turns hg ext call sid s' hs' with
    | prepared hnew => rw [hs] at hnew; cases hnew
    | aged s₁ hs₁ _ hages =>
      rw [hs, Option.some.injEq] at hs₁
      rw [← hs₁] at hages
      exact .inr (fun hloaded => hempty (hages.loaded hloaded))
    | begun s₁ now startAt _ hb _ hages =>
      have hs₁ := hb.session
      rw [hs, Option.some.injEq] at hs₁
      rw [← hs₁] at hages
      exact .inr (fun hloaded => hempty (hages.loaded hloaded))
    | canceled hstate => exact .inl (.inr (.inr hstate))
    | concluded _ hstate => exact .inl (Concluded.ended hstate)

/-! ## Beginning -/

/-- **A session enters running only when it begins.** -/
theorem Enters.begins (hg : Good orphans c) (h : Enters ext c sid call) :
    ∃ now s startAt, call.beginsAt = some (sid, now) ∧ Begins c sid now s startAt := by
  obtain ⟨hbefore, hafter⟩ := h
  rw [sessionState_eq, Option.map_eq_some_iff] at hafter
  obtain ⟨s', hs', hrun⟩ := hafter
  cases step_turns hg ext call sid s' hs' with
  | aged s hs hstate =>
    rw [sessionState_eq, hs, Option.map_some, ← hstate, hrun] at hbefore
    exact absurd rfl hbefore
  | begun s now startAt hcall hb => exact ⟨now, s, startAt, hcall, hb⟩
  | prepared _ hstate
  | canceled hstate => rw [hrun] at hstate; cases hstate
  | concluded _ hstate => rcases hstate with hst | hst <;> rw [hrun] at hst <;> cases hst

def Entered (sid : SessionId) (c : SessionCoordinator) : Prop := ∃ s, c.session sid = some s ∧ s.state ≠ .testReady

theorem Enters.entered (h : Enters ext c sid call) : Entered sid (step ext c call) := by
  have hafter := h.2
  rw [sessionState_eq, Option.map_eq_some_iff] at hafter
  obtain ⟨s', hs', hrun⟩ := hafter
  exact ⟨s', hs', by rw [hrun]; simp⟩

theorem Entered.step (hg : Good True c) (h : Entered sid c) : Entered sid (step ext c call) := by
  obtain ⟨s, hs, hnot⟩ := h
  obtain ⟨s', hs', hwaits⟩ := (step_acts hg ext call (fun _ => trivial)).1.waiting hg hs
  exact ⟨s', hs', fun hready => hnot (hwaits hready).1⟩

theorem Entered.not_enters (hg : Good orphans c) (h : Entered sid c) : ¬ Enters ext c sid call := by
  intro henters
  obtain ⟨now, s, startAt, -, hb⟩ := henters.begins hg
  obtain ⟨s₁, hs₁, hnot⟩ := h
  rw [hb.session, Option.some.injEq] at hs₁
  rw [← hs₁] at hnot
  exact hnot hb.state

/-! ## Runs -/

def runCalls (ext : Externals) (calls : List Call) : SessionCoordinator := calls.foldl (step ext) .new

/-- One of the calls was a start of the session at `startAt` that the coordinator accepted. -/
def StartedIn (ext : Externals) (calls : List Call) (sid : SessionId) (startAt : Nat) : Prop :=
  ∃ pre call post, calls = pre ++ call :: post ∧ call.AcceptsStart (runCalls ext pre) sid startAt

variable (calls : List Call)

theorem runCalls_snoc (call : Call) :
    runCalls ext (calls ++ [call]) = step ext (runCalls ext calls) call := List.foldl_append

/-- What holds at a state and is kept by every call holds after more calls. -/
theorem runCalls_invariant (hstep : ∀ c call, I c → I (step ext c call)) (calls more : List Call)
    (h : I (runCalls ext calls)) : I (runCalls ext (calls ++ more)) := by
  induction more using List.reverseRecOn with
  | nil => rw [List.append_nil]; exact h
  | append_singleton more call ih =>
    rw [← List.append_assoc, runCalls_snoc]
    exact hstep _ call ih

/-- What holds of every coordinator. -/
structure Lived (ext : Externals) (c : SessionCoordinator) : Prop where
  good : Good True c
  whole : Whole c
  stored : Stored c
  sealed : Sealed ext c

theorem Lived.step (h : Lived ext c) (call : Call) : Lived ext (step ext c call) := by
  obtain ⟨heffect, hlogs⟩ := step_acts h.good ext call (fun _ => trivial)
  exact ⟨h.good.effect heffect hlogs, (step_turns h.good ext call).whole h.whole, heffect.stored h.good h.stored,
    step_sealed h.good ext call h.sealed⟩

theorem lived_new (ext : Externals) : Lived ext .new := by
  refine ⟨good_new True, fun sid s hs => ?_, fun sid s hs => ?_, fun sid result hres => ?_⟩
  · simp at hs
  · simp at hs
  · simp [SessionCoordinator.new] at hres

theorem lived_runCalls (ext : Externals) (calls : List Call) : Lived ext (runCalls ext calls) := by
  have h := runCalls_invariant (fun _ call hc => hc.step call) [] calls (lived_new ext)
  exact h

section
variable (hstep : ∀ c call, Lived ext c → I c → I (step ext c call))
include hstep

/-- What every call keeps, given what holds of every coordinator. -/
theorem runCalls_keeps (calls more : List Call) (h : I (runCalls ext calls)) : I (runCalls ext (calls ++ more)) := by
  have hinv : Lived ext (runCalls ext (calls ++ more)) ∧ I (runCalls ext (calls ++ more)) := by
    apply runCalls_invariant (I := fun c => Lived ext c ∧ I c) _ calls more ⟨lived_runCalls ext calls, h⟩
    exact fun c call hc => ⟨hc.1.step call, hstep c call hc.1 hc.2⟩
  exact hinv.2

theorem runCalls_after (calls : List Call) (call : Call)
    (more : List Call) (h : I (step ext (runCalls ext calls) call)) : I (runCalls ext (calls ++ call :: more)) := by
  rw [← runCalls_snoc] at h
  rw [← List.singleton_append, ← List.append_assoc]
  exact runCalls_keeps hstep _ more h

end

/-- **The start time a waiting session has was accepted.** -/
theorem waits_startedIn {t : Nat} (hs : (runCalls ext calls).session sid = some s)
    (hready : s.state = .testReady) (hwaits : s.lifecycle.Waits (some t)) : StartedIn ext calls sid t := by
  induction calls using List.reverseRecOn generalizing s with
  | nil => simp [runCalls] at hs
  | append_singleton calls call ih =>
    rw [runCalls_snoc] at hs
    cases step_turns (lived_runCalls ext calls).good ext call sid s hs with
    | prepared _ _ hlife =>
      rw [hlife] at hwaits
      cases hwaits.unique .waiting
    | aged s₀ hs₀ hstate _ hlife =>
      rcases hlife hready t hwaits with hearlier | haccepts
      · obtain ⟨pre, call₁, post, hcalls, haccepts⟩ := ih hs₀ (by rw [← hstate]; exact hready) hearlier
        exact ⟨pre, call₁, post ++ [call], by rw [hcalls, List.append_assoc, List.cons_append], haccepts⟩
      · exact ⟨calls, call, [], rfl, haccepts⟩
    | begun _ _ _ _ _ hstate
    | canceled hstate => rw [hready] at hstate; cases hstate
    | concluded _ hstate => rcases hstate with hst | hst <;> rw [hready] at hst <;> cases hst

theorem startedIn_logged {calls : List Call} {t : Nat} (h : StartedIn ext calls sid t) :
    ∃ id state, (runCalls ext calls).operations.lookup id = some (.start sid t state) := by
  obtain ⟨pre, call, post, rfl, haccepts⟩ := h
  unfold Call.AcceptsStart at haccepts
  split at haccepts
  case h_2 => exact absurd haccepts not_false
  rename_i id _ os now
  obtain ⟨hsid, ht, state, hok⟩ := haccepts
  obtain rfl := hsid.symm
  obtain rfl := ht.symm
  have hg := (lived_runCalls ext pre).good
  have hcall : start sid id t now (runCalls ext pre) = (.ok state, (start sid id t now (runCalls ext pre)).2) :=
    Prod.ext hok rfl
  have hlogged := wp_ok (start_recorded_of_ok hg sid id t now) hcall
  refine ⟨id, state, runCalls_after (I := fun c => c.operations.lookup id = some (.start sid t state)) ?_ pre _ post ?_⟩
  · exact fun c call hc hop => (step_acts hc.good ext call (fun _ => trivial)).2.lookup hop
  · show ((((Request.start sid id t).answer os now >>= fun _ => pure ()) (runCalls ext pre)).2).operations.lookup id = _
    rw [bind_pure_snd]
    show (((start sid id t now >>= fun a => pure (Response.state a)) (runCalls ext pre)).2).operations.lookup id = _
    rw [bind_pure_snd]
    exact hlogged

/-! ## The life of a session -/

/-- What holds of a session after a list of calls, and of what further calls do to it. -/
structure SessionHistory (ext : Externals) (calls : List Call) (sid : SessionId) : Prop where
  /-- It enters running on an attempt made at or after the accepted start and within the authorization. -/
  entry : ∀ call, Enters ext (runCalls ext calls) sid call → (∃ startAt, StartedIn ext calls sid startAt) ∧
    ∃ now s, call.beginsAt = some (sid, now) ∧ (runCalls ext calls).session sid = some s ∧
      (∀ startAt, StartedIn ext calls sid startAt → startAt ≤ now) ∧
      now / nanosecondsPerSecond ≤ s.authorization.expiresAtUnixSeconds
  enteredOnce : ∀ call, Enters ext (runCalls ext calls) sid call →
    ∀ more call', ¬ Enters ext (runCalls ext (calls ++ call :: more)) sid call'
  handedOutOnce : ∀ call, HandsOut ext (runCalls ext calls) sid call →
    ∀ more call', ¬ HandsOut ext (runCalls ext (calls ++ call :: more)) sid call'
  ended : ∀ state, (runCalls ext calls).sessionState sid = some state → Ended state →
    ∀ more, (runCalls ext (calls ++ more)).sessionState sid = some state
  result : (∃ result, (runCalls ext calls).results.lookup sid = some result) ↔
    (runCalls ext calls).sessionState sid = some .completed ∨ (runCalls ext calls).sessionState sid = some .failed
  resultKept : ∀ result, (runCalls ext calls).results.lookup sid = some result →
    ∀ more, (runCalls ext (calls ++ more)).results.lookup sid = some result
  checksum : ∀ result, (runCalls ext calls).results.lookup sid = some result →
    result.checksum = ext.sha256 result.resultJson

theorem enters_startedIn (h : Enters ext (runCalls ext calls) sid call) :
    (∃ startAt, StartedIn ext calls sid startAt) ∧
    ∃ now s, call.beginsAt = some (sid, now) ∧ (runCalls ext calls).session sid = some s ∧
      (∀ startAt, StartedIn ext calls sid startAt → startAt ≤ now) ∧
      now / nanosecondsPerSecond ≤ s.authorization.expiresAtUnixSeconds := by
  have hg := (lived_runCalls ext calls).good
  obtain ⟨now, s, startAt, hcall, hb⟩ := h.begins hg
  refine ⟨⟨startAt, waits_startedIn calls hb.session hb.state hb.waits⟩, now, s, hcall, hb.session, ?_, hb.unexpired⟩
  intro t ht
  -- the log has one start time for a session that waits
  obtain ⟨id, state, hop⟩ := startedIn_logged ht
  obtain ⟨s₁, hs₁, hwaits⟩ := hg.started id sid t state hop
  obtain rfl := Option.mem_unique hb.session hs₁
  have hsame : some t = some startAt := (hwaits hb.state).unique hb.waits
  rw [Option.some.injEq] at hsame
  rw [hsame]
  exact hb.come

theorem ended_stays (calls more : List Call) (hstate : (runCalls ext calls).sessionState sid = some state)
    (hended : Ended state) : (runCalls ext (calls ++ more)).sessionState sid = some state := by
  rw [sessionState_eq, Option.map_eq_some_iff] at hstate
  obtain ⟨s, hs, rfl⟩ := hstate
  have hkept : (runCalls ext (calls ++ more)).session sid = some s :=
    runCalls_keeps (I := fun c => c.session sid = some s)
      (fun _ call hc hsc => (step_acts hc.good ext call (fun _ => trivial)).1.ended hc.good hsc hended) calls more hs
  rw [sessionState_eq, hkept]
  rfl

theorem result_iff_concluded : (∃ result, (runCalls ext calls).results.lookup sid = some result) ↔
    (runCalls ext calls).sessionState sid = some .completed ∨ (runCalls ext calls).sessionState sid = some .failed := by
  have hlived := lived_runCalls ext calls
  rw [sessionState_eq]
  constructor
  · rintro ⟨result, hres⟩
    obtain ⟨s, hs, hend⟩ := hlived.good.results sid result hres
    rw [hs, Option.map_some, Option.some.injEq, Option.some.injEq]
    exact hend
  · intro hend
    have hstored := fun s hs hconcluded => Option.isSome_iff_exists.1 (hlived.stored sid s hs hconcluded)
    rcases hend with hend | hend
    · obtain ⟨s, hs, hst⟩ := Option.map_eq_some_iff.1 hend
      exact hstored s hs (.inl hst)
    · obtain ⟨s, hs, hst⟩ := Option.map_eq_some_iff.1 hend
      exact hstored s hs (.inr hst)

/-- **Over every run, every session has such a history.** -/
theorem session_history (ext : Externals) (calls : List Call) (sid : SessionId) : SessionHistory ext calls sid where
  entry := fun _ h => enters_startedIn calls h
  enteredOnce := by
    intro call h more call'
    have hentered : Entered sid (runCalls ext (calls ++ call :: more)) :=
      runCalls_after (fun _ _ hc hin => hin.step hc.good) calls call more h.entered
    exact hentered.not_enters (lived_runCalls ext _).good
  handedOutOnce := by
    intro call h more call'
    have hlived := lived_runCalls ext calls
    have hspent : Spent sid (runCalls ext (calls ++ call :: more)) :=
      runCalls_after (fun _ _ hc hin => hin.step hc.good) calls call more (h.spent hlived.good hlived.whole)
    exact hspent.not_handsOut (lived_runCalls ext _).good
  ended := fun _ hstate hended more => ended_stays calls more hstate hended
  result := result_iff_concluded calls
  resultKept := fun result hres more => runCalls_keeps (I := fun c => c.results.lookup sid = some result)
    (fun _ call hc hr => (step_acts hc.good ext call (fun _ => trivial)).1.result_kept hc.good hr) calls more hres
  checksum := fun result hres => (lived_runCalls ext calls).sealed sid result hres

/-! ## Asking for a result -/

/-- An error of `test_result` that says to ask again is followed, on some continuation, by the result. -/
def RetryLeadsToResult (ext : Externals) (calls : List Call) (sid : SessionId) : Prop :=
  ∀ error, testResult (runCalls ext calls) sid = .error error → error.retryable = true →
    ∃ more result, testResult (runCalls ext (calls ++ more)) sid = .ok result

theorem testResult_ok : testResult c sid = .ok result ↔ c.results.lookup sid = some result := by
  unfold testResult
  cases hres : c.results.lookup sid with
  | some stored => simp
  | none => by_cases hexists : c.sessionExists sid = true <;> simp [hexists]

def minimalResultJson : List UInt8 :=
  "\x7b\"schema_version\":\"1\"\x7d".toList.map (fun ch => UInt8.ofNat ch.toNat)

theorem validateResultJson_minimal
    (hparse : ext.fromSlice minimalResultJson = .ok (.object [("schema_version", .string "1")])) :
    validateResultJson ext minimalResultJson = .ok () := by
  unfold validateResultJson
  rw [hparse]
  rfl

theorem fail_stores {json : List UInt8} (hs : (runCalls ext calls).session sid = some s)
    (hlive : cancelable s.state = true) (hvalid : validateResultJson ext json = .ok ()) :
    ∃ result, (runCalls ext (calls ++ [.fail sid json])).results.lookup sid = some result := by
  have hlived := lived_runCalls ext calls
  have hnone := hlived.good.no_result hs hlive
  have hstep : wp (failSession ext sid json) (fun _ c' => ∃ s', c'.session sid = some s' ∧ s'.state = .failed)
      (fun _ _ => False) (runCalls ext calls) := by
    apply wp_mono (wp_conclude hlived.good ext _ (fun _ h => h) (.inr rfl) sid json)
    · rintro _ c' ⟨-, ⟨rfl, hsome⟩ | ⟨h, -⟩⟩
      · rw [hnone] at hsome
        cases hsome
      · obtain ⟨s', hw, hfailed⟩ := (hlived.good.ends h).writes
        exact ⟨s', hw.self, hfailed⟩
    · rintro e c' ⟨-, hrefused⟩
      rcases hrefused hvalid s hs with hnot | hsome
      · rw [hnot] at hlive
        cases hlive
      · rw [hnone] at hsome
        cases hsome
  have hrun : wp (Call.run ext (.fail sid json)) (fun _ c' => ∃ s', c'.session sid = some s' ∧ s'.state = .failed)
      (fun _ c' => ∃ s', c'.session sid = some s' ∧ s'.state = .failed) (runCalls ext calls) :=
    (wp_bind _ _).2 (wp_mono hstep (fun _ _ h => h) (fun _ _ h => h.elim))
  obtain ⟨s', hs', hst⟩ : ∃ s', (step ext (runCalls ext calls) (.fail sid json)).session sid = some s' ∧
    s'.state = .failed := wp_state hrun
  rw [result_iff_concluded, runCalls_snoc, sessionState_eq, hs']
  exact .inr (by rw [Option.map_some, hst])

theorem canceled_without_result (h : (runCalls ext calls).sessionState sid = some .canceled) :
    (runCalls ext calls).results.lookup sid = none := by
  refine Option.eq_none_iff_forall_ne_some.2 (fun result hres => ?_)
  have hstate := (result_iff_concluded calls).1 ⟨result, hres⟩
  rw [h] at hstate
  rcases hstate with hst | hst <;> cases hst

/-- **A retry leads to the result, except for a session that was canceled.** -/
theorem retry_leads_to_result_iff (ext : Externals)
    (hparse : ext.fromSlice minimalResultJson = .ok (.object [("schema_version", .string "1")])) (calls : List Call)
    (sid : SessionId) : RetryLeadsToResult ext calls sid ↔ (runCalls ext calls).sessionState sid ≠ some .canceled := by
  constructor
  · intro h hcanceled
    have hnone := canceled_without_result calls hcanceled
    obtain ⟨s, hs, -⟩ := Option.map_eq_some_iff.1 (sessionState_eq.symm.trans hcanceled)
    have hexists : (runCalls ext calls).sessionExists sid = true := by
      rw [← Bool.not_eq_false, sessionExists_eq_false, hs]
      simp
    have herror : testResult (runCalls ext calls) sid =
      .error (.new .invalidState "test result is not ready" true) := by
      rw [testResult, hnone]
      exact if_pos hexists
    obtain ⟨more, result, hok⟩ := h _ herror rfl
    have hstays := ended_stays calls more hcanceled (.inr (.inr rfl))
    rw [testResult_ok, canceled_without_result _ hstays] at hok
    cases hok
  · intro hnot error herror hretry
    have hnone : (runCalls ext calls).results.lookup sid = none := by
      refine Option.eq_none_iff_forall_ne_some.2 (fun result hres => ?_)
      rw [testResult_ok.2 hres] at herror
      cases herror
    cases hs : (runCalls ext calls).session sid with
    | none =>
      -- a session that was never prepared is an error that is not retried
      rw [testResult, hnone, if_neg (by rw [Bool.not_eq_true, sessionExists_eq_false]; exact hs)] at herror
      cases herror
      cases hretry
    | some s =>
      have hlive : cancelable s.state = true := by
        have hrests := ((lived_runCalls ext calls).good.shape sid s hs).rests
        have hconcluded : ¬ Concluded s := fun hend => by
          have hsome := (lived_runCalls ext calls).stored sid s hs hend
          rw [hnone] at hsome
          cases hsome
        rcases hrests with hst | hst | hst | hst | hst
        · rw [hst]; rfl
        · rw [hst]; rfl
        · exact absurd (.inl hst) hconcluded
        · exact absurd (.inr hst) hconcluded
        · rw [sessionState_eq, hs, Option.map_some, hst] at hnot
          exact absurd rfl hnot
      obtain ⟨result, hres⟩ := fail_stores calls hs hlive (validateResultJson_minimal hparse)
      exact ⟨_, result, testResult_ok.2 hres⟩

/-- A parser that knows one document. -/
def minimalExternals : Externals where
  sha256 := fun _ => []
  fromSlice := fun json =>
    if json = minimalResultJson then .ok (.object [("schema_version", .string "1")]) else .error "expected value"

def preparedCalls : List Call := [.request (.prepareTcp sampleTcp) sampleOs 0]

def canceledCalls : List Call := preparedCalls ++ [.request (.stop (sampleId 1) "stop-1") sampleOs 0]

theorem retry_leads_to_result_prepared : RetryLeadsToResult minimalExternals preparedCalls (sampleId 1) := by
  have hstate : (runCalls minimalExternals preparedCalls).sessionState (sampleId 1) = some .testReady := by decide
  have hparse : minimalExternals.fromSlice minimalResultJson = .ok (.object [("schema_version", .string "1")]) := by
    simp [minimalExternals]
  refine (retry_leads_to_result_iff minimalExternals hparse _ _).2 ?_
  rw [hstate]
  simp

/-- **A canceled session's result is announced for later, and never comes.** -/
theorem canceled_result_is_retryable :
    testResult (runCalls minimalExternals canceledCalls) (sampleId 1) =
      .error (.new .invalidState "test result is not ready" true) ∧
    ∀ more result, testResult (runCalls minimalExternals (canceledCalls ++ more)) (sampleId 1) ≠ .ok result := by
  have hcanceled : (runCalls minimalExternals canceledCalls).sessionState (sampleId 1) = some .canceled := by decide
  refine ⟨by decide, fun more result hok => ?_⟩
  have hstays := ended_stays canceledCalls more hcanceled (.inr (.inr rfl))
  rw [testResult_ok, canceled_without_result _ hstays] at hok
  cases hok

end Node
end NetTool
