import NetTool.Node.Idempotent
/-!
# Node.Turn — how one call turns a session

`Turn` says how a session can come to be what it is after one call: prepared, aged, begun, canceled or concluded, and
which call it takes.  Every call turns each session in one of these ways (`step_turns`).
-/
namespace NetTool
namespace Node

open Prog Speed Resource SpeedTestLifecycle

variable {α : Type} {c c' : SessionCoordinator} {sid : SessionId} {orphans : Prop} {ext : Externals} {call : Call}

/-! ## Calls that begin, hand out and conclude -/

def Call.AcceptsStart (c : SessionCoordinator) (sid : SessionId) (startAt : Nat) : Call → Prop
  | .request (.start sid' id startAt') _ now =>
    sid' = sid ∧ startAt' = startAt ∧ ∃ state, (start sid' id startAt' now c).1 = .ok state
  | _ => False

def Enters (ext : Externals) (c : SessionCoordinator) (sid : SessionId) (call : Call) : Prop :=
  c.sessionState sid ≠ some .running ∧ (step ext c call).sessionState sid = some .running

def HandsOut (ext : Externals) (c : SessionCoordinator) (sid : SessionId) (call : Call) : Prop :=
  call.handsOut = some sid ∧ (call.run ext c).1 = .ok ()

def Ended (state : NodeConnectionState) : Prop := state = .completed ∨ state = .failed ∨ state = .canceled

/-! ## One call -/

/-- How a session comes to be `s'` after a call. -/
inductive Turn (call : Call) (c : SessionCoordinator) (sid : SessionId) (s' : Session) : Prop
  | prepared (hnew : c.session sid = none) (hstate : s'.state = .testReady) (hlife : s'.lifecycle = waiting)
      (hsingle : s'.Single)
  | aged (s : Session) (hs : c.session sid = some s) (hstate : s'.state = s.state) (hages : s.Ages s')
      (hlife : s'.state = .testReady → ∀ t, s'.lifecycle.Waits (some t) →
        s.lifecycle.Waits (some t) ∨ call.AcceptsStart c sid t)
  | begun (s : Session) (now startAt : Nat) (hcall : call.beginsAt = some (sid, now)) (hb : Begins c sid now s startAt)
      (hstate : s'.state = .running) (hages : s.Ages s')
  | canceled (hstate : s'.state = .canceled)
      (hkept : ∀ s, c.session sid = some s → s.SameMap s' ∧ s'.authorization = s.authorization)
  | concluded (hcall : call.concludes = true) (hstate : s'.state = .completed ∨ s'.state = .failed)
      (hkept : ∀ s, c.session sid = some s → s.SameMap s' ∧ s'.authorization = s.authorization)

def Turns (call : Call) (c c' : SessionCoordinator) : Prop := ∀ sid s', c'.session sid = some s' → Turn call c sid s'

theorem Turn.refl {s : Session} (hs : c.session sid = some s) : Turn call c sid s :=
  .aged s hs rfl (.refl s) (fun _ _ ht => .inl ht)

theorem Turns.of_sessions (h : c'.sessions = c.sessions) : Turns call c c' := by
  intro sid s' hs'
  rw [session_congr h] at hs'
  exact .refl hs'

theorem Turns.refl (c : SessionCoordinator) : Turns call c c := .of_sessions rfl

theorem Turns.of_writes {s : Session} (hw : Writes sid s c c') (h : Turn call c sid s) : Turns call c c' :=
  hw.forall h (fun _ _ _ hs => .refl hs)

/-! What each kind of preparation keeps has the settings its role needs. -/

def Preparation.Fits {Endpoint Response : Type} (p : Preparation Endpoint Response) : Prop :=
  ∀ expiresAt endpoint tag, ((p.prepared expiresAt endpoint tag).session waiting).lifecycle = waiting ∧
    ((p.prepared expiresAt endpoint tag).session waiting).Single

theorem Preparation.Known.fits {Endpoint Reply : Type} {p : Preparation Endpoint Reply} (h : p.Known) : p.Fits := by
  cases h with
  | tcp => exact fun _ _ _ => ⟨rfl, fun hdest => by cases hdest⟩
  | tcpSender => exact fun _ _ _ => ⟨rfl, fun _ _ => rfl⟩
  | tcpBidirectional => exact fun _ _ _ => ⟨rfl, fun _ hcfg => by cases hcfg⟩
  | _ => exact fun _ _ _ => ⟨rfl, trivial⟩

section
variable (hg : Good orphans c)
include hg

/-- Giving a waiting session the start time `startAt` ages it, and only `startAt` is new. -/
theorem schedule_turns {s : Session} {startAt : Option Nat} (hs : c.session sid = some s)
    (hnew : ∀ t, startAt = some t → s.lifecycle.Waits (some t) ∨ call.AcceptsStart c sid t)
    (hsessions : c'.sessions = c.sessions.set sid (s.setLifecycle (ready startAt))) : Turns call c c' := by
  refine .of_writes (hg.writes (.inr ⟨s, hs, by simp⟩) hsessions) (.aged s hs (by simp) Session.ages_setLifecycle ?_)
  intro _ t ht
  rw [Session.lifecycle_setLifecycle] at ht
  exact hnew t (ht.unique (.ready startAt)).symm

/-- A request turns a session by preparing, scheduling or stopping it.  A start gives the session its start time when it
is accepted, and no other. -/
theorem answer_turns (r : Request) (os : Os) (now : Nat) : Turns (.request r os now) c (r.answer os now c).2 := by
  have hreplies := answered_replies hg r os now
  generalize hresult : (r.answer os now c).1 = result at hreplies
  generalize (r.answer os now c).2 = c' at hreplies
  cases hreplies with
  | kept => exact .refl c
  | @prepared _ _ _ _ expiresAt _ endpoint tag _ _ _ _ hp h =>
    obtain ⟨hlife, hsingle⟩ := hp.fits expiresAt endpoint tag
    exact .of_writes (h.writes hg) (.prepared h.new hp.sound.state hlife hsingle)
  | stranded => exact .of_sessions rfl
  | @started sid id startAt _ s _ hr _ hst _ =>
    subst hr
    refine schedule_turns hg hst.session ?_ rfl
    rintro _ ⟨⟩
    refine .inr ⟨rfl, rfl, ?_⟩
    rcases hrun : start sid id startAt now c with ⟨e | state, c'⟩
    · have herror := congrArg Prod.fst (bind_of_error hrun (fun a => pure (Response.state a)))
      exact nomatch hresult.symm.trans herror
    · exact ⟨state, rfl⟩
  | refused _ hst => exact schedule_turns hg hst.session (fun _ ht => .inl (ht ▸ hst.waits)) rfl
  | stopped _ _ h =>
    rcases h with rfl | hends
    · exact .of_sessions rfl
    · obtain ⟨s, hw, hstate⟩ := hends.writes
      exact .of_writes hw (.canceled hstate (fun s₁ hs₁ => hends.authorization s₁ s hs₁ hw.self))

theorem Begun.turns {now : Nat} (hcall : call.beginsAt = some (sid, now)) (h : Begun sid now c c') :
    Turns call c c' := by
  obtain ⟨s, startAt, s', hb, hrun, hages, -, rfl⟩ := h
  have hw : Writes sid s' c (c.setSession sid s') := hg.writes (.inr ⟨s, hb.session, hages.sameMap⟩) rfl
  exact .of_writes hw (.begun s now startAt hcall hb hrun hages)

theorem Spends.turns (h : Spends sid c c') : Turns call c c' := by
  rcases h with rfl | ⟨s, s', hs, hrun, hrun', hages, -, rfl⟩
  · exact .refl _
  · have hw : Writes sid s' c (c.setSession sid s') := hg.writes (.inr ⟨s, hs, hages.sameMap⟩) rfl
    refine .of_writes hw (.aged s hs (hrun'.trans hrun.symm) hages (fun hready => ?_))
    rw [hrun'] at hready
    cases hready

end

/-! ## Every call -/

/-- **Every call turns each session in one of these ways.** -/
theorem step_turns (hg : Good orphans c) (ext : Externals) (call : Call) : Turns call c (step ext c call) := by
  cases step_act hg ext call with
  | answered r os now hcall h => rw [h, hcall]; exact answer_turns hg r os now
  | kept h => rw [h]; exact .refl c
  | begun sid now hcall h => exact h.turns hg hcall
  | spent sid h => exact h.turns hg
  | ended sid final hcall hfinal _ h =>
    obtain ⟨s, hw, hstate⟩ := h.writes
    exact .of_writes hw (.concluded hcall (by rw [hstate]; exact hfinal)
      (fun s₁ hs₁ => h.authorization s₁ s hs₁ hw.self))

end Node
end NetTool
