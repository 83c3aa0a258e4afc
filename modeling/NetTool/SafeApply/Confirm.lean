import NetTool.SafeApply.Refine
/-!
# SafeApply.Confirm — what a confirmed record vouches for

A confirmation given while the record waits for it is earned: the operation's own apply and verify had returned success
and no restore of its snapshot had been started.  The manager does not insist on that state (`isPending` also holds of
`Prepared` and `RollingBack`), so a record that a failed write left in `Prepared` can be confirmed without ever having
been applied.
-/
namespace NetTool
namespace SafeApply

open Helper (NetworkDesiredState)
open Ledger (Move Inv)
open Relation (ReflTransGen)

/-- The state a confirmation is meant for. -/
def Waiting (r : PendingSafeApply) : Prop := r.state = .pendingConfirmation

namespace Ledger

variable {hash : NetworkDesiredState → String} {L L' : Ledger}

/-- **One move keeps every confirmation earned**, when only waiting records are confirmed. -/
theorem eachEarned_move (hi : Inv hash L) (h : ∀ op, EachEarned op L.events) (hm : Move hash Waiting L L')
    (op : String) : EachEarned op L'.events := by
  have hlog : ∀ e : Event, e.begins op = false → (∀ now, e ≠ .confirmed op now) → EachEarned op (e :: L.events) :=
    fun e he hc => (h op).cons he (fun now heq => absurd heq (hc now))
  cases hm with
  | enroll r d hrun hstate hhash hnew =>
    by_cases hop : (Event.begun r.operationId d).begins op = true
    · -- a new life of the operation, with no confirmation in it yet
      intro later now earlier hs
      have hnil : since op (.begun r.operationId d :: L.events) = [] := by simp [since, hop]
      rw [show since op _ = [] from hnil] at hs
      simp at hs
    · exact hlog _ (by simpa using hop) (fun _ heq => by cases heq)
  | startApply r _ => exact hlog _ rfl (fun _ heq => by cases heq)
  | answer e he =>
    refine hlog e (begins_of_isAnswer he op) (fun now heq => ?_)
    rw [heq] at he; cases he
  | confirm r now hmem hpending hallow hnow =>
    refine (h op).cons (e := .confirmed r.operationId now) rfl (fun n heq => ?_)
    simp only [Event.confirmed.injEq] at heq
    have hs := (hi.sound r (.inl hmem)).1
    unfold Sound at hs
    rw [show r.state = .pendingConfirmation from hallow, heq.1] at hs
    exact hs
  | startRestore r _ _ _ => exact hlog _ rfl (fun _ heq => by cases heq)
  | flush _ => exact h op
  | accept _ _ _ _ => exact h op
  | roll _ _ _ => exact h op
  | finish _ _ _ => exact h op
  | abandon _ _ _ => exact h op
  | crash => exact h op
  | reopen => exact h op

theorem eachEarned_moves (hi : Inv hash L) (h : ∀ op, EachEarned op L.events)
    (hm : ReflTransGen (Move hash Waiting) L L') : ∀ op, EachEarned op L'.events := by
  induction hm with
  | refl => exact h
  | tail hms hmove ih => exact eachEarned_move (hi.moves hms) ih hmove

end Ledger

/-- **In a run whose confirmations all meet a record waiting for one, a record is `Confirmed` only if its own apply and
its own verify returned success and no restore of its snapshot was started before the confirmation**, in memory and in
the state file, whatever fails and wherever the process dies. -/
theorem confirmed_only_if_earned (env : Env) (w : World) (h : Reachable env Waiting w) (r : PendingSafeApply)
    (hr : r ∈ w.pending ∨ r ∈ w.disk.records) (hc : r.state = .confirmed) : Earned r.operationId w.events := by
  have hall : (∀ op, EachEarned op w.events) ∧ Inv env.hashDesired w.ledger ∧ w.disk.Intact := by
    refine Reach.invariant (I := fun w => (∀ op, EachEarned op w.events) ∧ Inv env.hashDesired w.ledger ∧ w.disk.Intact)
      ⟨fun op later now earlier hs => ?_, inv_init, by simp [Disk.Intact, World.init]⟩ (fun w req hw hok => ?_) h
    · simp [World.init, since] at hs
    · obtain ⟨hm, hi⟩ := step_moves env w req hok hw.2.2
      exact ⟨Ledger.eachEarned_moves hw.2.1 hw.1 hm, hw.2.1.moves hm, hi⟩
  have hs := (hall.2.1.sound r hr).1
  unfold Ledger.Sound at hs
  rw [hc] at hs
  obtain ⟨now, -, hnow⟩ := hs
  exact ⟨⟨now, hnow⟩, hall.1 r.operationId⟩

/-! ## Sample runs -/

def sampleRequest : BeginSafeApply := ⟨"op-1", "eth0", .auto, 60, 100⟩

def calmEnv : Env where
  io := fun _ _ => .ok ()
  snapshot := fun _ => .ok ("snapshot-0", "dhcp")
  exec := fun _ => .ok ()
  clock := fun _ => 100
  hashState := fun s => "sha256:" ++ s
  hashDesired := fun d => if d = .auto then "sha256:auto" else "sha256:other"

def failingWrite (n : Nat) : Env :=
  { calmEnv with io := fun _ k => if k = n then .err "No space left on device" else .ok () }

def waitingRun : List Request := [.open, .begin sampleRequest]

theorem waitingRun_reachable (env : Env) : Reachable env (fun _ => True) (run env waitingRun) :=
  Reach.foldl waitingRun _ .init ⟨trivial, trivial, trivial⟩

def confirmRun : List Request := [.open, .begin sampleRequest, .confirm "op-1" 120]

def sampleRecord (state : SafeApplyState) : PendingSafeApply :=
  ⟨"op-1", "eth0", "snapshot-0", 160, state, "sha256:dhcp", "sha256:auto"⟩

theorem confirmed_only_if_earned_sample : Earned "op-1" (run calmEnv confirmRun).events := by
  refine confirmed_only_if_earned calmEnv (run calmEnv confirmRun)
    (Reach.foldl confirmRun _ .init ⟨trivial, trivial, ?_, trivial⟩) (sampleRecord .confirmed) (.inl (by decide)) rfl
  show ∀ r ∈ (run calmEnv [.open, .begin sampleRequest]).pending, r.operationId = "op-1" → isPending r.state = true →
    120 < r.deadlineUnixSeconds → r.state = .pendingConfirmation
  decide

/-- The state write of `begin` fails, so nothing is applied; the record stays in memory as `Prepared`, and a
confirmation is accepted. -/
theorem confirmed_without_apply : ¬ ∀ (env : Env) (w : World), Reachable env (fun _ => True) w →
    ∀ r, r ∈ w.pending ∨ r ∈ w.disk.records → r.state = .confirmed → Earned r.operationId w.events := by
  intro h
  have hreach : Reachable (failingWrite 1) (fun _ => True) (run (failingWrite 1) confirmRun) :=
    Reach.foldl confirmRun _ .init ⟨trivial, trivial, fun _ _ _ _ _ => trivial, trivial⟩
  have hearned := h (failingWrite 1) _ hreach (sampleRecord .confirmed) (.inl (by decide)) rfl
  have hsince : since "op-1" (run (failingWrite 1) confirmRun).events = [.confirmed "op-1" 120] := by decide
  obtain ⟨⟨d, -, ha, -⟩, -⟩ := hearned.2 [] 120 [] hsince
  cases ha

/-! ## Any run -/

section
variable {env : Env} {allow : PendingSafeApply → Prop} {w : World}

/-- **A run of the manager is a run of the ledger**, whatever fails and wherever the process dies. -/
theorem run_refines_ledger (h : Reachable env allow w) : Moved env.hashDesired allow World.init.ledger w := by
  refine Reach.invariant ⟨.refl, fun htorn => by cases htorn⟩ (fun w req hw hok => ?_) h
  obtain ⟨hm, hi⟩ := step_moves env w req hok hw.2
  exact ⟨hw.1.trans hm, hi⟩

/-- A write of `begin` fails. -/
theorem run_refines_ledger_failing :
    Moved (failingWrite 3).hashDesired (fun _ => True) World.init.ledger (run (failingWrite 3) waitingRun) :=
  run_refines_ledger (waitingRun_reachable _)

/-- **A change is started only when its record is on file**: a manager that opens the file later finds the operation. -/
theorem started_apply_is_on_file (h : Reachable env allow w) (op : String)
    (hstarted : .applyStarted op ∈ since op w.events) :
    ∃ records, w.disk.load = .ok records ∧ ∃ r ∈ records, r.operationId = op ∧
      Ledger.Begun env.hashDesired w.events r := by
  obtain ⟨hinv, hintact⟩ := reach_inv h
  obtain ⟨r, hr, hop⟩ := hinv.kept op hstarted
  exact ⟨_, Disk.load_eq hintact, r, hr, hop, (hinv.sound r (.inr hr)).2⟩

theorem started_apply_is_on_file_sample : ∃ records, (run calmEnv waitingRun).disk.load = .ok records ∧
    ∃ r ∈ records, r.operationId = "op-1" ∧ Ledger.Begun calmEnv.hashDesired (run calmEnv waitingRun).events r :=
  started_apply_is_on_file (waitingRun_reachable _) "op-1" (by decide)

end

end SafeApply
end NetTool
