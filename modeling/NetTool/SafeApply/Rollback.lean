import NetTool.SafeApply.Confirm
import NetTool.SafeApply.Trace
/-!
# SafeApply.Rollback — an outstanding rollback is kept and tried again

An operation whose apply was started and that was neither confirmed nor restored is outstanding.  As long as no restore
of it has returned an error and no confirmation of it was cut short, it is pending in the state file and in the memory
of a running manager, and every `recover_expired` at or after its deadline, and every explicit `rollback`, tries the
restore again, or is hindered and leaves it pending.  A restore that returns an error ends this: the record becomes
`Failed`, which no entry point looks at again.
-/
namespace NetTool
namespace SafeApply

open Prog
open Helper (NetworkDesiredState)
open Ledger (Move Inv)
open Relation (ReflTransGen)

variable {env : Env} {w v : World} {op : String}

/-- The apply was started, no restore has succeeded, and the state file does not have the operation as confirmed. -/
structure Outstanding (op : String) (w : World) : Prop where
  applied : .applyStarted op ∈ since op w.events
  unconfirmed : ∀ r ∈ w.disk.records, r.operationId = op → r.state ≠ .confirmed
  unrestored : ∀ s, .restored op s ∉ since op w.events

/-- No restore of the operation has returned an error, and no confirmation of it was cut short of the state file. -/
structure Untroubled (op : String) (w : World) : Prop where
  restores : ∀ s, .restoreFailed op s ∉ since op w.events
  confirms : ∀ r ∈ w.pending, r.operationId = op → r.state ≠ .confirmed

/-- Pending in the state file, and in memory while the manager runs. -/
structure Armed (op : String) (w : World) : Prop where
  file : ∃ r ∈ w.disk.records, r.operationId = op ∧ isPending r.state = true
  memory : w.running = true → ∃ r ∈ w.pending, r.operationId = op ∧ isPending r.state = true

/-- A sound record of an outstanding operation is pending: each other state has left its mark. -/
theorem isPending_of_outstanding {r : PendingSafeApply} (hs : Ledger.Sound w.events r)
    (ho : Outstanding r.operationId w) (hf : Untroubled r.operationId w) (hconfirmed : r.state ≠ .confirmed) :
    isPending r.state = true := by
  unfold Ledger.Sound at hs
  cases hst : r.state with
  | prepared => rfl
  | pendingConfirmation => rfl
  | rollingBack => rfl
  | confirmed => exact absurd hst hconfirmed
  | rolledBack => rw [hst] at hs; exact absurd hs (ho.unrestored _)
  | failed => rw [hst] at hs; exact absurd hs (hf.restores _)

theorem armed_of_outstanding (hi : Inv env.hashDesired w.ledger) (ho : Outstanding op w) (hf : Untroubled op w) :
    Armed op w := by
  obtain ⟨r, hr, hrop⟩ := hi.kept op ho.applied
  subst hrop
  have hfile := isPending_of_outstanding (hi.sound r (.inr hr)).1 ho hf (ho.unconfirmed r hr rfl)
  refine ⟨⟨r, hr, rfl, hfile⟩, fun hrun => ?_⟩
  obtain ⟨x, hx, hxop⟩ := hi.covered hrun r hr
  rw [← hxop] at ho hf
  exact ⟨x, hx, hxop, isPending_of_outstanding (hi.sound x (.inl hx)).1 ho hf (hf.confirms x hx rfl)⟩

def Ledger.Unconfirmed (op : String) (L : Ledger) : Prop :=
  ∀ r, r ∈ L.memory ∨ r ∈ L.file → r.operationId = op → r.state ≠ .confirmed

/-- No other move confirms. -/
theorem Ledger.Inv.unconfirmed {hash : NetworkDesiredState → String} {L L' : Ledger} (hi : Inv hash L)
    (h : L.Unconfirmed op) (hmoves : ReflTransGen (Move hash fun _ => False) L L') : L'.Unconfirmed op := by
  induction hmoves with
  | refl => exact h
  | tail hbefore hmove ih =>
    have hnodup := (hi.moves hbefore).nodupMemory
    cases hmove with
    | confirm _ _ _ _ hallow => exact hallow.elim
    | startApply | answer | startRestore => exact ih
    | flush => exact fun x hx => ih x (.inl (or_self_iff.1 hx))
    | reopen => exact fun x hx => ih x (.inr (or_self_iff.1 hx))
    | crash => exact fun x hx => ih x (hx.elim (nomatch ·) .inr)
    | enroll r d _ hstate =>
      rintro x (hx | hx) hop
      · rcases List.mem_append.1 hx with hx | hx
        · exact ih x (.inl hx) hop
        · rw [List.mem_singleton.1 hx, hstate]
          nofun
      · exact ih x (.inr hx) hop
    | accept r | roll r | finish r | abandon r =>
      rintro x (hx | hx) hop
      · rcases mem_putRecord hnodup hx with rfl | ⟨hx, -⟩
        · nofun
        · exact ih x (.inl hx) hop
      · exact ih x (.inr hx) hop

/-! ## A hindered call -/

theorem begins_of_isRestoreOf {e : Event} {o : String} (h : e.isRestoreOf o = true) (op : String) :
    e.begins op = false := by
  cases e <;> simp_all [Event.isRestoreOf, Event.begins]

/-- What is said about restoring other operations is part of the history of `op`, and adds no event of its own. -/
theorem mem_since_append {new es : List Event} {x : Event} (hnew : ∀ e ∈ new, ∃ o, o ≠ op ∧ e.isRestoreOf o = true)
    (hx : ∀ o, o ≠ op → x.isRestoreOf o = false) : x ∈ since op (new ++ es) ↔ x ∈ since op es := by
  induction new with
  | nil => rfl
  | cons e new ih =>
    obtain ⟨o, ho, he⟩ := hnew e List.mem_cons_self
    rw [List.cons_append, since_cons (begins_of_isRestoreOf he op), List.mem_cons,
      ih (fun e' he' => hnew e' (List.mem_cons_of_mem _ he'))]
    refine or_iff_right (fun hxe => ?_)
    rw [← hxe, hx o ho] at he
    cases he

theorem Silent.outstanding (h : Silent op w v) (ho : Outstanding op w) (hf : Untroubled op w)
    (hv : v.ledger.Unconfirmed op) : Outstanding op v ∧ Untroubled op v := by
  obtain ⟨new, hnew, hall⟩ := h
  have hne : ∀ {x : Event}, (∀ o, o ≠ op → x.isRestoreOf o = false) → x ∉ since op w.events → x ∉ since op v.events :=
    fun hx hn hm => hn ((mem_since_append hall hx).1 (hnew ▸ hm))
  have happlied : .applyStarted op ∈ since op v.events := hnew ▸ (mem_since_append hall (fun _ _ => rfl)).2 ho.applied
  refine ⟨⟨happlied, fun r hr => hv r (.inr hr), fun s => hne (fun o ho' => ?_) (ho.unrestored s)⟩,
    fun s => hne (fun o ho' => ?_) (hf.restores s), fun r hr => hv r (.inl hr)⟩
  · simp [Event.isRestoreOf, Ne.symm ho']
  · simp [Event.isRestoreOf, Ne.symm ho']

theorem settle_events {α : Type} (m : Call α) (w : World) : (settle (m w)).events = (m w).2.events := by
  rcases m w with ⟨e | a, v⟩
  · cases e <;> rfl
  · rfl

/-- The call started the restore of the record's snapshot, or it was hindered and the operation is still armed for the
next one. -/
def Retries (r : PendingSafeApply) (w : World) {α : Type} (m : Call α) : Prop :=
  Attempted r.operationId r.snapshotId w (m w).2 ∨ (Hindered w (m w).2 ∧ Armed r.operationId (settle (m w)))

theorem retries_of_wp {α : Type} {m : Call α} {r : PendingSafeApply} (hi : Inv env.hashDesired w.ledger)
    (ho : Outstanding r.operationId w) (hf : Untroubled r.operationId w)
    (hmoved : Moved env.hashDesired (fun _ => False) w.ledger (settle (m w)))
    (h : wp m (fun _ v => Attempted r.operationId r.snapshotId w v)
      (fun _ v => Attempted r.operationId r.snapshotId w v ∨ (Hindered w v ∧ Silent r.operationId w v)) w) :
    Retries r w m := by
  rcases wp_after h with ⟨_, hattempted⟩ | ⟨_, hattempted | ⟨hhindered, hsilent⟩⟩
  · exact .inl hattempted
  · exact .inl hattempted
  · have hnone : w.ledger.Unconfirmed r.operationId := fun x hx => hx.elim (hf.confirms x) (ho.unconfirmed x)
    have hsettled : Silent r.operationId w (settle (m w)) := by
      unfold Silent
      rw [settle_events]
      exact hsilent
    have hstill := hsettled.outstanding ho hf (hi.unconfirmed hnone hmoved.1)
    exact .inr ⟨hhindered, armed_of_outstanding (hi.moves hmoved.1) hstill.1 hstill.2⟩

/-- **An outstanding operation none of whose restores has returned an error, and none of whose confirmations was cut
short, stays pending, in every run**, and each `recover_expired` at or after its deadline and each explicit `rollback`
tries the restore again. -/
theorem outstanding_rollback_kept (env : Env) (w : World) (h : Reachable env (fun _ => True) w) (op : String)
    (ho : Outstanding op w) (hf : Untroubled op w) :
    Armed op w ∧ ∀ r ∈ w.pending, r.operationId = op →
      (∀ now, r.deadlineUnixSeconds ≤ now → Retries r w (recoverExpired env now)) ∧
        Retries r w (rollback env op) := by
  obtain ⟨hi, hintact⟩ := reach_inv h
  refine ⟨armed_of_outstanding hi ho hf, fun r hr hop => ?_⟩
  subst hop
  have hrun : w.running = true := by
    by_contra hdown
    have hnil := hi.down (by simpa [World.ledger] using hdown)
    rw [show w.pending = [] from hnil] at hr
    cases hr
  have hp : isPending r.state = true :=
    isPending_of_outstanding (hi.sound r (.inl hr)).1 ho hf (hf.confirms r hr rfl)
  refine ⟨fun now hnow => ?_, ?_⟩
  · have hmoved : Moved env.hashDesired (fun _ => False) w.ledger (step env w (.recoverExpired now)) :=
      step_moves env w _ trivial hintact
    rw [show step env w (.recoverExpired now) = settle (recoverExpired env now w) from if_pos hrun] at hmoved
    exact retries_of_wp hi ho hf hmoved (recoverExpired_trace env now hi.nodupMemory hr hp hnow)
  · have hmoved : Moved env.hashDesired (fun _ => False) w.ledger (step env w (.rollback r.operationId)) :=
      step_moves env w _ trivial hintact
    rw [show step env w (.rollback r.operationId) = settle (rollback env r.operationId w) from if_pos hrun] at hmoved
    refine retries_of_wp hi ho hf hmoved
      (wp_mono (rollbackInternal_trace env _ (found_of_mem hi.nodupMemory hr hp)) (fun _ _ hv => hv.attempted) ?_)
    intro _ v hv
    exact hv.attempted.imp_right (fun he => ⟨hv.hindered, [], he, fun e he' => by cases he'⟩)

def answering (n : Nat) (a : Answer NetToolError Unit) : Env :=
  { calmEnv with exec := fun k => if k = n then a else .ok () }

def rollbackRun : List Request := [.open, .begin sampleRequest, .rollback "op-1", .open]

theorem rollbackRun_reachable (env : Env) : Reachable env (fun _ => True) (run env rollbackRun) :=
  Reach.foldl rollbackRun _ .init ⟨trivial, trivial, trivial, trivial, trivial⟩

/-- The process dies in the middle of the restore: the next start still has the operation, and tries again. -/
theorem outstanding_rollback_kept_sample : Armed "op-1" (run (answering 3 .crash) rollbackRun) ∧
    Retries (sampleRecord .rollingBack) (run (answering 3 .crash) rollbackRun)
      (recoverExpired (answering 3 .crash) 160) := by
  have hs : since "op-1" (run (answering 3 .crash) rollbackRun).events =
      [.restoreStarted "op-1" "snapshot-0", .verified "op-1" .auto, .applied "op-1" .auto, .applyStarted "op-1"] := by
    decide
  obtain ⟨harmed, hretry⟩ := outstanding_rollback_kept (answering 3 .crash) (run (answering 3 .crash) rollbackRun)
    (rollbackRun_reachable _) "op-1" ⟨by rw [hs]; simp, by decide, by rw [hs]; simp⟩
    ⟨by rw [hs]; simp, by decide⟩
  exact ⟨harmed, (hretry (sampleRecord .rollingBack) (by decide) rfl).1 160 (by decide)⟩

/-- The restore returns an error: the record is `Failed`, and no longer pending anywhere. -/
theorem outstanding_rollback_abandoned : ¬ ∀ (env : Env) (w : World), Reachable env (fun _ => True) w →
    ∀ op, Outstanding op w → Armed op w := by
  intro h
  have hs : since "op-1" (run (answering 3 (.err (.new .helperExecutionFailed "restore failed" true)))
      rollbackRun).events = [.restoreFailed "op-1" "snapshot-0", .restoreStarted "op-1" "snapshot-0",
        .verified "op-1" .auto, .applied "op-1" .auto, .applyStarted "op-1"] := by decide
  obtain ⟨r, hr, -, hp⟩ := (h _ _ (rollbackRun_reachable _) "op-1"
    ⟨by rw [hs]; simp, by decide, by rw [hs]; simp⟩).file
  have hrec : (run (answering 3 (.err (.new .helperExecutionFailed "restore failed" true))) rollbackRun).disk.records =
      [sampleRecord .failed] := by decide
  rw [hrec, List.mem_singleton] at hr
  rw [hr] at hp
  cases hp

end SafeApply
end NetTool
