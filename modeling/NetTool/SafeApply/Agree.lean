import NetTool.SafeApply.Rollback
/-!
# SafeApply.Agree — memory and state file

When no state write fails before its rename, the list in memory is the one a fresh `open` would load, after every call.
A confirmation changes the memory first and writes then: an error on the way leaves the operation disarmed in memory,
so a `confirm` that returns an error keeps it armed exactly when the error is not one of its own file operations
(`confirm_error_armed_iff`).
-/
namespace NetTool
namespace SafeApply

open Prog
open Ledger (Inv)

variable {env : Env} {w v : World}

/-- No state write fails before it is visible; the process may die. -/
def WritesLand (env : Env) : Prop := ∀ op ∈ stateWrite, ∀ n e, env.io op n ≠ .err e

def Agree (w : World) : Prop := w.disk.load = .ok w.pending

abbrev Lives {α : Type} (m : Call α) : Prop := Keeps Agree (· = Stop.crash) m

theorem fileOp_landed (hw : WritesLand env) {op : FileOp} (hop : op ∈ stateWrite) {done torn : Disk → Disk}
    {Q : Unit → World → Prop} (hQ : Q () { w with ioCalls := w.ioCalls + 1, disk := done w.disk }) :
    wp (fileOp env op done torn) Q (fun e v => e = .crash ∨ Agree v) w := by
  unfold wp fileOp
  cases hio : env.io op w.ioCalls with
  | ok _ => exact hQ
  | err e => exact absurd hio (hw op hop _ e)
  | crash => exact .inl rfl

/-- **A state write brings file and memory together**, whatever they were. -/
theorem persist_agree (hw : WritesLand env) (w : World) :
    wp (persist env) (fun _ v => Agree v) (fun e v => e = .crash ∨ Agree v) w := by
  unfold persist
  rw [wp_bind]
  apply fileOp_landed hw (by decide)
  rw [wp_bind, wp_get, wp_bind]
  apply fileOp_landed hw (by decide)
  rw [wp_bind]
  apply fileOp_landed hw (by decide)
  rw [wp_bind]
  apply fileOp_landed hw (by decide)
  exact wp_fileOp rfl (fun _ => .inr rfl)

theorem lives_fileOp (op : FileOp) {done : Disk → Disk} (hd : ∀ d, (done d).stateFile = d.stateFile) :
    Lives (fileOp env op done id) := by
  intro w hw
  refine wp_fileOp ?_ (fun _ => .inr hw)
  show (done w.disk).load = .ok w.pending
  unfold Disk.load
  rw [hd]
  exact hw

theorem lives_audit (record : PendingSafeApply) (result : String) : Lives (audit env record result) :=
  (lives_fileOp _ (fun _ => rfl)).bind fun _ => Keeps.get.bind fun _ => (lives_fileOp _ (fun _ => rfl)).bind fun _ =>
    (lives_fileOp _ (fun _ => rfl)).bind fun _ => lives_fileOp _ (fun _ => rfl)

theorem lives_note (e : Event) : Lives (note e) := Keeps.modify (fun _ h => h)

theorem lives_execCall (done broken : Event) : Lives (execCall env done broken) := fun _ hw =>
  wp_execCall hw (fun _ => .inr hw) (.inl rfl)

theorem lives_replaceRecord (hw : WritesLand env) (r : PendingSafeApply) : Lives (replaceRecord env r) := by
  intro w h
  unfold replaceRecord
  rw [wp_bind, wp_get, wp_ite]
  refine ⟨fun _ => ?_, fun _ => .inr h⟩
  exact persist_agree hw _

theorem lives_findActive (op : String) : Lives (findActive op) := Keeps.get.bind fun _ => Keeps.ofOption _ _

theorem toError_crash : ∀ e : Stop, e = .crash → e.toError = none := fun _ h => by rw [h]; rfl

section
variable (hw : WritesLand env)
include hw

theorem lives_rollbackInternal (op result : String) : Lives (rollbackInternal env op result) := by
  refine (lives_findActive op).bind fun record => (lives_replaceRecord hw _).bind fun _ =>
    (Keeps.attempt toError_crash ((lives_note _).bind fun _ => lives_execCall _ _)).bind fun answer => ?_
  cases answer with
  | error e => exact (lives_replaceRecord hw _).bind fun _ => (lives_audit _ _).bind fun _ => .fail _
  | ok _ => exact (lives_replaceRecord hw _).bind fun _ => lives_audit _ _

theorem lives_enroll (request : BeginSafeApply) (r : PendingSafeApply) : Lives (enroll env request r) := by
  intro w h
  unfold enroll
  -- memory and file part company here, and meet again in the write that follows
  rw [wp_bind, setPending, wp_modify, wp_bind]
  refine wp_seq (persist_agree hw _) (fun _ v hv => ?_)
  refine ((Keeps.attempt toError_crash ((Keeps.bind (lives_note _) fun _ => lives_execCall _ _).bind fun _ =>
    lives_execCall _ _)).bind fun answer => ?_) v hv
  cases answer with
  | error e =>
    refine (Keeps.attempt toError_crash (lives_rollbackInternal hw _ _)).bind fun rolled => ?_
    cases rolled with
    | ok _ => exact .fail _
    | error e' => exact .fail _
  | ok _ => exact (lives_replaceRecord hw _).bind fun _ => (lives_audit _ _).bind fun _ => .pure _

theorem lives_begin (request : BeginSafeApply) : Lives (SafeApply.begin env request) := by
  refine (Keeps.ofExcept _).bind fun _ => Keeps.get.bind fun w => ?_
  cases w.pending.find? (fun item => decide (item.operationId = request.operationId)) with
  | some existing => exact .ite (.pure _) (.fail _)
  | none =>
    refine .ite (.fail _) (Keeps.bind ?_ fun a => (Keeps.ofOption _ _).bind fun deadline =>
      lives_enroll hw _ _)
    exact fun _ h => wp_snapshotCall (fun _ => h) (fun _ => .inr h)

end

theorem settle_agree {α : Type} {m : Call α} (hm : Lives m) (h : Agree w) (hrun : (settle (m w)).running = true) :
    Agree (settle (m w)) := by
  have hw := hm w h
  unfold wp at hw
  rcases hmw : m w with ⟨e | a, v⟩
  · rw [hmw] at hw hrun
    cases e with
    | crash => cases hrun
    | error e => exact hw.resolve_left (fun hc => by cases hc)
  · rw [hmw] at hw
    exact hw

theorem step_agree (hw : WritesLand env) (req : Request) (hi : w.disk.Intact) (h : w.running = true → Agree w) :
    (step env w req).running = true → Agree (step env w req) := by
  -- a call of a running process keeps the two together; without one nothing happens
  have hcall : ∀ {α : Type} {m : Call α}, Lives m →
      (if w.running then settle (m w) else w).running = true → Agree (if w.running then settle (m w) else w) :=
    fun hm => iteInduction (motive := fun v => v.running = true → Agree v)
      (fun hr => settle_agree hm (h hr)) (fun _ => h)
  cases req with
  | crash => exact fun hrun => by cases hrun
  | «open» =>
    intro hrun
    rcases open_cases env hi with hq | ⟨hl, hd⟩
    · cases hq.running.symm.trans hrun
    · show (settle (SafeApply.open env w.die)).disk.load = .ok (settle (SafeApply.open env w.die)).pending
      rw [hd, show (settle (SafeApply.open env w.die)).pending = w.disk.records from congrArg Ledger.memory hl]
      exact Disk.load_eq hi
  | «begin» request => exact hcall (lives_begin hw request)
  | confirm op now =>
    exact hcall ((lives_findActive op).bind fun _ => .ite (.fail _) ((lives_note _).bind fun _ =>
      (lives_replaceRecord hw _).bind fun _ => (lives_audit _ _).bind fun _ => .pure _))
  | rollback op => exact hcall (lives_rollbackInternal hw op _)
  | recoverExpired now =>
    exact hcall (Keeps.get.bind fun _ =>
      (Keeps.forEach (fun op => lives_rollbackInternal hw op _) _).bind fun _ => .pure _)

theorem reach_agree (hw : WritesLand env) (h : Reachable env (fun _ => True) w) (hrun : w.running = true) :
    Agree w := by
  have hall : w.disk.Intact ∧ (w.running = true → Agree w) := by
    refine Reach.invariant (I := fun w => w.disk.Intact ∧ (w.running = true → Agree w))
      ⟨by simp [Disk.Intact, World.init], fun hr => by cases hr⟩ (fun w req hi hok => ?_) h
    exact ⟨(step_moves env w req hok hi.1).2, step_agree hw req hi.1 hi.2⟩
  exact hall.2 hrun

/-! ## When a confirmation fails -/

def confirmOps : List FileOp := stateWrite ++ [.syncStateDir, .createAuditDir, .openAudit, .writeAudit, .syncAudit]

variable {r : PendingSafeApply}

/-- A confirmation in time: the record is `Confirmed` in memory whatever happens, and the call returns an error exactly
when one of its file operations does. -/
theorem confirmAt_outcome (env : Env) {now : Nat} (hnd : (w.pending.map (·.operationId)).Nodup) (hr : r ∈ w.pending)
    (hp : isPending r.state = true) (hnow : now < r.deadlineUnixSeconds) :
    wp (confirmAt env r.operationId now) (fun _ _ => Unfailing env w.ioCalls confirmOps)
      (fun e v => (Unfailing env w.ioCalls confirmOps ↔ e = .crash) ∧ v.running = w.running ∧
        v.pending = putRecord { r with state := .confirmed } w.pending) w := by
  unfold confirmAt
  rw [wp_bind]
  apply wp_findActive_found (found_of_mem hnd hr hp)
  rw [if_neg (by omega), wp_bind, note, wp_modify, wp_bind]
  refine wp_replaceRecord ⟨r, hr, rfl⟩ (wp_mono (FileWork.persist env _) ?_ ?_)
  · rintro - v ⟨hv, -, hmore⟩
    apply wp_then (FileWork.audit env _ _ v)
    · rintro - u ⟨-, -, hmore'⟩
      exact (hmore _).2 ((hmore' []).2 trivial)
    · rintro e u ⟨hu, -, hmore'⟩
      exact ⟨(hmore _).trans (hmore' []), hu.running.trans hv.running, hu.pending.trans hv.pending⟩
  · rintro e v ⟨hv, -, hmore⟩
    exact ⟨hmore _, hv.running, hv.pending⟩

/-- The operation of record `r` is armed, and an expiry run at or after its deadline starts the restore unless it is
hindered on the way. -/
def RollsBack (env : Env) (r : PendingSafeApply) (w : World) : Prop :=
  Armed r.operationId w ∧ ∀ now, r.deadlineUnixSeconds ≤ now →
    Attempted r.operationId r.snapshotId w (recoverExpired env now w).2 ∨ Hindered w (recoverExpired env now w).2

theorem confirm_error_armed_iff (env : Env) (hi : Inv env.hashDesired w.ledger) (hrun : w.running = true)
    (hr : r ∈ w.pending) (harmed : Armed r.operationId w) (now : Nat) :
    (∀ e v, confirmAt env r.operationId now w = (.error (.error e), v) → RollsBack env r v) ↔
      r.deadlineUnixSeconds ≤ now ∨ Unfailing env w.ioCalls confirmOps := by
  have hnd : (w.pending.map (·.operationId)).Nodup := hi.nodupMemory
  have hp : isPending r.state = true := by
    obtain ⟨x, hx, hop, hxp⟩ := harmed.memory hrun
    rw [← List.inj_on_of_nodup_map hnd hx hr hop]
    exact hxp
  constructor
  · intro h
    by_contra hnot
    obtain ⟨hnow, hfail⟩ := not_or.1 hnot
    have hout := confirmAt_outcome env hnd hr hp (Nat.lt_of_not_le hnow)
    rcases hm : confirmAt env r.operationId now w with ⟨e | a, v⟩
    · obtain ⟨hcrash, hvrun, hv⟩ := wp_error hout hm
      cases e with
      | crash => exact hfail (hcrash.2 rfl)
      | error e =>
        obtain ⟨x, hx, hop, hp⟩ := (h e v hm).1.memory (hvrun.trans hrun)
        rw [hv] at hx
        rcases mem_putRecord hnd hx with rfl | ⟨-, hne⟩
        · cases hp
        · exact hne hop
    · have hok := wp_ok hout hm
      exact hfail hok
  · intro hcond e v hm
    by_cases hnow : r.deadlineUnixSeconds ≤ now
    · have hlate : wp (confirmAt env r.operationId now) (fun _ _ => False) (fun _ v => v = w) w := by
        unfold confirmAt
        rw [wp_bind]
        apply wp_findActive_found (found_of_mem hnd hr hp)
        rw [if_pos hnow]
        rfl
      have hv := wp_error hlate hm
      subst hv
      refine ⟨harmed, fun now' hnow' => ?_⟩
      rcases wp_after (recoverExpired_trace env now' hnd hr hp hnow') with ⟨_, h⟩ | ⟨_, h⟩
      · exact .inl h
      · exact h.imp_right And.left
    · obtain ⟨hcrash, -⟩ := wp_error (confirmAt_outcome env hnd hr hp (by omega)) hm
      cases hcrash.1 (hcond.resolve_left hnow)

/-- **Memory and state file agree after every call of a run in which no state write fails before its rename; and a
`confirm` that returns an error leaves the operation armed, in memory and in the file, exactly when the deadline had
passed or its file operations return no error.** -/
theorem memory_matches_file (env : Env) (w : World) (h : Reachable env (fun _ => True) w) (hrun : w.running = true) :
    (WritesLand env → w.disk.load = .ok w.pending) ∧
    ∀ r ∈ w.pending, Armed r.operationId w → ∀ now,
      ((∀ e v, confirmAt env r.operationId now w = (.error (.error e), v) → RollsBack env r v) ↔
        r.deadlineUnixSeconds ≤ now ∨ Unfailing env w.ioCalls confirmOps) :=
  ⟨fun hw => reach_agree hw h hrun,
    fun _ hr harmed now => confirm_error_armed_iff env (reach_inv h).1 hrun hr harmed now⟩

theorem memory_matches_file_sample : (run calmEnv waitingRun).disk.load = .ok (run calmEnv waitingRun).pending ∧
    ∀ e v, confirmAt calmEnv "op-1" 160 (run calmEnv waitingRun) = (.error (.error e), v) →
      RollsBack calmEnv (sampleRecord .pendingConfirmation) v := by
  have hrec : (run calmEnv waitingRun).pending = [sampleRecord .pendingConfirmation] := by decide
  obtain ⟨hload, hconfirm⟩ := memory_matches_file calmEnv (run calmEnv waitingRun) (waitingRun_reachable _) (by decide)
  refine ⟨hload (fun op _ n e he => by cases he), ?_⟩
  refine (hconfirm (sampleRecord .pendingConfirmation) (by rw [hrec]; simp) ⟨?_, fun _ => ?_⟩ 160).2 (.inl (by decide))
  · exact ⟨sampleRecord .pendingConfirmation, by decide, rfl, rfl⟩
  · exact ⟨sampleRecord .pendingConfirmation, by decide, rfl, rfl⟩

/-- The rename of a confirmation fails: the call returns an error, the memory says `Confirmed` and the file still says
`PendingConfirmation`. -/
theorem confirm_error_disarms :
    (¬ ∀ (env : Env) (w : World), Reachable env (fun _ => True) w → w.running = true → ∀ r ∈ w.pending,
      Armed r.operationId w → ∀ now e v, confirmAt env r.operationId now w = (.error (.error e), v) →
        Armed r.operationId v) ∧
    ¬ ∀ (env : Env) (w : World), Reachable env (fun _ => True) w → w.running = true →
      w.disk.load = .ok w.pending := by
  constructor
  · intro h
    have hcall : confirmAt (failingWrite 18) "op-1" 120 (run (failingWrite 18) waitingRun) =
        (.error (.error (ioError "No space left on device")),
          (confirmAt (failingWrite 18) "op-1" 120 (run (failingWrite 18) waitingRun)).2) := Prod.ext rfl rfl
    have harmed : Armed "op-1" (run (failingWrite 18) waitingRun) :=
      ⟨⟨sampleRecord .pendingConfirmation, by decide, rfl, rfl⟩,
        fun _ => ⟨sampleRecord .pendingConfirmation, by decide, rfl, rfl⟩⟩
    have hafter := h (failingWrite 18) _ (waitingRun_reachable _) (by decide) (sampleRecord .pendingConfirmation)
      (by decide) harmed 120 _ _ hcall
    obtain ⟨r, hr, -, hp⟩ := hafter.memory (by decide)
    have hrec : (confirmAt (failingWrite 18) "op-1" 120 (run (failingWrite 18) waitingRun)).2.pending =
        [sampleRecord .confirmed] := by decide
    rw [hrec, List.mem_singleton] at hr
    rw [hr] at hp
    cases hp
  · intro h
    have hreach : Reachable (failingWrite 18) (fun _ => True) (run (failingWrite 18) confirmRun) :=
      Reach.foldl confirmRun _ .init ⟨trivial, trivial, fun _ _ _ _ _ => trivial, trivial⟩
    have hload := h (failingWrite 18) _ hreach (by decide)
    have hmem : (run (failingWrite 18) confirmRun).pending = [sampleRecord .confirmed] := by decide
    have hfile : (run (failingWrite 18) confirmRun).disk.load = .ok [sampleRecord .pendingConfirmation] := rfl
    rw [hfile, hmem] at hload
    exact absurd hload (by simp [sampleRecord])

end SafeApply
end NetTool
