import NetTool.SafeApply.Confirm
import NetTool.SafeApply.Orderly
import NetTool.SafeApply.Trace
/-!
# SafeApply.Calm — runs without faults of the file system

When every file operation succeeds, a call of the manager is a sequence of acts of `SafeApply.Orderly` and ends,
whatever the executor answers, with memory and state file equal.  So what the acts preserve holds along every such run,
and an expiry run that returns leaves nothing expired behind.
-/
namespace NetTool
namespace SafeApply

open Prog
open Relation (ReflTransGen)

variable {env : Env} {w v : World} {B : Book}

def CalmFiles (env : Env) : Prop := ∀ op n, env.io op n = .ok ()

/-- A running manager whose memory and file both hold the book's records, with the book's history. -/
structure Neat (B : Book) (w : World) : Prop where
  running : w.running = true
  pending : w.pending = B.records
  events : w.events = B.events
  load : w.disk.load = .ok w.pending

/-- Some acts after `B`. -/
def Acted (B : Book) (w : World) : Prop := ∃ B', ReflTransGen Act B B' ∧ Neat B' w

theorem Acted.refl (h : Neat B w) : Acted B w := ⟨B, .refl, h⟩

theorem Acted.head {B₁ : Book} (ha : Act B B₁) (h : Acted B₁ w) : Acted B w := by
  obtain ⟨B', hacts, hw⟩ := h
  exact ⟨B', .head ha hacts, hw⟩

/-! ## File work that succeeds -/

variable {E : Stop → World → Prop} {Q : Unit → World → Prop} {r : PendingSafeApply}

section
variable (hio : CalmFiles env)
include hio

theorem fileOp_calm {op : FileOp} {done torn : Disk → Disk}
    (hQ : Q () { w with ioCalls := w.ioCalls + 1, disk := done w.disk }) : wp (fileOp env op done torn) Q E w := by
  unfold wp fileOp
  rw [hio op]
  exact hQ

theorem persist_calm (hrun : w.running = true) (hQ : ∀ v, Neat ⟨w.pending, w.events⟩ v → Q () v) :
    wp (persist env) Q E w := by
  unfold persist
  simp only [wp_bind, wp_get]
  iterate 5 apply fileOp_calm hio
  exact hQ _ ⟨hrun, rfl, rfl, rfl⟩

theorem audit_calm (h : Neat B w) {record : PendingSafeApply} {result : String}
    (hQ : ∀ v, Neat B v → Q () v) : wp (audit env record result) Q E w := by
  unfold audit
  simp only [wp_bind, wp_get]
  iterate 4 apply fileOp_calm hio
  exact hQ _ ⟨h.running, h.pending, h.events, h.load⟩

theorem replaceRecord_calm (hrun : w.running = true) (hex : ∃ x ∈ w.pending, x.operationId = r.operationId)
    (hQ : ∀ v, Neat ⟨putRecord r w.pending, w.events⟩ v → Q () v) : wp (replaceRecord env r) Q E w :=
  wp_replaceRecord hex (persist_calm hio hrun hQ)

/-! ## The calls -/

/-- **A rollback is one act**: the record ends as `RolledBack`, with the call returning, or as `Failed`, or the process
dies with the record in `RollingBack`; where there is no such pending record nothing happens. -/
theorem rollbackInternal_calm (op result : String) (h : Neat B w) :
    wp (rollbackInternal env op result)
      (fun _ v => ∃ r ∈ B.records, r.operationId = op ∧ isPending r.state = true ∧
        Neat (B.put { r with state := .rolledBack }
          [.restored r.operationId r.snapshotId, .restoreStarted r.operationId r.snapshotId]) v)
      (fun _ => Acted B) w := by
  unfold rollbackInternal
  rw [wp_bind]
  refine wp_findActive (fun r hr hop hp => ?_) (fun _ => .refl h)
  subst hop
  rw [h.pending] at hr
  have hex : ∃ x ∈ putRecord { r with state := .rollingBack } B.records, x.operationId = r.operationId :=
    ⟨_, mem_putRecord_self ⟨r, hr, rfl⟩, rfl⟩
  rw [wp_bind]
  refine replaceRecord_calm (r := { r with state := .rollingBack }) hio h.running
    ⟨r, by rw [h.pending]; exact hr, rfl⟩ (fun w1 h1 => ?_)
  rw [h.pending, h.events] at h1
  -- the two writes of the record are one: the second overwrites the first
  have hput : ∀ state : SafeApplyState, putRecord { r with state := state } w1.pending =
      putRecord { r with state := state } B.records := fun state => by
    rw [h1.pending]; exact putRecord_twice r _ state _
  have hin : ∃ x ∈ w1.pending, x.operationId = r.operationId := by rw [h1.pending]; exact hex
  simp only [restoreCall, note, wp_bind, wp_attempt, wp_modify]
  refine wp_execCall ?_ (fun e => ⟨fun d _ => ?_, fun hn => (by cases hn)⟩) ⟨fun d hd => (by cases hd), fun _ => ?_⟩
  · refine replaceRecord_calm hio ?_ ?_ (fun w2 h2 => ?_)
    · exact h1.running
    · exact hin
    refine audit_calm hio h2 (fun w3 h3 => ⟨r, hr, rfl, hp, ?_⟩)
    simp only [hput, h1.events] at h3
    exact h3
  · refine replaceRecord_calm hio ?_ ?_ (fun w2 h2 => ?_)
    · exact h1.running
    · exact hin
    refine audit_calm hio h2 (fun w3 h3 => .head (.failed B r hr hp) (.refl ?_))
    simp only [hput, h1.events] at h3
    exact h3
  · refine .head (.rolling B r hr hp) (.refl ⟨h1.running, h1.pending, ?_, h1.load⟩)
    rw [h1.events]
    rfl

theorem rollbackInternal_acted (op result : String) (h : Neat B w) :
    Leaves (Acted B) (rollbackInternal env op result) w := by
  refine wp_mono (rollbackInternal_calm hio op result h) ?_ (fun _ _ hv => hv)
  rintro - v ⟨r, hr, -, hp, hv⟩
  exact .head (.rolledBack B r hr hp) (.refl hv)

end

theorem Acted.trans {B₁ : Book} (hacts : ReflTransGen Act B B₁) (h : Acted B₁ w) : Acted B w := by
  obtain ⟨B', hacts', hw⟩ := h
  exact ⟨B', hacts.trans hacts', hw⟩

/-- Some apply and verify events later. -/
def Tried (B : Book) (v : World) : Prop := ReflTransGen Act B ⟨B.records, v.events⟩ ∧ Neat ⟨B.records, v.events⟩ v

theorem applyAndVerify_calm (op : String) (d : Helper.NetworkDesiredState) (h : Neat B w) :
    Leaves (Tried B) (applyAndVerify env op d) w := by
  have hsay : ∀ e : Event, e.isAttempt = true → ∀ es, Act ⟨B.records, es⟩ ⟨B.records, e :: es⟩ := fun e he es =>
    .attempt ⟨B.records, es⟩ e he
  have h0 : ReflTransGen Act B ⟨B.records, .applyStarted op :: w.events⟩ := by
    rw [h.events]; exact .single (hsay _ rfl _)
  unfold Leaves applyAndVerify applyCall verifyCall note
  rw [wp_bind]
  refine wp_execCall ?_ (fun _ => ?_) ?_
  · have h1 := h0.tail (hsay (.applied op d) rfl _)
    refine wp_execCall ?_ (fun _ => ?_) ?_
    · exact ⟨h1.tail (hsay (.verified op d) rfl _), h.running, h.pending, rfl, h.load⟩
    · exact ⟨h1.tail (hsay (.verifyFailed op) rfl _), h.running, h.pending, rfl, h.load⟩
    · exact ⟨h1, h.running, h.pending, rfl, h.load⟩
  · exact ⟨h0.tail (hsay (.applyFailed op) rfl _), h.running, h.pending, rfl, h.load⟩
  · exact ⟨h0, h.running, h.pending, rfl, h.load⟩

section
variable (hio : CalmFiles env)
include hio

theorem enroll_calm (request : BeginSafeApply) (hstate : r.state = .prepared)
    (hnew : ∀ x ∈ B.records, x.operationId ≠ r.operationId)
    (hfree : ∀ x ∈ B.records, isPending x.state = true → x.targetInterface ≠ r.targetInterface) (h : Neat B w) :
    Leaves (Acted B) (enroll env request r) w := by
  have h0 : Act B ⟨B.records ++ [r], .begun r.operationId request.desiredState :: B.events⟩ :=
    .enroll B r request.desiredState hstate hnew hfree
  unfold Leaves enroll setPending note
  rw [wp_bind, wp_modify, wp_bind, wp_modify, wp_bind]
  refine persist_calm hio ?_ (fun w1 h1 => ?_)
  · exact h.running
  rw [h.pending, h.events] at h1
  rw [wp_bind, wp_attempt]
  apply wp_mono (applyAndVerify_calm _ _ h1)
  · rintro - w2 ⟨hacts, h2⟩
    have hr2 : r ∈ w2.pending := by rw [h2.pending]; simp
    unfold awaitConfirmation
    rw [wp_bind]
    refine replaceRecord_calm (r := { r with state := .pendingConfirmation }) hio h2.running ⟨r, hr2, rfl⟩
      (fun w3 h3 => ?_)
    rw [h2.pending] at h3
    rw [wp_bind]
    refine audit_calm hio h3 (fun w4 h4 => .head h0 (.trans hacts ?_))
    exact .head (.accept _ r (by simp) (by rw [hstate]; rfl)) (.refl h4)
  · rintro e w2 ⟨hacts, h2⟩
    refine ⟨fun applyError _ => ?_, fun _ => .head h0 (.trans hacts (.refl h2))⟩
    unfold giveUp
    rw [wp_bind, wp_attempt]
    refine wp_mono (rollbackInternal_acted hio _ _ h2) (fun _ v hv => ?_) (fun _ v hv => ⟨fun _ _ => ?_, fun _ => ?_⟩)
    · exact .head h0 (.trans hacts hv)
    · exact .head h0 (.trans hacts hv)
    · exact .head h0 (.trans hacts hv)

theorem begin_calm (request : BeginSafeApply) (h : Neat B w) : Leaves (Acted B) (SafeApply.begin env request) w := by
  refine wp_check (fun _ _ => ?_) (fun _ _ => .refl h)
  rw [wp_bind, wp_get]
  cases hfind : w.pending.find? (fun item => decide (item.operationId = request.operationId)) with
  | some existing =>
    rw [wp_ite]
    exact ⟨fun _ => .refl h, fun _ => .refl h⟩
  | none =>
    rw [wp_ite]
    refine ⟨fun _ => .refl h, fun hbusy => ?_⟩
    have h1 : Neat B { w with execCalls := w.execCalls + 1 } := ⟨h.running, h.pending, h.events, h.load⟩
    rw [wp_bind]
    refine wp_snapshotCall (fun a => ?_) (fun _ => .refl ⟨h.running, h.pending, h.events, h.load⟩)
    rw [wp_bind, wp_ofOption]
    refine ⟨fun deadline _ => enroll_calm hio request rfl (fun x hx hop => ?_) (fun x hx hp hif => ?_) h1,
      fun _ => .refl h1⟩
    · rw [← h.pending] at hx
      exact List.find?_eq_none.1 hfind x hx (by simpa using hop)
    · rw [← h.pending] at hx
      exact hbusy (List.any_eq_true.2 ⟨x, hx, by simp only [hp, Bool.true_and, decide_eq_true_eq]; exact hif⟩)

theorem confirmAt_calm (op : String) (now : Nat) (h : Neat B w) : Leaves (Acted B) (confirmAt env op now) w := by
  unfold Leaves confirmAt
  rw [wp_bind]
  refine wp_findActive (fun r hr hop hp => ?_) (fun _ => .refl h)
  subst hop
  rw [wp_ite]
  refine ⟨fun _ => .refl h, fun hnow => ?_⟩
  rw [wp_bind, note, wp_modify, wp_bind]
  refine replaceRecord_calm hio ?_ ?_ (fun w1 h1 => ?_)
  · exact h.running
  · exact ⟨r, hr, rfl⟩
  rw [h.pending, h.events] at h1
  rw [h.pending] at hr
  rw [wp_bind]
  exact audit_calm hio h1 (fun w2 h2 => .head (.confirm B r now hr hp (by omega)) (.refl h2))

/-- What an expiry run has left to do: every expired record is still on its list. -/
structure Sweep (B : Book) (now : Nat) (rest : List String) (w : World) : Prop where
  acted : Acted B w
  orderly : Orderly B
  left : ∀ x ∈ w.pending, isPending x.state = true → x.deadlineUnixSeconds ≤ now → x.operationId ∈ rest

/-- **An expiry run that returns leaves nothing expired behind.** -/
theorem recoverExpired_calm (now : Nat) (ho : Orderly B) (h : Neat B w) :
    wp (recoverExpired env now)
      (fun _ v => Acted B v ∧ ∀ x ∈ v.pending, isPending x.state = true → now < x.deadlineUnixSeconds)
      (fun _ => Acted B) w := by
  have hstart : Sweep B now (expired now w.pending) w := by
    refine ⟨.refl h, ho, fun x hx hxp hxnow => ?_⟩
    exact List.mem_map.2 ⟨x, List.mem_filter.2 ⟨hx, by simp [hxp, hxnow]⟩, rfl⟩
  unfold recoverExpired
  rw [wp_bind]
  refine wp_then (wp_forEach (I := fun rest v => Sweep B now rest v) (fun op rest w h => ?_)
    _ _ hstart) (fun _ v hv => ⟨hv.acted, fun x hx hxp => ?_⟩) (fun _ _ hv => hv)
  · obtain ⟨B', hacts, hw⟩ := h.acted
    have ho : Orderly B' := h.orderly.acts hacts
    refine wp_mono (rollbackInternal_calm hio op _ hw) ?_ (fun _ v hv => .trans hacts hv)
    rintro - v ⟨r, hr, hop, hp, hv⟩
    refine ⟨.trans hacts (.head (.rolledBack B' r hr hp) (.refl hv)), h.orderly,
      fun x hx hxp hxnow => ?_⟩
    rw [hv.pending] at hx
    rcases mem_putRecord ho.unique hx with rfl | ⟨hx, hne⟩
    · cases hxp
    · rw [← hw.pending] at hx
      have hmem := h.left x hx hxp hxnow
      exact (List.mem_cons.1 hmem).resolve_left (fun heq => hne (heq.trans hop.symm))
  · by_contra hlate
    cases hv.left x hx hxp (by omega)

end

/-! ## Runs -/

/-- The file's records and the history are orderly, and a running manager has the file's records in memory. -/
structure Tidy (w : World) : Prop where
  orderly : Orderly ⟨w.disk.records, w.events⟩
  intact : w.disk.Intact
  memory : w.running = true → w.pending = w.disk.records

theorem Tidy.neat (h : Tidy w) (hrun : w.running = true) : Neat ⟨w.disk.records, w.events⟩ w :=
  ⟨hrun, h.memory hrun, rfl, by rw [h.memory hrun]; exact Disk.load_eq h.intact⟩

theorem records_of_load {d : Disk} {l : List PendingSafeApply} (h : d.load = .ok l) : d.records = l ∧ d.Intact := by
  unfold Disk.load at h
  unfold Disk.records Disk.Intact
  split at h <;> simp_all

theorem step_tidy (hio : CalmFiles env) (h : Tidy w) (req : Request) : Tidy (step env w req) := by
  have hcall : ∀ {α : Type} {m : Call α}, (w.running = true → Leaves (Acted ⟨w.disk.records, w.events⟩) m w) →
      Tidy (if w.running then settle (m w) else w) := by
    refine fun {α m} hm => iteInduction (motive := Tidy) (fun hr => ?_) (fun _ => h)
    obtain ⟨B', hacts, hv⟩ : Acted ⟨w.disk.records, w.events⟩ (m w).2 := wp_state (hm hr)
    have ho' : Orderly B' := h.orderly.acts hacts
    obtain ⟨hrec, hintact⟩ := records_of_load hv.load
    have hord : Orderly ⟨(m w).2.disk.records, (m w).2.events⟩ := by
      rw [hrec, hv.pending, hv.events]; exact ho'
    rcases hm : m w with ⟨e | a, v⟩
    · rw [hm] at hrec hintact hord
      cases e with
      | error e => exact ⟨hord, hintact, fun _ => hrec.symm⟩
      | crash => exact ⟨hord, hintact, fun hrun => by cases hrun⟩
    · rw [hm] at hrec hintact hord
      exact ⟨hord, hintact, fun _ => hrec.symm⟩
  cases req with
  | crash => exact ⟨h.orderly, h.intact, fun hrun => by cases hrun⟩
  | «open» =>
    show Tidy (settle (SafeApply.open env w.die))
    rcases open_cases env h.intact with hq | ⟨hl, hd⟩
    · have hrec : (settle (SafeApply.open env w.die)).disk.records = w.disk.records := congrArg Ledger.file hq.ledger
      refine ⟨by rw [hrec, hq.events]; exact h.orderly, ?_, fun hrun => ?_⟩
      · unfold Disk.Intact; rw [hq.stateFile]; exact h.intact
      · rw [hq.running] at hrun; cases hrun
    · refine ⟨?_, by rw [hd]; exact h.intact, fun _ => ?_⟩
      · rw [hd, show (settle (SafeApply.open env w.die)).events = w.events from congrArg Ledger.events hl]
        exact h.orderly
      · rw [hd]; exact congrArg Ledger.memory hl
  | «begin» request => exact hcall fun hr => begin_calm hio request (h.neat hr)
  | confirm op now => exact hcall fun hr => confirmAt_calm hio op now (h.neat hr)
  | rollback op => exact hcall fun hr => rollbackInternal_acted hio op _ (h.neat hr)
  | recoverExpired now =>
    exact hcall fun hr => wp_mono (recoverExpired_calm hio now h.orderly (h.neat hr)) (fun _ _ hv => hv.1)
      (fun _ _ hv => hv)

theorem orderly_init : Orderly ⟨World.init.disk.records, World.init.events⟩ := by
  refine ⟨?_, ?_, ?_, ?_, ?_, ?_, ?_⟩ <;> simp [World.init, Disk.records]

/-- **In every run without faults of the file system**, whatever the executor answers and the clock reads: one record
per operation, at most one of them pending per interface, confirmations strictly before the deadline and never followed
by a restore, at most one successful restore per operation; and after a `recover_expired` that returns `Ok` no pending
record is due. -/
theorem calm_run_orderly (env : Env) (hio : CalmFiles env) (w : World) (h : Reachable env (fun _ => True) w) :
    Orderly ⟨w.disk.records, w.events⟩ ∧ (w.running = true → w.pending = w.disk.records) ∧
    ∀ now l v, w.running = true → recoverExpired env now w = (.ok l, v) →
      ∀ r ∈ v.pending, isPending r.state = true → now < r.deadlineUnixSeconds := by
  have ht : Tidy w := by
    refine Reach.invariant (I := Tidy) ⟨orderly_init, by simp [Disk.Intact, World.init], fun _ => rfl⟩
      (fun w req hw _ => step_tidy hio hw req) h
  refine ⟨ht.orderly, ht.memory, fun now l v hrun hm => ?_⟩
  obtain ⟨-, hleft⟩ := wp_ok (recoverExpired_calm hio now ht.orderly (ht.neat hrun)) hm
  exact hleft

theorem calm_run_orderly_sample : Orderly ⟨(run calmEnv confirmRun).disk.records, (run calmEnv confirmRun).events⟩ ∧
    ((run calmEnv confirmRun).running = true → (run calmEnv confirmRun).pending =
      (run calmEnv confirmRun).disk.records) :=
  have h := calm_run_orderly calmEnv (fun _ _ => rfl) (run calmEnv confirmRun)
    (Reach.foldl confirmRun _ .init ⟨trivial, trivial, fun _ _ _ _ _ => trivial, trivial⟩)
  ⟨h.1, h.2.1⟩

end SafeApply
end NetTool
