import NetTool.SafeApply.Protocol
/-!
# SafeApply.Trace — what a rollback adds to the history, and what can stop it

A rollback leaves every other operation alone, and it stops before its restore only when a file operation it made was
not answered with success (`rollbackInternal_trace`).  So `recover_expired` reaches every expired operation unless a
file operation, or the restore of another one, went wrong on the way (`recoverExpired_trace`).
-/
namespace NetTool
namespace SafeApply

open Prog List

variable {w v u : World}

/-- `v` comes after `w`: no answer has been taken back. -/
def Later (w v : World) : Prop := w.faults ≤ v.faults

theorem Later.trans (h : Later w v) (h' : Later v u) : Later w u := Nat.le_trans h h'

/-- Between `w` and `v` some file operation or executor call was not answered with success. -/
def Hindered (w v : World) : Prop := w.faults < v.faults

theorem Hindered.after (hl : Later w v) (h : Hindered v u) : Hindered w u := Nat.lt_of_le_of_lt hl h

theorem Hindered.before (h : Hindered w v) (hl : Later v u) : Hindered w u := Nat.lt_of_lt_of_le h hl

/-! ## File work -/

variable (env : Env)

/-- No error; the process may still die. -/
def Answer.Fine {ε α : Type} (a : Answer ε α) : Prop := ∀ e, a ≠ .err e

/-- The next `n` file operations from the `start`-th on are answered without an error. -/
def FilesFine (start n : Nat) : Prop := ∀ op k, k < n → (env.io op (start + k)).Fine

/-- Asked for the operations `ops`, from the `n`-th answer on, the file system does not return an error: it succeeds, or
the process dies first. -/
def Unfailing : Nat → List FileOp → Prop
  | _, []        => True
  | n, op :: ops =>
    match env.io op n with
    | .ok _  => Unfailing (n + 1) ops
    | .err _ => False
    | .crash => True

variable {env} in
theorem FilesFine.part {start n j k : Nat} (h : FilesFine env start n) (hle : j + k ≤ n) :
    FilesFine env (start + j) k := by
  intro op i hi
  rw [Nat.add_assoc]
  exact h op (j + i) (by omega)

variable {env} in
theorem FilesFine.unfailing : ∀ {ops : List FileOp} {start n : Nat}, FilesFine env start n → ops.length ≤ n →
    Unfailing env start ops
  | [], _, _, _, _ => trivial
  | op :: ops, start, n + 1, h, hlength => by
    have hfine := h op 0 (Nat.succ_pos n)
    unfold Unfailing
    cases hio : env.io op start with
    | ok _ => exact (h.part (k := n) (by omega)).unfailing (Nat.le_of_succ_le_succ hlength)
    | err e => exact hfine e hio
    | crash => trivial

/-- Only the disk, and the count of answers, changed. -/
structure Still (w v : World) : Prop where
  later : Later w v
  running : v.running = w.running
  pending : v.pending = w.pending
  events : v.events = w.events
  execCalls : v.execCalls = w.execCalls

theorem Still.trans (h : Still w v) (h' : Still v u) : Still w u :=
  ⟨h.later.trans h'.later, h'.running.trans h.running, h'.pending.trans h.pending, h'.events.trans h.events,
    h'.execCalls.trans h.execCalls⟩

/-- A program that works on the disk alone: it asks for the operations `ops`, in turn and while they succeed, and
returns an error exactly when one of them does. -/
def FileWork (ops : List FileOp) {α : Type} (m : Call α) : Prop :=
  ∀ w, wp m
    (fun _ v => Still w v ∧ v.ioCalls = w.ioCalls + ops.length ∧
      ∀ more, Unfailing env w.ioCalls (ops ++ more) ↔ Unfailing env v.ioCalls more)
    (fun stop v => Still w v ∧ Hindered w v ∧ ∀ more, Unfailing env w.ioCalls (ops ++ more) ↔ stop = .crash) w

theorem FileWork.fileOp (op : FileOp) (done torn : Disk → Disk) : FileWork env [op] (fileOp env op done torn) := by
  intro w
  unfold wp SafeApply.fileOp
  cases hio : env.io op w.ioCalls with
  | ok _ => exact ⟨⟨Nat.le_refl _, rfl, rfl, rfl, rfl⟩, rfl, fun more => by simp [Unfailing, hio]⟩
  | err e
  | crash =>
    exact ⟨⟨Nat.le_succ _, rfl, rfl, rfl, rfl⟩, Nat.lt_succ_self _, fun more => by simp [Unfailing, hio]⟩

variable {env} in
theorem FileWork.bind {α β : Type} {ops ops' : List FileOp} {m : Call β} {f : β → Call α} (hm : FileWork env ops m)
    (hf : ∀ b, FileWork env ops' (f b)) : FileWork env (ops ++ ops') (m >>= f) := by
  intro w
  apply wp_then (hm w)
  · rintro b v ⟨hv, hio, hmore⟩
    apply wp_mono (hf b v)
    · rintro - u ⟨hu, hio', hmore'⟩
      refine ⟨hv.trans hu, by rw [hio', hio, length_append, Nat.add_assoc], fun more => ?_⟩
      rw [append_assoc, hmore, hmore']
    · rintro stop u ⟨hu, hh, hmore'⟩
      exact ⟨hv.trans hu, hh.after hv.later, fun more => by rw [append_assoc, hmore, hmore']⟩
  · rintro stop v ⟨hv, hh, hmore⟩
    exact ⟨hv, hh, fun more => by rw [append_assoc, hmore]⟩

theorem FileWork.get : FileWork env [] Prog.get := fun _ => ⟨⟨Nat.le_refl _, rfl, rfl, rfl, rfl⟩, rfl, fun _ => Iff.rfl⟩

/-- The steps of a state write up to the rename that makes it visible. -/
def stateWrite : List FileOp := [.createStateDir, .openTemporary, .writeTemporary, .renameTemporary]

theorem FileWork.persist : FileWork env (stateWrite ++ [.syncStateDir]) (persist env) :=
  (FileWork.fileOp env _ _ _).bind fun _ => (FileWork.get env).bind fun _ => (FileWork.fileOp env _ _ _).bind fun _ =>
    (FileWork.fileOp env _ _ _).bind fun _ => (FileWork.fileOp env _ _ _).bind fun _ => FileWork.fileOp env _ _ _

theorem FileWork.audit (record : PendingSafeApply) (result : String) :
    FileWork env [.createAuditDir, .openAudit, .writeAudit, .syncAudit] (audit env record result) :=
  (FileWork.fileOp env _ _ _).bind fun _ => (FileWork.get env).bind fun _ => (FileWork.fileOp env _ _ _).bind fun _ =>
    (FileWork.fileOp env _ _ _).bind fun _ => FileWork.fileOp env _ _ _

/-! ## Rollbacks -/

/-- Only the operation `op` was touched: the other records of memory are as they were, and what happened since is about
restoring `op`. -/
structure Touches (op : String) (w v : World) : Prop where
  later : Later w v
  ids : v.pending.map (·.operationId) = w.pending.map (·.operationId)
  others : ∀ x, x.operationId ≠ op → (x ∈ v.pending ↔ x ∈ w.pending)
  news : ∃ new, v.events = new ++ w.events ∧ ∀ e ∈ new, e.isRestoreOf op = true

/-- A restore of the operation's snapshot was started between `w` and `v`. -/
def Attempted (op snapshot : String) (w v : World) : Prop :=
  ∃ new, v.events = new ++ w.events ∧ .restoreStarted op snapshot ∈ new

theorem Touches.trans {op : String} (h : Touches op w v) (h' : Touches op v u) : Touches op w u where
  later := h.later.trans h'.later
  ids := h'.ids.trans h.ids
  others := fun x hx => (h'.others x hx).trans (h.others x hx)
  news := by
    obtain ⟨new, hn, hall⟩ := h.news
    obtain ⟨new', hn', hall'⟩ := h'.news
    refine ⟨new' ++ new, by rw [hn', hn, append_assoc], fun e he => ?_⟩
    exact (mem_append.1 he).elim (hall' e) (hall e)

theorem Attempted.before {op s : String} (h : Attempted op s w v) (hn : ∃ new, u.events = new ++ v.events) :
    Attempted op s w u := by
  obtain ⟨new, hv, hm⟩ := h
  obtain ⟨new', hu⟩ := hn
  exact ⟨new' ++ new, by rw [hu, hv, append_assoc], mem_append_right _ hm⟩

theorem Attempted.after {op s : String} (h : Attempted op s v u) (hn : ∃ new, v.events = new ++ w.events) :
    Attempted op s w u := by
  obtain ⟨new, hu, hm⟩ := h
  obtain ⟨new', hv⟩ := hn
  exact ⟨new ++ new', by rw [hu, hv, append_assoc], mem_append_left _ hm⟩

theorem Touches.extends {op : String} (h : Touches op w v) : ∃ new, v.events = new ++ w.events := by
  obtain ⟨new, hn, -⟩ := h.news
  exact ⟨new, hn⟩

variable {op : String} {r : PendingSafeApply}

/-- Only the record's state changed, in memory and perhaps on disk. -/
structure Replaced (r : PendingSafeApply) (w v : World) : Prop where
  later : Later w v
  pending : v.pending = putRecord r w.pending
  events : v.events = w.events
  execCalls : v.execCalls = w.execCalls

theorem Replaced.still (h : Replaced r w v) (h' : Still v u) : Replaced r w u :=
  ⟨h.later.trans h'.later, h'.pending.trans h.pending, h'.events.trans h.events, h'.execCalls.trans h.execCalls⟩

theorem Replaced.touches (h : Replaced r w v) : Touches r.operationId w v where
  later := h.later
  ids := by rw [h.pending, map_putRecord]
  others := fun x hx => by rw [h.pending, mem_putRecord_ne hx]
  news := ⟨[], h.events, fun e he => by cases he⟩

theorem replaceRecord_trace (hex : ∃ x ∈ w.pending, x.operationId = r.operationId) :
    wp (replaceRecord env r) (fun _ v => Replaced r w v ∧ v.ioCalls = w.ioCalls + 5)
      (fun stop v => Replaced r w v ∧ Hindered w v ∧ (FilesFine env w.ioCalls 5 → stop = .crash)) w := by
  have hput : Replaced r w { w with pending := putRecord r w.pending } := ⟨Nat.le_refl _, rfl, rfl, rfl⟩
  refine wp_replaceRecord hex (wp_mono (FileWork.persist env _) ?_ ?_)
  · rintro - v ⟨hv, hio, -⟩
    exact ⟨hput.still hv, hio⟩
  · rintro stop v ⟨hv, hh, hmore⟩
    exact ⟨hput.still hv, hh, fun hfine => (hmore []).1 (hfine.unfailing (Nat.le_refl 5))⟩

/-- The record that `findActive` finds. -/
def Found (op : String) (r : PendingSafeApply) (w : World) : Prop :=
  w.pending.find? (fun item => item.operationId = op ∧ isPending item.state) = some r

theorem Found.mem (h : Found op r w) : r ∈ w.pending ∧ r.operationId = op ∧ isPending r.state = true :=
  ⟨mem_of_find?_eq_some h, by simpa using find?_some h⟩

theorem found_of_mem (hnd : (w.pending.map (·.operationId)).Nodup) (hr : r ∈ w.pending)
    (hp : isPending r.state = true) : Found r.operationId r w := by
  have hsome : (w.pending.find? (fun item => item.operationId = r.operationId ∧ isPending item.state)).isSome :=
    find?_isSome.2 ⟨r, hr, by simp [hp]⟩
  obtain ⟨x, hx⟩ := Option.isSome_iff_exists.1 hsome
  rwa [inj_on_of_nodup_map hnd (Found.mem hx).1 hr (Found.mem hx).2.1] at hx

theorem wp_findActive_found {Q : PendingSafeApply → World → Prop} {E : Stop → World → Prop} (h : Found op r w)
    (hQ : Q r w) : wp (findActive op) Q E w := by
  unfold findActive
  rw [wp_bind, wp_get, h]
  exact hQ

/-- The restore: it is started, whatever the answer. -/
structure RestoreTried (op snapshot : String) (w v : World) : Prop where
  touches : Touches op w v
  pending : v.pending = w.pending
  attempted : Attempted op snapshot w v
  ioCalls : v.ioCalls = w.ioCalls

theorem restoreCall_trace (op snapshot : String) :
    wp (restoreCall env op snapshot) (fun _ v => RestoreTried op snapshot w v ∧ v.execCalls = w.execCalls + 1)
      (fun stop v => RestoreTried op snapshot w v ∧ Hindered w v ∧
        ((env.exec w.execCalls).Fine → stop = .crash)) w := by
  have htried : ∀ (new : List Event) (n : Nat), (∀ e ∈ new, e.isRestoreOf op = true) →
      .restoreStarted op snapshot ∈ new → RestoreTried op snapshot w
        { w with execCalls := w.execCalls + 1, events := new ++ w.events, faults := w.faults + n } :=
    fun new n hnew hstarted =>
      ⟨⟨Nat.le_add_right _ _, rfl, fun _ _ => Iff.rfl, new, rfl, hnew⟩, rfl, ⟨new, rfl, hstarted⟩, rfl⟩
  unfold restoreCall note
  rw [wp_bind, wp_modify]
  unfold wp execCall
  cases hexec : env.exec w.execCalls with
  | ok _ =>
    exact ⟨htried [.restored op snapshot, .restoreStarted op snapshot] 0 (by simp [Event.isRestoreOf]) (by simp), rfl⟩
  | err e =>
    exact ⟨htried [.restoreFailed op snapshot, .restoreStarted op snapshot] 1 (by simp [Event.isRestoreOf]) (by simp),
      Nat.lt_succ_self _, fun hfine => absurd rfl (hfine e)⟩
  | crash =>
    exact ⟨htried [.restoreStarted op snapshot] 1 (by simp [Event.isRestoreOf]) (by simp), Nat.lt_succ_self _,
      fun _ => rfl⟩

/-- The operation's first record was overwritten by one that is not pending. -/
def Closed (op : String) (w v : World) : Prop :=
  ∃ r : PendingSafeApply, r.operationId = op ∧ isPending r.state = false ∧ v.pending = putRecord r w.pending

/-- A rollback of the record that returned, after fourteen file operations and one executor call. -/
structure RolledBack (r : PendingSafeApply) (w v : World) : Prop where
  touches : Touches r.operationId w v
  attempted : Attempted r.operationId r.snapshotId w v
  closed : Closed r.operationId w v
  ioCalls : v.ioCalls = w.ioCalls + 14
  execCalls : v.execCalls = w.execCalls + 1

/-- A rollback of the record that stopped: it was hindered, before the restore only by its first state write, and when
that is through the record is closed. -/
structure RollbackStopped (r : PendingSafeApply) (w : World) (stop : Stop) (v : World) : Prop where
  touches : Touches r.operationId w v
  hindered : Hindered w v
  attempted : Attempted r.operationId r.snapshotId w v ∨ v.events = w.events
  closed : FilesFine env w.ioCalls 5 → stop = .crash ∨ Closed r.operationId w v
  crashed : FilesFine env w.ioCalls 14 → (env.exec w.execCalls).Fine → stop = .crash

/-- The record was set to `RollingBack` and its restore was started. -/
structure Restoring (r : PendingSafeApply) (w v : World) : Prop where
  touches : Touches r.operationId w v
  attempted : Attempted r.operationId r.snapshotId w v
  pending : v.pending = putRecord { r with state := .rollingBack } w.pending

section
variable {w₂ : World} {state : SafeApplyState} (h : Restoring r w w₂)
include h

theorem Restoring.exists_mem (hr : r ∈ w.pending) : ∃ x ∈ w₂.pending, x.operationId = r.operationId := by
  rw [h.pending]
  exact ⟨{ r with state := .rollingBack }, mem_putRecord_self ⟨r, hr, rfl⟩, rfl⟩

theorem Restoring.closed (hstate : isPending state = false) (hv : Replaced { r with state := state } w₂ v) :
    Closed r.operationId w v :=
  ⟨{ r with state := state }, rfl, hstate, by rw [hv.pending, h.pending, putRecord_twice]⟩

theorem Restoring.stopped {stop : Stop} (hstate : isPending state = false)
    (hv : Replaced { r with state := state } w₂ v) (hh : Hindered w v)
    (hcrashed : FilesFine env w.ioCalls 14 → (env.exec w.execCalls).Fine → stop = .crash) :
    RollbackStopped env r w stop v :=
  ⟨h.touches.trans hv.touches, hh, .inl (h.attempted.before hv.touches.extends), fun _ => .inr (h.closed hstate hv),
    hcrashed⟩

end

/-- **A rollback of a pending operation starts its restore, unless its first state write is hindered**; it touches no
other operation, and it fails only when it is hindered. -/
theorem rollbackInternal_trace (result : String) (hfound : Found op r w) :
    wp (rollbackInternal env op result) (fun _ v => RolledBack r w v) (RollbackStopped env r w) w := by
  obtain ⟨hr, rfl, -⟩ := hfound.mem
  unfold rollbackInternal
  rw [wp_bind]
  apply wp_findActive_found hfound
  apply wp_then (replaceRecord_trace env (r := { r with state := .rollingBack }) ⟨r, hr, rfl⟩)
  · rintro - w₁ ⟨h₁, hio₁⟩
    have hrestoring : ∀ {w₂}, RestoreTried r.operationId r.snapshotId w₁ w₂ → Restoring r w w₂ := fun h₂ =>
      ⟨h₁.touches.trans h₂.touches, h₂.attempted.after h₁.touches.extends, h₂.pending.trans h₁.pending⟩
    rw [wp_bind, wp_attempt]
    apply wp_mono (restoreCall_trace env r.operationId r.snapshotId)
    · rintro - w₂ ⟨h₂, hexec⟩
      have h := hrestoring h₂
      have hio : w₂.ioCalls = w.ioCalls + 5 := h₂.ioCalls.trans hio₁
      apply wp_then (replaceRecord_trace env (r := { r with state := .rolledBack }) (h.exists_mem hr))
      · rintro - v ⟨hv, hio'⟩
        rw [hio] at hio'
        apply wp_mono (FileWork.audit env _ _ v)
        · rintro - u ⟨hu, hio'', -⟩
          have hv := hv.still hu
          rw [hio'] at hio''
          exact ⟨h.touches.trans hv.touches, h.attempted.before hv.touches.extends, h.closed rfl hv, hio'', by
            rw [hv.execCalls, hexec, h₁.execCalls]⟩
        · rintro stop u ⟨hu, hh, hmore⟩
          refine h.stopped env rfl (hv.still hu) (hh.after (h.touches.later.trans hv.later)) fun hfine _ => ?_
          refine (hmore []).1 ?_
          rw [hio']
          exact (hfine.part (j := 10) (k := 4) (by decide)).unfailing (Nat.le_refl 4)
      · rintro stop v ⟨hv, hh, hcrash⟩
        rw [hio] at hcrash
        exact h.stopped env rfl hv (hh.after h.touches.later) fun hfine _ => hcrash (hfine.part (by decide))
    · rintro stop w₂ ⟨h₂, hh, hcrash⟩
      have h := hrestoring h₂
      have hh := hh.after h₁.later
      rw [h₁.execCalls] at hcrash
      refine ⟨fun error herror => ?_, fun hdied => ?_⟩
      · -- the restore failed: whatever happens now, the call was hindered
        have hnot : ¬ (env.exec w.execCalls).Fine := fun hfine => by rw [hcrash hfine] at herror; cases herror
        have hfailed : ∀ {stop v}, Replaced { r with state := .failed } w₂ v → RollbackStopped env r w stop v :=
          fun hv => h.stopped env rfl hv (hh.before hv.later) fun _ hfine => absurd hfine hnot
        refine wp_then (replaceRecord_trace env (h.exists_mem hr)) (fun _ v hv => ?_) (fun _ v hv => hfailed hv.1)
        exact wp_then (FileWork.audit env _ _ v) (fun _ u hu => hfailed (hv.1.still hu.1))
          (fun _ u hu => hfailed (hv.1.still hu.1))
      · have hdied : stop = .crash := by
          cases stop with
          | error e => cases hdied
          | crash => rfl
        exact ⟨h.touches, hh, .inl h.attempted, fun _ => .inl hdied, fun _ _ => hdied⟩
  · rintro stop v ⟨hv, hh, hfine⟩
    exact ⟨hv.touches, hh, .inr hv.events, fun h => .inl (hfine h), fun h _ => hfine (h.part (j := 0) (by decide))⟩

/-- What is left to do of an expiry run begun at `w`: the operations of `rest` are as they were, and `r` is either among
them, with nothing said about it yet, or has had its restore started. -/
structure Outlook (r : PendingSafeApply) (w : World) (rest : List String) (v : World) : Prop where
  later : Later w v
  ids : v.pending.map (·.operationId) = w.pending.map (·.operationId)
  others : ∀ x, x.operationId ∈ rest → (x ∈ v.pending ↔ x ∈ w.pending)
  nodup : rest.Nodup
  active : ∀ op ∈ rest, ∃ x ∈ w.pending, x.operationId = op ∧ isPending x.state = true
  news : ∃ new, v.events = new ++ w.events ∧
    (.restoreStarted r.operationId r.snapshotId ∈ new ∨
      (r.operationId ∈ rest ∧ ∀ e ∈ new, ∃ op, op ≠ r.operationId ∧ e.isRestoreOf op = true))

/-- Nothing was said about the operation `op` between `w` and `v`. -/
def Silent (op : String) (w v : World) : Prop :=
  ∃ new, v.events = new ++ w.events ∧ ∀ e ∈ new, ∃ o, o ≠ op ∧ e.isRestoreOf o = true

theorem outlook_body (hnd : (w.pending.map (·.operationId)).Nodup) (hr : r ∈ w.pending) (op : String)
    (rest : List String) (v : World) (h : Outlook r w (op :: rest) v) :
    wp (rollbackInternal env op "deadline_expired") (fun _ u => Outlook r w rest u)
      (fun _ u => Attempted r.operationId r.snapshotId w u ∨ (Hindered w u ∧ Silent r.operationId w u)) v := by
  obtain ⟨x, hx, rfl, hxp⟩ := h.active op mem_cons_self
  have hxv : x ∈ v.pending := (h.others x mem_cons_self).2 hx
  have hne : ∀ y : PendingSafeApply, y.operationId ∈ rest → y.operationId ≠ x.operationId := fun y hy heq =>
    (nodup_cons.1 h.nodup).1 (heq ▸ hy)
  -- when it is `r`'s turn, the record found is `r` itself
  have hself : x.operationId = r.operationId → x = r := fun heq => inj_on_of_nodup_map hnd hx hr heq
  obtain ⟨new, hnew, hsaid⟩ := h.news
  apply wp_mono (rollbackInternal_trace env "deadline_expired" (found_of_mem (by rw [h.ids]; exact hnd) hxv hxp))
  · rintro - u ⟨hu, ha, -, -, -⟩
    refine ⟨h.later.trans hu.later, hu.ids.trans h.ids, fun y hy => ?_, (nodup_cons.1 h.nodup).2,
      fun o ho => h.active o (mem_cons_of_mem _ ho), ?_⟩
    · exact (hu.others y (hne y hy)).trans (h.others y (mem_cons_of_mem _ hy))
    · obtain ⟨new', hnew', hall⟩ := hu.news
      refine ⟨new' ++ new, by rw [hnew', hnew, append_assoc], ?_⟩
      rcases hsaid with hs | ⟨hmem, hs⟩
      · exact .inl (mem_append_right _ hs)
      · by_cases heq : x.operationId = r.operationId
        · obtain ⟨new'', hu'', hm⟩ := ha
          have hsame : new'' = new' := append_cancel_right (hu''.symm.trans hnew')
          rw [hself heq, hsame] at hm
          exact .inl (mem_append_left _ hm)
        · refine .inr ⟨(mem_cons.1 hmem).resolve_left (Ne.symm heq), fun e he => ?_⟩
          rcases mem_append.1 he with he | he
          · exact ⟨x.operationId, heq, hall e he⟩
          · exact hs e he
  · rintro - u ⟨hu, hh, ha, -, -⟩
    have hh := hh.after h.later
    obtain ⟨new', hnew', hall⟩ := hu.news
    rcases hsaid with hs | ⟨hmem, hs⟩
    · exact .inl (Attempted.before ⟨new, hnew, hs⟩ ⟨new', hnew'⟩)
    · by_cases heq : x.operationId = r.operationId
      · rcases ha with ha | hquiet
        · rw [hself heq] at ha
          exact .inl (ha.after ⟨new, hnew⟩)
        · exact .inr ⟨hh, new, by rw [hquiet, hnew], hs⟩
      · refine .inr ⟨hh, new' ++ new, by rw [hnew', hnew, append_assoc], fun e he => ?_⟩
        rcases mem_append.1 he with he | he
        · exact ⟨x.operationId, heq, hall e he⟩
        · exact hs e he

/-- **An expiry run starts the restore of every expired operation, unless it is hindered before it gets there**, and
then nothing has been said about that operation. -/
theorem recoverExpired_trace (now : Nat) (hnd : (w.pending.map (·.operationId)).Nodup)
    (hr : r ∈ w.pending) (hp : isPending r.state = true) (hnow : r.deadlineUnixSeconds ≤ now) :
    wp (recoverExpired env now) (fun _ v => Attempted r.operationId r.snapshotId w v)
      (fun _ v => Attempted r.operationId r.snapshotId w v ∨ (Hindered w v ∧ Silent r.operationId w v)) w := by
  have hsub : (expired now w.pending).Sublist (w.pending.map (·.operationId)) := filter_sublist.map _
  have hstart : Outlook r w (expired now w.pending) w := by
    refine ⟨Nat.le_refl _, rfl, fun _ _ => Iff.rfl, hsub.nodup hnd, fun op hop => ?_, [], rfl, .inr ⟨?_, ?_⟩⟩
    · obtain ⟨x, hx, rfl⟩ := mem_map.1 hop
      have hx' := mem_filter.1 hx
      simp only [Bool.and_eq_true] at hx'
      exact ⟨x, hx'.1, rfl, hx'.2.1⟩
    · exact mem_map.2 ⟨r, mem_filter.2 ⟨hr, by simp [hp, hnow]⟩, rfl⟩
    · intro e he; cases he
  unfold recoverExpired
  rw [wp_bind]
  refine wp_seq (wp_forEach (I := fun rest v => Outlook r w rest v)
    (fun op rest v h => outlook_body env hnd hr op rest v h) _ _ hstart) (fun _ v hv => ?_)
  obtain ⟨new, hnew, hs | ⟨hmem, -⟩⟩ := hv.news
  · exact ⟨new, hnew, hs⟩
  · cases hmem

end SafeApply
end NetTool
