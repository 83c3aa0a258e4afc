import NetTool.SafeApply.Protocol
import NetTool.Lib.Run
/-!
# SafeApply.Refine — every call of the manager is a sequence of moves

The manager as the code has it, cut at any point by an error or by the death of the process, changes the ledger by moves
of `SafeApply.Protocol` only (`step_moves`).  So whatever the moves preserve holds in every world a run can reach
(`reach_inv`).
-/
namespace NetTool
namespace SafeApply

open Prog
open Helper (NetworkDesiredState)
open Ledger (Move Inv)
open Relation (ReflTransGen)

def Disk.records (d : Disk) : List PendingSafeApply :=
  match d.stateFile with
  | some (.records l) => l
  | _                 => []

def Disk.Intact (d : Disk) : Prop := d.stateFile ≠ some .torn

def World.ledger (w : World) : Ledger := ⟨w.running, w.pending, w.disk.records, w.events⟩

theorem Disk.load_eq {d : Disk} (h : d.Intact) : d.load = .ok d.records := by
  unfold Disk.load Disk.records
  split
  · rename_i hf; rw [hf]
  · rename_i l hf; rw [hf]
  · rename_i hf; exact absurd hf h

/-! ## File operations -/

/-- Neither memory nor state file nor history changed. -/
structure Quiet (w w' : World) : Prop where
  running : w'.running = w.running
  pending : w'.pending = w.pending
  stateFile : w'.disk.stateFile = w.disk.stateFile
  events : w'.events = w.events

structure Flushed (w w' : World) : Prop where
  running : w'.running = w.running
  pending : w'.pending = w.pending
  stateFile : w'.disk.stateFile = some (.records w.pending)
  events : w'.events = w.events

variable {E : Stop → World → Prop} {Q : Unit → World → Prop} {env : Env} {r : PendingSafeApply}

theorem wp_fileOp {op : FileOp} {done torn : Disk → Disk} {w : World}
    (hQ : Q () { w with ioCalls := w.ioCalls + 1, disk := done w.disk })
    (hE : ∀ e, E e { w with ioCalls := w.ioCalls + 1, disk := torn w.disk, faults := w.faults + 1 }) :
    wp (fileOp env op done torn) Q E w := by
  unfold wp fileOp
  cases env.io op w.ioCalls with
  | ok _ => exact hQ
  | err e => exact hE _
  | crash => exact hE _

/-- **A state-file write leaves the file as it was, or writes the memory to it**; when it returns, it has written. -/
theorem wp_persist (env : Env) (w : World) :
    wp (persist env) (fun _ w' => Flushed w w') (fun _ w' => Quiet w w' ∨ Flushed w w') w := by
  unfold persist
  simp only [wp_bind, wp_get]
  refine wp_fileOp ?_ (fun _ => .inl ⟨rfl, rfl, rfl, rfl⟩)
  refine wp_fileOp ?_ (fun _ => .inl ⟨rfl, rfl, rfl, rfl⟩)
  refine wp_fileOp ?_ (fun _ => .inl ⟨rfl, rfl, rfl, rfl⟩)
  refine wp_fileOp ?_ (fun _ => .inl ⟨rfl, rfl, rfl, rfl⟩)
  exact wp_fileOp ⟨rfl, rfl, rfl, rfl⟩ (fun _ => .inr ⟨rfl, rfl, rfl, rfl⟩)

theorem wp_audit (env : Env) (record : PendingSafeApply) (result : String) (w : World) :
    wp (audit env record result) (fun _ w' => Quiet w w') (fun _ w' => Quiet w w') w := by
  unfold audit
  simp only [wp_bind, wp_get]
  refine wp_fileOp ?_ (fun _ => ⟨rfl, rfl, rfl, rfl⟩)
  refine wp_fileOp ?_ (fun _ => ⟨rfl, rfl, rfl, rfl⟩)
  refine wp_fileOp ?_ (fun _ => ⟨rfl, rfl, rfl, rfl⟩)
  exact wp_fileOp ⟨rfl, rfl, rfl, rfl⟩ (fun _ => ⟨rfl, rfl, rfl, rfl⟩)

/-! ## Along a sequence of moves -/

variable {hash : NetworkDesiredState → String} {allow : PendingSafeApply → Prop} {L : Ledger} {w v : World}

/-- A running manager with a readable state file, some moves after `L`. -/
structure Along (hash : NetworkDesiredState → String) (allow : PendingSafeApply → Prop) (L : Ledger) (w : World) :
    Prop where
  moves : ReflTransGen (Move hash allow) L w.ledger
  running : w.running = true
  intact : w.disk.Intact

theorem Quiet.ledger (h : Quiet w v) : v.ledger = w.ledger := by
  simp only [World.ledger, h.running, h.pending, h.events, Disk.records, h.stateFile]

theorem Flushed.records (h : Flushed w v) : v.disk.records = w.pending := by
  simp only [Disk.records, h.stateFile]

theorem Flushed.ledger (h : Flushed w v) : v.ledger = { w.ledger with file := w.ledger.memory } := by
  simp only [World.ledger, h.running, h.pending, h.events, h.records]

theorem Along.quiet (h : Along hash allow L w) (hq : Quiet w v) : Along hash allow L v := by
  refine ⟨?_, by rw [hq.running]; exact h.running, ?_⟩
  · rw [hq.ledger]; exact h.moves
  · unfold Disk.Intact; rw [hq.stateFile]; exact h.intact

theorem Along.flushed (h : Along hash allow L w) (hf : Flushed w v) : Along hash allow L v := by
  refine ⟨?_, by rw [hf.running]; exact h.running, ?_⟩
  · rw [hf.ledger]; exact h.moves.tail (.flush _ h.running)
  · unfold Disk.Intact; rw [hf.stateFile]; intro hc; cases hc

theorem Along.move (h : Along hash allow L w) (hm : Move hash allow w.ledger v.ledger)
    (hrun : v.running = w.running) (hfile : v.disk.stateFile = w.disk.stateFile) : Along hash allow L v := by
  refine ⟨h.moves.tail hm, by rw [hrun]; exact h.running, ?_⟩
  unfold Disk.Intact; rw [hfile]; exact h.intact

theorem Along.persist (env : Env) (h : Along hash allow L w) :
    wp (persist env) (fun _ w' => Along hash allow L w' ∧ Flushed w w') (fun _ => Along hash allow L) w := by
  refine wp_mono (wp_persist env w) (fun _ w' hf => ⟨h.flushed hf, hf⟩) (fun _ w' hw => ?_)
  exact hw.elim h.quiet h.flushed

theorem Along.audit (env : Env) (record : PendingSafeApply) (result : String) (h : Along hash allow L w) :
    Leaves (Along hash allow L) (audit env record result) w :=
  wp_mono (wp_audit env record result w) (fun _ _ hq => h.quiet hq) (fun _ _ hq => h.quiet hq)

theorem Along.answer {e : Event} (h : Along hash allow L w) (he : e.isAnswer = true)
    (hq : Quiet { w with events := e :: w.events } v) : Along hash allow L v :=
  (h.move (v := { w with events := e :: w.events }) (.answer w.ledger e he) rfl rfl).quiet hq

/-- `replace_record` of a record that is there: the memory changes first, by the move given; then the file follows, or
the call stops. -/
theorem Along.replaceRecord (env : Env) (hex : ∃ x ∈ w.pending, x.operationId = r.operationId)
    (h : Along hash allow L { w with pending := putRecord r w.pending }) :
    wp (replaceRecord env r) (fun _ w' => Along hash allow L w' ∧
      Flushed { w with pending := putRecord r w.pending } w') (fun _ => Along hash allow L) w :=
  wp_replaceRecord hex (Along.persist env h)

theorem Along.mark (env : Env) {α : Type} {rest : Unit → Call α} (hex : ∃ x ∈ w.pending, x.operationId = r.operationId)
    (h : Along hash allow L { w with pending := putRecord r w.pending })
    (hrest : ∀ w', Along hash allow L w' → Leaves (Along hash allow L) (rest ()) w') :
    wp (SafeApply.replaceRecord env r) (fun a => Leaves (Along hash allow L) (rest a))
      (fun _ => Along hash allow L) w :=
  wp_mono (Along.replaceRecord env hex h) (fun _ w' hw => hrest w' hw.1) (fun _ _ hw => hw)

theorem wp_execCall {done broken : Event}
    (hQ : Q () { w with execCalls := w.execCalls + 1, events := done :: w.events })
    (hE : ∀ e, E (.error e)
      { w with execCalls := w.execCalls + 1, events := broken :: w.events, faults := w.faults + 1 })
    (hC : E .crash { w with execCalls := w.execCalls + 1, faults := w.faults + 1 }) :
    wp (execCall env done broken) Q E w := by
  unfold wp execCall
  cases env.exec w.execCalls with
  | ok _ => exact hQ
  | err e => exact hE _
  | crash => exact hC

theorem wp_snapshotCall {Q : String × String → World → Prop} (hQ : ∀ a, Q a { w with execCalls := w.execCalls + 1 })
    (hE : ∀ e, E e { w with execCalls := w.execCalls + 1, faults := w.faults + 1 }) : wp (snapshotCall env) Q E w := by
  unfold wp snapshotCall
  cases env.snapshot w.execCalls with
  | ok a => exact hQ a
  | err e => exact hE _
  | crash => exact hE _

/-! ## The calls -/

section
variable (env)

section
variable (h : Along hash allow L w)
include h

theorem Along.rollbackInternal (op result : String) :
    Leaves (Along hash allow L) (rollbackInternal env op result) w := by
  unfold Leaves SafeApply.rollbackInternal
  rw [wp_bind]
  refine wp_findActive (fun r hr hop hp => ?_) (fun _ => h)
  subst hop
  have hroll : Along hash allow L { w with pending := putRecord { r with state := .rollingBack } w.pending } :=
    h.move (.roll w.ledger r hr hp) rfl rfl
  refine wp_seq (Along.replaceRecord env ⟨r, hr, rfl⟩ hroll) ?_
  rintro - w1 ⟨h1, hf1⟩
  -- memory and file both show the record as rolling back: the restore may start
  have hr1 : { r with state := .rollingBack } ∈ w1.pending := by
    rw [hf1.pending]
    exact mem_putRecord_self ⟨r, hr, rfl⟩
  have h2 : Along hash allow L { w1 with events := .restoreStarted r.operationId r.snapshotId :: w1.events } := by
    refine h1.move (.startRestore w1.ledger { r with state := .rollingBack } hr1 rfl ?_) rfl rfl
    show w1.disk.records = w1.pending
    rw [hf1.records, hf1.pending]
  simp only [restoreCall, note, wp_bind, wp_attempt, wp_modify]
  refine wp_execCall ?_ (fun e => ⟨fun d hd => ?_, fun hn => ?_⟩) ⟨fun d hd => ?_, fun _ => ?_⟩
  · refine Along.mark (r := { r with state := .rolledBack }) env ⟨_, hr1, rfl⟩ ?_ (fun _ h => h.audit env _ _)
    refine (h2.answer (v := { w1 with
      execCalls := w1.execCalls + 1
      events := .restored r.operationId r.snapshotId :: .restoreStarted r.operationId r.snapshotId :: w1.events })
      rfl ⟨rfl, rfl, rfl, rfl⟩).move (.finish _ { r with state := .rollingBack } hr1 ?_) rfl rfl
    exact mem_since_head rfl
  · refine Along.mark (r := { r with state := .failed }) env ⟨_, hr1, rfl⟩ ?_
      (fun _ h => wp_mono (h.audit env _ _) (fun _ _ hw => hw) (fun _ _ hw => hw))
    refine (h2.answer (v := { w1 with
      execCalls := w1.execCalls + 1
      faults := w1.faults + 1
      events := .restoreFailed r.operationId r.snapshotId :: .restoreStarted r.operationId r.snapshotId :: w1.events })
      rfl ⟨rfl, rfl, rfl, rfl⟩).move (.abandon _ { r with state := .rollingBack } hr1 ?_) rfl rfl
    exact mem_since_head rfl
  · cases hn
  · cases hd
  · exact h2.quiet ⟨rfl, rfl, rfl, rfl⟩

theorem Along.recoverExpired (now : Nat) : Leaves (Along hash allow L) (recoverExpired env now) w := by
  unfold Leaves SafeApply.recoverExpired
  simp only [wp_bind, wp_get]
  exact wp_mono (wp_forEach (I := fun _ => Along hash allow L)
    (fun op _ _ hw => hw.rollbackInternal env op _) _ _ h) (fun _ _ hw => hw) (fun _ _ hw => hw)

theorem Along.giveUp (op : String) (applyError : NetToolError) :
    wp (giveUp env op applyError) (fun _ _ => False) (fun _ => Along hash allow L) w := by
  unfold SafeApply.giveUp
  rw [wp_bind, wp_attempt]
  refine wp_mono (h.rollbackInternal env op _) (fun _ _ hw => hw) (fun e _ hw => ⟨fun d _ => ?_, fun _ => hw⟩)
  exact hw

/-- Apply and verify, for a record on disk: both answers are in the history when it returns. -/
theorem Along.applyAndVerify (d : NetworkDesiredState) (hr : r ∈ w.disk.records) :
    wp (applyAndVerify env r.operationId d)
      (fun _ v => Along hash allow L v ∧ v.pending = w.pending ∧ v.events =
        .verified r.operationId d :: .applied r.operationId d :: .applyStarted r.operationId :: w.events)
      (fun _ => Along hash allow L) w := by
  have h1 : Along hash allow L { w with events := .applyStarted r.operationId :: w.events } :=
    h.move (.startApply w.ledger r hr) rfl rfl
  unfold SafeApply.applyAndVerify applyCall verifyCall note
  rw [wp_bind]
  refine wp_execCall ?_ (fun _ => h1.answer (e := .applyFailed r.operationId) rfl ⟨rfl, rfl, rfl, rfl⟩)
    (h1.quiet ⟨rfl, rfl, rfl, rfl⟩)
  have h2 := h1.answer (e := .applied r.operationId d) (v := { w with
    execCalls := w.execCalls + 1
    events := .applied r.operationId d :: .applyStarted r.operationId :: w.events }) rfl ⟨rfl, rfl, rfl, rfl⟩
  exact wp_execCall ⟨h2.answer (e := .verified r.operationId d) rfl ⟨rfl, rfl, rfl, rfl⟩, rfl, rfl⟩
    (fun _ => h2.answer (e := .verifyFailed r.operationId) rfl ⟨rfl, rfl, rfl, rfl⟩) (h2.quiet ⟨rfl, rfl, rfl, rfl⟩)

theorem Along.awaitConfirmation (hr : r ∈ w.pending) (hdone : Carried r.operationId w.events)
    (hclean : Unrestored r.operationId w.events) :
    wp (awaitConfirmation env r)
      (fun r' v => Along hash allow L v ∧ r' = { r with state := .pendingConfirmation } ∧ r' ∈ v.pending)
      (fun _ => Along hash allow L) w := by
  have h1 : Along hash allow L { w with pending := putRecord { r with state := .pendingConfirmation } w.pending } :=
    h.move (.accept w.ledger r hr hdone hclean) rfl rfl
  refine wp_seq (Along.replaceRecord env ⟨r, hr, rfl⟩ h1) ?_
  rintro - w1 ⟨h2, hf⟩
  refine wp_then (wp_audit env _ _ w1) (fun _ w2 hq => ⟨h2.quiet hq, rfl, ?_⟩) (fun _ _ hq => h2.quiet hq)
  rw [hq.pending, hf.pending]
  exact mem_putRecord_self ⟨r, hr, rfl⟩

theorem Along.confirmAt (op : String) (now : Nat)
    (hallow : ∀ r ∈ w.pending, r.operationId = op → isPending r.state = true → now < r.deadlineUnixSeconds → allow r) :
    Leaves (Along hash allow L) (confirmAt env op now) w := by
  unfold Leaves SafeApply.confirmAt
  rw [wp_bind]
  refine wp_findActive (fun r hr hop hp => ?_) (fun _ => h)
  subst hop
  rw [wp_ite]
  refine ⟨fun _ => h, fun hnow => ?_⟩
  have hnow : now < r.deadlineUnixSeconds := by omega
  have h1 : Along hash allow L { w with
      events := .confirmed r.operationId now :: w.events
      pending := putRecord { r with state := .confirmed } w.pending } :=
    h.move (.confirm w.ledger r now hr hp (hallow r hr rfl hp hnow) hnow) rfl rfl
  rw [wp_bind, note, wp_modify, wp_bind]
  refine Along.mark (r := { r with state := .confirmed }) env ⟨r, hr, rfl⟩ h1 (fun _ h => ?_)
  exact wp_seq (h.audit env _ _) (fun _ _ hw => hw)

end

theorem Along.enroll (request : BeginSafeApply) (hop : r.operationId = request.operationId)
    (hstate : r.state = .prepared) (hhash : r.newStateHash = env.hashDesired request.desiredState)
    (hnew : ∀ x ∈ w.pending, x.operationId ≠ r.operationId) (h : Along env.hashDesired allow L w) :
    wp (enroll env request r)
      (fun r' v => Along env.hashDesired allow L v ∧ r' = { r with state := .pendingConfirmation } ∧ r' ∈ v.pending)
      (fun _ => Along env.hashDesired allow L) w := by
  have h0 : Along env.hashDesired allow L { w with
      pending := w.pending ++ [r], events := .begun r.operationId request.desiredState :: w.events } :=
    h.move (.enroll w.ledger r request.desiredState h.running hstate hhash hnew) rfl rfl
  unfold SafeApply.enroll setPending note
  rw [wp_bind, wp_modify, wp_bind, wp_modify, wp_bind, ← hop]
  refine wp_mono (h0.persist env) ?_ (fun _ _ hw => hw)
  rintro - w1 ⟨h1, hf⟩
  have hr1 : r ∈ w1.pending := by rw [hf.pending]; simp
  have hfile : r ∈ w1.disk.records := by rw [hf.records]; simp
  rw [wp_bind, wp_attempt]
  refine wp_mono (h1.applyAndVerify env request.desiredState hfile) ?_ (fun e w2 h2 => ⟨fun d _ => ?_, fun _ => h2⟩)
  · rintro - w2 ⟨h2, hp, he⟩
    have he : w2.events = .verified r.operationId request.desiredState :: .applied r.operationId request.desiredState ::
        .applyStarted r.operationId :: .begun r.operationId request.desiredState :: w.events := by
      rw [he, hf.events]
    refine h2.awaitConfirmation env (by rw [hp]; exact hr1) ⟨request.desiredState, ?_, ?_, ?_⟩ (fun s => ?_)
    · rw [he]; simp [desiredOf]
    · rw [he]; simp [since, Event.begins]
    · rw [he]; simp [since, Event.begins]
    · rw [he]; simp [since, Event.begins]
  · exact wp_mono (h2.giveUp env r.operationId d) (fun _ _ hf => hf.elim) (fun _ _ hw => hw)

/-- **`begin`**: what it returns is in memory, under the operation ID and the desired hash asked for, and is either
waiting for its confirmation or a stored record that answers the request. -/
theorem Along.begin (request : BeginSafeApply) (h : Along env.hashDesired allow L w) :
    wp (SafeApply.begin env request)
      (fun r v => Along env.hashDesired allow L v ∧ r ∈ v.pending ∧ r.operationId = request.operationId ∧
        r.newStateHash = env.hashDesired request.desiredState ∧
        (r.state = .pendingConfirmation ∨ (v = w ∧ answers env request r = true)))
      (fun _ => Along env.hashDesired allow L) w := by
  refine wp_check (fun _ _ => ?_) (fun _ _ => h)
  rw [wp_bind, wp_get]
  cases hfind : w.pending.find? (fun item => decide (item.operationId = request.operationId)) with
  | some existing =>
    have hop := List.find?_some hfind
    simp only [decide_eq_true_eq] at hop
    rw [wp_ite]
    refine ⟨fun ha => ?_, fun _ => h⟩
    have hhash := ha
    simp only [answers, Bool.and_eq_true, decide_eq_true_eq] at hhash
    exact ⟨h, List.mem_of_find?_eq_some hfind, hop, hhash.2, .inr ⟨rfl, ha⟩⟩
  | none =>
    rw [wp_ite]
    refine ⟨fun _ => h, fun _ => ?_⟩
    have hnew : ∀ x ∈ w.pending, x.operationId ≠ request.operationId := fun x hx hop =>
      List.find?_eq_none.1 hfind x hx (by simpa using hop)
    rw [wp_bind]
    refine wp_snapshotCall (fun a => ?_) (fun _ => h.quiet ⟨rfl, rfl, rfl, rfl⟩)
    have h1 : Along env.hashDesired allow L { w with execCalls := w.execCalls + 1 } := h.quiet ⟨rfl, rfl, rfl, rfl⟩
    rw [wp_bind, wp_ofOption]
    refine ⟨fun deadline _ => ?_, fun _ => h1⟩
    refine wp_mono (h1.enroll env request rfl rfl rfl hnew) ?_ (fun _ _ hw => hw)
    rintro r v ⟨hv, rfl, hm⟩
    exact ⟨hv, hm, rfl, rfl, .inl rfl⟩

theorem wp_open (hi : w.disk.Intact) :
    wp (SafeApply.open env)
      (fun _ v => v.running = true ∧ v.pending = w.disk.records ∧ v.disk = w.disk ∧ v.events = w.events)
      (fun _ v => Quiet w v) w := by
  unfold SafeApply.open
  rw [wp_bind]
  refine wp_fileOp ?_ (fun _ => ⟨rfl, rfl, rfl, rfl⟩)
  rw [wp_bind, wp_get]
  simp only [id, Disk.load_eq hi, Except.mapError]
  exact ⟨rfl, rfl, rfl, rfl⟩

end

/-! ## Runs -/

/-- The conditions a run may be held to: what a confirmation is given. -/
def Confirms (allow : PendingSafeApply → Prop) (w : World) : Request → Prop
  | .confirm op now =>
    ∀ r ∈ w.pending, r.operationId = op → isPending r.state = true → now < r.deadlineUnixSeconds → allow r
  | _ => True

/-- Some moves after `L`, with a readable state file. -/
def Moved (hash : NetworkDesiredState → String) (allow : PendingSafeApply → Prop) (L : Ledger) (w : World) : Prop :=
  ReflTransGen (Move hash allow) L w.ledger ∧ w.disk.Intact

theorem settle_moved {α : Type} {m : Call α} (h : Leaves (Along hash allow L) m w) :
    Moved hash allow L (settle (m w)) := by
  have hv := wp_state h
  rcases hm : m w with ⟨(e | _) | a, v⟩ <;> rw [hm] at hv
  · exact ⟨hv.moves, hv.intact⟩
  · exact ⟨hv.moves.tail (.crash v.ledger), hv.intact⟩
  · exact ⟨hv.moves, hv.intact⟩

theorem open_cases (env : Env) (hi : w.disk.Intact) :
    Quiet w.die (settle (SafeApply.open env w.die)) ∨
      ((settle (SafeApply.open env w.die)).ledger = { w.ledger with running := true, memory := w.ledger.file } ∧
        (settle (SafeApply.open env w.die)).disk = w.disk) := by
  have hopen := wp_open (w := w.die) env hi
  rcases hm : SafeApply.open env w.die with ⟨e | a, v⟩
  · have hq := wp_error hopen hm
    cases e with
    | error e => exact .inl hq
    | crash => exact .inl ⟨rfl, rfl, hq.stateFile, hq.events⟩
  · obtain ⟨hr, hp, hd, he⟩ := wp_ok hopen hm
    refine .inr ⟨?_, hd⟩
    simp only [settle, World.ledger, hr, hp, hd, he, World.die]

/-- **Every step of a run is a sequence of moves**, and leaves the state file readable. -/
theorem step_moves (env : Env) (w : World) (req : Request) (hok : Confirms allow w req) (hi : w.disk.Intact) :
    Moved env.hashDesired allow w.ledger (step env w req) := by
  have hcall : ∀ {α : Type} {m : Call α}, (w.running = true → Leaves (Along env.hashDesired allow w.ledger) m w) →
      Moved env.hashDesired allow w.ledger (if w.running then settle (m w) else w) := fun hm =>
    iteInduction (motive := Moved _ _ _) (fun hr => settle_moved (hm hr)) (fun _ => ⟨.refl, hi⟩)
  have hhere : w.running = true → Along env.hashDesired allow w.ledger w := fun hr => ⟨.refl, hr, hi⟩
  cases req with
  | crash => exact ⟨.single (.crash w.ledger), hi⟩
  | «open» =>
    show Moved env.hashDesired allow w.ledger (settle (SafeApply.open env w.die))
    rcases open_cases env hi with hq | ⟨hl, hd⟩
    · exact ⟨hq.ledger ▸ .single (.crash w.ledger), by unfold Disk.Intact; rw [hq.stateFile]; exact hi⟩
    · exact ⟨hl ▸ .single (.reopen w.ledger), hd ▸ hi⟩
  | «begin» request =>
    exact hcall fun hr => wp_mono ((hhere hr).begin env request) (fun _ _ hw => hw.1) (fun _ _ hw => hw)
  | confirm op now => exact hcall fun hr => (hhere hr).confirmAt env op now hok
  | rollback op => exact hcall fun hr => (hhere hr).rollbackInternal env op _
  | recoverExpired now => exact hcall fun hr => (hhere hr).recoverExpired env now

/-- The worlds of the runs whose confirmations all meet `allow`. -/
abbrev Reachable (env : Env) (allow : PendingSafeApply → Prop) : World → Prop :=
  Reach World.init (step env) (Confirms allow)

theorem inv_init : Inv hash World.init.ledger where
  nodupMemory := by simp [World.ledger, World.init]
  nodupFile := by simp [World.ledger, World.init, Disk.records]
  covered := fun h => by cases h
  down := fun _ => rfl
  sound := by simp [World.ledger, World.init, Disk.records]
  kept := by simp [World.ledger, World.init, since]

/-- **The invariant holds in every reachable world.** -/
theorem reach_inv (h : Reachable env allow w) : Inv env.hashDesired w.ledger ∧ w.disk.Intact := by
  refine Reach.invariant (I := fun w => Inv env.hashDesired w.ledger ∧ w.disk.Intact)
    ⟨inv_init, by simp [Disk.Intact, World.init]⟩ (fun w req hw hok => ?_) h
  obtain ⟨hm, hi⟩ := step_moves env w req hok hw.2
  exact ⟨hw.1.moves hm, hi⟩

end SafeApply
end NetTool
