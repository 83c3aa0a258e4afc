import NetTool.Helper.DesiredState
import NetTool.Lib.Prog
import NetTool.Error
/-!
# SafeApply.Model — the helper's Safe Apply manager (`crates/helper-core`)

The manager keeps the list of operations in memory and in a state file, and drives a platform executor.  The outside
world answers each file operation and each executor call: with success, with an error, or with the death of the
process (`Env`).  A call is a `Prog` over the `World`, so the memory, the file and the executor's history at the point
where it stopped are all there to be looked at.

The state file is JSON; serialising and parsing the record list are inverse, so a file is the list it encodes, or
`torn` when it does not hold a complete document (just truncated, or partly written).
-/
namespace NetTool
namespace SafeApply

open Prog

open Helper (NetworkDesiredState)

inductive SafeApplyState
  | prepared | pendingConfirmation | confirmed | rollingBack | rolledBack | failed
  deriving DecidableEq

structure PendingSafeApply where
  operationId : String
  targetInterface : String
  snapshotId : String
  deadlineUnixSeconds : Nat
  state : SafeApplyState
  oldStateHash : String
  newStateHash : String
  deriving DecidableEq

def isPending : SafeApplyState → Bool
  | .prepared | .pendingConfirmation | .rollingBack => true
  | _ => false

/-! ## The world -/

inductive FileContent
  | records (l : List PendingSafeApply)
  | torn

structure AuditEvent where
  timestampUnixSeconds : Nat
  operation : String
  operationId : String
  target : String
  oldStateHash : String
  newStateHash : String
  result : String

structure Disk where
  stateFile : Option FileContent
  temporary : Option FileContent
  audit : List AuditEvent

/-- What happened to an operation, as an observer outside the manager records it: the executor calls made for it and
their answers, the moment it was put on the list (with the desired state asked for) and the moment its record was set to
`Confirmed` in memory. -/
inductive Event
  | begun (op : String) (desired : NetworkDesiredState)
  | applyStarted (op : String)
  | applied (op : String) (desired : NetworkDesiredState)
  | applyFailed (op : String)
  | verified (op : String) (desired : NetworkDesiredState)
  | verifyFailed (op : String)
  | restoreStarted (op snapshot : String)
  | restored (op snapshot : String)
  | restoreFailed (op snapshot : String)
  | confirmed (op : String) (now : Nat)
  deriving DecidableEq

/-- The manager's memory (`pending`, while the process runs), the disk, the events so far (newest first), how many
answers of each sort have been used up, and how many of them were not a success. -/
structure World where
  running : Bool
  pending : List PendingSafeApply
  disk : Disk
  events : List Event
  ioCalls : Nat
  execCalls : Nat
  faults : Nat

/-- Before the first start: no file, no process. -/
def World.init : World := ⟨false, [], ⟨none, none, []⟩, [], 0, 0, 0⟩

inductive Answer (ε α : Type)
  | ok (a : α)
  | err (e : ε)
  | crash

/-- The file operations the manager makes: reading the state file, the five steps of a state write and the four of an
audit line. -/
inductive FileOp
  | readState
  | createStateDir | openTemporary | writeTemporary | renameTemporary | syncStateDir
  | createAuditDir | openAudit | writeAudit | syncAudit
  deriving DecidableEq

/-- The outside world: the answer to the `n`-th file operation (of whichever kind it is), to the `n`-th executor call
(as a snapshot, which yields an ID and the canonical state, or as any other call), the clock read for the `n`-th audit
line, and SHA-256 of the JSON encodings. -/
structure Env where
  io : FileOp → Nat → Answer String Unit
  snapshot : Nat → Answer NetToolError (String × String)
  exec : Nat → Answer NetToolError Unit
  clock : Nat → Nat
  hashState : String → String
  hashDesired : NetworkDesiredState → String

/-- Why a call did not return: an error handed to the caller, or the death of the process. -/
inductive Stop
  | error (e : NetToolError)
  | crash

def Stop.toError : Stop → Option NetToolError
  | .error e => some e
  | .crash   => none

abbrev Call (α : Type) : Type := Prog World Stop α

def throw {α : Type} (e : NetToolError) : Call α := fail (.error e)

def ioError (error : String) : NetToolError :=
  .new .persistenceFailed ("helper persistence failed: " ++ error) true

def stateError (error : String) : NetToolError :=
  .new .persistenceFailed ("helper state is invalid: " ++ error) false

/-! ## File operations -/

/-- The audit event is written by `serde_json`, whose error is passed on as one of the state. -/
def FileOp.error : FileOp → String → NetToolError
  | .writeAudit => stateError
  | _ => ioError

/-- One file operation: what it does to the disk when it succeeds, and what it leaves behind when it does not. -/
def fileOp (env : Env) (op : FileOp) (done torn : Disk → Disk) : Call Unit := fun w =>
  match env.io op w.ioCalls with
  | .ok ()  => (.ok (), { w with ioCalls := w.ioCalls + 1, disk := done w.disk })
  | .err e  =>
    (.error (.error (op.error e)), { w with ioCalls := w.ioCalls + 1, disk := torn w.disk, faults := w.faults + 1 })
  | .crash  => (.error .crash, { w with ioCalls := w.ioCalls + 1, disk := torn w.disk, faults := w.faults + 1 })

def Disk.setTemporary (content : FileContent) (d : Disk) : Disk := { d with temporary := some content }

def Disk.rename (d : Disk) : Disk :=
  match d.temporary with
  | some content => { d with stateFile := some content, temporary := none }
  | none         => d

/-- The list a fresh `open` would load. -/
def Disk.load (d : Disk) : Result (List PendingSafeApply) :=
  match d.stateFile with
  | none              => .ok []
  | some (.records l) => .ok l
  | some .torn        => .error (stateError "EOF while parsing a value")

/-- `persist`: create the directory, truncate and write the temporary file, rename it over the state file, sync the
directory. -/
def persist (env : Env) : Call Unit := do
  fileOp env .createStateDir id id
  let w ← get
  fileOp env .openTemporary (Disk.setTemporary .torn) id
  fileOp env .writeTemporary (Disk.setTemporary (.records w.pending)) (Disk.setTemporary .torn)
  fileOp env .renameTemporary Disk.rename id
  fileOp env .syncStateDir id id

def Disk.appendAudit (line : AuditEvent) (d : Disk) : Disk := { d with audit := d.audit ++ [line] }

/-- `audit`: create the directory, open for append, write the event, end the line and sync. -/
def audit (env : Env) (record : PendingSafeApply) (result : String) : Call Unit := do
  fileOp env .createAuditDir id id
  let w ← get
  let line : AuditEvent := ⟨env.clock w.ioCalls, "network.apply", record.operationId, record.targetInterface,
    record.oldStateHash, record.newStateHash, result⟩
  fileOp env .openAudit id id
  fileOp env .writeAudit id id
  fileOp env .syncAudit (Disk.appendAudit line) id

/-! ## Executor calls -/

def note (e : Event) : Call Unit := modify (fun w => { w with events := e :: w.events })

/-- One executor call, with the events that mark its success and its failure. -/
def execCall (env : Env) (done broken : Event) : Call Unit := fun w =>
  match env.exec w.execCalls with
  | .ok ()  => (.ok (), { w with execCalls := w.execCalls + 1, events := done :: w.events })
  | .err e  =>
    (.error (.error e), { w with execCalls := w.execCalls + 1, events := broken :: w.events, faults := w.faults + 1 })
  | .crash  => (.error .crash, { w with execCalls := w.execCalls + 1, faults := w.faults + 1 })

def snapshotCall (env : Env) : Call (String × String) := fun w =>
  match env.snapshot w.execCalls with
  | .ok a   => (.ok a, { w with execCalls := w.execCalls + 1 })
  | .err e  => (.error (.error e), { w with execCalls := w.execCalls + 1, faults := w.faults + 1 })
  | .crash  => (.error .crash, { w with execCalls := w.execCalls + 1, faults := w.faults + 1 })

def applyCall (env : Env) (op : String) (desired : NetworkDesiredState) : Call Unit := do
  note (.applyStarted op)
  execCall env (.applied op desired) (.applyFailed op)

def verifyCall (env : Env) (op : String) (desired : NetworkDesiredState) : Call Unit :=
  execCall env (.verified op desired) (.verifyFailed op)

def restoreCall (env : Env) (op snapshotId : String) : Call Unit := do
  note (.restoreStarted op snapshotId)
  execCall env (.restored op snapshotId) (.restoreFailed op snapshotId)

/-! ## The manager -/

def notPending : NetToolError := .new .invalidState "Safe Apply operation is not pending" false

def findActive (op : String) : Call PendingSafeApply := do
  let w ← get
  ofOption (.error notPending) (w.pending.find? (fun item => item.operationId = op ∧ isPending item.state))

/-- Overwrite the first record with the same operation ID. -/
def putRecord (record : PendingSafeApply) : List PendingSafeApply → List PendingSafeApply
  | [] => []
  | item :: rest =>
    if item.operationId = record.operationId then record :: rest else item :: putRecord record rest

def setPending (f : List PendingSafeApply → List PendingSafeApply) : Call Unit :=
  modify (fun w => { w with pending := f w.pending })

/-- `replace_record`: the memory first, then the state file. -/
def replaceRecord (env : Env) (record : PendingSafeApply) : Call Unit := do
  let w ← get
  if w.pending.any (fun item => item.operationId = record.operationId) then
    setPending (putRecord record)
    persist env
  else throw (.new .invalidState "Safe Apply record disappeared" false)

def rollbackInternal (env : Env) (op result : String) : Call Unit := do
  let record ← findActive op
  replaceRecord env { record with state := .rollingBack }
  match ← attempt Stop.toError (restoreCall env op record.snapshotId) with
  | .error error =>
    replaceRecord env { record with state := .failed }
    audit env { record with state := .failed } "rollback_failed"
    throw error
  | .ok () =>
    replaceRecord env { record with state := .rolledBack }
    audit env { record with state := .rolledBack } result

structure BeginSafeApply where
  operationId : String
  interfaceId : String
  desiredState : NetworkDesiredState
  confirmTimeoutSeconds : Nat
  nowUnixSeconds : Nat

def invalidArgument (message : String) : NetToolError := .new .invalidArgument message false

def BeginSafeApply.check (request : BeginSafeApply) : Result Unit := do
  if trimIsEmpty request.operationId || trimIsEmpty request.interfaceId then
    .error (invalidArgument "operation and interface IDs are required")
  if !(10 ≤ request.confirmTimeoutSeconds && request.confirmTimeoutSeconds ≤ 600) then
    .error (invalidArgument "confirm timeout must be between 10 and 600 seconds")
  request.desiredState.validate.mapError invalidArgument

/-- A stored record answers a request when it is pending and was made for the same interface and desired state. -/
def answers (env : Env) (request : BeginSafeApply) (existing : PendingSafeApply) : Bool :=
  isPending existing.state && existing.targetInterface = request.interfaceId &&
    existing.newStateHash = env.hashDesired request.desiredState

def rollbackFailed (applyError rollbackError : NetToolError) : NetToolError :=
  .new .rollbackFailed ("apply failed (" ++ applyError.display ++ "); rollback also failed (" ++
    rollbackError.display ++ ")") false

def applyAndVerify (env : Env) (op : String) (desired : NetworkDesiredState) : Call Unit := do
  applyCall env op desired
  verifyCall env op desired

/-- Apply or verify failed: roll back, and report both errors when that fails too. -/
def giveUp (env : Env) (op : String) (applyError : NetToolError) : Call PendingSafeApply := do
  match ← attempt Stop.toError (rollbackInternal env op "apply_failed") with
  | .ok () => throw applyError
  | .error rollbackError => throw (rollbackFailed applyError rollbackError)

/-- Apply and verify succeeded: from now on the record waits for its confirmation. -/
def awaitConfirmation (env : Env) (record : PendingSafeApply) : Call PendingSafeApply := do
  replaceRecord env { record with state := .pendingConfirmation }
  audit env { record with state := .pendingConfirmation } "pending_confirmation"
  pure { record with state := .pendingConfirmation }

/-- The part of `begin` after the snapshot: put the record on the list and on disk, apply, verify, and roll back or move
on to `PendingConfirmation`. -/
def enroll (env : Env) (request : BeginSafeApply) (record : PendingSafeApply) : Call PendingSafeApply := do
  setPending (· ++ [record])
  note (.begun record.operationId request.desiredState)
  persist env
  match ← attempt Stop.toError (applyAndVerify env request.operationId request.desiredState) with
  | .error applyError => giveUp env request.operationId applyError
  | .ok () => awaitConfirmation env record

def «begin» (env : Env) (request : BeginSafeApply) : Call PendingSafeApply := do
  ofExcept (request.check.mapError Stop.error)
  let w ← get
  match w.pending.find? (fun item => item.operationId = request.operationId) with
  | some existing =>
    if answers env request existing then pure existing
    else throw (.new .operationConflict "operation ID was reused with a different Safe Apply request" false)
  | none =>
    if w.pending.any (fun item => isPending item.state && item.targetInterface = request.interfaceId) then
      throw (.new .resourceConflict "interface already has a pending Safe Apply" false)
    else
      let (snapshotId, oldState) ← snapshotCall env
      let deadline ← ofOption (.error (invalidArgument "rollback deadline overflow"))
        (checkedAdd request.nowUnixSeconds request.confirmTimeoutSeconds)
      enroll env request
        { operationId := request.operationId, targetInterface := request.interfaceId, snapshotId := snapshotId,
          deadlineUnixSeconds := deadline, state := .prepared, oldStateHash := env.hashState oldState,
          newStateHash := env.hashDesired request.desiredState }

/-- `confirm_at`; `confirm` calls it with the system clock. -/
def confirmAt (env : Env) (op : String) (now : Nat) : Call PendingSafeApply := do
  let record ← findActive op
  if record.deadlineUnixSeconds ≤ now then
    throw (.new .invalidState "Safe Apply deadline has expired; rollback is required" false)
  else
    note (.confirmed op now)
    replaceRecord env { record with state := .confirmed }
    audit env { record with state := .confirmed } "confirmed"
    pure { record with state := .confirmed }

def rollback (env : Env) (op : String) : Call Unit := rollbackInternal env op "explicit_rollback"

def expired (now : Nat) (pending : List PendingSafeApply) : List String :=
  (pending.filter (fun item => isPending item.state && item.deadlineUnixSeconds ≤ now)).map (·.operationId)

/-- `recover_expired`: the first rollback that fails ends it. -/
def recoverExpired (env : Env) (now : Nat) : Call (List String) := do
  let w ← get
  forEach (fun op => rollbackInternal env op "deadline_expired") (expired now w.pending)
  pure (expired now w.pending)

/-- `open`: read the state file; a missing file is an empty list. -/
def «open» (env : Env) : Call Unit := do
  fileOp env .readState id id
  let w ← get
  let pending ← ofExcept (w.disk.load.mapError Stop.error)
  modify (fun w => { w with running := true, pending := pending })

/-! ## Finding and replacing a record -/

theorem wp_findActive {op : String} {w : World} {Q : PendingSafeApply → World → Prop} {E : Stop → World → Prop}
    (hQ : ∀ r ∈ w.pending, r.operationId = op → isPending r.state = true → Q r w)
    (hE : (∀ r ∈ w.pending, r.operationId = op → ¬ isPending r.state = true) → E (.error notPending) w) :
    wp (findActive op) Q E w := by
  unfold findActive
  simp only [wp_bind, wp_get, wp_ofOption]
  refine ⟨fun r hr => ?_, fun hnone => hE fun r hr hop hp => List.find?_eq_none.1 hnone r hr (by simp [hop, hp])⟩
  have hp := List.find?_some hr
  simp only [decide_eq_true_eq] at hp
  exact hQ r (List.mem_of_find?_eq_some hr) hp.1 hp.2

theorem wp_replaceRecord {env : Env} {r : PendingSafeApply} {w : World} {Q : Unit → World → Prop}
    {E : Stop → World → Prop} (hex : ∃ x ∈ w.pending, x.operationId = r.operationId)
    (h : wp (persist env) Q E { w with pending := putRecord r w.pending }) : wp (replaceRecord env r) Q E w := by
  have hany : (w.pending.any fun item => decide (item.operationId = r.operationId)) = true := by
    obtain ⟨x, hx, hop⟩ := hex
    exact List.any_eq_true.2 ⟨x, hx, by simpa using hop⟩
  unfold replaceRecord
  rw [wp_bind, wp_get, if_pos hany, setPending]
  exact h

/-! ## Runs -/

inductive Request
  | «open»
  | «begin» (request : BeginSafeApply)
  | confirm (op : String) (now : Nat)
  | rollback (op : String)
  | recoverExpired (now : Nat)
  | crash

def World.die (w : World) : World := { w with running := false, pending := [] }

/-- What is left of a call: a process that died has no memory. -/
def settle {α : Type} : Except Stop α × World → World
  | (.error .crash, w) => w.die
  | (_, w)             => w

/-- One step of a run.  Opening again replaces the running process by a fresh one; without a process the other calls
do nothing. -/
def step (env : Env) (w : World) : Request → World
  | .open               => settle (SafeApply.open env w.die)
  | .crash              => w.die
  | .begin request      => if w.running then settle (SafeApply.begin env request w) else w
  | .confirm op now     => if w.running then settle (confirmAt env op now w) else w
  | .rollback op        => if w.running then settle (rollback env op w) else w
  | .recoverExpired now => if w.running then settle (recoverExpired env now w) else w

def run (env : Env) (requests : List Request) : World := requests.foldl (step env) World.init

end SafeApply
end NetTool
