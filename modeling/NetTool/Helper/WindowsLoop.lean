import NetTool.Lib.Run
import NetTool.SafeApply.Rollback
import NetTool.SafeApply.Sweep
/-!
# Helper.WindowsLoop — the Windows helper's main loop (`apps/helper/src/main.rs`)

The helper opens the Safe Apply state and then serves one pipe connection or one watchdog tick at a time.  A tick rolls
back what has expired, and returns when that fails, when the operations it has seen are done, when it has been idle for
too long, or when the service is to stop.  Two of the four do not look whether an operation is still pending: a rollback
that fails ends the helper with the other operations still to be rolled back, and an idle helper has not seen the
operations it loaded at its start.
-/
namespace NetTool
namespace WindowsHelper

open SafeApply

/-- What the service does with a request.  The other operations, and a dry run, do not touch the Safe Apply manager. -/
inductive Operation
  | networkApply (request : BeginSafeApply)
  | safeApplyConfirm (operationId : String) (now : Nat)
  | safeApplyRollback (operationId : String)
  | other

def execute (env : Env) : Operation → World → World
  | .networkApply request, w => settle (SafeApply.begin env request w)
  | .safeApplyConfirm operationId now, w => settle (confirmAt env operationId now w)
  | .safeApplyRollback operationId, w => settle (rollback env operationId w)
  | .other, w => w

/-- `pending`: the operations the manager still holds a deadline for. -/
def pending (w : World) : List PendingSafeApply := w.pending.filter (fun item => isPending item.state)

/-- The loop's variables, and what `run` has returned. -/
structure Loop where
  world : World
  lastRequest : Nat
  hasStartedSafeApply : Bool
  returned : Option (Result Unit)

/-- One turn: a connection, with the operation it came to unless it was refused or too slow, or a tick; each at an
instant of the monotonic clock, and a tick with the system time and whether the service is to stop. -/
inductive Turn
  | connect (instant : Nat) (operation : Option Operation)
  | tick (instant now : Nat) (stopRequested : Bool)

section
variable (env : Env) (idleTimeout : Option Nat)

/-- Up to the loop: the state file is read, or `run` returns at once. -/
def start (instant : Nat) (w : World) : Option Loop :=
  match SafeApply.open env w.die with
  | (.ok (), w') => some ⟨w', instant, false, none⟩
  | (.error _, _) => none

def connect (instant : Nat) (operation : Option Operation) (l : Loop) : Loop :=
  let world := match operation with
    | some operation => execute env operation l.world
    | none => l.world
  { l with
    world := world
    lastRequest := instant
    hasStartedSafeApply := l.hasStartedSafeApply || !(pending world).isEmpty }

def idleDue (instant : Nat) (l : Loop) : Bool :=
  idleTimeout.any (fun timeout => !l.hasStartedSafeApply && timeout ≤ instant - l.lastRequest)

def tick (instant now : Nat) (stopRequested : Bool) (l : Loop) : Loop :=
  match recoverExpired env now l.world with
  | (.error (.error e), w) => { l with world := w, returned := some (.error e) }
  | (.error .crash, w) => { l with world := w.die }
  | (.ok _, w) =>
    if l.hasStartedSafeApply && (pending w).isEmpty then { l with world := w, returned := some (.ok ()) }
    else if idleDue idleTimeout instant l then { l with world := w, returned := some (.ok ()) }
    else if stopRequested && (pending w).isEmpty then { l with world := w, returned := some (.ok ()) }
    else { l with world := w }

/-- A loop that has returned, or whose process has died, takes no more turns. -/
def turn (l : Loop) (t : Turn) : Loop :=
  if l.returned.isSome || !l.world.running then l
  else
    match t with
    | .connect instant operation => connect env instant operation l
    | .tick instant now stopRequested => tick env idleTimeout instant now stopRequested l

/-- A tick whose rollbacks get the answers they need and, when the idle timeout is due, are of all that is pending. -/
def Attends (l : Loop) : Turn → Prop
  | .connect _ _ => True
  | .tick instant now _ =>
    Steady env (Alone now l.world.pending) (expired now l.world.pending) l.world.ioCalls l.world.execCalls ∧
      (idleDue idleTimeout instant l = true → Alone now l.world.pending)

end

theorem pending_eq_nil_iff {w : World} : pending w = [] ↔ Settled w.pending := by
  unfold pending Settled
  rw [List.filter_eq_nil_iff]
  simp only [Bool.not_eq_true]

variable {env : Env} {idleTimeout : Option Nat}

/-- **A tick that returns leaves nothing pending**, if it attends to what it has to. -/
theorem tick_returned {l : Loop} {instant now : Nat} {stopRequested : Bool} (hnone : l.returned = none)
    (h : Attends env idleTimeout l (.tick instant now stopRequested))
    (hreturned : (tick env idleTimeout instant now stopRequested l).returned ≠ none) :
    pending (tick env idleTimeout instant now stopRequested l).world = [] := by
  obtain ⟨hsteady, hidle⟩ := h
  unfold tick at hreturned ⊢
  rcases Prog.wp_cases (recoverExpired_steady hsteady) with ⟨ops, w, hrun, hw⟩ | ⟨stop, w, hrun, hw⟩
  · rw [hrun] at hreturned ⊢
    dsimp only at hreturned ⊢
    by_cases hdone : (l.hasStartedSafeApply && (pending w).isEmpty) = true
    · rw [if_pos hdone]
      exact List.isEmpty_iff.1 (Bool.and_eq_true_iff.1 hdone).2
    · rw [if_neg hdone] at hreturned ⊢
      by_cases hdue : idleDue idleTimeout instant l = true
      · rw [if_pos hdue]
        exact pending_eq_nil_iff.2 (hw (hidle hdue))
      · rw [if_neg hdue] at hreturned ⊢
        by_cases hstop : (stopRequested && (pending w).isEmpty) = true
        · rw [if_pos hstop]
          exact List.isEmpty_iff.1 (Bool.and_eq_true_iff.1 hstop).2
        · rw [if_neg hstop] at hreturned
          exact absurd hnone hreturned
  · rw [hrun] at hreturned ⊢
    cases stop with
    | crash => exact absurd hnone hreturned
    | error e =>
      rcases hw with hcrash | hsettled
      · cases hcrash
      · exact pending_eq_nil_iff.2 hsettled

theorem turn_returned {l : Loop} (t : Turn) (hl : l.returned ≠ none → pending l.world = [])
    (h : Attends env idleTimeout l t)
    (hreturned : (turn env idleTimeout l t).returned ≠ none) : pending (turn env idleTimeout l t).world = [] := by
  unfold turn at hreturned ⊢
  by_cases hover : (l.returned.isSome || !l.world.running) = true
  · rw [if_pos hover] at hreturned ⊢
    exact hl hreturned
  · rw [if_neg hover] at hreturned ⊢
    have hnone : l.returned = none := by
      simp only [Bool.or_eq_true, not_or, Option.not_isSome_iff_eq_none] at hover
      exact hover.1
    cases t with
    | connect instant operation => exact absurd hnone hreturned
    | tick instant now stopRequested => exact tick_returned hnone h hreturned

/-- **The helper never returns while an operation is pending**, from whatever state file and in every run whose ticks
attend to what is pending. -/
theorem returns_with_nothing_pending (env : Env) (idleTimeout : Option Nat) (w : World) (instant : Nat) (l₀ l : Loop)
    (hstart : start env instant w = some l₀) (h : Reach l₀ (turn env idleTimeout) (Attends env idleTimeout) l)
    (hreturned : l.returned ≠ none) : pending l.world = [] := by
  have h0 : l₀.returned = none := by
    unfold start at hstart
    split at hstart
    · rw [← Option.some.inj hstart]
    · cases hstart
  exact Reach.invariant (I := fun l => l.returned ≠ none → pending l.world = []) (fun hne => absurd h0 hne)
    (fun _ t hl hok => turn_returned t hl hok) h hreturned

/-! ## Sample runs -/

/-- Two operations were pending when the helper was stopped. -/
def twoPending : World :=
  ⟨false, [], ⟨some (.records [sampleRecord .pendingConfirmation,
    { sampleRecord .pendingConfirmation with operationId := "op-2", targetInterface := "eth1" }]), none,
      []⟩, [], 0, 0, 0⟩

def restoreFails : Answer NetToolError Unit := .err (.new .helperExecutionFailed "platform network command failed" true)

def started (env : Env) : Loop := (start env 0 twoPending).getD ⟨twoPending, 0, false, none⟩

theorem answering_fine (n : Nat) (a : Answer NetToolError Unit) (start count : Nat) :
    FilesFine (answering n a) start count :=
  fun _ _ _ _ h => by cases h

/-- The second restore, the last one, may fail. -/
theorem returns_with_nothing_pending_sample :
    (turn (answering 1 restoreFails) (some 10) (started (answering 1 restoreFails))
      (.tick 200 200 false)).returned ≠ none ∧
      pending (turn (answering 1 restoreFails) (some 10) (started (answering 1 restoreFails))
        (.tick 200 200 false)).world = [] := by
  have hreturned : (turn (answering 1 restoreFails) (some 10) (started (answering 1 restoreFails))
    (.tick 200 200 false)).returned ≠ none := by
    decide +kernel
  have halone : Alone 200 (started (answering 1 restoreFails)).world.pending := by
    unfold Alone
    decide +kernel
  have hattends : Attends (answering 1 restoreFails) (some 10) (started (answering 1 restoreFails))
    (.tick 200 200 false) :=
    ⟨⟨answering_fine _ _ _ _, .inr ⟨answering_fine _ _ _ _, fun _ h => (by cases h), answering_fine _ _ _ _,
      .inl ⟨halone, rfl⟩⟩⟩, fun _ => halone⟩
  exact ⟨hreturned, returns_with_nothing_pending (answering 1 restoreFails) (some 10) twoPending 0 _ _ rfl
    (.step _ .init hattends) hreturned⟩

/-- The first of two restores fails, and the helper ends with the second operation still pending.  And a helper that no
request reaches ends after its idle timeout with the operations it had loaded. -/
theorem helper_leaves_operations_pending :
    ((turn (answering 0 restoreFails) none (started (answering 0 restoreFails)) (.tick 200 200 false)).returned ≠ none ∧
      (pending (turn (answering 0 restoreFails) none (started (answering 0 restoreFails))
        (.tick 200 200 false)).world).map (·.operationId) = ["op-2"]) ∧
    (turn calmEnv (some 10) (started calmEnv) (.tick 10 110 false)).returned = some (.ok ()) ∧
      (pending (turn calmEnv (some 10) (started calmEnv) (.tick 10 110 false)).world).map (·.operationId) =
        ["op-1", "op-2"] := by
  decide +kernel

end WindowsHelper
end NetTool
