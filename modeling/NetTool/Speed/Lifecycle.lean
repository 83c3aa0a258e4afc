import NetTool.Lib.Prog
import NetTool.Error
/-!
# Speed.Lifecycle — the phases of one speed test (`crates/speed/src/session.rs`)

Both peers get ready, a common start time is scheduled by wall clock, and the measurement window is taken by the
monotonic clock.  A session that waits for its start has one of two lifecycles: `waiting` (the local side is ready) or
`ready startAt` (both sides are).
-/
namespace NetTool
namespace Speed

open Prog

inductive SpeedTestPhase
  | negotiate | prepare | ready | warmup | measure | cooldown | finalize | result | failed
  deriving DecidableEq

inductive BarrierPeer
  | localPeer | remotePeer

structure MeasurementWindow where
  startedMonotonicNanoseconds : Nat
  endedMonotonicNanoseconds : Nat
  elapsedNanoseconds : Nat

structure SpeedTestLifecycle where
  phase : SpeedTestPhase
  localReady : Bool
  remoteReady : Bool
  startAtUnixNanoseconds : Option Nat
  measurementStartedMonotonicNanoseconds : Option Nat
  measurementWindow : Option MeasurementWindow

def SpeedTestLifecycle.new : SpeedTestLifecycle := ⟨.negotiate, false, false, none, none, none⟩

def invalidArgument (message : String) : NetToolError := .new .invalidArgument message false
def invalidState (message : String) : NetToolError := .new .invalidState message false

abbrev Life (α : Type) : Type := Prog SpeedTestLifecycle NetToolError α

def setPhase (next : SpeedTestPhase) : Life Unit := modify (fun l => { l with phase := next })

def transition (expected next : SpeedTestPhase) : Life Unit := do
  let l ← get
  if l.phase ≠ expected then fail (invalidState "speed test phase transition is invalid")
  else setPhase next

def negotiated : Life Unit := transition .negotiate .prepare

def markReady (peer : BarrierPeer) : Life Bool := do
  let l ← get
  if l.phase ≠ .prepare ∧ l.phase ≠ .ready then fail (invalidState "readiness is only valid during prepare")
  else
    match peer with
    | .localPeer  => modify (fun l => { l with localReady := true })
    | .remotePeer => modify (fun l => { l with remoteReady := true })
    let l ← get
    if l.localReady && l.remoteReady then setPhase .ready
    let l ← get
    pure (decide (l.phase = .ready))

def scheduleStart (startAt now : Nat) : Life Unit := do
  let l ← get
  if l.phase ≠ .ready then fail (invalidState "both peers must be ready before scheduling start")
  else if startAt = 0 then fail (invalidArgument "start_at must be non-zero")
  else if startAt < now then fail (invalidArgument "start_at cannot be in the past")
  else
    match l.startAtUnixNanoseconds with
    | some existing => if existing = startAt then pure () else fail (invalidState "start_at is already scheduled")
    | none => modify (fun l => { l with startAtUnixNanoseconds := some startAt })

def beginWarmup (now : Nat) : Life Unit := do
  let l ← get
  if l.phase ≠ .ready then fail (invalidState "session is not ready for warmup")
  else
    let startAt ← ofOption (invalidState "start_at has not been scheduled") l.startAtUnixNanoseconds
    if now < startAt then fail (invalidState "scheduled start time has not arrived")
    else setPhase .warmup

def beginMeasurement (now : Nat) : Life Unit := do
  let l ← get
  if l.phase ≠ .warmup then fail (invalidState "measurement can only begin after warmup")
  else
    modify (fun l => { l with measurementStartedMonotonicNanoseconds := some now })
    setPhase .measure

def endMeasurement (now : Nat) : Life MeasurementWindow := do
  let l ← get
  if l.phase ≠ .measure then fail (invalidState "measurement is not running")
  else
    let started ← ofOption (invalidState "measurement start is missing") l.measurementStartedMonotonicNanoseconds
    if now < started then fail (invalidState "monotonic clock moved backwards")
    else if now - started = 0 then fail (invalidArgument "measurement duration must be greater than zero")
    else
      modify (fun l => { l with measurementWindow := some ⟨started, now, now - started⟩ })
      setPhase .cooldown
      pure ⟨started, now, now - started⟩

def finishCooldown : Life Unit := transition .cooldown .finalize

def finish : Life MeasurementWindow := do
  let l ← get
  if l.phase ≠ .finalize then fail (invalidState "session is not finalizing")
  else
    let window ← ofOption (invalidState "measurement window is missing") l.measurementWindow
    setPhase .result
    pure window

/-- `SpeedTestLifecycle::fail`. -/
def markFailed : Life Unit := do
  let l ← get
  if l.phase = .result ∨ l.phase = .failed then fail (invalidState "terminal session state cannot change")
  else setPhase .failed

/-! ## A session that waits for its start -/

namespace SpeedTestLifecycle

def waiting : SpeedTestLifecycle := ⟨.prepare, true, false, none, none, none⟩
def ready (startAt : Option Nat) : SpeedTestLifecycle := ⟨.ready, true, true, startAt, none, none⟩

/-- The lifecycle of a session that waits for its start, with the start that was scheduled. -/
inductive Waits : SpeedTestLifecycle → Option Nat → Prop
  | waiting : Waits waiting none
  | ready (startAt : Option Nat) : Waits (ready startAt) startAt

theorem Waits.unique {l : SpeedTestLifecycle} {a b : Option Nat} (h : l.Waits a) (h' : l.Waits b) : a = b := by
  cases h with
  | waiting => cases h'; rfl
  | ready => cases h'; rfl

end SpeedTestLifecycle

open SpeedTestLifecycle

variable {l : SpeedTestLifecycle} {startAt : Option Nat}

/-- What a prepare does with its new lifecycle: `negotiated` and `mark_ready(Local)`. -/
def localReady : Result SpeedTestLifecycle :=
  match (do negotiated; markReady .localPeer : Life Bool) .new with
  | (.ok _, l)    => .ok l
  | (.error e, _) => .error e

theorem markReady_remote (h : Waits l startAt) : markReady .remotePeer l = (.ok true, ready startAt) := by
  cases h <;> rfl

/-- Scheduling a start time, once both sides are ready: the time is in the future and there is no other. -/
def CanSchedule (scheduled : Option Nat) (startAt now : Nat) : Prop :=
  startAt ≠ 0 ∧ now ≤ startAt ∧ (scheduled = none ∨ scheduled = some startAt)

theorem wp_scheduleStart (scheduled : Option Nat) (t now : Nat) :
    wp (scheduleStart t now) (fun _ l => CanSchedule scheduled t now ∧ l = ready (some t))
      (fun _ l => ¬ CanSchedule scheduled t now ∧ l = ready scheduled) (ready scheduled) := by
  unfold scheduleStart
  rw [wp_bind, wp_get]
  by_cases h0 : t = 0
  · rw [if_pos h0]
    exact ⟨fun hc => hc.1 h0, rfl⟩
  rw [if_neg h0]
  by_cases hpast : t < now
  · rw [if_pos hpast]
    exact ⟨fun hc => absurd hc.2.1 (by omega), rfl⟩
  rw [if_neg hpast]
  cases scheduled with
  | none => exact ⟨⟨h0, by omega, .inl rfl⟩, rfl⟩
  | some existing =>
    show wp (if existing = t then _ else _) _ _ _
    by_cases hsame : existing = t
    · rw [if_pos hsame]
      subst hsame
      exact ⟨⟨h0, by omega, .inr rfl⟩, rfl⟩
    · rw [if_neg hsame]
      exact ⟨fun hc => hc.2.2.elim (fun hn => by cases hn) (fun he => hsame (Option.some.inj he)), rfl⟩

theorem wp_beginWarmup (h : Waits l startAt) (now : Nat) :
    wp (beginWarmup now) (fun _ l' => (∃ t, startAt = some t ∧ t ≤ now) ∧ l' = { l with phase := .warmup })
      (fun _ l' => (¬ ∃ t, startAt = some t ∧ t ≤ now) ∧ l' = l) l := by
  cases h with
  | waiting => exact ⟨fun ⟨_, ht, _⟩ => (by cases ht), rfl⟩
  | ready =>
    cases startAt with
    | none => exact ⟨fun ⟨_, ht, _⟩ => (by cases ht), rfl⟩
    | some t =>
      show wp (if now < t then _ else _) _ _ _
      rw [wp_ite]
      refine ⟨fun hlt => ⟨?_, rfl⟩, fun hlt => ⟨⟨t, rfl, by omega⟩, rfl⟩⟩
      rintro ⟨_, ⟨⟩, hle⟩
      omega

end Speed
end NetTool
