import Mathlib.Data.List.Induction
import NetTool.Speed.Lifecycle
/-!
# Speed.Phases — every run of a lifecycle (`crates/speed/src/session.rs`)

A call fails and changes nothing, or it takes the one step it is for (`Advances`).  Over any run of calls the phases are
passed through in order, with the marks, the scheduled start and the window that each of them needs (`lifecycle_runs`).
-/
namespace NetTool
namespace Speed

open Prog

inductive LifeCall
  | negotiated
  | markReady (peer : BarrierPeer)
  | scheduleStart (startAt now : Nat)
  | beginWarmup (now : Nat)
  | beginMeasurement (now : Nat)
  | endMeasurement (now : Nat)
  | finishCooldown
  | finish
  | fail

def LifeCall.run : LifeCall → Life Unit
  | .negotiated => Speed.negotiated
  | .markReady peer => Speed.markReady peer >>= fun _ => pure ()
  | .scheduleStart startAt now => Speed.scheduleStart startAt now
  | .beginWarmup now => Speed.beginWarmup now
  | .beginMeasurement now => Speed.beginMeasurement now
  | .endMeasurement now => Speed.endMeasurement now >>= fun _ => pure ()
  | .finishCooldown => Speed.finishCooldown
  | .finish => Speed.finish >>= fun _ => pure ()
  | .fail => markFailed

def lifecycleAfter (calls : List LifeCall) : SpeedTestLifecycle := calls.foldl (fun l call => (call.run l).2) .new

theorem lifecycleAfter_snoc (calls : List LifeCall) (call : LifeCall) :
    lifecycleAfter (calls ++ [call]) = (call.run (lifecycleAfter calls)).2 := by
  simp [lifecycleAfter]

def SpeedTestPhase.next : SpeedTestPhase → Option SpeedTestPhase
  | .negotiate => some .prepare
  | .prepare => some .ready
  | .ready => some .warmup
  | .warmup => some .measure
  | .measure => some .cooldown
  | .cooldown => some .finalize
  | .finalize => some .result
  | .result => none
  | .failed => none

def SpeedTestPhase.terminal (p : SpeedTestPhase) : Bool := p == .result || p == .failed

/-- The phase stays, moves to the next one, or fails. -/
def SpeedTestPhase.Forward (p q : SpeedTestPhase) : Prop := q = p ∨ p.next = some q ∨ (p.terminal = false ∧ q = .failed)

/-! ## One call -/

section
variable (l : SpeedTestLifecycle)

def SpeedTestLifecycle.mark : BarrierPeer → SpeedTestLifecycle
  | .localPeer => { l with localReady := true }
  | .remotePeer => { l with remoteReady := true }

inductive Advances : LifeCall → SpeedTestLifecycle → Prop
  | marked (peer : BarrierPeer) (h : l.phase = .prepare ∨ l.phase = .ready) : Advances (.markReady peer) (l.mark peer)
  | passed (peer : BarrierPeer) (h : l.phase = .prepare ∨ l.phase = .ready)
      (hboth : (l.mark peer).localReady = true ∧ (l.mark peer).remoteReady = true) :
      Advances (.markReady peer) { l.mark peer with phase := .ready }
  | scheduled (startAt now : Nat) (hnone : l.startAtUnixNanoseconds = none) :
      Advances (.scheduleStart startAt now) { l with startAtUnixNanoseconds := some startAt }
  | rescheduled (startAt now : Nat) : Advances (.scheduleStart startAt now) l
  | warmed (startAt now : Nat) (h : l.phase = .ready) (hstart : l.startAtUnixNanoseconds = some startAt)
      (hle : startAt ≤ now) : Advances (.beginWarmup now) { l with phase := .warmup }
  | ended (started now : Nat) (h : l.phase = .measure) (hlt : started < now) :
      Advances (.endMeasurement now)
        { l with measurementWindow := some ⟨started, now, now - started⟩, phase := .cooldown }
  | moved {call : LifeCall} (q : SpeedTestPhase) (started : Option Nat) (h : l.phase.next = some q)
      (hq : q = .prepare ∨ q = .measure ∨ q = .finalize ∨ q = .result) :
      Advances call { l with measurementStartedMonotonicNanoseconds := started, phase := q }
  | failed (h : l.phase.terminal = false) : Advances .fail { l with phase := .failed }

/-- **A call takes the step it is for, or fails and changes nothing.** -/
theorem run_advances (call : LifeCall) : wp call.run (fun _ => Advances l call) (fun _ l' => l' = l) l := by
  cases call with
  | negotiated =>
    unfold LifeCall.run negotiated transition
    rw [wp_bind, wp_get, wp_ite]
    exact ⟨fun _ => rfl, fun h => .moved _ _ (by rw [not_not.1 h]; rfl) (by simp)⟩
  | finishCooldown =>
    unfold LifeCall.run finishCooldown transition
    rw [wp_bind, wp_get, wp_ite]
    exact ⟨fun _ => rfl, fun h => .moved _ _ (by rw [not_not.1 h]; rfl) (by simp)⟩
  | markReady peer =>
    unfold LifeCall.run markReady
    rw [wp_bind, wp_bind, wp_get, wp_ite]
    refine ⟨fun _ => rfl, fun h => ?_⟩
    have hphase : l.phase = .prepare ∨ l.phase = .ready := by by_contra hne; exact h (not_or.1 hne)
    cases peer <;> simp only [wp_bind, wp_modify, wp_get, wp_ite, setPhase] <;>
      exact ⟨fun hboth => .passed _ hphase (Bool.and_eq_true_iff.1 hboth), fun _ => .marked _ hphase⟩
  | scheduleStart startAt now =>
    unfold LifeCall.run scheduleStart
    rw [wp_bind]
    simp only [wp_ite]
    refine ⟨fun _ => rfl, fun _ => ⟨fun _ => rfl, fun _ => ⟨fun _ => rfl, fun _ => ?_⟩⟩⟩
    cases hstart : l.startAtUnixNanoseconds with
    | none => exact .scheduled startAt now hstart
    | some existing => exact (wp_ite _ _ _).2 ⟨fun _ => .rescheduled startAt now, fun _ => rfl⟩
  | beginWarmup now =>
    unfold LifeCall.run beginWarmup
    rw [wp_bind, wp_get, wp_ite]
    refine ⟨fun _ => rfl, fun h => ?_⟩
    rw [wp_bind, wp_ofOption]
    refine ⟨fun startAt hstart => ?_, fun _ => rfl⟩
    rw [wp_ite]
    exact ⟨fun _ => rfl, fun hlt => .warmed startAt now (not_not.1 h) hstart (Nat.not_lt.1 hlt)⟩
  | beginMeasurement now =>
    unfold LifeCall.run beginMeasurement
    rw [wp_bind, wp_get, wp_ite]
    exact ⟨fun _ => rfl, fun h => .moved _ (some now) (by rw [not_not.1 h]; rfl) (by simp)⟩
  | endMeasurement now =>
    unfold LifeCall.run endMeasurement
    rw [wp_bind, wp_bind, wp_get, wp_ite]
    refine ⟨fun _ => rfl, fun h => ?_⟩
    rw [wp_bind, wp_ofOption]
    refine ⟨fun started _ => ?_, fun _ => rfl⟩
    simp only [wp_ite]
    exact ⟨fun _ => rfl, fun _ => ⟨fun _ => rfl, fun _ => .ended started now (not_not.1 h) (by omega)⟩⟩
  | finish =>
    unfold LifeCall.run finish
    rw [wp_bind, wp_bind, wp_get, wp_ite]
    refine ⟨fun _ => rfl, fun h => ?_⟩
    rw [wp_bind, wp_ofOption]
    exact ⟨fun _ _ => .moved _ _ (by rw [not_not.1 h]; rfl) (by simp), fun _ => rfl⟩
  | fail =>
    unfold LifeCall.run markFailed
    rw [wp_bind, wp_get, wp_ite]
    exact ⟨fun _ => rfl, fun h => .failed (by simpa [SpeedTestPhase.terminal] using h)⟩

end

/-! ## Runs -/

def MeasurementWindow.Measured (w : MeasurementWindow) : Prop :=
  0 < w.elapsedNanoseconds ∧ w.startedMonotonicNanoseconds ≤ w.endedMonotonicNanoseconds ∧
    w.elapsedNanoseconds = w.endedMonotonicNanoseconds - w.startedMonotonicNanoseconds

/-- What the lifecycle after a run of calls shows of the run. -/
structure Earned (calls : List LifeCall) (l : SpeedTestLifecycle) : Prop where
  localPeer : l.localReady = true → .markReady .localPeer ∈ calls
  remotePeer : l.remoteReady = true → .markReady .remotePeer ∈ calls
  ready : l.phase = .ready → l.localReady = true ∧ l.remoteReady = true
  window : l.phase = .cooldown ∨ l.phase = .finalize ∨ l.phase = .result →
    ∃ w, l.measurementWindow = some w ∧ w.Measured

section
variable {calls : List LifeCall} {call : LifeCall} {l l' : SpeedTestLifecycle}

theorem Earned.advance (h : Earned calls l) (hstep : Advances l call l') : Earned (calls ++ [call]) l' := by
  have hlocal := fun hl => List.mem_append_left [call] (h.localPeer hl)
  have hremote := fun hr => List.mem_append_left [call] (h.remotePeer hr)
  cases hstep with
  | marked peer hphase =>
    have hwindow : ¬ (l.phase = .cooldown ∨ l.phase = .finalize ∨ l.phase = .result) := by
      rcases hphase with hp | hp <;> rw [hp] <;> simp
    cases peer with
    | localPeer => exact ⟨fun _ => by simp, hremote, fun hr => ⟨rfl, (h.ready hr).2⟩, fun hw => (hwindow hw).elim⟩
    | remotePeer => exact ⟨hlocal, fun _ => by simp, fun hr => ⟨(h.ready hr).1, rfl⟩, fun hw => (hwindow hw).elim⟩
  | passed peer _ hboth =>
    cases peer with
    | localPeer => exact ⟨fun _ => by simp, hremote, fun _ => hboth, fun hw => by simp at hw⟩
    | remotePeer => exact ⟨hlocal, fun _ => by simp, fun _ => hboth, fun hw => by simp at hw⟩
  | scheduled
  | rescheduled => exact ⟨hlocal, hremote, h.ready, h.window⟩
  | ended started now _ hlt =>
    exact ⟨hlocal, hremote, fun hr => (nomatch hr), fun _ => ⟨_, rfl, Nat.sub_pos_of_lt hlt, Nat.le_of_lt hlt, rfl⟩⟩
  | moved q started hnext hq =>
    refine ⟨hlocal, hremote, fun hr => ?_, fun hw => h.window ?_⟩
    · have hr : q = .ready := hr
      simp [hr] at hq
    · revert hnext hq hw
      cases l.phase <;> simp [SpeedTestPhase.next] <;> rintro rfl <;> simp
  | warmed
  | failed => exact ⟨hlocal, hremote, fun hr => (nomatch hr), fun hw => by simp at hw⟩

theorem Advances.forward (h : Advances l call l') : l.phase.Forward l'.phase := by
  cases h with
  | marked peer => cases peer <;> exact .inl rfl
  | passed peer hphase =>
    rcases hphase with hp | hp <;> rw [hp]
    · exact .inr (.inl rfl)
    · exact .inl rfl
  | scheduled => exact .inl rfl
  | rescheduled => exact .inl rfl
  | warmed _ _ hp
  | ended _ _ hp => exact .inr (.inl (by rw [hp]; rfl))
  | moved _ _ hnext => exact .inr (.inl hnext)
  | failed hp => exact .inr (.inr ⟨hp, rfl⟩)

theorem Advances.warmup (h : Advances l call l') (hne : l.phase ≠ .warmup) (hw : l'.phase = .warmup) :
    ∃ now startAt, call = .beginWarmup now ∧ l.startAtUnixNanoseconds = some startAt ∧ startAt ≤ now := by
  cases h with
  | warmed startAt now _ hstart hle => exact ⟨now, startAt, rfl, hstart, hle⟩
  | marked peer => cases peer <;> exact absurd hw hne
  | scheduled => exact absurd hw hne
  | rescheduled => exact absurd hw hne
  | moved q _ _ hq =>
    have hw : q = .warmup := hw
    simp [hw] at hq
  | _ => cases hw

theorem Advances.start (h : Advances l call l') {startAt : Nat} (hs : l.startAtUnixNanoseconds = some startAt) :
    l'.startAtUnixNanoseconds = some startAt := by
  cases h with
  | scheduled _ _ hnone => rw [hs] at hnone; cases hnone
  | marked peer => cases peer <;> exact hs
  | passed peer => cases peer <;> exact hs
  | _ => exact hs

end

theorem earned_lifecycleAfter (calls : List LifeCall) : Earned calls (lifecycleAfter calls) := by
  induction calls using List.reverseRecOn with
  | nil =>
    exact ⟨fun h => (nomatch h), fun h => (nomatch h), fun h => (nomatch h),
      fun h => by simp [lifecycleAfter, SpeedTestLifecycle.new] at h⟩
  | append_singleton calls call ih =>
    rw [lifecycleAfter_snoc]
    refine wp_state (wp_mono (run_advances _ call) (fun _ _ hstep => ih.advance hstep) ?_)
    rintro _ _ rfl
    exact ⟨fun hl => List.mem_append_left _ (ih.localPeer hl), fun hr => List.mem_append_left _ (ih.remotePeer hr),
      ih.ready, ih.window⟩

/-- **Every run of a lifecycle.**  Each call moves the phase forward by at most one step or to failed; a lifecycle is
ready only after both peers were marked, enters its warmup only at or after the scheduled start, which stays, and has a
measured window when it has a result; a terminal phase stays, and a call that fails changes nothing. -/
theorem lifecycle_runs (calls : List LifeCall) (call : LifeCall) :
    let l := lifecycleAfter calls
    let l' := lifecycleAfter (calls ++ [call])
    l.phase.Forward l'.phase ∧ (l.phase = .ready → l.localReady = true ∧ l.remoteReady = true ∧
      .markReady .localPeer ∈ calls ∧ .markReady .remotePeer ∈ calls) ∧
    (l.phase ≠ .warmup → l'.phase = .warmup →
      ∃ now startAt, call = .beginWarmup now ∧ l.startAtUnixNanoseconds = some startAt ∧ startAt ≤ now) ∧
    (∀ startAt, l.startAtUnixNanoseconds = some startAt → l'.startAtUnixNanoseconds = some startAt) ∧
    (l.phase = .result → ∃ w, l.measurementWindow = some w ∧ w.Measured) ∧
    (l.phase.terminal = true → l'.phase = l.phase) ∧
    (∀ e, (call.run l).1 = .error e → l' = l) := by
  intro l l'
  have hearned : Earned calls l := earned_lifecycleAfter calls
  have hrun := run_advances l call
  have hsnoc : l' = (call.run l).2 := lifecycleAfter_snoc calls call
  have hstep : l' = l ∨ Advances l call l' := by
    rw [hsnoc]
    exact wp_state (wp_mono hrun (fun _ _ h => Or.inr h) (fun _ _ h => Or.inl h))
  have hforward : l.phase.Forward l'.phase := hstep.elim (fun h => .inl (by rw [h])) (·.forward)
  refine ⟨hforward, fun hr => ?_, fun hne hw => ?_, fun startAt hs => ?_, fun hr => hearned.window (.inr (.inr hr)),
    fun hterminal => ?_, fun e he => ?_⟩
  · obtain ⟨hl, hr⟩ := hearned.ready hr
    exact ⟨hl, hr, hearned.localPeer hl, hearned.remotePeer hr⟩
  · exact hstep.elim (fun h => absurd (h ▸ hw) hne) (fun h => h.warmup hne hw)
  · exact hstep.elim (fun h => h ▸ hs) (fun h => h.start hs)
  · rcases hforward with h | h | h
    · exact h
    · revert h hterminal
      cases l.phase <;> simp [SpeedTestPhase.terminal, SpeedTestPhase.next]
    · rw [h.1] at hterminal; cases hterminal
  · have hcall : call.run l = (.error e, l') := Prod.ext he hsnoc.symm
    have hsame := wp_error hrun hcall
    exact hsame

end Speed
end NetTool
