import NetTool.Lib.Run
import NetTool.LinuxResources.Specs
/-!
# LinuxResources.Recovery — one operation on a resource of its own

An operation prepares a resource that no other operation prepares, in any number of calls, each interrupted or not.
Before its snapshot is in the file the resource has its first value; from then on the snapshot holds that value, and a
file is marked only when the resource has it again (`Owned`).  What a release brings back, and that nothing changes
afterwards, is read off that invariant (`Recovered`).
-/
namespace NetTool
namespace LinuxResources

open Files (Halt)
open Prog

inductive Call (A : Type)
  | prepare (operationId : String) (target : A)
  | release (operationId : String) (target : A)

def Call.operationId {A : Type} : Call A → String
  | .prepare operationId _ => operationId
  | .release operationId _ => operationId

/-- A call and what happens to its accesses. -/
abbrev Attempt (A : Type) := Call A × List (Option Fault)

section
variable {R A V K : Type} (k : Kind R A V K)

def Kind.run : Call A → ExecM (Bank R A V K) ValueResult
  | .prepare operationId target => k.prepare operationId target
  | .release operationId target => k.release operationId target

/-- A call, with what happens to it.  A process that died leaves the files and the kernel to the next. -/
def Kind.step (b : Bank R A V K) (call : Attempt A) :
    Bank R A V K := (k.run call.1 { b with faults := call.2 }).2

/-- The operation prepares this resource only, and is the only one to prepare it. -/
def Kind.Apart (operationId : String) (r : R) (_ : Bank R A V K) (call : Attempt A) : Prop :=
  match call.1 with
  | .prepare o target => o = operationId ↔ k.resource target = r
  | .release _ _ => True

variable {k} {operationId : String} {r : R} {b b' : Bank R A V K}

variable {faults : List (Option Fault)} {o : String} {target : A} {Moves : K → K → Prop} {s : Snapshot A V} {v₀ : V}
  {result : ValueResult}

theorem Kind.step_prepare :
    Unchanged b (k.step b (.prepare o target, faults)) ∨ (k.validate target = .ok () ∧
      ∃ s, Prepared k.observe (k.resource target) o target (Toward k.observe (k.goal target)) b
        (k.step b (.prepare o target, faults)) s) := by
  rcases wp_after (k.prepares o target { b with faults := faults }) with
    ⟨_, hvalid, s, hs⟩ | ⟨_, hsame | ⟨hvalid, s, hs⟩⟩
  · exact .inr ⟨hvalid, s, hs.before, hs.live, hs.after, hs.moves.2, hs.elsewhere⟩
  · exact .inl hsame
  · exact .inr ⟨hvalid, s, hs.before, hs.live, hs.after, hs.moves, hs.elsewhere⟩

theorem Kind.step_release :
    Unchanged b (k.step b (.release o target, faults)) ∨
      ∃ s₀ s, Released k.resource (fun s v => k.observe v = s.original ∧ k.Clean v) o b
        (k.step b (.release o target, faults)) s₀ s := by
  rcases wp_after (k.releases o target { b with faults := faults }) with ⟨_, s₀, s, hs, -⟩ | ⟨_, hsame | ⟨s₀, s, hs⟩⟩
  · exact .inr ⟨s₀, s, hs.before, hs.after, hs.moves, hs.elsewhere⟩
  · exact .inl hsame
  · exact .inr ⟨s₀, s, hs.before, hs.after, hs.moves, hs.elsewhere⟩

theorem Prepared.target_eq {observe : K → V} (h : Prepared observe r o target Moves b b' s) : s.target = target := by
  rcases h.before with ⟨-, -, htarget⟩ | ⟨-, rfl⟩
  · exact htarget
  · rfl

/-! ## The invariant -/

/-- No operation other than `operationId` has an unreleased snapshot of the resource. -/
def Kind.Alone (k : Kind R A V K) (operationId : String) (r : R) (b : Bank R A V K) : Prop :=
  ∀ o, o ≠ operationId → ∀ s, b.files o = some s → s.released = false → k.resource s.target ≠ r

/-- The operation's snapshot, if there is one, is of the value `v₀`, and the resource has that value before there is one
and once it is marked. -/
structure Owned (k : Kind R A V K) (operationId : String) (r : R) (v₀ : V) (b : Bank R A V K) : Prop where
  alone : k.Alone operationId r b
  absent : b.files operationId = none → k.observe (b.kernel r) = v₀
  resource : ∀ s, b.files operationId = some s → k.resource s.target = r
  operation : ∀ s, b.files operationId = some s → s.operationId = operationId ∧ k.validate s.target = .ok ()
  original : ∀ s, b.files operationId = some s → s.original = v₀
  released : ∀ s, b.files operationId = some s → s.released = true → k.observe (b.kernel r) = v₀ ∧ k.Clean (b.kernel r)

def Held (operationId : String) (r : R) (b b' : Bank R A V K) : Prop :=
  b'.kernel r = b.kernel r ∧ b'.files operationId = b.files operationId

theorem Unchanged.held (h : Unchanged b b') : Held operationId r b b' := ⟨congrFun h.1 r, congrFun h.2 operationId⟩

theorem Owned.of_held (h : Owned k operationId r v₀ b) (hheld : Held operationId r b b')
    (halone : k.Alone operationId r b') : Owned k operationId r v₀ b' := by
  obtain ⟨hkernel, hfile⟩ := hheld
  constructor
  · exact halone
  · rw [hkernel, hfile]; exact h.absent
  · rw [hfile]; exact h.resource
  · rw [hfile]; exact h.operation
  · rw [hfile]; exact h.original
  · rw [hkernel, hfile]; exact h.released

theorem Kind.Alone.of_unchanged (h : k.Alone operationId r b) (hsame : Unchanged b b') : k.Alone operationId r b' := by
  intro o ho s hs
  rw [hsame.2] at hs
  exact h o ho s hs

theorem Prepared.held_of_ne (h : Prepared k.observe (k.resource target) o target Moves b b' s) (ho : o ≠ operationId)
    (hr : k.resource target ≠ r) (halone : k.Alone operationId r b) :
    Held operationId r b b' ∧ k.Alone operationId r b' := by
  refine ⟨⟨h.elsewhere.1 r hr.symm, h.elsewhere.2 operationId ho.symm⟩, fun o' ho' s' hs' hlive => ?_⟩
  by_cases heq : o' = o
  · subst heq
    obtain rfl : s = s' := Option.mem_unique h.after hs'
    rw [h.target_eq]
    exact hr
  · rw [h.elsewhere.2 o' heq] at hs'
    exact halone o' ho' s' hs' hlive

/-- Another operation's release: what it has prepared is another resource, or is released. -/
theorem Released.held_of_ne {Back : Snapshot A V → K → Prop} {s₀ s : Snapshot A V}
    (h : Released k.resource Back o b b' s₀ s) (ho : o ≠ operationId) (halone : k.Alone operationId r b) :
    Held operationId r b b' ∧ k.Alone operationId r b' := by
  refine ⟨⟨?_, h.elsewhere.2 operationId ho.symm⟩, fun o' ho' s' hs' hlive => ?_⟩
  · by_cases hr : k.resource s₀.target = r
    · cases hreleased : s₀.released with
      | false => exact absurd hr (halone o ho s₀ h.before hreleased)
      | true =>
        rcases h.moves with ⟨-, hsame⟩ | ⟨hlive, -, -⟩
        · rw [← hr]
          exact hsame hreleased
        · rw [hreleased] at hlive
          cases hlive
    · exact h.elsewhere.1 r (Ne.symm hr)
  · by_cases heq : o' = o
    · subst heq
      obtain rfl : s = s' := Option.mem_unique h.after hs'
      rcases h.moves with ⟨rfl, -⟩ | ⟨-, rfl, -⟩
      · exact halone o' ho' s h.before hlive
      · cases hlive
    · rw [h.elsewhere.2 o' heq] at hs'
      exact halone o' ho' s' hs' hlive

theorem Elsewhere.alone (h : Elsewhere operationId r b b') (halone : k.Alone operationId r b) :
    k.Alone operationId r b' := by
  intro o ho s hs
  rw [h.2 o ho] at hs
  exact halone o ho s hs

theorem Prepared.owned (h : Prepared k.observe (k.resource target) operationId target Moves b b' s)
    (hr : k.resource target = r) (hvalid : k.validate target = .ok ()) (howned : Owned k operationId r v₀ b) :
    Owned k operationId r v₀ b' := by
  subst hr
  have hfile : ∀ s', b'.files operationId = some s' → s' = s := fun s' hs' => Option.mem_unique hs' h.after
  constructor
  · exact h.elsewhere.alone howned.alone
  · intro hnone
    rw [h.after] at hnone
    cases hnone
  · intro s' hs'
    rw [hfile s' hs', h.target_eq]
  · intro s' hs'
    rw [hfile s' hs', h.target_eq]
    rcases h.before with ⟨-, hid, -⟩ | ⟨-, rfl⟩
    · exact ⟨hid, hvalid⟩
    · exact ⟨rfl, hvalid⟩
  · intro s' hs'
    rw [hfile s' hs']
    rcases h.before with ⟨hbefore, -, -⟩ | ⟨hnone, rfl⟩
    · exact howned.original s hbefore
    · exact howned.absent hnone
  · intro s' hs' hreleased
    rw [hfile s' hs', h.live] at hreleased
    cases hreleased

theorem Released.owned {s₀ s : Snapshot A V}
    (h : Released k.resource (fun s v => k.observe v = s.original ∧ k.Clean v) operationId b b' s₀ s)
    (howned : Owned k operationId r v₀ b) : Owned k operationId r v₀ b' := by
  obtain rfl : k.resource s₀.target = r := howned.resource s₀ h.before
  have hfile : ∀ s', b'.files operationId = some s' → s' = s := fun s' hs' => Option.mem_unique hs' h.after
  have hsame : s.operationId = s₀.operationId ∧ s.target = s₀.target ∧ s.original = s₀.original := by
    rcases h.moves with ⟨rfl, -⟩ | ⟨-, rfl, -⟩
    · exact ⟨rfl, rfl, rfl⟩
    · exact ⟨rfl, rfl, rfl⟩
  obtain ⟨hid, htarget, horiginal⟩ := hsame
  constructor
  · exact h.elsewhere.alone howned.alone
  · intro hnone
    rw [h.after] at hnone
    cases hnone
  · intro s' hs'
    rw [hfile s' hs', htarget]
  · intro s' hs'
    rw [hfile s' hs', htarget, hid]
    exact howned.operation s₀ h.before
  · intro s' hs'
    rw [hfile s' hs', horiginal]
    exact howned.original s₀ h.before
  · intro s' hs' hreleased
    rw [hfile s' hs'] at hreleased
    rcases h.moves with ⟨rfl, hkernel⟩ | ⟨-, -, hback⟩
    · rw [hkernel hreleased]
      exact howned.released s h.before hreleased
    · exact ⟨hback.1.trans (howned.original s₀ h.before), hback.2⟩

def Call.Keeping (operationId : String) : Call A → Prop
  | .prepare _ _ => True
  | .release o _ => o ≠ operationId

section
variable (h : Owned k operationId r v₀ b)
include h

/-- A call leaves the operation alone, or is its own prepare or release that gets past its snapshot. -/
theorem Owned.step_cases (call : Attempt A) (hapart : k.Apart operationId r b call) :
    (Held operationId r b (k.step b call) ∧ k.Alone operationId r (k.step b call)) ∨
    (∃ target s, k.resource target = r ∧ k.validate target = .ok () ∧
      Prepared k.observe (k.resource target) operationId target (Toward k.observe (k.goal target)) b
        (k.step b call) s) ∨
    (¬ call.1.Keeping operationId ∧ ∃ s₀ s,
      Released k.resource (fun s v => k.observe v = s.original ∧ k.Clean v) operationId b (k.step b call) s₀ s) := by
  obtain ⟨⟨o, target⟩ | ⟨o, target⟩, faults⟩ := call
  · rcases Kind.step_prepare (k := k) (b := b) with hsame | ⟨hvalid, s, hs⟩
    · exact .inl ⟨hsame.held, h.alone.of_unchanged hsame⟩
    · by_cases ho : o = operationId
      · subst ho
        exact .inr (.inl ⟨target, s, hapart.1 rfl, hvalid, hs⟩)
      · exact .inl (hs.held_of_ne ho (fun hr => ho (hapart.2 hr)) h.alone)
  · rcases Kind.step_release (k := k) (b := b) with hsame | ⟨s₀, s, hs⟩
    · exact .inl ⟨hsame.held, h.alone.of_unchanged hsame⟩
    · by_cases ho : o = operationId
      · subst ho
        exact .inr (.inr ⟨fun hkeeping => hkeeping rfl, s₀, s, hs⟩)
      · exact .inl (hs.held_of_ne ho h.alone)

/-- **The invariant holds whatever is called.** -/
theorem Owned.step (call : Attempt A)
    (hapart : k.Apart operationId r b call) : Owned k operationId r v₀ (k.step b call) := by
  rcases h.step_cases call hapart with ⟨hheld, halone⟩ | ⟨target, s, hr, hvalid, hs⟩ | ⟨-, s₀, s, hs⟩
  · exact h.of_held hheld halone
  · exact hs.owned hr hvalid h
  · exact hs.owned h

/-! ## Once a call has returned -/

def AtGoal (k : Kind R A V K) (operationId : String) (r : R) (b : Bank R A V K) : Prop :=
  ∃ s, b.files operationId = some s ∧ k.observe (b.kernel r) = k.goal s.target

def Marked (operationId : String) (b : Bank R A V K) : Prop := ∃ s, b.files operationId = some s ∧ s.released = true

instance Marked.decidable (operationId : String) (b : Bank R A V K) : Decidable (Marked operationId b) :=
  decidable_of_iff ((b.files operationId).any (·.released) = true)
    (by unfold Marked; cases b.files operationId <;> simp)

theorem Owned.step_of_atGoal (hgoal : AtGoal k operationId r b)
    (call : Attempt A) (hapart : k.Apart operationId r b call)
    (hkeeping : call.1.Keeping operationId) : Held operationId r b (k.step b call) := by
  obtain ⟨s₀, hfile, hvalue⟩ := hgoal
  rcases h.step_cases call hapart with ⟨hheld, -⟩ | ⟨target, s, rfl, -, hs⟩ | ⟨hnot, -⟩
  · exact hheld
  · rcases hs.before with ⟨hbefore, -, htarget⟩ | ⟨hnone, -⟩
    · obtain rfl : s₀ = s := Option.mem_unique hfile hbefore
      rw [htarget] at hvalue
      exact ⟨hs.moves hvalue, hs.after.trans hbefore.symm⟩
    · cases hfile.symm.trans hnone
  · exact absurd hkeeping hnot

theorem Owned.step_of_marked (hmarked : Marked operationId b)
    (call : Attempt A) (hapart : k.Apart operationId r b call) : Held operationId r b (k.step b call) := by
  obtain ⟨s₀, hfile, hreleased⟩ := hmarked
  rcases h.step_cases call hapart with ⟨hheld, -⟩ | ⟨target, s, -, -, hs⟩ | ⟨-, s₁, s, hs⟩
  · exact hheld
  · -- a prepare that gets past its snapshot did not find it marked
    rcases hs.before with ⟨hbefore, -, -⟩ | ⟨hnone, -⟩
    · obtain rfl : s₀ = s := Option.mem_unique hfile hbefore
      cases hs.live.symm.trans hreleased
    · cases hfile.symm.trans hnone
  · obtain rfl : s₀ = s₁ := Option.mem_unique hfile hs.before
    obtain rfl : k.resource s₀.target = r := h.resource s₀ hfile
    rcases hs.moves with ⟨rfl, hkernel⟩ | ⟨hlive, -, -⟩
    · exact ⟨hkernel hreleased, hs.after.trans hs.before.symm⟩
    · cases hlive.symm.trans hreleased

end

theorem Held.trans {b'' : Bank R A V K} (h : Held operationId r b b') (h' : Held operationId r b' b'') :
    Held operationId r b b'' :=
  ⟨h'.1.trans h.1, h'.2.trans h.2⟩

theorem Owned.held_of_marked (h : Owned k operationId r v₀ b) (hmarked : Marked operationId b)
    (hreach : Reach b k.step (k.Apart operationId r) b') : Owned k operationId r v₀ b' ∧ Held operationId r b b' := by
  refine Reach.invariant (I := fun b' => Owned k operationId r v₀ b' ∧ Held operationId r b b') ⟨h, rfl, rfl⟩ ?_ hreach
  intro b₁ call ⟨howned, hheld⟩ hapart
  have hmarked₁ : Marked operationId b₁ := by
    unfold Marked
    rw [hheld.2]
    exact hmarked
  exact ⟨howned.step call hapart, hheld.trans (howned.step_of_marked hmarked₁ call hapart)⟩

theorem Owned.held_of_atGoal (h : Owned k operationId r v₀ b) (hgoal : AtGoal k operationId r b)
    (hreach : Reach b k.step (fun b call => k.Apart operationId r b call ∧ call.1.Keeping operationId) b') :
    Held operationId r b b' := by
  have hinv : Owned k operationId r v₀ b' ∧ Held operationId r b b' := by
    refine Reach.invariant (I := fun b' => Owned k operationId r v₀ b' ∧ Held operationId r b b')
      ⟨h, rfl, rfl⟩ ?_ hreach
    intro b₁ call ⟨howned, hheld⟩ ⟨hapart, hkeeping⟩
    have hgoal₁ : AtGoal k operationId r b₁ := by
      unfold AtGoal
      rw [hheld.1, hheld.2]
      exact hgoal
    exact ⟨howned.step call hapart, hheld.trans (howned.step_of_atGoal hgoal₁ call hapart hkeeping)⟩
  exact hinv.2

theorem Kind.marked_of_release (h : k.release operationId target { b with faults := faults } = (.ok result, b')) :
    Marked operationId b' := by
  obtain ⟨_, s, hs, hreleased⟩ := wp_ok (k.releases operationId target _) h
  exact ⟨s, hs.after, hreleased⟩

theorem Owned.of_release (howned : Owned k operationId r v₀ b)
    (h : k.release operationId target { b with faults := faults } = (.ok result, b')) :
    Owned k operationId r v₀ b' := by
  have hstep : k.step b (.release operationId target, faults) = b' := congrArg Prod.snd h
  rw [← hstep]
  exact howned.step _ trivial

/-- What is promised of a state: `v₀` is the value the resource had before the operation first prepared it. -/
structure Recovered (k : Kind R A V K) (operationId : String) (r : R) (v₀ : V) (b : Bank R A V K) : Prop where
  restored : ∀ target faults result b', k.release operationId target { b with faults := faults } = (.ok result, b') →
    k.observe (b'.kernel r) = v₀ ∧ k.Clean (b'.kernel r)
  /-- Repeated prepares, interrupted or not, change nothing. -/
  prepared : ∀ target faults result b' b'', k.resource target = r →
    k.prepare operationId target { b with faults := faults } = (.ok result, b') →
    Reach b' k.step (fun b call => k.Apart operationId r b call ∧ call.1.Keeping operationId) b'' →
      Held operationId r b' b''
  /-- Neither do further releases and prepares after a release. -/
  released : ∀ target faults result b' b'', k.release operationId target { b with faults := faults } =
    (.ok result, b') → Reach b' k.step (k.Apart operationId r) b'' → Held operationId r b' b''
  refused : ∀ target faults result b' b'', k.release operationId target { b with faults := faults } = (.ok result, b') →
    Reach b' k.step (k.Apart operationId r) b'' →
      (∀ target faults result b₃, k.prepare operationId target { b'' with faults := faults } ≠ (.ok result, b₃)) ∧
      ∃ s, b''.files operationId = some s ∧ k.resource s.target = r ∧
        (k.prepare operationId s.target { b'' with faults := [] }).1 = .error (.error k.refusal)

theorem Owned.recovered (h : Owned k operationId r v₀ b) : Recovered k operationId r v₀ b := by
  constructor
  · intro target faults result b' hrun
    obtain ⟨s, hfile, hreleased⟩ := Kind.marked_of_release hrun
    exact (h.of_release hrun).released s hfile hreleased
  · intro target faults result b' b'' hr hrun hreach
    obtain ⟨-, s, hs⟩ := wp_ok (k.prepares operationId target _) hrun
    have hstep : k.step b (.prepare operationId target, faults) = b' := congrArg Prod.snd hrun
    have howned : Owned k operationId r v₀ b' := by
      rw [← hstep]
      exact h.step _ ⟨fun _ => hr, fun _ => rfl⟩
    refine howned.held_of_atGoal ⟨s, hs.after, ?_⟩ hreach
    rw [← hr, hs.target_eq]
    exact hs.moves.1
  · intro target faults result b' b'' hrun hreach
    exact ((h.of_release hrun).held_of_marked (Kind.marked_of_release hrun) hreach).2
  · intro target faults result b' b'' hrun hreach
    obtain ⟨howned, -, hfiles⟩ := (h.of_release hrun).held_of_marked (Kind.marked_of_release hrun) hreach
    obtain ⟨s, hfile, hreleased⟩ := Kind.marked_of_release hrun
    rw [← hfiles] at hfile
    obtain ⟨hid, hvalid⟩ := howned.operation s hfile
    refine ⟨fun target faults result b₃ hprepare => ?_, s, hfile, howned.resource s hfile, ?_⟩
    · obtain ⟨-, s', hs⟩ := wp_ok (k.prepares operationId target _) hprepare
      rcases hs.before with ⟨hbefore, -, -⟩ | ⟨hnone, -⟩
      · obtain rfl : s = s' := Option.mem_unique hfile hbefore
        rw [hs.live] at hreleased
        cases hreleased
      · rw [show b''.files operationId = none from hnone] at hfile
        cases hfile
    · exact k.refuses operationId s _ hvalid hfile hid hreleased rfl

structure Untouched (k : Kind R A V K) (operationId : String) (r : R) (b : Bank R A V K) : Prop where
  absent : b.files operationId = none
  alone : k.Alone operationId r b

theorem Untouched.owned (h : Untouched k operationId r b) : Owned k operationId r (k.observe (b.kernel r)) b := by
  have hnone : ∀ {P : Prop} s, b.files operationId = some s → P := by
    intro P s hs
    rw [h.absent] at hs
    cases hs
  exact ⟨h.alone, fun _ => rfl, fun s hs => hnone s hs, fun s hs => hnone s hs, fun s hs => hnone s hs,
    fun s hs => hnone s hs⟩

end

/-- **An operation on a resource of its own**: whatever interrupts its calls, a release that returns brings the first
value back, with the override cleared, repeated calls change nothing, and a prepare after a release is refused. -/
theorem interrupted_operation_recovers (operationId : String) :
    (∀ (pciAddress : String) (b₀ b : NicBank), Untouched nics operationId pciAddress b₀ →
      Reach b₀ nics.step (nics.Apart operationId pciAddress) b →
      Recovered nics operationId pciAddress (b₀.kernel pciAddress).driver b) ∧
    (∀ (pool : Pool) (b₀ b : PoolBank), Untouched pools operationId pool b₀ →
      Reach b₀ pools.step (pools.Apart operationId pool) b → Recovered pools operationId pool (b₀.kernel pool) b) := by
  constructor
  · intro pciAddress b₀ b huntouched hreach
    exact (hreach.invariant huntouched.owned (fun _ call h hapart => h.step call hapart)).recovered
  · intro pool b₀ b huntouched hreach
    exact (hreach.invariant huntouched.owned (fun _ call h hapart => h.step call hapart)).recovered

def sampleNic : String := "0000:01:00.0"

def sampleNics : NicBank := ⟨fun _ => ⟨some "ixgbe", none, some "ixgbe"⟩, fun _ => none, []⟩

/-- The process dies between the unbind and the probe; the prepare is tried again. -/
def interruptedPrepare : List (Attempt String) :=
  [(.prepare "op" sampleNic, [none, none, none, none, none, none, some (.die .none)]), (.prepare "op" sampleNic, [])]

def afterInterruption : NicBank := interruptedPrepare.foldl nics.step sampleNics

theorem interrupted_operation_recovers_sample :
    ((nics.step sampleNics (interruptedPrepare.headD (.release "op" sampleNic, []))).kernel sampleNic).driver = none ∧
    (afterInterruption.kernel sampleNic).driver = some dpdkDriver ∧
    nics.observe ((nics.release "op" sampleNic { afterInterruption with faults := [] }).2.kernel sampleNic) =
      some "ixgbe" ∧
    nics.Clean ((nics.release "op" sampleNic { afterInterruption with faults := [] }).2.kernel sampleNic) := by
  have huntouched : Untouched nics "op" sampleNic sampleNics := ⟨rfl, fun _ _ _ hs => by cases hs⟩
  have hreach : Reach sampleNics nics.step (nics.Apart "op" sampleNic) afterInterruption :=
    Reach.foldl _ _ .init ⟨⟨fun _ => rfl, fun _ => rfl⟩, ⟨fun _ => rfl, fun _ => rfl⟩, trivial⟩
  have hrun : (nics.release "op" sampleNic { afterInterruption with faults := [] }).1 =
    .ok ⟨some "ixgbe", some "ixgbe", none, none⟩ := by
    decide +kernel
  refine ⟨by decide +kernel, by decide +kernel, ?_⟩
  exact ((interrupted_operation_recovers "op").1 sampleNic sampleNics _ huntouched hreach).restored _ _ _ _
    (Prod.ext hrun rfl)

end LinuxResources
end NetTool
