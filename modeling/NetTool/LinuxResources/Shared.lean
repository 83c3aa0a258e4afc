import NetTool.Lib.Slot
import NetTool.LinuxResources.Recovery
/-!
# LinuxResources.Shared — several operations on one resource

The executor's calls on one resource are those of a slot whose holders are the operations: the snapshot an operation
keeps is what it saved (`Shows`, `shows_step`).  So the first value comes back when the oldest operation is released
last, and the executor, which takes releases in any order, does not bring it back otherwise.
-/
namespace NetTool
namespace LinuxResources

open Files (Halt)
open Prog

section
variable {R A V K : Type} (k : Kind R A V K)

def Kind.Idle (r : R) (b : Bank R A V K) : Prop :=
  ∀ o s, b.files o = some s → s.released = false → k.resource s.target ≠ r

def Kind.Succeeds (b : Bank R A V K) (call : Attempt A) : Prop :=
  ∃ result, (k.run call.1 { b with faults := call.2 }).1 = .ok result

instance Kind.decidableSucceeds (b : Bank R A V K) (call : Attempt A) : Decidable (k.Succeeds b call) :=
  match h : (k.run call.1 { b with faults := call.2 }).1 with
  | .ok result => .isTrue ⟨result, h⟩
  | .error e => .isFalse (fun ⟨_, hresult⟩ => by rw [h] at hresult; cases hresult)

/-- The operation that has been outstanding longest is released when no other is outstanding. -/
def Call.Orderly (holders : List String) : Call A → Prop
  | .prepare _ _ => True
  | .release o _ => Slot.OldestLast o holders

instance Call.decidableOrderly (holders : List String) : ∀ call : Call A, Decidable (call.Orderly holders)
  | .prepare _ _ => .isTrue trivial
  | .release o _ => inferInstanceAs (Decidable (holders.head? = some o → holders = [o]))

variable {k} {r : R} {b b' : Bank R A V K} {slot : Slot String V}

variable {call : Attempt A} {o : String} {x : Bank R A V K × List String}

theorem Kind.files_step (h : call.1.operationId ≠ o) : (k.step b call).files o = b.files o := by
  obtain ⟨⟨o', target⟩ | ⟨o', target⟩, faults⟩ := call
  · rcases Kind.step_prepare (k := k) (b := b) with hsame | ⟨-, s, hs⟩
    · exact congrFun hsame.2 o
    · exact hs.elsewhere.2 o h.symm
  · rcases Kind.step_release (k := k) (b := b) with hsame | ⟨s₀, s, hs⟩
    · exact congrFun hsame.2 o
    · exact hs.elsewhere.2 o h.symm

theorem Kind.files_foldl : ∀ (calls : List (Attempt A)) (b : Bank R A V K),
    (∀ call ∈ calls, call.1.operationId ≠ o) → (calls.foldl k.step b).files o = b.files o
  | [], _, _ => rfl
  | call :: calls, b, h => by
    rw [List.foldl_cons, Kind.files_foldl calls _ (fun c hc => h c (List.mem_cons_of_mem _ hc))]
    exact Kind.files_step (h call List.mem_cons_self)

/-- Every operation that was called has been released. -/
theorem Kind.Idle.foldl {calls : List (Attempt A)} (h : k.Idle r b)
    (hmarked : ∀ call ∈ calls, Marked call.1.operationId (calls.foldl k.step b)) : k.Idle r (calls.foldl k.step b) := by
  intro o s hs hlive
  by_cases ho : ∃ call ∈ calls, call.1.operationId = o
  · obtain ⟨call, hcall, rfl⟩ := ho
    obtain ⟨s', hs', hreleased⟩ := hmarked call hcall
    obtain rfl : s' = s := Option.mem_unique hs' hs
    rw [hlive] at hreleased
    cases hreleased
  · rw [Kind.files_foldl calls b (fun call hcall heq => ho ⟨call, hcall, heq⟩)] at hs
    exact h o s hs hlive

/-! ## The slot of a resource -/

/-- The operation's unreleased snapshot of the resource holds `v`. -/
def Kind.Saves (k : Kind R A V K) (r : R) (b : Bank R A V K) (o : String) (v : V) : Prop :=
  ∃ s, b.files o = some s ∧ k.resource s.target = r ∧ s.released = false ∧ s.original = v

/-- The slot shows the kernel's value and what the operations have saved. -/
structure Shows (k : Kind R A V K) (r : R) (b : Bank R A V K) (slot : Slot String V) : Prop where
  value : slot.value = k.observe (b.kernel r)
  saved : ∀ o v, (o, v) ∈ slot.saved ↔ k.Saves r b o v

theorem saves_congr (h : b'.files o = b.files o) (v : V) : k.Saves r b' o v ↔ k.Saves r b o v := by
  unfold Kind.Saves
  rw [h]

theorem saves_iff {s : Snapshot A V} (h : b.files o = some s) (v : V) :
    k.Saves r b o v ↔ k.resource s.target = r ∧ s.released = false ∧ s.original = v := by
  constructor
  · rintro ⟨s', hs', hrest⟩
    obtain rfl : s = s' := Option.mem_unique h hs'
    exact hrest
  · exact fun hrest => ⟨s, h, hrest⟩

theorem not_saves_of_none (h : b.files o = none) (v : V) : ¬ k.Saves r b o v := by
  rintro ⟨s, hs, -⟩
  rw [h] at hs
  cases hs

/-- Only the file of one operation has changed, and what the slot has of it is right. -/
theorem Shows.of_elsewhere {r' : R} {slot' : Slot String V} (h : Shows k r b slot) (helsewhere : Elsewhere o r' b b')
    (hvalue : slot'.value = k.observe (b'.kernel r))
    (hothers : ∀ o' v, o' ≠ o → ((o', v) ∈ slot'.saved ↔ (o', v) ∈ slot.saved))
    (hown : ∀ v, (o, v) ∈ slot'.saved ↔ k.Saves r b' o v) : Shows k r b' slot' := by
  refine ⟨hvalue, fun o' v => ?_⟩
  by_cases ho : o' = o
  · subst ho
    exact hown v
  · rw [hothers o' v ho, h.saved, saves_congr (helsewhere.2 o' ho)]

/-- In an orderly run there is a slot that shows the bank, and its oldest holder has the first value. -/
def Kept (k : Kind R A V K) (r : R) (v₀ : V) (x : Bank R A V K × List String) : Prop :=
  ∃ slot, Shows k r x.1 slot ∧ slot.saved.map Prod.fst = x.2 ∧ slot.Anchored v₀

theorem Kind.Idle.kept (h : k.Idle r b) : Kept k r (k.observe (b.kernel r)) (b, []) := by
  refine ⟨⟨k.observe (b.kernel r), []⟩, ⟨rfl, fun o v => ?_⟩, rfl, rfl⟩
  refine ⟨fun hmem => (by cases hmem), ?_⟩
  rintro ⟨s, hs, hr, hlive, -⟩
  exact absurd hr (h o s hs hlive)

theorem Kept.of_idle {v₀ : V} (h : Kept k r v₀ x) (hidle : k.Idle r x.1) : k.observe (x.1.kernel r) = v₀ := by
  obtain ⟨⟨value, _ | ⟨p, saved⟩⟩, hshows, -, hanchored⟩ := h
  · exact hshows.value.symm.trans hanchored
  · obtain ⟨s, hs, hr, hlive, -⟩ := (hshows.saved p.1 p.2).1 List.mem_cons_self
    exact absurd hr (hidle p.1 s hs hlive)

/-! ## Steps -/

variable (k) [DecidableEq R]

/-- The operations that are outstanding, in the order of their first prepare. -/
def Kind.outstanding (r : R) (holders : List String) : Call A → List String
  | .prepare o target => if k.resource target = r then Slot.arrive o holders else holders
  | .release o _ => Slot.leave o holders

def Kind.sharedStep (r : R) (x : Bank R A V K × List String) (call : Attempt A) : Bank R A V K × List String :=
  (k.step x.1 call, k.outstanding r x.2 call.1)

def Kind.slotStep (r : R) (slot : Slot String V) : Call A → Slot String V
  | .prepare o target => if k.resource target = r then slot.prepare o (k.goal target) else slot
  | .release o _ => slot.release o

variable {k}

theorem shows_prepare {target : A} {s : Snapshot A V} (h : Shows k r b slot)
    (hs : Prepared k.observe (k.resource target) o target (SetTo k.observe (k.goal target)) b b' s) :
    Shows k r b' (k.slotStep r slot (.prepare o target)) := by
  dsimp only [Kind.slotStep]
  by_cases hr : k.resource target = r
  · subst hr
    rw [if_pos rfl]
    refine h.of_elsewhere hs.elsewhere hs.moves.1.symm (fun o' v ho => ?_) (fun v => ?_)
    · rw [Slot.mem_prepare]
      simp [ho]
    · rw [Slot.mem_prepare, saves_iff hs.after, hs.target_eq]
      simp only [true_and, hs.live]
      rcases hs.before with ⟨hbefore, -, htarget⟩ | ⟨hnone, hnew⟩
      · -- the operation is there already
        have hsaved : ∀ v, (o, v) ∈ slot.saved ↔ s.original = v := by
          intro v
          rw [h.saved, saves_iff hbefore, htarget]
          simp only [true_and, hs.live]
        have hholder : o ∈ slot.saved.map Prod.fst := List.mem_map.2 ⟨(o, s.original), (hsaved _).2 rfl, rfl⟩
        simp only [hholder, not_true, and_false, or_false, hsaved]
      · have hsaved : ∀ v, (o, v) ∉ slot.saved := fun v hv => not_saves_of_none hnone v ((h.saved o v).1 hv)
        have hholder : o ∉ slot.saved.map Prod.fst := by
          intro ho
          obtain ⟨p, hp, rfl⟩ := List.mem_map.1 ho
          exact hsaved p.2 hp
        simp only [hsaved, hholder, not_false_eq_true, and_true, false_or, hnew, h.value]
        exact eq_comm
  · rw [if_neg hr]
    have hkernel : b'.kernel r = b.kernel r := hs.elsewhere.1 r (Ne.symm hr)
    refine h.of_elsewhere hs.elsewhere (by rw [hkernel]; exact h.value) (fun _ _ _ => Iff.rfl) (fun v => ?_)
    rw [h.saved, saves_iff hs.after, hs.target_eq]
    rcases hs.before with ⟨hbefore, -, htarget⟩ | ⟨hnone, -⟩
    · rw [saves_iff hbefore, htarget]
    · simp only [not_saves_of_none hnone, hr, false_and]

theorem shows_release {target : A} {s₀ s : Snapshot A V} (h : Shows k r b slot)
    (hs : Released k.resource (fun s v => k.observe v = s.original ∧ k.Clean v) o b b' s₀ s)
    (hreleased : s.released = true) : Shows k r b' (k.slotStep r slot (.release o target)) := by
  show Shows k r b' (slot.release o)
  have hown : ∀ v, (o, v) ∈ (slot.release o).saved ↔ k.Saves r b' o v := by
    intro v
    rw [Slot.mem_release, saves_iff hs.after, hreleased]
    simp
  refine h.of_elsewhere hs.elsewhere ?_ (fun o' v ho => ?_) hown
  · by_cases hsaves : k.resource s₀.target = r ∧ s₀.released = false
    · obtain ⟨rfl, hlive⟩ := hsaves
      have hsaved : (o, s₀.original) ∈ slot.saved := (h.saved _ _).2 ((saves_iff hs.before _).2 ⟨rfl, hlive, rfl⟩)
      have hback := (saves_iff hs.before _).1 ((h.saved _ _).1 (Slot.value_release hsaved))
      rcases hs.moves with ⟨rfl, -⟩ | ⟨-, -, hvalue, -⟩
      · rw [hlive] at hreleased
        cases hreleased
      · rw [hvalue, hback.2.2]
    · have hnot : ∀ v, (o, v) ∉ slot.saved := by
        intro v hv
        obtain ⟨hr, hlive, -⟩ := (saves_iff hs.before v).1 ((h.saved o v).1 hv)
        exact hsaves ⟨hr, hlive⟩
      have hkernel : b'.kernel r = b.kernel r := by
        by_cases hr : k.resource s₀.target = r
        · subst hr
          rcases hs.moves with ⟨-, hsame⟩ | ⟨hlive, -, -⟩
          · exact hsame (by simpa using fun hlive => hsaves ⟨rfl, hlive⟩)
          · exact absurd ⟨rfl, hlive⟩ hsaves
        · exact hs.elsewhere.1 r (Ne.symm hr)
      rw [Slot.release_of_not_mem hnot, hkernel]
      exact h.value
  · rw [Slot.mem_release]
    simp [ho]

/-- **A call that returns moves the bank and the slot alike.** -/
theorem shows_step (h : Shows k r b slot) (hok : k.Succeeds b call) :
    Shows k r (k.step b call) (k.slotStep r slot call.1) := by
  obtain ⟨result, hresult⟩ := hok
  obtain ⟨⟨o, target⟩ | ⟨o, target⟩, faults⟩ := call
  · have hrun : k.prepare o target { b with faults := faults } = (.ok result, k.step b (.prepare o target, faults)) :=
      Prod.ext hresult rfl
    obtain ⟨-, s, hs⟩ := wp_ok (k.prepares o target _) hrun
    exact shows_prepare h ⟨hs.before, hs.live, hs.after, hs.moves, hs.elsewhere⟩
  · have hrun : k.release o target { b with faults := faults } = (.ok result, k.step b (.release o target, faults)) :=
      Prod.ext hresult rfl
    obtain ⟨s₀, s, hs, hreleased⟩ := wp_ok (k.releases o target _) hrun
    exact shows_release h ⟨hs.before, hs.after, hs.moves, hs.elsewhere⟩ hreleased

theorem kept_step {v₀ : V} (h : Kept k r v₀ x) (hok : k.Succeeds x.1 call) (horderly : call.1.Orderly x.2) :
    Kept k r v₀ (k.sharedStep r x call) := by
  obtain ⟨slot, hshows, hholders, hanchored⟩ := h
  rw [← hholders] at horderly
  refine ⟨k.slotStep r slot call.1, shows_step hshows hok, ?_⟩
  dsimp only [Kind.sharedStep]
  rw [← hholders]
  cases hcall : call.1 with
  | release o target =>
    rw [hcall] at horderly
    exact ⟨Slot.holders_release, Slot.anchored_release hanchored horderly⟩
  | prepare o target =>
    dsimp only [Kind.slotStep, Kind.outstanding]
    by_cases hr : k.resource target = r
    · rw [if_pos hr, if_pos hr]
      exact ⟨Slot.holders_prepare, Slot.anchored_prepare hanchored⟩
    · rw [if_neg hr, if_neg hr]
      exact ⟨rfl, hanchored⟩

end

/-- **Operations that share a resource**: when in a run of calls that return the oldest operation is always released
last, the first value is back once every operation is released. -/
theorem shared_resource_returns (pciAddress : String) (pool : Pool) :
    (∀ (b₀ b : NicBank) (holders : List String), nics.Idle pciAddress b₀ →
      Reach (b₀, []) (nics.sharedStep pciAddress) (fun x call => nics.Succeeds x.1 call ∧ call.1.Orderly x.2)
        (b, holders) →
      nics.Idle pciAddress b → (b.kernel pciAddress).driver = (b₀.kernel pciAddress).driver) ∧
    (∀ (b₀ b : PoolBank) (holders : List String), pools.Idle pool b₀ →
      Reach (b₀, []) (pools.sharedStep pool) (fun x call => pools.Succeeds x.1 call ∧ call.1.Orderly x.2) (b, holders) →
      pools.Idle pool b → b.kernel pool = b₀.kernel pool) := by
  constructor
  all_goals
    intro b₀ b holders hidle₀ hreach hidle
    have hkept := hreach.invariant hidle₀.kept (fun _ _ h hok => kept_step h hok.1 hok.2)
    exact hkept.of_idle hidle

/-- Two operations prepare one NIC and the second is released first. -/
def nestedCalls : List (Attempt String) :=
  [(.prepare "A" sampleNic, []), (.prepare "B" sampleNic, []), (.release "B" sampleNic, []),
    (.release "A" sampleNic, [])]

theorem sampleNics_idle : nics.Idle sampleNic sampleNics := fun _ _ hs => by cases hs

theorem shared_resource_returns_sample :
    ((nestedCalls.foldl nics.step sampleNics).kernel sampleNic).driver = some "ixgbe" := by
  have hreach : Reach (sampleNics, []) (nics.sharedStep sampleNic)
      (fun x call => nics.Succeeds x.1 call ∧ call.1.Orderly x.2)
      (nestedCalls.foldl (nics.sharedStep sampleNic) (sampleNics, [])) := Reach.foldl _ _ .init (by decide +kernel)
  have hmarked :
      ∀ call ∈ nestedCalls, Marked call.1.operationId (nestedCalls.foldl nics.step sampleNics) := by decide +kernel
  have hidle : nics.Idle sampleNic (nestedCalls.foldl nics.step sampleNics) := sampleNics_idle.foldl hmarked
  exact (shared_resource_returns sampleNic ⟨none, 2048⟩).1 sampleNics _ _ sampleNics_idle hreach hidle

/-- Two operations prepare one NIC and the first is released first. -/
def overlappingCalls : List (Attempt String) :=
  [(.prepare "A" sampleNic, []), (.prepare "B" sampleNic, []), (.release "A" sampleNic, []),
    (.release "B" sampleNic, [])]

def samplePool : Pool := ⟨none, 2048⟩

def samplePools : PoolBank := ⟨fun _ => 0, fun _ => none, []⟩

def overlappingRequests : List (Attempt PoolRequest) :=
  [(.prepare "A" ⟨samplePool, 4⟩, []), (.prepare "B" ⟨samplePool, 8⟩, []), (.release "A" ⟨samplePool, 4⟩, []),
    (.release "B" ⟨samplePool, 8⟩, [])]

theorem overlapping_operations_keep_the_driver :
    (Allowed nics.step nics.Succeeds sampleNics overlappingCalls ∧ nics.Idle sampleNic sampleNics ∧
      nics.Idle sampleNic (overlappingCalls.foldl nics.step sampleNics) ∧
      ((overlappingCalls.foldl nics.step sampleNics).kernel sampleNic).driver = some "vfio-pci" ∧
      (sampleNics.kernel sampleNic).driver = some "ixgbe") ∧
    (Allowed pools.step pools.Succeeds samplePools overlappingRequests ∧ pools.Idle samplePool samplePools ∧
      pools.Idle samplePool (overlappingRequests.foldl pools.step samplePools) ∧
      (overlappingRequests.foldl pools.step samplePools).kernel samplePool = 4 ∧
        samplePools.kernel samplePool = 0) := by
  have hnics : ∀ call ∈ overlappingCalls, Marked call.1.operationId
    (overlappingCalls.foldl nics.step sampleNics) := by decide +kernel
  have hpools : ∀ call ∈ overlappingRequests, Marked call.1.operationId
    (overlappingRequests.foldl pools.step samplePools) := by
    decide +kernel
  have hidle : pools.Idle samplePool samplePools := fun _ _ hs => by cases hs
  refine ⟨⟨by decide +kernel, sampleNics_idle, sampleNics_idle.foldl hnics, by decide +kernel, rfl⟩, ?_⟩
  exact ⟨by decide +kernel, hidle, hidle.foldl hpools, by decide +kernel, rfl⟩

end LinuxResources
end NetTool
