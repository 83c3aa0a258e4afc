import NetTool.Lib.Check
import NetTool.LinuxResources.Executor
/-!
# LinuxResources.Specs — what the executor's calls can do

One specification for each function, over every fault: what holds when it returns, and what is left when it does not.
NICs and huge pages are two of a `Kind`, which carries the specifications of its prepare and its release, so that what
follows is proved once.
-/
namespace NetTool
namespace LinuxResources

open Files (Halt)
open Prog

/-! ## Accesses -/

section
variable {A V K : Type} {c : Cell A V K}

def Same (c c' : Cell A V K) : Prop := c'.kernel = c.kernel ∧ c'.file = c.file

theorem Same.refl (c : Cell A V K) : Same c c := ⟨rfl, rfl⟩

theorem wp_nextFault : wp nextFault (fun _ c' => Same c c') (fun _ _ => False) c := by
  unfold nextFault
  rcases hfaults : c.faults with _ | ⟨fault, faults⟩
  · simpa [wp, hfaults] using Same.refl c
  · simpa [wp, hfaults] using ⟨rfl, rfl⟩

theorem wp_fileStep : wp fileStep (fun _ c' => Same c c') (fun _ c' => Same c c') c := by
  refine wp_then wp_nextFault (fun fault c' h => ?_) (fun _ _ h => h.elim)
  rcases fault with _ | (reached | ⟨error, extent⟩ | extent)
  · exact h
  · exact h
  · exact h
  · exact h

theorem wp_kernelRead {context : String} {observe : K → V} :
    wp (kernelRead context observe) (fun v c' => v = observe c.kernel ∧ Same c c') (fun _ c' => Same c c') c := by
  refine wp_then wp_nextFault (fun fault c' h => ?_) (fun _ _ h => h.elim)
  rcases fault with _ | (reached | ⟨error, extent⟩ | extent)
  · exact ⟨by rw [← h.1], h⟩
  · exact ⟨by rw [← h.1], h⟩
  · exact h
  · exact h

theorem wp_kernelWrite {context : String} {effect : Extent → K → K} :
    wp (kernelWrite context effect) (fun _ c' => c'.file = c.file ∧ ∃ extent, extent ≠ .none ∧
      c'.kernel = effect extent c.kernel)
      (fun _ c' => c'.file = c.file ∧ ∃ extent, c'.kernel = effect extent c.kernel) c := by
  refine wp_then wp_nextFault (fun fault c' h => ?_) (fun _ _ h => h.elim)
  obtain ⟨hkernel, hfile⟩ := h
  rw [← hkernel, ← hfile]
  rcases fault with _ | (reached | ⟨error, extent⟩ | extent)
  · exact ⟨rfl, .full, by decide, rfl⟩
  · exact ⟨rfl, .part reached, (by intro h; cases h), rfl⟩
  · exact ⟨rfl, extent, rfl⟩
  · exact ⟨rfl, extent, rfl⟩

theorem wp_readState : wp readState (fun s c' => Same c c' ∧ c.file = some s) (fun _ c' => Same c c') c := by
  refine wp_seq wp_fileStep (fun _ c' h => ?_)
  rw [wp_bind, wp_get, wp_ofOption, h.2]
  exact ⟨fun s hs => ⟨h, hs⟩, fun _ => h⟩

/-- A state file holds the old state or the new one. -/
theorem wp_writeState {s : Snapshot A V} :
    wp (writeState s) (fun _ c' => c'.kernel = c.kernel ∧ c'.file = some s)
      (fun _ c' => c'.kernel = c.kernel ∧ (c'.file = c.file ∨ c'.file = some s)) c := by
  refine wp_then wp_fileStep (fun _ c' h => ?_) (fun _ _ h => ⟨h.1, .inl h.2⟩)
  exact wp_mono wp_fileStep (fun _ c'' h' => ⟨h'.1.trans h.1, h'.2⟩) (fun _ c'' h' => ⟨h'.1.trans h.1, .inr h'.2⟩)

end

/-! ## Setting a value -/

section
variable {A V K : Type} (observe : K → V)

/-- Set to `v`, and left alone if it was `v` already. -/
def SetTo (v : V) (k k' : K) : Prop := observe k' = v ∧ (observe k = v → k' = k)

def Toward (v : V) (k k' : K) : Prop := observe k = v → k' = k

/-- A program that sets the kernel's value and leaves the file alone. -/
def Sets (v : V) (m : ExecM (Cell A V K) Unit) : Prop :=
  ∀ c, wp m (fun _ c' => c'.file = c.file ∧ SetTo observe v c.kernel c'.kernel)
    (fun _ c' => c'.file = c.file ∧ Toward observe v c.kernel c'.kernel) c

end

/-- **`bind_driver`.** -/
theorem sets_bindDriver (target : Option String) : Sets (A := String) Nic.driver target (bindDriver target) := by
  intro c
  refine wp_then wp_kernelRead (fun current c₁ h => ?_) (fun _ c' h => ⟨h.2, fun _ => h.1⟩)
  obtain ⟨rfl, hkernel, hfile⟩ := h
  rw [wp_ite]
  refine ⟨fun heq => ⟨hfile, by rw [hkernel]; exact heq, fun _ => hkernel⟩, fun hne => ?_⟩
  -- from here on the value was another one, so only the read-back matters
  have htoward : ∀ k', Toward Nic.driver target c.kernel k' := fun k' heq => absurd heq hne
  have hwrite : ∀ (context : String) (effect : Extent → Nic → Nic) (c₂ : NicCell), c₂.file = c.file →
      wp (kernelWrite context effect) (fun _ c' => c'.file = c.file)
        (fun _ c' => c'.file = c.file ∧ Toward Nic.driver target c.kernel c'.kernel) c₂ := by
    intro context effect c₂ h₂
    exact wp_mono wp_kernelWrite (fun _ c' h => h.1.trans h₂) (fun _ c' h => ⟨h.1.trans h₂, htoward _⟩)
  refine wp_seq (hwrite _ _ c₁ hfile) (fun _ c₂ h₂ => ?_)
  have hunbind : ∀ current, wp (unbindCurrent current) (fun _ c' => c'.file = c.file)
      (fun _ c' => c'.file = c.file ∧ Toward Nic.driver target c.kernel c'.kernel) c₂ := by
    intro current
    cases current with
    | some driver => exact hwrite _ _ c₂ h₂
    | none => exact h₂
  refine wp_seq (hunbind _) (fun _ c₃ h₃ => ?_)
  have hprobe : wp (probeTarget target) (fun _ c' => c'.file = c.file)
      (fun _ c' => c'.file = c.file ∧ Toward Nic.driver target c.kernel c'.kernel) c₃ := by
    unfold probeTarget
    rw [wp_ite]
    exact ⟨fun _ => hwrite _ _ c₃ h₃, fun _ => h₃⟩
  refine wp_seq hprobe (fun _ c₄ h₄ => ?_)
  refine wp_then wp_kernelRead (fun now c₅ h₅ => ?_) (fun _ c' h => ⟨h.2.trans h₄, htoward _⟩)
  obtain ⟨rfl, hkernel₅, hfile₅⟩ := h₅
  rw [wp_ite]
  refine ⟨fun _ => ⟨hfile₅.trans h₄, htoward _⟩, fun heq => ⟨hfile₅.trans h₄, ?_, htoward _⟩⟩
  rw [hkernel₅]
  exact not_not.1 heq

theorem resize_self (pages : Nat) (extent : Extent) : resize pages extent pages = pages := by
  cases extent with
  | none => rfl
  | full => rfl
  | part reached =>
    show max (min pages pages) (min (max pages pages) reached) = pages
    omega

/-- **`write_count`.** -/
theorem sets_writeCount (pages : Nat) : Sets (A := PoolRequest) id pages (writeCount pages) := by
  intro c
  have htoward : ∀ {k : Nat} {extent : Extent}, k = resize pages extent c.kernel → Toward id pages c.kernel k := by
    rintro _ extent rfl (rfl : c.kernel = pages)
    exact resize_self _ _
  refine wp_then wp_kernelWrite (fun _ c₁ h => ?_) (fun _ c' h => ?_)
  · obtain ⟨hfile, extent, -, hkernel⟩ := h
    refine wp_then wp_kernelRead (fun count c₂ h₂ => ?_) (fun _ c' h => ⟨h.2.trans hfile, htoward (h.1.trans hkernel)⟩)
    obtain ⟨rfl, hkernel₂, hfile₂⟩ := h₂
    have hmoved := htoward (hkernel₂.trans hkernel)
    rw [wp_ite]
    refine ⟨fun _ => ⟨hfile₂.trans hfile, hmoved⟩, fun heq => ⟨hfile₂.trans hfile, ?_, hmoved⟩⟩
    rw [hkernel₂]
    exact not_not.1 heq
  · obtain ⟨hfile, extent, hkernel⟩ := h
    exact ⟨hfile, htoward hkernel⟩

/-! ## Prepare and release -/

section
variable {A V K : Type} [DecidableEq A] {observe : K → V} {operationId : String} {target : A}

/-- The snapshot a prepare works with: the one in the file, or a new one. -/
def Begins (observe : K → V) (operationId : String) (target : A) (c : Cell A V K) (s : Snapshot A V) : Prop :=
  (c.file = some s ∧ s.operationId = operationId ∧ s.target = target) ∨
    (c.file = none ∧ s = ⟨resourceStateVersion, operationId, target, observe c.kernel, false⟩)

/-- **A prepare**: when it returns, the value is set and the snapshot is in the file; otherwise the snapshot got there
before the kernel was touched, if it was. -/
theorem wp_prepareWith {read : ExecM (Cell A V K) V}
    {act : ExecM (Cell A V K) Unit} {message : String} {goal : V} {c : Cell A V K}
    (hread : ∀ c, wp read (fun v c' => v = observe c.kernel ∧ Same c c') (fun _ c' => Same c c') c)
      (hact : Sets observe goal act) :
    wp (prepareWith operationId target read message act)
      (fun s c' => Begins observe operationId target c s ∧ s.released = false ∧ c'.file = some s ∧
        SetTo observe goal c.kernel c'.kernel)
      (fun _ c' => Same c c' ∨ ∃ s, Begins observe operationId target c s ∧ s.released = false ∧ c'.file = some s ∧
        Toward observe goal c.kernel c'.kernel) c := by
  have hsnapshot : wp (loadOrSnapshot operationId target read)
      (fun s c' => Begins observe operationId target c s ∧ c'.kernel = c.kernel ∧ c'.file = some s)
      (fun _ c' => Same c c' ∨ ∃ s, Begins observe operationId target c s ∧ s.released = false ∧ c'.file = some s ∧
        Toward observe goal c.kernel c'.kernel) c := by
    unfold loadOrSnapshot
    rw [wp_bind, wp_get, wp_ite]
    constructor
    · intro _
      refine wp_then wp_readState (fun s c' h => ?_) (fun _ _ h => .inl h)
      obtain ⟨hsame, hfile⟩ := h
      rw [wp_ite]
      refine ⟨fun _ => .inl hsame, fun hnot => ?_⟩
      rw [not_or, not_not, not_not] at hnot
      exact ⟨.inl ⟨hfile, hnot⟩, hsame.1, hsame.2.trans hfile⟩
    · intro hnone
      have hfile : c.file = none := by simpa using hnone
      refine wp_then (hread c) (fun v c' h => ?_) (fun _ _ h => .inl h)
      obtain ⟨rfl, hkernel, hfile'⟩ := h
      refine wp_then wp_writeState (fun _ c'' h => ⟨.inr ⟨hfile, rfl⟩, h.1.trans hkernel, h.2⟩) (fun _ c'' h => ?_)
      rcases h.2 with hold | hnew
      · exact .inl ⟨h.1.trans hkernel, hold.trans hfile'⟩
      · exact .inr ⟨_, .inr ⟨hfile, rfl⟩, rfl, hnew, fun _ => h.1.trans hkernel⟩
  refine wp_seq hsnapshot (fun s c₁ h => ?_)
  obtain ⟨hbegins, hkernel, hfile⟩ := h
  rw [wp_ite]
  constructor
  · intro hreleased
    -- only a snapshot that was in the file can be released
    rcases hbegins with ⟨hold, -, -⟩ | ⟨-, rfl⟩
    · exact .inl ⟨hkernel, hfile.trans hold.symm⟩
    · cases hreleased
  · intro hreleased
    have hlive : s.released = false := by simpa using hreleased
    have hself : { s with released := false } = s := by rw [← hlive]
    refine wp_then (hact c₁) (fun _ c₂ h => ?_) (fun _ c₂ h => ?_)
    · obtain ⟨hfile₂, hset⟩ := h
      rw [hkernel] at hset
      rw [hself]
      refine wp_then wp_writeState (fun _ c₃ h => ?_) (fun _ c₃ h => .inr ⟨s, hbegins, hlive, ?_, ?_⟩)
      · refine ⟨hbegins, hlive, h.2, ?_⟩
        rw [h.1]
        exact hset
      · rcases h.2 with hold | hnew
        · exact hold.trans (hfile₂.trans hfile)
        · exact hnew
      · rw [h.1]
        exact hset.2
    · obtain ⟨hfile₂, htoward⟩ := h
      rw [hkernel] at htoward
      exact .inr ⟨s, hbegins, hlive, hfile₂.trans hfile, htoward⟩

omit [DecidableEq A] in
/-- **A release**: it marks the file after the value is back, and changes nothing when the file is marked. -/
theorem wp_releaseWith {conflict : Snapshot A V → Bool}
    {undo : Snapshot A V → ExecM (Cell A V K) Unit} {Back : Snapshot A V → K → Prop} {c : Cell A V K}
    (hundo : ∀ s c, wp (undo s) (fun _ c' => c'.file = c.file ∧ Back s c'.kernel) (fun _ c' => c'.file = c.file) c) :
    wp (releaseWith conflict undo)
      (fun s c' => ∃ s₀, c.file = some s₀ ∧ conflict s₀ = false ∧ s = { s₀ with released := true } ∧ c'.file = some s ∧
        (s₀.released = true → c'.kernel = c.kernel) ∧ (s₀.released = false → Back s₀ c'.kernel))
      (fun _ c' => Same c c' ∨ ∃ s₀, c.file = some s₀ ∧ conflict s₀ = false ∧ s₀.released = false ∧ (c'.file = some s₀ ∨
        c'.file = some { s₀ with released := true } ∧ Back s₀ c'.kernel)) c := by
  unfold releaseWith
  refine wp_then wp_readState (fun s c₁ h => ?_) (fun _ _ h => .inl h)
  obtain ⟨hsame, hfile⟩ := h
  rw [wp_ite]
  refine ⟨fun _ => .inl hsame, fun hconflict => ?_⟩
  have hclear : conflict s = false := by simpa using hconflict
  rw [wp_ite]
  constructor
  · intro hreleased
    have hself : { s with released := true } = s := by rw [← hreleased]
    exact ⟨s, hfile, hclear, hself.symm, hsame.2.trans hfile, fun _ => hsame.1,
      fun hlive => by rw [hreleased] at hlive; cases hlive⟩
  · intro hreleased
    have hlive : s.released = false := by simpa using hreleased
    refine wp_then (hundo s c₁) (fun _ c₂ h => ?_) (fun _ c₂ h => .inr ⟨s, hfile, hclear, hlive, .inl ?_⟩)
    · obtain ⟨hfile₂, hback⟩ := h
      refine wp_then wp_writeState (fun _ c₃ h => ?_) (fun _ c₃ h => .inr ⟨s, hfile, hclear, hlive, ?_⟩)
      · refine ⟨s, hfile, hclear, rfl, h.2, fun hmarked => ?_, fun _ => ?_⟩
        · rw [hlive] at hmarked
          cases hmarked
        · rw [h.1]
          exact hback
      · rcases h.2 with hold | hnew
        · exact .inl (hold.trans (hfile₂.trans (hsame.2.trans hfile)))
        · refine .inr ⟨hnew, ?_⟩
          rw [h.1]
          exact hback
    · exact h.trans (hsame.2.trans hfile)

end

/-! ## Calls of the executor -/

section
variable {R A V K : Type}

def Elsewhere (operationId : String) (resource : R) (b b' : Bank R A V K) : Prop :=
  (∀ r, r ≠ resource → b'.kernel r = b.kernel r) ∧ ∀ o, o ≠ operationId → b'.files o = b.files o

def Unchanged (b b' : Bank R A V K) : Prop := b'.kernel = b.kernel ∧ b'.files = b.files

/-- What a prepare leaves once its snapshot is in the file. -/
structure Prepared (observe : K → V) (resource : R) (operationId : String) (target : A) (Moves : K → K → Prop)
    (b b' : Bank R A V K) (s : Snapshot A V) : Prop where
  before : (b.files operationId = some s ∧ s.operationId = operationId ∧ s.target = target) ∨
    (b.files operationId = none ∧ s = ⟨resourceStateVersion, operationId, target, observe (b.kernel resource), false⟩)
  live : s.released = false
  after : b'.files operationId = some s
  moves : Moves (b.kernel resource) (b'.kernel resource)
  elsewhere : Elsewhere operationId resource b b'

/-- What a release leaves once it has read the snapshot `s₀`. -/
structure Released (resource : A → R) (Back : Snapshot A V → K → Prop) (operationId : String)
    (b b' : Bank R A V K) (s₀ s : Snapshot A V) : Prop where
  before : b.files operationId = some s₀
  after : b'.files operationId = some s
  moves : (s = s₀ ∧ (s₀.released = true → b'.kernel (resource s₀.target) = b.kernel (resource s₀.target))) ∨
    (s₀.released = false ∧ s = { s₀ with released := true } ∧ Back s₀ (b'.kernel (resource s₀.target)))
  elsewhere : Elsewhere operationId (resource s₀.target) b b'

variable [DecidableEq R]

variable {b : Bank R A V K} {c : Cell A V K} {operationId : String} {resource : R}

theorem elsewhere_setCell : Elsewhere operationId resource b (b.setCell operationId resource c) :=
  ⟨fun _ h => Function.update_of_ne h _ _, fun _ h => Function.update_of_ne h _ _⟩

theorem setCell_kernel :
    (b.setCell operationId resource c).kernel resource = c.kernel := Function.update_self ..

theorem setCell_file :
    (b.setCell operationId resource c).files operationId = c.file := Function.update_self ..

theorem unchanged_of_same (h : Same (b.cell operationId resource) c) :
    Unchanged b (b.setCell operationId resource c) := by
  obtain ⟨hkernel, hfile⟩ := h
  constructor
  · show Function.update b.kernel resource c.kernel = b.kernel
    rw [hkernel]
    exact Function.update_eq_self _ _
  · show Function.update b.files operationId c.file = b.files
    rw [hfile]
    exact Function.update_eq_self _ _

theorem wp_onCell_prepare [DecidableEq A] {observe : K → V} {target : A} {goal : V} {message : String}
    {read : ExecM (Cell A V K) V} {act : ExecM (Cell A V K) Unit}
    (hread : ∀ c, wp read (fun v c' => v = observe c.kernel ∧ Same c c') (fun _ c' => Same c c') c)
      (hact : Sets observe goal act) :
    wp (onCell operationId resource (prepareWith operationId target read message act))
      (fun s b' => Prepared observe resource operationId target (SetTo observe goal) b b' s)
      (fun _ b' => Unchanged b b' ∨ ∃ s, Prepared observe resource operationId target (Toward observe goal)
        b b' s) b := by
  unfold onCell
  rw [wp_zoom]
  refine wp_mono (wp_prepareWith hread hact) (fun s c' h => ?_) (fun _ c' h => ?_)
  · obtain ⟨hbegins, hlive, hfile, hset⟩ := h
    refine ⟨hbegins, hlive, setCell_file.trans hfile, ?_, elsewhere_setCell⟩
    rw [setCell_kernel]
    exact hset
  · rcases h with hsame | ⟨s, hbegins, hlive, hfile, htoward⟩
    · exact .inl (unchanged_of_same hsame)
    · refine .inr ⟨s, hbegins, hlive, setCell_file.trans hfile, ?_, elsewhere_setCell⟩
      rw [setCell_kernel]
      exact htoward

theorem wp_onCell_release {conflict : Snapshot A V → Bool}
    {undo : Snapshot A V → ExecM (Cell A V K) Unit} {Back : Snapshot A V → K → Prop} {resource : A → R} {r : R}
    (hundo : ∀ s c, wp (undo s) (fun _ c' => c'.file = c.file ∧ Back s c'.kernel) (fun _ c' => c'.file = c.file) c)
    (hresource : ∀ s, b.files operationId = some s → conflict s = false → r = resource s.target) :
    wp (onCell operationId r (releaseWith conflict undo))
      (fun _ b' => ∃ s₀ s, Released resource Back operationId b b' s₀ s ∧ s.released = true)
      (fun _ b' => Unchanged b b' ∨ ∃ s₀ s, Released resource Back operationId b b' s₀ s) b := by
  unfold onCell
  rw [wp_zoom]
  refine wp_mono (wp_releaseWith hundo) (fun s c' h => ?_) (fun _ c' h => ?_)
  · obtain ⟨s₀, hbefore, hclear, rfl, hafter, hmarked, hback⟩ := h
    obtain rfl := hresource s₀ hbefore hclear
    refine ⟨s₀, _, ⟨hbefore, setCell_file.trans hafter, ?_, elsewhere_setCell⟩, rfl⟩
    rw [setCell_kernel]
    cases hreleased : s₀.released with
    | false => exact .inr ⟨rfl, rfl, hback hreleased⟩
    | true =>
      have hself : { s₀ with released := true } = s₀ := by rw [← hreleased]
      exact .inl ⟨hself, fun _ => hmarked hreleased⟩
  · rcases h with hsame | ⟨s₀, hbefore, hclear, hlive, hafter | ⟨hafter, hback⟩⟩
    · exact .inl (unchanged_of_same hsame)
    · obtain rfl := hresource s₀ hbefore hclear
      refine .inr ⟨s₀, s₀, hbefore, setCell_file.trans hafter, .inl ⟨rfl, fun hreleased => ?_⟩, elsewhere_setCell⟩
      rw [hlive] at hreleased
      cases hreleased
    · obtain rfl := hresource s₀ hbefore hclear
      refine .inr ⟨s₀, _, hbefore, setCell_file.trans hafter, .inr ⟨hlive, rfl, ?_⟩, elsewhere_setCell⟩
      rw [setCell_kernel]
      exact hback

end

/-- A kind of resource: how the executor prepares and releases one, and what it promises about both. -/
structure Kind (R A V K : Type) where
  resource : A → R
  observe : K → V
  /-- What a release leaves besides the value. -/
  Clean : K → Prop
  goal : A → V
  validate : A → Result Unit
  refusal : NetToolError
  prepare : String → A → ExecM (Bank R A V K) ValueResult
  release : String → A → ExecM (Bank R A V K) ValueResult
  prepares : ∀ operationId target b, wp (prepare operationId target)
    (fun _ b' => validate target = .ok () ∧
      ∃ s, Prepared observe (resource target) operationId target (SetTo observe (goal target)) b b' s)
    (fun _ b' => Unchanged b b' ∨ (validate target = .ok () ∧
      ∃ s, Prepared observe (resource target) operationId target (Toward observe (goal target)) b b' s)) b
  releases : ∀ operationId target b, wp (release operationId target)
    (fun _ b' => ∃ s₀ s, Released resource (fun s k => observe k = s.original ∧ Clean k) operationId b b' s₀ s ∧
      s.released = true)
    (fun _ b' => Unchanged b b' ∨ ∃ s₀ s, Released resource (fun s k => observe k = s.original ∧ Clean k)
      operationId b b' s₀ s) b
  refuses : ∀ operationId s b, validate s.target = .ok () → b.files operationId = some s → s.operationId = operationId →
    s.released = true → b.faults = [] → (prepare operationId s.target b).1 = .error (.error refusal)

theorem prepareWith_released {A V K : Type} [DecidableEq A] {operationId message : String} {s : Snapshot A V}
    {read : ExecM (Cell A V K) V} {act : ExecM (Cell A V K) Unit} {c : Cell A V K}
    (hfile : c.file = some s) (hid : s.operationId = operationId) (hreleased : s.released = true)
      (hfaults : c.faults = []) :
    prepareWith operationId s.target read message act c = (.error (.error (.new .invalidState message false)), c) := by
  have hread : readState c = (.ok s, c) := by
    obtain ⟨kernel, file, faults⟩ := c
    subst hfile hfaults
    rfl
  have hload : loadOrSnapshot operationId s.target read c = (.ok s, c) := by
    unfold loadOrSnapshot
    rw [get_bind, if_pos (by rw [hfile]; rfl), bind_of_ok hread, if_neg (by simp [hid])]
    rfl
  unfold prepareWith
  rw [bind_of_ok hload, if_pos hreleased]
  rfl

theorem onCell_error {R A V K α : Type} [DecidableEq R] {operationId : String} {r : R} {e : Halt NetToolError}
    {c : Cell A V K} {m : ExecM (Cell A V K) α} {b : Bank R A V K} (h : m (b.cell operationId r) = (.error e, c)) :
    onCell operationId r m b = (.error e, b.setCell operationId r c) := by
  unfold onCell zoom
  rw [h]

theorem wp_orStop {σ α : Type} {r : Result Unit} {m : ExecM σ α} {Q : α → σ → Prop}
    {E : Halt NetToolError → σ → Prop} {s : σ} (hE : ∀ e, E e s) (hm : r = .ok () → wp m Q E s) :
    wp (do orStop r; m) Q E s := by
  unfold orStop
  rw [wp_bind, wp_ofExcept]
  exact ⟨fun _ h => hm (Check.mapError_ok.1 h), fun e _ => hE e⟩

/-- `prepare_dpdk` and `restore_driver`. -/
def nics : Kind String String (Option String) Nic where
  resource := id
  observe := Nic.driver
  Clean nic := nic.override = none
  goal _ := some dpdkDriver
  validate := validatePciAddress
  refusal := .new .invalidState "NIC prepare operation was already released" false
  prepare := prepareDpdk
  release := restoreDriver
  prepares operationId pciAddress b := by
    refine wp_orStop (fun _ => .inl ⟨rfl, rfl⟩) fun hvalid => ?_
    exact wp_then (wp_onCell_prepare (fun c => wp_kernelRead) (sets_bindDriver _)) (fun s b' h => ⟨hvalid, s, h⟩)
      (fun _ b' h => h.imp id (fun h => ⟨hvalid, h⟩))
  releases operationId pciAddress b := by
    refine wp_orStop (fun _ => .inl ⟨rfl, rfl⟩) fun _ => ?_
    rw [wp_bind]
    refine wp_onCell_release (fun s c => ?_) (fun s _ hclear => ?_)
    · refine wp_then (sets_bindDriver s.original c) (fun _ c₁ h => ?_) (fun _ _ h => h.1)
      obtain ⟨hfile, hset, -⟩ := h
      refine wp_mono wp_kernelWrite (fun _ c₂ h => ?_) (fun _ _ h => h.1.trans hfile)
      obtain ⟨hfile₂, extent, hextent, hkernel⟩ := h
      refine ⟨hfile₂.trans hfile, ?_⟩
      rw [hkernel]
      cases extent with
      | none => exact absurd rfl hextent
      | part reached => exact ⟨hset, rfl⟩
      | full => exact ⟨hset, rfl⟩
    · simp only [Bool.or_eq_false_iff, bne_eq_false_iff_eq] at hclear
      exact hclear.2.symm
  refuses operationId s b hvalid hfile hid hreleased hfaults := by
    have hstop : orStop (validatePciAddress s.target) b = (.ok (), b) := by rw [hvalid]; rfl
    show (prepareDpdk operationId s.target b).1 = _
    unfold prepareDpdk
    rw [bind_of_ok hstop]
    exact congrArg Prod.fst (bind_of_error (onCell_error (prepareWith_released hfile hid hreleased hfaults)) _)

/-- `prepare_hugepages` and `release_hugepages`. -/
def pools : Kind Pool PoolRequest Nat Nat where
  resource := PoolRequest.pool
  observe := id
  Clean _ := True
  goal := PoolRequest.requestedPages
  validate request := validateHugepages request.requestedPages request.pool.pageSizeKib
  refusal := .new .invalidState "Huge Page prepare operation was already released" false
  prepare := prepareHugepages
  release operationId _ := releaseHugepages operationId
  prepares operationId request b := by
    refine wp_orStop (fun _ => .inl ⟨rfl, rfl⟩) fun hvalid => ?_
    exact wp_then (wp_onCell_prepare (fun c => wp_kernelRead) (sets_writeCount _)) (fun s b' h => ⟨hvalid, s, h⟩)
      (fun _ b' h => h.imp id (fun h => ⟨hvalid, h⟩))
  releases operationId _ b := by
    unfold releaseHugepages
    rw [wp_bind, wp_get, wp_bind]
    refine wp_onCell_release (fun s c => wp_mono (sets_writeCount s.original c) (fun _ _ h => ⟨h.1, h.2.1, trivial⟩)
      (fun _ _ h => h.1)) (fun s hfile _ => ?_)
    rw [hfile]
    rfl
  refuses operationId s b hvalid hfile hid hreleased hfaults := by
    have hstop : orStop (validateHugepages s.target.requestedPages s.target.pool.pageSizeKib) b =
      (.ok (), b) := by rw [hvalid]; rfl
    show (prepareHugepages operationId s.target b).1 = _
    unfold prepareHugepages
    rw [bind_of_ok hstop]
    exact congrArg Prod.fst (bind_of_error (onCell_error (prepareWith_released hfile hid hreleased hfaults)) _)

end LinuxResources
end NetTool
