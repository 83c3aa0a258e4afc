import NetTool.Lib.Run
/-!
# Agent.Captures — capture children, their rows and their reapers (`action_packet.rs`, `crates/storage/src/lib.rs`)

A capture has a row in `packet_session` and a child process.  The child has one owner at a time: the start action, the
map of tracked children, the stop action, or a reaper that has seen it exit.  The events are what the actions and
reapers do between two awaits, in any order.  An action that fails drops the child and leaves the row `running`
(`capture_tracked_iff`), and a reaper never ends (`reapers_bounded_iff`).
-/
namespace NetTool
namespace Agent

inductive PacketState
  | running | completed | failed | canceled
  deriving DecidableEq

inductive ChildOwner
  | starting
  | tracked
  | stopping
  | reaped (reaper : Nat) (success : Bool)
  deriving DecidableEq

/-- A row of `packet_session`, running until its `completed_at` is set, and who holds the child. -/
structure Capture where
  row : Option PacketState
  owner : Option ChildOwner

structure Captures where
  sessions : String → Capture
  reapers : Nat

/-- A session ID is drawn at random for each start, so a start finds a row under its ID only by a conflict. -/
inductive CaptureEvent
  | begin (id : String)
  | spawnFails (id : String)
  | launch (id : String)
  | stop (id : String)
  | killFails (id : String)
  | killed (id : String)
  /-- A reaper's look at every tracked child; `exits` is what `try_wait` says of each. -/
  | scan (reaper : Nat) (exits : String → Option Bool)
  | store (reaper : Nat)

/-- `complete_packet_session`: only a row without `completed_at` is written. -/
def completePacketSession (state : PacketState) (row : Option PacketState) : Option PacketState :=
  if row = some .running then some state else row

def Capture.step (s : Capture) (id : String) : CaptureEvent → Capture
  | .begin id' => if id' = id ∧ s.row = none then ⟨some .running, some .starting⟩ else s
  | .spawnFails id' => if id' = id ∧ s.owner = some .starting then { s with owner := none } else s
  | .launch id' => if id' = id ∧ s.owner = some .starting then { s with owner := some .tracked } else s
  | .stop id' => if id' = id ∧ s.owner = some .tracked then { s with owner := some .stopping } else s
  | .killFails id' => if id' = id ∧ s.owner = some .stopping then { s with owner := none } else s
  | .killed id' =>
    if id' = id ∧ s.owner = some .stopping then ⟨completePacketSession .canceled s.row, none⟩ else s
  | .scan reaper exits =>
    match s.owner, exits id with
    | some .tracked, some success => { s with owner := some (.reaped reaper success) }
    | _, _ => s
  | .store reaper =>
    match s.owner with
    | some (.reaped reaper' success) =>
      if reaper' = reaper then ⟨completePacketSession (if success then .completed else .failed) s.row, none⟩ else s
    | _ => s

/-- The start action inserts the child and spawns one more reaper. -/
def CaptureEvent.launches (c : Captures) : CaptureEvent → Bool
  | .launch id => (c.sessions id).owner == some .starting
  | _ => false

/-- A reaper has no way out of its loop. -/
def Captures.step (c : Captures) (e : CaptureEvent) : Captures where
  sessions := fun id => (c.sessions id).step id e
  reapers := c.reapers + if e.launches c then 1 else 0

/-- An Agent process starts with the rows of its predecessors and no child. -/
def Captures.new (rows : String → Option PacketState) : Captures := ⟨fun id => ⟨rows id, none⟩, 0⟩

def capturesAfter (rows : String → Option PacketState) (events : List CaptureEvent) : Captures :=
  events.foldl Captures.step (.new rows)

/-! ## One session -/

section
variable {s s' : Capture} {id : String}

/-- A failed spawn or kill: the child is dropped. -/
def CaptureEvent.Drops (s : Capture) (id : String) : CaptureEvent → Prop
  | .spawnFails id' => id' = id ∧ s.owner = some .starting
  | .killFails id' => id' = id ∧ s.owner = some .stopping
  | _ => False

inductive Capture.Moves (s : Capture) (drops : Prop) : Capture → Prop
  | same (h : ¬ drops) : Moves s drops s
  | begun (h : ¬ drops) (hnew : s.row = none) : Moves s drops ⟨some .running, some .starting⟩
  | handed (h : ¬ drops) (o o' : ChildOwner) (ho : s.owner = some o) : Moves s drops { s with owner := some o' }
  | completed (h : ¬ drops) (o : ChildOwner) (ho : s.owner = some o) (state : PacketState) (hstate : state ≠ .running) :
      Moves s drops ⟨completePacketSession state s.row, none⟩
  | dropped (h : drops) (o : ChildOwner) (ho : s.owner = some o) : Moves s drops { s with owner := none }

theorem Capture.step_moves (s : Capture) (id : String) (e : CaptureEvent) : s.Moves (e.Drops s id) (s.step id e) := by
  cases e with
  | begin id' =>
    rw [Capture.step]
    split
    · exact .begun not_false (‹_ ∧ _›).2
    · exact .same not_false
  | launch id'
  | stop id' =>
    rw [Capture.step]
    split
    · exact .handed not_false _ _ (‹_ ∧ _›).2
    · exact .same not_false
  | spawnFails id'
  | killFails id' =>
    rw [Capture.step]
    split
    · exact .dropped ‹_ ∧ _› _ (‹_ ∧ _›).2
    · exact .same ‹_›
  | killed id' =>
    rw [Capture.step]
    split
    · exact .completed not_false _ (‹_ ∧ _›).2 _ (by simp)
    · exact .same not_false
  | scan reaper exits =>
    rw [Capture.step]
    split
    · exact .handed not_false _ _ ‹_›
    · exact .same not_false
  | store reaper =>
    rw [Capture.step]
    split
    · split
      · exact .completed not_false _ ‹_› _ (by split <;> simp)
      · exact .same not_false
    · exact .same not_false

/-- The row of a child that has an owner is running and of this process. -/
structure Capture.Sound (before : Option PacketState) (s : Capture) : Prop where
  owned : ∀ o, s.owner = some o → before = none ∧ s.row = some .running
  fresh : s.row = none → before = none

def Capture.Orphan (s : Capture) : Prop := s.row = some .running ∧ s.owner = none

variable {before : Option PacketState} {drops : Prop}

theorem Capture.Sound.moves (hs : s.Sound before) (h : s.Moves drops s') : s'.Sound before := by
  cases h with
  | same => exact hs
  | begun _ hnew => exact ⟨fun _ _ => ⟨hs.fresh hnew, rfl⟩, fun hr => nomatch hr⟩
  | handed _ o o' ho => exact ⟨fun _ _ => hs.owned o ho, hs.fresh⟩
  | completed _ o ho => exact ⟨fun _ ho' => (nomatch ho'), fun _ => (hs.owned o ho).1⟩
  | dropped _ o ho => exact ⟨fun _ ho' => (nomatch ho'), hs.fresh⟩

/-- **A session is orphaned by a dropped child, and stays so.** -/
theorem Capture.Sound.orphan_iff (hs : s.Sound before) (h : s.Moves drops s') : s'.Orphan ↔ s.Orphan ∨ drops := by
  have howned : ∀ {o}, s.owner = some o → ¬ s.Orphan := fun ho horphan => by rw [horphan.2] at ho; cases ho
  cases h with
  | same hnot => exact ⟨.inl, fun h => h.resolve_right hnot⟩
  | begun hnot hnew =>
    exact iff_of_false (fun h => nomatch h.2) (not_or.2 ⟨fun h => (nomatch hnew.symm.trans h.1), hnot⟩)
  | handed hnot o o' ho => exact iff_of_false (fun h => nomatch h.2) (not_or.2 ⟨howned ho, hnot⟩)
  | completed hnot o ho state hstate =>
    refine iff_of_false (fun h => ?_) (not_or.2 ⟨howned ho, hnot⟩)
    have hrow : completePacketSession state s.row = some .running := h.1
    rw [completePacketSession, if_pos (hs.owned o ho).2, Option.some.injEq] at hrow
    exact hstate hrow
  | dropped hdrops o ho => exact iff_of_true ⟨(hs.owned o ho).2, rfl⟩ (.inr hdrops)

end

/-! ## Rows and children -/

/-- No action and no reaper holds a child. -/
def Captures.Quiet (c : Captures) : Prop := ∀ id o, (c.sessions id).owner = some o → o = .tracked

/-- A session of this process is running if and only if its child is tracked. -/
def Captures.Kept (rows : String → Option PacketState) (c : Captures) : Prop :=
  ∀ id, rows id = none → ((c.sessions id).row = some .running ↔ (c.sessions id).owner = some .tracked)

/-- No spawn and no kill of the run fails. -/
def NoneDropped : Captures → List CaptureEvent → Prop :=
  Allowed Captures.step (fun c e => ∀ id, ¬ e.Drops (c.sessions id) id)

section
variable {rows : String → Option PacketState} {c : Captures}

def Captures.Sound (rows : String → Option PacketState) (c : Captures) : Prop := ∀ id, (c.sessions id).Sound (rows id)

theorem Captures.sound_new (rows : String → Option PacketState) : (Captures.new rows).Sound rows :=
  fun _ => ⟨fun _ ho => (nomatch ho), fun hr => hr⟩

section
variable (h : c.Sound rows)
include h

theorem Captures.Sound.step (e : CaptureEvent) : (c.step e).Sound rows :=
  fun id => (h id).moves (Capture.step_moves _ id e)

theorem Captures.Sound.run {events : List CaptureEvent} : (events.foldl Captures.step c).Sound rows := by
  induction events generalizing c with
  | nil => exact h
  | cons e events ih => exact ih (h.step e)

def Captures.Orphaned (rows : String → Option PacketState) (c : Captures) : Prop :=
  ∃ id, rows id = none ∧ (c.sessions id).Orphan

theorem Captures.Sound.orphaned_step (e : CaptureEvent) :
    (c.step e).Orphaned rows ↔ c.Orphaned rows ∨ ∃ id, e.Drops (c.sessions id) id := by
  have hone := fun id => (h id).orphan_iff (Capture.step_moves _ id e)
  constructor
  · rintro ⟨id, hnew, horphan⟩
    exact ((hone id).1 horphan).imp (fun h => ⟨id, hnew, h⟩) (fun h => ⟨id, h⟩)
  · rintro (⟨id, hnew, horphan⟩ | ⟨id, hdrops⟩)
    · exact ⟨id, hnew, (hone id).2 (.inl horphan)⟩
    · have howned : ∃ o, (c.sessions id).owner = some o := by
        cases e <;> first | exact hdrops.elim | exact ⟨_, hdrops.2⟩
      exact ⟨id, ((h id).owned _ howned.choose_spec).1, (hone id).2 (.inr hdrops)⟩

theorem Captures.Sound.orphaned_run {events : List CaptureEvent} :
    (events.foldl Captures.step c).Orphaned rows ↔ c.Orphaned rows ∨ ¬ NoneDropped c events := by
  induction events generalizing c with
  | nil => exact ⟨.inl, fun h => h.resolve_right (fun hno => hno trivial)⟩
  | cons e events ih =>
    have hcons : NoneDropped c (e :: events) ↔ (∀ id, ¬ e.Drops (c.sessions id) id) ∧
      NoneDropped (c.step e) events := Iff.rfl
    rw [List.foldl_cons, ih (h.step e), h.orphaned_step, hcons, not_and_or, not_forall_not, ← or_assoc]

/-- Between actions a running session without a tracked child is an orphan. -/
theorem Captures.Sound.kept_iff (hquiet : c.Quiet) : c.Kept rows ↔ ¬ c.Orphaned rows := by
  constructor
  · rintro hkept ⟨id, hnew, hrow, howner⟩
    rw [(hkept id hnew).1 hrow] at howner
    cases howner
  · intro hnone id hnew
    refine ⟨fun hrow => ?_, fun howner => ((h id).owned _ howner).2⟩
    cases howner : (c.sessions id).owner with
    | none => exact absurd ⟨id, hnew, hrow, howner⟩ hnone
    | some o => rw [hquiet id o howner]

end

end

/-- **Between actions a session is running if and only if its child is tracked, in the runs where no spawn and no kill
fails.** -/
theorem capture_tracked_iff (rows : String → Option PacketState) (events : List CaptureEvent)
    (hquiet : (capturesAfter rows events).Quiet) :
    (capturesAfter rows events).Kept rows ↔ NoneDropped (.new rows) events := by
  have hnew : ¬ (Captures.new rows).Orphaned rows := by
    rintro ⟨id, hnone, hrow, -⟩
    exact nomatch hnone.symm.trans hrow
  have hsound := Captures.sound_new rows
  have hkept : (capturesAfter rows events).Kept rows ↔ ¬ (capturesAfter rows events).Orphaned rows :=
    hsound.run.kept_iff hquiet
  rw [hkept, capturesAfter, hsound.orphaned_run, not_or, not_not]
  exact ⟨fun h => h.2, fun h => ⟨hnew, h⟩⟩

theorem capture_tracked_iff_launched :
    (capturesAfter (fun _ => none) [.begin "a", .launch "a"]).Quiet ∧
    (capturesAfter (fun _ => none) [.begin "a", .launch "a"]).Kept (fun _ => none) := by
  have hquiet : (capturesAfter (fun _ => none) [.begin "a", .launch "a"]).Quiet := by
    intro id o ho
    by_cases h : "a" = id
    · simp_all [capturesAfter, Captures.step, Capture.step, Captures.new]
    · simp [capturesAfter, Captures.step, Capture.step, Captures.new, h] at ho
  exact ⟨hquiet, (capture_tracked_iff _ _ hquiet).2 ⟨fun _ h => h, fun _ h => h, trivial⟩⟩

/-- A spawn that fails leaves a running session without a child. -/
theorem failed_spawn_stays_running :
    (capturesAfter (fun _ => none) [.begin "a", .spawnFails "a"]).Quiet ∧
    ¬ (capturesAfter (fun _ => none) [.begin "a", .spawnFails "a"]).Kept (fun _ => none) := by
  constructor
  · intro id o ho
    by_cases h : "a" = id <;> simp [capturesAfter, Captures.step, Capture.step, Captures.new, h] at ho
  · intro hkept
    have howner := (hkept "a" rfl).1 rfl
    revert howner
    decide

/-! ## Reapers -/

def CaptureEvent.isLaunch : CaptureEvent → Bool
  | .launch _ => true
  | _ => false

/-- The child of the session is taken out of the map, by a stop or by a reaper that sees its exit. -/
def CaptureEvent.Untracks (id : String) : CaptureEvent → Prop
  | .stop id' => id' = id
  | .scan _ exits => exits id ≠ none
  | _ => False

/-- Every launch of the run is that of a start that has not failed. -/
def Performed : Captures → List CaptureEvent → Prop :=
  Allowed Captures.step (fun c e => e.isLaunch → e.launches c)

/-- The capture is launched in the run, and then neither stopped nor seen to exit. -/
def Outlasts (id : String) (events : List CaptureEvent) : Prop :=
  ∃ earlier later, events = earlier ++ .launch id :: later ∧ ∀ e ∈ later, ¬ e.Untracks id

/-- No more than `bound` reapers are live, and none when no child is tracked. -/
def Captures.Frugal (bound : Nat) (c : Captures) : Prop :=
  c.reapers ≤ bound ∧ ((∀ id, (c.sessions id).owner ≠ some .tracked) → c.reapers = 0)

section
variable {id : String} {e : CaptureEvent} {events : List CaptureEvent} {c : Captures}

theorem outlasts_cons :
    Outlasts id (e :: events) ↔ (e = .launch id ∧ ∀ e ∈ events, ¬ e.Untracks id) ∨ Outlasts id events := by
  unfold Outlasts
  simp only [List.cons_eq_append_iff]
  constructor
  · rintro ⟨_, later, ⟨rfl, h⟩ | ⟨earlier, rfl, rfl⟩, hlater⟩
    · cases h
      exact .inl ⟨rfl, hlater⟩
    · exact .inr ⟨earlier, later, rfl, hlater⟩
  · rintro (⟨rfl, hlater⟩ | ⟨earlier, later, rfl, hlater⟩)
    · exact ⟨[], events, .inl ⟨rfl, rfl⟩, hlater⟩
    · exact ⟨e :: earlier, later, .inr ⟨earlier, rfl, rfl⟩, hlater⟩

theorem Capture.Sound.tracked_step {s : Capture} {before : Option PacketState} (hs : s.Sound before) :
    (s.step id e).owner = some .tracked ↔
      (e = .launch id ∧ s.owner = some .starting) ∨ (s.owner = some .tracked ∧ ¬ e.Untracks id) := by
  have hrow : s.row = none → s.owner ≠ some .tracked :=
    fun hnone howner => nomatch hnone.symm.trans (hs.owned _ howner).2
  cases e with
  | scan reaper exits => cases hexit : exits id <;> grind [Capture.step, CaptureEvent.Untracks]
  | _ => grind [Capture.step, CaptureEvent.Untracks]

/-- **A child is tracked from its launch until a stop or a reaper takes it.** -/
theorem tracked_foldl {rows : String → Option PacketState} (hs : c.Sound rows) (h : Performed c events) :
    ((events.foldl Captures.step c).sessions id).owner = some .tracked ↔
      ((c.sessions id).owner = some .tracked ∧ ∀ e ∈ events, ¬ e.Untracks id) ∨ Outlasts id events := by
  induction events generalizing c with
  | nil => simp [Outlasts]
  | cons e events ih =>
    have hlaunch : e = .launch id → (c.sessions id).owner = some .starting := by
      rintro rfl
      exact eq_of_beq (h.1 rfl)
    rw [List.foldl_cons, ih (hs.step e) h.2, outlasts_cons, List.forall_mem_cons]
    show ((c.sessions id).step id e).owner = _ ∧ _ ∨ _ ↔ _
    rw [(hs id).tracked_step]
    tauto

/-- **No reaper ends.** -/
theorem reapers_foldl (h : Performed c events) :
    (events.foldl Captures.step c).reapers = c.reapers + events.countP (·.isLaunch) := by
  induction events generalizing c with
  | nil => rfl
  | cons e events ih =>
    have hlaunch : e.launches c = e.isLaunch := by
      cases he : e.isLaunch with
      | true => exact h.1 he
      | false => cases e <;> first | rfl | cases he
    rw [List.foldl_cons, ih h.2, List.countP_cons, ← hlaunch]
    show c.reapers + _ + _ = _
    omega

end

/-- **The reapers are bounded by the launches only, and one is left over unless nothing was launched or some capture is
neither stopped nor seen to exit.** -/
theorem reapers_bounded_iff (rows : String → Option PacketState) (events : List CaptureEvent) (bound : Nat)
    (h : Performed (.new rows) events) :
    (capturesAfter rows events).Frugal bound ↔
      events.countP (·.isLaunch) ≤ bound ∧ (events.countP (·.isLaunch) = 0 ∨ ∃ id, Outlasts id events) := by
  have hcount : (capturesAfter rows events).reapers = events.countP (·.isLaunch) :=
    (reapers_foldl h).trans (Nat.zero_add _)
  have htracked : ∀ id, ((capturesAfter rows events).sessions id).owner = some .tracked ↔ Outlasts id events :=
    fun id => (tracked_foldl (Captures.sound_new rows) h).trans (or_iff_right fun h => nomatch h.1)
  unfold Captures.Frugal
  rw [hcount]
  simp only [ne_eq, htracked]
  rw [← not_exists, ← or_iff_not_imp_left, or_comm]

/-- Two captures, of which the second goes on. -/
theorem reapers_bounded_iff_two : (capturesAfter (fun _ => none) [.begin "a", .launch "a", .begin "b", .launch "b",
    .stop "a", .killed "a"]).Frugal 2 := by
  refine (reapers_bounded_iff _ _ 2 (by unfold Performed; decide)).2 ⟨by decide, .inr ⟨"b",
    [.begin "a", .launch "a", .begin "b"], [.stop "a", .killed "a"], rfl, ?_⟩⟩
  simp [CaptureEvent.Untracks]

/-- Captures that are started one after another, each seen to exit before the next. -/
def oneByOne : Nat → Nat → List CaptureEvent
  | _, 0 => []
  | k, n + 1 =>
    .begin (.ofList (.replicate k 'a')) :: .launch (.ofList (.replicate k 'a')) :: .scan 0 (fun _ => some true) ::
      oneByOne (k + 1) n

theorem performed_oneByOne (n : Nat) : ∀ {k : Nat} {c : Captures},
    (∀ m, k ≤ m → c.sessions (.ofList (.replicate m 'a')) = ⟨none, none⟩) → Performed c (oneByOne k n) := by
  induction n with
  | zero => exact fun _ => trivial
  | succ n ih =>
    intro k c hfresh
    refine ⟨(nomatch ·), fun _ => ?_, (nomatch ·), ih fun m hm => ?_⟩
    · show (((c.sessions _).step _ (.begin _)).owner == some .starting) = true
      rw [hfresh k (Nat.le_refl k)]
      simp [Capture.step]
    · have hne : String.ofList (.replicate k 'a') ≠ String.ofList (.replicate m 'a') := by
        intro heq
        have hlength := congrArg List.length (String.ofList_injective heq)
        simp at hlength
        omega
      simp [Captures.step, hfresh m (by omega), Capture.step, hne]

theorem countP_oneByOne (k n : Nat) : (oneByOne k n).countP (·.isLaunch) = n := by
  induction n generalizing k with
  | zero => rfl
  | succ n ih =>
    rw [oneByOne, List.countP_cons, List.countP_cons, List.countP_cons, ih]
    rfl

theorem not_outlasts_oneByOne (id : String) (k n : Nat) : ¬ Outlasts id (oneByOne k n) := by
  induction n generalizing k with
  | zero => simp [oneByOne, Outlasts]
  | succ n ih => simp [oneByOne, outlasts_cons, CaptureEvent.Untracks, ih]

/-- No constant bounds the reapers, not even those of the runs that leave no child tracked. -/
theorem exited_captures_leave_reapers : ¬ ∃ bound, ∀ events, Performed (.new fun _ => none) events →
    (∀ id, ((capturesAfter (fun _ => none) events).sessions id).owner ≠ some .tracked) →
    (capturesAfter (fun _ => none) events).reapers ≤ bound := by
  rintro ⟨bound, hbound⟩
  have hperformed : Performed (.new fun _ => none) (oneByOne 0 (bound + 1)) := performed_oneByOne _ fun _ _ => rfl
  have hle := hbound _ hperformed (fun id htracked => ?_)
  · rw [capturesAfter, reapers_foldl hperformed, countP_oneByOne] at hle
    omega
  · rcases (tracked_foldl (Captures.sound_new _) hperformed).1 htracked with h | h
    · exact nomatch h.1
    · exact not_outlasts_oneByOne _ _ _ h

end Agent
end NetTool
