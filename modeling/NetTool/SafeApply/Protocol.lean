import NetTool.SafeApply.Model
import Mathlib.Logic.Relation
import Mathlib.Data.List.Nodup
/-!
# SafeApply.Protocol — what one indivisible move of Safe Apply can do

The abstract side.  A `Ledger` is the record list in memory, the one in the state file, and the events so far.  A `Move`
is one change of it together with what must have happened before: a restore starts only for a record that memory and
file both show as `RollingBack`, a record becomes `RolledBack` only after a restore returned success, and so on.
`Ledger.Inv` is the invariant of every sequence of moves, wherever the sequence is cut.  `SafeApply.Refine` shows that
every call of the manager is such a sequence.

`since op` is the part of the history that belongs to the current life of an operation ID: the events after it was last
put on the list.  An ID can be put on the list twice when the first attempt never reached the disk.
-/
namespace NetTool
namespace SafeApply

open List

open Helper (NetworkDesiredState)
open Relation (ReflTransGen)

/-! ## History -/

def Event.begins (op : String) : Event → Bool
  | .begun o _ => o = op
  | _          => false

/-- The events after `op` was last put on the list, newest first. -/
def since (op : String) : List Event → List Event
  | []      => []
  | e :: es => if e.begins op then [] else e :: since op es

/-- The desired state `op` was last put on the list with. -/
def desiredOf (op : String) : List Event → Option NetworkDesiredState
  | []                => none
  | .begun o d :: es  => if o = op then some d else desiredOf op es
  | _ :: es           => desiredOf op es

/-- The answers of the executor: the events no guard of the protocol speaks about. -/
def Event.isAnswer : Event → Bool
  | .applied _ _ | .applyFailed _ | .verified _ _ | .verifyFailed _ | .restored _ _ | .restoreFailed _ _ => true
  | _ => false

def Event.isRestoreOf (op : String) : Event → Bool
  | .restoreStarted o _ | .restored o _ | .restoreFailed o _ => o = op
  | _ => false

variable {e : Event} {op : String} {es : List Event}

theorem since_cons (h : e.begins op = false) (es : List Event) : since op (e :: es) = e :: since op es := by
  simp [since, h]

theorem mem_since_head (h : e.begins op = false) : e ∈ since op (e :: es) := by
  rw [since_cons h]; exact mem_cons_self

theorem mem_since_cons {e x : Event} (h : e.begins op = false) (hx : x ∈ since op es) : x ∈ since op (e :: es) := by
  rw [since_cons h]; exact mem_cons_of_mem _ hx

theorem desiredOf_cons (h : e.begins op = false) (es : List Event) : desiredOf op (e :: es) = desiredOf op es := by
  cases e <;> simp_all [desiredOf, Event.begins]

/-- The operation's own apply and its own verify returned success, for the desired state it was put on the list with. -/
def Carried (op : String) (events : List Event) : Prop :=
  ∃ d, desiredOf op events = some d ∧ .applied op d ∈ since op events ∧ .verified op d ∈ since op events

def Unrestored (op : String) (events : List Event) : Prop := ∀ s, .restoreStarted op s ∉ since op events

/-- Every confirmation of the operation was earned: before it, the operation's own apply and verify had succeeded and no
restore of its snapshot had been started. -/
def EachEarned (op : String) (events : List Event) : Prop :=
  ∀ later now earlier, since op events = later ++ .confirmed op now :: earlier →
    (∃ d, desiredOf op events = some d ∧ .applied op d ∈ earlier ∧ .verified op d ∈ earlier) ∧
      ∀ s, .restoreStarted op s ∉ earlier

/-- **The operation was confirmed, and every time that was earned.** -/
def Earned (op : String) (events : List Event) : Prop :=
  (∃ now, .confirmed op now ∈ since op events) ∧ EachEarned op events

theorem Carried.cons (he : e.begins op = false) (h : Carried op es) : Carried op (e :: es) := by
  obtain ⟨d, hd, ha, hv⟩ := h
  exact ⟨d, by rw [desiredOf_cons he]; exact hd, mem_since_cons he ha, mem_since_cons he hv⟩

theorem Unrestored.cons (he : e.begins op = false) (hr : ∀ s, e ≠ .restoreStarted op s) (h : Unrestored op es) :
    Unrestored op (e :: es) := by
  intro s hs
  rw [since_cons he] at hs
  rcases mem_cons.1 hs with heq | hs
  · exact hr s heq.symm
  · exact h s hs

theorem EachEarned.cons (he : e.begins op = false)
    (hc : ∀ now, e = .confirmed op now → Carried op es ∧ Unrestored op es) (h : EachEarned op es) :
    EachEarned op (e :: es) := by
  intro later now earlier hs
  rw [since_cons he] at hs
  rw [desiredOf_cons he]
  cases later with
  | nil =>
    rw [nil_append, List.cons.injEq] at hs
    obtain ⟨heq, rfl⟩ := hs
    exact hc now heq
  | cons x later =>
    rw [cons_append, List.cons.injEq] at hs
    exact h later now earlier hs.2

/-! ## The record list -/

theorem map_putRecord (r : PendingSafeApply) : ∀ (l : List PendingSafeApply),
    (putRecord r l).map (·.operationId) = l.map (·.operationId)
  | [] => rfl
  | x :: l => by
    simp only [putRecord]
    split
    · rename_i h; simp [h]
    · simp [map_putRecord r l]

theorem mem_putRecord_self {r : PendingSafeApply} : ∀ {l : List PendingSafeApply},
    (∃ x ∈ l, x.operationId = r.operationId) → r ∈ putRecord r l
  | [], h => by obtain ⟨_, h, _⟩ := h; cases h
  | y :: l, ⟨x, hx, hop⟩ => by
    simp only [putRecord]
    split
    · exact mem_cons_self
    · rename_i hy
      refine mem_cons_of_mem _ (mem_putRecord_self ⟨x, ?_, hop⟩)
      rcases mem_cons.1 hx with rfl | hx
      · exact absurd hop hy
      · exact hx

theorem mem_putRecord_ne {r x : PendingSafeApply} (hne : x.operationId ≠ r.operationId) :
    ∀ (l : List PendingSafeApply), x ∈ putRecord r l ↔ x ∈ l
  | [] => Iff.rfl
  | y :: l => by
    simp only [putRecord]
    split
    · rename_i hy
      have hxr : x ≠ r := fun h => hne (by rw [h])
      have hxy : x ≠ y := fun h => hne (by rw [h, hy])
      simp [hxr, hxy]
    · simp [mem_putRecord_ne hne l]

theorem eq_of_mem_putRecord {r x : PendingSafeApply} :
    ∀ {l : List PendingSafeApply}, (l.map (·.operationId)).count r.operationId ≤ 1 →
    x ∈ putRecord r l → x.operationId = r.operationId → x = r
  | [], _, h, _ => by cases h
  | y :: l, hcount, h, hop => by
    rw [map_cons, count_cons] at hcount
    simp only [putRecord] at h
    by_cases hy : y.operationId = r.operationId
    · rw [if_pos hy] at h
      rcases mem_cons.1 h with rfl | h
      · rfl
      · have hmem : r.operationId ∈ l.map (·.operationId) := by
          rw [← hop]
          exact mem_map_of_mem h
        have hpos := count_pos_iff.2 hmem
        simp only [hy, beq_self_eq_true, if_true] at hcount
        omega
    · rw [if_neg hy] at h
      rcases mem_cons.1 h with rfl | h
      · exact absurd hop hy
      · exact eq_of_mem_putRecord (by omega) h hop

theorem mem_putRecord {r x : PendingSafeApply} {l : List PendingSafeApply} (hnd : (l.map (·.operationId)).Nodup)
    (h : x ∈ putRecord r l) : x = r ∨ (x ∈ l ∧ x.operationId ≠ r.operationId) := by
  by_cases hop : x.operationId = r.operationId
  · exact .inl (eq_of_mem_putRecord (nodup_iff_count_le_one.1 hnd _) h hop)
  · exact .inr ⟨(mem_putRecord_ne hop _).1 h, hop⟩

theorem nodup_snoc {r : PendingSafeApply} {l : List PendingSafeApply} (hnd : (l.map (·.operationId)).Nodup)
    (hnew : ∀ x ∈ l, x.operationId ≠ r.operationId) : ((l ++ [r]).map (·.operationId)).Nodup := by
  rw [map_append, nodup_append]
  refine ⟨hnd, by simp, fun a ha b hb => ?_⟩
  obtain ⟨x, hx, rfl⟩ := mem_map.1 ha
  rw [mem_singleton.1 hb]
  exact hnew x hx

theorem putRecord_twice (r : PendingSafeApply) (state state' : SafeApplyState) : ∀ (l : List PendingSafeApply),
    putRecord { r with state := state' } (putRecord { r with state := state } l) =
      putRecord { r with state := state' } l
  | [] => rfl
  | x :: l => by
    by_cases hx : x.operationId = r.operationId
    · simp [putRecord, hx]
    · simp [putRecord, hx, putRecord_twice r state state' l]

/-! ## Moves -/

structure Ledger where
  running : Bool
  memory : List PendingSafeApply
  file : List PendingSafeApply
  events : List Event

namespace Ledger

def put (L : Ledger) (r : PendingSafeApply) : Ledger := { L with memory := putRecord r L.memory }

def log (L : Ledger) (e : Event) : Ledger := { L with events := e :: L.events }

/-- One indivisible change, with its guard.  `hash` is the hash of a desired state; `allow` restricts which records a
confirmation may take (everything, for the manager as it is). -/
inductive Move (hash : NetworkDesiredState → String) (allow : PendingSafeApply → Prop) : Ledger → Ledger → Prop
  | enroll (L : Ledger) (r : PendingSafeApply) (d : NetworkDesiredState) (hrun : L.running = true)
      (hstate : r.state = .prepared) (hhash : r.newStateHash = hash d)
      (hnew : ∀ x ∈ L.memory, x.operationId ≠ r.operationId) :
      Move hash allow L { L with memory := L.memory ++ [r], events := .begun r.operationId d :: L.events }
  | flush (L : Ledger) (hrun : L.running = true) : Move hash allow L { L with file := L.memory }
  | startApply (L : Ledger) (r : PendingSafeApply) (hfile : r ∈ L.file) :
      Move hash allow L (L.log (.applyStarted r.operationId))
  | answer (L : Ledger) (e : Event) (he : e.isAnswer = true) : Move hash allow L (L.log e)
  | accept (L : Ledger) (r : PendingSafeApply) (hmem : r ∈ L.memory)
      (hdone : Carried r.operationId L.events) (hclean : Unrestored r.operationId L.events) :
      Move hash allow L (L.put { r with state := .pendingConfirmation })
  | confirm (L : Ledger) (r : PendingSafeApply) (now : Nat) (hmem : r ∈ L.memory)
      (hpending : isPending r.state = true) (hallow : allow r) (hnow : now < r.deadlineUnixSeconds) :
      Move hash allow L ((L.log (.confirmed r.operationId now)).put { r with state := .confirmed })
  | roll (L : Ledger) (r : PendingSafeApply) (hmem : r ∈ L.memory) (hpending : isPending r.state = true) :
      Move hash allow L (L.put { r with state := .rollingBack })
  | startRestore (L : Ledger) (r : PendingSafeApply) (hmem : r ∈ L.memory) (hstate : r.state = .rollingBack)
      (hfile : L.file = L.memory) : Move hash allow L (L.log (.restoreStarted r.operationId r.snapshotId))
  | finish (L : Ledger) (r : PendingSafeApply) (hmem : r ∈ L.memory)
      (hdone : .restored r.operationId r.snapshotId ∈ since r.operationId L.events) :
      Move hash allow L (L.put { r with state := .rolledBack })
  | abandon (L : Ledger) (r : PendingSafeApply) (hmem : r ∈ L.memory)
      (hfailed : .restoreFailed r.operationId r.snapshotId ∈ since r.operationId L.events) :
      Move hash allow L (L.put { r with state := .failed })
  | crash (L : Ledger) : Move hash allow L { L with running := false, memory := [] }
  | reopen (L : Ledger) : Move hash allow L { L with running := true, memory := L.file }

/-! ## The invariant -/

/-- What the state of a record says about the history of its operation. -/
def Sound (events : List Event) (r : PendingSafeApply) : Prop :=
  match r.state with
  | .prepared | .rollingBack => True
  | .pendingConfirmation     => Carried r.operationId events ∧ Unrestored r.operationId events
  | .confirmed               => ∃ now < r.deadlineUnixSeconds, .confirmed r.operationId now ∈ since r.operationId events
  | .rolledBack              => .restored r.operationId r.snapshotId ∈ since r.operationId events
  | .failed                  => .restoreFailed r.operationId r.snapshotId ∈ since r.operationId events

/-- The record was put on the list with a desired state of its hash. -/
def Begun (hash : NetworkDesiredState → String) (events : List Event) (r : PendingSafeApply) : Prop :=
  ∃ d, desiredOf r.operationId events = some d ∧ hash d = r.newStateHash

structure Inv (hash : NetworkDesiredState → String) (L : Ledger) : Prop where
  nodupMemory : (L.memory.map (·.operationId)).Nodup
  nodupFile : (L.file.map (·.operationId)).Nodup
  /-- A running manager knows every operation in the file. -/
  covered : L.running = true → ∀ r ∈ L.file, ∃ x ∈ L.memory, x.operationId = r.operationId
  down : L.running = false → L.memory = []
  sound : ∀ r, r ∈ L.memory ∨ r ∈ L.file → Sound L.events r ∧ Begun hash L.events r
  /-- An operation whose apply was started is in the file. -/
  kept : ∀ op, .applyStarted op ∈ since op L.events → ∃ r ∈ L.file, r.operationId = op

variable {r : PendingSafeApply}

theorem Sound.cons {e : Event} {es : List Event} (he : e.begins r.operationId = false)
    (hr : (∃ s, e = .restoreStarted r.operationId s) → r.state = .rollingBack) (h : Sound es r) :
    Sound (e :: es) r := by
  unfold Sound at h ⊢
  split at h
  · trivial
  · trivial
  · rename_i hst
    refine ⟨h.1.cons he, h.2.cons he (fun s hs => ?_)⟩
    have := hr ⟨s, hs⟩
    rw [hst] at this; cases this
  · obtain ⟨now, hlt, hm⟩ := h
    exact ⟨now, hlt, mem_since_cons he hm⟩
  · exact mem_since_cons he h
  · exact mem_since_cons he h

theorem Begun.cons {hash : NetworkDesiredState → String} {e : Event} {es : List Event}
    (he : e.begins r.operationId = false) (h : Begun hash es r) : Begun hash (e :: es) r := by
  obtain ⟨d, hd, hh⟩ := h
  exact ⟨d, by rw [desiredOf_cons he]; exact hd, hh⟩

variable {hash : NetworkDesiredState → String} {allow : PendingSafeApply → Prop} {L L' : Ledger}

theorem Inv.unique (h : Inv hash L) (hfile : L.file = L.memory) {r x : PendingSafeApply}
    (hr : r ∈ L.memory) (hx : x ∈ L.memory ∨ x ∈ L.file) (hop : x.operationId = r.operationId) : x = r := by
  rw [hfile, or_self] at hx
  exact inj_on_of_nodup_map h.nodupMemory hx hr hop

theorem Inv.log {e : Event} (h : Inv hash L) (he : ∀ op, e.begins op = false)
    (hr : ∀ r s, r ∈ L.memory ∨ r ∈ L.file → e = .restoreStarted r.operationId s → r.state = .rollingBack)
    (ha : ∀ op, e = .applyStarted op → ∃ r ∈ L.file, r.operationId = op) : Inv hash (L.log e) where
  nodupMemory := h.nodupMemory
  nodupFile := h.nodupFile
  covered := h.covered
  down := h.down
  sound := fun r hr' =>
    ⟨(h.sound r hr').1.cons (he _) (fun ⟨s, hs⟩ => hr r s hr' hs), (h.sound r hr').2.cons (he _)⟩
  kept := fun op hop => by
    have hop : .applyStarted op ∈ since op (e :: L.events) := hop
    rw [since_cons (he op)] at hop
    rcases mem_cons.1 hop with heq | hop
    · exact ha op heq.symm
    · exact h.kept op hop

theorem Inv.put {r r' : PendingSafeApply} (h : Inv hash L) (hm : r ∈ L.memory)
    (hop : r'.operationId = r.operationId) (hh : r'.newStateHash = r.newStateHash) (hs : Sound L.events r') :
    Inv hash (L.put r') where
  nodupMemory := by
    show ((putRecord r' L.memory).map (·.operationId)).Nodup
    rw [map_putRecord]; exact h.nodupMemory
  nodupFile := h.nodupFile
  covered := fun hrun x hx => by
    obtain ⟨y, hy, hyop⟩ := h.covered hrun x hx
    have hids : y.operationId ∈ (putRecord r' L.memory).map (·.operationId) := by
      rw [map_putRecord]; exact mem_map_of_mem hy
    obtain ⟨z, hz, hzop⟩ := mem_map.1 hids
    exact ⟨z, hz, hzop.trans hyop⟩
  down := fun hrun => by rw [h.down hrun] at hm; cases hm
  sound := fun x hx => by
    rcases hx with hx | hx
    · rcases mem_putRecord h.nodupMemory hx with rfl | ⟨hx, -⟩
      · obtain ⟨d, hd, hdh⟩ := (h.sound r (.inl hm)).2
        exact ⟨hs, d, by rw [hop]; exact hd, by rw [hh]; exact hdh⟩
      · exact h.sound x (.inl hx)
    · exact h.sound x (.inr hx)
  kept := h.kept

theorem Inv.enroll {d : NetworkDesiredState} (h : Inv hash L) (hrun : L.running = true) (hstate : r.state = .prepared)
    (hhash : r.newStateHash = hash d) (hnew : ∀ x ∈ L.memory, x.operationId ≠ r.operationId) :
    Inv hash { L with memory := L.memory ++ [r], events := .begun r.operationId d :: L.events } := by
  -- an operation memory does not know is not in the file either, so no other record shares the new history
  have hfile : ∀ x ∈ L.file, x.operationId ≠ r.operationId := fun x hx hop => by
    obtain ⟨y, hy, hyop⟩ := h.covered hrun x hx
    exact hnew y hy (hyop.trans hop)
  have hold : ∀ x, x ∈ L.memory ∨ x ∈ L.file → Sound (.begun r.operationId d :: L.events) x ∧
      Begun hash (.begun r.operationId d :: L.events) x := fun x hx => by
    have hne : x.operationId ≠ r.operationId := hx.elim (hnew x) (hfile x)
    have hb : (Event.begun r.operationId d).begins x.operationId = false := by simp [Event.begins, Ne.symm hne]
    exact ⟨(h.sound x hx).1.cons hb (fun ⟨_, hs⟩ => by cases hs), (h.sound x hx).2.cons hb⟩
  refine ⟨nodup_snoc h.nodupMemory hnew, h.nodupFile, ?_, ?_, ?_, ?_⟩
  · intro _ x hx
    obtain ⟨y, hy, hyop⟩ := h.covered hrun x hx
    exact ⟨y, mem_append_left _ hy, hyop⟩
  · intro hdown; rw [hrun] at hdown; cases hdown
  · rintro x (hx | hx)
    · rcases mem_append.1 hx with hx | hx
      · exact hold x (.inl hx)
      · rw [mem_singleton] at hx
        subst hx
        exact ⟨by simp [Sound, hstate], d, by simp [desiredOf], hhash.symm⟩
    · exact hold x (.inr hx)
  · intro op hop
    by_cases hb : (Event.begun r.operationId d).begins op = true
    · simp [since, hb] at hop
    · rw [since_cons (by simpa using hb)] at hop
      rcases mem_cons.1 hop with heq | hop
      · cases heq
      · exact h.kept op hop

theorem begins_of_isAnswer {e : Event} (he : e.isAnswer = true) (op : String) : e.begins op = false := by
  cases e <;> simp_all [Event.isAnswer, Event.begins]

/-- **One move keeps the invariant.** -/
theorem Inv.move (h : Inv hash L) (hm : Move hash allow L L') : Inv hash L' := by
  cases hm with
  | enroll r d hrun hstate hhash hnew => exact h.enroll hrun hstate hhash hnew
  | flush hrun =>
    refine ⟨h.nodupMemory, h.nodupMemory, fun _ r hr => ⟨r, hr, rfl⟩, h.down, fun r hr => ?_, fun op hop => ?_⟩
    · exact h.sound r (.inl (by simpa using hr))
    · obtain ⟨r, hr, hrop⟩ := h.kept op hop
      obtain ⟨x, hx, hxop⟩ := h.covered hrun r hr
      exact ⟨x, hx, hxop.trans hrop⟩
  | startApply r hfile =>
    refine h.log (fun _ => rfl) (fun _ _ _ he => by cases he) (fun op he => ?_)
    cases he
    exact ⟨r, hfile, rfl⟩
  | answer e he =>
    refine h.log (begins_of_isAnswer he) (fun _ _ _ heq => ?_) (fun _ heq => ?_)
    · rw [heq] at he; cases he
    · rw [heq] at he; cases he
  | accept r hmem hdone hclean => exact h.put hmem rfl rfl ⟨hdone, hclean⟩
  | confirm r now hmem _ _ hnow =>
    have h' := h.log (e := .confirmed r.operationId now) (fun _ => rfl) (fun _ _ _ he => by cases he)
      (fun _ he => by cases he)
    exact Inv.put (r := r) h' hmem rfl rfl ⟨now, hnow, mem_since_head rfl⟩
  | roll r hmem _ => exact h.put hmem rfl rfl (by simp [Sound])
  | startRestore r hmem hstate hfile =>
    refine h.log (fun _ => rfl) (fun x s hx he => ?_) (fun _ he => by cases he)
    simp only [Event.restoreStarted.injEq] at he
    rw [h.unique hfile hmem hx he.1.symm]; exact hstate
  | finish r hmem hdone => exact h.put hmem rfl rfl hdone
  | abandon r hmem hfailed => exact h.put hmem rfl rfl hfailed
  | crash =>
    refine ⟨by simp, h.nodupFile, fun hrun => (by cases hrun), fun _ => rfl, fun r hr => ?_, h.kept⟩
    exact h.sound r (.inr (by simpa using hr))
  | reopen =>
    refine ⟨h.nodupFile, h.nodupFile, fun _ r hr => ⟨r, hr, rfl⟩, fun hrun => (by cases hrun), fun r hr => ?_, h.kept⟩
    exact h.sound r (.inr (by simpa using hr))

/-- **So does every sequence of moves.** -/
theorem Inv.moves (h : Inv hash L) (hm : ReflTransGen (Move hash allow) L L') : Inv hash L' := by
  induction hm with
  | refl => exact h
  | tail _ hmove ih => exact ih.move hmove

end Ledger
end SafeApply
end NetTool
