import NetTool.SafeApply.Trace
/-!
# SafeApply.Sweep — which answers an expiry run needs

`recover_expired` rolls back the expired operations one after the other and stops at the first that fails.  A rollback
makes fourteen file operations and one executor call; its first state write is the only thing that can leave its own
operation pending.  So nothing is left pending when no answer is an error, or when the failure comes in the last
rollback, after that write, and nothing else is pending (`recoverExpired_steady`).  The records may be any list, as the
state file may hold any.
-/
namespace NetTool
namespace SafeApply

open Prog List

variable {env : Env} {w v : World} {op : String} {l : List PendingSafeApply} {r x : PendingSafeApply}
  {rest : List String} {alone : Prop}

def Settled (l : List PendingSafeApply) : Prop := ∀ item ∈ l, isPending item.state = false

/-- Every pending operation is among `rest`, and has one record. -/
def Among (rest : List String) (l : List PendingSafeApply) : Prop :=
  ∀ item ∈ l, isPending item.state = true → item.operationId ∈ rest ∧ (l.map (·.operationId)).count item.operationId = 1

theorem Among.settled (h : Among [] l) : Settled l := by
  intro item hitem
  rw [← Bool.not_eq_true]
  intro hp
  cases (h item hitem hp).1

theorem mem_putRecord_or : ∀ {l : List PendingSafeApply}, x ∈ putRecord r l → x = r ∨ x ∈ l
  | [], h => by cases h
  | y :: l, h => by
    simp only [putRecord] at h
    split at h
    · exact (mem_cons.1 h).imp_right (mem_cons_of_mem _)
    · rcases mem_cons.1 h with rfl | h
      · exact .inr mem_cons_self
      · exact (mem_putRecord_or h).imp_right (mem_cons_of_mem _)

/-- Closing an operation's record takes it off the list. -/
theorem Among.closed (h : Among (op :: rest) w.pending) (hclosed : Closed op w v) : Among rest v.pending := by
  obtain ⟨r, rfl, hr, hv⟩ := hclosed
  rw [hv]
  intro item hitem hp
  rw [map_putRecord]
  by_cases hop : item.operationId = r.operationId
  · -- the closed operation has no other record, and its record is not pending
    have heq : item = r := by
      refine (mem_putRecord_or hitem).elim id fun hold => ?_
      have hcount := (h item hold hp).2
      rw [hop] at hcount
      exact eq_of_mem_putRecord (by omega) hitem hop
    rw [heq, hr] at hp
    cases hp
  · obtain ⟨hmem, hcount⟩ := h item ((mem_putRecord_ne hop _).1 hitem) hp
    exact ⟨(mem_cons.1 hmem).resolve_left hop, hcount⟩

def waiting (op : String) (l : List PendingSafeApply) : Nat :=
  l.countP (fun item => item.operationId = op ∧ isPending item.state)

theorem waiting_putRecord (r : PendingSafeApply) (op : String) : ∀ (l : List PendingSafeApply),
    waiting op l ≤ waiting op (putRecord r l) + if op = r.operationId then 1 else 0
  | [] => Nat.zero_le _
  | y :: l => by
    have hrest := waiting_putRecord r op l
    unfold waiting at hrest ⊢
    simp only [putRecord]
    by_cases hy : y.operationId = r.operationId
    · rw [if_pos hy, countP_cons, countP_cons]
      by_cases hop : op = r.operationId
      · split <;> split <;> omega
      · rw [if_neg (by simp [hy, Ne.symm hop]), if_neg (by simp [Ne.symm hop]), if_neg hop]
    · rw [if_neg hy, countP_cons, countP_cons]
      omega

/-- The answers that the rollbacks of `ops` need, from the given counts of file operations and executor calls on.  When
they are `alone`, nothing else pending, the last rollback may fail after its first state write. -/
def Steady (env : Env) (alone : Prop) : List String → Nat → Nat → Prop
  | [], _, _ => True
  | _ :: rest, files, calls => FilesFine env files 5 ∧
      ((alone ∧ rest = []) ∨ (FilesFine env files 14 ∧ (env.exec calls).Fine ∧
        Steady env alone rest (files + 14) (calls + 1)))

/-- What holds with `rest` still to be rolled back: they will be found, and their answers suffice. -/
structure Left (env : Env) (alone : Prop) (rest : List String) (v : World) : Prop where
  steady : Steady env alone rest v.ioCalls v.execCalls
  waits : ∀ op, rest.count op ≤ waiting op v.pending
  among : alone → Among rest v.pending

theorem Left.head (h : Left env alone (op :: rest) w) : ∃ r, Found op r w := by
  have hcount := h.waits op
  rw [count_cons_self] at hcount
  obtain ⟨r, hr, hp⟩ := countP_pos_iff.1 (show 0 < waiting op w.pending by omega)
  exact Option.isSome_iff_exists.1 (find?_isSome.2 ⟨r, hr, hp⟩)

theorem Left.waits_tail (h : Left env alone (op :: rest) w) (hclosed : Closed op w v) (other : String) :
    rest.count other ≤ waiting other v.pending := by
  obtain ⟨r, rfl, -, hv⟩ := hclosed
  have hcount := h.waits other
  have hput := waiting_putRecord r other w.pending
  rw [hv]
  by_cases hop : other = r.operationId
  · subst hop
    rw [count_cons_self] at hcount
    rw [if_pos rfl] at hput
    omega
  · rw [count_cons_of_ne (Ne.symm hop)] at hcount
    rw [if_neg hop] at hput
    omega

theorem left_body (op : String) (rest : List String) (w : World) (h : Left env alone (op :: rest) w) :
    wp (rollbackInternal env op "deadline_expired") (fun _ v => Left env alone rest v)
      (fun stop v => stop = .crash ∨ Settled v.pending) w := by
  obtain ⟨r, hfound⟩ := h.head
  obtain rfl := hfound.mem.2.1
  obtain ⟨hfirst, hrest⟩ := h.steady
  apply wp_mono (rollbackInternal_trace env "deadline_expired" hfound)
  · intro _ v hv
    refine ⟨?_, h.waits_tail hv.closed, fun ha => (h.among ha).closed hv.closed⟩
    rcases hrest with ⟨-, rfl⟩ | ⟨-, -, hsteady⟩
    · trivial
    · rw [hv.ioCalls, hv.execCalls]
      exact hsteady
  · intro stop v hv
    rcases hrest with ⟨halone, rfl⟩ | ⟨hfiles, hexec, -⟩
    · -- the last one: closed is all it has to be
      exact (hv.closed hfirst).imp_right fun hclosed => ((h.among halone).closed hclosed).settled
    · exact .inl (hv.crashed hfiles hexec)

/-- Every pending operation has expired, and has one record. -/
def Alone (now : Nat) (l : List PendingSafeApply) : Prop :=
  ∀ item ∈ l, isPending item.state = true → item.deadlineUnixSeconds ≤ now ∧
    (l.map (·.operationId)).count item.operationId = 1

theorem Alone.among {now : Nat} (h : Alone now l) : Among (expired now l) l := by
  intro item hitem hp
  obtain ⟨hdeadline, hcount⟩ := h item hitem hp
  exact ⟨mem_map_of_mem (mem_filter.2 ⟨hitem, by simp [hp, hdeadline]⟩), hcount⟩

/-- **An expiry run with the answers it needs** returns, dies, or fails with nothing pending; and it leaves nothing
pending when every pending operation has expired. -/
theorem recoverExpired_steady {now : Nat}
    (h : Steady env (Alone now w.pending) (expired now w.pending) w.ioCalls w.execCalls) :
    wp (recoverExpired env now) (fun _ v => Alone now w.pending → Settled v.pending) (fun stop v => stop = .crash ∨
      Settled v.pending) w := by
  have hleft : Left env (Alone now w.pending) (expired now w.pending) w := by
    refine ⟨h, fun op => ?_, fun ha => ha.among⟩
    unfold expired waiting
    rw [count_eq_countP, countP_map, countP_filter]
    refine countP_mono_left fun item _ h => ?_
    simp only [Function.comp_apply, Bool.and_eq_true, beq_iff_eq, decide_eq_true_eq] at h ⊢
    exact ⟨h.1, h.2.1⟩
  unfold recoverExpired
  rw [wp_bind]
  refine wp_seq (wp_forEach left_body _ _ hleft) (fun _ v hv => ?_)
  exact fun ha => (hv.among ha).settled

end SafeApply
end NetTool
