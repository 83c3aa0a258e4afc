import NetTool.SafeApply.Protocol
/-!
# SafeApply.Orderly — Safe Apply when no file operation fails

Without faults of the file system, memory and state file are one list between any two executor calls, and a whole
rollback is one act on it.  `Act` is that coarser protocol: the record list and the history, and what can happen to
them.  `Orderly` is its invariant: one record per operation, at most one pending per interface, confirmations before
the deadline and final, at most one successful restore.
-/
namespace NetTool
namespace SafeApply

open List

open Helper (NetworkDesiredState)

def Event.isRestored (op : String) : Event → Bool
  | .restored o _ => o = op
  | _             => false

/-- What an apply or a verify leaves in the history. -/
def Event.isAttempt : Event → Bool
  | .applyStarted _ | .applied _ _ | .applyFailed _ | .verified _ _ | .verifyFailed _ => true
  | _ => false

structure Book where
  records : List PendingSafeApply
  events : List Event

def Book.put (B : Book) (r : PendingSafeApply) (new : List Event) : Book := ⟨putRecord r B.records, new ++ B.events⟩

inductive Act : Book → Book → Prop
  | enroll (B : Book) (r : PendingSafeApply) (d : NetworkDesiredState) (hstate : r.state = .prepared)
      (hnew : ∀ x ∈ B.records, x.operationId ≠ r.operationId)
      (hfree : ∀ x ∈ B.records, isPending x.state = true → x.targetInterface ≠ r.targetInterface) :
      Act B ⟨B.records ++ [r], .begun r.operationId d :: B.events⟩
  | attempt (B : Book) (e : Event) (he : e.isAttempt = true) : Act B ⟨B.records, e :: B.events⟩
  | accept (B : Book) (r : PendingSafeApply) (hr : r ∈ B.records) (hp : isPending r.state = true) :
      Act B (B.put { r with state := .pendingConfirmation } [])
  | confirm (B : Book) (r : PendingSafeApply) (now : Nat) (hr : r ∈ B.records) (hp : isPending r.state = true)
      (hnow : now < r.deadlineUnixSeconds) :
      Act B (B.put { r with state := .confirmed } [.confirmed r.operationId now])
  /-- The process dies during the restore. -/
  | rolling (B : Book) (r : PendingSafeApply) (hr : r ∈ B.records) (hp : isPending r.state = true) :
      Act B (B.put { r with state := .rollingBack } [.restoreStarted r.operationId r.snapshotId])
  | rolledBack (B : Book) (r : PendingSafeApply) (hr : r ∈ B.records) (hp : isPending r.state = true) :
      Act B (B.put { r with state := .rolledBack }
        [.restored r.operationId r.snapshotId, .restoreStarted r.operationId r.snapshotId])
  | failed (B : Book) (r : PendingSafeApply) (hr : r ∈ B.records) (hp : isPending r.state = true) :
      Act B (B.put { r with state := .failed }
        [.restoreFailed r.operationId r.snapshotId, .restoreStarted r.operationId r.snapshotId])

structure Orderly (B : Book) : Prop where
  unique : (B.records.map (·.operationId)).Nodup
  lone : ∀ r ∈ B.records, ∀ x ∈ B.records, isPending r.state = true → isPending x.state = true →
    r.targetInterface = x.targetInterface → r = x
  confirmed : ∀ r ∈ B.records, r.state = .confirmed → ∃ now, .confirmed r.operationId now ∈ B.events
  inTime : ∀ op now, .confirmed op now ∈ B.events →
    ∃ r ∈ B.records, r.operationId = op ∧ r.state = .confirmed ∧ now < r.deadlineUnixSeconds
  final : ∀ op later now earlier, B.events = later ++ .confirmed op now :: earlier →
    ∀ e ∈ later, e.isRestoreOf op = false
  restored : ∀ op s, .restored op s ∈ B.events → ∃ r ∈ B.records, r.operationId = op ∧ r.state = .rolledBack
  once : ∀ op, (B.events.filter (·.isRestored op)).length ≤ 1

namespace Orderly

variable {B B' : Book}

variable {r : PendingSafeApply} {r' : PendingSafeApply}

/-- Nothing has been said about confirming or restoring an operation that is pending. -/
theorem unspoken (h : Orderly B) (hr : r ∈ B.records) (hp : isPending r.state = true) :
    (∀ now, .confirmed r.operationId now ∉ B.events) ∧ ∀ s, .restored r.operationId s ∉ B.events := by
  constructor
  · intro now hm
    obtain ⟨x, hx, hop, hst, -⟩ := h.inTime _ _ hm
    rw [← inj_on_of_nodup_map h.unique hx hr hop, hst] at hp
    cases hp
  · intro s hm
    obtain ⟨x, hx, hop, hst⟩ := h.restored _ _ hm
    rw [← inj_on_of_nodup_map h.unique hx hr hop, hst] at hp
    cases hp

theorem mem_put_of_ne {r x r' : PendingSafeApply} (h : Orderly B) (hr : r ∈ B.records) (hp : isPending r.state = true)
    (hop : r'.operationId = r.operationId) (hx : x ∈ B.records) (hxp : isPending x.state = false) :
    x ∈ putRecord r' B.records := by
  have hne : x.operationId ≠ r'.operationId := by
    intro heq
    rw [inj_on_of_nodup_map h.unique hx hr (heq.trans hop), hp] at hxp
    cases hxp
  exact (mem_putRecord_ne hne _).2 hx

/-- A split of a history in two parts at one of its events: the event is in the newer part or in the older one. -/
theorem split_append {new es later earlier : List Event} {e : Event} (h : new ++ es = later ++ e :: earlier) :
    (∃ rest, new = later ++ e :: rest) ∨ ∃ rest, later = new ++ rest ∧ es = rest ++ e :: earlier := by
  rcases append_eq_append_iff.1 h with ⟨rest, hl, hes⟩ | ⟨rest, hn, hes⟩
  · exact .inr ⟨rest, hl, hes⟩
  · cases rest with
    | nil => exact .inr ⟨[], by simpa using hn.symm, by simpa using hes.symm⟩
    | cons x rest =>
      rw [cons_append, List.cons.injEq] at hes
      exact .inl ⟨rest, by rw [hn, hes.1]⟩

theorem filter_isRestored {op : String} {l : List Event} (h : ∀ s, .restored op s ∉ l) :
    l.filter (·.isRestored op) = [] := by
  rw [filter_eq_nil_iff]
  intro e he hres
  cases e <;> simp [Event.isRestored] at hres
  rename_i s
  exact h s (hres ▸ he)

theorem say (h : Orderly B) {e : Event} (hc : ∀ op now, e ≠ .confirmed op now)
    (hr : ∀ op, e.isRestoreOf op = false) : Orderly ⟨B.records, e :: B.events⟩ where
  unique := h.unique
  lone := h.lone
  confirmed := fun r hr hst => by
    obtain ⟨now, hm⟩ := h.confirmed r hr hst
    exact ⟨now, mem_cons_of_mem _ hm⟩
  inTime := fun op now hm => h.inTime op now ((mem_cons.1 hm).resolve_left (fun heq => hc op now heq.symm))
  final := fun op later now earlier hs x hx => by
    cases later with
    | nil => cases hx
    | cons y later =>
      rw [cons_append, List.cons.injEq] at hs
      rcases mem_cons.1 hx with rfl | hx
      · rw [← hs.1]; exact hr op
      · exact h.final op later now earlier hs.2 x hx
  restored := fun op s hm => by
    refine h.restored op s ((mem_cons.1 hm).resolve_left (fun heq => ?_))
    have := hr op
    rw [← heq] at this
    simp [Event.isRestoreOf] at this
  once := fun op => by
    have hne : e.isRestored op = false := by
      cases e <;> simp_all [Event.isRestored, Event.isRestoreOf]
    rw [filter_cons_of_neg (by simp [hne])]
    exact h.once op

/-- What the new events may say about the record `r'` that replaces a pending one. -/
structure Fits (r' : PendingSafeApply) (new : List Event) : Prop where
  confirmed : r'.state = .confirmed → ∃ now, .confirmed r'.operationId now ∈ new
  inTime : ∀ op now, .confirmed op now ∈ new →
    op = r'.operationId ∧ r'.state = .confirmed ∧ now < r'.deadlineUnixSeconds
  final : ∀ op later now earlier, new = later ++ .confirmed op now :: earlier → ∀ e ∈ later, e.isRestoreOf op = false
  restored : ∀ op s, .restored op s ∈ new → op = r'.operationId ∧ r'.state = .rolledBack
  once : ∀ op, (new.filter (·.isRestored op)).length ≤ 1
  own : ∀ e ∈ new, ∀ op, e.isRestoreOf op = true → op = r'.operationId

theorem Fits.of_restores {new : List Event} (hst : r'.state ≠ .confirmed)
    (hown : ∀ e ∈ new, e.isRestoreOf r'.operationId = true)
    (hres : ∀ op s, .restored op s ∈ new → r'.state = .rolledBack)
    (honce : ∀ op, (new.filter (·.isRestored op)).length ≤ 1) : Fits r' new := by
  have hunconf : ∀ op now, Event.confirmed op now ∉ new := fun op now hm => by cases hown _ hm
  have hop : ∀ e ∈ new, ∀ op, e.isRestoreOf op = true → op = r'.operationId := fun e he op hres => by
    have hr' := hown e he
    cases e <;> simp_all [Event.isRestoreOf]
  refine ⟨fun h => absurd h hst, fun op now hm => absurd hm (hunconf op now), ?_, ?_, honce, hop⟩
  · intro op later now earlier hs
    exact absurd (by rw [hs]; simp) (hunconf op now)
  · intro op s hm
    exact ⟨hop _ hm op (by simp [Event.isRestoreOf]), hres op s hm⟩

theorem Fits.of_confirm {now : Nat} (hst : r'.state = .confirmed) (hnow : now < r'.deadlineUnixSeconds) :
    Fits r' [.confirmed r'.operationId now] := by
  refine ⟨fun _ => ⟨now, by simp⟩, ?_, ?_, by simp, by simp [Event.isRestored], ?_⟩
  · intro op t ht
    simp only [mem_singleton, Event.confirmed.injEq] at ht
    exact ⟨ht.1, hst, by rw [ht.2]; exact hnow⟩
  · intro op later t earlier hs e he
    cases later with
    | nil => cases he
    | cons x later => simp at hs
  · intro e he op hres
    rw [mem_singleton.1 he] at hres; cases hres

theorem put (h : Orderly B) (hr : r ∈ B.records) (hp : isPending r.state = true) (state : SafeApplyState)
    {new : List Event} (hf : Fits { r with state := state } new) : Orderly (B.put { r with state := state } new) := by
  obtain ⟨r', hr'⟩ : ∃ r' : PendingSafeApply, r' = { r with state := state } := ⟨_, rfl⟩
  have hop : r'.operationId = r.operationId := by rw [hr']
  have hif : r'.targetInterface = r.targetInterface := by rw [hr']
  rw [← hr'] at hf ⊢
  have hself : r' ∈ putRecord r' B.records := mem_putRecord_self ⟨r, hr, hop.symm⟩
  obtain ⟨hunconf, hunres⟩ := h.unspoken hr hp
  refine ⟨?_, ?_, ?_, ?_, ?_, ?_, ?_⟩
  · show ((putRecord r' B.records).map (·.operationId)).Nodup
    rw [map_putRecord]; exact h.unique
  · intro x hx y hy hxp hyp hxy
    -- a record on the interface of `r'` was on the interface of the pending `r`, so it was `r`
    have hclash : ∀ z ∈ B.records, z.operationId ≠ r'.operationId → isPending z.state = true →
        z.targetInterface ≠ r'.targetInterface := fun z hz hne hzp heq =>
      hne (by rw [h.lone z hz r hr hzp hp (heq.trans hif), hop])
    rcases mem_putRecord h.unique hx with hxr | ⟨hx', hxne⟩ <;> rcases mem_putRecord h.unique hy with hyr | ⟨hy', hyne⟩
    · rw [hxr, hyr]
    · rw [hxr] at hxy
      exact absurd hxy.symm (hclash y hy' hyne hyp)
    · rw [hyr] at hxy
      exact absurd hxy (hclash x hx' hxne hxp)
    · exact h.lone x hx' y hy' hxp hyp hxy
  · intro x hx hst
    rcases mem_putRecord h.unique hx with rfl | ⟨hx, -⟩
    · obtain ⟨now, hm⟩ := hf.confirmed hst
      exact ⟨now, mem_append_left _ hm⟩
    · obtain ⟨now, hm⟩ := h.confirmed x hx hst
      exact ⟨now, mem_append_right _ hm⟩
  · intro op now hm
    rcases mem_append.1 hm with hm | hm
    · obtain ⟨rfl, hst, hnow⟩ := hf.inTime op now hm
      exact ⟨r', hself, rfl, hst, hnow⟩
    · obtain ⟨x, hx, hxop, hst, hnow⟩ := h.inTime op now hm
      exact ⟨x, h.mem_put_of_ne hr hp hop hx (by rw [hst]; rfl), hxop, hst, hnow⟩
  · intro op later now earlier hs e he
    rcases split_append hs with ⟨rest, hnew⟩ | ⟨rest, hlater, hes⟩
    · exact hf.final op later now rest hnew e he
    · rw [hlater] at he
      rcases mem_append.1 he with he | he
      · have hsaid : Event.confirmed op now ∈ B.events := by rw [hes]; simp
        by_contra hres
        have hopr := hf.own e he op (by simpa using hres)
        rw [hopr, hop] at hsaid
        exact hunconf now hsaid
      · exact h.final op rest now earlier hes e he
  · intro op s hm
    rcases mem_append.1 hm with hm | hm
    · obtain ⟨rfl, hst⟩ := hf.restored op s hm
      exact ⟨r', hself, rfl, hst⟩
    · obtain ⟨x, hx, hxop, hst⟩ := h.restored op s hm
      exact ⟨x, h.mem_put_of_ne hr hp hop hx (by rw [hst]; rfl), hxop, hst⟩
  · intro op
    show ((new ++ B.events).filter _).length ≤ 1
    rw [filter_append, length_append]
    by_cases hopr : op = r'.operationId
    · -- the operation was pending, so no restore of it is in the older part
      subst hopr
      rw [filter_isRestored (l := B.events) (hop ▸ hunres)]
      exact hf.once _
    · rw [filter_isRestored (l := new) fun s hs => hopr (hf.restored op s hs).1]
      simpa using h.once op

theorem enroll (h : Orderly B) (d : NetworkDesiredState) (hstate : r.state = .prepared)
    (hnew : ∀ x ∈ B.records, x.operationId ≠ r.operationId)
    (hfree : ∀ x ∈ B.records, isPending x.state = true → x.targetInterface ≠ r.targetInterface) :
    Orderly ⟨B.records ++ [r], .begun r.operationId d :: B.events⟩ := by
  have h' := h.say (e := .begun r.operationId d) (fun _ _ heq => by cases heq) (fun _ => rfl)
  have hmem : ∀ x, x ∈ B.records ++ [r] → x ∈ B.records ∨ x = r := fun x hx => by
    simpa using hx
  refine ⟨nodup_snoc h.unique hnew, ?_, ?_, ?_, h'.final, ?_, h'.once⟩
  · intro x hx y hy hxp hyp hxy
    rcases hmem x hx with hx' | hxr <;> rcases hmem y hy with hy' | hyr
    · exact h.lone x hx' y hy' hxp hyp hxy
    · rw [hyr] at hxy
      exact absurd hxy (hfree x hx' hxp)
    · rw [hxr] at hxy
      exact absurd hxy.symm (hfree y hy' hyp)
    · rw [hxr, hyr]
  · intro x hx hst
    rcases hmem x hx with hx | rfl
    · exact h'.confirmed x hx hst
    · rw [hstate] at hst; cases hst
  · intro op now hm
    obtain ⟨x, hx, hrest⟩ := h'.inTime op now hm
    exact ⟨x, mem_append_left _ hx, hrest⟩
  · intro op s hm
    obtain ⟨x, hx, hrest⟩ := h'.restored op s hm
    exact ⟨x, mem_append_left _ hx, hrest⟩

/-- **One act keeps the invariant.** -/
theorem act (h : Orderly B) (ha : Act B B') : Orderly B' := by
  cases ha with
  | enroll r d hstate hnew hfree => exact h.enroll d hstate hnew hfree
  | attempt e he =>
    refine h.say (fun op now heq => ?_) (fun op => ?_)
    · rw [heq] at he; cases he
    · cases e <;> simp_all [Event.isAttempt, Event.isRestoreOf]
  | accept r hr hp =>
    refine h.put hr hp .pendingConfirmation (Fits.of_restores (fun hst => by cases hst) ?_ ?_ ?_)
    · simp
    · simp
    · simp
  | confirm r now hr hp hnow => exact h.put hr hp .confirmed (Fits.of_confirm rfl hnow)
  | rolling r hr hp =>
    refine h.put hr hp .rollingBack (Fits.of_restores (fun hst => by cases hst) ?_ ?_ ?_)
    · simp [Event.isRestoreOf]
    · simp
    · simp [Event.isRestored]
  | rolledBack r hr hp =>
    refine h.put hr hp .rolledBack (Fits.of_restores (fun hst => by cases hst) ?_ (fun _ _ _ => rfl) ?_)
    · simp [Event.isRestoreOf]
    · intro op
      by_cases hop : r.operationId = op <;> simp [Event.isRestored, hop]
  | failed r hr hp =>
    refine h.put hr hp .failed (Fits.of_restores (fun hst => by cases hst) ?_ ?_ ?_)
    · simp [Event.isRestoreOf]
    · simp
    · simp [Event.isRestored]

theorem acts (h : Orderly B) (ha : Relation.ReflTransGen Act B B') : Orderly B' := by
  induction ha with
  | refl => exact h
  | tail _ hact ih => exact ih.act hact

end Orderly
end SafeApply
end NetTool
