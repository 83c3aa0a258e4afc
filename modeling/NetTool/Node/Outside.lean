import NetTool.Node.Alike
/-!
# Node.Outside — calls on other sessions leave a group alone

A call names one session, and a request one operation ID.  When the session is not of the group and the ID is not held
by it, the coordinator after the call is alike to the one before: the sessions of the group, their results, reservations
and records are as they were.  The reservation of a session carries the session in its ID, so releasing one touches no
other.
-/
namespace NetTool
namespace Node

open Prog Speed Resource SpeedTestLifecycle

section
variable {own : SessionId → Bool} {held ids : String → Prop} {c₀ c : SessionCoordinator} {sid : SessionId} {α : Type}

/-- The coordinator is alike to an earlier one, and under the IDs stands no record of the group. -/
structure Outside (own : SessionId → Bool) (held ids : String → Prop) (c₀ c : SessionCoordinator) : Prop where
  alike : Alike own held c₀ c
  unnamed : ∀ id, ids id → ∀ record, c.operations.lookup id = some record → own record.sessionId = false

theorem Outside.refl_none (c : SessionCoordinator) : Outside own held (fun _ => False) c c :=
  ⟨.refl c, fun _ hid => hid.elim⟩

variable {id : String} {orphans : Prop} {c' : SessionCoordinator}

theorem Outside.refl_fresh (h : c.operations.lookup id = none) : Outside own held (· = id) c c := by
  refine ⟨.refl c, ?_⟩
  rintro _ rfl record hrecord
  rw [h] at hrecord
  cases hrecord

/-! ## Writes outside of the group -/

theorem ne_of_own {sid' : SessionId} (hsid : own sid = false) (hown : own sid' = true) : sid' ≠ sid := by
  rintro rfl
  rw [hsid] at hown
  cases hown

theorem ReservationFor.unique {sid' : SessionId} (h : ReservationFor sid id) (h' : ReservationFor sid' id) :
    sid = sid' := by
  obtain ⟨kind, rfl⟩ := h
  obtain ⟨kind', hkind⟩ := h'
  exact Subtype.ext (append_hexString_injective (sid.2.trans sid'.2.symm) hkind)

section
variable (h : Outside own held ids c₀ c)
include h

theorem Outside.setSession (hsid : own sid = false) (s : Session) : Outside own held ids c₀ (c.setSession sid s) := by
  have hnot := Bool.eq_false_iff.1 hsid
  refine ⟨?_, h.unnamed⟩
  cases s with
  | tcp x => exact { h.alike with tcp := h.alike.tcp.put_right hnot x }
  | udp x => exact { h.alike with udp := h.alike.udp.put_right hnot x }
  | dpdk x => exact { h.alike with dpdk := h.alike.dpdk.put_right hnot x }

theorem Outside.log {record : OperationRecord} (hid : ids id) (hheld : ¬ held id)
    (hrecord : own record.sessionId = false) : Outside own held ids c₀ (c.log id record) := by
  have hlookup : ∀ id', (c.log id record).operations.lookup id' = if id' = id then some record
    else c.operations.lookup id' :=
    fun id' => Table.lookup_put id id' record c.operations
  refine ⟨{ h.alike with
    records := fun id' record' hown => ?_, operations := h.alike.operations.put_right hheld record },
    fun id' hid' record' => ?_⟩
  · rw [hlookup]
    split
    · -- The record that stood there was none of the group, and neither is the one that stands there now.
      rename_i heq
      rw [heq, h.alike.records id record' hown]
      refine iff_of_false (fun hold => ?_) (fun hnew => ?_)
      · rw [h.unnamed id hid record' hold] at hown
        cases hown
      · cases hnew
        rw [hrecord] at hown
        cases hown
    · exact h.alike.records id' record' hown
  · rw [hlookup]
    split
    · intro hnew
      cases hnew
      exact hrecord
    · exact h.unnamed id' hid' record'

theorem Outside.setReservation {r : Reservation} {m : ResourceManager} (hsid : own sid = false)
    (hid : ReservationFor sid id)
    (hm : Sets id r c.resources m) : Outside own held ids c₀ { c with resources := m } := by
  refine ⟨{ h.alike with reservations := fun sid' hown kind => ?_ }, h.unnamed⟩
  rw [hm.lookup, if_neg, h.alike.reservations sid' hown kind]
  intro heq
  exact ne_of_own hsid hown (ReservationFor.unique ⟨kind, heq.symm⟩ hid)

end

/-! ## Requests -/

def LeavesAlike (own : SessionId → Bool) (held : String → Prop) (m : Coord α) (c : SessionCoordinator) : Prop :=
  Leaves (Alike own held c) m c

section
variable {Endpoint Response : Type} {p : Preparation Endpoint Response} (hp : p.Names) (hsid : own p.sessionId = false)
  (hheld : ¬ held p.operationId)
include hp hsid hheld

theorem Prepares.alike {os : Os} {now expiresAt : Nat} {response : Response} {endpoint : Endpoint} {tag : String}
    {r : Reservation} {m : ResourceManager} (h : Prepares p os now c response c' expiresAt endpoint tag r m) :
    Alike own held c c' := by
  have hfresh : Outside own held (· = p.operationId) c c := .refl_fresh h.fresh
  have hgranted := hfresh.setReservation hsid hp.reservation h.acquired.sets
  have hrecord : own (p.prepared expiresAt endpoint tag).record.sessionId = false := by
    rw [hp.record, hsid]
  rw [h.state]
  exact ((hgranted.setSession hsid _).log rfl hheld hrecord).alike

theorem prepare_leavesAlike (os : Os) (now : Nat) : LeavesAlike own held (prepare p os now) c := by
  apply wp_mono (wp_prepare p os now c)
  · rintro a c' (⟨rfl, -⟩ | ⟨_, _, _, _, _, h⟩)
    · exact .refl _
    · exact h.alike hp hsid hheld
  · rintro e c' rfl
    exact .refl _

end

section
variable (hsid : own sid = false)
include hsid

theorem runs_alike (h : Runs sid c c') : Alike own held c c' := by
  obtain ⟨s, s', -, -, -, -, -, rfl⟩ := h
  exact ((Outside.refl_none c).setSession hsid s').alike

theorem takes_alike (h : Takes sid c c') : Alike own held c c' := by
  rcases h with rfl | ⟨s, s', -, -, -, -, -, rfl⟩
  · exact .refl _
  · exact ((Outside.refl_none c).setSession hsid s').alike

variable (hg : Good orphans c)
include hg

theorem start_leavesAlike (hheld : ¬ held id) (startAt now : Nat) :
    LeavesAlike own held (start sid id startAt now) c := by
  apply wp_mono (wp_start hg sid id startAt now)
  · rintro a c' (⟨rfl, -⟩ | ⟨hop, s, scheduled, -, -, -, rfl⟩)
    · exact .refl _
    · have hfresh : Outside own held (· = id) c c := .refl_fresh hop
      exact Outside.alike ((hfresh.setSession hsid _).log rfl hheld hsid)
  · rintro e c' (⟨rfl, -⟩ | ⟨-, s, scheduled, -, -, rfl⟩)
    · exact .refl _
    · exact ((Outside.refl_none c).setSession hsid _).alike

theorem Finishes.alike {final : NodeConnectionState} {c₁ : SessionCoordinator} (h : Finishes sid final c c')
    (hlog : Alike own held c c₁) (hops : c'.operations = c₁.operations) : Alike own held c c' := by
  obtain ⟨s, s', r, ⟨hs, -, -, -, hsessions, -, hrelease, hres, hpending⟩, -⟩ := h
  have hset : Alike own held c (c.setSession sid s') := ((Outside.refl_none c).setSession hsid s').alike
  have hreleased : Alike own held c { c with resources := c'.resources } :=
    ((Outside.refl_none c).setReservation hsid (hg.shape sid s hs).reservation hrelease).alike
  refine { hreleased with
    tcp := ?_, udp := ?_, dpdk := ?_, results := ?_, pending := fun sid' _ => ?_, records := ?_, operations := ?_ }
  · rw [hsessions]
    exact hset.tcp
  · rw [hsessions]
    exact hset.udp
  · rw [hsessions]
    exact hset.dpdk
  · rcases hres with ⟨-, hsame⟩ | ⟨-, result, hput⟩
    · rw [hsame]
      exact hreleased.results
    · rw [hput]
      exact hreleased.results.put_right (Bool.eq_false_iff.1 hsid) result
  · exact (hg.pending sid').trans (hpending sid').symm
  · rw [hops]
    exact hlog.records
  · rw [hops]
    exact hlog.operations

theorem stop_leavesAlike (hheld : ¬ held id) : LeavesAlike own held (stop sid id) c := by
  apply wp_mono (wp_stop hg sid id)
  · rintro a c' (⟨rfl, -⟩ | ⟨hop, -, hops, h⟩)
    · exact .refl _
    · have hfresh : Outside own held (· = id) c c := .refl_fresh hop
      have hlogged : Alike own held c (c.log id (.stop sid .canceled)) :=
        Outside.alike (hfresh.log rfl hheld hsid)
      rcases h with ⟨rfl, -⟩ | h
      · exact hlogged
      · exact h.alike hsid hg hlogged hops
  · rintro e c' rfl
    exact .refl _

/-! ## The scheduler and the workers -/

theorem conclude_leavesAlike (ext : Externals) {allowed : NodeConnectionState → Bool} (refusal : String)
    {final : NodeConnectionState} (hallowed : ∀ state, allowed state = true → cancelable state = true)
    (hfinal : final = .completed ∨ final = .failed) (json : List UInt8) :
    LeavesAlike own held (conclude ext allowed refusal final sid json) c := by
  apply wp_mono (wp_conclude hg ext refusal hallowed hfinal sid json)
  · rintro a c' ⟨hops, ⟨rfl, -⟩ | ⟨h, -⟩⟩
    · exact .refl _
    · exact h.alike hsid hg (.refl c) hops
  · rintro e c' ⟨rfl, -⟩
    exact .refl _

theorem handsOut_leavesAlike {call : Call} (ext : Externals) (hcall : call.handsOut = some sid) :
    LeavesAlike own held (call.run ext) c := by
  rcases handsOut_run hg ext hcall with ⟨now, -, h⟩ | h
  · refine wp_mono h (fun _ _ hr => runs_alike hsid hr.begun.runs) ?_
    rintro e c' (rfl | hr)
    · exact .refl _
    · exact runs_alike hsid hr.runs
  · exact wp_mono h (fun _ _ hands => takes_alike hsid hands.spends.takes)
      (fun _ _ spends => takes_alike hsid spends.takes)

theorem beginScheduled_leavesAlike (now : Nat) : LeavesAlike own held (beginScheduled sid now) c := by
  refine wp_mono (wp_beginScheduled hg sid now) ?_ ?_
  · rintro _ c' ⟨s, startAt, hb, rfl⟩
    exact runs_alike hsid hb.runs
  · rintro _ c' ⟨rfl, -⟩
    exact .refl _

end

end

end Node
end NetTool
