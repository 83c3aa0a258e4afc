import Mathlib.Data.List.Sort
import NetTool.Dpdk.Transmit
import NetTool.Packet.Template
/-!
# Dpdk.Planning — which CPU polls which queue (`backend-dpdk/src/planning.rs`)

The planner sorts the CPUs of the NIC's NUMA node and gives the smallest of them a queue each.  What it accepts and
plans is said once (`planQueues_ok_iff`); the check it makes of its own plan never fires.
-/
namespace NetTool
namespace Dpdk

open Check Packet List

structure DataPlaneCpu where
  logicalId : UInt32
  numaNode : Int

inductive QueueSelection
  | auto
  | explicit (value : UInt16)

structure NicQueueCapacity where
  receive : UInt16
  transmit : UInt16

def repeats (ids : List UInt32) : Bool := (ids.zip ids.tail).any (fun pair => pair.1 == pair.2)

def sorted (ids : List UInt32) : List UInt32 := ids.mergeSort (· ≤ ·)

/-- The CPUs of the NIC's node, in the order they are listed. -/
def localIds (nicNumaNode : Int) (availableCpus : List DataPlaneCpu) : List UInt32 :=
  (availableCpus.filter (fun cpu => cpu.numaNode = nicNumaNode)).map (·.logicalId)

def QueueSelection.requested (automatic : Nat) : QueueSelection → Nat
  | auto => automatic
  | explicit value => value.toNat

def assignments (cpus : List UInt32) : List RxQueueAssignment :=
  cpus.zipIdx.map (fun (cpu, index) => ⟨toU16 index, cpu⟩)

def planQueues (nicNumaNode : Int) (nicCapacity : NicQueueCapacity) (availableCpus : List DataPlaneCpu)
    (configuredMaximum : UInt16) (selection : QueueSelection) : Result QueuePlan :=
  if nicCapacity.receive = 0 ∨ nicCapacity.transmit = 0 ∨ configuredMaximum = 0 then
    .error (Packet.invalid "NIC queue capacity and configured maximum must be non-zero")
  else
    let localCpus := sorted (localIds nicNumaNode availableCpus)
    if repeats localCpus then .error (Packet.invalid "available data-plane CPU IDs must be unique")
    else
      let automatic := min (min nicCapacity.receive.toNat localCpus.length) configuredMaximum.toNat
      let requested := selection.requested automatic
      let txQueues := min requested nicCapacity.transmit.toNat
      if requested = 0 then .error (Packet.invalid "no same-NUMA data-plane CPU is available")
      else if requested > nicCapacity.receive.toNat ∨ requested > configuredMaximum.toNat ∨
        requested > localCpus.length then
        .error (Packet.invalid "requested RX queues exceed NIC, configured, or same-NUMA CPU capacity")
      else if txQueues = 0 then .error (Packet.invalid "no TX queue is available")
      else if 2 ^ 16 ≤ requested then .error (Packet.invalid "RX queue count overflow")
      else if 2 ^ 16 ≤ txQueues then .error (Packet.invalid "TX queue count overflow")
      else do
        let plan : QueuePlan := ⟨nicNumaNode, toU16 requested, toU16 txQueues, assignments (localCpus.take requested)⟩
        plan.validate
        .ok plan

/-! ## Sorted CPUs -/

section
variable {ids cpus : List UInt32}

theorem pairwise_sorted (ids : List UInt32) : (sorted ids).Pairwise (· ≤ ·) := by
  have h : (sorted ids).Pairwise (fun a b => decide (a ≤ b) = true) :=
    pairwise_mergeSort (by simpa using fun _ _ _ => UInt32.le_trans) (by simpa using UInt32.le_total) ids
  exact h.imp of_decide_eq_true

theorem sorted_perm (ids : List UInt32) : (sorted ids).Perm ids := mergeSort_perm ids _

theorem repeats_eq_false : ∀ {ids : List UInt32}, ids.Pairwise (· ≤ ·) → (repeats ids = false ↔ ids.Nodup)
  | [], _ => by simp [repeats]
  | [a], _ => by simp [repeats]
  | a :: b :: ids, h => by
    have hstep : repeats (a :: b :: ids) = false ↔ a ≠ b ∧ repeats (b :: ids) = false := by simp [repeats]
    rw [pairwise_cons] at h
    rw [hstep, repeats_eq_false h.2, nodup_cons (a := a)]
    refine and_congr_left fun _ => ⟨fun hne hmem => ?_, fun hnot heq => hnot (heq ▸ mem_cons_self)⟩
    -- The smallest of the rest comes first there.
    rcases mem_cons.1 hmem with heq | hmem
    · exact hne heq
    · exact hne (UInt32.le_antisymm (h.1 b mem_cons_self) ((pairwise_cons.1 h.2).1 a hmem))

theorem repeats_sorted : repeats (sorted ids) = false ↔ ids.Nodup :=
  (repeats_eq_false (pairwise_sorted ids)).trans (sorted_perm ids).nodup_iff

theorem strict_sorted (h : ids.Nodup) : (sorted ids).Pairwise (· < ·) :=
  (pairwise_sorted ids).imp₂ (fun _ _ hle hne => UInt32.lt_of_le_of_ne hle hne) ((sorted_perm ids).nodup_iff.2 h)

theorem sorted_eq_of_perm {ids' : List UInt32} (h : ids.Perm ids') : sorted ids = sorted ids' :=
  ((sorted_perm ids).trans (h.trans (sorted_perm ids').symm)).eq_of_pairwise (fun _ _ _ _ => UInt32.le_antisymm)
    (pairwise_sorted ids) (pairwise_sorted ids')

/-! ## Assignments -/

theorem assignments_cpus (cpus : List UInt32) : (assignments cpus).map (·.logicalCpu) = cpus := by
  unfold assignments
  rw [map_map]
  exact zipIdx_map_fst 0 cpus

theorem assignments_queues (h : cpus.length ≤ 2 ^ 16) :
    (assignments cpus).map (·.queueId.toNat) = List.range cpus.length := by
  unfold assignments
  rw [map_map, range_eq_range', ← zipIdx_map_snd 0 cpus]
  refine map_congr_left fun p hp => toNat_toU16 ?_
  exact (snd_lt_of_mem_zipIdx hp).trans_le (by simpa using h)

theorem validate_assignments {node : Int} {rx tx : UInt16} (hrx : rx.toNat = cpus.length) (hpos : 0 < cpus.length)
    (htx : 0 < tx.toNat) (hnodup : cpus.Nodup) : QueuePlan.validate ⟨node, rx, tx, assignments cpus⟩ = .ok () := by
  have hzero : ¬ (rx = 0 ∨ tx = 0) := by
    rintro (rfl | rfl)
    · exact hpos.ne hrx
    · exact htx.ne rfl
  have hids : ((assignments cpus).zipIdx.any fun p => p.1.queueId != toU16 p.2) = false := by
    refine any_eq_false.2 fun p hp => ?_
    obtain ⟨_, -, heq⟩ : ∃ cpu, cpus[p.2]? = some cpu ∧ (⟨toU16 p.2, cpu⟩ : RxQueueAssignment) = p.1 := by
      simpa [assignments] using mem_zipIdx_iff_getElem?.1 hp
    simp [← heq]
  unfold QueuePlan.validate
  rw [if_neg hzero, assignments_cpus, hids]
  simp [assignments, hrx, hnodup]

end

/-! ## Plans -/

section
variable (node : Int) (capacity : NicQueueCapacity) (cpus : List DataPlaneCpu) (maximum : UInt16)

/-- Inputs that are not refused as invalid. -/
structure Admitted : Prop where
  receive : capacity.receive ≠ 0
  transmit : capacity.transmit ≠ 0
  maximum : maximum ≠ 0
  unique : cpus.Pairwise (fun cpu other => cpu.numaNode = node → other.numaNode = node →
    cpu.logicalId ≠ other.logicalId)

/-- A number of receive queues that the NIC, its CPUs and the configuration allow. -/
structure Feasible (k : Nat) : Prop where
  pos : 1 ≤ k
  receive : k ≤ capacity.receive.toNat
  cpus : k ≤ cpus.countP (·.numaNode = node)
  maximum : k ≤ maximum.toNat

/-- The plan for `k` receive queues. -/
def planFor (k : Nat) : QueuePlan :=
  ⟨node, toU16 k, toU16 (min k capacity.transmit.toNat), assignments ((sorted (localIds node cpus)).take k)⟩

def automatic : Nat := min (min capacity.receive.toNat (cpus.countP (·.numaNode = node))) maximum.toNat

variable {node capacity cpus maximum} {selection : QueueSelection} {plan : QueuePlan}

theorem length_localIds : (localIds node cpus).length = cpus.countP (·.numaNode = node) :=
  (length_map _).trans countP_eq_length_filter.symm

theorem nodup_localIds : (localIds node cpus).Nodup ↔ cpus.Pairwise
    (fun cpu other => cpu.numaNode = node → other.numaNode = node → cpu.logicalId ≠ other.logicalId) := by
  unfold localIds List.Nodup
  simp only [pairwise_map, pairwise_filter, decide_eq_true_eq]

theorem mem_localIds {id : UInt32} : id ∈ localIds node cpus ↔ ∃ cpu ∈ cpus, cpu.numaNode = node ∧
    cpu.logicalId = id := by
  simp [localIds, and_assoc]

theorem Admitted.transmit_pos (h : Admitted node capacity cpus maximum) : 0 < capacity.transmit.toNat :=
  Nat.pos_of_ne_zero fun hzero => h.transmit (UInt16.toNat_inj.1 hzero)

section
variable {k : Nat} (h : Feasible node capacity cpus maximum k)
include h

theorem Feasible.lt : k < 2 ^ 16 := h.receive.trans_lt capacity.receive.toNat_lt

theorem Feasible.le_automatic : k ≤ automatic node capacity cpus maximum :=
  Nat.le_min.2 ⟨Nat.le_min.2 ⟨h.receive, h.cpus⟩, h.maximum⟩

theorem Feasible.length_take : ((sorted (localIds node cpus)).take k).length = k := by
  rw [List.length_take, (sorted_perm _).length_eq, length_localIds]
  exact Nat.min_eq_left h.cpus

theorem Feasible.rxQueues : (planFor node capacity cpus k).rxQueues.toNat = k := toNat_toU16 h.lt

theorem Feasible.txQueues : (planFor node capacity cpus k).txQueues.toNat = min k capacity.transmit.toNat :=
  toNat_toU16 ((Nat.min_le_left _ _).trans_lt h.lt)

/-- **The check the planner makes of its own plan never fires.** -/
theorem Feasible.validate (hadmitted : Admitted node capacity cpus maximum) :
    (planFor node capacity cpus k).validate = .ok () := by
  refine validate_assignments (h.rxQueues.trans h.length_take.symm) (h.pos.trans h.length_take.ge) ?_
    (((sorted_perm _).nodup_iff.2 (nodup_localIds.2 hadmitted.unique)).sublist (take_sublist _ _))
  exact (Nat.lt_min.2 ⟨h.pos, hadmitted.transmit_pos⟩).trans_eq h.txQueues.symm

end

theorem planQueues_ok_iff : planQueues node capacity cpus maximum selection = .ok plan ↔
    Admitted node capacity cpus maximum ∧
    Feasible node capacity cpus maximum (selection.requested (automatic node capacity cpus maximum)) ∧
    plan = planFor node capacity cpus (selection.requested (automatic node capacity cpus maximum)) := by
  unfold planQueues
  simp only [guard_ok, bind_ok, (sorted_perm _).length_eq, length_localIds, Bool.not_eq_true, repeats_sorted,
    nodup_localIds, not_or, Except.ok.injEq]
  rw [← automatic]
  generalize selection.requested (automatic node capacity cpus maximum) = k
  constructor
  · rintro ⟨⟨hr, ht, hm⟩, hunique, hpos, ⟨hkr, hkm, hkc⟩, -, -, -, _, -, rfl⟩
    exact ⟨⟨hr, ht, hm, hunique⟩, ⟨by omega, by omega, by omega, by omega⟩, rfl⟩
  · rintro ⟨h, hk, rfl⟩
    have htransmit := h.transmit_pos
    have hlt := hk.lt
    obtain ⟨hpos, hkr, hkc, hkm⟩ := id hk
    exact ⟨⟨h.receive, h.transmit, h.maximum⟩, h.unique, by omega,
      ⟨by omega, by omega, by omega⟩, by omega, by omega, by omega, (), hk.validate h, rfl⟩

def QueuePlan.owners (plan : QueuePlan) : List UInt32 := plan.rxAssignments.map (·.logicalCpu)

variable (node capacity cpus) in
structure Planned (plan : QueuePlan) : Prop where
  numaNode : plan.numaNode = node
  queueIds : plan.rxAssignments.map (·.queueId.toNat) = List.range plan.rxQueues.toNat
  distinct : plan.owners.Nodup
  «local» : ∀ id ∈ plan.owners, ∃ cpu ∈ cpus, cpu.numaNode = node ∧ cpu.logicalId = id
  smallest : ∀ id ∈ plan.owners, ∀ cpu ∈ cpus, cpu.numaNode = node → cpu.logicalId ∉ plan.owners → id < cpu.logicalId
  transmit : 1 ≤ plan.txQueues.toNat ∧ plan.txQueues.toNat ≤ min plan.rxQueues.toNat capacity.transmit.toNat

theorem planned {k : Nat} (h : Admitted node capacity cpus maximum) (hk : Feasible node capacity cpus maximum k) :
    Planned node capacity cpus (planFor node capacity cpus k) := by
  have howners : (planFor node capacity cpus k).owners = (sorted (localIds node cpus)).take k := assignments_cpus _
  have hunique := nodup_localIds.2 h.unique
  refine ⟨rfl, ?_, ?_, ?_, ?_, ?_⟩
  · rw [hk.rxQueues]
    conv_rhs => rw [← hk.length_take]
    exact assignments_queues (hk.length_take.trans_le hk.lt.le)
  · rw [howners]
    exact ((sorted_perm _).nodup_iff.2 hunique).sublist (take_sublist _ _)
  · rw [howners]
    exact fun id hid => mem_localIds.1 ((sorted_perm _).mem_iff.1 (mem_of_mem_take hid))
  · rw [howners]
    intro id hid cpu hcpu hnode hnot
    have hother := mem_localIds.2 ⟨cpu, hcpu, hnode, rfl⟩
    have hsplit := strict_sorted hunique
    rw [← take_append_drop k (sorted _), pairwise_append] at hsplit
    rw [← (sorted_perm _).mem_iff, ← take_append_drop k (sorted _), mem_append] at hother
    exact hsplit.2.2 id hid _ (hother.resolve_left hnot)
  · rw [hk.rxQueues, hk.txQueues]
    exact ⟨Nat.lt_min.2 ⟨hk.pos, h.transmit_pos⟩, le_rfl⟩

end

/-- **Queue planning.**  An automatic selection takes the largest feasible number of queues and an explicit one the
number asked for; each succeeds exactly when its number is feasible and the inputs are valid, and the order of the CPUs
makes no difference. -/
theorem plan_queues_characterised (node : Int) (capacity : NicQueueCapacity) (cpus : List DataPlaneCpu)
    (maximum : UInt16) :
    (∀ plan, planQueues node capacity cpus maximum .auto = .ok plan →
      plan.rxQueues.toNat = min (min capacity.receive.toNat (cpus.countP (·.numaNode = node))) maximum.toNat ∧
      Feasible node capacity cpus maximum plan.rxQueues.toNat ∧
      ∀ k, Feasible node capacity cpus maximum k → k ≤ plan.rxQueues.toNat) ∧
    ((∃ plan, planQueues node capacity cpus maximum .auto = .ok plan) ↔
      Admitted node capacity cpus maximum ∧ ∃ k, Feasible node capacity cpus maximum k) ∧
    (∀ k, (∃ plan, planQueues node capacity cpus maximum (.explicit k) = .ok plan) ↔
      Admitted node capacity cpus maximum ∧ Feasible node capacity cpus maximum k.toNat) ∧
    (∀ k plan, planQueues node capacity cpus maximum (.explicit k) = .ok plan → plan.rxQueues = k) ∧
    (∀ selection plan, planQueues node capacity cpus maximum selection = .ok plan → Planned node capacity cpus plan) ∧
    ∀ selection cpus', cpus.Perm cpus' →
      planQueues node capacity cpus' maximum selection = planQueues node capacity cpus maximum selection := by
  refine ⟨?_, ?_, ?_, ?_, ?_, ?_⟩
  · intro plan h
    obtain ⟨-, hk, rfl⟩ := planQueues_ok_iff.1 h
    rw [hk.rxQueues]
    exact ⟨rfl, hk, fun _ => Feasible.le_automatic⟩
  · constructor
    · rintro ⟨plan, h⟩
      obtain ⟨hadmitted, hk, -⟩ := planQueues_ok_iff.1 h
      exact ⟨hadmitted, _, hk⟩
    · rintro ⟨hadmitted, k, hk⟩
      refine ⟨_, planQueues_ok_iff.2 ⟨hadmitted, ⟨?_, ?_, ?_, ?_⟩, rfl⟩⟩
      · exact hk.pos.trans hk.le_automatic
      · exact (Nat.min_le_left _ _).trans (Nat.min_le_left _ _)
      · exact (Nat.min_le_left _ _).trans (Nat.min_le_right _ _)
      · exact Nat.min_le_right _ _
  · intro k
    constructor
    · rintro ⟨plan, h⟩
      obtain ⟨hadmitted, hk, -⟩ := planQueues_ok_iff.1 h
      exact ⟨hadmitted, hk⟩
    · rintro ⟨hadmitted, hk⟩
      exact ⟨_, planQueues_ok_iff.2 ⟨hadmitted, hk, rfl⟩⟩
  · intro k plan h
    obtain ⟨-, hk, rfl⟩ := planQueues_ok_iff.1 h
    exact UInt16.toNat_inj.1 hk.rxQueues
  · intro selection plan h
    obtain ⟨hadmitted, hk, rfl⟩ := planQueues_ok_iff.1 h
    exact planned hadmitted hk
  · intro selection cpus' hperm
    have hsame : sorted (localIds node cpus) = sorted (localIds node cpus') :=
      sorted_eq_of_perm ((hperm.filter _).map _)
    unfold planQueues
    rw [hsame]

end Dpdk
end NetTool
