import Mathlib.Tactic.Common
import NetTool.Text
/-!
# Speed.Jitter — the jitter of a UDP measurement (`UdpJitterTracker` in `crates/speed/src/udp.rs`)

The receiver feeds the send and receive time of every packet into a filter over the differences of consecutive transit
times.  The filter sees nothing but these differences (`estimate_eq`), so it does not depend on the two clocks'
offsets, and it moves toward the newest difference without passing it, so it stays below the largest.
-/
namespace NetTool
namespace Speed

structure UdpJitterTracker where
  previousTransitNanoseconds : Option Int := none
  jitterNanoseconds : Nat := 0

/-- One step of the filter, with the difference as a `u64`. -/
def smooth (jitter delta : Nat) : Nat :=
  let delta := min delta (2 ^ 64 - 1)
  if jitter ≤ delta then saturatingAdd jitter ((delta - jitter) / 16) else jitter - (jitter - delta) / 16

/-- The times are `u64`, so none of the source's `i128` subtractions saturates. -/
def UdpJitterTracker.observe (tracker : UdpJitterTracker) (sendTimestamp receiveTimestamp : UInt64) :
    UdpJitterTracker :=
  let transit : Int := receiveTimestamp.toNat - sendTimestamp.toNat
  { previousTransitNanoseconds := some transit
    jitterNanoseconds :=
      match tracker.previousTransitNanoseconds with
      | some previous => smooth tracker.jitterNanoseconds (transit - previous).natAbs
      | none => tracker.jitterNanoseconds }

abbrev TimedPacket := UInt64 × UInt64

def estimate (packets : List TimedPacket) : Nat :=
  (packets.foldl (fun tracker packet => tracker.observe packet.1 packet.2) ({} : UdpJitterTracker)).jitterNanoseconds

/-! ## What the filter sees -/

def transit (packet : TimedPacket) : Int := packet.2.toNat - packet.1.toNat

def deltas : List Int → List Nat
  | t :: t' :: rest => (t' - t).natAbs :: deltas (t' :: rest)
  | _ => []

def largest (values : List Nat) : Nat := values.foldr max 0

theorem foldl_observe (packets : List TimedPacket) (previous : Int) (jitter : Nat) :
    (packets.foldl (fun tracker packet => tracker.observe packet.1 packet.2)
      (⟨some previous, jitter⟩ : UdpJitterTracker)).jitterNanoseconds =
      (deltas (previous :: packets.map transit)).foldl smooth jitter := by
  induction packets generalizing previous jitter with
  | nil => rfl
  | cons packet packets ih =>
    exact ih (transit packet) _

/-- **The estimate is the filter over the differences of consecutive transit times.** -/
theorem estimate_eq (packets : List TimedPacket) :
    estimate packets = (deltas (packets.map transit)).foldl smooth 0 := by
  cases packets with
  | nil => rfl
  | cons packet packets => exact foldl_observe packets (transit packet) 0

theorem deltas_add (offset : Int) (times : List Int) : deltas (times.map (· + offset)) = deltas times := by
  induction times with
  | nil => rfl
  | cons t rest ih =>
    cases rest with
    | nil => rfl
    | cons t' rest =>
      have hdelta : t' + offset - (t + offset) = t' - t := by omega
      simp only [List.map_cons, deltas, hdelta] at ih ⊢
      rw [ih]

theorem smooth_le (jitter delta : Nat) : smooth jitter delta ≤ max jitter delta := by
  unfold smooth saturatingAdd
  dsimp only
  split <;> omega

theorem foldl_smooth_le (values : List Nat) (jitter : Nat) :
    values.foldl smooth jitter ≤ max jitter (largest values) := by
  induction values generalizing jitter with
  | nil => exact Nat.le_max_left ..
  | cons delta values ih =>
    have hstep := smooth_le jitter delta
    have hrest := ih (smooth jitter delta)
    have hlargest : largest (delta :: values) = max delta (largest values) := rfl
    rw [List.foldl_cons]
    omega

theorem largest_deltas_of_equal {times : List Int} (h : times.Pairwise (· = ·)) : largest (deltas times) = 0 := by
  induction times with
  | nil => rfl
  | cons t rest ih =>
    cases rest with
    | nil => rfl
    | cons t' rest =>
      have hhead : t = t' := List.rel_of_pairwise_cons h List.mem_cons_self
      have hrest : largest (deltas (t' :: rest)) = 0 := ih h.of_cons
      show max (t' - t).natAbs (largest (deltas (t' :: rest))) = 0
      rw [hrest, hhead, Int.sub_self]
      rfl

/-! ## The estimate -/

/-- The same packets on clocks that are off by constants.  The times are `u64` on both sides: nothing overflowed. -/
def Offset (send receive : Int) (packets shifted : List TimedPacket) : Prop :=
  List.Forall₂ (fun packet other => (other.1.toNat : Int) = packet.1.toNat + send ∧
    (other.2.toNat : Int) = packet.2.toNat + receive) packets shifted

theorem Offset.transits {send receive : Int} {packets shifted : List TimedPacket}
    (h : Offset send receive packets shifted) :
    shifted.map transit = (packets.map transit).map (· + (receive - send)) := by
  induction h with
  | nil => rfl
  | cons hpair _ ih =>
    rw [List.map_cons, List.map_cons, List.map_cons]
    unfold transit
    congr 1
    omega

structure JitterLaws (packets : List TimedPacket) : Prop where
  offset : ∀ send receive shifted, Offset send receive packets shifted → estimate shifted = estimate packets
  bounded : estimate packets ≤ largest (deltas (packets.map transit))
  steady : (packets.map transit).Pairwise (· = ·) → estimate packets = 0

/-- **The estimate does not depend on the clocks' offsets, stays below the largest difference of consecutive transit
times, and is zero when they are all equal.** -/
theorem jitter_laws (packets : List TimedPacket) : JitterLaws packets := by
  have hbounded : estimate packets ≤ largest (deltas (packets.map transit)) := by
    rw [estimate_eq]
    exact (foldl_smooth_le _ 0).trans_eq (Nat.zero_max _)
  refine ⟨?_, hbounded, ?_⟩
  · intro send receive shifted h
    rw [estimate_eq, estimate_eq, h.transits, deltas_add]
  · intro hequal
    rw [largest_deltas_of_equal hequal] at hbounded
    exact Nat.le_zero.1 hbounded

end Speed
end NetTool
