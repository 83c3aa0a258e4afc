import Mathlib.Order.MinMax
import NetTool.Text
/-!
# Speed.Rate — the average rate of a run (`rate` in `socket_udp.rs`, `result` in `tcp.rs`)

Both engines multiply the byte count up to bits times 10⁹ in `u64`, saturating, and divide by the elapsed nanoseconds.
The product saturates at about 2.3 GB, long before a quotient over seconds would: from there on the reported rate is the
largest `u64` over the elapsed time, whatever was transferred (`average_rate_iff`).
-/
namespace NetTool
namespace Speed

/-- The nanoseconds of a `Duration` as the engines report them: cut to `u64`, and at least 1. -/
def elapsedNanoseconds (elapsed : Nat) : Nat := max (min elapsed (2 ^ 64 - 1)) 1

def rate (bytes elapsedNanoseconds : Nat) : Nat :=
  saturatingMul (saturatingMul bytes 8) 1000000000 / max elapsedNanoseconds 1

structure TcpRunResult where
  streams : UInt16
  transferredBytes : Nat
  elapsedNanoseconds : Nat
  averageBitsPerSecond : Nat

/-- `result`: what the TCP sender and receiver report. -/
def tcpResult (streams : UInt16) (transferredBytes elapsed : Nat) : TcpRunResult :=
  let nanos := elapsedNanoseconds elapsed
  { streams
    transferredBytes
    elapsedNanoseconds := nanos
    averageBitsPerSecond := saturatingMul (saturatingMul transferredBytes 8) 1000000000 / nanos }

structure UdpSenderResult where
  txPackets : Nat
  txDatagramBytes : Nat
  elapsedNanoseconds : Nat
  txBitsPerSecond : Nat

/-- What the UDP sender reports; the receiver reports its rate the same way. -/
def udpSenderResult (sequence transmittedBytes elapsed : Nat) : UdpSenderResult :=
  let nanos := elapsedNanoseconds elapsed
  ⟨sequence, transmittedBytes, nanos, rate transmittedBytes nanos⟩

/-! ## Over the integers -/

def scaledBits (bytes : Nat) : Nat := bytes * 8 * 1000000000

/-- The average rate over the integers, the largest `u64` where it does not fit; a run that took no measurable time
counts as one nanosecond. -/
def averageRate (bytes elapsed : Nat) : Nat := min (scaledBits bytes / max elapsed 1) (2 ^ 64 - 1)

theorem elapsedNanoseconds_of_lt {elapsed : Nat} (h : elapsed < 2 ^ 64) :
    elapsedNanoseconds elapsed = max elapsed 1 := by
  unfold elapsedNanoseconds
  omega

theorem rate_eq (bytes elapsed : Nat) : rate bytes elapsed = min (scaledBits bytes) (2 ^ 64 - 1) / max elapsed 1 := by
  unfold rate saturatingMul scaledBits
  refine congrArg (· / max elapsed 1) ?_
  omega

/-- A cut product divides like the whole one exactly when the cut does not show in the quotient. -/
theorem min_div_eq_iff {p m e : Nat} (he : 0 < e) (hm : 0 < m) :
    min p m / e = min (p / e) m ↔ p / e ≤ m / e ∨ e = 1 := by
  by_cases hp : p ≤ m
  · have hle : p / e ≤ m / e := Nat.div_le_div_right hp
    have hfit : p / e ≤ m := hle.trans (Nat.div_le_self m e)
    rw [min_eq_left hp, min_eq_left hfit]
    exact iff_of_true rfl (.inl hle)
  · have hmp : m ≤ p := by omega
    rw [min_eq_right hmp]
    have hge : m / e ≤ p / e := Nat.div_le_div_right hmp
    constructor
    · intro heq
      by_cases hone : e = 1
      · exact .inr hone
      · -- the quotient of the cut product is below the cut itself
        have hlt : m / e < m := Nat.div_lt_self hm (by omega)
        have hfit : p / e < m := by omega
        rw [min_eq_left hfit.le] at heq
        exact .inl heq.ge
    · rintro (hle | hone)
      · have hself : m / e ≤ m := Nat.div_le_self m e
        have heq : p / e = m / e := le_antisymm hle hge
        rw [heq, min_eq_left hself]
      · rw [hone, Nat.div_one, Nat.div_one, min_eq_right hmp]

/-- **The engines report the average rate exactly when the saturated product does not show in the quotient.** -/
theorem average_rate_iff (streams : UInt16) (packets : Nat) (bytes elapsed : UInt64) :
    ((udpSenderResult packets bytes.toNat elapsed.toNat).txBitsPerSecond = averageRate bytes.toNat elapsed.toNat ∧
      rate bytes.toNat elapsed.toNat = averageRate bytes.toNat elapsed.toNat ∧
      (tcpResult streams bytes.toNat elapsed.toNat).averageBitsPerSecond = averageRate bytes.toNat elapsed.toNat) ↔
    scaledBits bytes.toNat / max elapsed.toNat 1 ≤ (2 ^ 64 - 1) / max elapsed.toNat 1 ∨ elapsed.toNat ≤ 1 := by
  have hnanos := elapsedNanoseconds_of_lt elapsed.toNat_lt
  have hsender : (udpSenderResult packets bytes.toNat elapsed.toNat).txBitsPerSecond =
    rate bytes.toNat elapsed.toNat := by
    show rate _ (elapsedNanoseconds elapsed.toNat) = _
    rw [rate_eq, rate_eq]
    congr 1
    omega
  have htcp : (tcpResult streams bytes.toNat elapsed.toNat).averageBitsPerSecond = rate bytes.toNat elapsed.toNat := by
    show _ / elapsedNanoseconds elapsed.toNat = _
    rw [hnanos]
    rfl
  have hone : max elapsed.toNat 1 = 1 ↔ elapsed.toNat ≤ 1 := by omega
  rw [hsender, htcp, rate_eq, ← hone, ← min_div_eq_iff (by omega) (by omega)]
  exact ⟨fun h => h.1, fun h => ⟨h, h, h⟩⟩

/-- 3 GB in a second: the engines report 2⁶⁴ − 1 over 10⁹, where 24 Gbit/s were transferred. -/
theorem three_gigabytes_in_a_second :
    rate 3000000000 1000000000 = 18446744073 ∧ averageRate 3000000000 1000000000 = 24000000000 ∧
      (tcpResult 1 3000000000 1000000000).averageBitsPerSecond = 18446744073 ∧
      (udpSenderResult 2500000 3000000000 1000000000).txBitsPerSecond = 18446744073 := by
  decide

end Speed
end NetTool
