import NetTool.Speed.Config
/-!
# Speed.Pacing — the pacing of the UDP sender (`crates/speed/src/pacing.rs`, the loop of `run_udp_sender`)

A sender with a target rate asks its pacer before a burst how many packets the time that has passed allows, and tells it
after the burst how many it sent.  The loop is a machine that moves on each time the clock is read or a send returns, so
the clock may go on by any amount in between; it stays within the rate at every moment (`udp_sender_paced`).
-/
namespace NetTool
namespace Speed

/-! ## The pacer -/

structure BatchPacer where
  bitsPerSecond : Nat
  wireBytesPerPacket : Nat
  sentPackets : Nat
  deriving DecidableEq

def BatchPacer.new (bitsPerSecond wireBytesPerPacket : Nat) : Result BatchPacer :=
  if bitsPerSecond = 0 ∨ wireBytesPerPacket = 0 then
    .error (invalid "batch pacer rate and wire size must be non-zero")
  else .ok ⟨bitsPerSecond, wireBytesPerPacket, 0⟩

/-- The products of two `u64` fit `u128`, and what is at most a `u32` fits one. -/
def BatchPacer.availablePackets (pacer : BatchPacer) (elapsedNanoseconds maximumBurst : Nat) : Nat :=
  let allowedBits := pacer.bitsPerSecond * elapsedNanoseconds / 1000000000
  let bitsPerPacket := pacer.wireBytesPerPacket * 8
  let allowedPackets := allowedBits / bitsPerPacket
  let outstanding := allowedPackets - pacer.sentPackets
  min outstanding maximumBurst

def BatchPacer.recordSent (pacer : BatchPacer) (packets : Nat) : Result BatchPacer :=
  match checkedAdd pacer.sentPackets packets with
  | some sentPackets => .ok { pacer with sentPackets }
  | none => .error (invalid "UDP sent packet counter overflow")

def budget (bitsPerSecond size elapsed : Nat) : Nat := bitsPerSecond * elapsed / 1000000000 / (8 * size)

theorem budget_mono (bitsPerSecond size : Nat) {earlier later : Nat} (h : earlier ≤ later) :
    budget bitsPerSecond size earlier ≤ budget bitsPerSecond size later :=
  Nat.div_le_div_right (Nat.div_le_div_right (Nat.mul_le_mul_left _ h))

theorem availablePackets_eq (rate size sent elapsed burst : Nat) :
    (BatchPacer.mk rate size sent).availablePackets elapsed burst = min (budget rate size elapsed - sent) burst := by
  simp [BatchPacer.availablePackets, budget, Nat.mul_comm]

/-! ## The loop of the sender -/

/-- What comes next: a look at the deadline, at the budget, or for one packet of a burst at the deadline, at the clock
for its timestamp, and the send.  `left` packets follow this one in the burst, and `sent` were sent before it. -/
inductive SendPoint
  | deadline
  | budget
  | packet (left sent : Nat)
  | timestamp (left sent : Nat)
  | send (left sent sendTimestamp : Nat)
  | ended
  | failed (error : NetToolError)
  deriving DecidableEq

/-- `packets` are the sequence numbers and timestamps of the data packets handed to the socket. -/
structure UdpSending where
  point : SendPoint
  pacer : Option BatchPacer
  sequence : Nat
  transmittedBytes : Nat
  packets : List (Nat × Nat)
  deriving DecidableEq

/-- The instant of the next step, in nanoseconds since the start, and what a send that returns then returns. -/
structure SendEvent where
  instant : Nat
  outcome : Result Nat

namespace UdpSending

def start (config : UdpSenderConfig) : Result UdpSending := do
  config.validate
  let pacer ← match config.targetBitsPerSecond with
    | none => .ok none
    | some rate => (BatchPacer.new rate config.datagramBytes).map some
  pure ⟨.deadline, pacer, 0, 0, []⟩

/-- The packets sent in a burst are put down with the pacer. -/
def endBurst (s : UdpSending) (sent : Nat) : UdpSending :=
  match s.pacer with
  | none => { s with point := .deadline }
  | some pacer => match pacer.recordSent sent with
    | .ok pacer => { s with point := .deadline, pacer := some pacer }
    | .error error => { s with point := .failed error }

/-- What a send returned, and the counters after it. -/
def sent (config : UdpSenderConfig) (s : UdpSending) (outcome : Result Nat) :
    Result (Nat × Nat) := do
  let length ← outcome
  if length ≠ config.datagramBytes then
    .error (.new .speedFailed "UDP socket reported a partial datagram send" true)
  let sequence ← (checkedAdd s.sequence 1).elim (.error (invalid "UDP sequence counter overflow")) .ok
  let transmittedBytes ← (checkedAdd s.transmittedBytes config.datagramBytes).elim
    (.error (invalid "UDP byte counter overflow")) .ok
  pure (sequence, transmittedBytes)

def step (config : UdpSenderConfig) (s : UdpSending) (event : SendEvent) : UdpSending :=
  let deadline := config.measurementMilliseconds * 1000000
  let elapsed := min event.instant (2 ^ 64 - 1)
  match s.point with
  | .deadline => { s with point := if event.instant < deadline then .budget else .ended }
  | .budget =>
    let available := match s.pacer with
      | none => config.maximumPacketsPerBurst.toNat
      | some pacer => pacer.availablePackets elapsed config.maximumPacketsPerBurst.toNat
    match available with
    | 0 => { s with point := .deadline }
    | left + 1 => { s with point := .packet left 0 }
  | .packet left sent =>
    if deadline ≤ event.instant then s.endBurst sent else { s with point := .timestamp left sent }
  | .timestamp left sent => { s with point := .send left sent elapsed }
  | .send left sent sendTimestamp =>
    let s := { s with packets := s.packets ++ [(s.sequence, sendTimestamp)] }
    match s.sent config event.outcome with
    | .error error => { s with point := .failed error }
    | .ok (sequence, transmittedBytes) =>
      let s := { s with sequence, transmittedBytes }
      match left with
      | 0 => s.endBurst (sent + 1)
      | left + 1 => { s with point := .packet left (sent + 1) }
  | .ended => s
  | .failed _ => s

/-! ## Within the budget -/

/-- The packets sent are within the budget of the time, those that are left in the burst included, and the pacer knows
of all but those of the burst. -/
def Paced (rate size now : Nat) (s : UdpSending) : Prop :=
  ∃ known, s.pacer = some ⟨rate, size, known⟩ ∧
    match s.point with
    | .deadline | .budget => known = s.packets.length ∧ s.packets.length ≤ Speed.budget rate size now
    | .packet left sent | .timestamp left sent | .send left sent _ =>
      known + sent = s.packets.length ∧ s.packets.length + left + 1 ≤ Speed.budget rate size now
    | .ended | .failed _ => s.packets.length ≤ Speed.budget rate size now

variable {config : UdpSenderConfig} {rate size past now : Nat} {s : UdpSending}

theorem Paced.length_le (h : Paced rate size now s) : s.packets.length ≤ Speed.budget rate size now := by
  obtain ⟨known, -, hpoint⟩ := h
  cases hs : s.point <;> simp only [hs] at hpoint <;> omega

theorem Paced.mono (h : Paced rate size past s) (hle : past ≤ now) : Paced rate size now s := by
  obtain ⟨known, hpacer, hpoint⟩ := h
  have hbudget := budget_mono rate size hle
  refine ⟨known, hpacer, ?_⟩
  cases hs : s.point <;> simp only [hs] at hpoint ⊢ <;> omega

/-- At the end of a burst the pacer is told of all packets, or the sender fails. -/
theorem endBurst_paced {known sent : Nat} (hpacer : s.pacer = some ⟨rate, size, known⟩)
    (hknown : known + sent = s.packets.length)
    (hle : s.packets.length ≤ Speed.budget rate size now) : Paced rate size now (s.endBurst sent) := by
  simp only [endBurst, hpacer, BatchPacer.recordSent, checkedAdd]
  by_cases hfits : known + sent < 2 ^ 64
  · rw [if_pos hfits]
    exact ⟨known + sent, rfl, hknown, hle⟩
  · rw [if_neg hfits]
    exact ⟨known, rfl, hle⟩

/-- **One step keeps within the budget** of its instant. -/
theorem step_paced {event : SendEvent} (h : Paced rate size past s) (hle : past ≤ event.instant) :
    Paced rate size event.instant (s.step config event) := by
  obtain ⟨known, hpacer, hpoint⟩ := h.mono hle
  cases hs : s.point with (simp only [hs] at hpoint; simp only [step, hs])
  | deadline =>
    split
    · exact ⟨known, hpacer, hpoint⟩
    · exact ⟨known, hpacer, hpoint.2⟩
  | budget =>
    have hcap := budget_mono rate size (Nat.min_le_left event.instant (2 ^ 64 - 1))
    simp only [hpacer, availablePackets_eq]
    split
    · exact ⟨known, rfl, hpoint⟩
    · exact ⟨known, rfl, hpoint.1, by simp only; omega⟩
  | packet left sent =>
    split
    · exact endBurst_paced hpacer hpoint.1 (by omega)
    · exact ⟨known, hpacer, hpoint⟩
  | timestamp left sent => exact ⟨known, hpacer, hpoint⟩
  | send left sent sendTimestamp =>
    split
    · exact ⟨known, hpacer, by simp; omega⟩
    · cases left with
      | zero => exact endBurst_paced hpacer (by simp; omega) (by simp; omega)
      | succ left => exact ⟨known, hpacer, by simp; omega⟩
  | ended
  | failed error => exact ⟨known, hpacer, by simpa only [hs] using hpoint⟩

/-- **A run keeps within the budget**, where the clock does not go back. -/
theorem run_paced {events : List SendEvent} (h : Paced rate size past s)
    (hclock : (past :: (events.map (·.instant) ++ [now])).Pairwise (· ≤ ·)) :
    Paced rate size now (events.foldl (step config) s) := by
  induction events generalizing s past with
  | nil => exact h.mono (by simpa using hclock)
  | cons event events ih =>
    rw [List.pairwise_cons] at hclock
    exact ih (step_paced h (hclock.1 _ (.head _))) hclock.2

theorem start_paced {started : UdpSending} (h : start config = .ok started)
    (hrate : config.targetBitsPerSecond = some rate) : Paced rate config.datagramBytes 0 started := by
  simp only [start, hrate, Check.bind_ok, BatchPacer.new] at h
  obtain ⟨_, -, pacer, hpacer, h⟩ := h
  cases h
  split at hpacer <;> cases hpacer
  exact ⟨0, rfl, by simp⟩

/-- **A sender with a target rate is paced.**  At every moment, whatever the clock showed before it as long as it did
not go back, the data packets it has handed to the socket are within the budget; and whenever its pacer allows none of a
non-empty burst, one more would not be. -/
theorem udp_sender_paced {started : UdpSending} (hstart : start config = .ok started)
    (hrate : config.targetBitsPerSecond = some rate) {events : List SendEvent}
    (hclock : (events.map (·.instant) ++ [now]).Pairwise (· ≤ ·)) :
    let s := events.foldl (step config) started
    s.packets.length ≤ Speed.budget rate config.datagramBytes now ∧
    ∀ pacer burst elapsed, s.point = .budget → s.pacer = some pacer → elapsed = min now (2 ^ 64 - 1) → burst ≠ 0 →
      pacer.availablePackets elapsed burst = 0 →
        Speed.budget rate config.datagramBytes elapsed < s.packets.length + 1 := by
  have hpaced : Paced rate config.datagramBytes now (events.foldl (step config) started) :=
    run_paced (start_paced hstart hrate) (List.pairwise_cons.2 ⟨fun _ _ => Nat.zero_le _, hclock⟩)
  refine ⟨hpaced.length_le, fun pacer burst elapsed hpoint hpacer _ hburst hzero => ?_⟩
  obtain ⟨known, hknown, hcount⟩ := hpaced
  simp only [hpoint] at hcount
  cases hpacer.symm.trans hknown
  rw [availablePackets_eq] at hzero
  omega

/-- One packet of 1250 bytes in a millisecond. -/
def sampleSender : UdpSenderConfig :=
  ⟨Bytes.replicate 16 7, 0, 1250, 1000, some 10000000, 32, hexString (List.replicate 32 7)⟩

/-- A first look at the budget after two milliseconds, and the first send. -/
def sampleSends : List SendEvent :=
  [⟨0, .ok 0⟩, ⟨2000000, .ok 0⟩, ⟨2000000, .ok 0⟩, ⟨2000001, .ok 0⟩, ⟨2000007, .ok 1250⟩]

theorem udp_sender_paced_burst : start sampleSender = .ok ⟨.deadline, some ⟨10000000, 1250, 0⟩, 0, 0, []⟩ ∧
    (sampleSends.foldl (step sampleSender) ⟨.deadline, some ⟨10000000, 1250, 0⟩, 0, 0, []⟩).packets.length ≤
      Speed.budget 10000000 1250 2000010 := by
  have hstart : start sampleSender = .ok ⟨.deadline, some ⟨10000000, 1250, 0⟩, 0, 0, []⟩ := by decide
  have hclock : (sampleSends.map SendEvent.instant ++ [2000010]).Pairwise (· ≤ ·) := by decide
  exact ⟨hstart, (udp_sender_paced hstart rfl hclock).1⟩

end UdpSending

end Speed
end NetTool
