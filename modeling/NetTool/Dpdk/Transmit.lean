import NetTool.Packet.Generator
import NetTool.Speed.Request
/-!
# Dpdk.Transmit — the native DPDK sender (`backend-dpdk/src/executor.rs`) and its two callers

The executor takes a frame template and the frame size on the wire, and asks that the template be as long as the frame.
Both callers build the template with the generator, which leaves out the frame check sequence: no template they build is
accepted (`transmit_passes_iff`), so neither of them ever sends (`runNativeDpdkTx_fails`, `runRawUpload_fails`).
-/
namespace NetTool
namespace Dpdk

open Packet Speed RawGeneratorProfile

/-! ## The executor -/

structure RxQueueAssignment where
  queueId : UInt16
  logicalCpu : UInt32

structure QueuePlan where
  numaNode : Int
  rxQueues : UInt16
  txQueues : UInt16
  rxAssignments : List RxQueueAssignment

def QueuePlan.validate (plan : QueuePlan) : Result Unit := do
  if plan.rxQueues = 0 ∨ plan.txQueues = 0 then .error (Packet.invalid "queue plan RX/TX queues must be non-zero")
  if plan.rxAssignments.length ≠ plan.rxQueues.toNat then
    .error (Packet.invalid "queue plan assignment count does not match RX queues")
  -- sorted, two neighbours are equal exactly when a CPU occurs twice
  if ¬ (plan.rxAssignments.map (·.logicalCpu)).Nodup then
    .error (Packet.invalid "queue plan CPU owners must be unique")
  if plan.rxAssignments.zipIdx.any (fun p => p.1.queueId != toU16 p.2) then
    .error (Packet.invalid "queue plan queue IDs must be contiguous")

/-- `dddd:bb:dd.f` with a function number up to 7.  The source reads bytes; a text with a character above ASCII has a
byte that is refused. -/
def validPciBdf (value : String) : Bool :=
  let chars := value.toList
  chars.length == 12 && chars[4]? == some ':' && chars[7]? == some ':' && chars[10]? == some '.' &&
    chars[11]?.any (fun c => '0' ≤ c && c ≤ '7') &&
    chars.zipIdx.all (fun p => p.2 == 4 || p.2 == 7 || p.2 == 10 || p.2 == 11 || isAsciiHexdigit p.1)

structure NativeDpdkExecutionRequest where
  pciAddress : String
  frameSize : UInt16
  packets : Nat
  queuePlan : QueuePlan
  frameTemplate : List UInt8

def NativeDpdkExecutionRequest.validate (request : NativeDpdkExecutionRequest) : Result Unit := do
  if !validPciBdf request.pciAddress ∨ request.frameSize < 64 ∨ request.packets = 0 ∨
      request.frameTemplate.length ≠ request.frameSize.toNat then
    .error (Packet.invalid "native DPDK executor request is invalid")
  request.queuePlan.validate

/-- `execute_native_tx`; `burst` is what runs on the NIC. -/
def executeNativeTx {Report : Type} (burst : NativeDpdkExecutionRequest → Result Report)
    (request : NativeDpdkExecutionRequest) : Result Report := do
  request.validate
  burst request

/-! ## The callers -/

def generatorProfile (frameSize : UInt16) (packets : Nat) : RawGeneratorProfile where
  ethernetSize := frameSize
  network := .ipv4
  transport := .udp
  sourceIps := ⟨.v4 0xc0000201#32, .v4 0xc0000201#32⟩
  destinationIps := ⟨.v4 0xc6336401#32, .v4 0xc6336401#32⟩
  sourcePorts := ⟨10000, 10000⟩
  destinationPorts := ⟨20000, 20000⟩
  flowCount := 1
  packetRate := packets

/-- The template of a profile, for a destination MAC address or for none. -/
def template (profile : RawGeneratorProfile) : Option String → Result (List UInt8)
  | none => profile.templateBytes
  | some destinationMac => profile.templateBytesWithDestinationMac destinationMac

/-- The request a caller assembles from a template and the profile's frame size. -/
def transmitRequest (profile : RawGeneratorProfile) (pciAddress : String) (packets : Nat) (queuePlan : QueuePlan)
    (frameTemplate : List UInt8) : NativeDpdkExecutionRequest :=
  ⟨pciAddress, profile.ethernetSize, packets, queuePlan, frameTemplate⟩

section
variable {Report : Type} (burst : NativeDpdkExecutionRequest → Result Report)
  (queuePlan : Result QueuePlan)

/-- The data plane's `run_native_dpdk_tx`; `queuePlan` is what the planner gave and pinned the worker to. -/
def runNativeDpdkTx (interface : String) (frameSize : UInt16) (packets : Nat) : Result Report := do
  let plan ← queuePlan
  let profile := generatorProfile frameSize packets
  let frameTemplate ← template profile none
  executeNativeTx burst (transmitRequest profile interface packets plan frameTemplate)

/-- The number of packets the Agent sends for a raw request. -/
def rawPackets (request : SpeedRunRequest) : Nat :=
  let bitsPerPacket := max (saturatingMul (request.frameSize.getD 64).toNat 8) 1
  max (saturatingMul (request.targetRateBps.getD 0) request.durationMs / max (saturatingMul bitsPerPacket 1000) 1) 1

/-- The raw branch of the Agent's `run_upload_sender`. -/
def runRawUpload (request : SpeedRunRequest) : Result Report :=
  match request.acceleratedPciAddress, request.remoteMacAddress with
  | none, _ => .error (Packet.invalid "raw DPDK request is missing PCI BDF")
  | some _, none => .error (Packet.invalid "raw DPDK request is missing remote MAC")
  | some pci, some destinationMac => do
    let plan ← queuePlan
    let profile := generatorProfile (request.frameSize.getD 64) (rawPackets request)
    let frameTemplate ← template profile (some destinationMac)
    executeNativeTx burst (transmitRequest profile pci (rawPackets request) plan frameTemplate)

end

/-! ## What the executor says -/

section
variable {profile : RawGeneratorProfile} {destinationMac : Option String} {pciAddress : String} {packets : Nat}
  {queuePlan : QueuePlan}

/-- The inputs a template is built for. -/
def Templated (profile : RawGeneratorProfile) (destinationMac : Option String) : Prop :=
  profile.Builds ∧ ∀ text, destinationMac = some text → ∃ mac, parseMac text = .ok mac

theorem template_length (h : Templated profile destinationMac) :
    ∃ bytes, template profile destinationMac = .ok bytes ∧ bytes.length = profile.ethernetSize.toNat - 4 := by
  obtain ⟨hbuilds, hmac⟩ := h
  cases destinationMac with
  | none => exact templateBytes_length hbuilds
  | some text =>
    obtain ⟨mac, hmac⟩ := hmac text rfl
    obtain ⟨bytes, hbytes, hlength⟩ := templateBytes_length hbuilds
    have hsize := (valid_of_validate hbuilds.valid).size
    unfold template templateBytesWithDestinationMac
    simp only [hbytes, hmac, Check.ok_bind]
    refine ⟨_, rfl, ?_⟩
    rw [Slice.length_copyAt, hlength]
    rw [length_parseMac hmac]
    omega

theorem templated_of_template {bytes : List UInt8} (h : template profile destinationMac = .ok bytes) :
    Templated profile destinationMac := by
  cases destinationMac with
  | none => exact ⟨builds_of_templateBytes h, fun _ hnone => by cases hnone⟩
  | some text =>
    unfold template templateBytesWithDestinationMac at h
    simp only [Check.bind_ok] at h
    obtain ⟨_, hbytes, mac, hmac, -⟩ := h
    refine ⟨builds_of_templateBytes hbytes, ?_⟩
    rintro _ ⟨⟩
    exact ⟨mac, hmac⟩

/-- **The executor refuses every template the generator builds.** -/
theorem validate_transmitRequest {bytes : List UInt8} (h : template profile destinationMac = .ok bytes) :
    (transmitRequest profile pciAddress packets queuePlan bytes).validate =
      .error (Packet.invalid "native DPDK executor request is invalid") := by
  have htemplated := templated_of_template h
  have hsize := (valid_of_validate htemplated.1.valid).size
  obtain ⟨bytes', hbytes', hlength⟩ := template_length htemplated
  rw [h] at hbytes'
  cases hbytes'
  have hne : bytes.length ≠ profile.ethernetSize.toNat := by omega
  exact if_pos (.inr (.inr (.inr hne)))

theorem executeNativeTx_refuses {Report : Type} (burst : NativeDpdkExecutionRequest → Result Report)
    {bytes : List UInt8} (h : template profile destinationMac = .ok bytes) (report : Report) :
    executeNativeTx burst (transmitRequest profile pciAddress packets queuePlan bytes) ≠ .ok report := by
  unfold executeNativeTx
  rw [validate_transmitRequest h]
  exact fun hok => by cases hok

end

section
variable {Report : Type} (burst : NativeDpdkExecutionRequest → Result Report)
  (queuePlan : Result QueuePlan)

/-- Neither caller ever sends. -/
theorem runNativeDpdkTx_fails (interface : String) (frameSize : UInt16) (packets : Nat) (report : Report) :
    runNativeDpdkTx burst queuePlan interface frameSize packets ≠ .ok report := by
  unfold runNativeDpdkTx
  intro hok
  simp only [Check.bind_ok] at hok
  obtain ⟨plan, -, bytes, htemplate, hexecute⟩ := hok
  exact executeNativeTx_refuses burst htemplate report hexecute

theorem runRawUpload_fails (request : SpeedRunRequest) (report : Report) :
    runRawUpload burst queuePlan request ≠ .ok report := by
  unfold runRawUpload
  intro hok
  split at hok
  · cases hok
  · cases hok
  · simp only [Check.bind_ok] at hok
    obtain ⟨plan, -, bytes, htemplate, hexecute⟩ := hok
    exact executeNativeTx_refuses burst htemplate report hexecute

end

/-! ## The agreement of generator and executor -/

def TransmitPasses (profile : RawGeneratorProfile) (destinationMac : Option String) (pciAddress : String)
    (packets : Nat) (queuePlan : QueuePlan) : Prop :=
  ∀ bytes, template profile destinationMac = .ok bytes →
    (transmitRequest profile pciAddress packets queuePlan bytes).validate = .ok ()

/-- **The request passes only where there is no template to make it from**, whatever the PCI address, the packet count
and the queue plan are. -/
theorem transmit_passes_iff (profile : RawGeneratorProfile) (destinationMac : Option String) (pciAddress : String)
    (packets : Nat) (queuePlan : QueuePlan) :
    TransmitPasses profile destinationMac pciAddress packets queuePlan ↔ ¬ Templated profile destinationMac := by
  constructor
  · intro hpass htemplated
    obtain ⟨bytes, hbytes, -⟩ := template_length htemplated
    have hok := hpass bytes hbytes
    rw [validate_transmitRequest hbytes] at hok
    cases hok
  · intro hnot bytes hbytes
    exact absurd (templated_of_template hbytes) hnot

def samplePlan : QueuePlan := ⟨0, 1, 1, [⟨0, 0⟩]⟩

/-- A frame of 64 bytes: the template has 60. -/
theorem template_is_refused :
    ∃ bytes, template (generatorProfile 64 1) (some "02:00:00:00:00:aa") = .ok bytes ∧ bytes.length = 60 ∧
      validPciBdf "0000:01:00.0" = true ∧ samplePlan.validate = .ok () ∧
      (transmitRequest (generatorProfile 64 1) "0000:01:00.0" 1 samplePlan bytes).validate =
        .error (Packet.invalid "native DPDK executor request is invalid") := by
  refine ⟨_, rfl, by decide, by decide, by decide, by decide⟩

end Dpdk
end NetTool
