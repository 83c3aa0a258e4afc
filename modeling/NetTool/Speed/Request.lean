import Mathlib.Data.List.Dedup
import NetTool.Lib.Check
import NetTool.Speed.Config
/-!
# Speed.Request — the payload of `speed.run` (`crates/speed/src/config.rs`)

`SpeedRunRequest` and its `validate`.  The backend is a registry name; the checks of PCI addresses and MAC addresses are
the ones the Node repeats.
-/
namespace NetTool
namespace Speed

inductive SpeedProtocol
  | tcp | udp | raw
  deriving DecidableEq

inductive Direction
  | upload | download | bidirectional
  deriving DecidableEq

structure SpeedRunRequest where
  node : String
  protocol : SpeedProtocol
  backend : String
  direction : Direction
  durationMs : Nat
  warmupMs : Nat
  cooldownMs : Nat
  streams : Option UInt16
  frameSize : Option UInt16
  targetRateBps : Option Nat
  autoTune : Bool
  latencyUnderLoad : Bool
  cpus : Option (List UInt32)
  numaNode : Option UInt32
  acceleratedPciAddress : Option String
  acceleratedInterfaceName : Option String
  remoteAcceleratedPciAddress : Option String
  remoteMacAddress : Option String

def validPciBdf : String → Bool := isPciBdf

def validUnicastMac : String → Bool := isUnicastMac

def socketBackend (backend : String) : Bool := backend == "socket" || backend == "native"

def acceleratedBackend (backend : String) : Bool := backend == "dpdk" || backend == "af_xdp" || backend == "rio"

namespace SpeedRunRequest

variable (request : SpeedRunRequest)

def validateCpus : Result Unit :=
  match request.cpus with
  | none => .ok ()
  | some cpus => do
    if cpus.isEmpty then .error (invalid "CPU affinity list must not be empty")
    -- sorted and without repetitions the list would be shorter
    if cpus.dedup.length ≠ cpus.length then .error (invalid "CPU affinity list contains duplicates")
    if request.backend ≠ "dpdk" ∧ request.backend ≠ "af_xdp" then
      .error (invalid "CPU affinity requires an accelerated backend")

def validateAccelerated : Result Unit := do
  if request.acceleratedPciAddress.isSome = request.acceleratedInterfaceName.isSome then
    .error (invalid "accelerated backend requires exactly one PCI BDF or interface name")
  if request.acceleratedPciAddress.any (fun pci => !validPciBdf pci) then
    .error (invalid "accelerated PCI BDF is invalid")
  if request.acceleratedInterfaceName.any
      (fun name => name.isEmpty || 256 < name.utf8ByteSize || name.toList.any isControl) then
    .error (invalid "accelerated interface name is invalid")
  if request.backend = "dpdk" ∧ !request.remoteAcceleratedPciAddress.any validPciBdf then
    .error (invalid "DPDK backend requires a valid remote PCI BDF")
  if request.backend = "dpdk" ∧ request.protocol = .raw ∧ !request.remoteMacAddress.any validUnicastMac then
    .error (invalid "DPDK raw Ethernet requires a valid remote unicast MAC")
  if request.backend ≠ "dpdk" ∧ request.remoteAcceleratedPciAddress.isSome then
    .error (invalid "only the DPDK backend accepts a remote PCI BDF")

def validateSelectors : Result Unit :=
  if request.acceleratedPciAddress.isSome ∨ request.acceleratedInterfaceName.isSome ∨
      request.remoteAcceleratedPciAddress.isSome ∨ request.remoteMacAddress.isSome then
    .error (invalid "socket and native backends do not accept accelerated NIC selectors")
  else .ok ()

def validateNics : Result Unit :=
  if acceleratedBackend request.backend then request.validateAccelerated else request.validateSelectors

def validateProtocol : Result Unit :=
  match request.protocol with
  | .tcp =>
    if request.frameSize.isSome ∨ request.targetRateBps.isSome then
      .error (invalid "TCP does not accept raw frame size or target rate")
    else .ok ()
  | .udp =>
    if request.frameSize.isSome ∨ request.targetRateBps = some 0 then
      .error (invalid "UDP requires a valid rate and does not accept frame size")
    else .ok ()
  | .raw => do
    if request.backend ≠ "dpdk" then .error (invalid "raw Ethernet currently requires the DPDK backend")
    if request.frameSize.all (· < 64) ∨ request.targetRateBps = some 0 then
      .error (invalid "raw Ethernet requires frame size >= 64 and a valid rate")
    if request.streams.any (· ≠ 1) then
      .error (invalid "raw Ethernet uses queue/flow sharding, not TCP streams")

def validate : Result Unit := do
  if trimIsEmpty request.node then .error (invalid "speed run requires a remote node")
  if !socketBackend request.backend ∧ !acceleratedBackend request.backend then
    .error (invalid "speed backend is not registered")
  if request.durationMs = 0 then .error (invalid "measurement duration must be non-zero")
  if request.streams = some 0 then .error (invalid "stream count must be non-zero")
  request.validateCpus
  if request.numaNode.isSome ∧ socketBackend request.backend then
    .error (invalid "NUMA selection requires an accelerated backend")
  request.validateNics
  request.validateProtocol

/-! ## What the checks let through -/

structure Valid : Prop where
  node : trimIsEmpty request.node = false
  backend : socketBackend request.backend = false → acceleratedBackend request.backend = true
  duration : request.durationMs ≠ 0
  streams : request.streams ≠ some 0
  cpus : request.validateCpus = .ok ()
  numa : request.numaNode.isSome = true → socketBackend request.backend = false
  nics : request.validateNics = .ok ()
  protocol : request.validateProtocol = .ok ()

variable {request}

theorem validate_ok : request.validate = .ok () ↔ request.Valid := by
  unfold validate
  simp only [Check.error_bind, Check.guard_ok, Check.bind_ok, Bool.not_eq_true', not_and, Bool.not_eq_false,
    Bool.not_eq_true]
  constructor
  · rintro ⟨hnode, hbackend, hduration, hstreams, _, hcpus, hnuma, _, hnics, hprotocol⟩
    exact ⟨hnode, hbackend, hduration, hstreams, hcpus, hnuma, hnics, hprotocol⟩
  · intro h
    exact ⟨h.node, h.backend, h.duration, h.streams, (), h.cpus, h.numa, (), h.nics, h.protocol⟩

theorem validateProtocol_raw (hraw : request.protocol = .raw) (h : request.validateProtocol = .ok ()) :
    request.backend = "dpdk" := by
  unfold validateProtocol at h
  rw [hraw] at h
  simp only [Check.error_bind, Check.guard_ok, Check.pure_ok, ne_eq, not_not] at h
  exact h.1

theorem validateProtocol_tcp (htcp : request.protocol = .tcp) (h : request.validateProtocol = .ok ()) :
    request.frameSize = none ∧ request.targetRateBps = none := by
  unfold validateProtocol at h
  rw [htcp] at h
  simpa using h

theorem validateProtocol_udp (hudp : request.protocol = .udp) (h : request.validateProtocol = .ok ()) :
    request.frameSize = none ∧ request.targetRateBps ≠ some 0 := by
  unfold validateProtocol at h
  rw [hudp] at h
  simpa using h

end SpeedRunRequest

end Speed
end NetTool
