import NetTool.Error
import NetTool.Lib.Check
import NetTool.Lib.Slice
import NetTool.Net
import NetTool.Text
/-!
# Packet.Generator — the raw frame template (`crates/packet/src/generator.rs`)

A profile is checked (`validate`) and made into one frame: Ethernet, IP and transport header with their checksums, the
rest zeros.  The frame leaves out the four bytes of the frame check sequence, which the NIC appends: it is four bytes
shorter than the profile's `ethernet_size` (`templateBytes_length`).
-/
namespace NetTool
namespace Packet

open Check Slice List

def invalid (message : String) : NetToolError := .new .invalidArgument message false

inductive GeneratorNetwork
  | ipv4 | ipv6

inductive GeneratorTransport
  | tcp | udp

/-- Both ends belong to the range. -/
structure IpRange where
  start : IpAddr
  «end» : IpAddr

structure PortRange where
  start : UInt16
  «end» : UInt16

structure RawGeneratorProfile where
  ethernetSize : UInt16
  network : GeneratorNetwork
  transport : GeneratorTransport
  sourceIps : IpRange
  destinationIps : IpRange
  sourcePorts : PortRange
  destinationPorts : PortRange
  flowCount : Nat
  packetRate : Nat

def ethernetFcsBytes : UInt16 := 4

/-! ## The checks -/

def validateIpRange (range : IpRange) (network : GeneratorNetwork) : Result Unit :=
  let valid := match range.start, range.end, network with
    | .v4 start, .v4 stop, .ipv4 => decide (start.toNat ≤ stop.toNat)
    | .v6 start, .v6 stop, .ipv6 => decide (start.toNat ≤ stop.toNat)
    | _, _, _ => false
  if valid then .ok () else .error (invalid "IP range family or order does not match the profile")

/-- In `u128`. -/
def ipCardinality (range : IpRange) : Nat :=
  match range.start, range.end with
  | .v4 start, .v4 stop => stop.toNat - start.toNat + 1
  | .v6 start, .v6 stop => min (stop.toNat - start.toNat + 1) (2 ^ 128 - 1)
  | _, _ => 0

def portCardinality (range : PortRange) : Result Nat :=
  if range.start = 0 ∨ range.end < range.start then .error (invalid "transport port range is invalid")
  else .ok (range.end.toNat - range.start.toNat + 1)

def saturatingMul128 (a b : Nat) : Nat := min (a * b) (2 ^ 128 - 1)

namespace RawGeneratorProfile

variable (profile : RawGeneratorProfile)

def validate : Result Unit := do
  if profile.ethernetSize < 64 then .error (invalid "Ethernet wire size must be at least 64 bytes")
  if profile.flowCount = 0 ∨ profile.packetRate = 0 then .error (invalid "flow count and packet rate must be non-zero")
  validateIpRange profile.sourceIps profile.network
  validateIpRange profile.destinationIps profile.network
  let sourcePorts ← portCardinality profile.sourcePorts
  let destinationPorts ← portCardinality profile.destinationPorts
  let capacity := saturatingMul128 (saturatingMul128
    (saturatingMul128 (ipCardinality profile.sourceIps) (ipCardinality profile.destinationIps)) sourcePorts)
      destinationPorts
  if capacity < profile.flowCount then .error (invalid "flow count exceeds the configured address/port matrix")

/-- Without the frame check sequence. -/
def transmitLength : Result UInt16 := do
  profile.validate
  pure (profile.ethernetSize - ethernetFcsBytes)

end RawGeneratorProfile

/-! ## Checksums -/

def toBeBytes (value : UInt16) : List UInt8 := [.ofNat (value.toNat / 256), .ofNat (value.toNat % 256)]

/-- `u32::to_be_bytes` of a length, which fits. -/
def toBeBytes32 (value : Nat) : List UInt8 := [24, 16, 8, 0].map (fun k => .ofNat (value / 2 ^ k))

def octetsV4 (bits : BitVec 32) : List UInt8 := (IpAddr.octets bits).map .ofNat
def octetsV6 (bits : BitVec 128) : List UInt8 :=
  (IpAddr.segments bits).flatMap (fun segment => toBeBytes (.ofNat segment))

/-- One turn of the loop that folds the carries of a `u32` back. -/
def foldOnce (sum : Nat) : Nat := if 65535 < sum then sum % 65536 + sum / 65536 else sum

/-- The loop: a `u32` is down to 16 bits after two turns (`fold_le`). -/
def fold (sum : Nat) : Nat := foldOnce (foldOnce sum)

/-- The sum over `chunks(2)`; a last odd byte counts as the high one. -/
def sumChunks : Nat → List UInt8 → Nat
  | sum, [] => sum
  | sum, [high] => fold (min (sum + high.toNat * 256) (2 ^ 32 - 1))
  | sum, high :: low :: rest => sumChunks (fold (min (sum + (high.toNat * 256 + low.toNat)) (2 ^ 32 - 1))) rest

def checksum (bytes : List UInt8) : UInt16 := .ofNat (65535 - sumChunks 0 bytes)

/-- `u16::try_from(_).unwrap_or(u16::MAX)`. -/
def toU16 (value : Nat) : UInt16 := if value < 2 ^ 16 then .ofNat value else 65535

/-- The fields the transport checksum covers besides the segment; none for two families. -/
def pseudoHeader (source destination : IpAddr) (protocol : UInt8) (length : Nat) : Option (List UInt8) :=
  match source, destination with
  | .v4 source, .v4 destination =>
    some (octetsV4 source ++ octetsV4 destination ++ [0, protocol] ++ toBeBytes (toU16 length))
  | .v6 source, .v6 destination =>
    some (octetsV6 source ++ octetsV6 destination ++ toBeBytes32 length ++ [0, 0, 0, protocol])
  | _, _ => none

def transportChecksum (source destination : IpAddr) (protocol : UInt8) (segment : List UInt8) : UInt16 :=
  match pseudoHeader source destination protocol segment.length with
  | none => 0
  | some pseudo =>
    let value := checksum (pseudo ++ segment)
    if value = 0 then 65535 else value

/-! ## The template -/

def GeneratorTransport.number : GeneratorTransport → UInt8
  | .tcp => 6
  | .udp => 17

def GeneratorTransport.headerBytes : GeneratorTransport → Nat
  | .udp => 8
  | .tcp => 20

def GeneratorNetwork.headerBytes : GeneratorNetwork → Nat
  | .ipv4 => 20
  | .ipv6 => 40

def GeneratorNetwork.etherType : GeneratorNetwork → UInt16
  | .ipv4 => 0x0800
  | .ipv6 => 0x86dd

def zeros (size : Nat) : List UInt8 := List.replicate size 0

def ethernetHeader (network : GeneratorNetwork) : List UInt8 :=
  copyAll [(0, [0x02, 0, 0, 0, 0, 2]), (6, [0x02, 0, 0, 0, 0, 1]), (12, toBeBytes network.etherType)] (zeros 14)

/-- The slice `bytes[14..34]` of a template of `length` bytes. -/
def ipv4Header (transport : GeneratorTransport) (source destination : BitVec 32) (length : Nat) : List UInt8 :=
  let ip := copyAll [(0, [0x45]), (2, toBeBytes (toU16 (length - 14))), (8, [64]), (9, [transport.number]),
    (12, octetsV4 source), (16, octetsV4 destination)] (zeros 20)
  copyAt 10 (toBeBytes (checksum ip)) ip

/-- The slice `bytes[14..54]`. -/
def ipv6Header (transport : GeneratorTransport) (source destination : BitVec 128) (length : Nat) : List UInt8 :=
  copyAll [(0, [0x60]), (4, toBeBytes (toU16 (length - 54))), (6, [transport.number]), (7, [64]),
    (8, octetsV6 source), (24, octetsV6 destination)] (zeros 40)

namespace RawGeneratorProfile

variable (profile : RawGeneratorProfile)

/-- The slice from the transport header to the end, of `size` bytes. -/
def transportSegment (source destination : IpAddr) (size : Nat) : List UInt8 :=
  let ports := [(0, toBeBytes profile.sourcePorts.start), (2, toBeBytes profile.destinationPorts.start)]
  match profile.transport with
  | .udp =>
    let segment := copyAll (ports ++ [(4, toBeBytes (toU16 size))]) (zeros size)
    copyAt 6 (toBeBytes (transportChecksum source destination profile.transport.number segment)) segment
  | .tcp =>
    let segment := copyAll (ports ++ [(12, [0x50])]) (zeros size)
    copyAt 16 (toBeBytes (transportChecksum source destination profile.transport.number segment)) segment

def minimum : Nat := 14 + profile.network.headerBytes + profile.transport.headerBytes

def frame (length : Nat) : Result (List UInt8) :=
  match profile.network, profile.sourceIps.start, profile.destinationIps.start with
  | .ipv4, .v4 source, .v4 destination =>
    .ok (ethernetHeader .ipv4 ++ ipv4Header profile.transport source destination length ++
      profile.transportSegment (.v4 source) (.v4 destination) (length - 34))
  | .ipv6, .v6 source, .v6 destination =>
    .ok (ethernetHeader .ipv6 ++ ipv6Header profile.transport source destination length ++
      profile.transportSegment (.v6 source) (.v6 destination) (length - 54))
  | _, _, _ => .error (invalid "generator address family does not match network")

def templateBytes : Result (List UInt8) := do
  let length ← profile.transmitLength
  if length.toNat < profile.minimum then
    .error (invalid "Ethernet frame is too small for the selected IP/transport template")
  else profile.frame length.toNat

end RawGeneratorProfile

/-- The six bytes of a unicast MAC address.  The source counts bytes; a part with a character above ASCII is refused for
its digits. -/
def parseMac (destinationMac : String) : Result (List UInt8) := do
  let parts := destinationMac.toList.splitOn ':'
  if parts.length ≠ 6 ∨ parts.any (fun part => part.length != 2 || !part.all isAsciiHexdigit) then
    .error (invalid "destination MAC address is invalid")
  let mac := parts.map (fun part => UInt8.ofNat (fromHex part))
  if mac.headD 0 % 2 ≠ 0 ∨ mac = zeros 6 then .error (invalid "destination MAC address must be unicast")
  pure mac

def RawGeneratorProfile.templateBytesWithDestinationMac (profile : RawGeneratorProfile) (destinationMac : String) :
    Result (List UInt8) := do
  let bytes ← profile.templateBytes
  let mac ← parseMac destinationMac
  pure (copyAt 0 mac bytes)

/-! ## The length -/

@[simp] theorem length_toBeBytes (value : UInt16) : (toBeBytes value).length = 2 := rfl

@[simp] theorem length_octetsV4 (bits : BitVec 32) : (octetsV4 bits).length = 4 := rfl

@[simp] theorem length_octetsV6 (bits : BitVec 128) : (octetsV6 bits).length = 16 := rfl

@[simp] theorem length_zeros (size : Nat) : (zeros size).length = size := length_replicate

theorem length_ethernetHeader (network : GeneratorNetwork) : (ethernetHeader network).length = 14 := by
  cases network <;> rfl

theorem length_checksummed {writes : List (Nat × List UInt8)} {size start : Nat} (value : UInt16)
    (hwrites : ∀ write ∈ writes, Fits size write) (hstart : start + 2 ≤ size) :
    (copyAt start (toBeBytes value) (copyAll writes (zeros size))).length = size := by
  have hbuffer : (copyAll writes (zeros size)).length = size := by
    rw [length_copyAll, length_zeros]
    rwa [length_zeros]
  rw [length_copyAt, hbuffer]
  rw [hbuffer]
  exact hstart

theorem length_ipv4Header (transport : GeneratorTransport) (source destination : BitVec 32) (length : Nat) :
    (ipv4Header transport source destination length).length = 20 := by
  apply length_checksummed
  · simp only [forall_mem_cons, Fits, length_toBeBytes, length_octetsV4, length_singleton, not_mem_nil,
      false_imp_iff, implies_true, and_true]
    omega
  · omega

theorem length_ipv6Header (transport : GeneratorTransport) (source destination : BitVec 128) (length : Nat) :
    (ipv6Header transport source destination length).length = 40 := by
  unfold ipv6Header
  rw [length_copyAll, length_zeros]
  simp only [forall_mem_cons, Fits, length_toBeBytes, length_octetsV6, length_zeros, length_singleton,
    not_mem_nil, false_imp_iff, implies_true, and_true]
  omega

section
variable {profile : RawGeneratorProfile}

theorem RawGeneratorProfile.length_transportSegment (source destination : IpAddr) {size : Nat}
    (h : profile.transport.headerBytes ≤ size) : (profile.transportSegment source destination size).length = size := by
  unfold transportSegment
  cases htransport : profile.transport with
  | udp =>
    rw [htransport] at h
    have hsize : 8 ≤ size := h
    apply length_checksummed
    · simp only [cons_append, nil_append, forall_mem_cons, Fits, length_toBeBytes,
        not_mem_nil, false_imp_iff, implies_true, and_true]
      omega
    · omega
  | tcp =>
    rw [htransport] at h
    have hsize : 20 ≤ size := h
    apply length_checksummed
    · simp only [cons_append, nil_append, forall_mem_cons, Fits, length_toBeBytes, length_singleton,
        not_mem_nil, false_imp_iff, implies_true, and_true]
      omega
    · omega

/-- A range that passes has the family of the profile. -/
theorem start_v4_of_validateIpRange {range : IpRange} (h : validateIpRange range .ipv4 = .ok ()) :
    ∃ bits, range.start = .v4 bits := by
  obtain ⟨start, stop⟩ := range
  cases start with
  | v4 bits => exact ⟨bits, rfl⟩
  | v6 bits => cases stop <;> cases h

theorem start_v6_of_validateIpRange {range : IpRange} (h : validateIpRange range .ipv6 = .ok ()) :
    ∃ bits, range.start = .v6 bits := by
  obtain ⟨start, stop⟩ := range
  cases start with
  | v4 bits => cases stop <;> cases h
  | v6 bits => exact ⟨bits, rfl⟩

namespace RawGeneratorProfile

structure Builds (profile : RawGeneratorProfile) : Prop where
  valid : profile.validate = .ok ()
  room : profile.minimum ≤ profile.ethernetSize.toNat - 4

structure Valid (profile : RawGeneratorProfile) : Prop where
  size : 64 ≤ profile.ethernetSize.toNat
  source : validateIpRange profile.sourceIps profile.network = .ok ()
  destination : validateIpRange profile.destinationIps profile.network = .ok ()

theorem valid_of_validate (h : profile.validate = .ok ()) : profile.Valid := by
  unfold validate at h
  simp only [error_bind, guard_ok, bind_ok, UInt16.not_lt] at h
  obtain ⟨hsize, -, _, hsource, _, hdestination, -⟩ := h
  exact ⟨hsize, hsource, hdestination⟩

theorem transmitLength_ok {length : UInt16} : profile.transmitLength = .ok length ↔
    profile.validate = .ok () ∧ length = profile.ethernetSize - 4 := by
  unfold transmitLength
  rw [bind_ok]
  constructor
  · rintro ⟨_, hvalid, hlength⟩
    exact ⟨hvalid, ((pure_ok _ _).1 hlength).symm⟩
  · rintro ⟨hvalid, rfl⟩
    exact ⟨(), hvalid, rfl⟩

theorem toNat_transmitLength (h : profile.Valid) :
    (profile.ethernetSize - 4).toNat = profile.ethernetSize.toNat - 4 := by
  have hsize := h.size
  have hle : (4 : UInt16) ≤ profile.ethernetSize := by
    show 4 ≤ profile.ethernetSize.toNat
    omega
  exact UInt16.toNat_sub_of_le _ _ hle

theorem frame_length (hvalid : profile.Valid) {length : Nat} (hroom : profile.minimum ≤ length) :
    ∃ bytes, profile.frame length = .ok bytes ∧ bytes.length = length := by
  obtain ⟨-, hsource, hdestination⟩ := hvalid
  unfold minimum at hroom
  unfold frame
  cases hnetwork : profile.network with
  | ipv4 =>
    rw [hnetwork] at hsource hdestination hroom
    obtain ⟨source, hs⟩ := start_v4_of_validateIpRange hsource
    obtain ⟨destination, hd⟩ := start_v4_of_validateIpRange hdestination
    have hroom : 14 + 20 + profile.transport.headerBytes ≤ length := hroom
    rw [hs, hd]
    refine ⟨_, rfl, ?_⟩
    rw [length_append, length_append, length_ethernetHeader, length_ipv4Header,
      length_transportSegment _ _ (by omega)]
    omega
  | ipv6 =>
    rw [hnetwork] at hsource hdestination hroom
    obtain ⟨source, hs⟩ := start_v6_of_validateIpRange hsource
    obtain ⟨destination, hd⟩ := start_v6_of_validateIpRange hdestination
    have hroom : 14 + 40 + profile.transport.headerBytes ≤ length := hroom
    rw [hs, hd]
    refine ⟨_, rfl, ?_⟩
    rw [length_append, length_append, length_ethernetHeader, length_ipv6Header,
      length_transportSegment _ _ (by omega)]
    omega

/-- **A template is four bytes shorter than the frame on the wire.** -/
theorem templateBytes_length (h : profile.Builds) :
    ∃ bytes, profile.templateBytes = .ok bytes ∧ bytes.length = profile.ethernetSize.toNat - 4 := by
  have hvalid := valid_of_validate h.valid
  unfold templateBytes
  rw [transmitLength_ok.2 ⟨h.valid, rfl⟩, ok_bind, toNat_transmitLength hvalid, if_neg (Nat.not_lt.2 h.room)]
  exact frame_length hvalid h.room

theorem builds_of_templateBytes {bytes : List UInt8} (h : profile.templateBytes = .ok bytes) : profile.Builds := by
  unfold templateBytes at h
  rw [bind_ok] at h
  obtain ⟨length, hlength, h⟩ := h
  obtain ⟨hvalid, rfl⟩ := transmitLength_ok.1 hlength
  rw [guard_ok, toNat_transmitLength (valid_of_validate hvalid), Nat.not_lt] at h
  exact ⟨hvalid, h.1⟩

end RawGeneratorProfile

theorem length_parseMac {destinationMac : String} {mac : List UInt8} (h : parseMac destinationMac = .ok mac) :
    mac.length = 6 := by
  unfold parseMac at h
  simp only [error_bind, guard_ok, pure_ok, not_or, ne_eq, not_not] at h
  obtain ⟨⟨hparts, -⟩, -, rfl⟩ := h
  rw [length_map]
  exact hparts

end

end Packet
end NetTool
