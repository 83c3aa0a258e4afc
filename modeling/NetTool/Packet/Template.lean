import NetTool.Lib.OnesComplement
import NetTool.Packet.Bounds
import NetTool.Packet.Generator
/-!
# Packet.Template — the parser reads the generator's template back

The generator writes its headers into a buffer of zeros; the parser, which shares no code with it, finds the profile's
first addresses and ports in them, and everything after the transport header as payload.  Both checksums verify: the sum
of the words they cover, checksum included, is all ones in one's-complement arithmetic.
-/
namespace NetTool
namespace Packet

open Slice Bytes OnesComplement List RawGeneratorProfile

/-- What a receiver asks of the bytes a checksum covers. -/
def Verifies (bytes : List UInt8) : Prop := sum16 bytes = 65535

/-- The segment verifies with its pseudo header.  Over IPv4 that is the addresses, a zero byte, the protocol and the
length in two bytes; over IPv6 the addresses, the length in four bytes, three zero bytes and the protocol. -/
def SegmentVerifies (source destination : IpAddr) (protocol : UInt8) (segment : List UInt8) : Prop :=
  match source, destination with
  | .v4 source, .v4 destination =>
    Verifies (octetsV4 source ++ octetsV4 destination ++
      [0, protocol, .ofNat (segment.length / 2 ^ 8), .ofNat segment.length] ++ segment)
  | .v6 source, .v6 destination =>
    Verifies (octetsV6 source ++ octetsV6 destination ++
      [.ofNat (segment.length / 2 ^ 24), .ofNat (segment.length / 2 ^ 16),
      .ofNat (segment.length / 2 ^ 8), .ofNat segment.length, 0, 0, 0, protocol] ++ segment)
  | _, _ => False

/-! ## Numbers in the template -/

theorem toNat_toBeBytes (value : UInt16) :
    ((UInt8.ofNat (value.toNat / 256)).toNat * 256 + (UInt8.ofNat (value.toNat % 256)).toNat) = value.toNat := by
  have hlt := value.toNat_lt
  rw [UInt8.toNat_ofNat', UInt8.toNat_ofNat']
  omega

theorem fromBeBytes16_toBeBytes (value : UInt16) :
    fromBeBytes16 (.ofNat (value.toNat / 256)) (.ofNat (value.toNat % 256)) = value := by
  have hsum := toNat_toBeBytes value
  show UInt16.ofNat ((0 * 256 + (UInt8.ofNat (value.toNat / 256)).toNat) * 256 +
    (UInt8.ofNat (value.toNat % 256)).toNat) = _
  rw [Nat.zero_add, hsum, UInt16.ofNat_toNat]

theorem toNat_toU16 {n : Nat} (h : n < 2 ^ 16) : (toU16 n).toNat = n := by
  unfold toU16
  rw [if_pos h]
  exact Nat.mod_eq_of_lt h

theorem ipv4At_octets (bits : BitVec 32) :
    IpAddr.ofOctets (UInt8.ofNat (bits.toNat / 2 ^ 24 % 2 ^ 8)).toNat (UInt8.ofNat (bits.toNat / 2 ^ 16 % 2 ^ 8)).toNat
      (UInt8.ofNat (bits.toNat / 2 ^ 8 % 2 ^ 8)).toNat (UInt8.ofNat (bits.toNat / 2 ^ 0 % 2 ^ 8)).toNat = bits := by
  have hoctet : ∀ n, (UInt8.ofNat (n % 2 ^ 8)).toNat = n % 2 ^ 8 := by
    intro n
    rw [UInt8.toNat_ofNat', Nat.mod_mod]
  rw [hoctet, hoctet, hoctet, hoctet]
  exact IpAddr.ofOctets_octets bits

theorem foldl_segments {groups : List Nat} (h : ∀ g ∈ groups, g < 65536) (n : Nat) :
    (groups.flatMap (fun g => toBeBytes (.ofNat g))).foldl (fun n b => n * 256 + b.toNat) n =
      groups.foldl (fun n g => n * 2 ^ 16 + g) n := by
  induction groups generalizing n with
  | nil => rfl
  | cons g rest ih =>
    have hg : (UInt16.ofNat g).toNat = g := by
      exact Nat.mod_eq_of_lt (h g (mem_cons_self ..))
    have hsum := toNat_toBeBytes (.ofNat g)
    have hstep : (n * 256 + (UInt8.ofNat ((UInt16.ofNat g).toNat / 256)).toNat) * 256 +
        (UInt8.ofNat ((UInt16.ofNat g).toNat % 256)).toNat = n * 2 ^ 16 + g := by
      rw [hg] at hsum ⊢
      rw [Nat.add_mul, Nat.mul_assoc, Nat.add_assoc, hsum]
      rfl
    rw [flatMap_cons, foldl_append, foldl_cons, ← ih (fun g hg => h g (mem_cons_of_mem _ hg))]
    show List.foldl _ ((n * 256 + (UInt8.ofNat ((UInt16.ofNat g).toNat / 256)).toNat) * 256 +
      (UInt8.ofNat ((UInt16.ofNat g).toNat % 256)).toNat) _ = _
    rw [hstep]

theorem ofBe_octetsV6 (bits : BitVec 128) : BitVec.ofNat 128 (ofBe (octetsV6 bits)) = bits := by
  unfold ofBe octetsV6
  rw [foldl_segments (IpAddr.segments_lt bits)]
  exact IpAddr.ofSegments_segments bits

/-! ## The checksum is the complement of the sum -/

theorem fold_add16 {sum w : Nat} (hsum : sum ≤ 65535) (hw : w ≤ 65535) :
    fold (min (sum + w) (2 ^ 32 - 1)) = add16 sum w := by
  have hstep : ∀ n, foldOnce n = if 65535 < n then n % 65536 + n / 65536 else n := fun _ => rfl
  unfold fold add16
  rw [Nat.min_eq_left (by omega)]
  by_cases hcarry : sum + w < 65536
  · have hsmall : ¬ 65535 < sum + w := by omega
    rw [if_pos hcarry, hstep (sum + w), if_neg hsmall, hstep, if_neg hsmall]
  · have hlarge : 65535 < sum + w := by omega
    rw [if_neg hcarry, hstep (sum + w), if_pos hlarge, hstep, if_neg (by omega)]
    omega

theorem sumChunks_eq {sum : Nat} (hsum : sum ≤ 65535) (bytes : List UInt8) :
    sumChunks sum bytes = (words bytes).foldl add16 sum := by
  induction bytes using words.induct generalizing sum with
  | case1 => rfl
  | case2 high =>
    have hhigh := high.toNat_lt
    exact fold_add16 hsum (by omega)
  | case3 high low rest ih =>
    have hhigh := high.toNat_lt
    have hlow := low.toNat_lt
    have hnext : add16 sum (high.toNat * 256 + low.toNat) ≤ 65535 := by
      unfold add16
      split <;> omega
    rw [sumChunks, fold_add16 hsum (by omega)]
    exact ih hnext

theorem toNat_checksum (bytes : List UInt8) : (checksum bytes).toNat = 65535 - sum16 bytes := by
  unfold checksum
  rw [sumChunks_eq (Nat.zero_le _)]
  exact Nat.mod_eq_of_lt (Nat.lt_of_le_of_lt (Nat.sub_le ..) (by decide))

/-- The same for the checksum with a pseudo header, where zero is written as all ones. -/
theorem verifies_transportChecksum {source destination : IpAddr} {protocol : UInt8} {pseudo front back : List UInt8}
    (hpseudo : pseudoHeader source destination protocol (front ++ 0 :: 0 :: back).length = some pseudo)
    (heven : (pseudo ++ front).length % 2 = 0) (hsome : 0 < total (pseudo ++ front ++ 0 :: 0 :: back)) :
    Verifies (pseudo ++
      (front ++ (toBeBytes (transportChecksum source destination protocol (front ++ 0 :: 0 :: back)) ++ back))) := by
  generalize hvalue : transportChecksum source destination protocol (front ++ 0 :: 0 :: back) = value
  unfold transportChecksum at hvalue
  rw [hpseudo] at hvalue
  dsimp only at hvalue
  rw [← append_assoc] at hvalue
  have hsum := toNat_checksum (pseudo ++ front ++ 0 :: 0 :: back)
  have hle := sum16_le (pseudo ++ front ++ 0 :: 0 :: back)
  have hcomplement : value.toNat = 65535 - sum16 (pseudo ++ front ++ 0 :: 0 :: back) ∨
      sum16 (pseudo ++ front ++ 0 :: 0 :: back) = 65535 ∧ value.toNat = 65535 := by
    rw [← hvalue]
    by_cases hzero : checksum (pseudo ++ front ++ 0 :: 0 :: back) = 0
    · rw [hzero, UInt16.toNat_zero] at hsum
      rw [if_pos hzero]
      exact .inr ⟨by omega, rfl⟩
    · rw [if_neg hzero]
      exact .inl hsum
  rw [← toNat_toBeBytes value] at hcomplement
  have hverified := sum16_complement heven hsome hcomplement
  rwa [append_assoc] at hverified

/-! ## The headers as written -/

/-- The two addresses go into adjacent fields of one size. -/
theorem copyAt_pair {start size : Nat} {front source destination : List UInt8} (hfront : front.length = start)
    (hsource : source.length = size) (hdestination : destination.length = size) :
    copyAt (start + size) destination (copyAt start source (front ++ (zeros size ++ zeros size))) =
      front ++ (source ++ destination) := by
  have hboth : (front ++ source).length = start + size := by rw [length_append, hfront, hsource]
  have hsecond := copyAt_part (front ++ source) [] hboth ((length_zeros size).trans hdestination.symm)
  rw [append_nil, append_nil, append_assoc, append_assoc] at hsecond
  rw [copyAt_part front (zeros size) hfront ((length_zeros size).trans hsource.symm), hsecond]

section
variable (transport : GeneratorTransport)

def ipv4Front (length : Nat) : List UInt8 :=
  0x45 :: 0 :: (toBeBytes (toU16 (length - 14)) ++ [0, 0, 0, 0, 64, transport.number])

theorem ipv4Header_eq (source destination : BitVec 32) (length : Nat) :
    ipv4Header transport source destination length =
      ipv4Front transport length ++
        (toBeBytes (checksum (ipv4Front transport length ++ ([0, 0] ++ (octetsV4 source ++ octetsV4 destination)))) ++
          (octetsV4 source ++ octetsV4 destination)) := by
  have hlength : (ipv4Front transport length).length = 10 := rfl
  have hfront : (ipv4Front transport length ++ [0, 0]).length = 12 := rfl
  have hblank : copyAll [(0, [0x45]), (2, toBeBytes (toU16 (length - 14))), (8, [64]), (9, [transport.number]),
      (12, octetsV4 source), (16, octetsV4 destination)] (zeros 20) =
      ipv4Front transport length ++ ([0, 0] ++ (octetsV4 source ++ octetsV4 destination)) := by
    unfold copyAll
    exact copyAt_pair hfront (length_octetsV4 source) (length_octetsV4 destination)
  unfold ipv4Header
  rw [hblank]
  exact copyAt_part _ _ hlength rfl

theorem ipv6Header_eq (source destination : BitVec 128) (length : Nat) :
    ipv6Header transport source destination length =
      [0x60, 0, 0, 0] ++ toBeBytes (toU16 (length - 54)) ++ [transport.number, 64] ++
        (octetsV6 source ++ octetsV6 destination) := by
  have hfixed : copyAt 7 [64] (copyAt 6 [transport.number] (copyAt 4 (toBeBytes (toU16 (length - 54)))
        (copyAt 0 [0x60] (zeros 40)))) =
      [0x60, 0, 0, 0] ++ toBeBytes (toU16 (length - 54)) ++ [transport.number, 64] ++ (zeros 16 ++ zeros 16) := rfl
  have hlength : ([0x60, 0, 0, 0] ++ toBeBytes (toU16 (length - 54)) ++ [transport.number, 64]).length = 8 := rfl
  unfold ipv6Header copyAll
  simp only [foldl_cons, foldl_nil]
  rw [hfixed]
  exact copyAt_pair hlength (length_octetsV6 source) (length_octetsV6 destination)

theorem verifies_ipv4Header (source destination : BitVec 32) (length : Nat) :
    Verifies (ipv4Header transport source destination length) := by
  have heven : (ipv4Front transport length).length % 2 =
    0 := by rw [show (ipv4Front transport length).length = 10 from rfl]
  rw [ipv4Header_eq]
  refine sum16_complement heven ?_ (.inl ((toNat_toBeBytes _).trans (toNat_checksum _)))
  exact Nat.add_pos_left (Nat.add_pos_left (by decide) _) _

end

def segmentFront (profile : RawGeneratorProfile) (size : Nat) : List UInt8 :=
  toBeBytes profile.sourcePorts.start ++ toBeBytes profile.destinationPorts.start ++
    match profile.transport with
    | .udp => toBeBytes (toU16 size)
    | .tcp => [0, 0, 0, 0, 0, 0, 0, 0, 0x50, 0, 0, 0]

def segmentBack (profile : RawGeneratorProfile) (size : Nat) : List UInt8 :=
  match profile.transport with
  | .udp => zeros (size - 8)
  | .tcp => 0 :: 0 :: zeros (size - 20)

section
variable {profile : RawGeneratorProfile} {size : Nat}

theorem transportSegment_eq (source destination : IpAddr) (h : profile.transport.headerBytes ≤ size) :
    profile.transportSegment source destination size =
      segmentFront profile size ++
        (toBeBytes (transportChecksum source destination profile.transport.number
          (segmentFront profile size ++ 0 :: 0 :: segmentBack profile size)) ++ segmentBack profile size) := by
  unfold transportSegment segmentFront segmentBack
  cases htransport : profile.transport with
  | udp | tcp =>
    rw [htransport] at h
    obtain ⟨k, rfl⟩ := Nat.exists_eq_add_of_le' h
    rfl

theorem length_segmentFront_even : (segmentFront profile size).length % 2 = 0 := by
  unfold segmentFront
  cases profile.transport with
  | udp => exact (by decide : (2 + 2 + 2) % 2 = 0)
  | tcp => exact (by decide : (2 + 2 + 12) % 2 = 0)

theorem length_blank (h : profile.transport.headerBytes ≤ size) :
    (segmentFront profile size ++ 0 :: 0 :: segmentBack profile size).length = size := by
  unfold segmentFront segmentBack
  cases htransport : profile.transport with
  | udp =>
    rw [htransport] at h
    have h : 8 ≤ size := h
    show (zeros (size - 8)).length + 2 + 6 = size
    rw [length_zeros]
    omega
  | tcp =>
    rw [htransport] at h
    have h : 20 ≤ size := h
    show (zeros (size - 20)).length + 2 + 2 + 16 = size
    rw [length_zeros]
    omega

/-- A pseudo header has an even length, and its protocol number makes it more than zeros. -/
theorem pseudoHeader_spec {source destination : IpAddr} {transport : GeneratorTransport} {length : Nat}
    {pseudo : List UInt8} (h : pseudoHeader source destination transport.number length = some pseudo) :
    pseudo.length % 2 = 0 ∧ 0 < total pseudo := by
  have hnumber : 0 < transport.number.toNat := by cases transport <;> decide
  cases source with
  | v4 source => cases destination with
    | v4 destination =>
      cases h
      have haddresses : (octetsV4 source ++ octetsV4 destination).length % 2 = 0 := by
        rw [length_append, length_octetsV4, length_octetsV4]
      rw [append_assoc, length_append, Nat.add_mod, haddresses, total_append haddresses]
      exact ⟨(by decide : (0 + 4 % 2) % 2 = 0), Nat.add_pos_right _ (Nat.add_pos_left (Nat.add_pos_right _ hnumber) _)⟩
    | v6 destination => cases h
  | v6 source => cases destination with
    | v4 destination => cases h
    | v6 destination =>
      cases h
      have hfront : (octetsV6 source ++ octetsV6 destination ++ toBeBytes32 length).length % 2 = 0 := by
        exact (by decide : (16 + 16 + 4) % 2 = 0)
      rw [length_append, Nat.add_mod, hfront, total_append hfront]
      exact ⟨(by decide : (0 + 4 % 2) % 2 = 0),
        Nat.add_pos_right _ (Nat.add_pos_right _ (Nat.add_pos_left (Nat.add_pos_right _ hnumber) _))⟩

/-- **The transport checksum verifies together with the pseudo header.** -/
theorem verifies_transportSegment {source destination : IpAddr} {pseudo : List UInt8}
    (h : profile.transport.headerBytes ≤ size)
    (hpseudo : pseudoHeader source destination profile.transport.number size = some pseudo) :
    Verifies (pseudo ++ profile.transportSegment source destination size) := by
  obtain ⟨heven, hpositive⟩ := pseudoHeader_spec hpseudo
  rw [transportSegment_eq source destination h]
  refine verifies_transportChecksum (by rwa [length_blank h]) ?_ ?_
  · rw [length_append, Nat.add_mod, heven, length_segmentFront_even]
  · rw [append_assoc, total_append heven]
    exact Nat.add_pos_left hpositive _

theorem segmentVerifies_transportSegment {source destination : IpAddr} (h : profile.transport.headerBytes ≤ size)
    (hlimit : size < 2 ^ 16) (hfamily : (pseudoHeader source destination profile.transport.number size).isSome = true) :
    SegmentVerifies source destination profile.transport.number (profile.transportSegment source destination size) := by
  have hsize : toBeBytes (toU16 size) = [.ofNat (size / 2 ^ 8), .ofNat size] := by
    unfold toBeBytes
    rw [toNat_toU16 hlimit, UInt8.ofNat_mod_size]
    rfl
  obtain ⟨pseudo, hpseudo⟩ := Option.isSome_iff_exists.1 hfamily
  have hverifies := verifies_transportSegment h hpseudo
  unfold SegmentVerifies
  rw [length_transportSegment source destination h]
  cases source <;> cases destination <;> cases hpseudo
  · rw [hsize] at hverifies
    exact hverifies
  · simpa [toBeBytes32] using hverifies

end

/-! ## Reading the headers back -/

section
variable (transport)

theorem parseIpv4_template (source destination : BitVec 32) {segment : List UInt8}
    {length : Nat} (hlength : segment.length = length - 34) (hroom : 34 ≤ length) (hlimit : length < 2 ^ 16) :
    parseIpv4 (ipv4Header transport source destination length ++ segment) =
      .ok ⟨.v4 source, .v4 destination, transport.number, false, segment⟩ := by
  have hbytes : (ipv4Header transport source destination length ++ segment).length = length - 14 := by
    rw [length_append, length_ipv4Header]
    omega
  have hdrop : (ipv4Header transport source destination length ++ segment).drop 20 = segment := by
    rw [← length_ipv4Header transport source destination length, drop_left]
  rw [ipv4Header_eq] at hbytes hdrop ⊢
  -- the value of the checksum plays no part
  generalize checksum _ = value at hbytes hdrop ⊢
  have hheader : headerLength 0x45 = 20 := by decide
  generalize hall :
    ipv4Front transport length ++ (toBeBytes value ++ (octetsV4 source ++ octetsV4 destination)) ++ segment =
    bytes at hbytes hdrop ⊢
  have hfirst : byte bytes 0 = 0x45 := by rw [← hall]; rfl
  have htotal : ipv4TotalLength bytes = length - 14 := by
    have hword : word bytes 2 = toU16 (length - 14) := by
      rw [← hall]
      exact fromBeBytes16_toBeBytes _
    rw [ipv4TotalLength, hword, toNat_toU16 (by omega)]
  have hsource : ipv4At bytes 12 = .v4 source := by
    rw [← hall]
    exact congrArg IpAddr.v4 (ipv4At_octets source)
  have hdestination : ipv4At bytes 16 = .v4 destination := by
    rw [← hall]
    exact congrArg IpAddr.v4 (ipv4At_octets destination)
  have hprotocol : byte bytes 9 = transport.number := by rw [← hall]; rfl
  have hfragment : word bytes 6 = fromBeBytes16 0 0 := by rw [← hall]; rfl
  have hwell : ¬ ipv4Malformed bytes := by
    unfold ipv4Malformed
    rw [hfirst]
    rintro (h | h | h)
    · exact h rfl
    · omega
    · omega
  rw [parseIpv4_complete (by omega) (by omega), if_neg hwell, ipv4Packet, hsource, hdestination, hprotocol,
    hfragment, htotal, ← hbytes, take_length, hfirst, hheader, hdrop]
  rfl

theorem parseIpv6_template (source destination : BitVec 128) {segment : List UInt8}
    {length : Nat} (hlength : segment.length = length - 54) (hroom : 54 ≤ length) (hlimit : length < 2 ^ 16) :
    parseIpv6 (ipv6Header transport source destination length ++ segment) =
      .ok ⟨.v6 source, .v6 destination, transport.number, false, segment⟩ := by
  have hbytes : (ipv6Header transport source destination length ++ segment).length = length - 14 := by
    rw [length_append, length_ipv6Header]
    omega
  have hdrop : (ipv6Header transport source destination length ++ segment).drop 40 = segment := by
    rw [← length_ipv6Header transport source destination length, drop_left]
  rw [ipv6Header_eq] at hbytes hdrop ⊢
  generalize hall : [0x60, 0, 0, 0] ++ toBeBytes (toU16 (length - 54)) ++ [transport.number, 64] ++
    (octetsV6 source ++ octetsV6 destination) ++ segment = bytes at hbytes hdrop ⊢
  have hfirst : byte bytes 0 = 0x60 := by rw [← hall]; rfl
  have hpacket : ipv6PacketLength bytes = length - 14 := by
    have hword : word bytes 4 = toU16 (length - 54) := by
      rw [← hall]
      exact fromBeBytes16_toBeBytes _
    rw [ipv6PacketLength, hword, toNat_toU16 (by omega)]
    omega
  have hsource : ipv6At bytes 8 = .v6 source := by
    rw [← hall]
    exact congrArg IpAddr.v6 (ofBe_octetsV6 source)
  have hdestination : ipv6At bytes 24 = .v6 destination := by
    rw [← hall]
    exact congrArg IpAddr.v6 (ofBe_octetsV6 destination)
  have hprotocol : byte bytes 6 = transport.number := by rw [← hall]; rfl
  rw [parseIpv6_complete (by omega), hfirst, hpacket, ← hbytes, take_length, hprotocol,
    walk_done (by cases transport <;> decide) (by omega), Check.ok_bind, hdrop, ipv6Packet, hsource, hdestination]
  rfl

end

/-- The profile's transport with its first ports; a TCP template has zeros in the other fields. -/
def RawGeneratorProfile.transportPacket (profile : RawGeneratorProfile) (payload : List UInt8) : TransportPacket :=
  match profile.transport with
  | .udp => .udp ⟨profile.sourcePorts.start, profile.destinationPorts.start, payload⟩
  | .tcp => .tcp ⟨profile.sourcePorts.start, profile.destinationPorts.start, 0, 0, 0, 0, payload⟩

theorem parseTransport_template {profile : RawGeneratorProfile} (source destination : IpAddr) {size : Nat}
    (h : profile.transport.headerBytes ≤ size) (hlimit : size < 2 ^ 16) :
    parseTransport ⟨source, destination, profile.transport.number, false,
        profile.transportSegment source destination size⟩ =
      .ok (profile.transportPacket
        ((profile.transportSegment source destination size).drop profile.transport.headerBytes)) := by
  have hsize := length_transportSegment source destination h
  rw [transportSegment_eq source destination h] at hsize ⊢
  generalize transportChecksum source destination _ _ = value at hsize ⊢
  unfold transportPacket parseTransport
  generalize hall : segmentFront profile size ++ (toBeBytes value ++ segmentBack profile size) = segment at hsize ⊢
  unfold segmentFront at hall
  have hsourcePort : word segment 0 = profile.sourcePorts.start := by
    rw [← hall]
    exact fromBeBytes16_toBeBytes _
  have hdestinationPort : word segment 2 = profile.destinationPorts.start := by
    rw [← hall]
    exact fromBeBytes16_toBeBytes _
  cases htransport : profile.transport with
  | udp =>
    rw [htransport] at h hall
    have h : 8 ≤ size := h
    have hudp : udpLength segment = size := by
      have hword : word segment 4 = toU16 size := by
        rw [← hall]
        exact fromBeBytes16_toBeBytes _
      rw [udpLength, hword, toNat_toU16 hlimit]
    have hparse :
    parseUdp segment = .ok ⟨profile.sourcePorts.start, profile.destinationPorts.start, segment.drop 8⟩ := by
      rw [parseUdp_eq, if_neg (by omega), if_neg (by omega), if_neg (by omega), udpDatagram, hsourcePort,
        hdestinationPort, hudp, ← hsize, take_length]
    rw [hparse]
    rfl
  | tcp =>
    rw [htransport] at h hall
    have h : 20 ≤ size := h
    have hoffset : dataOffset (byte segment 12) = 20 := by
      rw [← hall]
      exact (by decide : dataOffset 0x50 = 20)
    have hparse : parseTcp segment =
        .ok ⟨profile.sourcePorts.start, profile.destinationPorts.start, 0, 0, 0, 0, segment.drop 20⟩ := by
      rw [parseTcp_eq, if_neg (by omega), if_neg (by omega), if_neg (by omega), tcpSegment, hsourcePort,
        hdestinationPort, hoffset]
      have hfields : long segment 4 = 0 ∧ long segment 8 = 0 ∧
          ((byte segment 12 &&& 1).toUInt16 <<< 8) ||| (byte segment 13).toUInt16 = 0 ∧ word segment 14 = 0 := by
        rw [← hall]
        exact (by decide : fromBeBytes32 0 0 0 0 = 0 ∧ fromBeBytes32 0 0 0 0 = 0 ∧
          (((0x50 : UInt8) &&& 1).toUInt16 <<< 8) ||| (0 : UInt8).toUInt16 = 0 ∧ fromBeBytes16 0 0 = 0)
      rw [hfields.1, hfields.2.1, hfields.2.2.1, hfields.2.2.2]
    rw [hparse]
    rfl

theorem parseEthernet_template (network : GeneratorNetwork) (rest : List UInt8) :
    parseEthernet (ethernetHeader network ++ rest) =
      .ok ⟨[0x02, 0, 0, 0, 0, 2], [0x02, 0, 0, 0, 0, 1], [], network.etherType⟩ := by
  cases network <;> rfl

/-- The parser hands what follows the Ethernet header of a template to the reader of the network. -/
theorem parsePacket_drop (network : GeneratorNetwork) (rest : List UInt8) :
    parsePacket (ethernetHeader network ++ rest) =
      ((match network with | .ipv4 => parseIpv4 rest | .ipv6 => parseIpv6 rest) >>=
        finishIp ⟨[0x02, 0, 0, 0, 0, 2], [0x02, 0, 0, 0, 0, 1], [], network.etherType⟩) := by
  have hdrop : (ethernetHeader network ++ rest).drop 14 = rest := by
    rw [← length_ethernetHeader network, drop_left]
  rw [parsePacket_eq (parseEthernet_template network rest)]
  show (if network.etherType = etherTypeArp then _ else if network.etherType = etherTypeIpv4 then
    parseIpv4 ((ethernetHeader network ++ rest).drop 14) >>= _ else if network.etherType = etherTypeIpv6 then
    parseIpv6 ((ethernetHeader network ++ rest).drop 14) >>= _ else _) = _
  rw [hdrop]
  cases network with
  | ipv4 => rw [if_neg (by decide), if_pos (by decide)]
  | ipv6 => rw [if_neg (by decide), if_neg (by decide), if_pos (by decide)]

section
variable {profile : RawGeneratorProfile} {bytes : List UInt8}

/-- What the reader of a template finds: the parsed packet and the two checksums. -/
structure ReadBack (profile : RawGeneratorProfile) (bytes : List UInt8) (packet : ParsedPacket) (ip : IpPacket) :
    Prop where
  parsed : parsePacket bytes = .ok packet
  network : packet.ip = some ip
  source : ip.source = profile.sourceIps.start
  destination : ip.destination = profile.destinationIps.start
  transport : packet.transport = some (profile.transportPacket (bytes.drop profile.minimum))
  headerChecksum : profile.network = .ipv4 → Verifies ((bytes.take 34).drop 14)
  transportChecksum : SegmentVerifies ip.source ip.destination (match profile.transport with | .tcp => 6 | .udp => 17)
    (bytes.drop (match profile.network with | .ipv4 => 34 | .ipv6 => 54))

/-- A frame of the three parts is read back, given that its IP header is. -/
theorem readBack_parts (header : List UInt8) (source destination : IpAddr) (size : Nat)
    (hheader : header.length = profile.network.headerBytes) (hsource : profile.sourceIps.start = source)
    (hdestination : profile.destinationIps.start = destination) (hroom : profile.transport.headerBytes ≤ size)
    (hlimit : size < 2 ^ 16) (hip : (match profile.network with
        | .ipv4 => parseIpv4 (header ++ profile.transportSegment source destination size)
        | .ipv6 => parseIpv6 (header ++ profile.transportSegment source destination size)) =
      .ok ⟨source, destination, profile.transport.number, false, profile.transportSegment source destination size⟩)
    (hverifies : profile.network = .ipv4 → Verifies header)
    (hfamily : (pseudoHeader source destination profile.transport.number size).isSome = true) :
    ∃ packet ip, ReadBack profile
      (ethernetHeader profile.network ++ header ++ profile.transportSegment source destination size) packet ip := by
  have hethernet := length_ethernetHeader profile.network
  have hsegment : (ethernetHeader profile.network ++ header ++ profile.transportSegment source destination size).drop
      (14 + profile.network.headerBytes) = profile.transportSegment source destination size := by
    rw [← hheader, ← hethernet, ← length_append, drop_left]
  have hread := parsePacket_drop profile.network (header ++ profile.transportSegment source destination size)
  rw [hip, Check.ok_bind, finishIp_ok.2 ⟨_, parseTransport_template source destination hroom hlimit, rfl⟩] at hread
  refine ⟨_, _, hread, rfl, hsource.symm, hdestination.symm, ?_, fun hv4 => ?_, ?_⟩
  · rw [RawGeneratorProfile.minimum, ← drop_drop, hsegment]
  · have hpart : ((ethernetHeader profile.network ++ header ++ profile.transportSegment source destination size).take
        34).drop 14 = header := by
      have htwenty : header.length = 20 := by rw [hheader, hv4]; rfl
      rw [append_assoc, show 34 = (ethernetHeader profile.network).length + 20 by rw [hethernet],
        take_length_add_append, ← htwenty, take_left, ← hethernet, drop_left]
    rw [hpart]
    exact hverifies hv4
  · have hdrop : (match profile.network with | .ipv4 => 34 | .ipv6 => 54) = 14 + profile.network.headerBytes := by
      cases profile.network <;> rfl
    rw [hdrop, hsegment]
    exact segmentVerifies_transportSegment hroom hlimit hfamily

/-- **A template is four bytes shorter than the frame on the wire; the parser accepts it and finds the profile's first
addresses and ports, its transport and everything after the transport header as payload; its checksums verify.** -/
theorem template_read_back (profile : RawGeneratorProfile) (bytes : List UInt8)
    (h : profile.templateBytes = .ok bytes) :
    bytes.length = profile.ethernetSize.toNat - 4 ∧ ∃ packet ip, ReadBack profile bytes packet ip := by
  have hbuilds := builds_of_templateBytes h
  have hvalid := valid_of_validate hbuilds.valid
  obtain ⟨_, hbytes, hlength⟩ := templateBytes_length hbuilds
  rw [h, Except.ok.injEq] at hbytes
  subst hbytes
  refine ⟨hlength, ?_⟩
  have hframe : profile.frame (profile.ethernetSize.toNat - 4) = .ok bytes := by
    unfold templateBytes at h
    rw [transmitLength_ok.2 ⟨hbuilds.valid, rfl⟩, Check.ok_bind,
      toNat_transmitLength hvalid, if_neg (Nat.not_lt.2 hbuilds.room)] at h
    exact h
  have hroom := hbuilds.room
  have hlimit : profile.ethernetSize.toNat - 4 < 2 ^ 16 := by
    have hsize := profile.ethernetSize.toNat_lt
    omega
  generalize profile.ethernetSize.toNat - 4 = length at hframe hroom hlimit
  obtain ⟨-, hsourceRange, hdestinationRange⟩ := hvalid
  unfold frame at hframe
  unfold RawGeneratorProfile.minimum at hroom
  cases hnetwork : profile.network with
  | ipv4 =>
    rw [hnetwork] at hsourceRange hdestinationRange hroom
    obtain ⟨source, hsource⟩ := start_v4_of_validateIpRange hsourceRange
    obtain ⟨destination, hdestination⟩ := start_v4_of_validateIpRange hdestinationRange
    rw [hnetwork, hsource, hdestination] at hframe
    cases hframe
    have hroom : 34 + profile.transport.headerBytes ≤ length := hroom
    have hfits : profile.transport.headerBytes ≤ length - 34 := Nat.le_sub_of_add_le' hroom
    have hsegment := length_transportSegment (.v4 source) (.v4 destination) hfits
    have hheader : (ipv4Header profile.transport source destination length).length = profile.network.headerBytes := by
      rw [length_ipv4Header, hnetwork]
      rfl
    have hip := parseIpv4_template profile.transport source destination hsegment (by omega) hlimit
    have hback := readBack_parts (ipv4Header profile.transport source destination length) (.v4 source) (.v4 destination)
      (length - 34) hheader hsource hdestination hfits (by omega) (by rw [hnetwork]; exact hip)
      (fun _ => verifies_ipv4Header profile.transport source destination length) rfl
    rwa [hnetwork] at hback
  | ipv6 =>
    rw [hnetwork] at hsourceRange hdestinationRange hroom
    obtain ⟨source, hsource⟩ := start_v6_of_validateIpRange hsourceRange
    obtain ⟨destination, hdestination⟩ := start_v6_of_validateIpRange hdestinationRange
    rw [hnetwork, hsource, hdestination] at hframe
    cases hframe
    have hroom : 54 + profile.transport.headerBytes ≤ length := hroom
    have hfits : profile.transport.headerBytes ≤ length - 54 := Nat.le_sub_of_add_le' hroom
    have hsegment := length_transportSegment (.v6 source) (.v6 destination) hfits
    have hheader : (ipv6Header profile.transport source destination length).length = profile.network.headerBytes := by
      rw [length_ipv6Header, hnetwork]
      rfl
    have hip := parseIpv6_template profile.transport source destination hsegment (by omega) hlimit
    have hback := readBack_parts (ipv6Header profile.transport source destination length) (.v6 source) (.v6 destination)
      (length - 54) hheader hsource hdestination hfits (by omega) (by rw [hnetwork]; exact hip)
      (fun hv4 => (by rw [hnetwork] at hv4; cases hv4)) rfl
    rwa [hnetwork] at hback

end

/-- A TCP profile over IPv6 with an odd frame size. -/
def oddProfile : RawGeneratorProfile where
  ethernetSize := 101
  network := .ipv6
  transport := .tcp
  sourceIps := ⟨.v6 0x20010db8000000000000000000000001#128, .v6 0x20010db8000000000000000000000009#128⟩
  destinationIps := ⟨.v6 0x20010db8000000000000000000000100#128, .v6 0x20010db8000000000000000000000100#128⟩
  sourcePorts := ⟨10000, 10003⟩
  destinationPorts := ⟨443, 443⟩
  flowCount := 4
  packetRate := 1000

theorem template_read_back_sample : ∃ bytes packet ip,
    oddProfile.templateBytes = .ok bytes ∧ bytes.length = 97 ∧ ReadBack oddProfile bytes packet ip := by
  have hbuilds : oddProfile.Builds := ⟨rfl, by decide⟩
  obtain ⟨bytes, hbytes, -⟩ := templateBytes_length hbuilds
  obtain ⟨hlength, packet, ip, hread⟩ := template_read_back oddProfile bytes hbytes
  exact ⟨bytes, packet, ip, hbytes, hlength, hread⟩

end Packet
end NetTool
