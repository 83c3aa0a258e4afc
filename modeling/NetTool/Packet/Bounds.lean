import NetTool.Packet.Headers
/-!
# Packet.Bounds — what of a frame the parser uses

Every payload the parser returns is a part of the frame that ends where the IP header, and for UDP the datagram, says it
ends (`parsePacket_parts`).  Two frames that agree up to the end of the IP packet they declare are answered alike
(`parsePacket_agree`): what a capture has after it (padding, a checksum) does not matter.
-/
namespace NetTool
namespace Packet

open Check Bytes List

/-- Where the IP packet in a frame ends, by the length in its header. -/
def declaredEnd (frame : List UInt8) : Option Nat :=
  match parseEthernet frame with
  | .error _ => none
  | .ok ethernet =>
    let bytes := frame.drop ethernet.length
    if ethernet.etherType = etherTypeIpv4 ∧ 4 ≤ bytes.length then some (ethernet.length + ipv4TotalLength bytes)
    else if ethernet.etherType = etherTypeIpv6 ∧ 6 ≤ bytes.length then some (ethernet.length + ipv6PacketLength bytes)
    else none

/-- What a transport header found at `start` returns lies in the frame up to `stop`; a UDP payload lies in the length
the datagram declares. -/
def TransportPacket.LiesIn (frame : List UInt8) (start stop : Nat) : TransportPacket → Prop
  | .tcp segment => Part frame start stop segment.payload
  | .udp datagram =>
    start + udpLength (frame.drop start) ≤ stop ∧
      Part frame start (start + udpLength (frame.drop start)) datagram.payload
  | .icmp message => Part frame start stop message.payload
  | .icmpv6 message => Part frame start stop message.payload
  | .fragment => True
  | .other _ bytes => Part frame start stop bytes

/-! ## The answer by the kind of frame -/

section
variable {frame : List UInt8} {ethernet : EthernetHeader}

section
variable (h : parseEthernet frame = .ok ethernet)
include h

theorem parsePacket_eq :
    parsePacket frame =
      if ethernet.etherType = etherTypeArp then do
        let arp ← parseArp (frame.drop ethernet.length)
        pure { ethernet, arp := some arp }
      else if ethernet.etherType = etherTypeIpv4 then do
        let ip ← parseIpv4 (frame.drop ethernet.length)
        finishIp ethernet ip
      else if ethernet.etherType = etherTypeIpv6 then do
        let ip ← parseIpv6 (frame.drop ethernet.length)
        finishIp ethernet ip
      else pure { ethernet } := by
  obtain ⟨-, hfits, -⟩ := parseEthernet_spec h
  unfold parsePacket
  rw [h, ok_bind, visible_ok hfits (Nat.le_refl _), ok_bind, take_length]

theorem parsePacket_ipv4 (htype : ethernet.etherType = etherTypeIpv4) :
    parsePacket frame = parseIpv4 (frame.drop ethernet.length) >>= finishIp ethernet := by
  rw [parsePacket_eq h, if_neg (by rw [htype]; decide), if_pos htype]

theorem parsePacket_ipv6 (htype : ethernet.etherType = etherTypeIpv6) :
    parsePacket frame = parseIpv6 (frame.drop ethernet.length) >>= finishIp ethernet := by
  rw [parsePacket_eq h, if_neg (by rw [htype]; decide), if_neg (by rw [htype]; decide), if_pos htype]

theorem declaredEnd_ipv6 (htype : ethernet.etherType = etherTypeIpv6)
    (hlong : 6 ≤ (frame.drop ethernet.length).length) :
    declaredEnd frame = some (ethernet.length + ipv6PacketLength (frame.drop ethernet.length)) := by
  unfold declaredEnd
  rw [h]
  exact (if_neg (by rw [htype]; exact fun hboth => absurd hboth.1 (by decide))).trans (if_pos ⟨htype, hlong⟩)

end

theorem finishIp_ok {ip : IpPacket} {packet : ParsedPacket} :
    finishIp ethernet ip = .ok packet ↔
      ∃ transport, parseTransport ip = .ok transport ∧
        packet = { ethernet, ip := some ip, transport := some transport } := by
  unfold finishIp
  rw [bind_ok]
  refine exists_congr fun transport => and_congr_right' ?_
  rw [pure_ok]
  exact eq_comm

end

/-! ## Payloads -/

theorem walk_payload {packet : List UInt8} {turns offset : Nat} {protocol : UInt8} {later : Bool} {walked : Walked}
    (h : walk packet turns protocol offset later = .ok walked) (hoffset : offset ≤ packet.length) :
    ∃ start, offset ≤ start ∧ start ≤ packet.length ∧ walked.payload = packet.drop start := by
  induction turns generalizing protocol offset later with
  | zero => cases h
  | succ turns ih =>
    by_cases hextension : isExtension protocol
    · by_cases hlength : offset + (extensionAt packet protocol offset).length ≤ packet.length
      · rw [walk_extension hextension hlength] at h
        obtain ⟨start, hfrom, hto, hpayload⟩ := ih h hlength
        exact ⟨start, by omega, hto, hpayload⟩
      · rw [walk_truncated hextension (Nat.not_le.1 hlength)] at h
        cases h
    · rw [walk_done hextension hoffset] at h
      cases h
      exact ⟨offset, Nat.le_refl _, hoffset, rfl⟩

variable {bytes : List UInt8} {ip : IpPacket} {frame : List UInt8} {packet : ParsedPacket} {stop : Nat}

/-- An accepted IPv4 header declares a packet that is there, and the payload is the end of it. -/
theorem parseIpv4_payload (h : parseIpv4 bytes = .ok ip) :
    20 ≤ ipv4TotalLength bytes ∧ ipv4TotalLength bytes ≤ bytes.length ∧
      ∃ start, start ≤ ipv4TotalLength bytes ∧ ip.payload = (bytes.take (ipv4TotalLength bytes)).drop start := by
  rw [parseIpv4_eq, truncated, malformed, guard_ok, guard_ok, guard_ok] at h
  obtain ⟨-, hwell, hfits, hip⟩ := h
  unfold ipv4Malformed at hwell
  cases hip
  exact ⟨by omega, Nat.not_lt.1 hfits, _, by omega, rfl⟩

theorem parseIpv6_payload (h : parseIpv6 bytes = .ok ip) :
    40 ≤ ipv6PacketLength bytes ∧ ipv6PacketLength bytes ≤ bytes.length ∧
      ∃ start, start ≤ ipv6PacketLength bytes ∧ ip.payload = (bytes.take (ipv6PacketLength bytes)).drop start := by
  rw [parseIpv6_eq, truncated, malformed, guard_ok, guard_ok, guard_ok, bind_ok] at h
  obtain ⟨-, -, hend, walked, hwalk, hip⟩ := h
  have hfits := Nat.not_lt.1 hend
  have hforty : 40 ≤ ipv6PacketLength bytes := Nat.le_add_right ..
  have hpacket : (bytes.take (ipv6PacketLength bytes)).length = ipv6PacketLength bytes := length_take_of_le hfits
  obtain ⟨start, -, hto, hpayload⟩ := walk_payload hwalk (by omega)
  cases hip
  exact ⟨hforty, hfits, start, by omega, hpayload⟩

theorem parseTransport_liesIn {transport : TransportPacket} {start stop : Nat} (h : parseTransport ip = .ok transport)
    (hpayload : ip.payload = (frame.take stop).drop start) (hstart : start ≤ stop) (hstop : stop ≤ frame.length) :
    transport.LiesIn frame start stop := by
  have hlength : ip.payload.length = stop - start := by rw [hpayload, length_part hstop]
  have hrest : ∀ k, k ≤ ip.payload.length → Part frame start stop (ip.payload.drop k) := by
    intro k hk
    refine ⟨start + k, stop, by omega, by omega, Nat.le_refl _, hstop, ?_⟩
    rw [hpayload, drop_drop]
  unfold parseTransport at h
  by_cases hfragment : ip.nonInitialFragment = true
  · rw [if_pos hfragment] at h
    cases h
    exact trivial
  rw [if_neg hfragment] at h
  by_cases htcp : ip.protocol = 6
  · rw [if_pos htcp, bind_ok] at h
    obtain ⟨segment, hparse, hsome⟩ := h
    cases hsome
    rw [parseTcp_eq, truncated, malformed, guard_ok, guard_ok, guard_ok] at hparse
    obtain ⟨-, -, hend, hsegment⟩ := hparse
    cases hsegment
    exact hrest _ (Nat.not_lt.1 hend)
  rw [if_neg htcp] at h
  by_cases hudp : ip.protocol = 17
  · rw [if_pos hudp, bind_ok] at h
    obtain ⟨datagram, hparse, hsome⟩ := h
    cases hsome
    rw [parseUdp_eq, truncated, malformed, guard_ok, guard_ok, guard_ok] at hparse
    obtain ⟨hshort, hheader, hend, hdatagram⟩ := hparse
    cases hdatagram
    have hudpLength : udpLength ip.payload = udpLength (frame.drop start) := by
      unfold udpLength
      rw [hpayload, word_drop, word_drop, word_take (by omega)]
    refine ⟨by omega, start + 8, start + udpLength (frame.drop start), by omega, by omega, Nat.le_refl _, by omega, ?_⟩
    show (ip.payload.take (udpLength ip.payload)).drop 8 = _
    rw [hudpLength, hpayload, part_part _ (by omega)]
  rw [if_neg hudp] at h
  have hicmp : ∀ message, parseIcmp ip.payload = .ok message → Part frame start stop message.payload := by
    intro message hparse
    rw [parseIcmp_eq, truncated, guard_ok] at hparse
    obtain ⟨hshort, hmessage⟩ := hparse
    cases hmessage
    exact hrest 4 (Nat.not_lt.1 hshort)
  by_cases hv4 : ip.protocol = 1
  · rw [if_pos hv4, bind_ok] at h
    obtain ⟨message, hparse, hsome⟩ := h
    cases hsome
    exact hicmp message hparse
  rw [if_neg hv4] at h
  by_cases hv6 : ip.protocol = 58
  · rw [if_pos hv6, bind_ok] at h
    obtain ⟨message, hparse, hsome⟩ := h
    cases hsome
    exact hicmp message hparse
  rw [if_neg hv6] at h
  cases h
  exact hrest 0 (Nat.zero_le _)

/-- The bytes of a packet are parts of the frame inside the declared lengths. -/
def ParsedPacket.PartsOf (frame : List UInt8) (packet : ParsedPacket) : Prop :=
  (∀ arp, packet.arp = some arp → Part frame packet.ethernet.length frame.length arp.bytes) ∧
  (∀ ip, packet.ip = some ip → ∃ start stop, declaredEnd frame = some stop ∧ packet.ethernet.length ≤ start ∧
    start ≤ stop ∧ stop ≤ frame.length ∧ ip.payload = (frame.take stop).drop start ∧
    ∀ transport, packet.transport = some transport → transport.LiesIn frame start stop)

/-- **What an accepted frame returns are parts of it that end inside the declared lengths.** -/
theorem parsePacket_parts (h : parsePacket frame = .ok packet) : packet.PartsOf frame := by
  cases hethernet : parseEthernet frame with
  | error failure =>
    unfold parsePacket at h
    rw [hethernet] at h
    cases h
  | ok ethernet =>
    obtain ⟨-, hfits, -⟩ := parseEthernet_spec hethernet
    have hlength : (frame.drop ethernet.length).length = frame.length - ethernet.length := length_drop ..
    -- both versions end the same way: a payload found in the bytes after the Ethernet header
    have hfinish : ∀ (ip : IpPacket) (low size : Nat), finishIp ethernet ip = .ok packet →
        declaredEnd frame = some (ethernet.length + size) → size ≤ (frame.drop ethernet.length).length → low ≤ size →
        ip.payload = ((frame.drop ethernet.length).take size).drop low → packet.PartsOf frame := by
      intro ip low size hok hdeclared hsize hlow hpayload
      obtain ⟨transport, htransport, rfl⟩ := finishIp_ok.1 hok
      have hpart : ip.payload = (frame.take (ethernet.length + size)).drop (ethernet.length + low) := by
        rw [hpayload, take_drop, drop_drop]
      refine ⟨fun arp harp => (by cases harp), fun _ hip => ?_⟩
      cases hip
      refine ⟨ethernet.length + low, _, hdeclared, Nat.le_add_right .., by omega, by omega, hpart, fun _ hsome => ?_⟩
      cases hsome
      exact parseTransport_liesIn htransport hpart (by omega) (by omega)
    rw [parsePacket_eq hethernet] at h
    by_cases harp : ethernet.etherType = etherTypeArp
    · rw [if_pos harp, bind_ok] at h
      obtain ⟨arp, hparse, hpacket⟩ := h
      cases hpacket
      rw [parseArp_eq, truncated, guard_ok, guard_ok] at hparse
      obtain ⟨-, hend, hsome⟩ := hparse
      refine ⟨fun _ harp => ?_, fun ip hip => (by cases hip)⟩
      cases harp
      cases hsome
      refine ⟨ethernet.length, ethernet.length + arpLength (frame.drop ethernet.length),
        Nat.le_refl _, by omega, by omega, Nat.le_refl _, ?_⟩
      show (frame.drop ethernet.length).take _ = _
      rw [take_drop]
    rw [if_neg harp] at h
    by_cases hv4 : ethernet.etherType = etherTypeIpv4
    · rw [if_pos hv4, bind_ok] at h
      obtain ⟨ip, hparse, hok⟩ := h
      obtain ⟨hheader, hsize, low, hlow, hpayload⟩ := parseIpv4_payload hparse
      refine hfinish ip low _ hok ?_ hsize hlow hpayload
      unfold declaredEnd
      rw [hethernet]
      exact if_pos ⟨hv4, by omega⟩
    rw [if_neg hv4] at h
    by_cases hv6 : ethernet.etherType = etherTypeIpv6
    · rw [if_pos hv6, bind_ok] at h
      obtain ⟨ip, hparse, hok⟩ := h
      obtain ⟨hheader, hsize, low, hlow, hpayload⟩ := parseIpv6_payload hparse
      exact hfinish ip low _ hok (declaredEnd_ipv6 hethernet hv6 (by omega)) hsize hlow hpayload
    · rw [if_neg hv6] at h
      cases h
      exact ⟨fun arp harp => (by cases harp), fun ip hip => (by cases hip)⟩

/-! ## Bytes after the packet -/

/-- Two byte strings that start with the same `n` bytes and have them all. -/
structure Agree (n : Nat) (bytes other : List UInt8) : Prop where
  left : n ≤ bytes.length
  right : n ≤ other.length
  same : other.take n = bytes.take n

section
variable {bytes other : List UInt8} {n k : Nat}

section
variable (h : Agree n bytes other)
include h

theorem Agree.mono (hk : k ≤ n) : Agree k bytes other :=
  ⟨by have := h.left; omega, by have := h.right; omega, take_congr h.same hk⟩

theorem Agree.drop (hk : k ≤ n) : Agree (n - k) (bytes.drop k) (other.drop k) := by
  refine ⟨?_, ?_, ?_⟩
  · rw [length_drop]
    exact Nat.sub_le_sub_right h.left k
  · rw [length_drop]
    exact Nat.sub_le_sub_right h.right k
  · rw [take_drop, take_drop, Nat.add_sub_cancel' hk, h.same]

theorem Agree.byte (hk : k < n) : byte other k = byte bytes k := by
  rw [← byte_take hk, h.same, byte_take hk]

theorem Agree.word (hk : k + 1 < n) : word other k = word bytes k := by
  rw [← word_take hk, h.same, word_take hk]

theorem Agree.ipv4At (hk : k + 4 ≤ n) : ipv4At other k = ipv4At bytes k := by
  rw [← ipv4At_take hk, h.same, ipv4At_take hk]

theorem Agree.ipv6At (hk : k + 16 ≤ n) : ipv6At other k = ipv6At bytes k := by
  rw [← ipv6At_take hk, h.same, ipv6At_take hk]

end

theorem Agree.parseIpv4 (h : Agree (ipv4TotalLength bytes) bytes other) (hlong : 20 ≤ ipv4TotalLength bytes) :
    parseIpv4 other = parseIpv4 bytes := by
  have hleft := h.left
  have hright := h.right
  have htotal : ipv4TotalLength other = ipv4TotalLength bytes := congrArg UInt16.toNat (h.word (by omega))
  have hmalformed : ipv4Malformed other ↔ ipv4Malformed bytes := by
    unfold ipv4Malformed
    rw [h.byte (by omega), htotal]
  have hpacket : ipv4Packet other = ipv4Packet bytes := by
    unfold ipv4Packet
    rw [htotal, h.same, h.byte (by omega), h.byte (by omega), h.word (by omega), h.ipv4At (by omega),
      h.ipv4At (by omega)]
  rw [parseIpv4_complete (by omega) (by omega), parseIpv4_complete (by omega) (by omega), hpacket]
  exact ite_congr (propext hmalformed) (fun _ => rfl) (fun _ => rfl)

theorem Agree.parseIpv6 (h : Agree (ipv6PacketLength bytes) bytes other) : parseIpv6 other = parseIpv6 bytes := by
  have hleft := h.left
  have hright := h.right
  have hforty : 40 ≤ ipv6PacketLength bytes := Nat.le_add_right ..
  have hlength : ipv6PacketLength other = ipv6PacketLength bytes :=
    congrArg (fun w : UInt16 => 40 + w.toNat) (h.word (by omega))
  have hpacket : ipv6Packet other = ipv6Packet bytes := by
    funext walked
    unfold ipv6Packet
    rw [h.ipv6At (by omega), h.ipv6At (by omega)]
  rw [parseIpv6_complete (by omega), parseIpv6_complete (by omega), hlength, hpacket, h.same, h.byte (by omega),
    h.byte (by omega)]

theorem parseIpv4_refused (h : ipv4TotalLength bytes < 20) : (parseIpv4 bytes).toOption = none := by
  have hmalformed : ipv4Malformed bytes := by
    by_cases hheader : headerLength (byte bytes 0) < 20
    · exact .inr (.inl hheader)
    · exact .inr (.inr (by omega))
  rw [parseIpv4_eq]
  split <;> rfl

/-- The rest of the answer is made from the IP packet alone. -/
theorem toOption_finish {ethernet : EthernetHeader} {answer other : Parsed IpPacket}
    (h : other.toOption = answer.toOption) :
    (other >>= finishIp ethernet).toOption = (answer >>= finishIp ethernet).toOption := by
  cases answer with
  | error => cases other with
    | error => rfl
    | ok => cases h
  | ok ip => cases other with
    | error => cases h
    | ok =>
      cases h
      rfl

end

theorem declaredEnd_some (h : declaredEnd frame = some stop) :
    ∃ ethernet, parseEthernet frame = .ok ethernet ∧
      ((ethernet.etherType = etherTypeIpv4 ∧ stop = ethernet.length + ipv4TotalLength (frame.drop ethernet.length)) ∨
        (ethernet.etherType = etherTypeIpv6 ∧ stop = ethernet.length +
          ipv6PacketLength (frame.drop ethernet.length))) := by
  unfold declaredEnd at h
  cases hethernet : parseEthernet frame with
  | error failure =>
    rw [hethernet] at h
    cases h
  | ok ethernet =>
    rw [hethernet] at h
    dsimp only at h
    refine ⟨ethernet, rfl, ?_⟩
    split at h
    · rename_i hv4
      exact .inl ⟨hv4.1, (Option.some.inj h).symm⟩
    · split at h
      · rename_i hv6
        exact .inr ⟨hv6.1, (Option.some.inj h).symm⟩
      · cases h

/-- **Frames that agree up to the end they declare are answered alike**: both are refused, or both give the same packet.
-/
theorem parsePacket_agree {frame other : List UInt8} (hdeclared : declaredEnd frame = some stop)
    (hsame : declaredEnd other = some stop) (h : Agree stop frame other) :
    (parsePacket other).toOption = (parsePacket frame).toOption := by
  obtain ⟨ethernet, hethernet, hversion⟩ := declaredEnd_some hdeclared
  obtain ⟨_, hethernet', hversion'⟩ := declaredEnd_some hsame
  obtain ⟨-, -, hlocal⟩ := parseEthernet_spec hethernet
  have hle : ethernet.length ≤ stop := by
    rcases hversion with ⟨-, rfl⟩ | ⟨-, rfl⟩ <;> exact Nat.le_add_right ..
  have hother := hlocal other (h.mono hle).same (h.mono hle).right
  rw [hother, Except.ok.injEq] at hethernet'
  subst hethernet'
  have hdrop := h.drop hle
  rcases hversion with ⟨htype, hstop⟩ | ⟨htype, hstop⟩
  · rw [parsePacket_ipv4 hethernet htype, parsePacket_ipv4 hother htype]
    have hsize : stop - ethernet.length = ipv4TotalLength (frame.drop ethernet.length) := by omega
    have hstop' : stop = ethernet.length + ipv4TotalLength (other.drop ethernet.length) := by
      rcases hversion' with ⟨-, hstop'⟩ | ⟨htype', -⟩
      · exact hstop'
      · rw [htype] at htype'
        exact absurd htype' (by decide)
    apply toOption_finish
    by_cases hlong : 20 ≤ ipv4TotalLength (frame.drop ethernet.length)
    · rw [hsize] at hdrop
      rw [hdrop.parseIpv4 hlong]
    · rw [parseIpv4_refused (by omega), parseIpv4_refused (by omega)]
  · have hsize : stop - ethernet.length = ipv6PacketLength (frame.drop ethernet.length) := by omega
    rw [hsize] at hdrop
    rw [parsePacket_ipv6 hethernet htype, parsePacket_ipv6 hother htype, hdrop.parseIpv6]

/-- A frame that covers its own length field agrees only with frames that declare the same end. -/
theorem declaredEnd_agree {frame other : List UInt8} (hdeclared : declaredEnd frame = some stop)
    (h : Agree stop frame other)
    (hcovers : ∀ ethernet, parseEthernet frame = .ok ethernet → ethernet.length + 4 ≤ stop) :
    declaredEnd other = some stop := by
  obtain ⟨ethernet, hethernet, hversion⟩ := declaredEnd_some hdeclared
  obtain ⟨-, -, hlocal⟩ := parseEthernet_spec hethernet
  have hlong := hcovers ethernet hethernet
  have hle : ethernet.length ≤ stop := by omega
  have hother := hlocal other (h.mono hle).same (h.mono hle).right
  have hdrop := h.drop hle
  have hright := hdrop.right
  rcases hversion with ⟨htype, hstop⟩ | ⟨htype, hstop⟩
  · have hword := hdrop.word (k := 2) (by omega)
    unfold declaredEnd
    rw [hother]
    dsimp only
    rw [if_pos ⟨htype, by omega⟩, hstop, ipv4TotalLength, hword]
    rfl
  · have hlong : 40 ≤ ipv6PacketLength (frame.drop ethernet.length) := Nat.le_add_right ..
    have hword := hdrop.word (k := 4) (by omega)
    rw [declaredEnd_ipv6 hother htype (by omega), hstop, ipv6PacketLength, hword]
    rfl

theorem covers_of_accepted (haccepted : parsePacket frame = .ok packet) (hdeclared : declaredEnd frame = some stop)
    (ethernet : EthernetHeader) (h : parseEthernet frame = .ok ethernet) : ethernet.length + 4 ≤ stop := by
  obtain ⟨_, hethernet, hversion⟩ := declaredEnd_some hdeclared
  obtain rfl := Except.ok.inj (h.symm.trans hethernet)
  rcases hversion with ⟨htype, rfl⟩ | ⟨-, rfl⟩
  · rw [parsePacket_ipv4 hethernet htype, bind_ok] at haccepted
    obtain ⟨ip, hparse, -⟩ := haccepted
    obtain ⟨hlong, -⟩ := parseIpv4_payload hparse
    omega
  · unfold ipv6PacketLength
    omega

/-- **No byte string makes the parser read outside it, every payload it returns is a part of the frame inside the
declared lengths, and what follows the declared IP packet changes nothing**: neither what is returned for an accepted
frame nor, with the declared end left as it is, that a refused one is refused.  An IPv4 length of at least 4 leaves it
as it is. -/
theorem parse_packet_bounded (frame : List UInt8) :
    parsePacket frame ≠ .error .panic ∧ (∀ packet, parsePacket frame = .ok packet →
      (∀ arp, packet.arp = some arp → Part frame packet.ethernet.length frame.length arp.bytes) ∧
      (∀ ip, packet.ip = some ip → ∃ start stop, declaredEnd frame = some stop ∧ packet.ethernet.length ≤ start ∧
        start ≤ stop ∧ stop ≤ frame.length ∧ ip.payload = (frame.take stop).drop start ∧
        ∀ transport, packet.transport = some transport → transport.LiesIn frame start stop)) ∧
    (∀ stop other, declaredEnd frame = some stop → Agree stop frame other →
      (∀ packet, parsePacket frame = .ok packet → parsePacket other = .ok packet) ∧
      (declaredEnd other = some stop → (parsePacket other).toOption = (parsePacket frame).toOption) ∧
      ((∀ ethernet, parseEthernet frame = .ok ethernet → ethernet.length + 4 ≤ stop) →
        declaredEnd other = some stop)) := by
  refine ⟨parsePacket_ne_panic frame, fun packet h => parsePacket_parts h, fun stop other hdeclared hagree => ?_⟩
  refine ⟨fun packet haccepted => ?_, fun hsame => parsePacket_agree hdeclared hsame hagree,
    declaredEnd_agree hdeclared hagree⟩
  have hsame := parsePacket_agree hdeclared
    (declaredEnd_agree hdeclared hagree (covers_of_accepted haccepted hdeclared)) hagree
  rw [haccepted] at hsame
  cases hother : parsePacket other with
  | error failure =>
    rw [hother] at hsame
    cases hsame
  | ok packet' =>
    rw [hother] at hsame
    cases hsame
    rfl

end Packet
end NetTool
