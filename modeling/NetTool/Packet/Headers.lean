import NetTool.Packet.Parser
/-!
# Packet.Headers — what each part of the parser answers

For every function of the parser, an equation in terms of the bytes themselves: which part of its input it looks at,
when it refuses, and what it returns.  No equation has a `panic` in it, so the parser reads nothing outside its input
(`parsePacket_ne_panic`).
-/
namespace NetTool
namespace Packet

open Check Bytes

/-! ## What the reads answer -/

/-- The byte and the 16-bit number at an offset, zero outside. -/
def byte (bytes : List UInt8) (offset : Nat) : UInt8 := bytes.getD offset 0
def word (bytes : List UInt8) (offset : Nat) : UInt16 := fromBeBytes16 (byte bytes offset) (byte bytes (offset + 1))
def long (bytes : List UInt8) (offset : Nat) : UInt32 :=
  fromBeBytes32 (byte bytes offset) (byte bytes (offset + 1)) (byte bytes (offset + 2)) (byte bytes (offset + 3))

section
variable {bytes : List UInt8} {start stop offset n : Nat}

theorem visible_ok (h : start ≤ stop) (hstop : stop ≤ bytes.length) :
    visible bytes start stop = .ok ((bytes.take stop).drop start) := by
  unfold visible
  rw [range_some_iff.2 ⟨h, hstop, rfl⟩]

theorem visible_truncated (h : bytes.length < stop) : visible bytes start stop = truncated := by
  unfold visible range
  rw [if_neg (by omega)]

theorem slice_ok (h : start ≤ stop) (hstop : stop ≤ bytes.length) :
    slice bytes start stop = .ok ((bytes.take stop).drop start) := by
  unfold slice
  rw [range_some_iff.2 ⟨h, hstop, rfl⟩]

theorem byteAt_ok (h : offset < bytes.length) : byteAt bytes offset = .ok (byte bytes offset) := by
  unfold byteAt byte
  rw [List.getD_eq_getElem?_getD, List.getElem?_eq_getElem h]
  rfl

theorem visible_take (h : n ≤ bytes.length) : visible bytes 0 n = .ok (bytes.take n) := visible_ok (Nat.zero_le _) h

theorem byte_take (hoffset : offset < n) : byte (bytes.take n) offset = byte bytes offset := by
  unfold byte
  rw [List.getD_eq_getElem?_getD, List.getD_eq_getElem?_getD, List.getElem?_take_of_lt hoffset]

theorem byte_drop : byte (bytes.drop n) offset = byte bytes (n + offset) := by
  unfold byte
  rw [List.getD_eq_getElem?_getD, List.getD_eq_getElem?_getD, List.getElem?_drop]

theorem word_take (hoffset : offset + 1 < n) : word (bytes.take n) offset = word bytes offset := by
  unfold word
  rw [byte_take (by omega), byte_take hoffset]

theorem word_drop : word (bytes.drop n) offset = word bytes (n + offset) := by
  unfold word
  rw [byte_drop, byte_drop, Nat.add_assoc]

theorem long_take (hoffset : offset + 3 < n) : long (bytes.take n) offset = long bytes offset := by
  unfold long
  rw [byte_take (by omega), byte_take (by omega), byte_take (by omega), byte_take hoffset]

theorem length_part (h : stop ≤ bytes.length) : ((bytes.take stop).drop start).length = stop - start := by
  rw [List.length_drop, List.length_take_of_le h]

theorem byteAt_part (h : stop ≤ bytes.length) (hoffset : start + offset < stop) :
    byteAt ((bytes.take stop).drop start) offset = .ok (byte bytes (start + offset)) := by
  rw [byteAt_ok (by rw [length_part h]; omega), byte_drop, byte_take hoffset]

theorem readU16_ok (h : offset + 2 ≤ bytes.length) : readU16 bytes offset = .ok (word bytes offset) := by
  unfold readU16
  rw [visible_ok (by omega) h, ok_bind, byteAt_part h (by omega), byteAt_part h (by omega)]
  rfl

theorem readU16_part (h : stop ≤ bytes.length) (hoffset : start + offset + 1 < stop) :
    readU16 ((bytes.take stop).drop start) offset = .ok (word bytes (start + offset)) := by
  rw [readU16_ok (by rw [length_part h]; omega), word_drop, word_take hoffset]

theorem readU32_ok (h : offset + 4 ≤ bytes.length) : readU32 bytes offset = .ok (long bytes offset) := by
  unfold readU32
  rw [visible_ok (by omega) h, ok_bind, byteAt_part h (by omega), byteAt_part h (by omega), byteAt_part h (by omega),
    byteAt_part h (by omega)]
  rfl

/-! A header is asked for once, and its fields are read from the part that was there. -/

theorem visible_bind {α : Type} {f : List UInt8 → Parsed α} {answer : Parsed α}
    (hanswer : n ≤ bytes.length → f (bytes.take n) = answer) :
    (visible bytes 0 n >>= f) = if bytes.length < n then truncated else answer := by
  by_cases h : bytes.length < n
  · rw [if_pos h, visible_truncated h]
    rfl
  · rw [if_neg h, visible_take (Nat.not_lt.1 h), ok_bind, hanswer (Nat.not_lt.1 h)]

theorem slice_rest (h : start ≤ bytes.length) : slice bytes start bytes.length = .ok (bytes.drop start) := by
  rw [slice_ok h (Nat.le_refl _), List.take_length]

section
variable (hn : n ≤ bytes.length)
include hn

theorem byteAt_take (h : offset < n) : byteAt (bytes.take n) offset = .ok (byte bytes offset) := by
  rw [byteAt_ok (by rw [List.length_take_of_le hn]; exact h), byte_take h]

theorem readU16_take (h : offset + 2 ≤ n) : readU16 (bytes.take n) offset = .ok (word bytes offset) := by
  rw [readU16_ok (by rw [List.length_take_of_le hn]; exact h), word_take h]

theorem readU32_take (h : offset + 4 ≤ n) : readU32 (bytes.take n) offset = .ok (long bytes offset) := by
  rw [readU32_ok (by rw [List.length_take_of_le hn]; exact h), long_take h]

end
end

/-! ## Ethernet -/

section
variable {frame : List UInt8} {room offset : Nat} {etherType : UInt16} {tags : List VlanTag}

theorem vlanLoop_done (h : ¬ isVlan etherType) : vlanLoop frame room offset etherType tags = .ok (tags, etherType) := by
  unfold vlanLoop
  exact if_neg h

theorem vlanLoop_full (h : isVlan etherType) :
    vlanLoop frame 0 offset etherType tags = .error (.error .tooManyVlanTags) := by
  exact if_pos h

theorem vlanLoop_truncated (h : isVlan etherType) (hlength : frame.length < offset + 4) :
    vlanLoop frame (room + 1) offset etherType tags = truncated := by
  rw [vlanLoop, if_pos h, visible_truncated hlength]
  rfl

theorem vlanLoop_tag (h : isVlan etherType) (hlength : offset + 4 ≤ frame.length) :
    vlanLoop frame (room + 1) offset etherType tags =
      vlanLoop frame room (offset + 4) (word frame (offset + 2)) (tags ++ [VlanTag.ofControl (word frame offset)]) := by
  rw [vlanLoop, if_pos h, visible_ok (by omega) hlength, ok_bind, readU16_part hlength (by omega),
    readU16_part hlength (by omega)]
  rfl

/-- The tags the loop adds lie inside the frame, and it looks at nothing after them. -/
theorem vlanLoop_spec {r : List VlanTag × UInt16} (h : vlanLoop frame room offset etherType tags = .ok r)
    (hoffset : offset ≤ frame.length) :
    ∃ added, r.1.length = tags.length + added ∧ offset + added * 4 ≤ frame.length ∧
      ∀ other : List UInt8, other.take (offset + added * 4) = frame.take (offset + added * 4) →
        offset + added * 4 ≤ other.length → vlanLoop other room offset etherType tags = .ok r := by
  induction room generalizing offset etherType tags with
  | zero =>
    by_cases hvlan : isVlan etherType
    · rw [vlanLoop_full hvlan] at h
      cases h
    · rw [vlanLoop_done hvlan] at h
      cases h
      exact ⟨0, rfl, by omega, fun _ _ _ => vlanLoop_done hvlan⟩
  | succ room ih =>
    by_cases hvlan : isVlan etherType
    · by_cases hroom : offset + 4 ≤ frame.length
      · rw [vlanLoop_tag hvlan hroom] at h
        obtain ⟨added, hlength, hfits, hlocal⟩ := ih h hroom
        rw [List.length_append, List.length_singleton] at hlength
        refine ⟨added + 1, by omega, by omega, fun other hagree hother => ?_⟩
        have hstart : offset + 4 + added * 4 = offset + (added + 1) * 4 := by omega
        have hword : ∀ k, k + 1 < offset + (added + 1) * 4 → word other k = word frame k := by
          intro k hk
          rw [← word_take hk, hagree, word_take hk]
        rw [vlanLoop_tag hvlan (by omega), hword _ (by omega), hword _ (by omega)]
        exact hlocal other (by rw [hstart]; exact hagree) (by omega)
      · rw [vlanLoop_truncated hvlan (by omega)] at h
        cases h
    · rw [vlanLoop_done hvlan] at h
      cases h
      exact ⟨0, rfl, by omega, fun _ _ _ => vlanLoop_done hvlan⟩

theorem parseEthernet_eq (frame : List UInt8) :
    parseEthernet frame =
      if frame.length < 14 then truncated
      else (do
        let r ← vlanLoop frame 2 14 (word frame 12) []
        pure ⟨frame.take 6, (frame.take 12).drop 6, r.1, r.2⟩) := by
  refine visible_bind fun (hlength : 14 ≤ frame.length) => ?_
  have hbase : (frame.take ethernetHeaderLength).length = 14 := List.length_take_of_le hlength
  rw [slice_ok (by omega) (by omega), slice_ok (by omega) (by omega), readU16_take hlength (by omega), List.take_take,
    List.take_take]
  rfl

end

/-- **The Ethernet header lies inside the frame, and only its bytes are looked at.** -/
theorem parseEthernet_spec {frame : List UInt8} {ethernet : EthernetHeader} (h : parseEthernet frame = .ok ethernet) :
    14 ≤ ethernet.length ∧ ethernet.length ≤ frame.length ∧
      ∀ other : List UInt8, other.take ethernet.length = frame.take ethernet.length → ethernet.length ≤ other.length →
        parseEthernet other = .ok ethernet := by
  rw [parseEthernet_eq, truncated, guard_ok, bind_ok] at h
  obtain ⟨hshort, r, hloop, hheader⟩ := h
  cases hheader
  obtain ⟨added, htags, hfits, hlocal⟩ := vlanLoop_spec hloop (Nat.not_lt.1 hshort)
  have hadded : r.1.length = added := by rw [htags]; exact Nat.zero_add _
  have hend : EthernetHeader.length ⟨frame.take 6, (frame.take 12).drop 6, r.1, r.2⟩ = 14 + added * 4 := by
    unfold EthernetHeader.length
    rw [hadded]
  rw [hend]
  refine ⟨by omega, hfits, fun other hagree hother => ?_⟩
  have htake : ∀ k, k ≤ 14 → other.take k = frame.take k := fun k hk => take_congr hagree (by omega)
  have hword : word other 12 = word frame 12 := by
    rw [← word_take (by omega : 12 + 1 < 14), htake 14 (by omega), word_take (by omega)]
  rw [parseEthernet_eq, if_neg (by omega), hword, hlocal other hagree hother, htake 6 (by omega), htake 12 (by omega)]
  rfl

/-! ## IP and transport headers -/

def ipv4TotalLength (bytes : List UInt8) : Nat := (word bytes 2).toNat

def ipv4At (bytes : List UInt8) (offset : Nat) : IpAddr :=
  .v4 (IpAddr.ofOctets (byte bytes offset).toNat (byte bytes (offset + 1)).toNat (byte bytes (offset + 2)).toNat
    (byte bytes (offset + 3)).toNat)

def ipv4Packet (bytes : List UInt8) : IpPacket where
  source := ipv4At bytes 12
  destination := ipv4At bytes 16
  protocol := byte bytes 9
  nonInitialFragment := word bytes 6 &&& 0x1fff != 0
  payload := (bytes.take (ipv4TotalLength bytes)).drop (headerLength (byte bytes 0))

/-- The fields of an IPv4 header that make it no header. -/
def ipv4Malformed (bytes : List UInt8) : Prop :=
  byte bytes 0 >>> 4 ≠ 4 ∨ headerLength (byte bytes 0) < 20 ∨ ipv4TotalLength bytes < headerLength (byte bytes 0)

instance (bytes : List UInt8) : Decidable (ipv4Malformed bytes) := inferInstanceAs (Decidable (_ ∨ _ ∨ _))

variable {bytes : List UInt8} {offset : Nat} {packet : List UInt8} {protocol : UInt8} {α : Type}

theorem readIpv4_ok (h : offset + 4 ≤ bytes.length) : readIpv4 bytes offset = .ok (ipv4At bytes offset) := by
  unfold readIpv4
  rw [byteAt_ok (by omega), byteAt_ok (by omega), byteAt_ok (by omega), byteAt_ok (by omega)]
  rfl

theorem ipv4At_take {offset n : Nat} (h : offset + 4 ≤ n) : ipv4At (bytes.take n) offset = ipv4At bytes offset := by
  unfold ipv4At
  rw [byte_take (by omega), byte_take (by omega), byte_take (by omega), byte_take (by omega)]

theorem readIpv4_take {n : Nat} (hn : n ≤ bytes.length) (h : offset + 4 ≤ n) :
    readIpv4 (bytes.take n) offset = .ok (ipv4At bytes offset) := by
  rw [readIpv4_ok (by rw [List.length_take_of_le hn]; exact h), ipv4At_take h]

theorem parseIpv4_eq (bytes : List UInt8) :
    parseIpv4 bytes =
      if bytes.length < 20 then truncated
      else if ipv4Malformed bytes then malformed
      else if bytes.length < ipv4TotalLength bytes then truncated
      else .ok (ipv4Packet bytes) := by
  have hsplit : ∀ a b : Parsed IpPacket, (if ipv4Malformed bytes then a else b) = if byte bytes 0 >>> 4 ≠ 4 then a
      else if headerLength (byte bytes 0) < 20 then a else if ipv4TotalLength bytes < headerLength (byte bytes 0)
        then a else b := by
    intro a b
    grind [ipv4Malformed]
  refine visible_bind fun (hlength : 20 ≤ bytes.length) => ?_
  have htotalLength : (word bytes 2).toNat = ipv4TotalLength bytes := rfl
  simp only [byteAt_take hlength, readU16_take hlength, readIpv4_take hlength, Nat.reduceLT, Nat.reduceAdd,
    Nat.reduceLeDiff, ok_bind, hsplit, htotalLength]
  refine ite_congr rfl (fun _ => rfl) fun _ => ite_congr rfl (fun _ => rfl) fun _ =>
    ite_congr rfl (fun _ => rfl) fun htotal => ?_
  refine visible_bind fun hend => ?_
  rw [slice_rest (by rw [List.length_take_of_le hend]; exact Nat.not_lt.1 htotal)]
  rfl

theorem parseIpv4_complete (hlength : 20 ≤ bytes.length) (hfits : ipv4TotalLength bytes ≤ bytes.length) :
    parseIpv4 bytes = if ipv4Malformed bytes then malformed else .ok (ipv4Packet bytes) := by
  rw [parseIpv4_eq, if_neg (Nat.not_lt.2 hlength), if_neg (Nat.not_lt.2 hfits)]

/-! ### The extension headers of IPv6 -/

def isExtension (protocol : UInt8) : Prop :=
  protocol = 0 ∨ protocol = 43 ∨ protocol = 60 ∨ protocol = 44 ∨ protocol = 51

instance (protocol : UInt8) : Decidable (isExtension protocol) := inferInstanceAs (Decidable (_ ∨ _ ∨ _ ∨ _ ∨ _))

def extensionAt (packet : List UInt8) (protocol : UInt8) (offset : Nat) : Extension where
  next := byte packet offset
  length :=
    if protocol = 44 then 8
    else if protocol = 51 then ((byte packet (offset + 1)).toNat + 2) * 4
    else ((byte packet (offset + 1)).toNat + 1) * 8
  later := decide (protocol = 44) && (word packet (offset + 2) &&& 0xfff8 != 0)

theorem extensionAt_length (packet : List UInt8) (protocol : UInt8) (offset : Nat) :
    8 ≤ (extensionAt packet protocol offset).length := by
  unfold extensionAt
  dsimp only
  split
  · omega
  · split <;> omega

theorem readExtension_none (h : ¬ isExtension protocol) : readExtension packet protocol offset = .ok none := by
  unfold isExtension at h
  unfold readExtension
  rw [if_neg (by tauto), if_neg (by tauto), if_neg (by tauto)]
  rfl

/-- A hop-by-hop, routing, destination or authentication header is read from its first two bytes. -/
theorem readExtension_pair (h : isExtension protocol) (hfragment : protocol ≠ 44) :
    readExtension packet protocol offset = (do
      let extension ← visible packet offset (offset + 2)
      let next ← byteAt extension 0
      let length ← byteAt extension 1
      pure (some ⟨next, if protocol = 51 then (length.toNat + 2) * 4 else (length.toNat + 1) * 8, false⟩)) := by
  unfold readExtension
  by_cases hauthentication : protocol = 51
  · subst hauthentication
    rfl
  · have hoptions : protocol = 0 ∨ protocol = 43 ∨ protocol = 60 := by
      unfold isExtension at h
      tauto
    simp only [if_pos hoptions, if_neg hauthentication]

theorem readExtension_some (h : isExtension protocol) (hlength : offset + 8 ≤ packet.length) :
    readExtension packet protocol offset = .ok (some (extensionAt packet protocol offset)) := by
  by_cases hfragment : protocol = 44
  · subst hfragment
    show (visible packet offset (offset + 8) >>= _) = _
    rw [visible_ok (by omega) hlength, ok_bind, readU16_part hlength (by omega), byteAt_part hlength (by omega)]
    rfl
  · have hpair : offset + 2 ≤ packet.length := by omega
    rw [readExtension_pair h hfragment, visible_ok (by omega) hpair, ok_bind, byteAt_part hpair (by omega),
      byteAt_part hpair (by omega)]
    simp [extensionAt, hfragment]

/-- A header that is not there in full is refused, now or when the loop goes past it. -/
theorem readExtension_short (h : isExtension protocol) (hlength : packet.length < offset + 8) :
    readExtension packet protocol offset = truncated ∨
      ∃ extension, readExtension packet protocol offset = .ok (some extension) ∧
        packet.length < offset + extension.length := by
  by_cases hfragment : protocol = 44
  · subst hfragment
    show (visible packet offset (offset + 8) >>= _) = _ ∨ _
    rw [visible_truncated hlength]
    exact .inl rfl
  · rw [readExtension_pair h hfragment]
    by_cases hpair : offset + 2 ≤ packet.length
    · rw [visible_ok (by omega) hpair, ok_bind, byteAt_part hpair (by omega), byteAt_part hpair (by omega)]
      refine .inr ⟨_, rfl, ?_⟩
      dsimp only
      split <;> omega
    · rw [visible_truncated (by omega)]
      exact .inl rfl

section
variable {packet : List UInt8} {turns offset : Nat} {protocol : UInt8} {later : Bool}

theorem walk_done (h : ¬ isExtension protocol) (hoffset : offset ≤ packet.length) :
    walk packet (turns + 1) protocol offset later = .ok ⟨protocol, later, packet.drop offset⟩ := by
  rw [walk, readExtension_none h]
  rw [visible_ok hoffset (Nat.le_refl _), List.take_length]
  rfl

theorem walk_extension (h : isExtension protocol)
    (hlength : offset + (extensionAt packet protocol offset).length ≤ packet.length) :
    walk packet (turns + 1) protocol offset later =
      walk packet turns (extensionAt packet protocol offset).next (offset + (extensionAt packet protocol offset).length)
        (later || (extensionAt packet protocol offset).later) := by
  have height := extensionAt_length packet protocol offset
  rw [walk, readExtension_some h (by omega)]
  show visible packet offset (offset + (extensionAt packet protocol offset).length) >>= _ = _
  rw [visible_ok (by omega) hlength]
  rfl

theorem walk_truncated (h : isExtension protocol)
    (hlength : packet.length < offset + (extensionAt packet protocol offset).length) :
    walk packet (turns + 1) protocol offset later = truncated := by
  have hread : readExtension packet protocol offset = truncated ∨
      ∃ extension, readExtension packet protocol offset = .ok (some extension) ∧
        packet.length < offset + extension.length := by
    by_cases hshort : packet.length < offset + 8
    · exact readExtension_short h hshort
    · exact .inr ⟨_, readExtension_some h (Nat.not_lt.1 hshort), hlength⟩
  rw [walk]
  rcases hread with hread | ⟨extension, hread, hend⟩
  · rw [hread]
    rfl
  · rw [hread]
    show visible packet offset (offset + extension.length) >>= _ = _
    rw [visible_truncated hend]
    rfl

end

/-! ### IPv6 -/

def ipv6PacketLength (bytes : List UInt8) : Nat := 40 + (word bytes 4).toNat

def ipv6At (bytes : List UInt8) (offset : Nat) : IpAddr :=
  .v6 (.ofNat 128 (ofBe ((bytes.take (offset + 16)).drop offset)))

def ipv6Packet (bytes : List UInt8) (walked : Walked) : IpPacket where
  source := ipv6At bytes 8
  destination := ipv6At bytes 24
  protocol := walked.protocol
  nonInitialFragment := walked.nonInitialFragment
  payload := walked.payload

theorem ipv6At_take {offset n : Nat} (h : offset + 16 ≤ n) : ipv6At (bytes.take n) offset = ipv6At bytes offset := by
  unfold ipv6At
  rw [List.take_take, Nat.min_eq_left h]

theorem readIpv6_take {n : Nat} (hn : n ≤ bytes.length) (h : offset + 16 ≤ n) :
    readIpv6 (bytes.take n) offset = .ok (ipv6At bytes offset) := by
  unfold readIpv6
  rw [slice_ok (by omega) (by rw [List.length_take_of_le hn]; exact h)]
  exact congrArg _ (ipv6At_take h)

theorem parseIpv6_eq (bytes : List UInt8) :
    parseIpv6 bytes =
      if bytes.length < 40 then truncated
      else if byte bytes 0 >>> 4 ≠ 6 then malformed
      else if bytes.length < ipv6PacketLength bytes then truncated
      else (do
        let walked ← walk (bytes.take (ipv6PacketLength bytes)) 8 (byte bytes 6) 40 false
        pure (ipv6Packet bytes walked)) := by
  refine visible_bind fun (hlength : 40 ≤ bytes.length) => ?_
  simp only [byteAt_take hlength, readU16_take hlength, readIpv6_take hlength, Nat.reduceLT, Nat.reduceAdd,
    Nat.reduceLeDiff, ok_bind]
  exact ite_congr rfl (fun _ => rfl) fun _ => visible_bind fun _ => rfl

theorem parseIpv6_complete (hfits : ipv6PacketLength bytes ≤ bytes.length) :
    parseIpv6 bytes =
      if byte bytes 0 >>> 4 ≠ 6 then malformed
      else (do
        let walked ← walk (bytes.take (ipv6PacketLength bytes)) 8 (byte bytes 6) 40 false
        pure (ipv6Packet bytes walked)) := by
  have hlength : 40 ≤ bytes.length := Nat.le_trans (Nat.le_add_right ..) hfits
  rw [parseIpv6_eq, if_neg (Nat.not_lt.2 hlength), if_neg (Nat.not_lt.2 hfits)]

/-! ### Transport headers and ARP -/

def tcpSegment (bytes : List UInt8) : TcpSegment where
  sourcePort := word bytes 0
  destinationPort := word bytes 2
  sequence := long bytes 4
  acknowledgement := long bytes 8
  flags := ((byte bytes 12 &&& 1).toUInt16 <<< 8) ||| (byte bytes 13).toUInt16
  window := word bytes 14
  payload := bytes.drop (dataOffset (byte bytes 12))

section
variable (bytes)

theorem parseTcp_eq :
    parseTcp bytes =
      if bytes.length < 20 then truncated
      else if dataOffset (byte bytes 12) < 20 then malformed
      else if bytes.length < dataOffset (byte bytes 12) then truncated
      else .ok (tcpSegment bytes) := by
  refine visible_bind fun (hlength : 20 ≤ bytes.length) => ?_
  simp only [byteAt_take hlength, readU16_take hlength, readU32_take hlength, Nat.reduceLT, Nat.reduceAdd,
    Nat.reduceLeDiff, ok_bind]
  refine ite_congr rfl (fun _ => rfl) fun _ => ?_
  by_cases hend : bytes.length < dataOffset (byte bytes 12)
  · have hnone : range bytes (dataOffset (byte bytes 12)) bytes.length = none := if_neg (by omega)
    rw [if_pos hend, visible, hnone]
    rfl
  · rw [if_neg hend, visible_ok (Nat.not_lt.1 hend) (Nat.le_refl _), List.take_length]
    rfl

def udpLength (bytes : List UInt8) : Nat := (word bytes 4).toNat

def udpDatagram (bytes : List UInt8) : UdpDatagram where
  sourcePort := word bytes 0
  destinationPort := word bytes 2
  payload := (bytes.take (udpLength bytes)).drop 8

theorem parseUdp_eq :
    parseUdp bytes =
      if bytes.length < 8 then truncated
      else if udpLength bytes < 8 then malformed
      else if bytes.length < udpLength bytes then truncated
      else .ok (udpDatagram bytes) := by
  refine visible_bind fun (hlength : 8 ≤ bytes.length) => ?_
  have hudp : (word bytes 4).toNat = udpLength bytes := rfl
  simp only [readU16_take hlength, Nat.reduceAdd, Nat.reduceLeDiff, ok_bind, hudp]
  refine ite_congr rfl (fun _ => rfl) fun hheader => visible_bind fun hend => ?_
  rw [slice_rest (by rw [List.length_take_of_le hend]; exact Nat.not_lt.1 hheader)]
  rfl

def icmpPacket (bytes : List UInt8) : IcmpPacket where
  messageType := byte bytes 0
  code := byte bytes 1
  payload := bytes.drop 4

theorem parseIcmp_eq : parseIcmp bytes = if bytes.length < 4 then truncated else .ok (icmpPacket bytes) := by
  refine visible_bind fun (hlength : 4 ≤ bytes.length) => ?_
  simp only [byteAt_take hlength, slice_rest hlength, Nat.reduceLT, ok_bind]
  rfl

def arpLength (bytes : List UInt8) : Nat := 8 + 2 * ((byte bytes 4).toNat + (byte bytes 5).toNat)

def arpPacket (bytes : List UInt8) : ArpPacket where
  hardwareType := word bytes 0
  protocolType := word bytes 2
  operation := word bytes 6
  bytes := bytes.take (arpLength bytes)

theorem parseArp_eq :
    parseArp bytes =
      if bytes.length < 8 then truncated
      else if bytes.length < arpLength bytes then truncated
      else .ok (arpPacket bytes) := by
  refine visible_bind fun (hlength : 8 ≤ bytes.length) => ?_
  simp only [byteAt_take hlength, readU16_take hlength, Nat.reduceLT, Nat.reduceAdd, Nat.reduceLeDiff, ok_bind]
  exact visible_bind fun _ => rfl

end

/-! ## No read outside the frame -/

def NoPanic {α : Type} (answer : Parsed α) : Prop := answer ≠ .error .panic

theorem noPanic_ok (a : α) : NoPanic (.ok a) := fun h => (by cases h)

theorem noPanic_error (error : ParseError) : NoPanic (.error (.error error) : Parsed α) := fun h => (by cases h)

theorem NoPanic.bind {α β : Type} {answer : Parsed α} {next : α → Parsed β} (h : NoPanic answer)
    (hnext : ∀ a, answer = .ok a → NoPanic (next a)) : NoPanic (answer >>= next) := by
  cases answer with
  | error failure =>
    intro herror
    cases herror
    exact h rfl
  | ok a => exact hnext a rfl

theorem NoPanic.ite {c : Prop} [Decidable c] {answer other : Parsed α} (h : NoPanic answer) (hother : NoPanic other) :
    NoPanic (if c then answer else other) := by
  by_cases hc : c
  · rwa [if_pos hc]
  · rwa [if_neg hc]

theorem noPanic_visible (bytes : List UInt8) (start stop : Nat) : NoPanic (visible bytes start stop) := by
  unfold visible
  cases range bytes start stop with
  | none => exact noPanic_error _
  | some part => exact noPanic_ok _

theorem noPanic_vlanLoop (frame : List UInt8) (room offset : Nat) (etherType : UInt16) (tags : List VlanTag) :
    NoPanic (vlanLoop frame room offset etherType tags) := by
  induction room generalizing offset etherType tags with
  | zero =>
    by_cases hvlan : isVlan etherType
    · rw [vlanLoop_full hvlan]
      exact noPanic_error _
    · rw [vlanLoop_done hvlan]
      exact noPanic_ok _
  | succ room ih =>
    by_cases hvlan : isVlan etherType
    · by_cases hroom : offset + 4 ≤ frame.length
      · rw [vlanLoop_tag hvlan hroom]
        exact ih _ _ _
      · rw [vlanLoop_truncated hvlan (by omega)]
        exact noPanic_error _
    · rw [vlanLoop_done hvlan]
      exact noPanic_ok _

theorem noPanic_parseEthernet (frame : List UInt8) : NoPanic (parseEthernet frame) := by
  rw [parseEthernet_eq]
  exact (noPanic_error _).ite ((noPanic_vlanLoop _ _ _ _ _).bind (fun _ _ => noPanic_ok _))

theorem noPanic_walk {turns offset : Nat} {later : Bool} (hoffset : offset ≤ packet.length) :
    NoPanic (walk packet turns protocol offset later) := by
  induction turns generalizing protocol offset later with
  | zero => exact noPanic_error _
  | succ turns ih =>
    by_cases h : isExtension protocol
    · by_cases hlength : offset + (extensionAt packet protocol offset).length ≤ packet.length
      · rw [walk_extension h hlength]
        exact ih hlength
      · rw [walk_truncated h (Nat.not_le.1 hlength)]
        exact noPanic_error _
    · rw [walk_done h hoffset]
      exact noPanic_ok _

theorem noPanic_parseIpv4 (bytes : List UInt8) : NoPanic (parseIpv4 bytes) := by
  rw [parseIpv4_eq]
  exact (noPanic_error _).ite ((noPanic_error _).ite ((noPanic_error _).ite (noPanic_ok _)))

theorem noPanic_parseIpv6 (bytes : List UInt8) : NoPanic (parseIpv6 bytes) := by
  rw [parseIpv6_eq]
  by_cases hend : bytes.length < ipv6PacketLength bytes
  · rw [if_pos hend]
    exact (noPanic_error _).ite ((noPanic_error _).ite (noPanic_error _))
  · have hoffset : 40 ≤ (bytes.take (ipv6PacketLength bytes)).length := by
      rw [List.length_take_of_le (Nat.not_lt.1 hend)]
      exact Nat.le_add_right ..
    rw [if_neg hend]
    exact (noPanic_error _).ite ((noPanic_error _).ite ((noPanic_walk hoffset).bind (fun _ _ => noPanic_ok _)))

theorem noPanic_parseTransport (ip : IpPacket) : NoPanic (parseTransport ip) := by
  have htcp : NoPanic (parseTcp ip.payload) := by
    rw [parseTcp_eq]
    exact (noPanic_error _).ite ((noPanic_error _).ite ((noPanic_error _).ite (noPanic_ok _)))
  have hudp : NoPanic (parseUdp ip.payload) := by
    rw [parseUdp_eq]
    exact (noPanic_error _).ite ((noPanic_error _).ite ((noPanic_error _).ite (noPanic_ok _)))
  have hicmp : NoPanic (parseIcmp ip.payload) := by
    rw [parseIcmp_eq]
    exact (noPanic_error _).ite (noPanic_ok _)
  refine (noPanic_ok _).ite (NoPanic.ite (htcp.bind fun _ _ => noPanic_ok _) ?_)
  refine NoPanic.ite (hudp.bind fun _ _ => noPanic_ok _) (NoPanic.ite (hicmp.bind fun _ _ => noPanic_ok _) ?_)
  exact NoPanic.ite (hicmp.bind fun _ _ => noPanic_ok _) (noPanic_ok _)

theorem noPanic_finishIp (ethernet : EthernetHeader) (ip : IpPacket) : NoPanic (finishIp ethernet ip) :=
  (noPanic_parseTransport ip).bind (fun _ _ => noPanic_ok _)

/-- **The parser reads nothing outside the frame.** -/
theorem parsePacket_ne_panic (frame : List UInt8) : parsePacket frame ≠ .error .panic := by
  have harp : ∀ payload, NoPanic (parseArp payload) := by
    intro payload
    rw [parseArp_eq]
    exact (noPanic_error _).ite ((noPanic_error _).ite (noPanic_ok _))
  refine (noPanic_parseEthernet frame).bind fun ethernet _ => (noPanic_visible _ _ _).bind fun payload _ => ?_
  refine NoPanic.ite ((harp payload).bind fun _ _ => noPanic_ok _) ?_
  refine NoPanic.ite ((noPanic_parseIpv4 payload).bind fun ip _ => noPanic_finishIp ethernet ip) ?_
  exact NoPanic.ite ((noPanic_parseIpv6 payload).bind fun ip _ => noPanic_finishIp ethernet ip) (noPanic_ok _)

end Packet
end NetTool
