import NetTool.Packet.Bounds
/-!
# Packet.Fragments — what follows the Fragment header of a later IPv6 fragment

After a Fragment header with an offset comes a piece from the middle of a packet, not a header.  The loop over the
extension headers notes the offset and goes on: when the Fragment header names an extension header as the next one, the
first bytes of the piece are read as that header, and they decide whether the frame is accepted and as which protocol.
The answer is settled by the headers up to the Fragment header just when the loop has nothing left to read
(`fragment_settled_iff`).
-/
namespace NetTool
namespace Packet

open Bytes List

/-- The headers of an IPv6 packet: after so many extension headers one of the given kind starts at the offset. -/
inductive Chain (packet : List UInt8) : Nat → UInt8 → Nat → Prop
  | first : Chain packet 0 (byte packet 6) 40
  | next {count offset : Nat} {protocol : UInt8} : Chain packet count protocol offset → isExtension protocol →
      offset + (extensionAt packet protocol offset).length ≤ packet.length →
      Chain packet (count + 1) (extensionAt packet protocol offset).next
        (offset + (extensionAt packet protocol offset).length)

def ipv6Bytes (frame : List UInt8) (ethernet : EthernetHeader) : List UInt8 :=
  (frame.drop ethernet.length).take (ipv6PacketLength (frame.drop ethernet.length))

/-- The header chain of the frame reaches, after `count` headers, a Fragment header with an offset that is not zero. -/
structure LaterFragment (frame : List UInt8) (ethernet : EthernetHeader) (count offset : Nat) : Prop where
  header : parseEthernet frame = .ok ethernet
  ipv6 : ethernet.etherType = etherTypeIpv6
  version : byte (frame.drop ethernet.length) 0 >>> 4 = 6
  chain : Chain (ipv6Bytes frame ethernet) count 44 offset
  there : offset + 8 ≤ (ipv6Bytes frame ethernet).length
  later : word (ipv6Bytes frame ethernet) (offset + 2) &&& 0xfff8 ≠ 0

def Whole (frame : List UInt8) : Prop := ∃ stop, declaredEnd frame = some stop ∧ stop ≤ frame.length

def verdict (frame : List UInt8) : Option (Option UInt8) :=
  (parsePacket frame).toOption.map (fun packet => packet.ip.map (fun ip => ip.protocol))

/-! ## The loop along the chain -/

section
variable {packet other : List UInt8} {count offset turns : Nat} {protocol : UInt8} {later : Bool}

section
variable (h : Chain packet count protocol offset)
include h

/-- What the chain is made of lies before the header it reaches. -/
theorem Chain.agree (hagree : Agree offset packet other) : Chain other count protocol offset := by
  induction h with
  | first =>
    rw [← hagree.byte (by omega)]
    exact .first
  | next hchain hextension _ ih =>
    rename_i offset protocol hlength
    have height := extensionAt_length packet protocol offset
    have hsame : extensionAt other protocol offset = extensionAt packet protocol offset := by
      unfold extensionAt
      rw [hagree.byte (by omega), hagree.byte (by omega), hagree.word (by omega)]
    have hright := hagree.right
    rw [← hsame] at hright ⊢
    exact .next (ih (hagree.mono (by omega))) hextension hright

theorem Chain.walk (turns : Nat) :
    ∃ later, walk packet (turns + count) (byte packet 6) 40 false = walk packet turns protocol offset later := by
  induction h generalizing turns with
  | first => exact ⟨false, rfl⟩
  | next hchain hextension hlength ih =>
    rename_i count offset protocol
    obtain ⟨later, hwalk⟩ := ih (turns + 1)
    rw [Nat.add_right_comm] at hwalk
    exact ⟨_, hwalk.trans (walk_extension hextension hlength)⟩

/-- A chain of `count` headers passes every number of headers below. -/
theorem Chain.before {k : Nat} (hk : k ≤ count) : ∃ protocol offset, Chain packet k protocol offset := by
  induction h with
  | first =>
    obtain rfl := Nat.le_zero.1 hk
    exact ⟨_, _, .first⟩
  | next hchain hextension hlength ih =>
    rcases Nat.lt_or_eq_of_le hk with hlt | rfl
    · exact ih (Nat.le_of_lt_succ hlt)
    · exact ⟨_, _, .next hchain hextension hlength⟩

end

/-- What the loop answers when only the turns after `count` headers and the Fragment header are left. -/
theorem Chain.walk_fragment (h : Chain packet count 44 offset) (hthere : offset + 8 ≤ packet.length)
    (hlater : word packet (offset + 2) &&& 0xfff8 ≠ 0) :
    (Packet.walk packet 8 (byte packet 6) 40 false).toOption =
      (Packet.walk packet (7 - count) (byte packet offset) (offset + 8) true).toOption := by
  have hextension : extensionAt packet 44 offset = ⟨byte packet offset, 8, true⟩ := by
    unfold extensionAt
    rw [if_pos rfl, decide_eq_true rfl, Bool.true_and, bne_iff_ne.2 hlater]
  by_cases hcount : count ≤ 7
  · obtain ⟨later, hwalk⟩ := h.walk (7 - count + 1)
    have hturns : 7 - count + 1 + count = 8 := by omega
    rw [hturns] at hwalk
    have hlength : offset + (extensionAt packet 44 offset).length ≤ packet.length := by
      exact hthere
    rw [hwalk, walk_extension (.inr (.inr (.inr (.inl rfl)))) hlength, hextension, Bool.or_true]
  · obtain ⟨_, _, height⟩ := h.before (by omega : 8 ≤ count)
    obtain ⟨later, hwalk⟩ := height.walk 0
    have hturns : 7 - count = 0 := by omega
    rw [hwalk, hturns]
    rfl

theorem walk_later {walked : Walked} (h : walk packet turns protocol offset true = .ok walked)
    (hoffset : offset ≤ packet.length) : walked.nonInitialFragment = true := by
  induction turns generalizing protocol offset with
  | zero => cases h
  | succ turns ih =>
    by_cases hextension : isExtension protocol
    · by_cases hlength : offset + (extensionAt packet protocol offset).length ≤ packet.length
      · rw [walk_extension hextension hlength] at h
        exact ih h hlength
      · rw [walk_truncated hextension (Nat.not_le.1 hlength)] at h
        cases h
    · rw [walk_done hextension hoffset] at h
      cases h
      rfl

/-- An extension header in the last turn, or without room for it, ends the loop with an error. -/
theorem walk_refused (h : isExtension protocol) (hend : turns ≤ 1 ∨ packet.length < offset + 8) :
    (walk packet turns protocol offset later).toOption = none := by
  cases turns with
  | zero => rfl
  | succ turns =>
    by_cases hlength : offset + (extensionAt packet protocol offset).length ≤ packet.length
    · have height := extensionAt_length packet protocol offset
      have hzero : turns = 0 := by omega
      rw [walk_extension h hlength, hzero]
      rfl
    · rw [walk_truncated h (Nat.not_le.1 hlength)]
      rfl

end

/-! ## The answer to a frame -/

section
variable {frame other : List UInt8} {ethernet : EthernetHeader} {count offset : Nat}

namespace LaterFragment

section
variable (h : LaterFragment frame ethernet count offset)
include h

theorem declaredEnd_eq :
    declaredEnd frame = some (ethernet.length + ipv6PacketLength (frame.drop ethernet.length)) := by
  have hthere := h.there
  unfold ipv6Bytes at hthere
  rw [length_take] at hthere
  exact declaredEnd_ipv6 h.header h.ipv6 (by omega)

theorem whole_iff :
    Whole frame ↔ ipv6PacketLength (frame.drop ethernet.length) ≤ (frame.drop ethernet.length).length := by
  obtain ⟨-, hfits, -⟩ := parseEthernet_spec h.header
  unfold Whole
  rw [h.declaredEnd_eq, length_drop]
  constructor
  · rintro ⟨_, hstop, hle⟩
    cases hstop
    omega
  · exact fun hle => ⟨_, rfl, by omega⟩

/-- **The verdict on a later fragment is what the loop says of the bytes after the Fragment header.** -/
theorem verdict_eq (hwhole : Whole frame) :
    verdict frame = (walk (ipv6Bytes frame ethernet) (7 - count) (byte (ipv6Bytes frame ethernet) offset) (offset + 8)
      true).toOption.map (fun walked => some walked.protocol) := by
  have hcomplete := h.whole_iff.1 hwhole
  have hfirst : byte (frame.drop ethernet.length) 6 = byte (ipv6Bytes frame ethernet) 6 :=
    (byte_take (Nat.lt_of_lt_of_le (by decide) (Nat.le_add_right ..))).symm
  have hloop := h.chain.walk_fragment h.there h.later
  unfold verdict
  rw [parsePacket_ipv6 h.header h.ipv6, parseIpv6_complete hcomplete, if_neg (fun hne => hne h.version), hfirst]
  show (((walk (ipv6Bytes frame ethernet) 8 _ 40 false >>= _) >>= _ : Parsed ParsedPacket)).toOption.map _ = _
  cases hwalk : walk (ipv6Bytes frame ethernet) 8 (byte (ipv6Bytes frame ethernet) 6) 40 false with
  | error failure =>
    rw [hwalk] at hloop
    rw [← hloop]
    rfl
  | ok walked =>
    rw [hwalk] at hloop
    have hlater : walked.nonInitialFragment = true := by
      cases hrest : walk (ipv6Bytes frame ethernet) (7 - count) (byte (ipv6Bytes frame ethernet) offset)
        (offset + 8) true with
      | error failure =>
        rw [hrest] at hloop
        cases hloop
      | ok walked' =>
        rw [hrest] at hloop
        cases hloop
        exact walk_later hrest h.there
    have hfinish : finishIp ethernet (ipv6Packet (frame.drop ethernet.length) walked) = .ok
        { ethernet, ip := some (ipv6Packet (frame.drop ethernet.length) walked), transport := some .fragment } := by
      refine finishIp_ok.2 ⟨.fragment, ?_, rfl⟩
      exact if_pos hlater
    rw [← hloop]
    show (finishIp ethernet (ipv6Packet (frame.drop ethernet.length) walked)).toOption.map _ = _
    rw [hfinish]
    rfl

theorem verdict_none (hpart : ¬ Whole frame) : verdict frame = none := by
  rw [h.whole_iff] at hpart
  unfold verdict
  rw [parsePacket_ipv6 h.header h.ipv6, parseIpv6_eq]
  by_cases hshort : (frame.drop ethernet.length).length < 40
  · rw [if_pos hshort]
    rfl
  · rw [if_neg hshort, if_neg (fun hne => hne h.version), if_pos (Nat.not_le.1 hpart)]
    rfl

theorem agree (hagree : Agree (ethernet.length + (offset + 8)) frame other) :
    LaterFragment other ethernet count offset ∧
      ipv6PacketLength (other.drop ethernet.length) = ipv6PacketLength (frame.drop ethernet.length) ∧
      Agree (offset + 8) (ipv6Bytes frame ethernet) (ipv6Bytes other ethernet) := by
  obtain ⟨-, -, hlocal⟩ := parseEthernet_spec h.header
  have hhead := hagree.mono (Nat.le_add_right ethernet.length (offset + 8))
  have hdrop := hagree.drop (Nat.le_add_right ethernet.length (offset + 8))
  rw [Nat.add_sub_cancel_left] at hdrop
  have hlength : ipv6PacketLength (other.drop ethernet.length) = ipv6PacketLength (frame.drop ethernet.length) :=
    congrArg (fun w : UInt16 => 40 + w.toNat) (hdrop.word (by omega))
  have hthere := h.there
  have hright := hdrop.right
  have hbytes : Agree (offset + 8) (ipv6Bytes frame ethernet) (ipv6Bytes other ethernet) := by
    unfold ipv6Bytes at hthere ⊢
    rw [length_take] at hthere
    refine ⟨?_, ?_, ?_⟩
    · rw [length_take]
      exact hthere
    · rw [length_take]
      omega
    · rw [take_take, take_take, hlength, Nat.min_eq_left (by omega), hdrop.same]
  refine ⟨⟨hlocal other hhead.same hhead.right, h.ipv6, ?_, h.chain.agree (hbytes.mono (by omega)), hbytes.right, ?_⟩,
    hlength, hbytes⟩
  · rw [hdrop.byte (by omega)]
    exact h.version
  · rw [hbytes.word (by omega)]
    exact h.later

theorem length_ipv6Bytes (hwhole : Whole frame) :
    (ipv6Bytes frame ethernet).length = ipv6PacketLength (frame.drop ethernet.length) :=
  length_take_of_le (h.whole_iff.1 hwhole)

end

end LaterFragment

/-! ## When the rest does not matter -/

/-- The loop reads no header after the Fragment header: it names none, or there is no turn or no room left to accept
one. -/
def NothingLeft (packet : List UInt8) (count offset : Nat) : Prop :=
  ¬ isExtension (byte packet offset) ∨ 6 ≤ count ∨ packet.length < offset + 16

instance (packet : List UInt8) (count offset : Nat) : Decidable (NothingLeft packet count offset) :=
  inferInstanceAs (Decidable (_ ∨ _ ∨ _))

/-- Two packets of one length with nothing left to read end the loop alike. -/
theorem walk_nothingLeft {packet packet' : List UInt8} (h : NothingLeft packet count offset)
    (hlength : packet'.length = packet.length) (hagree : Agree (offset + 8) packet packet') :
    (walk packet' (7 - count) (byte packet' offset) (offset + 8) true).toOption.map
      (fun walked => some walked.protocol) =
      (walk packet (7 - count) (byte packet offset) (offset + 8) true).toOption.map
        (fun walked => some walked.protocol) := by
  rw [hagree.byte (by omega)]
  by_cases hextension : isExtension (byte packet offset)
  · have hend : 7 - count ≤ 1 ∨ packet.length < offset + 8 + 8 := by
      rcases h with hnot | hcount | hroom
      · exact absurd hextension hnot
      · exact .inl (by omega)
      · exact .inr (by omega)
    rw [walk_refused hextension hend, walk_refused hextension (hlength.symm ▸ hend)]
  · cases 7 - count with
    | zero => rfl
    | succ turns =>
      rw [walk_done hextension hagree.left, walk_done hextension hagree.right]
      rfl

/-- The frame with the bytes from `stop` on replaced: a byte, then zeros. -/
def probe (frame : List UInt8) (stop : Nat) (next : UInt8) : List UInt8 :=
  frame.take stop ++ next :: List.replicate (frame.length - stop - 1) 0

theorem probe_spec (frame : List UInt8) (stop : Nat) (next : UInt8) (h : stop + 2 ≤ frame.length) :
    (probe frame stop next).length = frame.length ∧ Agree stop frame (probe frame stop next) ∧
      byte (probe frame stop next) stop = next ∧ byte (probe frame stop next) (stop + 1) = 0 := by
  have htake : (frame.take stop).length = stop := length_take_of_le (by omega)
  have hlength : (probe frame stop next).length = frame.length := by
    unfold probe
    rw [length_append, length_cons, length_replicate]
    omega
  refine ⟨hlength, ⟨by omega, by omega, ?_⟩, ?_, ?_⟩
  · unfold probe
    rw [take_append_of_le_length (by omega), take_of_length_le (by omega)]
  · unfold probe byte
    rw [getD_eq_getElem?_getD, List.getElem?_append_right (by omega), htake, Nat.sub_self]
    rfl
  · unfold probe byte
    rw [getD_eq_getElem?_getD, List.getElem?_append_right (by omega), htake, Nat.add_sub_cancel_left,
      List.getElem?_cons_succ, List.getElem?_replicate]
    split <;> rfl

/-- A header of zero length in eights, or in fours for an authentication header, is eight bytes long. -/
theorem extensionAt_shortest {packet : List UInt8} {protocol : UInt8} (h : byte packet (offset + 1) = 0) :
    (extensionAt packet protocol offset).length = 8 := by
  unfold extensionAt
  rw [h]
  split
  · rfl
  · split <;> rfl

/-- With a header left to read, the first byte of the piece becomes the protocol of the frame. -/
theorem LaterFragment.verdict_probe (h : LaterFragment frame ethernet count offset) (hwhole : Whole frame)
    (hleft : ¬ NothingLeft (ipv6Bytes frame ethernet) count offset) {next : UInt8} (hnext : ¬ isExtension next) :
    Agree (ethernet.length + (offset + 8)) frame (probe frame (ethernet.length + (offset + 8)) next) ∧
      Whole (probe frame (ethernet.length + (offset + 8)) next) ∧
      verdict (probe frame (ethernet.length + (offset + 8)) next) = some (some next) := by
  unfold NothingLeft at hleft
  push Not at hleft
  obtain ⟨hextension, hcount, hroom⟩ := hleft
  have hcomplete := h.whole_iff.1 hwhole
  have hsize := h.length_ipv6Bytes hwhole
  have hdropLength : (frame.drop ethernet.length).length = frame.length - ethernet.length := length_drop ..
  obtain ⟨hlength, hagree, hbyte, hzero⟩ :=
    probe_spec frame (ethernet.length + (offset + 8)) next (by omega)
  generalize probe frame (ethernet.length + (offset + 8)) next = other at *
  obtain ⟨h', hpacketLength, hbytes⟩ := h.agree hagree
  have hdropLength' : (other.drop ethernet.length).length = other.length - ethernet.length := length_drop ..
  have hwhole' : Whole other := h'.whole_iff.2 (by omega)
  have hsize' := h'.length_ipv6Bytes hwhole'
  have hat : ∀ k, k < ipv6PacketLength (other.drop ethernet.length) →
      byte (ipv6Bytes other ethernet) k = byte other (ethernet.length + k) := by
    intro k hk
    unfold ipv6Bytes
    rw [byte_take hk, byte_drop]
  have hfirst : byte (ipv6Bytes other ethernet) (offset + 8) = next := by
    rw [hat _ (by omega), hbyte]
  have hsecond : byte (ipv6Bytes other ethernet) (offset + 8 + 1) = 0 := by
    rw [hat _ (by omega), ← hzero]
    rfl
  refine ⟨hagree, hwhole', ?_⟩
  have hturns : 7 - count = (5 - count) + 1 + 1 := by omega
  have height :
    (extensionAt (ipv6Bytes other ethernet) (byte (ipv6Bytes frame ethernet) offset) (offset + 8)).length = 8 :=
    extensionAt_shortest hsecond
  rw [h'.verdict_eq hwhole', hturns, hbytes.byte (by omega), walk_extension hextension (by omega),
    walk_done (by rwa [show (extensionAt _ _ _).next = _ from hfirst]) (by omega)]
  show some (some (byte (ipv6Bytes other ethernet) (offset + 8))) = _
  rw [hfirst]

/-- **Whether a frame with a later fragment is accepted, and as which protocol, is settled by the bytes up to the
Fragment header exactly when the frame is not whole or the loop has nothing left to read after it.** -/
theorem fragment_settled_iff (frame : List UInt8) (ethernet : EthernetHeader) (count offset : Nat)
    (h : LaterFragment frame ethernet count offset) :
    (∀ other, Agree (ethernet.length + (offset + 8)) frame other → (Whole other ↔ Whole frame) →
        verdict other = verdict frame) ↔
      (Whole frame → NothingLeft (ipv6Bytes frame ethernet) count offset) := by
  constructor
  · intro hsettled hwhole
    by_contra hleft
    -- two pieces that differ in their first byte
    obtain ⟨hagree, hother, hverdict⟩ := h.verdict_probe hwhole hleft (by decide : ¬ isExtension 59)
    obtain ⟨hagree', hother', hverdict'⟩ := h.verdict_probe hwhole hleft (by decide : ¬ isExtension 6)
    have hfirst := hsettled _ hagree (iff_of_true hother hwhole)
    have hsecond := hsettled _ hagree' (iff_of_true hother' hwhole)
    rw [hverdict] at hfirst
    rw [hverdict', ← hfirst] at hsecond
    exact absurd hsecond (by decide)
  · intro hcondition other hagree hsame
    obtain ⟨h', hlength, hbytes⟩ := h.agree hagree
    by_cases hwhole : Whole frame
    · have hwhole' := hsame.2 hwhole
      have hsize : (ipv6Bytes other ethernet).length = (ipv6Bytes frame ethernet).length := by
        rw [h.length_ipv6Bytes hwhole, h'.length_ipv6Bytes hwhole', hlength]
      rw [h.verdict_eq hwhole, h'.verdict_eq hwhole']
      exact walk_nothingLeft (hcondition hwhole) hsize hbytes
    · rw [h.verdict_none hwhole, h'.verdict_none (fun hw => hwhole (hsame.1 hw))]

end

/-- An IPv6 frame with a Fragment header at offset one, and the piece after it. -/
def fragmentFrame (next : UInt8) (piece : List UInt8) : List UInt8 :=
  [0x02, 0, 0, 0, 0, 2, 0x02, 0, 0, 0, 0, 1, 0x86, 0xdd] ++
    ([0x60, 0, 0, 0, 0, 8 + piece.length.toUInt8, 44, 64] ++ List.replicate 32 0) ++
      [next, 0, 0, 8, 0, 0, 0, 1] ++ piece

def fragmentEthernet : EthernetHeader := ⟨[0x02, 0, 0, 0, 0, 2], [0x02, 0, 0, 0, 0, 1], [], 0x86dd⟩

/-- A piece of a UDP datagram: no byte of it changes the verdict. -/
theorem fragment_settled_sample :
    LaterFragment (fragmentFrame 17 (List.replicate 16 7)) fragmentEthernet 0 40 ∧
    ∀ other, Agree 62 (fragmentFrame 17 (List.replicate 16 7)) other →
      (Whole other ↔ Whole (fragmentFrame 17 (List.replicate 16 7))) →
      verdict other = verdict (fragmentFrame 17 (List.replicate 16 7)) := by
  have h : LaterFragment (fragmentFrame 17 (List.replicate 16 7)) fragmentEthernet 0 40 :=
    ⟨by decide, by decide, by decide, .first, by decide, by decide⟩
  exact ⟨h, (fragment_settled_iff _ _ _ _ h).2 (fun _ => by decide)⟩

/-- A destination options header of eight bytes is named next; the second piece is too short for the length in it. -/
def acceptedFragment : List UInt8 := fragmentFrame 60 (59 :: List.replicate 15 0)
def refusedFragment : List UInt8 := fragmentFrame 60 (59 :: 255 :: List.replicate 14 0)

/-- The two frames agree up to the Fragment header; one is accepted, with the protocol named by the first byte of the
piece, and the other refused. -/
theorem fragment_piece_read_as_header :
    LaterFragment acceptedFragment fragmentEthernet 0 40 ∧ Agree 62 acceptedFragment refusedFragment ∧
      Whole acceptedFragment ∧ Whole refusedFragment ∧
      verdict acceptedFragment = some (some 59) ∧ verdict refusedFragment = none := by
  have h : LaterFragment acceptedFragment fragmentEthernet 0 40 :=
    ⟨by decide, by decide, by decide, .first, by decide, by decide⟩
  have hagree : Agree 62 acceptedFragment refusedFragment := ⟨by decide, by decide, by decide⟩
  exact ⟨h, hagree, ⟨78, by decide, by decide⟩, ⟨78, by decide, by decide⟩, by decide, by decide⟩

end Packet
end NetTool
