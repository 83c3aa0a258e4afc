import NetTool.Address
import NetTool.Lib.Bytes
import NetTool.Lib.Check
/-!
# Packet.Parser — reading a frame (`crates/packet/src/parser.rs`)

`parse_packet` reads the Ethernet header with its VLAN tags, then ARP or IP, then the transport header.  It asks for
each part of the frame before it looks into it, and a part that is not there is `Truncated`; an index or a slice without
such a question would stop the program when it is out of range (`panic`).
-/
namespace NetTool
namespace Packet

open Bytes

inductive ParseError
  | truncated | malformed | tooManyVlanTags | tooManyIpv6Extensions
  deriving DecidableEq

inductive Failure
  | error (error : ParseError)
  | panic
  deriving DecidableEq

abbrev Parsed := Except Failure

def truncated {α : Type} : Parsed α := .error (.error .truncated)
def malformed {α : Type} : Parsed α := .error (.error .malformed)

/-! ## Reading bytes -/

/-- `bytes.get(start..stop).ok_or(Truncated)`. -/
def visible (bytes : List UInt8) (start stop : Nat) : Parsed (List UInt8) :=
  match range bytes start stop with
  | some part => .ok part
  | none => truncated

/-- `bytes[index]`. -/
def byteAt (bytes : List UInt8) (index : Nat) : Parsed UInt8 :=
  match bytes[index]? with
  | some byte => .ok byte
  | none => .error .panic

/-- `&bytes[start..stop]`. -/
def slice (bytes : List UInt8) (start stop : Nat) : Parsed (List UInt8) :=
  match range bytes start stop with
  | some part => .ok part
  | none => .error .panic

def fromBeBytes16 (a b : UInt8) : UInt16 := .ofNat (ofBe [a, b])
def fromBeBytes32 (a b c d : UInt8) : UInt32 := .ofNat (ofBe [a, b, c, d])

def readU16 (bytes : List UInt8) (offset : Nat) : Parsed UInt16 := do
  let value ← visible bytes offset (offset + 2)
  let a ← byteAt value 0
  let b ← byteAt value 1
  pure (fromBeBytes16 a b)

def readU32 (bytes : List UInt8) (offset : Nat) : Parsed UInt32 := do
  let value ← visible bytes offset (offset + 4)
  let a ← byteAt value 0
  let b ← byteAt value 1
  let c ← byteAt value 2
  let d ← byteAt value 3
  pure (fromBeBytes32 a b c d)

/-! ## The packet -/

structure VlanTag where
  priority : UInt8
  dropEligible : Bool
  identifier : UInt16
  deriving DecidableEq

/-- The array of two optional tags is the list of those that are there, the outer one first. -/
structure EthernetHeader where
  destination : List UInt8
  source : List UInt8
  vlanTags : List VlanTag
  etherType : UInt16
  deriving DecidableEq

structure ArpPacket where
  hardwareType : UInt16
  protocolType : UInt16
  operation : UInt16
  bytes : List UInt8

structure IpPacket where
  source : IpAddr
  destination : IpAddr
  protocol : UInt8
  nonInitialFragment : Bool
  payload : List UInt8

structure TcpSegment where
  sourcePort : UInt16
  destinationPort : UInt16
  sequence : UInt32
  acknowledgement : UInt32
  flags : UInt16
  window : UInt16
  payload : List UInt8

structure UdpDatagram where
  sourcePort : UInt16
  destinationPort : UInt16
  payload : List UInt8

structure IcmpPacket where
  messageType : UInt8
  code : UInt8
  payload : List UInt8

inductive TransportPacket
  | tcp (segment : TcpSegment)
  | udp (datagram : UdpDatagram)
  | icmp (message : IcmpPacket)
  | icmpv6 (message : IcmpPacket)
  | fragment
  | other (protocol : UInt8) (bytes : List UInt8)

structure ParsedPacket where
  ethernet : EthernetHeader
  arp : Option ArpPacket := none
  ip : Option IpPacket := none
  transport : Option TransportPacket := none

/-! ## The parser -/

abbrev ethernetHeaderLength : Nat := 14
abbrev vlanHeaderLength : Nat := 4
def etherTypeVlan : UInt16 := 0x8100
def etherTypeQinq : UInt16 := 0x88a8
def etherTypeArp : UInt16 := 0x0806
def etherTypeIpv4 : UInt16 := 0x0800
def etherTypeIpv6 : UInt16 := 0x86dd

def VlanTag.ofControl (control : UInt16) : VlanTag where
  priority := ((control >>> 13) &&& 0x07).toUInt8
  dropEligible := control &&& 0x1000 != 0
  identifier := control &&& 0x0fff

def isVlan (etherType : UInt16) : Prop := etherType = etherTypeVlan ∨ etherType = etherTypeQinq

instance (etherType : UInt16) : Decidable (isVlan etherType) := inferInstanceAs (Decidable (_ ∨ _))

/-- The loop over the tags, with room for so many more. -/
def vlanLoop (frame : List UInt8) : Nat → Nat → UInt16 → List VlanTag → Parsed (List VlanTag × UInt16)
  | room, offset, etherType, tags =>
    if isVlan etherType then
      match room with
      | 0 => .error (.error .tooManyVlanTags)
      | room + 1 => do
        let tag ← visible frame offset (offset + vlanHeaderLength)
        let control ← readU16 tag 0
        let inner ← readU16 tag 2
        vlanLoop frame room (offset + vlanHeaderLength) inner (tags ++ [VlanTag.ofControl control])
    else .ok (tags, etherType)

def parseEthernet (frame : List UInt8) : Parsed EthernetHeader := do
  let base ← visible frame 0 ethernetHeaderLength
  let destination ← slice base 0 6
  let source ← slice base 6 12
  let etherType ← readU16 base 12
  let (vlanTags, etherType) ← vlanLoop frame 2 ethernetHeaderLength etherType []
  pure { destination, source, vlanTags, etherType }

def parseArp (bytes : List UInt8) : Parsed ArpPacket := do
  let header ← visible bytes 0 8
  let hardwareLength ← byteAt header 4
  let protocolLength ← byteAt header 5
  let part ← visible bytes 0 (8 + 2 * (hardwareLength.toNat + protocolLength.toNat))
  let hardwareType ← readU16 header 0
  let protocolType ← readU16 header 2
  let operation ← readU16 header 6
  pure { hardwareType, protocolType, operation, bytes := part }

/-- `Ipv4Addr::new` of the four bytes at the offset. -/
def readIpv4 (bytes : List UInt8) (offset : Nat) : Parsed IpAddr := do
  let a ← byteAt bytes offset
  let b ← byteAt bytes (offset + 1)
  let c ← byteAt bytes (offset + 2)
  let d ← byteAt bytes (offset + 3)
  pure (.v4 (IpAddr.ofOctets a.toNat b.toNat c.toNat d.toNat))

/-- `Ipv6Addr::from` of the sixteen bytes at the offset. -/
def readIpv6 (bytes : List UInt8) (offset : Nat) : Parsed IpAddr := do
  let octets ← slice bytes offset (offset + 16)
  pure (.v6 (.ofNat 128 (ofBe octets)))

/-- The header length in the first byte of an IPv4 header, and in the thirteenth of a TCP header. -/
def headerLength (first : UInt8) : Nat := (first &&& 0x0f).toNat * 4
def dataOffset (lengthByte : UInt8) : Nat := (lengthByte >>> 4).toNat * 4

def parseIpv4 (bytes : List UInt8) : Parsed IpPacket := do
  let base ← visible bytes 0 20
  let first ← byteAt base 0
  if first >>> 4 ≠ 4 then malformed
  else
    if headerLength first < 20 then malformed
    else
      let totalLength ← readU16 base 2
      if totalLength.toNat < headerLength first then malformed
      else
        let packet ← visible bytes 0 totalLength.toNat
        let fragment ← readU16 base 6
        let source ← readIpv4 base 12
        let destination ← readIpv4 base 16
        let protocol ← byteAt base 9
        let payload ← slice packet (headerLength first) packet.length
        pure { source, destination, protocol, nonInitialFragment := fragment &&& 0x1fff != 0, payload }

/-- What an extension header says: the next header, its own length, and whether it makes the packet a later fragment. -/
structure Extension where
  next : UInt8
  length : Nat
  later : Bool

/-- The header of the given kind at the offset, if it is an extension header. -/
def readExtension (packet : List UInt8) (protocol : UInt8) (offset : Nat) : Parsed (Option Extension) :=
  if protocol = 0 ∨ protocol = 43 ∨ protocol = 60 then do
    let extension ← visible packet offset (offset + 2)
    let next ← byteAt extension 0
    let length ← byteAt extension 1
    pure (some ⟨next, (length.toNat + 1) * 8, false⟩)
  else if protocol = 44 then do
    let extension ← visible packet offset (offset + 8)
    let field ← readU16 extension 2
    let next ← byteAt extension 0
    pure (some ⟨next, 8, field &&& 0xfff8 != 0⟩)
  else if protocol = 51 then do
    let extension ← visible packet offset (offset + 2)
    let next ← byteAt extension 0
    let length ← byteAt extension 1
    pure (some ⟨next, (length.toNat + 2) * 4, false⟩)
  else pure none

/-- The protocol, the fragment flag and the payload the loop ends with. -/
structure Walked where
  protocol : UInt8
  nonInitialFragment : Bool
  payload : List UInt8

/-- The loop over the extension headers, with so many turns left. -/
def walk (packet : List UInt8) : Nat → UInt8 → Nat → Bool → Parsed Walked
  | 0, _, _, _ => .error (.error .tooManyIpv6Extensions)
  | turns + 1, protocol, offset, nonInitialFragment => do
    match ← readExtension packet protocol offset with
    | none =>
      let payload ← visible packet offset packet.length
      pure { protocol, nonInitialFragment, payload }
    | some extension =>
      let _ ← visible packet offset (offset + extension.length)
      walk packet turns extension.next (offset + extension.length) (nonInitialFragment || extension.later)

def parseIpv6 (bytes : List UInt8) : Parsed IpPacket := do
  let base ← visible bytes 0 40
  let first ← byteAt base 0
  if first >>> 4 ≠ 6 then malformed
  else
    let payloadLength ← readU16 base 4
    let packet ← visible bytes 0 (40 + payloadLength.toNat)
    let source ← readIpv6 base 8
    let destination ← readIpv6 base 24
    let protocol ← byteAt base 6
    let walked ← walk packet 8 protocol 40 false
    pure { source, destination, protocol := walked.protocol, nonInitialFragment := walked.nonInitialFragment,
           payload := walked.payload }

def parseTcp (bytes : List UInt8) : Parsed TcpSegment := do
  let base ← visible bytes 0 20
  let lengthByte ← byteAt base 12
  if dataOffset lengthByte < 20 then malformed
  else
    let payload ← visible bytes (dataOffset lengthByte) bytes.length
    let sourcePort ← readU16 base 0
    let destinationPort ← readU16 base 2
    let sequence ← readU32 base 4
    let acknowledgement ← readU32 base 8
    let flagsByte ← byteAt base 13
    let window ← readU16 base 14
    pure { sourcePort, destinationPort, sequence, acknowledgement,
           flags := ((lengthByte &&& 1).toUInt16 <<< 8) ||| flagsByte.toUInt16, window, payload }

def parseUdp (bytes : List UInt8) : Parsed UdpDatagram := do
  let base ← visible bytes 0 8
  let length ← readU16 base 4
  if length.toNat < 8 then malformed
  else
    let datagram ← visible bytes 0 length.toNat
    let sourcePort ← readU16 base 0
    let destinationPort ← readU16 base 2
    let payload ← slice datagram 8 datagram.length
    pure { sourcePort, destinationPort, payload }

def parseIcmp (bytes : List UInt8) : Parsed IcmpPacket := do
  let message ← visible bytes 0 4
  let messageType ← byteAt message 0
  let code ← byteAt message 1
  let payload ← slice bytes 4 bytes.length
  pure { messageType, code, payload }

def parseTransport (ip : IpPacket) : Parsed TransportPacket :=
  if ip.nonInitialFragment then .ok .fragment
  else if ip.protocol = 6 then do pure (.tcp (← parseTcp ip.payload))
  else if ip.protocol = 17 then do pure (.udp (← parseUdp ip.payload))
  else if ip.protocol = 1 then do pure (.icmp (← parseIcmp ip.payload))
  else if ip.protocol = 58 then do pure (.icmpv6 (← parseIcmp ip.payload))
  else .ok (.other ip.protocol ip.payload)

def finishIp (ethernet : EthernetHeader) (ip : IpPacket) : Parsed ParsedPacket := do
  let transport ← parseTransport ip
  pure { ethernet, ip := some ip, transport := some transport }

def EthernetHeader.length (ethernet : EthernetHeader) : Nat :=
  ethernetHeaderLength + ethernet.vlanTags.length * vlanHeaderLength

def parsePacket (frame : List UInt8) : Parsed ParsedPacket := do
  let ethernet ← parseEthernet frame
  let payload ← visible frame ethernet.length frame.length
  if ethernet.etherType = etherTypeArp then do
    let arp ← parseArp payload
    pure { ethernet, arp := some arp }
  else if ethernet.etherType = etherTypeIpv4 then do
    let ip ← parseIpv4 payload
    finishIp ethernet ip
  else if ethernet.etherType = etherTypeIpv6 then do
    let ip ← parseIpv6 payload
    finishIp ethernet ip
  else pure { ethernet }

end Packet
end NetTool
