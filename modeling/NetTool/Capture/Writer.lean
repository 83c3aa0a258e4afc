import NetTool.Text
import NetTool.Lib.Bytes
import NetTool.Lib.Check
/-!
# Capture.Writer — capture records and the files they are written to (`crates/packet/src/capture.rs`)

A record holds the bytes of a packet that the capture mode retains.  A PCAP file is a header and the records; a PCAPNG
file is a section block, one interface block and one block for each record, each with its length before and after it.
-/
namespace NetTool
namespace Capture

open Bytes

/-! ## Records -/

inductive CaptureMode
  | metadataOnly | headerOnly | snaplen (length : UInt32) | fullPacket

/-- How many of the visible bytes a mode retains. -/
def retainedLength (mode : CaptureMode) (visibleLength : Nat) : Nat :=
  match mode with
  | .metadataOnly => 0
  | .headerOnly => min visibleLength 128
  | .snaplen length => min visibleLength length.toNat
  | .fullPacket => visibleLength

def snaplen (mode : CaptureMode) : UInt32 :=
  match mode with
  -- A PCAP snap length must be positive; the record's captured length is still zero.
  | .metadataOnly => 1
  | .headerOnly => 128
  | .snaplen length => length
  | .fullPacket => .ofNat (2 ^ 32 - 1)

inductive CaptureFormat
  | pcapNg | pcap

structure CaptureRecord where
  timestampNanoseconds : UInt64
  wireLength : UInt32
  queueId : UInt16
  bytes : List UInt8

structure PacketView where
  bytes : List UInt8
  timestampNanoseconds : UInt64
  wireLength : UInt32
  queueId : UInt16

/-- The record that `try_capture` sends to the writer. -/
def captureRecord (mode : CaptureMode) (packet : PacketView) : CaptureRecord :=
  { timestampNanoseconds := packet.timestampNanoseconds
    wireLength := packet.wireLength
    queueId := packet.queueId
    bytes := packet.bytes.take (retainedLength mode packet.bytes.length) }

/-! ## Bytes -/

/-- `u16::to_le_bytes`. -/
def le16 (value : UInt16) : List UInt8 := toLe 2 value.toNat

/-- `u32::to_le_bytes`. -/
def le32 (value : UInt32) : List UInt8 := toLe 4 value.toNat

/-- `u64::to_le_bytes`. -/
def le64 (value : UInt64) : List UInt8 := toLe 8 value.toNat

@[simp] theorem length_le16 (value : UInt16) : (le16 value).length = 2 := length_toLe _ _
@[simp] theorem length_le32 (value : UInt32) : (le32 value).length = 4 := length_toLe _ _
@[simp] theorem length_le64 (value : UInt64) : (le64 value).length = 8 := length_toLe _ _

/-- `u16::try_from(value).unwrap_or(u16::MAX)`. -/
def capped16 (value : Nat) : UInt16 := .ofNat (min value (2 ^ 16 - 1))

/-- `u32::try_from(value).unwrap_or(u32::MAX)`. -/
def capped32 (value : Nat) : UInt32 := .ofNat (min value (2 ^ 32 - 1))

theorem toNat_capped16 {value : Nat} (h : value < 2 ^ 16) : (capped16 value).toNat = value := by
  unfold capped16
  rw [Nat.min_eq_left (by omega), UInt16.toNat_ofNat_of_lt' h]

theorem toNat_capped32 {value : Nat} (h : value < 2 ^ 32) : (capped32 value).toNat = value := by
  unfold capped32
  rw [Nat.min_eq_left (by omega), UInt32.toNat_ofNat_of_lt' h]

/-- How many zero bytes take a length to a multiple of four. -/
def padding (length : Nat) : Nat := (4 - length % 4) % 4

def padToU32 (bytes : List UInt8) : List UInt8 := bytes ++ List.replicate (padding bytes.length) 0

/-- The text of the `io::Error` a writer ends with. -/
abbrev Written := Except String (List UInt8)

/-! ## Blocks and headers -/

def writeBlock (blockType : UInt32) (bodies : List (List UInt8)) : Written :=
  let total := bodies.flatten.length + 12
  if total < 2 ^ 32 then .ok (le32 blockType ++ le32 (.ofNat total) ++ bodies.flatten ++ le32 (.ofNat total))
  else .error "capture block too large"

def writePcapHeader (snaplen : UInt32) : Written :=
  .ok (le32 0xa1b23c4d ++ le16 2 ++ le16 4 ++ le32 0 ++ le32 0 ++ le32 snaplen ++ le32 1)

def sectionBodies : List (List UInt8) := [le32 0x1a2b3c4d, le16 1, le16 0, le64 (.ofNat (2 ^ 64 - 1))]

def optionName (interfaceName : String) : List UInt8 :=
  (asBytes interfaceName).take (capped16 (asBytes interfaceName).length).toNat

/-- The options of the interface block: its name, nanosecond timestamps and the end of the options. -/
def interfaceOptions (interfaceName : String) : List UInt8 :=
  let named := padToU32 (le16 2 ++ le16 (capped16 (asBytes interfaceName).length) ++ optionName interfaceName)
  padToU32 (named ++ le16 9 ++ le16 1 ++ [9]) ++ le32 0

def interfaceBody (snaplen : UInt32) (interfaceName : String) : List UInt8 :=
  le16 1 ++ le16 0 ++ le32 snaplen ++ interfaceOptions interfaceName

def writePcapngHeader (snaplen : UInt32) (interfaceName : String) : Written := do
  let first ← writeBlock 0x0a0d0d0a sectionBodies
  let interfaceBlock ← writeBlock 1 [interfaceBody snaplen interfaceName]
  pure (first ++ interfaceBlock)

def writeFileHeader (format : CaptureFormat) (mode : CaptureMode) (interfaceName : String) : Written :=
  match format with
  | .pcap => writePcapHeader (snaplen mode)
  | .pcapNg => writePcapngHeader (snaplen mode) interfaceName

/-! ## Writing records -/

def writePcapRecord (record : CaptureRecord) : Written :=
  let seconds := record.timestampNanoseconds.toNat / 1000000000
  let nanoseconds := record.timestampNanoseconds.toNat % 1000000000
  .ok (le32 (capped32 seconds) ++ le32 (capped32 nanoseconds) ++ le32 (capped32 record.bytes.length) ++
    le32 record.wireLength ++ record.bytes)

def queueComment (queueId : UInt16) : String := String.ofList ("queue_id=".toList ++ Nat.toDigits 10 queueId.toNat)

def packetPart (record : CaptureRecord) : List UInt8 :=
  let captured := capped32 record.bytes.length
  let timestampHigh := capped32 (record.timestampNanoseconds.toNat / 2 ^ 32)
  let timestampLow := capped32 (record.timestampNanoseconds.toNat % 2 ^ 32)
  -- One interface block is written to a file, so the interface is always the first; the queue is in the comment.
  padToU32 (le32 0 ++ le32 timestampHigh ++ le32 timestampLow ++ le32 captured ++
    le32 record.wireLength ++ record.bytes)

def packetBody (record : CaptureRecord) : List UInt8 :=
  let comment := asBytes (queueComment record.queueId)
  padToU32 (packetPart record ++ le16 1 ++ le16 (capped16 comment.length) ++ comment) ++ le32 0

def writePcapngRecord (record : CaptureRecord) : Written := writeBlock 6 [packetBody record]

def writeRecord (format : CaptureFormat) (record : CaptureRecord) : Written :=
  match format with
  | .pcap => writePcapRecord record
  | .pcapNg => writePcapngRecord record

def writeRecords (format : CaptureFormat) (file : List UInt8) : List CaptureRecord → Written
  | [] => .ok file
  | record :: records => do
    let written ← writeRecord format record
    writeRecords format (file ++ written) records

/-- The file of a writer that is created, given the records and not rotated. -/
def captureFile (format : CaptureFormat) (mode : CaptureMode) (interfaceName : String) (records : List CaptureRecord) :
    Written := do
  let header ← writeFileHeader format mode interfaceName
  writeRecords format header records

end Capture
end NetTool
