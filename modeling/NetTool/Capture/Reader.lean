import NetTool.Error
import NetTool.Capture.Writer
import NetTool.Lib.Numeral
/-!
# Capture.Reader — the offline capture source (`crates/backend-pcap`)

`open` reads the header of a PCAP or PCAPNG file and `next_record` the records, one at a time.  A file is the bytes that
have not been read yet; reads of them do not fail.  `receive_burst` hands records to its consumer until the burst is
full or the file ends, and a worker asks for bursts until one is empty (`run_bursts`, `crates/packet/src/worker.rs`).
-/
namespace NetTool
namespace Offline

open Bytes
open Capture (PacketView)

def maxCaptureBlockLength : Nat := 16 * 1024 * 1024

inductive Endian
  | little | big
  deriving DecidableEq

inductive TimestampUnit
  | microseconds | nanoseconds

inductive TimestampResolution
  | decimal (power : Nat)
  | binary (power : Nat)

structure InterfaceDescription where
  linkType : UInt16
  snaplen : UInt32
  timestampResolution : TimestampResolution

inductive CaptureFormat
  | pcap (endian : Endian) (timestampUnit : TimestampUnit) (linkType snaplen : UInt32)
  | pcapNg (endian : Endian) (interfaces : List InterfaceDescription)

structure RecordMetadata where
  timestampNanoseconds : UInt64
  wireLength : UInt32
  queueId : UInt16

/-- A source; `reader` is what of the file is still to be read. -/
structure CaptureFileSource where
  reader : List UInt8
  format : CaptureFormat
  packetBuffer : List UInt8
  burstSize : Nat
  exhausted : Bool

def formatError (message : String) : NetToolError := .new .captureFormatInvalid message false

/-- The error of a `read_exact` beyond the end of the file. -/
def readError : NetToolError := .new .captureReadFailed "capture file read failed: failed to fill whole buffer" false

/-- `ok_or_else(|| format_error(message))`. -/
def okOrFormat {α : Type} (value : Option α) (message : String) : Result α :=
  match value with
  | some value => .ok value
  | none => .error (formatError message)

/-! ## Reading bytes -/

def readExact (length : Nat) (reader : List UInt8) : Result (List UInt8 × List UInt8) :=
  if length ≤ reader.length then .ok (reader.take length, reader.drop length) else .error readError

/-- The next bytes and what is left, or `none` at the end of the file. -/
def readExactOrEof (length : Nat) (reader : List UInt8) : Result (Option (List UInt8 × List UInt8)) :=
  if length ≤ reader.length then .ok (some (reader.take length, reader.drop length))
  else if reader = [] then .ok none
  else .error (formatError "capture record is truncated")

def Endian.number (endian : Endian) (bytes : List UInt8) : Nat :=
  match endian with
  | .little => ofLe bytes
  | .big => ofBe bytes

def readU16 (bytes : List UInt8) (offset : Nat) (endian : Endian) : Result UInt16 := do
  let value ← okOrFormat (range bytes offset (offset + 2)) "capture field is truncated"
  pure (.ofNat (endian.number value))

def readU32 (bytes : List UInt8) (offset : Nat) (endian : Endian) : Result UInt32 := do
  let value ← okOrFormat (range bytes offset (offset + 4)) "capture field is truncated"
  pure (.ofNat (endian.number value))

/-- `value & !3`. -/
def clearLow (value : Nat) : Nat := value / 4 * 4

/-! ## File headers -/

def parsePcapHeader (reader : List UInt8) (endian : Endian) (timestampUnit : TimestampUnit) :
    Result (CaptureFormat × List UInt8) := do
  let (rest, reader) ← readExact 20 reader
  let major ← readU16 rest 0 endian
  let minor ← readU16 rest 2 endian
  if major ≠ 2 ∨ minor ≠ 4 then .error (formatError "PCAP version must be 2.4")
  else
    let snaplen ← readU32 rest 12 endian
    let linkType ← readU32 rest 16 endian
    if snaplen = 0 ∨ maxCaptureBlockLength < snaplen.toNat then .error (formatError "PCAP snaplen is invalid")
    else if linkType ≠ 1 then .error (formatError "only Ethernet PCAP link type is supported")
    else pure (.pcap endian timestampUnit linkType snaplen, reader)

def sectionEndian (magic : List UInt8) : Result Endian :=
  if magic = [0x4d, 0x3c, 0x2b, 0x1a] then .ok .little
  else if magic = [0x1a, 0x2b, 0x3c, 0x4d] then .ok .big
  else .error (formatError "PCAPNG byte-order magic is invalid")

def parsePcapngSectionHeader (reader : List UInt8) : Result (CaptureFormat × List UInt8) := do
  let (front, reader) ← readExact 8 reader
  let endian ← sectionEndian (front.drop 4)
  let totalLength ← readU32 front 0 endian
  if ¬ (28 ≤ totalLength.toNat ∧ totalLength.toNat ≤ maxCaptureBlockLength) ∨ totalLength.toNat % 4 ≠ 0 then
    .error (formatError "PCAPNG section header length is invalid")
  else
    let (remainder, reader) ← readExact (totalLength.toNat - 12) reader
    let major ← readU16 remainder 0 endian
    if major ≠ 1 then .error (formatError "unsupported PCAPNG major version")
    else
      let trailing ← readU32 remainder (remainder.length - 4) endian
      if trailing.toNat ≠ totalLength.toNat then .error (formatError "PCAPNG section trailing length mismatch")
      else pure (.pcapNg endian [], reader)

def parseHeader (magic reader : List UInt8) : Result (CaptureFormat × List UInt8) :=
  if magic = [0xd4, 0xc3, 0xb2, 0xa1] then parsePcapHeader reader .little .microseconds
  else if magic = [0xa1, 0xb2, 0xc3, 0xd4] then parsePcapHeader reader .big .microseconds
  else if magic = [0x4d, 0x3c, 0xb2, 0xa1] then parsePcapHeader reader .little .nanoseconds
  else if magic = [0xa1, 0xb2, 0x3c, 0x4d] then parsePcapHeader reader .big .nanoseconds
  else if magic = [0x0a, 0x0d, 0x0d, 0x0a] then parsePcapngSectionHeader reader
  else .error (formatError "capture file magic is unsupported")

def defaultBurstSize : Nat := 64

/-- `CaptureFileSource::open` on the bytes of a file. -/
def openFile (file : List UInt8) : Result CaptureFileSource := do
  let (magic, reader) ← readExact 4 file
  let (format, reader) ← parseHeader magic reader
  pure { reader, format, packetBuffer := [], burstSize := defaultBurstSize, exhausted := false }

def setBurstSize (source : CaptureFileSource) (burstSize : Nat) : Result CaptureFileSource :=
  if 1 ≤ burstSize ∧ burstSize ≤ 4096 then .ok { source with burstSize }
  else .error (.new .invalidArgument "offline capture burst size must be between 1 and 4096" false)

/-! ## PCAP records -/

def fractionNanoseconds (timestampUnit : TimestampUnit) (fraction : Nat) : Result Nat :=
  match timestampUnit with
  | .microseconds =>
    if fraction < 1000000 then .ok (saturatingMul fraction 1000)
      else .error (formatError "PCAP timestamp fraction is invalid")
  | .nanoseconds =>
    if fraction < 1000000000 then .ok fraction else .error (formatError "PCAP timestamp fraction is invalid")

def readPcapRecord (source : CaptureFileSource) (endian : Endian) (timestampUnit : TimestampUnit)
    (linkType snaplen : UInt32) : Result (Option RecordMetadata × CaptureFileSource) :=
  if linkType ≠ 1 then .error (formatError "PCAP link type changed unexpectedly")
  else do
    match ← readExactOrEof 16 source.reader with
    | none => pure (none, source)
    | some (header, reader) =>
      let seconds ← readU32 header 0 endian
      let fraction ← readU32 header 4 endian
      let captured ← readU32 header 8 endian
      let wireLength ← readU32 header 12 endian
      if maxCaptureBlockLength < captured.toNat ∨ snaplen.toNat < captured.toNat ∨
        wireLength.toNat < captured.toNat then
        .error (formatError "PCAP record length is invalid")
      else
        let nanoseconds ← fractionNanoseconds timestampUnit fraction.toNat
        let (packetBuffer, reader) ← readExact captured.toNat reader
        pure (some ⟨.ofNat (saturatingAdd (saturatingMul seconds.toNat 1000000000) nanoseconds), wireLength, 0⟩,
          { source with reader, packetBuffer })

/-! ## PCAPNG blocks -/

/-- `parse_options`: the options up to the end option, with the value its visitor makes of them. -/
def parseOptions {σ : Type} (endian : Endian) (visitor : σ → UInt16 → List UInt8 → Result σ) (bytes : List UInt8)
    (seen : σ) : Result σ :=
  if bytes = [] then .ok seen
  else if bytes.length < 4 then .error (formatError "PCAPNG option header is truncated")
  else do
    let code ← readU16 bytes 0 endian
    let length ← readU16 bytes 2 endian
    if code = 0 then
      if length ≠ 0 then .error (formatError "PCAPNG end option has non-zero length") else .ok seen
    else
      let padded := clearLow (length.toNat + 3)
      let rest := bytes.drop 4
      if rest.length < padded ∨ rest.length < length.toNat then .error (formatError "PCAPNG option is truncated")
      else do
        let seen ← visitor seen code (rest.take length.toNat)
        parseOptions endian visitor (rest.drop padded) seen
termination_by bytes.length
decreasing_by simp only [List.length_drop]; omega

/-- What `if_tsresol` sets the resolution to. -/
def visitInterface (resolution : TimestampResolution) (code : UInt16) (value : List UInt8) :
    Result TimestampResolution :=
  match value with
  | [power] =>
    if code ≠ 9 then .ok resolution
    else if power.toNat < 128 then .ok (.decimal power.toNat)
    else .ok (.binary (power.toNat - 128))
  | _ => .ok resolution

def parseInterfaceDescription (body : List UInt8) (endian : Endian) (interfaces : List InterfaceDescription) :
    Result (List InterfaceDescription) :=
  if body.length < 8 then .error (formatError "PCAPNG interface block is truncated")
  else do
    let linkType ← readU16 body 0 endian
    if linkType ≠ 1 then .error (formatError "only Ethernet PCAPNG interfaces are supported")
    else
      let snaplen ← readU32 body 4 endian
      let timestampResolution ← parseOptions endian visitInterface (body.drop 8) (.decimal 6)
      pure (interfaces ++ [⟨linkType, snaplen, timestampResolution⟩])

/-- `u64::saturating_pow` of ten. -/
def saturatingPowTen (exponent : Nat) : Nat := min (10 ^ exponent) (2 ^ 64 - 1)

def timestampToNanoseconds (timestamp : Nat) (resolution : TimestampResolution) : Result Nat :=
  match resolution with
  | .decimal power =>
    if power ≤ 9 then .ok (saturatingMul timestamp (saturatingPowTen (9 - power)))
    else if power ≤ 19 then .ok (timestamp / saturatingPowTen (power - 9))
    else .error (formatError "PCAPNG timestamp resolution is unsupported")
  | .binary power =>
    if power ≤ 63 then .ok (min (timestamp * 1000000000 / 2 ^ power) (2 ^ 64 - 1))
    else .error (formatError "PCAPNG timestamp resolution is unsupported")

/-- The queue a comment names, if it names one. -/
def visitPacket (queueId : UInt16) (code : UInt16) (value : List UInt8) : Result UInt16 :=
  if code ≠ 1 then .ok queueId
  else match fromUtf8 value with
    | none => .ok queueId
    | some comment => match Str.stripPrefix "queue_id=".toList comment.toList with
      | none => .ok queueId
      | some raw => do
        let queueId ← okOrFormat (Numeral.parseUnsigned (2 ^ 16) raw) "PCAPNG queue comment is invalid"
        pure (.ofNat queueId)

def packetLengthInvalid (captured : Nat) (snaplen wireLength : UInt32) : Prop :=
  maxCaptureBlockLength < captured ∨ (snaplen ≠ 0 ∧ snaplen.toNat < captured) ∨ wireLength.toNat < captured

instance (captured : Nat) (snaplen wireLength : UInt32) :
    Decidable (packetLengthInvalid captured snaplen wireLength) := by
  unfold packetLengthInvalid; infer_instance

/-- The metadata of a packet block, and the packet.  The length additions cannot overflow a 64-bit `usize`. -/
def parseEnhancedPacket (body : List UInt8) (endian : Endian) (interfaces : List InterfaceDescription) :
    Result (RecordMetadata × List UInt8) :=
  if body.length < 20 then .error (formatError "PCAPNG enhanced packet is truncated")
  else do
    let interfaceId ← readU32 body 0 endian
    let interface ← okOrFormat interfaces[interfaceId.toNat]? "PCAPNG packet references unknown interface"
    if interface.linkType ≠ 1 then .error (formatError "PCAPNG packet interface is not Ethernet")
    else
      let timestampHigh ← readU32 body 4 endian
      let timestampLow ← readU32 body 8 endian
      let captured ← readU32 body 12 endian
      let wireLength ← readU32 body 16 endian
      if packetLengthInvalid captured.toNat interface.snaplen wireLength then
        .error (formatError "PCAPNG packet length is invalid")
      else if body.length < 20 + clearLow (captured.toNat + 3) ∨ body.length < 20 + captured.toNat then
        .error (formatError "PCAPNG packet data is truncated")
      else
        let queueId ← parseOptions endian visitPacket (body.drop (20 + clearLow (captured.toNat + 3)))
          (.ofNat (min interfaceId.toNat (2 ^ 16 - 1)))
        let timestamp ← timestampToNanoseconds (timestampHigh.toNat * 2 ^ 32 + timestampLow.toNat)
          interface.timestampResolution
        pure (⟨.ofNat timestamp, wireLength, queueId⟩, (body.take (20 + captured.toNat)).drop 20)

/-- The type and the body of the next block, and what is left. -/
def readBlock (endian : Endian) (reader : List UInt8) : Result (Option (UInt32 × List UInt8 × List UInt8)) := do
  match ← readExactOrEof 8 reader with
  | none => pure none
  | some (blockHeader, reader) =>
    let blockType ← readU32 blockHeader 0 endian
    let totalLength ← readU32 blockHeader 4 endian
    if ¬ (12 ≤ totalLength.toNat ∧ totalLength.toNat ≤ maxCaptureBlockLength) ∨ totalLength.toNat % 4 ≠ 0 then
      .error (formatError "PCAPNG block length is invalid")
    else
      let (blockBuffer, reader) ← readExact (totalLength.toNat - 8) reader
      let trailing ← readU32 blockBuffer (totalLength.toNat - 12) endian
      if trailing.toNat ≠ totalLength.toNat then .error (formatError "PCAPNG trailing block length mismatch")
      else pure (some (blockType, blockBuffer.take (totalLength.toNat - 12), reader))

inductive Block
  | interfaces (interfaces : List InterfaceDescription)
  | packet (metadata : RecordMetadata) (packet : List UInt8)
  | skipped

def parseBlock (blockType : UInt32) (body : List UInt8) (endian : Endian) (interfaces : List InterfaceDescription) :
    Result Block :=
  if blockType = 1 then do
    let interfaces ← parseInterfaceDescription body endian interfaces
    pure (.interfaces interfaces)
  else if blockType = 6 then do
    let (metadata, packet) ← parseEnhancedPacket body endian interfaces
    pure (.packet metadata packet)
  else if blockType = 0x0a0d0d0a then
    .error (formatError "multiple PCAPNG sections are not supported by this backend")
  else .ok .skipped

theorem readExact_length {length : Nat} {reader bytes rest : List UInt8}
    (h : readExact length reader = .ok (bytes, rest)) : rest.length = reader.length - length := by
  unfold readExact at h
  split at h
  · cases h
    exact List.length_drop
  · cases h

theorem readBlock_length {endian : Endian} {reader rest body : List UInt8} {blockType : UInt32}
    (h : readBlock endian reader = .ok (some (blockType, body, rest))) : rest.length < reader.length := by
  unfold readBlock at h
  rw [Check.bind_ok] at h
  obtain ⟨first, hfirst, h⟩ := h
  cases first with
  | none => cases h
  | some read =>
    unfold readExactOrEof at hfirst
    split at hfirst
    · cases hfirst
      simp only [Check.bind_ok, Check.guard_ok] at h
      obtain ⟨_, _, _, _, _, ⟨buffer, left⟩, hread, _, _, _, hresult⟩ := h
      cases hresult
      have hleft := readExact_length hread
      rw [List.length_drop] at hleft
      show left.length < reader.length
      omega
    · split at hfirst <;> cases hfirst

/-! ## The source -/

def nextPcapngRecord (source : CaptureFileSource) : Result (Option RecordMetadata × CaptureFileSource) :=
  match source.format with
  | .pcap .. => .error (formatError "internal capture format mismatch")
  | .pcapNg endian interfaces =>
    match _hread : readBlock endian source.reader with
    | .error error => .error error
    | .ok none => .ok (none, source)
    | .ok (some (blockType, body, reader)) =>
      match parseBlock blockType body endian interfaces with
      | .error error => .error error
      | .ok (.interfaces interfaces) => nextPcapngRecord { source with reader, format := .pcapNg endian interfaces }
      | .ok (.packet metadata packetBuffer) => .ok (some metadata, { source with reader, packetBuffer })
      | .ok .skipped => nextPcapngRecord { source with reader }
termination_by source.reader.length
decreasing_by all_goals exact readBlock_length _hread

def nextRecord (source : CaptureFileSource) : Result (Option RecordMetadata × CaptureFileSource) :=
  match source.format with
  | .pcap endian timestampUnit linkType snaplen => readPcapRecord source endian timestampUnit linkType snaplen
  | .pcapNg .. => nextPcapngRecord source

def packetView (metadata : RecordMetadata) (packetBuffer : List UInt8) : PacketView :=
  ⟨packetBuffer, metadata.timestampNanoseconds, metadata.wireLength, metadata.queueId⟩

/-- At most `left` more records of a burst; `received` is what the consumer was handed, also before an error. -/
def receive : (left : Nat) → (source : CaptureFileSource) → (received : List PacketView) →
    Result CaptureFileSource × List PacketView
  | 0, source, received => (.ok source, received)
  | left + 1, source, received =>
    match nextRecord source with
    | .error error => (.error error, received)
    | .ok (none, source) => (.ok { source with exhausted := true }, received)
    | .ok (some metadata, source) => receive left source (received ++ [packetView metadata source.packetBuffer])

/-- `receive_burst`, with the packets its consumer was handed; the count it returns is how many they are. -/
def receiveBurst (source : CaptureFileSource) : Result CaptureFileSource × List PacketView :=
  if source.exhausted then (.ok source, []) else receive source.burstSize source []

/-- `run_bursts` of a worker that is not stopped: the packets it processed, and the source it leaves. -/
def runBursts : (maximumBursts : Nat) → (source : CaptureFileSource) → (processed : List PacketView) →
    Result CaptureFileSource × List PacketView
  | 0, source, processed => (.ok source, processed)
  | bursts + 1, source, processed =>
    match receiveBurst source with
    | (.error error, received) => (.error error, processed ++ received)
    | (.ok source, received) =>
      if received.length = 0 ∧ source.exhausted then (.ok source, processed ++ received)
      else runBursts bursts source (processed ++ received)

/-! ## Timestamps -/

def TimestampResolution.ticksPerSecond : TimestampResolution → Nat
  | .decimal power => 10 ^ power
  | .binary power => 2 ^ power

def TimestampResolution.Accepted : TimestampResolution → Prop
  | .decimal power => power ≤ 19
  | .binary power => power ≤ 63

/-- The three ways to convert are one formula. -/
theorem timestampToNanoseconds_ok {timestamp : UInt64} {resolution : TimestampResolution} {n : Nat} :
    timestampToNanoseconds timestamp.toNat resolution = .ok n ↔
      resolution.Accepted ∧ n = min (2 ^ 64 - 1) (timestamp.toNat * 10 ^ 9 / resolution.ticksPerSecond) := by
  have hlt := timestamp.toNat_lt
  unfold timestampToNanoseconds TimestampResolution.ticksPerSecond TimestampResolution.Accepted
  cases resolution with
  | decimal power =>
    have hfits : ∀ k, k ≤ 10 → saturatingPowTen k = 10 ^ k :=
      fun k hk => Nat.min_eq_left ((Nat.pow_le_pow_right (by decide) hk).trans (by decide))
    by_cases hlow : power ≤ 9
    · have hsplit : 10 ^ 9 = 10 ^ (9 - power) * 10 ^ power := by rw [← Nat.pow_add, Nat.sub_add_cancel hlow]
      have hexact : timestamp.toNat * 10 ^ 9 / 10 ^ power = timestamp.toNat * 10 ^ (9 - power) := by
        rw [hsplit, ← Nat.mul_assoc, Nat.mul_div_cancel _ (Nat.pow_pos (by decide))]
      simp only [if_pos hlow, hfits (9 - power) (by omega), hexact, saturatingMul, Except.ok.injEq]
      omega
    by_cases hhigh : power ≤ 19
    · have hsplit : 10 ^ power = 10 ^ (power - 9) * 10 ^ 9 := by rw [← Nat.pow_add, Nat.sub_add_cancel (by omega)]
      have hle : timestamp.toNat / 10 ^ (power - 9) ≤ timestamp.toNat := Nat.div_le_self _ _
      simp only [if_neg hlow, if_pos hhigh, hfits (power - 9) (by omega), hsplit, Except.ok.injEq]
      rw [Nat.mul_div_mul_right _ _ (by decide)]
      omega
    · simp [hlow, hhigh]
  | binary power =>
    by_cases hpower : power ≤ 63
    · simp only [if_pos hpower, Except.ok.injEq, Nat.reducePow]
      omega
    · simp [hpower]

/-- **A timestamp in nanoseconds is exact up to the largest 64-bit number**, at every resolution that is not refused,
and so grows with the timestamp. -/
theorem timestamp_exact (timestamp : UInt64) (resolution : TimestampResolution) :
    (∀ n, timestampToNanoseconds timestamp.toNat resolution = .ok n ↔
      resolution.Accepted ∧ n = min (2 ^ 64 - 1) (timestamp.toNat * 10 ^ 9 / resolution.ticksPerSecond)) ∧
    ∀ later : UInt64, timestamp ≤ later → ∀ n m, timestampToNanoseconds timestamp.toNat resolution = .ok n →
      timestampToNanoseconds later.toNat resolution = .ok m → n ≤ m := by
  refine ⟨fun _ => timestampToNanoseconds_ok, fun later hle n m h h' => ?_⟩
  have hle : timestamp.toNat ≤ later.toNat := hle
  have hquotient := Nat.div_le_div_right (c := resolution.ticksPerSecond) (Nat.mul_le_mul_right (10 ^ 9) hle)
  rw [(timestampToNanoseconds_ok.1 h).2, (timestampToNanoseconds_ok.1 h').2]
  omega

end Offline
end NetTool
