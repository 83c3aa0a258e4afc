import Mathlib.Data.List.Forall2
import NetTool.Capture.Reader
/-!
# Capture.RoundTrip — the offline source reads what the capture writer wrote

Each piece the writer puts into a file is read back with the rest of the file left: a field, an option, a block, a PCAP
or PCAPNG header, a record.  A source therefore yields the records one after the other (`Yields`), in bursts of any
size, and then the end of the file.  A PCAP file whose header declares a snap length of zero or above the block limit is
the exception: it is not opened at all.
-/
namespace NetTool
namespace Offline

open Check Bytes Capture List

/-! ## Bytes and fields -/

variable {bytes : List UInt8} {length : Nat} {record : CaptureRecord} {source : CaptureFileSource}
  {packets : List PacketView} {mode : CaptureMode}

theorem readExact_append (h : bytes.length = length) (rest : List UInt8) :
    readExact length (bytes ++ rest) = .ok (bytes, rest) := by
  unfold readExact
  rw [if_pos (by rw [length_append]; omega), take_left' h, drop_left' h]

theorem readExactOrEof_append (h : bytes.length = length) (rest : List UInt8) :
    readExactOrEof length (bytes ++ rest) = .ok (some (bytes, rest)) := by
  unfold readExactOrEof
  rw [if_pos (by rw [length_append]; omega), take_left' h, drop_left' h]

theorem readU16_le16 (value : UInt16) (rest : List UInt8) : readU16 (le16 value ++ rest) 0 .little = .ok value := by
  show Except.ok (UInt16.ofNat (ofLe (toLe 2 value.toNat))) = _
  rw [ofLe_toLe value.toNat_lt, UInt16.ofNat_toNat]

theorem readU32_le32 (value : UInt32) (rest : List UInt8) : readU32 (le32 value ++ rest) 0 .little = .ok value := by
  show Except.ok (UInt32.ofNat (ofLe (toLe 4 value.toNat))) = _
  rw [ofLe_toLe value.toNat_lt, UInt32.ofNat_toNat]

theorem readU32_last (value : UInt32) : readU32 (le32 value) 0 .little = .ok value := by
  have h := readU32_le32 value []
  rwa [append_nil] at h

section
variable {front : List UInt8} {offset : Nat} (h : front.length ≤ offset) (rest : List UInt8) (endian : Endian)
include h

theorem readU16_skip : readU16 (front ++ rest) offset endian = readU16 rest (offset - front.length) endian := by
  unfold readU16
  rw [range_append h]

theorem readU32_skip : readU32 (front ++ rest) offset endian = readU32 rest (offset - front.length) endian := by
  unfold readU32
  rw [range_append h]

end

theorem readU32_word {words : List UInt32} {i : Nat} {value : UInt32} (h : words[i]? = some value) (rest : List UInt8) :
    readU32 (words.flatMap le32 ++ rest) (4 * i) .little = .ok value := by
  induction words generalizing i with
  | nil => cases h
  | cons word words ih =>
    rw [flatMap_cons, append_assoc]
    cases i with
    | zero =>
      cases h
      exact readU32_le32 _ _
    | succ i =>
      rw [readU32_skip (by rw [length_le32]; omega)]
      exact ih h

/-! ## Options -/

theorem length_padToU32 (bytes : List UInt8) : (padToU32 bytes).length = clearLow (bytes.length + 3) := by
  unfold padToU32 padding clearLow
  rw [length_append, length_replicate]
  omega

/-- What stands before a part whose place is a multiple of four does not change its padding. -/
theorem padToU32_append {front : List UInt8} (h : front.length % 4 = 0) (bytes : List UInt8) :
    padToU32 (front ++ bytes) = front ++ padToU32 bytes := by
  have hlength : padding (front ++ bytes).length = padding bytes.length := by
    unfold padding
    rw [length_append]
    omega
  unfold padToU32
  rw [hlength, append_assoc]

def encodeOption (code : UInt16) (value : List UInt8) : List UInt8 :=
  padToU32 (le16 code ++ le16 (capped16 value.length) ++ value)

theorem encodeOption_eq (code : UInt16) (value : List UInt8) :
    encodeOption code value = le16 code ++ (le16 (capped16 value.length) ++ padToU32 value) := by
  unfold encodeOption
  rw [padToU32_append (by simp), append_assoc]

theorem length_encodeOption (code : UInt16) (value : List UInt8) :
    (encodeOption code value).length = 4 + clearLow (value.length + 3) := by
  rw [encodeOption_eq, length_append, length_append, length_padToU32, length_le16, length_le16]
  omega

section
variable {σ : Type} (visitor : σ → UInt16 → List UInt8 → Result σ)

/-- **An option is visited, and the options after it are read.** -/
theorem parseOptions_option {code : UInt16} {value : List UInt8} (hcode : code ≠ 0) (hlength : value.length < 2 ^ 16)
    (rest : List UInt8) (seen : σ) :
    parseOptions .little visitor (encodeOption code value ++ rest) seen
      = visitor seen code value >>= parseOptions .little visitor rest := by
  have hne : encodeOption code value ++ rest ≠ [] := by
    intro hnil
    have := congrArg List.length hnil
    rw [length_append, length_encodeOption] at this
    simp at this
  have hlong : ¬ (encodeOption code value ++ rest).length < 4 := by
    rw [length_append, length_encodeOption]
    omega
  have hread : encodeOption code value ++ rest
      = le16 code ++ (le16 (capped16 value.length) ++ (padToU32 value ++ rest)) := by
    rw [encodeOption_eq, append_assoc, append_assoc]
  have hfirst : readU16 (encodeOption code value ++ rest) 0 .little = .ok code := by
    rw [hread, readU16_le16]
  have hsecond : readU16 (encodeOption code value ++ rest) 2 .little = .ok (capped16 value.length) := by
    rw [hread, readU16_skip (Nat.le_of_eq (length_le16 code)), length_le16, readU16_le16]
  have hdrop : (encodeOption code value ++ rest).drop 4 = padToU32 value ++ rest := by
    rw [hread, ← append_assoc, drop_left' (by simp)]
  have hpadded : (padToU32 value ++ rest).drop (clearLow (value.length + 3)) = rest :=
    drop_left' (length_padToU32 value)
  have hvalue : (padToU32 value ++ rest).take value.length = value := by
    unfold padToU32
    rw [append_assoc, take_left' rfl]
  have hfits : ¬ ((padToU32 value ++ rest).length < clearLow (value.length + 3) ∨
      (padToU32 value ++ rest).length < value.length) := by
    rw [length_append, length_padToU32]
    unfold clearLow
    omega
  rw [parseOptions, if_neg hne, if_neg hlong, hfirst, ok_bind, hsecond, ok_bind, if_neg hcode, hdrop,
    toNat_capped16 hlength, if_neg hfits, hvalue, hpadded]

theorem parseOptions_end (rest : List UInt8) (seen : σ) :
    parseOptions .little visitor (le32 0 ++ rest) seen = .ok seen := by
  have hsplit : le32 0 ++ rest = le16 0 ++ (le16 0 ++ rest) := rfl
  have hlong : ¬ (le32 0 ++ rest).length < 4 := by
    rw [length_append, length_le32]
    omega
  have hne : le32 0 ++ rest ≠ [] := fun hnil => hlong (by rw [hnil]; decide)
  rw [parseOptions, if_neg hne, if_neg hlong, hsplit, readU16_le16, ok_bind,
    readU16_skip (Nat.le_of_eq (length_le16 0)), length_le16, readU16_le16, ok_bind, if_pos rfl,
    if_neg (fun h => h rfl)]

end

/-! ## Blocks -/

def encodeBlock (blockType : UInt32) (body : List UInt8) : List UInt8 :=
  le32 blockType ++ (le32 (.ofNat (body.length + 12)) ++ (body ++ le32 (.ofNat (body.length + 12))))

theorem writeBlock_ok (blockType : UInt32) {body : List UInt8} (h : body.length + 12 ≤ maxCaptureBlockLength) :
    writeBlock blockType [body] = .ok (encodeBlock blockType body) := by
  have hflat : [body].flatten = body := by simp
  have hlength : body.length + 12 < 2 ^ 32 := Nat.lt_of_le_of_lt h (by decide)
  unfold writeBlock encodeBlock
  simp only [hflat, if_pos hlength, append_assoc]

/-- **A block of whole words below the limit is read back.** -/
theorem readBlock_append (blockType : UInt32) {body : List UInt8} (hlimit : body.length + 12 ≤ maxCaptureBlockLength)
    (hwords : body.length % 4 = 0) (rest : List UInt8) :
    readBlock .little (encodeBlock blockType body ++ rest) = .ok (some (blockType, body, rest)) := by
  have htotal : (UInt32.ofNat (body.length + 12)).toNat = body.length + 12 :=
    UInt32.toNat_ofNat_of_lt' (Nat.lt_of_le_of_lt hlimit (by decide))
  unfold encodeBlock
  generalize hlength : UInt32.ofNat (body.length + 12) = total at htotal ⊢
  have hshape : le32 blockType ++ (le32 total ++ (body ++ le32 total)) ++ rest
      = (le32 blockType ++ le32 total) ++ ((body ++ le32 total) ++ rest) := by
    simp only [append_assoc]
  have hsecond : readU32 (le32 blockType ++ le32 total) 4 .little = .ok total := by
    rw [readU32_skip (Nat.le_of_eq (length_le32 _)), length_le32, readU32_last]
  have htrailing : readU32 (body ++ le32 total) body.length .little = .ok total := by
    rw [readU32_skip (Nat.le_refl _), Nat.sub_self, readU32_last]
  have hvalid : ¬ (¬ (12 ≤ total.toNat ∧ total.toNat ≤ maxCaptureBlockLength) ∨ total.toNat % 4 ≠ 0) := by omega
  unfold readBlock
  rw [hshape, readExactOrEof_append (by simp), ok_bind]
  show (readU32 (le32 blockType ++ le32 total) 0 .little >>= _) = _
  rw [readU32_le32, ok_bind, hsecond, ok_bind, if_neg hvalid,
    readExact_append (by rw [length_append, length_le32]; omega)]
  show (readU32 (body ++ le32 total) (total.toNat - 12) .little >>= _) = _
  rw [htotal, Nat.add_sub_cancel, htrailing, ok_bind, if_neg (fun h => h htotal), take_left' rfl]
  rfl

/-! ## File headers -/

/-- The fields after the magic of a PCAP header. -/
def pcapFields (snaplen : UInt32) : List UInt8 :=
  le16 2 ++ (le16 4 ++ (le32 0 ++ (le32 0 ++ (le32 snaplen ++ le32 1))))

variable (snaplen : UInt32)

theorem length_pcapFields : (pcapFields snaplen).length = 20 := by simp [pcapFields]

theorem parsePcapHeader_fields (rest : List UInt8) :
    parsePcapHeader (pcapFields snaplen ++ rest) .little .nanoseconds
      = if snaplen = 0 ∨ maxCaptureBlockLength < snaplen.toNat then .error (formatError "PCAP snaplen is invalid")
        else .ok (.pcap .little .nanoseconds 1 snaplen, rest) := by
  have hmajor : readU16 (pcapFields snaplen) 0 .little = .ok 2 := readU16_le16 _ _
  have hminor : readU16 (pcapFields snaplen) 2 .little = .ok 4 := by
    exact readU16_le16 _ _
  have hsnaplen : readU32 (pcapFields snaplen) 12 .little = .ok snaplen := by
    exact readU32_le32 _ _
  have hlink : readU32 (pcapFields snaplen) 16 .little = .ok 1 := by
    exact readU32_last _
  unfold parsePcapHeader
  rw [readExact_append (length_pcapFields snaplen), ok_bind]
  show (readU16 (pcapFields snaplen) 0 .little >>= _) = _
  rw [hmajor, ok_bind, hminor, ok_bind, hsnaplen, ok_bind]
  rfl

theorem openFile_pcap (rest : List UInt8) :
    openFile (le32 0xa1b23c4d ++ (pcapFields snaplen ++ rest))
      = if snaplen = 0 ∨ maxCaptureBlockLength < snaplen.toNat then .error (formatError "PCAP snaplen is invalid")
        else .ok ⟨rest, .pcap .little .nanoseconds 1 snaplen, [], defaultBurstSize, false⟩ := by
  have hparse : parseHeader (le32 0xa1b23c4d) (pcapFields snaplen ++ rest)
      = parsePcapHeader (pcapFields snaplen ++ rest) .little .nanoseconds := by
    unfold parseHeader
    rw [if_neg (by decide), if_neg (by decide), if_pos (by decide)]
  unfold openFile
  rw [readExact_append (length_le32 _), ok_bind]
  show (parseHeader (le32 0xa1b23c4d) (pcapFields snaplen ++ rest) >>= _) = _
  rw [hparse, parsePcapHeader_fields]
  split <;> rfl

/-- The section block after its type. -/
def sectionRest : List UInt8 :=
  le32 28 ++ le32 0x1a2b3c4d ++ (le16 1 ++ le16 0 ++ le64 (.ofNat (2 ^ 64 - 1)) ++ le32 28)

theorem openFile_section (rest : List UInt8) :
    openFile (le32 0x0a0d0d0a ++ (sectionRest ++ rest)) =
      .ok ⟨rest, .pcapNg .little [], [], defaultBurstSize, false⟩ := by
  have hparse : parsePcapngSectionHeader (sectionRest ++ rest) = .ok (.pcapNg .little [], rest) := by
    unfold sectionRest parsePcapngSectionHeader
    rw [append_assoc, readExact_append (by simp), ok_bind]
    show (sectionEndian (le32 0x1a2b3c4d) >>= _) = _
    rw [show sectionEndian (le32 0x1a2b3c4d) = .ok .little by decide, ok_bind]
    rw [readU32_le32, ok_bind, readExact_append (by simp)]
    rfl
  unfold openFile
  rw [readExact_append (length_le32 _), ok_bind]
  show (parseHeader (le32 0x0a0d0d0a) (sectionRest ++ rest) >>= _) = _
  unfold parseHeader
  rw [hparse]
  rfl

/-! ## The interface block -/

variable (interfaceName : String)

theorem length_optionName : (optionName interfaceName).length = (capped16 (asBytes interfaceName).length).toNat := by
  have hle : (capped16 (asBytes interfaceName).length).toNat ≤ (asBytes interfaceName).length := by
    unfold capped16
    rw [UInt16.toNat_ofNat_of_lt' (by show min _ 65535 < 65536; omega)]
    exact Nat.min_le_left _ _
  unfold optionName
  rw [length_take, Nat.min_eq_left hle]

theorem length_optionName_lt : (optionName interfaceName).length < 2 ^ 16 := by
  rw [length_optionName]
  exact UInt16.toNat_lt _

theorem interfaceOptions_eq :
    interfaceOptions interfaceName
      = encodeOption 2 (optionName interfaceName) ++ (encodeOption 9 [9] ++ le32 0) := by
  have hcapped : capped16 (optionName interfaceName).length = capped16 (asBytes interfaceName).length := by
    apply UInt16.toNat_inj.1
    rw [toNat_capped16 (length_optionName_lt interfaceName), length_optionName]
  have hwords : (encodeOption 2 (optionName interfaceName)).length % 4 = 0 := by
    rw [length_encodeOption]
    unfold clearLow
    omega
  have hname : padToU32 (le16 2 ++ le16 (capped16 (asBytes interfaceName).length) ++ optionName interfaceName)
      = encodeOption 2 (optionName interfaceName) := by
    unfold encodeOption
    rw [hcapped]
  unfold interfaceOptions
  simp only [hname]
  rw [append_assoc _ (le16 9), append_assoc _ (le16 9 ++ le16 1), padToU32_append hwords, append_assoc]
  rfl

theorem visitInterface_other {code : UInt16} (h : code ≠ 9) (resolution : TimestampResolution) (value : List UInt8) :
    visitInterface resolution code value = .ok resolution := by
  unfold visitInterface
  split
  · rw [if_pos h]
  · rfl

/-- The interface the writer declares: Ethernet, with nanosecond timestamps. -/
def writtenInterface (snaplen : UInt32) : InterfaceDescription := ⟨1, snaplen, .decimal 9⟩

theorem parseInterfaceDescription_written :
    parseInterfaceDescription (interfaceBody snaplen interfaceName) .little [] = .ok [writtenInterface snaplen] := by
  have hshape : interfaceBody snaplen interfaceName
      = le16 1 ++ (le16 0 ++ (le32 snaplen ++ interfaceOptions interfaceName)) := by
    unfold interfaceBody
    simp only [append_assoc]
  have hlong : ¬ (interfaceBody snaplen interfaceName).length < 8 := by
    rw [hshape]
    simp only [length_append, length_le16, length_le32]
    omega
  have hlink : readU16 (interfaceBody snaplen interfaceName) 0 .little = .ok 1 := by
    rw [hshape, readU16_le16]
  have hsnaplen : readU32 (interfaceBody snaplen interfaceName) 4 .little = .ok snaplen := by
    exact readU32_le32 _ _
  have hoptions : (interfaceBody snaplen interfaceName).drop 8 = interfaceOptions interfaceName := by
    exact drop_left' (by simp)
  have hresolution : parseOptions .little visitInterface (interfaceOptions interfaceName) (.decimal 6)
      = .ok (.decimal 9) := by
    have hend := parseOptions_end visitInterface [] (.decimal 9)
    rw [interfaceOptions_eq, parseOptions_option visitInterface (by decide) (length_optionName_lt interfaceName),
      visitInterface_other (by decide), ok_bind, parseOptions_option visitInterface (by decide) (by decide)]
    exact hend
  unfold parseInterfaceDescription
  rw [hlink, hsnaplen, hoptions, hresolution]
  rfl

theorem length_interfaceBody :
    (interfaceBody snaplen interfaceName).length
      = 24 + clearLow ((optionName interfaceName).length + 3) := by
  unfold interfaceBody
  rw [interfaceOptions_eq]
  simp only [length_append, length_le16, length_le32, length_encodeOption, length_cons,
    length_nil, clearLow]
  omega

/-! ## Packet blocks -/

theorem utf8Len_le (l : List Char) : String.utf8Len l ≤ 4 * l.length := by
  induction l with
  | nil => exact Nat.zero_le _
  | cons c l ih =>
    have hc := c.utf8Size_le_four
    rw [String.utf8Len_cons, length_cons]
    omega

theorem length_queueComment_lt (queueId : UInt16) : (asBytes (queueComment queueId)).length < 2 ^ 16 := by
  have hqueue := queueId.toNat_lt
  have hdigits : (Nat.toDigits 10 queueId.toNat).length ≤ 5 :=
    (Nat.length_toDigits_le_iff (by decide) (by decide)).2 (by omega)
  have hle := utf8Len_le ("queue_id=".toList ++ Nat.toDigits 10 queueId.toNat)
  have hfront : "queue_id=".toList.length = 9 := by decide
  unfold queueComment
  rw [length_asBytes, String.utf8ByteSize_ofList]
  rw [length_append] at hle
  omega

theorem visitPacket_queueComment (seen queueId : UInt16) :
    visitPacket seen 1 (asBytes (queueComment queueId)) = .ok queueId := by
  have hcomment : (queueComment queueId).toList = "queue_id=".toList ++ Nat.toDigits 10 queueId.toNat :=
    String.toList_ofList
  have hstrip := Str.stripPrefix_append "queue_id=".toList (Nat.toDigits 10 queueId.toNat)
  rw [← hcomment] at hstrip
  have hparse := Numeral.parseUnsigned_toDigits queueId.toNat_lt
  unfold visitPacket
  rw [if_neg (fun h => h rfl)]
  simp only [fromUtf8_asBytes, hstrip, hparse, okOrFormat, ok_bind, UInt16.ofNat_toNat, pure_ok]

def packetFields (record : CaptureRecord) : List UInt8 :=
  le32 0 ++ (le32 (capped32 (record.timestampNanoseconds.toNat / 2 ^ 32)) ++
    (le32 (capped32 (record.timestampNanoseconds.toNat % 2 ^ 32)) ++ (le32 (capped32 record.bytes.length) ++
      le32 record.wireLength)))

section
variable (record)

theorem length_packetFields : (packetFields record).length = 20 := by simp [packetFields]

def packetOptions (record : CaptureRecord) : List UInt8 :=
  encodeOption 1 (asBytes (queueComment record.queueId)) ++ le32 0

theorem packetBody_eq : packetBody record = packetFields record ++ (padToU32 record.bytes ++ packetOptions record) := by
  have hpart : packetPart record = packetFields record ++ padToU32 record.bytes := by
    unfold packetPart
    rw [← padToU32_append (by rw [length_packetFields])]
    simp only [packetFields, append_assoc]
  have hwords : (packetFields record ++ padToU32 record.bytes).length % 4 = 0 := by
    rw [length_append, length_packetFields, length_padToU32]
    unfold clearLow
    omega
  unfold packetBody packetOptions encodeOption
  rw [hpart]
  simp only [append_assoc]
  rw [← append_assoc (packetFields record), padToU32_append hwords]
  simp only [append_assoc]

theorem length_packetBody :
    (packetBody record).length = 28 + clearLow (record.bytes.length + 3)
      + clearLow ((asBytes (queueComment record.queueId)).length + 3) := by
  rw [packetBody_eq]
  unfold packetOptions
  simp only [length_append, length_packetFields, length_padToU32, length_encodeOption, length_le32]
  omega

end

theorem timestampToNanoseconds_written (timestamp : UInt64) :
    timestampToNanoseconds (timestamp.toNat / 2 ^ 32 * 2 ^ 32 + timestamp.toNat % 2 ^ 32) (.decimal 9) =
      .ok timestamp.toNat := by
  have htimestamp := timestamp.toNat_lt
  rw [Nat.div_add_mod', timestampToNanoseconds_ok]
  refine ⟨Nat.le_add_right 9 10, ?_⟩
  show timestamp.toNat = min (2 ^ 64 - 1) (timestamp.toNat * 10 ^ 9 / 10 ^ 9)
  omega

theorem packetFields_words (record : CaptureRecord) :
    packetFields record = [0, capped32 (record.timestampNanoseconds.toNat / 2 ^ 32),
      capped32 (record.timestampNanoseconds.toNat % 2 ^ 32), capped32 record.bytes.length,
        record.wireLength].flatMap le32 := by
  simp [packetFields]

/-- **A packet block is read back**, at the writer's interface. -/
theorem parseEnhancedPacket_written {snaplen : UInt32} (hlimit : record.bytes.length ≤ maxCaptureBlockLength)
    (hsnaplen : snaplen = 0 ∨ record.bytes.length ≤ snaplen.toNat)
    (hwire : record.bytes.length ≤ record.wireLength.toNat) :
    parseEnhancedPacket (packetBody record) .little [writtenInterface snaplen]
      = .ok (⟨record.timestampNanoseconds, record.wireLength, record.queueId⟩, record.bytes) := by
  have hts := record.timestampNanoseconds.toNat_lt
  have hcaptured : (capped32 record.bytes.length).toNat = record.bytes.length :=
    toNat_capped32 (Nat.lt_of_le_of_lt hlimit (by decide))
  have hhigh : (capped32 (record.timestampNanoseconds.toNat / 2 ^ 32)).toNat =
    record.timestampNanoseconds.toNat / 2 ^ 32 :=
    toNat_capped32 (by omega)
  have hlow : (capped32 (record.timestampNanoseconds.toNat % 2 ^ 32)).toNat =
    record.timestampNanoseconds.toNat % 2 ^ 32 :=
    toNat_capped32 (by omega)
  have hwords := packetBody_eq record
  rw [packetFields_words] at hwords
  have hlength : (packetBody record).length
      = 20 + clearLow (record.bytes.length + 3) + (packetOptions record).length := by
    rw [packetBody_eq]
    simp only [length_append, length_packetFields, length_padToU32]
    omega
  have hvalid : ¬ packetLengthInvalid record.bytes.length (writtenInterface snaplen).snaplen record.wireLength := by
    rintro (hover | ⟨hne, hover⟩ | hover)
    · exact Nat.not_lt.2 hlimit hover
    · exact hsnaplen.elim hne (fun hle => Nat.not_lt.2 hle hover)
    · exact Nat.not_lt.2 hwire hover
  have hdata : ¬ ((packetBody record).length < 20 + clearLow (record.bytes.length + 3) ∨
      (packetBody record).length < 20 + record.bytes.length) := by
    rw [hlength]
    unfold clearLow
    omega
  have hdrop : (packetBody record).drop (20 + clearLow (record.bytes.length + 3)) = packetOptions record := by
    rw [packetBody_eq, ← append_assoc]
    exact drop_left' (by rw [length_append, length_packetFields, length_padToU32])
  have hpacket : ((packetBody record).take (20 + record.bytes.length)).drop 20 = record.bytes := by
    rw [packetBody_eq]
    unfold padToU32
    rw [append_assoc, ← append_assoc, take_left' (by rw [length_append, length_packetFields]),
      drop_left' (length_packetFields record)]
  have hqueue : ∀ seen, parseOptions .little visitPacket (packetOptions record) seen = .ok record.queueId := by
    intro seen
    have hend := parseOptions_end visitPacket [] record.queueId
    rw [append_nil] at hend
    unfold packetOptions
    rw [parseOptions_option visitPacket (by decide) (length_queueComment_lt _), visitPacket_queueComment, ok_bind, hend]
  unfold parseEnhancedPacket
  rw [hwords, readU32_word (i := 0) rfl, ok_bind]
  show (Except.ok (writtenInterface snaplen) >>= _) = _
  rw [ok_bind, readU32_word (i := 1) rfl, ok_bind, readU32_word (i := 2) rfl, ok_bind,
    readU32_word (i := 3) rfl, ok_bind, readU32_word (i := 4) rfl, ok_bind, hcaptured, ← hwords, if_neg hvalid,
      if_neg hdata, hdrop, hqueue, ok_bind, hhigh, hlow]
  show (timestampToNanoseconds _ (.decimal 9) >>= _) = _
  rw [timestampToNanoseconds_written, ok_bind, hpacket, UInt64.ofNat_toNat]
  rfl

/-! ## The next record -/

section
variable {source : CaptureFileSource} {endian : Endian} {interfaces : List InterfaceDescription}
  (hformat : source.format = .pcapNg endian interfaces)
include hformat

variable {blockType : UInt32}

theorem nextPcapngRecord_packet {body reader packet : List UInt8} {metadata : RecordMetadata}
    (hread : readBlock endian source.reader = .ok (some (blockType, body, reader)))
    (hparse : parseBlock blockType body endian interfaces = .ok (.packet metadata packet)) :
    nextPcapngRecord source = .ok (some metadata, { source with reader, packetBuffer := packet }) := by
  rw [nextPcapngRecord]
  simp only [hformat]
  split
  all_goals rename_i hcase; rw [hread] at hcase; cases hcase
  rw [hparse]

theorem nextPcapngRecord_end (hreader : source.reader = []) : nextPcapngRecord source = .ok (none, source) := by
  have hread : readBlock endian source.reader = .ok none := by
    rw [hreader]
    rfl
  rw [nextPcapngRecord]
  simp only [hformat]
  split
  all_goals rename_i hcase; cases hread.symm.trans hcase
  rfl

end

def pcapRecordFields (record : CaptureRecord) : List UInt8 :=
  le32 (capped32 (record.timestampNanoseconds.toNat / 1000000000)) ++
    (le32 (capped32 (record.timestampNanoseconds.toNat % 1000000000)) ++
      (le32 (capped32 record.bytes.length) ++ le32 record.wireLength))

theorem writePcapRecord_eq (record : CaptureRecord) :
    writePcapRecord record = .ok (pcapRecordFields record ++ record.bytes) := by
  unfold writePcapRecord pcapRecordFields
  simp only [append_assoc]

/-- **A PCAP record is read back**; its queue is not in the file. -/
theorem readPcapRecord_written {snaplen : UInt32} {rest : List UInt8}
    (hreader : source.reader = pcapRecordFields record ++ (record.bytes ++ rest))
    (hlimit : record.bytes.length ≤ maxCaptureBlockLength) (hsnaplen : record.bytes.length ≤ snaplen.toNat)
    (hwire : record.bytes.length ≤ record.wireLength.toNat)
    (hseconds : record.timestampNanoseconds.toNat / 1000000000 < 2 ^ 32) :
    readPcapRecord source .little .nanoseconds 1 snaplen
      = .ok (some ⟨record.timestampNanoseconds, record.wireLength, 0⟩,
          { source with reader := rest, packetBuffer := record.bytes }) := by
  have hcaptured : (capped32 record.bytes.length).toNat = record.bytes.length :=
    toNat_capped32 (Nat.lt_of_le_of_lt hlimit (by decide))
  have hhigh := toNat_capped32 hseconds
  have hlow : (capped32 (record.timestampNanoseconds.toNat % 1000000000)).toNat
      = record.timestampNanoseconds.toNat % 1000000000 := toNat_capped32 (by omega)
  have hwords : pcapRecordFields record = [capped32 (record.timestampNanoseconds.toNat / 1000000000),
      capped32 (record.timestampNanoseconds.toNat % 1000000000), capped32 record.bytes.length,
      record.wireLength].flatMap le32 ++ [] := by
    simp [pcapRecordFields]
  have hvalid : ¬ (maxCaptureBlockLength < record.bytes.length ∨ snaplen.toNat < record.bytes.length ∨
      record.wireLength.toNat < record.bytes.length) := by omega
  have hfraction : fractionNanoseconds .nanoseconds (record.timestampNanoseconds.toNat % 1000000000)
      = .ok (record.timestampNanoseconds.toNat % 1000000000) := if_pos (Nat.mod_lt _ (by decide))
  have htimestamp : saturatingAdd (saturatingMul (record.timestampNanoseconds.toNat / 1000000000) 1000000000)
      (record.timestampNanoseconds.toNat % 1000000000) = record.timestampNanoseconds.toNat := by
    have hparts := Nat.div_add_mod' record.timestampNanoseconds.toNat 1000000000
    have hproduct : record.timestampNanoseconds.toNat / 1000000000 * 1000000000 ≤ 2 ^ 64 - 1 := by omega
    unfold saturatingAdd saturatingMul
    rw [Nat.min_eq_left hproduct, hparts, Nat.min_eq_left (by omega)]
  unfold readPcapRecord
  rw [hreader, readExactOrEof_append (by simp [pcapRecordFields]), ok_bind, hwords]
  show (readU32 _ 0 .little >>= _) = _
  rw [readU32_word (i := 0) rfl, ok_bind, readU32_word (i := 1) rfl, ok_bind, readU32_word (i := 2) rfl, ok_bind,
    readU32_word (i := 3) rfl, ok_bind, hcaptured, if_neg hvalid, hlow, hfraction, readExact_append rfl]
  show Except.ok (some (RecordMetadata.mk (.ofNat (saturatingAdd (saturatingMul
    (capped32 (record.timestampNanoseconds.toNat / 1000000000)).toNat 1000000000) _)) _ _), _) = _
  rw [hhigh, htimestamp, UInt64.ofNat_toNat]

/-! ## Bursts -/

/-- The source hands out these packets and then finds the end of the file. -/
def Yields : CaptureFileSource → List PacketView → Prop
  | source, [] => ∃ last, nextRecord source = .ok (none, last)
  | source, packet :: packets => ∃ metadata next, nextRecord source = .ok (some metadata, next) ∧
      packetView metadata next.packetBuffer = packet ∧ next.burstSize = source.burstSize ∧
      next.exhausted = source.exhausted ∧ Yields next packets

theorem Yields.congr {source other : CaptureFileSource} (hnext : nextRecord other = nextRecord source)
    (hburst : other.burstSize = source.burstSize) (hexhausted : other.exhausted = source.exhausted)
    (h : Yields source packets) : Yields other packets := by
  cases packets with
  | nil =>
    obtain ⟨last, hlast⟩ := h
    exact ⟨last, by rw [hnext, hlast]⟩
  | cons packet packets =>
    obtain ⟨metadata, next, hstep, hview, hsize, hopen, hrest⟩ := h
    exact ⟨metadata, next, by rw [hnext, hstep], hview, by rw [hsize, hburst], by rw [hopen, hexhausted], hrest⟩

/-- A burst that the packets fill, or in which the file ends. -/
theorem receive_yields :
    ∀ (left : Nat) {source : CaptureFileSource} {packets : List PacketView} (received : List PacketView),
    Yields source packets →
      ∃ next, receive left source received = (.ok next, received ++ packets.take left) ∧
        if left ≤ packets.length then next.burstSize = source.burstSize ∧ next.exhausted = source.exhausted ∧
          Yields next (packets.drop left)
        else next.exhausted = true
  | 0, source, packets, received, h => ⟨source, by rw [receive, take_zero, append_nil], rfl, rfl, h⟩
  | left + 1, source, [], received, ⟨last, hlast⟩ => by
    refine ⟨{ last with exhausted := true }, ?_, rfl⟩
    rw [receive, hlast, take_nil, append_nil]
  | left + 1, source, packet :: packets, received, ⟨metadata, next, hnext, hview, hsize, hopen, hrest⟩ => by
    obtain ⟨last, hreceive, hlast⟩ := receive_yields left (received ++ [packet]) hrest
    refine ⟨last, ?_, ?_⟩
    · rw [receive, hnext]
      simp only [hview]
      rw [hreceive, append_assoc]
      rfl
    · rw [hsize, hopen] at hlast
      simpa only [length_cons, Nat.add_le_add_iff_right, drop_succ_cons] using hlast

theorem runBursts_exhausted {bursts : Nat} (hbursts : 0 < bursts) (h : source.exhausted = true)
    (processed : List PacketView) : runBursts bursts source processed = (.ok source, processed) := by
  cases bursts with
  | zero => cases hbursts
  | succ bursts =>
    have hburst : receiveBurst source = (.ok source, []) := if_pos h
    rw [runBursts, hburst]
    simp only [length_nil, h, and_self, if_true, append_nil]

/-- **With enough bursts a worker processes what the source yields**, whatever the burst size. -/
theorem runBursts_yields {bursts : Nat} (processed : List PacketView) (hopen : source.exhausted = false)
    (hsize : 1 ≤ source.burstSize) (hyields : Yields source packets) (hbursts : packets.length + 1 < bursts) :
    ∃ last, runBursts bursts source processed = (.ok last, processed ++ packets) ∧ last.exhausted = true := by
  induction bursts generalizing source packets processed with
  | zero => exact absurd hbursts (Nat.not_lt_zero _)
  | succ bursts ih =>
    have hburst : receiveBurst source = receive source.burstSize source [] := by
      unfold receiveBurst
      rw [if_neg (by rw [hopen]; decide)]
    obtain ⟨next, hreceive, hnext⟩ := receive_yields source.burstSize [] hyields
    rw [runBursts, hburst, hreceive]
    simp only [nil_append]
    by_cases hfull : source.burstSize ≤ packets.length
    · rw [if_pos hfull] at hnext
      obtain ⟨hnextsize, hnextopen, hrest⟩ := hnext
      have hlength : (packets.take source.burstSize).length = source.burstSize := length_take_of_le hfull
      obtain ⟨last, hrun, hexhausted⟩ := ih (processed ++ packets.take source.burstSize)
        (by rw [hnextopen, hopen]) (by rw [hnextsize]; exact hsize) hrest (by rw [length_drop]; omega)
      refine ⟨last, ?_, hexhausted⟩
      rw [if_neg (by omega), hrun, append_assoc, take_append_drop]
    · rw [if_neg hfull] at hnext
      rw [take_of_length_le (Nat.le_of_not_le hfull)]
      by_cases hnone : packets.length = 0
      · rw [if_pos ⟨hnone, hnext⟩]
        exact ⟨next, rfl, hnext⟩
      · rw [if_neg (fun h => hnone h.1), runBursts_exhausted (by omega) hnext]
        exact ⟨next, rfl, hnext⟩

/-! ## Whole files -/

/-- What of the 16 MiB limit a record takes: its bytes in a PCAP file, its block in a PCAPNG file. -/
def encodedLength (format : Capture.CaptureFormat) (record : CaptureRecord) : Nat :=
  match format with
  | .pcap => record.bytes.length
  | .pcapNg => (packetBody record).length + 12

/-- A record of a packet that was cut to the mode and fits the format. -/
structure Admitted (format : Capture.CaptureFormat) (mode : CaptureMode) (record : CaptureRecord) : Prop where
  cut : ∃ packet, record = captureRecord mode packet
  wire : record.bytes.length ≤ record.wireLength.toNat
  limit : encodedLength format record ≤ maxCaptureBlockLength
  seconds : format = .pcap → record.timestampNanoseconds.toNat / 1000000000 < 2 ^ 32

/-- The packet is the record's; the queue is kept by PCAPNG only. -/
def SameRecord (format : Capture.CaptureFormat) (record : CaptureRecord) (packet : PacketView) : Prop :=
  packet.timestampNanoseconds = record.timestampNanoseconds ∧ packet.wireLength = record.wireLength ∧
    packet.bytes = record.bytes ∧ (format = .pcapNg → packet.queueId = record.queueId)

/-- The file is opened, and in bursts of any size a worker that asks for enough of them is handed the records in order
and finds the end of the file. -/
def ReadBack (format : Capture.CaptureFormat) (file : List UInt8) (records : List CaptureRecord) : Prop :=
  ∃ source, openFile file = .ok source ∧ ∀ burstSize, 1 ≤ burstSize → burstSize ≤ 4096 →
    ∃ sized, setBurstSize source burstSize = .ok sized ∧ ∀ maximumBursts, records.length + 1 < maximumBursts →
      ∃ last packets, runBursts maximumBursts sized [] = (.ok last, packets) ∧ last.exhausted = true ∧
        List.Forall₂ (SameRecord format) records packets

/-- The reader accepts the header of the format: a PCAP header must declare a snap length from 1 to 16 MiB. -/
def Readable (format : Capture.CaptureFormat) (mode : CaptureMode) : Prop :=
  format = .pcapNg ∨ (Capture.snaplen mode ≠ 0 ∧ (Capture.snaplen mode).toNat ≤ maxCaptureBlockLength)

section
variable {format : Capture.CaptureFormat} {mode : CaptureMode} {record : CaptureRecord}

theorem Admitted.length_le (h : Admitted format mode record) : record.bytes.length ≤ maxCaptureBlockLength := by
  have hlimit := h.limit
  cases format with
  | pcap => exact hlimit
  | pcapNg =>
    have hblock : (packetBody record).length + 12 ≤ maxCaptureBlockLength := hlimit
    rw [length_packetBody] at hblock
    unfold clearLow at hblock
    omega

theorem Admitted.length_le_snaplen (h : Admitted format mode record) :
    record.bytes.length ≤ (Capture.snaplen mode).toNat := by
  obtain ⟨packet, rfl⟩ := h.cut
  have hlength := h.length_le
  have hretained : retainedLength mode packet.bytes.length ≤ packet.bytes.length := by
    cases mode with
    | metadataOnly => exact Nat.zero_le _
    | headerOnly => exact Nat.min_le_left _ _
    | snaplen limit => exact Nat.min_le_left _ _
    | fullPacket => exact Nat.le_refl _
  simp only [captureRecord, length_take, Nat.min_eq_left hretained] at hlength ⊢
  cases mode with
  | metadataOnly => exact Nat.zero_le _
  | headerOnly => exact Nat.min_le_right _ _
  | snaplen limit => exact Nat.min_le_right _ _
  | fullPacket => exact Nat.le_trans hlength (by decide)

end

def recordView (format : Capture.CaptureFormat) (record : CaptureRecord) : PacketView :=
  { bytes := record.bytes
    timestampNanoseconds := record.timestampNanoseconds
    wireLength := record.wireLength
    queueId := match format with
      | .pcap => 0
      | .pcapNg => record.queueId }

/-- The source is at the records of a file of this format. -/
def AtRecords (format : Capture.CaptureFormat) (mode : CaptureMode) (source : CaptureFileSource) : Prop :=
  match format with
  | .pcap => source.format = .pcap .little .nanoseconds 1 (Capture.snaplen mode)
  | .pcapNg => source.format = .pcapNg .little [writtenInterface (Capture.snaplen mode)]

section
variable {format : Capture.CaptureFormat} {mode : CaptureMode}

theorem nextRecord_end {source : CaptureFileSource} (hat : AtRecords format mode source)
    (hreader : source.reader = []) : nextRecord source = .ok (none, source) := by
  unfold nextRecord
  cases format with
  | pcap =>
    have hformat : source.format = _ := hat
    rw [hformat]
    unfold readPcapRecord
    simp only [hreader]
    rfl
  | pcapNg =>
    have hformat : source.format = _ := hat
    rw [hformat]
    exact nextPcapngRecord_end hformat hreader

/-- **A record is written, and what was written is read as the record.** -/
theorem nextRecord_written {record : CaptureRecord} (h : Admitted format mode record) :
    ∃ written, writeRecord format record = .ok written ∧
      ∀ (source : CaptureFileSource) (rest : List UInt8), AtRecords format mode source →
        source.reader = written ++ rest →
        ∃ metadata, nextRecord source = .ok (some metadata,
          { source with reader := rest, packetBuffer := record.bytes }) ∧
          packetView metadata record.bytes = recordView format record := by
  cases format with
  | pcap =>
    refine ⟨_, writePcapRecord_eq record, fun source rest hat hreader => ?_⟩
    have hformat : source.format = .pcap .little .nanoseconds 1 (Capture.snaplen mode) := hat
    refine ⟨⟨record.timestampNanoseconds, record.wireLength, 0⟩, ?_, rfl⟩
    have hread := readPcapRecord_written hreader h.length_le h.length_le_snaplen h.wire (h.seconds rfl)
    unfold nextRecord
    simp only [hformat]
    rw [hread, hformat]
  | pcapNg =>
    have hlimit : (packetBody record).length + 12 ≤ maxCaptureBlockLength := h.limit
    have hwords : (packetBody record).length % 4 = 0 := by
      rw [length_packetBody]
      unfold clearLow
      omega
    have hwritten : writePcapngRecord record = .ok (encodeBlock 6 (packetBody record)) := by
      rw [writePcapngRecord, writeBlock_ok 6 hlimit]
    refine ⟨encodeBlock 6 (packetBody record), hwritten, fun source rest hat hreader => ?_⟩
    have hformat : source.format = .pcapNg .little [writtenInterface (Capture.snaplen mode)] := hat
    have hread := readBlock_append 6 hlimit hwords rest
    rw [← hreader] at hread
    have hparse : parseBlock 6 (packetBody record) .little [writtenInterface (Capture.snaplen mode)]
        = .ok (.packet ⟨record.timestampNanoseconds, record.wireLength, record.queueId⟩ record.bytes) := by
      unfold parseBlock
      rw [parseEnhancedPacket_written h.length_le (.inr h.length_le_snaplen) h.wire]
      rfl
    refine ⟨⟨record.timestampNanoseconds, record.wireLength, record.queueId⟩, ?_, rfl⟩
    have hnext := nextPcapngRecord_packet hformat hread hparse
    unfold nextRecord
    rw [hnext, hformat]

/-- **The records are written behind the header, and a source at them yields them.** -/
theorem yields_written {records : List CaptureRecord} (h : ∀ record ∈ records, Admitted format mode record) :
    ∃ written, (∀ file, writeRecords format file records = .ok (file ++ written)) ∧
      ∀ source, AtRecords format mode source → source.reader = written →
        Yields source (records.map (recordView format)) := by
  induction records with
  | nil =>
    refine ⟨[], fun file => by rw [writeRecords, append_nil], fun source hat hreader => ?_⟩
    exact ⟨source, nextRecord_end hat hreader⟩
  | cons record records ih =>
    obtain ⟨first, hfirst, hnext⟩ := nextRecord_written (h record mem_cons_self)
    obtain ⟨written, hwritten, hyields⟩ := ih (fun other hmem => h other (mem_cons_of_mem _ hmem))
    refine ⟨first ++ written, fun file => ?_, fun source hat hreader => ?_⟩
    · rw [writeRecords, hfirst, ok_bind, hwritten, append_assoc]
    · obtain ⟨metadata, hstep, hview⟩ := hnext source written hat hreader
      refine ⟨metadata, _, hstep, hview, rfl, rfl, hyields _ ?_ rfl⟩
      cases format with
      | pcap => exact hat
      | pcapNg => exact hat

end

theorem writeFileHeader_pcap (mode : CaptureMode) (interfaceName : String) :
    writeFileHeader .pcap mode interfaceName = .ok (le32 0xa1b23c4d ++ pcapFields (Capture.snaplen mode)) := by
  unfold writeFileHeader writePcapHeader pcapFields
  simp only [append_assoc]

theorem writeFileHeader_pcapNg (mode : CaptureMode) (interfaceName : String) :
    ∃ interfaceBlock, writeFileHeader .pcapNg mode interfaceName
        = .ok (le32 0x0a0d0d0a ++ sectionRest ++ interfaceBlock) ∧
      ∀ (source : CaptureFileSource) (rest : List UInt8), source.format = .pcapNg .little [] →
        source.reader = interfaceBlock ++ rest → nextRecord source = nextRecord
          { source with reader := rest, format := .pcapNg .little [writtenInterface (Capture.snaplen mode)] } := by
  have hname := length_optionName_lt interfaceName
  have hlength := length_interfaceBody (Capture.snaplen mode) interfaceName
  unfold clearLow at hlength
  have hlimit : (interfaceBody (Capture.snaplen mode) interfaceName).length + 12 ≤ maxCaptureBlockLength := by
    unfold maxCaptureBlockLength
    omega
  have hwritten := writeBlock_ok 1 hlimit
  have hsection : writeBlock 0x0a0d0d0a sectionBodies = .ok (le32 0x0a0d0d0a ++ sectionRest) := by
    decide
  refine ⟨encodeBlock 1 (interfaceBody (Capture.snaplen mode) interfaceName), ?_, fun source rest hformat hreader => ?_⟩
  · unfold writeFileHeader writePcapngHeader
    simp only [hsection, hwritten, ok_bind]
    rfl
  · have hread := readBlock_append 1 hlimit (by omega) rest
    rw [← hreader] at hread
    have hparse : parseBlock 1 (interfaceBody (Capture.snaplen mode) interfaceName) .little []
        = .ok (.interfaces [writtenInterface (Capture.snaplen mode)]) := by
      unfold parseBlock
      rw [parseInterfaceDescription_written]
      rfl
    unfold nextRecord
    conv_lhs => rw [nextPcapngRecord]
    simp only [hformat]
    split
    all_goals rename_i hcase; rw [hread] at hcase; cases hcase
    rw [hparse]

theorem readBack_of_yields {format : Capture.CaptureFormat} {file : List UInt8} {records : List CaptureRecord}
    (hopen : openFile file = .ok source) (hexhausted : source.exhausted = false)
    (hyields : ∀ burstSize, Yields { source with burstSize } (records.map (recordView format))) :
    ReadBack format file records := by
  refine ⟨source, hopen, fun burstSize hpos hmax => ⟨{ source with burstSize }, if_pos ⟨hpos, hmax⟩, ?_⟩⟩
  intro maximumBursts hbursts
  have hlength : (records.map (recordView format)).length + 1 < maximumBursts := by rwa [length_map]
  have hsized := hyields burstSize
  obtain ⟨last, hrun, hlast⟩ := runBursts_yields [] (by exact hexhausted) (by exact hpos) hsized hlength
  refine ⟨last, records.map (recordView format), hrun, hlast,
    forall₂_map_right_iff.2 (forall₂_same.2 fun record _ => ?_)⟩
  exact ⟨rfl, rfl, rfl, fun hformat => by rw [hformat]; rfl⟩

/-- **A capture file is read back exactly when its header is one the reader accepts**: every PCAPNG file, and the PCAP
files whose mode declares a snap length from 1 to 16 MiB. -/
theorem capture_read_back_iff {format : Capture.CaptureFormat} {mode : CaptureMode} {records : List CaptureRecord}
    (interfaceName : String) (h : ∀ record ∈ records, Admitted format mode record) :
    (∃ file, captureFile format mode interfaceName records = .ok file ∧ ReadBack format file records) ↔
      Readable format mode := by
  obtain ⟨written, hwritten, hyields⟩ := yields_written h
  unfold captureFile
  cases format with
  | pcap =>
    rw [writeFileHeader_pcap, ok_bind, hwritten, append_assoc]
    constructor
    · rintro ⟨file, hfile, source, hopen, -⟩
      cases hfile
      rw [openFile_pcap] at hopen
      split at hopen
      · cases hopen
      · rename_i haccepted
        exact .inr ⟨fun hzero => haccepted (.inl hzero), Nat.not_lt.1 (fun hlarge => haccepted (.inr hlarge))⟩
    · rintro (hformat | ⟨hpositive, hsmall⟩)
      · cases hformat
      · have hopen := openFile_pcap (Capture.snaplen mode) written
        rw [if_neg (not_or.2 ⟨hpositive, Nat.not_lt.2 hsmall⟩)] at hopen
        exact ⟨_, rfl, readBack_of_yields hopen rfl (fun burstSize => hyields _ rfl rfl)⟩
  | pcapNg =>
    obtain ⟨interfaceBlock, hheader, hinterface⟩ := writeFileHeader_pcapNg mode interfaceName
    rw [hheader, ok_bind, hwritten]
    refine ⟨fun _ => .inl rfl, fun _ => ⟨_, rfl, ?_⟩⟩
    have hopen := openFile_section (interfaceBlock ++ written)
    refine readBack_of_yields hopen rfl (fun burstSize => ?_)
    exact Yields.congr (hinterface _ written rfl rfl) rfl rfl (hyields _ rfl rfl)

/-- A packet of three bytes, seen at 42 ns on queue 7, and one that was longer on the wire. -/
def samplePacket : PacketView := ⟨[1, 2, 3], 42, 3, 7⟩
def laterPacket : PacketView := ⟨[4, 5], 2000000042, 60, 0⟩

theorem admitted_sample {packet : PacketView} (hpacket : packet ∈ [samplePacket, laterPacket])
    (h : (captureRecord mode packet).bytes.length ≤ 3) : Admitted .pcap mode (captureRecord mode packet) where
  cut := ⟨packet, rfl⟩
  wire :=
    have hwire : ∀ packet ∈ [samplePacket, laterPacket], 3 ≤ packet.wireLength.toNat := by decide
    Nat.le_trans h (hwire packet hpacket)
  limit := Nat.le_trans h (by decide)
  seconds :=
    have hseconds : ∀ packet ∈ [samplePacket, laterPacket],
      packet.timestampNanoseconds.toNat / 1000000000 < 2 ^ 32 := by decide
    fun _ => hseconds packet hpacket

theorem capture_read_back_sample :
    (∀ record ∈ [samplePacket, laterPacket].map (captureRecord .headerOnly), Admitted .pcap .headerOnly record) ∧
    ∃ file, captureFile .pcap .headerOnly "eth0" ([samplePacket, laterPacket].map
      (captureRecord .headerOnly)) = .ok file ∧
      ReadBack .pcap file ([samplePacket, laterPacket].map (captureRecord .headerOnly)) := by
  have hadmitted : ∀ record ∈ [samplePacket, laterPacket].map (captureRecord .headerOnly),
      Admitted .pcap .headerOnly record := by
    refine forall_mem_map.2 fun packet hpacket => admitted_sample hpacket ?_
    revert packet
    decide
  exact ⟨hadmitted, (capture_read_back_iff "eth0" hadmitted).2 (.inr (by decide))⟩

/-- A PCAP file of whole packets is written, and the reader refuses its header. -/
theorem full_packet_pcap_not_read_back :
    Admitted .pcap .fullPacket (captureRecord .fullPacket samplePacket) ∧
    ∃ file, captureFile .pcap .fullPacket "eth0" [captureRecord .fullPacket samplePacket] = .ok file ∧
      openFile file = .error (formatError "PCAP snaplen is invalid") ∧
      ¬ ReadBack .pcap file [captureRecord .fullPacket samplePacket] := by
  have hopen : ∀ rest, openFile (le32 0xa1b23c4d ++ (pcapFields (Capture.snaplen .fullPacket) ++ rest))
      = .error (formatError "PCAP snaplen is invalid") := by
    intro rest
    rw [openFile_pcap, if_pos (by decide)]
  have hfile : captureFile .pcap .fullPacket "eth0" [captureRecord .fullPacket samplePacket]
      = .ok (le32 0xa1b23c4d ++ (pcapFields (Capture.snaplen .fullPacket) ++
          (pcapRecordFields (captureRecord .fullPacket samplePacket) ++ [1, 2, 3]))) := by
    unfold captureFile
    rfl
  refine ⟨admitted_sample (.head _) (by decide), _, hfile, hopen _, ?_⟩
  rintro ⟨source, hsource, -⟩
  cases hsource

end Offline
end NetTool
