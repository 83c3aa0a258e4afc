import NetTool.Lib.Bytes
import NetTool.Lib.Check
import NetTool.Lib.Reader
import NetTool.Error
import NetTool.Node.Coordinator
/-!
# Node.Frame — NTCP control frames (`crates/node-protocol/src/frame.rs`, `crates/node/src/lib.rs`)

A frame is a header of 12 bytes and an envelope as Protobuf: the magic, the framing version, a byte of flags, two
reserved bytes and the length of the envelope.  `decode_frame` takes a whole frame; `read_control_frame` reads one from
a stream, the header first.  What is decoded is exactly what could have been encoded (`decodeFrame_ok`), so frames
written one after another are read back one by one (`readControlFrame_frame`).
-/
namespace NetTool
namespace Node

open Prog Bytes List

/-- The Protobuf library at one message type: what it encodes it decodes again. -/
structure Protobuf (Envelope : Type) where
  encodeToVec : Envelope → List UInt8
  decode : List UInt8 → Except String Envelope
  decode_encode : ∀ envelope, decode (encodeToVec envelope) = .ok envelope

def frameMagic : List UInt8 := "NTCP".toUTF8.toList
def framingVersion : UInt8 := 1
def controlHeaderBytes : Nat := 12

def frameError (code : ErrorCode) (message : String) : NetToolError := .new code message false

def controlIoError (error : String) : NetToolError :=
  .new .nodeTransportFailed ("node control I/O failed: " ++ error) true

def frameOf (payload : List UInt8) : List UInt8 :=
  frameMagic ++ ([framingVersion, 0, 0, 0] ++ (toBe 4 payload.length ++ payload))

section
variable {Envelope : Type} (protobuf : Protobuf Envelope)

def encodeFrame (envelope : Envelope) : Result (List UInt8) := do
  let payload := protobuf.encodeToVec envelope
  if maxControlPayloadBytes < payload.length then
    .error (frameError .controlFrameTooLarge "control payload exceeds 1 MiB")
  if 2 ^ 32 ≤ payload.length then .error (frameError .controlFrameTooLarge "control payload length overflow")
  pure (frameOf payload)

def decodeFrame (frame : List UInt8) : Result Envelope := do
  if frame.length < controlHeaderBytes then .error (frameError .protocolInvalid "control frame header is truncated")
  if frame.take 4 ≠ frameMagic then .error (frameError .protocolInvalid "control frame magic is invalid")
  if frame[4]? ≠ some framingVersion then
    .error (frameError .protocolIncompatible "control framing version is unsupported")
  if frame[5]? ≠ some 0 then .error (frameError .protocolUnsupportedFlag "control frame contains unsupported flags")
  if frame[6]? ≠ some 0 ∨ frame[7]? ≠ some 0 then
    .error (frameError .protocolInvalid "control frame reserved field must be zero")
  let payloadLength := ofBe ((frame.drop 8).take 4)
  if maxControlPayloadBytes < payloadLength then
    .error (frameError .controlFrameTooLarge "control payload exceeds 1 MiB")
  if frame.length ≠ controlHeaderBytes + payloadLength then
    .error (frameError .protocolInvalid "control payload length does not match frame")
  (protobuf.decode (frame.drop controlHeaderBytes)).mapError
    (fun error => frameError .protocolInvalid ("invalid control protobuf: " ++ error))

/-- Writing to a stream; its state is what was written so far.  Writes do not fail. -/
def writeControlFrame (envelope : Envelope) : Prog (List UInt8) NetToolError Unit := do
  let frame ← ofExcept (encodeFrame protobuf envelope)
  modify (· ++ frame)

/-- Reading from a stream; its state is what is still to be read. -/
def readControlFrame : Prog (List UInt8) NetToolError Envelope := do
  let header ← Reader.readExact (controlIoError "early eof") controlHeaderBytes
  let payloadLength := ofBe ((header.drop 8).take 4)
  if maxControlPayloadBytes < payloadLength then
    fail (frameError .controlFrameTooLarge "control payload exceeds 1 MiB")
  else do
    let payload ← Reader.readExact (controlIoError "early eof") payloadLength
    ofExcept (decodeFrame protobuf (header ++ payload))

end

/-! ## What is decoded -/

section
variable {Envelope : Type} {protobuf : Protobuf Envelope} {envelope : Envelope} {bytes payload : List UInt8}

theorem length_frameMagic : frameMagic.length = 4 := by decide +kernel

theorem length_frameOf (payload : List UInt8) : (frameOf payload).length = controlHeaderBytes + payload.length := by
  simp only [frameOf, length_append, length_frameMagic, length_toBe, length_cons, length_nil,
    controlHeaderBytes]
  omega

theorem encodeFrame_eq (h : (protobuf.encodeToVec envelope).length ≤ maxControlPayloadBytes) :
    encodeFrame protobuf envelope = .ok (frameOf (protobuf.encodeToVec envelope)) := by
  have hu32 : (protobuf.encodeToVec envelope).length < 2 ^ 32 := by
    unfold maxControlPayloadBytes at h
    omega
  simp only [encodeFrame, Check.error_bind, Check.guard_ok, Check.pure_ok]
  exact ⟨by omega, by omega, trivial⟩

section
variable (payload)

theorem drop_frameOf_version :
    (frameOf payload).drop 4 = [framingVersion, 0, 0, 0] ++ (toBe 4 payload.length ++ payload) :=
  drop_left' length_frameMagic

theorem drop_frameOf_length : (frameOf payload).drop 8 = toBe 4 payload.length ++ payload := by
  show (frameOf payload).drop (4 + 4) = _
  rw [← drop_drop, drop_frameOf_version]
  rfl

theorem drop_frameOf_header : (frameOf payload).drop controlHeaderBytes = payload := by
  show (frameOf payload).drop (8 + 4) = _
  rw [← drop_drop, drop_frameOf_length, drop_left' (length_toBe _ _)]

theorem getElem?_frameOf (i : Nat) :
    (frameOf payload)[4 + i]? = ([framingVersion, 0, 0, 0] ++ (toBe 4 payload.length ++ payload))[i]? := by
  rw [← List.getElem?_drop, drop_frameOf_version]

end

theorem length_field_frameOf (h : payload.length ≤ maxControlPayloadBytes) :
    ofBe (((frameOf payload).drop 8).take 4) = payload.length := by
  have hu32 : payload.length < 256 ^ 4 := by
    unfold maxControlPayloadBytes at h
    omega
  rw [drop_frameOf_length, take_left' (length_toBe _ _), ofBe_toBe hu32]

theorem take_four {l : List UInt8} {a b c d : UInt8} (ha : l[0]? = some a) (hb : l[1]? = some b) (hc : l[2]? = some c)
    (hd : l[3]? = some d) : l.take 4 = [a, b, c, d] := by
  rcases l with _ | ⟨a', _ | ⟨b', _ | ⟨c', _ | ⟨d', rest⟩⟩⟩⟩ <;> simp_all

/-- **`decode_frame` accepts exactly the frames**: every header field as specified, the payload within the limit and of
the announced length, and a payload that Protobuf decodes. -/
theorem decodeFrame_ok :
    decodeFrame protobuf bytes = .ok envelope ↔
      ∃ payload, payload.length ≤ maxControlPayloadBytes ∧ bytes = frameOf payload ∧
        protobuf.decode payload = .ok envelope := by
  simp only [decodeFrame, Check.error_bind, Check.guard_ok, Check.mapError_ok, Nat.not_lt, not_or, not_not]
  constructor
  · rintro ⟨hlong, hmagic, hversion, hflags, ⟨hreserved, hreserved'⟩, hlimit, hlength, hdecode⟩
    unfold controlHeaderBytes at hlong hlength
    have hfour : (bytes.drop 4).take 4 = [framingVersion, 0, 0, 0] :=
      take_four (by rw [List.getElem?_drop]; exact hversion) (by rw [List.getElem?_drop]; exact hflags)
        (by rw [List.getElem?_drop]; exact hreserved) (by rw [List.getElem?_drop]; exact hreserved')
    have hpayload : (bytes.drop controlHeaderBytes).length = ofBe ((bytes.drop 8).take 4) := by
      rw [length_drop, controlHeaderBytes]
      omega
    have hfield : (bytes.drop 8).take 4 = toBe 4 (bytes.drop controlHeaderBytes).length := by
      rw [hpayload, toBe_field (by omega)]
    refine ⟨_, by omega, ?_, hdecode⟩
    calc bytes = bytes.take 4 ++ ((bytes.drop 4).take 4 ++ ((bytes.drop 8).take 4 ++ bytes.drop 12)) := by
          conv_lhs => rw [← take_append_drop 4 bytes, ← take_append_drop 4 (bytes.drop 4), drop_drop,
            ← take_append_drop 4 (bytes.drop (4 + 4)), drop_drop]
      _ = frameOf (bytes.drop controlHeaderBytes) := by rw [hmagic, hfour, hfield]; rfl
  · rintro ⟨payload, hlimit, rfl, hdecode⟩
    rw [length_field_frameOf hlimit, length_frameOf, drop_frameOf_header]
    refine ⟨Nat.le_add_right _ _, take_left' length_frameMagic, getElem?_frameOf payload 0, getElem?_frameOf payload 1,
      ⟨getElem?_frameOf payload 2, getElem?_frameOf payload 3⟩, hlimit, rfl, hdecode⟩

/-! ## Frames in a stream -/

/-- **A frame is read, whatever follows it**, and nothing of what follows. -/
theorem readControlFrame_frame (hlimit : (protobuf.encodeToVec envelope).length ≤ maxControlPayloadBytes)
    (rest : List UInt8) :
    readControlFrame protobuf (frameOf (protobuf.encodeToVec envelope) ++ rest) = (.ok envelope, rest) := by
  set payload := protobuf.encodeToVec envelope with hpayload
  have hsplit : frameOf payload = (frameOf payload).take controlHeaderBytes ++ payload := by
    conv_lhs => rw [← take_append_drop controlHeaderBytes (frameOf payload), drop_frameOf_header]
  have hheader : ((frameOf payload).take controlHeaderBytes).length = controlHeaderBytes := by
    rw [length_take, length_frameOf]
    omega
  have hfield : ofBe ((((frameOf payload).take controlHeaderBytes).drop 8).take 4) = payload.length := by
    rw [drop_take, take_take, ← length_field_frameOf hlimit]
    rfl
  have hdecode : decodeFrame protobuf (frameOf payload) = .ok envelope :=
    decodeFrame_ok.2 ⟨payload, hlimit, rfl, protobuf.decode_encode envelope⟩
  have hread := Reader.readExact_append (e := controlIoError "early eof") hheader (payload ++ rest)
  rw [← append_assoc, ← hsplit] at hread
  unfold readControlFrame
  rw [bind_of_ok hread, hfield, if_neg (by omega), bind_of_ok (Reader.readExact_append rfl rest), ← hsplit]
  exact ofExcept_eq hdecode rest

/-- A stream that an envelope was read from begins with its frame. -/
theorem readControlFrame_ok {stream rest : List UInt8} (h : readControlFrame protobuf stream = (.ok envelope, rest)) :
    ∃ frame, stream = frame ++ rest ∧ decodeFrame protobuf frame = .ok envelope := by
  refine wp_ok (Q := fun envelope rest => ∃ frame, stream = frame ++ rest ∧ decodeFrame protobuf frame = .ok envelope)
    (E := fun _ _ => True) ?_ h
  rw [readControlFrame, wp_bind]
  refine Reader.wp_readExact (fun header rest hstream _ => ?_) trivial
  rw [wp_ite]
  refine ⟨fun _ => trivial, fun _ => ?_⟩
  rw [wp_bind]
  refine Reader.wp_readExact (fun payload rest' hrest _ => ?_) trivial
  rw [wp_ofExcept]
  exact ⟨fun decoded hdecode => ⟨header ++ payload, by rw [hstream, hrest, append_assoc], hdecode⟩, fun _ _ => trivial⟩

/-- **A header that announces too much** is refused with the bytes after it unread. -/
theorem readControlFrame_too_large {header : List UInt8} (hheader : header.length = controlHeaderBytes)
    (hlarge : maxControlPayloadBytes < ofBe (header.drop 8)) (rest : List UInt8) :
    readControlFrame protobuf (header ++ rest) =
      (.error (frameError .controlFrameTooLarge "control payload exceeds 1 MiB"), rest) := by
  have hfield : (header.drop 8).take 4 = header.drop 8 :=
    take_of_length_le (by rw [length_drop, hheader]; decide)
  unfold readControlFrame
  rw [bind_of_ok (Reader.readExact_append hheader rest), hfield, if_pos hlarge]
  rfl

theorem forEach_writeControlFrame {envelopes : List Envelope}
    (h : ∀ envelope ∈ envelopes, (protobuf.encodeToVec envelope).length ≤ maxControlPayloadBytes)
      (written : List UInt8) :
    forEach (writeControlFrame protobuf) envelopes written =
      (.ok (), written ++ envelopes.flatMap (fun envelope => frameOf (protobuf.encodeToVec envelope))) := by
  induction envelopes generalizing written with
  | nil => simp [forEach, Prog.pure]
  | cons envelope envelopes ih =>
    have hfirst : writeControlFrame protobuf envelope written =
        (.ok (), written ++ frameOf (protobuf.encodeToVec envelope)) := by
      unfold writeControlFrame
      rw [bind_of_ok (ofExcept_eq (encodeFrame_eq (h envelope mem_cons_self)) written)]
      rfl
    have hrest := ih (fun e he => h e (mem_cons_of_mem _ he)) (written ++ frameOf (protobuf.encodeToVec envelope))
    show (writeControlFrame protobuf envelope >>= fun _ => forEach (writeControlFrame protobuf) envelopes) written = _
    rw [bind_of_ok hfirst, hrest, flatMap_cons, append_assoc]

end

/-- **Control framing.**  Frames written one after another are read back as the same envelopes with nothing left over; a
byte string is decoded exactly when it is the frame of a payload within the limit that Protobuf decodes, and a stream
only when it begins with such a frame; a header that announces more than the limit is refused before its payload is
read. -/
theorem control_framing {Envelope : Type} (protobuf : Protobuf Envelope) :
    (∀ envelopes : List Envelope,
      (∀ envelope ∈ envelopes, (protobuf.encodeToVec envelope).length ≤ maxControlPayloadBytes) →
      ∃ stream, forEach (writeControlFrame protobuf) envelopes [] = (.ok (), stream) ∧
        Reader.readMany (readControlFrame protobuf) envelopes.length stream = (.ok envelopes, [])) ∧
    (∀ bytes envelope, decodeFrame protobuf bytes = .ok envelope ↔ ∃ payload, payload.length ≤ maxControlPayloadBytes ∧
      bytes = frameMagic ++ ([1, 0, 0, 0] ++ (toBe 4 payload.length ++ payload)) ∧
        protobuf.decode payload = .ok envelope) ∧
    (∀ stream envelope rest, readControlFrame protobuf stream = (.ok envelope, rest) →
      ∃ frame, stream = frame ++ rest ∧ decodeFrame protobuf frame = .ok envelope) ∧
    (∀ header rest, header.length = controlHeaderBytes → maxControlPayloadBytes < ofBe (header.drop 8) →
      readControlFrame protobuf (header ++ rest) =
        (.error (frameError .controlFrameTooLarge "control payload exceeds 1 MiB"), rest)) := by
  refine ⟨fun envelopes hlimit => ⟨_, forEach_writeControlFrame hlimit [], ?_⟩, fun _ _ => decodeFrame_ok,
    fun _ _ _ => readControlFrame_ok, fun header rest hheader hlarge => readControlFrame_too_large hheader hlarge rest⟩
  have hread := Reader.readMany_flatMap (fun envelope henvelope =>
    readControlFrame_frame (hlimit envelope henvelope)) []
  rwa [append_nil] at hread

/-- A message of one number below 128, as protobuf has it: the key and the number, or nothing for zero. -/
def oneField : Protobuf (Fin 128) where
  encodeToVec n := if n = 0 then [] else [8, .ofNat n]
  decode
    | [] => .ok 0
    | [8, n] => if h : n.toNat < 128 then .ok ⟨n.toNat, h⟩ else .error "invalid varint"
    | _ => .error "unexpected field"
  decode_encode := by decide

theorem control_framing_two_envelopes :
    (∃ stream, forEach (writeControlFrame oneField) [5, 0] [] = (.ok (), stream) ∧
      Reader.readMany (readControlFrame oneField) 2 stream = (.ok [5, 0], [])) ∧
    readControlFrame oneField ([0, 0, 0, 0, 0, 0, 0, 0, 0, 16, 0, 1] ++ [7]) =
      (.error (frameError .controlFrameTooLarge "control payload exceeds 1 MiB"), [7]) :=
  ⟨(control_framing oneField).1 [5, 0] (by decide),
    (control_framing oneField).2.2.2 [0, 0, 0, 0, 0, 0, 0, 0, 0, 16, 0, 1] [7] rfl (by decide)⟩

end Node
end NetTool
