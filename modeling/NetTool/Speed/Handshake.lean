import Mathlib.Data.List.Nodup
import Mathlib.Data.List.Perm.Subperm
import NetTool.Lib.Bytes
import NetTool.Lib.Reader
import NetTool.Speed.Config
import NetTool.Speed.Rate
/-!
# Speed.Handshake — how a TCP test stream is let in (`crates/speed/src/tcp.rs`)

Each stream of an authorized test begins with a handshake: a header of 26 bytes with the session, the stream's number
and the length of the tag, then the tag.  The receiver accepts as many streams as it expects, each with another number
below that.  So the numbers of a full set are all of them (`acceptStreams_perm`), and a sender's streams are accepted in
whatever order they connect (`acceptStreams_sender`), with their data counted (`tcp_data_counted`).  The bytes of a
connection are all that its peer sends; the five seconds a handshake may take are left out, as are reads that fail.
-/
namespace NetTool
namespace Speed

open Prog Bytes List

structure TcpAuthorization where
  sessionId : SessionId
  tag : String

def tcpAuthMagic : List UInt8 := asBytes "NTA1"
def tcpAuthHeaderBytes : Nat := 26

def authorizationError (message : String) : NetToolError := .new .dataPlaneUnauthorized message false

def tcpIoError (error : String) : NetToolError := .new .speedFailed ("TCP speed I/O failed: " ++ error) true

def tcpAuthHeader (authorization : TcpAuthorization) (streamId : UInt32) : List UInt8 :=
  tcpAuthMagic ++ (authorization.sessionId.val ++ (toBe 4 streamId.toNat ++ toBe 2 authorization.tag.utf8ByteSize))

/-- Writing to a stream; its state is what was written so far. -/
def writeTcpAuthorization (authorization : TcpAuthorization) (streamId : UInt32) :
    Prog (List UInt8) NetToolError Unit :=
  if 2 ^ 16 ≤ authorization.tag.utf8ByteSize then fail (authorizationError "TCP authorization tag is too long")
  else do
    modify (· ++ tcpAuthHeader authorization streamId)
    modify (· ++ asBytes authorization.tag)

/-- Reading from a stream; its state is what is still to be read. -/
def readTcpAuthorization (expected : TcpAuthorization) : Prog (List UInt8) NetToolError UInt32 := do
  let header ← Reader.readExact (tcpIoError "early eof") tcpAuthHeaderBytes
  if header.take 4 ≠ tcpAuthMagic ∨ (header.drop 4).take 16 ≠ expected.sessionId.val then
    fail (authorizationError "TCP authorization session or protocol header mismatch")
  else
    let streamId := UInt32.ofNat (ofBe ((header.drop 20).take 4))
    let tagLength := ofBe ((header.drop 24).take 2)
    if tagLength ≠ expected.tag.utf8ByteSize then
      fail (authorizationError "TCP authorization tag length mismatch")
    else do
      let tag ← Reader.readExact (tcpIoError "early eof") tagLength
      if !authorizationTagMatches expected.tag tag then fail (authorizationError "TCP authorization tag mismatch")
      else pure streamId

/-! ## The receiver -/

/-- What `accept` gives: an error, or a stream with the bytes its peer sends. -/
inductive Incoming
  | failed (error : String)
  | stream (bytes : List UInt8)

/-- A stream the receiver took: its number, if the test is authorized, and what is left of it. -/
structure Accepted where
  streamId : Option UInt32
  rest : List UInt8

/-- The check of one stream; `streamIds` are the numbers of the streams before it. -/
def admitStream (expectedStreams : UInt16) (authorization : Option TcpAuthorization) (streamIds : List UInt32) :
    Prog (List UInt8) NetToolError (Option UInt32) :=
  match authorization with
  | none => pure none
  | some authorization => do
    let streamId ← readTcpAuthorization authorization
    if expectedStreams.toNat ≤ streamId.toNat ∨ streamId ∈ streamIds then
      fail (authorizationError "TCP authorization stream ID is out of range or duplicated")
    else pure (some streamId)

/-- The accept loop with `remaining` streams to go; `none` while it waits for one. -/
def acceptStreams (expectedStreams : UInt16) (authorization : Option TcpAuthorization) :
    Nat → List UInt32 → List Incoming → Option (Result (List Accepted))
  | 0, _, _ => some (.ok [])
  | _ + 1, _, [] => none
  | _ + 1, _, .failed error :: _ => some (.error (tcpIoError error))
  | remaining + 1, streamIds, .stream bytes :: later =>
    match admitStream expectedStreams authorization streamIds bytes with
    | (.error e, _) => some (.error e)
    | (.ok streamId, rest) =>
      (acceptStreams expectedStreams authorization remaining (streamIds ++ streamId.toList) later).map
        (fun others => others.map (⟨streamId, rest⟩ :: ·))

def workerBytes (stream : Accepted) : Result Nat :=
  if stream.rest.length < 2 ^ 64 then .ok stream.rest.length else .error (invalid "TCP byte counter overflow")

/-- The workers' counts together; the order they end in changes neither the sum nor the error. -/
def transferredBytes (streams : List Accepted) : Result Nat :=
  streams.foldlM (fun total stream => do
    let bytes ← workerBytes stream
    match checkedAdd total bytes with
    | some sum => .ok sum
    | none => .error (invalid "TCP byte counter overflow")) 0

def runTcpReceiverInternal (expectedStreams : UInt16) (authorization : Option TcpAuthorization)
    (incoming : List Incoming) (elapsed : Nat) : Option (Result TcpRunResult) :=
  if expectedStreams < 1 ∨ 128 < expectedStreams then
    some (.error (invalid "expected TCP streams must be between 1 and 128"))
  else
    (acceptStreams expectedStreams authorization expectedStreams.toNat [] incoming).map (fun streams => do
      let total ← transferredBytes (← streams)
      pure (tcpResult expectedStreams total elapsed))

def runAuthorizedTcpReceiver (config : AuthorizedTcpReceiverConfig) (incoming : List Incoming) (elapsed : Nat) :
    Option (Result TcpRunResult) :=
  match validateAuthorizationTag config.authorizationTag with
  | .error e => some (.error e)
  | .ok () =>
    runTcpReceiverInternal config.expectedStreams (some ⟨config.sessionId, config.authorizationTag⟩) incoming elapsed

/-! ## What a handshake is -/

section
variable {authorization : TcpAuthorization} {streamId : UInt32}

def handshakeBytes (authorization : TcpAuthorization) (streamId : UInt32) : List UInt8 :=
  tcpAuthHeader authorization streamId ++ asBytes authorization.tag

theorem length_tcpAuthMagic : tcpAuthMagic.length = 4 := by decide +kernel

theorem length_tcpAuthHeader (authorization : TcpAuthorization) (streamId : UInt32) :
    (tcpAuthHeader authorization streamId).length = tcpAuthHeaderBytes := by
  simp only [tcpAuthHeader, length_append, length_tcpAuthMagic, length_toBe, authorization.sessionId.property,
    tcpAuthHeaderBytes]

theorem writeTcpAuthorization_eq (h : ValidTag authorization.tag) (written : List UInt8) :
    writeTcpAuthorization authorization streamId written =
      (.ok (), written ++ handshakeBytes authorization streamId) := by
  have hsize := h.size
  unfold writeTcpAuthorization handshakeBytes
  rw [if_neg (by omega), ← append_assoc]
  rfl

theorem tcpAuthHeader_fields (h : ValidTag authorization.tag) (streamId : UInt32) :
    (tcpAuthHeader authorization streamId).take 4 = tcpAuthMagic ∧
    ((tcpAuthHeader authorization streamId).drop 4).take 16 = authorization.sessionId.val ∧
    ofBe (((tcpAuthHeader authorization streamId).drop 20).take 4) = streamId.toNat ∧
    ofBe (((tcpAuthHeader authorization streamId).drop 24).take 2) = authorization.tag.utf8ByteSize := by
  have hshort : authorization.tag.utf8ByteSize < 256 ^ 2 := by
    have hsize := h.size
    omega
  have hid : streamId.toNat < 256 ^ 4 := streamId.toNat_lt
  have hfour : (tcpAuthHeader authorization streamId).drop 4 =
      authorization.sessionId.val ++ (toBe 4 streamId.toNat ++ toBe 2 authorization.tag.utf8ByteSize) :=
    drop_left' length_tcpAuthMagic
  have htwenty : (tcpAuthHeader authorization streamId).drop 20 =
      toBe 4 streamId.toNat ++ toBe 2 authorization.tag.utf8ByteSize := by
    show (tcpAuthHeader authorization streamId).drop (4 + 16) = _
    rw [← drop_drop, hfour, drop_left' authorization.sessionId.property]
  have hlast : (tcpAuthHeader authorization streamId).drop 24 = toBe 2 authorization.tag.utf8ByteSize := by
    show (tcpAuthHeader authorization streamId).drop (20 + 4) = _
    rw [← drop_drop, htwenty, drop_left' (length_toBe _ _)]
  refine ⟨take_left' length_tcpAuthMagic, ?_, ?_, ?_⟩
  · rw [hfour, take_left' authorization.sessionId.property]
  · rw [htwenty, take_left' (length_toBe _ _), ofBe_toBe hid]
  · rw [hlast, take_of_length_le (by rw [length_toBe]), ofBe_toBe hshort]

theorem eq_tcpAuthHeader {header : List UInt8} (hlength : header.length = tcpAuthHeaderBytes)
    (hmagic : header.take 4 = tcpAuthMagic) (hsession : (header.drop 4).take 16 = authorization.sessionId.val)
    (htag : ofBe ((header.drop 24).take 2) = authorization.tag.utf8ByteSize) :
    header = tcpAuthHeader authorization (UInt32.ofNat (ofBe ((header.drop 20).take 4))) := by
  unfold tcpAuthHeaderBytes at hlength
  have hid : (UInt32.ofNat (ofBe ((header.drop 20).take 4))).toNat = ofBe ((header.drop 20).take 4) :=
    UInt32.toNat_ofNat_of_lt' (ofBe_take_lt _ 4)
  have hlast : (header.drop 24).take 2 = header.drop 24 :=
    take_of_length_le (by rw [length_drop]; omega)
  rw [tcpAuthHeader, hid, ← hmagic, ← hsession, ← htag, toBe_field (by omega), toBe_field (by omega), hlast]
  conv_lhs => rw [← take_append_drop 4 header, ← take_append_drop 16 (header.drop 4), drop_drop,
    ← take_append_drop 4 (header.drop (4 + 16)), drop_drop]

/-- **A handshake is read, whatever follows it**, and nothing of what follows. -/
theorem readTcpAuthorization_handshake (h : ValidTag authorization.tag) (streamId : UInt32) (rest : List UInt8) :
    readTcpAuthorization authorization (handshakeBytes authorization streamId ++ rest) = (.ok streamId, rest) := by
  obtain ⟨hmagic, hsession, hid, htag⟩ := tcpAuthHeader_fields h streamId
  unfold readTcpAuthorization handshakeBytes
  rw [append_assoc, bind_of_ok (Reader.readExact_append (length_tcpAuthHeader authorization streamId) _),
    if_neg (by simp [hmagic, hsession]), htag, if_neg (by simp),
    bind_of_ok (Reader.readExact_append (length_asBytes _) rest), authorizationTagMatches_iff.2 rfl, hid,
    UInt32.ofNat_toNat]
  rfl

variable {stream rest : List UInt8}

/-- **Only a handshake is read.** -/
theorem readTcpAuthorization_ok (h : readTcpAuthorization authorization stream = (.ok streamId, rest)) :
    stream = handshakeBytes authorization streamId ++ rest := by
  refine wp_ok (Q := fun streamId rest => stream = handshakeBytes authorization streamId ++ rest)
    (E := fun _ _ => True) ?_ h
  rw [readTcpAuthorization, wp_bind]
  refine Reader.wp_readExact (fun header later hstream hlength => ?_) trivial
  rw [wp_ite]
  refine ⟨fun _ => trivial, fun hheader => ?_⟩
  rw [not_or, not_not, not_not] at hheader
  rw [wp_ite]
  refine ⟨fun _ => trivial, fun htag => ?_⟩
  rw [not_not] at htag
  rw [wp_bind]
  refine Reader.wp_readExact (fun tag rest hlater _ => ?_) trivial
  rw [wp_ite]
  refine ⟨fun _ => trivial, fun hmatches => ?_⟩
  rw [Bool.not_eq_true, Bool.not_eq_false', authorizationTagMatches_iff] at hmatches
  rw [wp_pure, hstream, hlater, hmatches, handshakeBytes, append_assoc,
    ← eq_tcpAuthHeader hlength hheader.1 hheader.2 htag]

theorem admitStream_ok_iff (htag : ValidTag authorization.tag) {expectedStreams : UInt16} {streamIds : List UInt32}
    {number : Option UInt32} :
    admitStream expectedStreams (some authorization) streamIds stream = (.ok number, rest) ↔
      ∃ streamId, number = some streamId ∧ streamId.toNat < expectedStreams.toNat ∧ streamId ∉ streamIds ∧
        stream = handshakeBytes authorization streamId ++ rest := by
  constructor
  · intro h
    refine wp_ok (Q := fun number rest => ∃ streamId, number = some streamId ∧ streamId.toNat < expectedStreams.toNat ∧
      streamId ∉ streamIds ∧ stream = handshakeBytes authorization streamId ++ rest) (E := fun _ _ => True) ?_ h
    show wp (readTcpAuthorization authorization >>= _) _ _ _
    rw [wp_bind]
    unfold wp
    rcases hread : readTcpAuthorization authorization stream with ⟨e | streamId, later⟩
    · trivial
    · show wp (if _ then _ else _) _ _ _
      rw [wp_ite]
      refine ⟨fun _ => trivial, fun hfree => ?_⟩
      rw [not_or, Nat.not_le] at hfree
      exact ⟨streamId, rfl, hfree.1, hfree.2, readTcpAuthorization_ok hread⟩
  · rintro ⟨streamId, rfl, hrange, hnew, rfl⟩
    show (readTcpAuthorization authorization >>= _) _ = _
    rw [bind_of_ok (readTcpAuthorization_handshake htag streamId rest), if_neg (by simp [hrange, hnew])]
    rfl

end

/-! ## A full set of streams -/

section
variable {authorization : TcpAuthorization} {expectedStreams : UInt16}

variable {accepted : List Accepted} {incoming : List Incoming}

theorem acceptStreams_succ {remaining : Nat} {streamIds : List UInt32} {auth : Option TcpAuthorization}
    (h : acceptStreams expectedStreams auth (remaining + 1) streamIds incoming = some (.ok accepted)) :
    ∃ bytes later number rest others, incoming = .stream bytes :: later ∧
      admitStream expectedStreams auth streamIds bytes = (.ok number, rest) ∧
      acceptStreams expectedStreams auth remaining (streamIds ++ number.toList) later = some (.ok others) ∧
      accepted = ⟨number, rest⟩ :: others := by
  rcases incoming with _ | ⟨error | bytes, later⟩
  · cases h
  · cases h
  · rw [acceptStreams] at h
    rcases hadmitted : admitStream expectedStreams auth streamIds bytes with ⟨e | number, rest⟩
    · rw [hadmitted] at h
      cases h
    · rw [hadmitted] at h
      obtain ⟨result, hresult, hmap⟩ := Option.map_eq_some_iff.1 h
      rcases result with e | others
      · cases hmap
      · cases hmap
        exact ⟨bytes, later, number, rest, others, rfl, hadmitted, hresult, rfl⟩

/-- **The accepted numbers**: as many as were to be accepted, each below the expected count, none twice and none from
before. -/
theorem acceptStreams_ids (htag : ValidTag authorization.tag) :
    ∀ {remaining : Nat} {streamIds : List UInt32} {incoming : List Incoming} {accepted : List Accepted},
      acceptStreams expectedStreams (some authorization) remaining streamIds incoming = some (.ok accepted) →
      ∃ ids : List UInt32, accepted.map (·.streamId) = ids.map some ∧ ids.length = remaining ∧ ids.Nodup ∧
        ∀ streamId ∈ ids, streamId.toNat < expectedStreams.toNat ∧ streamId ∉ streamIds
  | 0, _, _, _, h => by
    cases h
    exact ⟨[], rfl, rfl, nodup_nil, by simp⟩
  | remaining + 1, streamIds, _, _, h => by
    obtain ⟨bytes, later, number, rest, others, rfl, hadmitted, hothers, rfl⟩ := acceptStreams_succ h
    obtain ⟨streamId, rfl, hrange, hnew, -⟩ := (admitStream_ok_iff htag).1 hadmitted
    obtain ⟨ids, hmap, hlength, hnodup, hids⟩ := acceptStreams_ids htag hothers
    have hfirst : streamId ∉ ids := fun hmem => (hids streamId hmem).2 (by simp)
    refine ⟨streamId :: ids, by rw [map_cons, map_cons, hmap], by rw [length_cons, hlength],
      nodup_cons.2 ⟨hfirst, hnodup⟩, ?_⟩
    rintro other (_ | ⟨_, hmem⟩)
    · exact ⟨hrange, hnew⟩
    · exact ⟨(hids other hmem).1, fun hbefore => (hids other hmem).2 (mem_append_left _ hbefore)⟩

/-- **The numbers of a full set of streams** are those below the expected count, each once. -/
theorem acceptStreams_perm (htag : ValidTag authorization.tag)
    (h : acceptStreams expectedStreams (some authorization) expectedStreams.toNat [] incoming = some (.ok accepted)) :
    (accepted.map (fun stream => stream.streamId.map UInt32.toNat)).Perm
      ((List.range expectedStreams.toNat).map some) := by
  obtain ⟨ids, hmap, hlength, hnodup, hids⟩ := acceptStreams_ids htag h
  have hnumbers : accepted.map (fun stream => stream.streamId.map UInt32.toNat) = (ids.map UInt32.toNat).map some := by
    rw [map_map]
    have := congrArg (List.map (Option.map UInt32.toNat)) hmap
    rwa [map_map, map_map] at this
  rw [hnumbers]
  -- as many different numbers below the count as there are, are all of them
  refine ((List.Nodup.subperm ?_ ?_).perm_of_length_le (by rw [length_range, length_map, hlength])).map some
  · exact List.Nodup.map (fun _ _ heq => UInt32.toNat_inj.1 heq) hnodup
  · simpa [subset_def] using fun streamId hmem => (hids streamId hmem).1

/-- **A sender's streams are accepted in any order**: streams with different numbers below the expected count, each a
handshake and data. -/
theorem acceptStreams_sender (htag : ValidTag authorization.tag) :
    ∀ {streams : List (UInt32 × List UInt8)} {streamIds : List UInt32}, (streams.map Prod.fst).Nodup →
      (∀ p ∈ streams, p.1.toNat < expectedStreams.toNat ∧ p.1 ∉ streamIds) →
      acceptStreams expectedStreams (some authorization) streams.length streamIds
          (streams.map (fun p => .stream (handshakeBytes authorization p.1 ++ p.2))) =
        some (.ok (streams.map (fun p => ⟨some p.1, p.2⟩)))
  | [], _, _, _ => rfl
  | (streamId, data) :: streams, streamIds, hnodup, hids => by
    rw [map_cons, nodup_cons] at hnodup
    obtain ⟨hrange, hnew⟩ := hids _ mem_cons_self
    have hadmitted :
    admitStream expectedStreams (some authorization) streamIds (handshakeBytes authorization streamId ++ data) =
        (.ok (some streamId), data) :=
      (admitStream_ok_iff htag).2 ⟨streamId, rfl, hrange, hnew, rfl⟩
    have hothers : ∀ p ∈ streams, p.1.toNat < expectedStreams.toNat ∧ p.1 ∉ streamIds ++ [streamId] := by
      intro p hp
      obtain ⟨hrange', hnew'⟩ := hids p (mem_cons_of_mem _ hp)
      refine ⟨hrange', fun hmem => ?_⟩
      rcases mem_append.1 hmem with hbefore | hself
      · exact hnew' hbefore
      · have hsame : p.1 ∈ streams.map Prod.fst := mem_map_of_mem hp
        exact hnodup.1 (mem_singleton.1 hself ▸ hsame)
    have hrest := acceptStreams_sender htag hnodup.2 hothers
    rw [map_cons, length_cons, acceptStreams, hadmitted]
    show Option.map _ (acceptStreams _ _ _ (streamIds ++ [streamId]) _) = _
    rw [hrest]
    rfl

theorem transferredBytes_ok (streams : List Accepted) (h : (streams.map (·.rest.length)).sum < 2 ^ 64) :
    transferredBytes streams = .ok (streams.map (·.rest.length)).sum := by
  unfold transferredBytes
  rw [← Nat.zero_add (List.sum _)] at h ⊢
  generalize 0 = total at h ⊢
  induction streams generalizing total with
  | nil => rfl
  | cons stream streams ih =>
    rw [map_cons, sum_cons, ← Nat.add_assoc] at h ⊢
    rw [foldlM_cons, workerBytes, if_pos (by omega)]
    simp only [Check.ok_bind, checkedAdd, if_pos (show total + stream.rest.length < 2 ^ 64 by omega)]
    exact ih _ h

/-- **A sender's data is counted, and nothing else**, in whatever order its streams connect. -/
theorem tcp_data_counted (htag : ValidTag authorization.tag) (hexpected : 1 ≤ expectedStreams ∧ expectedStreams ≤ 128)
    {streams : List (UInt32 × List UInt8)} (hlength : streams.length = expectedStreams.toNat)
    (hnodup : (streams.map Prod.fst).Nodup) (hids : ∀ p ∈ streams, p.1.toNat < expectedStreams.toNat)
    (hbytes : (streams.map (·.2.length)).sum < 2 ^ 64) (elapsed : Nat) :
    runAuthorizedTcpReceiver ⟨expectedStreams, authorization.sessionId, authorization.tag⟩
        (streams.map fun p => .stream ((writeTcpAuthorization authorization p.1 []).2 ++ p.2)) elapsed =
      some (.ok (tcpResult expectedStreams (streams.map (·.2.length)).sum elapsed)) := by
  have haccepted := acceptStreams_sender htag hnodup (fun p hp => ⟨hids p hp, not_mem_nil⟩)
  have htotal := transferredBytes_ok (streams.map fun p => ⟨some p.1, p.2⟩) (by simpa [Function.comp_def])
  rw [map_map] at htotal
  unfold runAuthorizedTcpReceiver runTcpReceiverInternal
  rw [show validateAuthorizationTag authorization.tag = .ok () from htag, if_neg (by grind), ← hlength]
  simp only [writeTcpAuthorization_eq htag, nil_append, haccepted, Option.map_some, Check.ok_bind, htotal]
  rfl

theorem tcp_data_counted_two : ∃ authorization : TcpAuthorization,
    runAuthorizedTcpReceiver ⟨2, authorization.sessionId, authorization.tag⟩
      ([(1, [7]), (0, [8, 9])].map fun p => .stream ((writeTcpAuthorization authorization p.1 []).2 ++ p.2)) 5 =
      some (.ok (tcpResult 2 3 5)) :=
  ⟨⟨.replicate 16 0, hexString (Bytes.replicate 32 0).1⟩,
    tcp_data_counted (validTag_hexString _) (by decide) rfl (by decide) (by decide) (by decide) 5⟩

end

/-- **The TCP handshake.**  A receiver takes a stream exactly when it begins with what the sender writes for this
session and tag and a number below the expected count that no stream before it had; it returns the number and has read
exactly those bytes.  The numbers of a full set of streams are all below the expected count, each once. -/
theorem tcp_handshake_exact (authorization : TcpAuthorization) (htag : ValidTag authorization.tag)
    (expectedStreams : UInt16) :
    (∀ streamIds stream streamId rest,
      admitStream expectedStreams (some authorization) streamIds stream = (.ok (some streamId), rest) ↔
        streamId.toNat < expectedStreams.toNat ∧ streamId ∉ streamIds ∧
          ∃ sent, writeTcpAuthorization authorization streamId [] = (.ok (), sent) ∧ stream = sent ++ rest) ∧
    (∀ incoming accepted,
      acceptStreams expectedStreams (some authorization) expectedStreams.toNat [] incoming = some (.ok accepted) →
      (accepted.map (fun stream => stream.streamId.map UInt32.toNat)).Perm
        ((List.range expectedStreams.toNat).map some)) := by
  refine ⟨fun streamIds stream streamId rest => ?_, fun incoming accepted => acceptStreams_perm htag⟩
  rw [admitStream_ok_iff htag]
  constructor
  · rintro ⟨_, ⟨⟩, hrange, hnew, hstream⟩
    exact ⟨hrange, hnew, _, writeTcpAuthorization_eq htag [], hstream⟩
  · rintro ⟨hrange, hnew, sent, hsent, hstream⟩
    rw [writeTcpAuthorization_eq htag] at hsent
    cases hsent
    exact ⟨streamId, rfl, hrange, hnew, hstream⟩

/-- One stream with number 0 and a byte of data after the handshake. -/
theorem tcp_handshake_exact_one_stream :
    ∃ authorization : TcpAuthorization, ValidTag authorization.tag ∧ ∃ sent, ∃ accepted,
      writeTcpAuthorization authorization 0 [] = (.ok (), sent) ∧
      admitStream 1 (some authorization) [] (sent ++ [7]) = (.ok (some 0), [7]) ∧
      acceptStreams 1 (some authorization) 1 [] [.stream (sent ++ [7])] = some (.ok accepted) ∧
      (accepted.map (fun stream => stream.streamId.map UInt32.toNat)).Perm [some 0] := by
  set authorization : TcpAuthorization := ⟨Bytes.replicate 16 0, hexString (Bytes.replicate 32 0).1⟩ with hauthorization
  have htag : ValidTag authorization.tag := validTag_hexString _
  have hsent : writeTcpAuthorization authorization 0 [] = (.ok (), handshakeBytes authorization 0) :=
    writeTcpAuthorization_eq htag []
  have hstreams : acceptStreams 1 (some authorization) 1 [] [.stream (handshakeBytes authorization 0 ++ [7])] =
      some (.ok [⟨some 0, [7]⟩]) := by
    have hnumbers : ([(0, [7])].map (Prod.fst : UInt32 × List UInt8 → UInt32)).Nodup := by simp
    exact acceptStreams_sender htag hnumbers (by simp)
  obtain ⟨hadmitted, hperm⟩ := tcp_handshake_exact authorization htag 1
  exact ⟨authorization, htag, _, _, hsent, (hadmitted [] _ 0 [7]).2 ⟨by decide, by simp, _, hsent, rfl⟩, hstreams,
    hperm _ _ hstreams⟩

end Speed
end NetTool
