import NetTool.Agent.Pairing
/-!
# Agent.Authenticate — whether every trusted node can connect

Each row of the registry was written by a valid pairing (`Registered`), so a trusted node is in the list the listener
works with, under its own text and with the fingerprint of its certificate.  All of them authenticate exactly when no
two share a key, none has the text of the zero identity, which the parser refuses, and the TLS library takes every
certificate as a root and verifies it as one.  No other key is ever accepted (`accepted_key_is_trusted`).
-/
namespace NetTool
namespace Agent

open Check Storage List Numeral

variable {crypto : Crypto} {tls : Tls} {registry result : Registry} {trusted : TrustedNodeConnection}

/-! ## Parsing the text of a Node ID -/

/-- A hexadecimal digit is one byte, no sign, and zero only as `0`. -/
theorem hexdigit_facts {c : Char} (h : isAsciiHexdigit c = true) :
    c.utf8Size = 1 ∧ c ≠ '+' ∧ digitValue c < 16 ∧ (digitValue c = 0 ↔ c = '0') ∧
      hexValue c = digitValue c := by
  have hall : ∀ n < 128, isAsciiHexdigit (Char.ofNat n) = true → (Char.ofNat n).utf8Size = 1 ∧ Char.ofNat n ≠ '+' ∧
      digitValue (Char.ofNat n) < 16 ∧ (digitValue (Char.ofNat n) = 0 ↔ Char.ofNat n = '0') ∧
      hexValue (Char.ofNat n) = digitValue (Char.ofNat n) := by
    decide
  have hlt : c.toNat < 128 := by
    unfold isAsciiHexdigit at h
    simp only [Bool.or_eq_true, Bool.and_eq_true, decide_eq_true_eq] at h
    have hle : ∀ {b : Char}, b.toNat < 128 → c ≤ b → c.toNat < 128 := fun hb hcb => Nat.lt_of_le_of_lt hcb hb
    rcases h with (⟨-, h⟩ | ⟨-, h⟩) | ⟨-, h⟩
    · exact hle (by decide) h
    · exact hle (by decide) h
    · exact hle (by decide) h
  have hfacts := hall c.toNat hlt
  rw [Char.ofNat_toNat] at hfacts
  exact hfacts h

theorem fromStrRadix_digits {c d : Char} (hc : isAsciiHexdigit c = true) (hd : isAsciiHexdigit d = true) :
    fromStrRadix 16 256 [c, d] = some (16 * digitValue c + digitValue d) := by
  obtain ⟨-, hplus, hcv, -⟩ := hexdigit_facts hc
  obtain ⟨-, -, hdv, -⟩ := hexdigit_facts hd
  have hdigits : readDigits 16 [c, d] = ([digitValue c, digitValue d], []) := by
    simp [readDigits, toDigit, hcv, hdv]
  have hsign : ¬ [c, d].head? = some '+' := by simpa using hplus
  have hnumber : value 16 [digitValue c, digitValue d]
      = 16 * digitValue c + digitValue d := by
    simp only [value, foldl_cons, foldl_nil]
    omega
  simp only [fromStrRadix, if_neg hsign, hdigits, hnumber]
  rw [if_neg (by simp; omega)]

/-- The bytes of an even number of digits; they are zero only when all digits are. -/
theorem mapM_parseByte : ∀ (n : Nat) (digits : List Char), digits.length = 2 * n →
    (∀ c ∈ digits, isAsciiHexdigit c = true) →
    ∃ bytes, (chunksExact (digits.flatMap String.utf8EncodeChar)).mapM parseByte = .ok bytes ∧
      (bytes = List.replicate n 0 ↔ digits = List.replicate (2 * n) '0')
  | 0, digits, hlength, _ => by
    rw [length_eq_zero_iff.1 hlength]
    exact ⟨[], rfl, by simp⟩
  | n + 1, c :: d :: rest, hlength, hall => by
    have hc := hall c (by simp)
    have hd := hall d (by simp)
    obtain ⟨hcsize, -, hcv, hczero, -⟩ := hexdigit_facts hc
    obtain ⟨hdsize, -, hdv, hdzero, -⟩ := hexdigit_facts hd
    obtain ⟨bytes, hbytes, hzero⟩ := mapM_parseByte n rest (by simp at hlength; omega)
      (fun x hx => hall x (by simp [hx]))
    have hpair : asBytes (String.ofList [c, d]) = [c.val.toUInt8, d.val.toUInt8] := by
      rw [asBytes_ofList]
      simp [String.utf8EncodeChar_eq_singleton hcsize, String.utf8EncodeChar_eq_singleton hdsize]
    have hchunks : chunksExact ((c :: d :: rest).flatMap String.utf8EncodeChar)
        = asBytes (String.ofList [c, d]) :: chunksExact (rest.flatMap String.utf8EncodeChar) := by
      rw [hpair]
      simp [String.utf8EncodeChar_eq_singleton hcsize, String.utf8EncodeChar_eq_singleton hdsize, chunksExact]
    have hbyte : parseByte (asBytes (String.ofList [c, d])) = .ok (.ofNat (16 * digitValue c + digitValue d)) := by
      unfold parseByte
      simp only [fromUtf8_asBytes, String.toList_ofList, fromStrRadix_digits hc hd]
    refine ⟨_, by rw [hchunks, mapM_cons, hbyte, hbytes]; rfl, ?_⟩
    have hbyte : UInt8.ofNat (16 * digitValue c + digitValue d) = 0 ↔ c = '0' ∧ d = '0' := by
      rw [← hczero, ← hdzero, ← UInt8.toNat_inj, UInt8.toNat_ofNat_of_lt' (by show _ < 256; omega)]
      show _ = 0 ↔ _
      omega
    have htwo : 2 * (n + 1) = 2 * n + 1 + 1 := by omega
    rw [htwo, replicate_succ, replicate_succ, replicate_succ, List.cons.injEq, List.cons.injEq, List.cons.injEq,
      hbyte, hzero, and_assoc]

def zeroNodeId : String := String.ofList (List.replicate 32 '0')

/-- **The text of a Node ID is parsed unless it is the zero identity's.** -/
theorem parseNodeId_ok_iff {nodeId : String} (h : isNodeIdText nodeId) :
    (∃ identity, parseNodeId nodeId = .ok identity) ↔ nodeId ≠ zeroNodeId := by
  obtain ⟨hsize, hdigits⟩ := h
  rw [all_eq_true] at hdigits
  have hutf8 : ∀ l : List Char, (∀ c ∈ l, isAsciiHexdigit c = true) → String.utf8Len l = l.length := by
    intro l hl
    induction l with
    | nil => rfl
    | cons c l ih =>
      rw [String.utf8Len_cons, ih (fun x hx => hl x (mem_cons_of_mem _ hx)), (hexdigit_facts (hl c mem_cons_self)).1,
        length_cons]
  have hlength : nodeId.toList.length = 2 * 16 := by
    rw [← hutf8 _ hdigits, ← String.utf8ByteSize_ofList, String.ofList_toList, hsize]
  obtain ⟨bytes, hbytes, hzero⟩ := mapM_parseByte 16 nodeId.toList hlength hdigits
  rw [← asBytes_ofList, String.ofList_toList] at hbytes
  have htext : nodeId = zeroNodeId ↔ nodeId.toList = List.replicate (2 * 16) '0' := by
    unfold zeroNodeId
    constructor
    · rintro rfl
      exact String.toList_ofList
    · intro hlist
      rw [← String.ofList_toList (s := nodeId), hlist]
  unfold parseNodeId
  rw [if_neg (not_not.2 hsize), hbytes, ok_bind, Ne, htext, ← hzero]
  split
  · rename_i hall
    exact ⟨fun ⟨_, hok⟩ => (by cases hok), fun hne => absurd hall hne⟩
  · rename_i hne
    exact ⟨fun _ => hne, fun _ => ⟨bytes, rfl⟩⟩

/-! ## What the registry holds -/

/-- Every row was written by a valid pairing; a revocation changes its status only. -/
def Registered (crypto : Crypto) (registry : Registry) : Prop :=
  ∀ id row, registry.nodeTrust.lookup id = some row → ∃ trusted, validateTrustedConnection crypto trusted = .ok () ∧
    trusted.nodeId = id ∧ row = { trustRow trusted with trustStatus := row.trustStatus } ∧
    ∃ node, registry.node.lookup id = some node

theorem Registered.step {c : TrustCall} (h : Registered crypto registry)
    (hcall : trustCall crypto registry c = .ok result) : Registered crypto result := by
  intro id row hrow
  cases c with
  | pair trusted =>
    obtain ⟨hvalid, -, rfl⟩ := trustNodeConnection_ok hcall
    have hnode : (writeTrust registry trusted).node.lookup id
        = if id = trusted.nodeId then some ⟨trusted.name, some trusted.controlAddress⟩ else registry.node.lookup id :=
      Table.lookup_put ..
    rw [lookup_writeTrust] at hrow
    rw [hnode]
    split at hrow
    · rename_i heq
      cases hrow
      exact ⟨trusted, hvalid, heq.symm, rfl, _, if_pos heq⟩
    · rename_i hne
      obtain ⟨other, hother, hid, hwritten, node, hnode⟩ := h id row hrow
      exact ⟨other, hother, hid, hwritten, node, by rw [if_neg hne, hnode]⟩
  | revoke idOrName =>
    obtain ⟨hnode, hkept⟩ := revokeTrustedNode_ok hcall
    obtain ⟨old, hold, hrow, -⟩ := hkept id row hrow
    obtain ⟨other, hother, hid, hwritten, hnodes⟩ := h id old hold
    rw [hnode]
    refine ⟨other, hother, hid, ?_, hnodes⟩
    rw [hrow, hwritten]

theorem Registered.of_paired {ok : Registry → TrustCall → Prop} (h : PairedBy crypto ok registry) :
    Registered crypto registry :=
  h.invariant (fun _ _ hrow => by cases hrow) fun hregistered hcall _ => hregistered.step hcall

/-- What the list says of a trusted row: what the pairing wrote. -/
structure Listed (crypto : Crypto) (id : String) (row : TrustRow) (node : TrustedNodeSummary) : Prop where
  id_eq : node.id = id
  fingerprint : node.fingerprint = row.fingerprint
  certificate : row.certificateDer = some node.certificateDer
  text : isNodeIdText id
  presents : ∃ presented, certificatePublicKeyFingerprint crypto node.certificateDer = .ok presented ∧
    eqIgnoreAsciiCase presented node.fingerprint = true

/-- The row of a node that is trusted. -/
structure Trusts (registry : Registry) (id : String) (row : TrustRow) : Prop where
  found : registry.nodeTrust.lookup id = some row
  status : row.trustStatus = .trusted

variable {id : String} {row : TrustRow} {node : TrustedNodeSummary} {peers : List TrustedNodeSummary}

theorem Registered.trustedNode (h : Registered crypto registry) (htrusted : Trusts registry id row) :
    ∃ node, trustedNode registry id row = some node ∧ Listed crypto id row node := by
  obtain ⟨trusted, hvalid, hid, hwritten, node, hnode⟩ := h id row htrusted.found
  unfold validateTrustedConnection at hvalid
  simp only [guard_ok, bind_ok, Bool.not_eq_false, not_not] at hvalid
  obtain ⟨-, hnodeId, -, -, -, presented, hpresented, hsame, -⟩ := hvalid
  refine ⟨⟨id, node.name, node.lastAddress, trusted.fingerprint, trusted.certificateDer, trusted.serverName,
    trusted.controlAddress⟩, ?_, rfl, by rw [hwritten]; rfl, by rw [hwritten]; rfl, hid ▸ hnodeId, presented, ?_, hsame⟩
  · unfold Storage.trustedNode
    rw [if_pos htrusted.status, hnode, hwritten]
    rfl
  · show certificatePublicKeyFingerprint crypto trusted.certificateDer = _
    unfold publicKeyFingerprint keyFingerprint at hpresented
    unfold certificatePublicKeyFingerprint keyFingerprint
    split at hpresented
    · cases hpresented
    · rw [guard_ok] at hpresented
      exact (if_neg hpresented.1).trans hpresented.2

theorem trusted_of_trustedNode (h : Storage.trustedNode registry id row = some node) : row.trustStatus = .trusted := by
  unfold Storage.trustedNode at h
  split at h
  · assumption
  · cases h

theorem mem_listTrustedNodes :
    node ∈ listTrustedNodes registry ↔
      ∃ id row, registry.nodeTrust.lookup id = some row ∧ Storage.trustedNode registry id row = some node := by
  unfold listTrustedNodes
  rw [mem_mergeSort, Table.mem_select]

theorem Registered.listed (h : Registered crypto registry) (htrusted : Trusts registry id row) :
    ∃ node, node ∈ listTrustedNodes registry ∧ Listed crypto id row node := by
  obtain ⟨node, hnode, hlisted⟩ := h.trustedNode htrusted
  exact ⟨node, mem_listTrustedNodes.2 ⟨id, row, htrusted.found, hnode⟩, hlisted⟩

theorem Registered.of_mem (h : Registered crypto registry) (hmem : node ∈ listTrustedNodes registry) :
    ∃ row, Trusts registry node.id row ∧ Listed crypto node.id row node := by
  obtain ⟨id, row, hrow, hnode⟩ := mem_listTrustedNodes.1 hmem
  have htrusted : Trusts registry id row := ⟨hrow, trusted_of_trustedNode hnode⟩
  obtain ⟨listed, hselected, hlisted⟩ := h.trustedNode htrusted
  rw [hnode] at hselected
  cases hselected
  rw [hlisted.id_eq]
  exact ⟨row, htrusted, hlisted⟩

/-! ## The checks of the listener -/

theorem validateTrustedPeers_ok_iff :
    validateTrustedPeers peers = .ok () ↔
      ∀ peer ∈ peers, ∀ other ∈ peers, eqIgnoreAsciiCase other.fingerprint peer.fingerprint = true →
        other.id = peer.id := by
  -- The check looks at later peers only; what it asks of two peers does not depend on their order.
  have hpairs : validateTrustedPeers peers = .ok () ↔
      peers.Pairwise (fun peer other => eqIgnoreAsciiCase other.fingerprint peer.fingerprint = true →
        other.id = peer.id) := by
    induction peers with
    | nil => exact ⟨fun _ => .nil, fun _ => rfl⟩
    | cons peer rest ih =>
      unfold validateTrustedPeers
      rw [guard_ok, ih, pairwise_cons]
      simp only [any_eq_true, Bool.and_eq_true, bne_iff_ne, not_exists, not_and, not_not]
  have hsymm : Std.Symm (fun peer other : TrustedNodeSummary =>
      eqIgnoreAsciiCase other.fingerprint peer.fingerprint = true → other.id = peer.id) :=
    ⟨fun _ _ hab hba => (hab (eqIgnoreAsciiCase_symm hba)).symm⟩
  rw [hpairs]
  constructor
  · intro h peer hpeer other hother
    exact List.Pairwise.forall_of_forall (fun _ _ _ => rfl) h hpeer hother
  · intro h
    exact List.Pairwise.imp_of_mem (fun hpeer hother _ => h _ hpeer _ hother)
      (pairwise_of_forall (R := fun _ _ => True) (fun _ _ => trivial))

theorem addRoots_ok_iff : addRoots tls peers = .ok () ↔ ∀ peer ∈ peers, tls.addRoot peer.certificateDer = .ok () := by
  induction peers with
  | nil => exact ⟨fun _ peer hmem => absurd hmem not_mem_nil, fun _ => rfl⟩
  | cons peer rest ih =>
    unfold addRoots
    rw [bind_ok, forall_mem_cons]
    simp only [mapError_ok, ih]
    exact ⟨fun ⟨_, hadd, hrest⟩ => ⟨hadd, hrest⟩, fun ⟨hadd, hrest⟩ => ⟨(), hadd, hrest⟩⟩

/-! ## Fingerprints name one node -/

theorem hexDigitUpper_not_whitespace {n : Nat} (h : n < 16) : isWhitespace (hexDigitUpper n) = false := by
  revert n
  decide

theorem presented_not_blank {certificate : List UInt8} {presented : String}
    (h : certificatePublicKeyFingerprint crypto certificate = .ok presented) : trimIsEmpty presented = false := by
  unfold certificatePublicKeyFingerprint keyFingerprint at h
  split at h
  · cases h
  · rename_i remaining publicKey hparse
    rw [guard_ok] at h
    cases h.2
    -- The text starts with a digit, because a digest has 32 bytes.
    have hlength := (crypto.sha256 publicKey).2
    unfold fingerprintSha256 trimIsEmpty
    cases hdigest : (crypto.sha256 publicKey).val with
    | nil =>
      rw [hdigest] at hlength
      cases hlength
    | cons b rest =>
      have hdigit := hexDigitUpper_not_whitespace (n := b.toNat / 16) (by have := b.toNat_lt; omega)
      cases rest <;> simp [List.intercalate, hexByteUpper, hdigit]

theorem Registered.resolve (h : Registered crypto registry) {fingerprint : String} (htrusted : Trusts registry id row)
    (hkey : eqIgnoreAsciiCase row.fingerprint fingerprint = true) (hblank : trimIsEmpty fingerprint = false)
    (honly : ∀ id' row', Trusts registry id' row' → eqIgnoreAsciiCase row'.fingerprint fingerprint = true → id' = id) :
    ∃ node, resolveTrustedNodeByFingerprint registry fingerprint = .ok (some node) ∧ node.id = id := by
  obtain ⟨node, hnode, hlisted⟩ := h.trustedNode htrusted
  have hselect : (Table.select (Storage.trustedNode registry) registry.nodeTrust).filter
      (fun node => eqIgnoreAsciiCase node.fingerprint fingerprint) = [node] := by
    unfold Table.select
    rw [filter_filterMap]
    refine Table.select_eq_singleton (f := fun id row => (Storage.trustedNode registry id row).filter _) htrusted.found
      ?_ ?_
    · rw [hnode]
      exact Option.filter_some_pos (by rw [hlisted.fingerprint, hkey])
    · intro id' row' hrow' hne
      refine Option.filter_eq_none_iff.2 (fun other hother hsame => hne ?_)
      have htrusted' : Trusts registry id' row' := ⟨hrow', trusted_of_trustedNode hother⟩
      obtain ⟨listed, hselected, hlisted'⟩ := h.trustedNode htrusted'
      rw [hother] at hselected
      cases hselected
      exact honly id' row' htrusted' (by rw [← hlisted'.fingerprint, hsame])
  have hfound :
    (listTrustedNodes registry).filter (fun node => eqIgnoreAsciiCase node.fingerprint fingerprint) = [node] := by
    have hperm := (mergeSort_perm (Table.select (Storage.trustedNode registry) registry.nodeTrust)
      (fun a b => decide (a.id ≤ b.id))).filter (fun node => eqIgnoreAsciiCase node.fingerprint fingerprint)
    rw [hselect] at hperm
    exact perm_singleton.1 hperm
  refine ⟨node, ?_, hlisted.id_eq⟩
  unfold resolveTrustedNodeByFingerprint
  simp only [hfound, hblank]
  rfl

/-! ## Authentication -/

/-- Every trusted node that presents its certificate is accepted and resolved to its own identity. -/
def AllAuthenticate (crypto : Crypto) (tls : Tls) (registry : Registry) : Prop :=
  ∀ id row, Trusts registry id row →
    ∃ certificate identity presented node, row.certificateDer = some certificate ∧ parseNodeId id = .ok identity ∧
      acceptNodeConnection crypto tls registry certificate = .ok identity ∧
      certificatePublicKeyFingerprint crypto certificate = .ok presented ∧
      resolveTrustedNodeByFingerprint registry presented = .ok (some node) ∧ node.id = id

/-- No two trusted nodes share a key, none has the text of the zero identity, and each certificate can be a root and
verifies as one. -/
structure Serviceable (tls : Tls) (registry : Registry) : Prop where
  nonzero : ∀ id row, Trusts registry id row → id ≠ zeroNodeId
  roots : ∀ id row certificate, Trusts registry id row → row.certificateDer = some certificate →
    tls.addRoot certificate = .ok () ∧ tls.VerifiesItself certificate
  distinct : ∀ id row id' row', Trusts registry id row → Trusts registry id' row' →
    eqIgnoreAsciiCase row'.fingerprint row.fingerprint = true → id' = id

theorem acceptNodeConnection_ok {certificate identity : List UInt8}
    (h : acceptNodeConnection crypto tls registry certificate = .ok identity) :
    validateTrustedPeers (listTrustedNodes registry) = .ok () ∧ addRoots tls (listTrustedNodes registry) = .ok () := by
  unfold acceptNodeConnection at h
  simp only [bind_ok, guard_ok] at h
  obtain ⟨_, hvalidate, -, _, hroots, -⟩ := h
  exact ⟨hvalidate, hroots⟩

section
variable (h : Registered crypto registry)
include h

theorem Registered.serviceable (hall : AllAuthenticate crypto tls registry)
    (hverified : ∀ id row certificate, Trusts registry id row → row.certificateDer = some certificate →
      tls.VerifiesItself certificate) : Serviceable tls registry where
  nonzero := by
    intro id row htrusted
    obtain ⟨_, identity, _, _, -, hparse, -⟩ := hall id row htrusted
    obtain ⟨_, -, hlisted⟩ := h.listed htrusted
    exact (parseNodeId_ok_iff hlisted.text).1 ⟨identity, hparse⟩
  roots := by
    intro id row certificate htrusted hcertificate
    obtain ⟨_, _, _, _, -, -, haccept, -⟩ := hall id row htrusted
    obtain ⟨node, hmem, hlisted⟩ := h.listed htrusted
    have hroot := addRoots_ok_iff.1 (acceptNodeConnection_ok haccept).2 node hmem
    have hsame := hlisted.certificate
    rw [hcertificate] at hsame
    cases hsame
    exact ⟨hroot, hverified id row _ htrusted hcertificate⟩
  distinct := by
    intro id row id' row' htrusted htrusted' hsame
    obtain ⟨_, _, _, _, -, -, haccept, -⟩ := hall id row htrusted
    obtain ⟨node, hmem, hlisted⟩ := h.listed htrusted
    obtain ⟨node', hmem', hlisted'⟩ := h.listed htrusted'
    have hid := validateTrustedPeers_ok_iff.1 (acceptNodeConnection_ok haccept).1 node hmem node' hmem'
      (by rw [hlisted.fingerprint, hlisted'.fingerprint, hsame])
    rw [hlisted.id_eq, hlisted'.id_eq] at hid
    exact hid

/-- The peer that is found for a presented key is the node of the one row that holds it. -/
theorem Registered.findPeer (hserviceable : Serviceable tls registry) {presented : String}
    (htrusted : Trusts registry id row) (hkey : eqIgnoreAsciiCase row.fingerprint presented = true) :
    ∃ peer, findPeer (listTrustedNodes registry) presented = .ok peer ∧ peer.id = id := by
  obtain ⟨node, hmem, hlisted⟩ := h.listed htrusted
  unfold Agent.findPeer
  cases hfind : (listTrustedNodes registry).find? (fun peer => eqIgnoreAsciiCase peer.fingerprint presented) with
  | none =>
    have hnone := List.find?_eq_none.1 hfind node hmem
    rw [hlisted.fingerprint] at hnone
    exact absurd hkey hnone
  | some peer =>
    obtain ⟨row', htrusted', hlisted'⟩ := h.of_mem (mem_of_find?_eq_some hfind)
    have hpeer := List.find?_some hfind
    rw [hlisted'.fingerprint] at hpeer
    exact ⟨peer, rfl, hserviceable.distinct id row peer.id row' htrusted htrusted'
      (eqIgnoreAsciiCase_trans hpeer (eqIgnoreAsciiCase_symm hkey))⟩

theorem Serviceable.accepted (hserviceable : Serviceable tls registry) (htrusted : Trusts registry id row) :
    ∃ certificate identity presented, row.certificateDer = some certificate ∧ parseNodeId id = .ok identity ∧
      certificatePublicKeyFingerprint crypto certificate = .ok presented ∧
      eqIgnoreAsciiCase row.fingerprint presented = true ∧
      acceptNodeConnection crypto tls registry certificate = .ok identity := by
  obtain ⟨node, hmem, hlisted⟩ := h.listed htrusted
  obtain ⟨identity, hidentity⟩ := (parseNodeId_ok_iff hlisted.text).2 (hserviceable.nonzero id row htrusted)
  obtain ⟨presented, hpresented, hsame⟩ := hlisted.presents
  have hkey : eqIgnoreAsciiCase row.fingerprint presented = true := by
    rw [← hlisted.fingerprint]
    exact eqIgnoreAsciiCase_symm hsame
  refine ⟨node.certificateDer, identity, presented, hlisted.certificate, hidentity, hpresented, hkey, ?_⟩
  have hvalidate : validateTrustedPeers (listTrustedNodes registry) = .ok () := by
    refine validateTrustedPeers_ok_iff.2 (fun peer hpeer other hother hsame => ?_)
    obtain ⟨row, htrusted, hlisted⟩ := h.of_mem hpeer
    obtain ⟨row', htrusted', hlisted'⟩ := h.of_mem hother
    rw [hlisted.fingerprint, hlisted'.fingerprint] at hsame
    exact hserviceable.distinct peer.id row other.id row' htrusted htrusted' hsame
  have hroots : addRoots tls (listTrustedNodes registry) = .ok () := by
    refine addRoots_ok_iff.2 (fun peer hpeer => ?_)
    obtain ⟨row, htrusted, hlisted⟩ := h.of_mem hpeer
    exact (hserviceable.roots peer.id row peer.certificateDer htrusted hlisted.certificate).1
  have hhandshake := (hserviceable.roots id row node.certificateDer htrusted hlisted.certificate).2
    ((listTrustedNodes registry).map (·.certificateDer)) (mem_map_of_mem hmem)
  obtain ⟨peer, hpeer, hid⟩ := h.findPeer hserviceable htrusted hkey
  unfold acceptNodeConnection handleNodeConnection
  simp only [hvalidate, hroots, hhandshake, hpresented, hpeer, hid, hidentity, ok_bind, Except.mapError]
  rw [if_neg (ne_nil_of_mem hmem)]

/-- **Every trusted node of a table that can be served authenticates.** -/
theorem Registered.allAuthenticate (hserviceable : Serviceable tls registry) : AllAuthenticate crypto tls registry := by
  intro id row htrusted
  obtain ⟨certificate, identity, presented, hcertificate, hidentity, hpresented, hkey, haccept⟩ :=
    hserviceable.accepted h htrusted
  obtain ⟨node, hnode, hid⟩ := h.resolve htrusted hkey (presented_not_blank hpresented)
    (fun id' row' htrusted' hkey' => hserviceable.distinct id row id' row' htrusted htrusted'
      (eqIgnoreAsciiCase_trans hkey' (eqIgnoreAsciiCase_symm hkey)))
  exact ⟨certificate, identity, presented, node, hcertificate, hidentity, haccept, hpresented, hnode, hid⟩

end

/-! ## Over runs -/

/-- The node has an identity that is not zero, a certificate that can be a root and verifies as one, and a key no other
trusted node has. -/
def Admissible (tls : Tls) (registry : Registry) : TrustCall → Prop
  | .pair trusted => trusted.nodeId ≠ zeroNodeId ∧
      (tls.addRoot trusted.certificateDer = .ok () ∧ tls.VerifiesItself trusted.certificateDer) ∧
      ∀ id row, Trusts registry id row → id ≠ trusted.nodeId →
        eqIgnoreAsciiCase row.fingerprint trusted.fingerprint = false
  | .revoke _ => True

section
variable {c : TrustCall} (h : Serviceable tls registry) (hcall : trustCall crypto registry c = .ok result)
include h hcall

theorem Serviceable.step_iff : Serviceable tls result ↔ Admissible tls registry c := by
  constructor
  · intro hserviceable
    cases c with
    | revoke idOrName => trivial
    | pair trusted =>
      obtain ⟨-, -, rfl⟩ := trustNodeConnection_ok hcall
      have hnew : Trusts (writeTrust registry trusted) trusted.nodeId (trustRow trusted) :=
        ⟨by rw [lookup_writeTrust, if_pos rfl], rfl⟩
      refine ⟨hserviceable.nonzero _ _ hnew, hserviceable.roots _ _ _ hnew rfl,
        fun id row htrusted hne => ?_⟩
      by_contra hsame
      rw [Bool.not_eq_false] at hsame
      exact hne (hserviceable.distinct _ _ id row hnew
        ⟨by rw [lookup_writeTrust, if_neg hne, htrusted.found], htrusted.status⟩ hsame)
  · intro hadmissible
    refine ⟨fun id row htrusted => ?_, fun id row certificate htrusted hcertificate => ?_,
      fun id row id' row' htrusted htrusted' hsame => ?_⟩
    · rcases row_after hcall htrusted.found with ⟨trusted, rfl, rfl, -⟩ | ⟨-, old, hold, -, hunchanged⟩
      · exact hadmissible.1
      · exact h.nonzero id row ⟨hunchanged htrusted.status ▸ hold, htrusted.status⟩
    · rcases row_after hcall htrusted.found with ⟨trusted, rfl, -, rfl⟩ | ⟨-, old, hold, -, hunchanged⟩
      · cases hcertificate
        exact hadmissible.2.1
      · exact h.roots id row certificate ⟨hunchanged htrusted.status ▸ hold, htrusted.status⟩ hcertificate
    · rcases row_after hcall htrusted.found with ⟨trusted, rfl, rfl, rfl⟩ | ⟨hne, old, hold, -, hunchanged⟩ <;>
        rcases row_after hcall htrusted'.found with ⟨trusted', hpair, rfl, rfl⟩ | ⟨hne', old', hold', -, hunchanged'⟩
      · cases hpair
        rfl
      · have hother := hadmissible.2.2 id' row' ⟨hunchanged' htrusted'.status ▸ hold', htrusted'.status⟩
          (hne' trusted rfl)
        exact absurd (hsame.symm.trans hother) (by decide)
      · subst hpair
        have hother := hadmissible.2.2 id row ⟨hunchanged htrusted.status ▸ hold, htrusted.status⟩ (hne trusted' rfl)
        exact absurd ((eqIgnoreAsciiCase_symm hsame).symm.trans hother) (by decide)
      · exact h.distinct id row id' row' ⟨hunchanged htrusted.status ▸ hold, htrusted.status⟩
          ⟨hunchanged' htrusted'.status ▸ hold', htrusted'.status⟩ hsame

end

theorem Serviceable.of_paired (h : PairedBy crypto (Admissible tls) registry) : Serviceable tls registry :=
  h.invariant ⟨fun _ _ h => (by cases h.found), fun _ _ _ h => (by cases h.found), fun _ _ _ _ h => (by cases h.found)⟩
    fun hserviceable hcall hadmissible => (hserviceable.step_iff hcall).2 hadmissible

/-- **In every registry that admissible pairings and revocations reach, every trusted node authenticates**, and the next
successful call, unless it pairs a certificate that does not verify as its own root, keeps it so exactly when it is
admissible too. -/
theorem every_trusted_node_authenticates_iff {c : TrustCall} (h : PairedBy crypto (Admissible tls) registry)
    (hcall : trustCall crypto registry c = .ok result)
    (hverifies : ∀ trusted, c = .pair trusted → tls.VerifiesItself trusted.certificateDer) :
    AllAuthenticate crypto tls registry ∧ (AllAuthenticate crypto tls result ↔ Admissible tls registry c) := by
  have hregistered := Registered.of_paired h
  have hserviceable := Serviceable.of_paired h
  refine ⟨hregistered.allAuthenticate hserviceable, ?_⟩
  rw [← hserviceable.step_iff hcall]
  refine ⟨fun hall => (hregistered.step hcall).serviceable hall ?_, (hregistered.step hcall).allAuthenticate⟩
  intro id row certificate htrusted hcertificate
  rcases row_after hcall htrusted.found with ⟨trusted, hpair, -, rfl⟩ | ⟨-, old, hold, -, hunchanged⟩
  · cases hcertificate
    exact hverifies trusted hpair
  · exact (hserviceable.roots id row certificate ⟨hunchanged htrusted.status ▸ hold, htrusted.status⟩ hcertificate).2

/-- A library that takes every certificate as a root and accepts the roots. -/
def plainTls : Tls where
  addRoot _ := .ok ()
  accept roots certificate := if certificate ∈ roots then .ok () else .error "unknown issuer"

theorem plainTls_verifiesItself (certificate : List UInt8) : plainTls.VerifiesItself certificate :=
  fun _ hmem => if_pos hmem

def otherId : String := "0123456789abcdef0123456789abcdef"

theorem lower_paired : PairedBy plainCrypto (Admissible plainTls) (onePaired lowerId 1) :=
  pairedBy_onePaired (by decide) ⟨by decide, ⟨rfl, plainTls_verifiesItself _⟩, fun _ _ h => (by cases h.found)⟩

theorem pair_other (key : UInt8) : trustCall plainCrypto (onePaired lowerId 1) (.pair (pairing otherId key))
    = .ok (writeTrust (onePaired lowerId 1) (pairing otherId key)) :=
  trustNodeConnection_of_valid (valid_pairing (by decide) key) rfl

/-- A second node with its own key. -/
theorem every_trusted_node_authenticates_sample :
    PairedBy plainCrypto (Admissible plainTls) (onePaired lowerId 1) ∧
    AllAuthenticate plainCrypto plainTls (writeTrust (onePaired lowerId 1) (pairing otherId 2)) := by
  refine ⟨lower_paired, (every_trusted_node_authenticates_iff lower_paired (pair_other 2)
    fun _ _ => plainTls_verifiesItself _).2.2 ⟨by decide, ⟨rfl, plainTls_verifiesItself _⟩, ?_⟩⟩
  intro id row htrusted _
  rw [(lookup_onePaired htrusted.found).2, Bool.eq_false_iff]
  exact keys_differ

/-- **A connection is accepted only for the key of a trusted node**, and gets the identity of that node. -/
theorem accepted_key_is_trusted {ok : Registry → TrustCall → Prop} (h : PairedBy crypto ok registry)
    {certificate identity : List UInt8} (haccept : acceptNodeConnection crypto tls registry certificate =
      .ok identity) :
    ∃ id row presented, registry.nodeTrust.lookup id = some row ∧ row.trustStatus = .trusted ∧
      parseNodeId id = .ok identity ∧ certificatePublicKeyFingerprint crypto certificate = .ok presented ∧
      eqIgnoreAsciiCase row.fingerprint presented = true := by
  unfold acceptNodeConnection handleNodeConnection Agent.findPeer at haccept
  simp only [bind_ok, guard_ok, mapError_ok] at haccept
  obtain ⟨_, -, -, _, -, _, -, presented, hpresented, peer, hfound, hparse⟩ := haccept
  split at hfound
  · rename_i hfind
    cases hfound
    obtain ⟨row, htrusted, hlisted⟩ := (Registered.of_paired h).of_mem (mem_of_find?_eq_some hfind)
    have hkey := List.find?_some hfind
    rw [hlisted.fingerprint] at hkey
    exact ⟨peer.id, row, presented, htrusted.found, htrusted.status, hparse, hpresented, hkey⟩
  · cases hfound

theorem accepted_key_is_trusted_sample : ∃ certificate identity,
    acceptNodeConnection plainCrypto plainTls (onePaired lowerId 1) certificate = .ok identity ∧
      parseNodeId lowerId = .ok identity := by
  obtain ⟨certificate, identity, _, -, -, -, -, haccept⟩ := (Serviceable.of_paired lower_paired).accepted
    (Registered.of_paired lower_paired) ⟨show (onePaired lowerId 1).nodeTrust.lookup lowerId = _ from rfl, rfl⟩
  obtain ⟨id, row, _, hrow, -, hparse, -⟩ := accepted_key_is_trusted lower_paired haccept
  obtain ⟨rfl, -⟩ := lookup_onePaired hrow
  exact ⟨certificate, identity, haccept, hparse⟩

/-- A second node is paired with the key of the first: from then on no connection is accepted. -/
theorem shared_key_closes_the_listener :
    PairedBy plainCrypto (Admissible plainTls) (onePaired lowerId 1) ∧
    trustNodeConnection plainCrypto (onePaired lowerId 1) (pairing otherId 1)
      = .ok (writeTrust (onePaired lowerId 1) (pairing otherId 1)) ∧
    ∀ certificate identity, acceptNodeConnection plainCrypto plainTls
      (writeTrust (onePaired lowerId 1) (pairing otherId 1)) certificate ≠ .ok identity := by
  refine ⟨lower_paired, pair_other 1, fun certificate identity haccept => ?_⟩
  have hregistered := (Registered.of_paired lower_paired).step (pair_other 1)
  have hfirst : Trusts (writeTrust (onePaired lowerId 1) (pairing otherId 1)) lowerId _ := ⟨rfl, rfl⟩
  have hsecond : Trusts (writeTrust (onePaired lowerId 1) (pairing otherId 1)) otherId _ := ⟨rfl, rfl⟩
  obtain ⟨node, hmem, hlisted⟩ := hregistered.listed hfirst
  obtain ⟨node', hmem', hlisted'⟩ := hregistered.listed hsecond
  have hid := validateTrustedPeers_ok_iff.1 (acceptNodeConnection_ok haccept).1 node hmem node' hmem'
    (by rw [hlisted.fingerprint, hlisted'.fingerprint]; exact eqIgnoreAsciiCase_refl _)
  rw [hlisted.id_eq, hlisted'.id_eq] at hid
  exact absurd hid (by decide)

end Agent
end NetTool
