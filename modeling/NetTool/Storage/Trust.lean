import NetTool.Address
import NetTool.Storage.Profiles
/-!
# Storage.Trust — the registry of paired nodes (`crates/storage`)

A pairing writes a row of `node` and a row of `node_trust` under the text of the Node ID; a revocation keeps both rows
and marks the second.  `validate_trusted_connection` checks the request, and a key other than the one stored under the
same text needs a confirmation.  X.509 and SHA-256 are given by a `Crypto`.
-/
namespace NetTool
namespace Storage

/-! ## Requests and rows -/

structure TrustedNodeConnection where
  nodeId : String
  name : String
  controlAddress : String
  serverName : String
  certificateDer : List UInt8
  fingerprint : String
  outOfBandFingerprintConfirmed : Bool
  identityChangeConfirmed : Bool

/-- `x509_parser` and SHA-256: the bytes after a certificate, with its public key; and a digest. -/
structure Crypto where
  parseX509Certificate : List UInt8 → Except String (List UInt8 × List UInt8)
  sha256 : List UInt8 → Bytes 32

/-- A row of `node` but for its key. -/
structure NodeRow where
  name : String
  lastAddress : Option String

inductive TrustStatus
  | trusted | revoked
  deriving DecidableEq

/-- A row of `node_trust` but for its key.  The last three columns came with a migration and may be null. -/
structure TrustRow where
  fingerprint : String
  trustStatus : TrustStatus
  certificateDer : Option (List UInt8)
  serverName : Option String
  controlAddress : Option String

structure Registry where
  node : Table String NodeRow
  nodeTrust : Table String TrustRow

structure TrustedNodeSummary where
  id : String
  name : String
  lastAddress : Option String
  fingerprint : String
  certificateDer : List UInt8
  serverName : String
  controlAddress : String

/-! ## Fingerprints -/

def hexDigitUpper (n : Nat) : Char := Char.ofNat (if n < 10 then 48 + n else 55 + n)

/-- `{byte:02X}`. -/
def hexByteUpper (b : UInt8) : List Char := [hexDigitUpper (b.toNat / 16), hexDigitUpper (b.toNat % 16)]

/-- The digest's bytes, between colons. -/
def fingerprintSha256 (crypto : Crypto) (publicKey : List UInt8) : String :=
  String.ofList ([':'].intercalate ((crypto.sha256 publicKey).val.map hexByteUpper))

def tlsError (message : String) : NetToolError := .new .nodeTlsFailed message false

/-- The fingerprint of a certificate's key; the storage and the Node crate differ in the texts of their errors. -/
def keyFingerprint (crypto : Crypto) (parseText trailingText : String) (certificateDer : List UInt8) : Result String :=
  match crypto.parseX509Certificate certificateDer with
  | .error error => .error (tlsError (parseText ++ error))
  | .ok (remaining, publicKey) =>
    if remaining ≠ [] then .error (tlsError trailingText) else .ok (fingerprintSha256 crypto publicKey)

def publicKeyFingerprint (crypto : Crypto) (certificateDer : List UInt8) : Result String :=
  keyFingerprint crypto "trusted Node certificate is invalid: " "trusted Node certificate contains trailing data"
    certificateDer

/-- `certificate_public_key_fingerprint` of `crates/node`. -/
def certificatePublicKeyFingerprint (crypto : Crypto) (certificateDer : List UInt8) : Result String :=
  keyFingerprint crypto "cannot parse peer X.509 certificate: " "peer X.509 certificate contains trailing data"
    certificateDer

/-! ## Pairing -/

/-- `len() == 32` and all bytes hexadecimal digits. -/
def isNodeIdText (nodeId : String) : Prop := nodeId.utf8ByteSize = 32 ∧ nodeId.toList.all isAsciiHexdigit = true

instance (nodeId : String) : Decidable (isNodeIdText nodeId) := inferInstanceAs (Decidable (_ ∧ _))

def validateTrustedConnection (crypto : Crypto) (trusted : TrustedNodeConnection) : Result Unit :=
  if trusted.outOfBandFingerprintConfirmed = false then
    .error (tlsError "out-of-band fingerprint verification is required before pairing")
  else if ¬ isNodeIdText trusted.nodeId then .error (invalid "trusted Node ID must be 128-bit hexadecimal")
  else if trimIsEmpty trusted.name ∨ 255 < trusted.name.utf8ByteSize then
    .error (invalid "trusted Node name is empty or too long")
  else if trimIsEmpty trusted.serverName ∨ 253 < trusted.serverName.utf8ByteSize then
    .error (invalid "trusted Node TLS server name is invalid")
  else if (IpAddr.parseSocketAddr trusted.controlAddress.toList).isNone then
    .error (invalid "trusted Node control address must include an IP and port")
  else do
    let presented ← publicKeyFingerprint crypto trusted.certificateDer
    if eqIgnoreAsciiCase presented trusted.fingerprint = false then
      .error (tlsError "trusted Node certificate does not match the confirmed fingerprint")
    else .ok ()

/-- The row under the same text holds another key, and the change is not confirmed. -/
def identityChanged (registry : Registry) (trusted : TrustedNodeConnection) : Bool :=
  match registry.nodeTrust.lookup trusted.nodeId with
  | some row => !eqIgnoreAsciiCase row.fingerprint trusted.fingerprint && !trusted.identityChangeConfirmed
  | none => false

def trustRow (trusted : TrustedNodeConnection) : TrustRow :=
  { fingerprint := trusted.fingerprint
    trustStatus := .trusted
    certificateDer := some trusted.certificateDer
    serverName := some trusted.serverName
    controlAddress := some trusted.controlAddress }

/-- Both inserts, each of which overwrites a row that is there. -/
def writeTrust (registry : Registry) (trusted : TrustedNodeConnection) : Registry :=
  { node := registry.node.put trusted.nodeId ⟨trusted.name, some trusted.controlAddress⟩
    nodeTrust := registry.nodeTrust.put trusted.nodeId (trustRow trusted) }

def trustNodeConnection (crypto : Crypto) (registry : Registry) (trusted : TrustedNodeConnection) :
    Result Registry := do
  validateTrustedConnection crypto trusted
  if identityChanged registry trusted then
    .error (tlsError "Node identity changed; explicit re-pair confirmation is required")
  else pure (writeTrust registry trusted)

/-! ## Queries and revocation -/

/-- The summary of a trusted row with all its connection material, joined with the row of `node`. -/
def trustedNode (registry : Registry) (id : String) (row : TrustRow) : Option TrustedNodeSummary :=
  if row.trustStatus = .trusted then do
    let node ← registry.node.lookup id
    let certificateDer ← row.certificateDer
    let serverName ← row.serverName
    let controlAddress ← row.controlAddress
    some ⟨id, node.name, node.lastAddress, row.fingerprint, certificateDer, serverName, controlAddress⟩
  else none

def listTrustedNodes (registry : Registry) : List TrustedNodeSummary :=
  (registry.nodeTrust.select (trustedNode registry)).mergeSort (fun a b => a.id ≤ b.id)

/-- The first two of the rows with this ID or name, the one with this ID first. -/
def nodeMatches (registry : Registry) (idOrName : String) : List TrustedNodeSummary :=
  ((listTrustedNodes registry).filter (fun node => node.id = idOrName) ++
    (listTrustedNodes registry).filter (fun node => node.id ≠ idOrName ∧ node.name = idOrName)).take 2

def resolveTrustedNode (registry : Registry) (idOrName : String) : Result (Option TrustedNodeSummary) :=
  if trimIsEmpty idOrName then .error (invalid "node ID or name must not be empty")
  else
    let found := nodeMatches registry idOrName
    if 1 < found.length ∧ found.all (fun node => node.id ≠ idOrName) then
      .error (invalid "node name is ambiguous; use the stable node ID")
    else .ok found.head?

def notPaired (message : String) : NetToolError := .new .nodeNotPaired message false

/-- `UPDATE node_trust SET trust_status='revoked' WHERE node_id AND trust_status='trusted'`; there must be such a row.
-/
def setRevoked (registry : Registry) (id : String) : Result Registry :=
  match registry.nodeTrust.lookup id with
  | some row =>
    if row.trustStatus = .trusted then
      .ok { registry with nodeTrust := registry.nodeTrust.put id { row with trustStatus := .revoked } }
    else .error (notPaired "Node is no longer trusted")
  | none => .error (notPaired "Node is no longer trusted")

def revokeTrustedNode (registry : Registry) (idOrName : String) : Result Registry := do
  match ← resolveTrustedNode registry idOrName with
  | none => .error (notPaired "Node is not trusted")
  | some node => setRevoked registry node.id

def resolveTrustedNodeByFingerprint (registry : Registry) (fingerprint : String) : Result (Option TrustedNodeSummary) :=
  if trimIsEmpty fingerprint then .error (invalid "trusted Node fingerprint must not be empty")
  else
    let found := (listTrustedNodes registry).filter (fun node => eqIgnoreAsciiCase node.fingerprint fingerprint)
    if 1 < found.length then .error (.new .storageFailed "trusted fingerprint maps to multiple Node IDs" false)
    else .ok found.head?

/-! ## Runs -/

inductive TrustCall
  | pair (trusted : TrustedNodeConnection)
  | revoke (idOrName : String)

def trustCall (crypto : Crypto) (registry : Registry) : TrustCall → Result Registry
  | .pair trusted => trustNodeConnection crypto registry trusted
  | .revoke idOrName => revokeTrustedNode registry idOrName

/-- A call that fails leaves the registry as it was. -/
def trustStep (crypto : Crypto) (registry : Registry) (c : TrustCall) : Registry :=
  match trustCall crypto registry c with
  | .ok registry => registry
  | .error _ => registry

/-- The registries reached from the empty one by successful calls that meet a condition. -/
def PairedBy (crypto : Crypto) (ok : Registry → TrustCall → Prop) (registry : Registry) : Prop :=
  Reach ⟨∅, ∅⟩ (trustStep crypto) (fun registry c => (∃ result, trustCall crypto registry c = .ok result) ∧
    ok registry c) registry

theorem PairedBy.invariant {crypto : Crypto} {registry : Registry} {ok : Registry → TrustCall → Prop}
    {I : Registry → Prop} (h : PairedBy crypto ok registry) (hinit : I ⟨∅, ∅⟩)
    (hstep : ∀ {registry c result}, I registry → trustCall crypto registry c = .ok result → ok registry c → I result) :
    I registry := by
  refine Reach.invariant hinit (fun registry c hregistry hok => ?_) h
  obtain ⟨⟨result, hcall⟩, hok⟩ := hok
  unfold trustStep
  rw [hcall]
  exact hstep hregistry hcall hok

end Storage
end NetTool
