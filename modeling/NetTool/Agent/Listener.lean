import NetTool.Storage.Trust
/-!
# Agent.Listener — accepting a control connection (`apps/agent`)

For every connection the Agent lists the trusted nodes, refuses to serve any of them when two share a fingerprint, makes
their certificates the roots of a TLS configuration, and after the handshake looks for the presented key in the list.
The text of the Node ID found there is parsed into the 128-bit identity that the session is bound to.
-/
namespace NetTool
namespace Agent

open Storage

/-! ## Node IDs -/

def protocolInvalid (message : String) : NetToolError := .new .protocolInvalid message false

def chunksExact : List UInt8 → List (List UInt8)
  | a :: b :: rest => [a, b] :: chunksExact rest
  | _ => []

def parseByte (chunk : List UInt8) : Result UInt8 :=
  match fromUtf8 chunk with
  | none => .error (protocolInvalid "trusted Node ID contains invalid text")
  | some text => match Numeral.fromStrRadix 16 256 text.toList with
    | none => .error (protocolInvalid "trusted Node ID is not hexadecimal")
    | some value => .ok (.ofNat value)

def parseNodeId (value : String) : Result (List UInt8) :=
  if value.utf8ByteSize ≠ 32 then .error (protocolInvalid "trusted Node ID is not 128-bit hexadecimal")
  else do
    let nodeId ← (chunksExact (asBytes value)).mapM parseByte
    if nodeId = List.replicate 16 0 then .error (protocolInvalid "trusted Node ID must not be zero") else pure nodeId

/-! ## Connections -/

/-- The TLS library: adding a root, and the handshake with a client that presents a certificate and holds its key. -/
structure Tls where
  addRoot : List UInt8 → Except String Unit
  accept : (roots : List (List UInt8)) → (certificate : List UInt8) → Except String Unit

/-- The certificate verifies as its own root: its client is accepted where it is one of the roots. -/
def Tls.VerifiesItself (tls : Tls) (certificate : List UInt8) : Prop :=
  ∀ roots, certificate ∈ roots → tls.accept roots certificate = .ok ()

def validateTrustedPeers : List TrustedNodeSummary → Except String Unit
  | [] => .ok ()
  | peer :: rest =>
    if rest.any (fun other => eqIgnoreAsciiCase other.fingerprint peer.fingerprint && other.id != peer.id) then
      .error "trusted fingerprint maps to multiple Node IDs"
    else validateTrustedPeers rest

def addRoots (tls : Tls) : List TrustedNodeSummary → Except String Unit
  | [] => .ok ()
  | peer :: rest => do
    (tls.addRoot peer.certificateDer).mapError ("cannot trust paired Node certificate: " ++ ·)
    addRoots tls rest

def findPeer (trustedPeers : List TrustedNodeSummary) (fingerprint : String) : Except String TrustedNodeSummary :=
  match trustedPeers.find? (fun peer => eqIgnoreAsciiCase peer.fingerprint fingerprint) with
  | some peer => .ok peer
  | none => .error "authenticated certificate is not in the trusted registry"

/-- `handle_node_connection`, up to the identity that the service is bound to. -/
def handleNodeConnection (crypto : Crypto) (tls : Tls) (trustedPeers : List TrustedNodeSummary)
    (certificate : List UInt8) :
    Except String (List UInt8) := do
  (tls.accept (trustedPeers.map (·.certificateDer)) certificate).mapError ("Node mutual TLS failed: " ++ ·)
  let fingerprint ← (certificatePublicKeyFingerprint crypto certificate).mapError NetToolError.display
  let peer ← findPeer trustedPeers fingerprint
  (parseNodeId peer.id).mapError NetToolError.display

/-- `accept_node_connection` of a client that presents the certificate. -/
def acceptNodeConnection (crypto : Crypto) (tls : Tls) (registry : Registry) (certificate : List UInt8) :
    Except String (List UInt8) := do
  let trustedPeers := listTrustedNodes registry
  validateTrustedPeers trustedPeers
  if trustedPeers = [] then .error "Node control connection rejected: no trusted peers"
  else
    addRoots tls trustedPeers
    handleNodeConnection crypto tls trustedPeers certificate

end Agent
end NetTool
