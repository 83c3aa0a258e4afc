import NetTool.Helper.DesiredState
import NetTool.Hosts.Parse
import NetTool.Lib.Bytes
import NetTool.Lib.Reader
import NetTool.LinuxResources.Executor
/-!
# Helper.Server — who reaches the privileged helper (`crates/helper-server`, `crates/helper-protocol`)

A connection is one exchange.  The kernel names the peer, the peer must be on the list, and only then is a frame read:
four bytes of length, and a request in JSON.  The request has no place for a caller; the handler is told the peer the
kernel named (`helper_authorized`).
-/
namespace NetTool
namespace Helper

open Prog Bytes

/-! ## The protocol -/

inductive PrivilegedOperation
  | networkReadState (interfaceId : String)
  | networkApply (interfaceId : String) (desiredState : NetworkDesiredState) (confirmTimeoutSeconds : Nat)
  | networkRestore (snapshotId : String)
  | hostsRead | hostsBackup | hostsRestore
  | hostsAtomicReplace (profileId : Str) (entries : List Hosts.Protocol.ManagedHostsEntry)
  | nicPrepareDpdk (pciAddress : String)
  | nicRestoreDriver (pciAddress prepareOperationId : String)
  | hugepagePrepare (node : Option UInt32) (pages pageSizeKib : Nat)
  | hugepageRelease (operationId : String)
  | safeApplyConfirm (operationId : String)
  | safeApplyRollback (operationId : String)
  | safeApplyListPending

def nonEmpty (value : String) : Except String Unit :=
  if trimIsEmpty value ∨ 256 < value.utf8ByteSize ∨ value.toList.any isControl
    then .error "required identifier is empty"
  else .ok ()

/-- `validate_pci_address` of the protocol, which is the executor's with the text for an error. -/
def validatePciAddress (value : String) : Except String Unit :=
  (LinuxResources.validatePciAddress value).mapError (·.message)

def PrivilegedOperation.validate : PrivilegedOperation → Except String Unit
  | networkReadState id | networkRestore id => nonEmpty id
  | networkApply interfaceId desiredState confirmTimeoutSeconds => do
    nonEmpty interfaceId
    if ¬ (10 ≤ confirmTimeoutSeconds ∧ confirmTimeoutSeconds ≤ 600) then
      .error "confirm timeout must be between 10 and 600 seconds"
    desiredState.validate
  | hostsAtomicReplace profileId entries => Hosts.validateHosts profileId entries
  | nicPrepareDpdk pciAddress => validatePciAddress pciAddress
  | nicRestoreDriver pciAddress prepareOperationId => do
    validatePciAddress pciAddress
    nonEmpty prepareOperationId
  | hugepagePrepare _ pages pageSizeKib =>
    if pages = 0 ∨ pageSizeKib = 0 then .error "huge page count and size must be non-zero"
    -- a product that does not fit 64 bits is over the limit as well
    else if 1073741824 < pages * pageSizeKib then .error "requested huge page capacity exceeds one TiB safety limit"
    else .ok ()
  | hugepageRelease id | safeApplyConfirm id | safeApplyRollback id => nonEmpty id
  | hostsRead | hostsBackup | hostsRestore | safeApplyListPending => .ok ()

structure CallerIdentity where
  principal : String
  processId : Option UInt32

structure PrivilegedWireRequest where
  requestId : String
  operationId : String
  operation : PrivilegedOperation
  dryRun : Bool

structure PrivilegedRequest extends PrivilegedWireRequest where
  callerIdentity : CallerIdentity

def PrivilegedWireRequest.authenticate (wire : PrivilegedWireRequest) (callerIdentity : CallerIdentity) :
    PrivilegedRequest := ⟨wire, callerIdentity⟩

/-! ## The server -/

structure PeerCredentials where
  principal : String
  processId : Option UInt32

/-- The allowlist, a `BTreeSet` in the source. -/
abbrev AuthorizationPolicy := List String

def AuthorizationPolicy.authorize (policy : AuthorizationPolicy) (peer : PeerCredentials) : Result CallerIdentity :=
  if peer.principal ∈ policy then .ok ⟨peer.principal, peer.processId⟩
  else .error (.new .helperUnauthorized "helper caller is not authorized" false)

def maxHelperFrameLength : Nat := 1024 * 1024

def transportError (context : String) : NetToolError := .new .helperTransportFailed (context ++ ": early eof") false

/-- The JSON library: a request it decodes, a response it encodes. -/
structure Json (Response : Type) where
  fromSlice : List UInt8 → Except String PrivilegedWireRequest
  toVec : Response → Except String (List UInt8)

/-- What is still to be read, what was written, and what the handler was given.  Writes do not fail. -/
structure HelperStream where
  input : List UInt8
  output : List UInt8 := []
  handled : List PrivilegedRequest := []

section
variable {Response : Type} (json : Json Response) (handle : PrivilegedRequest → Response) (policy : AuthorizationPolicy)

def readRequest : Prog (List UInt8) NetToolError PrivilegedWireRequest := do
  let header ← Reader.readExact (transportError "read helper frame length") 4
  let length := ofBe header
  if length = 0 ∨ maxHelperFrameLength < length then
    fail (.new .controlFrameTooLarge "helper frame length is invalid" false)
  else do
    let payload ← Reader.readExact (transportError "read helper frame payload") length
    ofExcept ((json.fromSlice payload).mapError
      (fun error => .new .protocolInvalid ("helper request is invalid: " ++ error) false))

def writeResponse (response : Response) : Prog HelperStream NetToolError Unit := do
  let payload ← ofExcept ((json.toVec response).mapError
    (fun error => .new .protocolInvalid ("helper response cannot be encoded: " ++ error) false))
  if maxHelperFrameLength < payload.length then
    fail (.new .controlFrameTooLarge "helper response exceeds frame limit" false)
  else modify (fun stream => { stream with output := stream.output ++ toBe 4 payload.length ++ payload })

def serveOne (peer : PeerCredentials) : Prog HelperStream NetToolError Unit := do
  let identity ← ofExcept (policy.authorize peer)
  let wire ← zoom HelperStream.input (fun input stream => { stream with input }) (readRequest json)
  if trimIsEmpty wire.requestId ∨ trimIsEmpty wire.operationId then
    fail (.new .invalidArgument "helper request and operation IDs are required" false)
  else do
    ofExcept (wire.operation.validate.mapError (.new .invalidArgument · false))
    let request := wire.authenticate identity
    modify (fun stream => { stream with handled := stream.handled ++ [request] })
    writeResponse json (handle request)

/-- `serve_unix_one` and `serve_named_pipe_one`: the kernel names the peer, or does not. -/
def serve (credentials : Result PeerCredentials) : Prog HelperStream NetToolError Unit := do
  let peer ← ofExcept credentials
  serveOne json handle policy peer

end

/-! ## What reaches the handler -/

section
variable {Response : Type} {json : Json Response} {policy : AuthorizationPolicy}
  {credentials : Result PeerCredentials} {bytes : List UInt8}

/-- The kernel named a peer on the list, the stream begins with a frame within the limit whose payload decodes to a
valid operation, and the request is that one with the peer for its caller. -/
def Admits (json : Json Response) (policy : AuthorizationPolicy) (credentials : Result PeerCredentials)
    (bytes : List UInt8) (request : PrivilegedRequest) : Prop :=
  ∃ peer payload rest wire, credentials = .ok peer ∧ peer.principal ∈ policy ∧
    bytes = toBe 4 payload.length ++ payload ++ rest ∧ payload.length ≤ maxHelperFrameLength ∧
    json.fromSlice payload = .ok wire ∧ wire.operation.validate = .ok () ∧
    request = wire.authenticate ⟨peer.principal, peer.processId⟩

/-- A request that is read is decoded from the frame at the head of the stream. -/
theorem wp_readRequest :
    wp (readRequest json) (fun wire rest => ∃ payload, bytes = toBe 4 payload.length ++ payload ++ rest ∧
    payload.length ≤ maxHelperFrameLength ∧ json.fromSlice payload = .ok wire) (fun _ _ => True) bytes := by
  unfold readRequest
  rw [wp_bind]
  refine Reader.wp_readExact (fun header tail hhead hfour => ?_) trivial
  rw [wp_ite]
  refine ⟨fun _ => trivial, fun hlength => ?_⟩
  rw [wp_bind]
  refine Reader.wp_readExact (fun payload rest htail hpayload => ?_) trivial
  rw [wp_ofExcept]
  refine ⟨fun wire hwire => ⟨payload, ?_, by omega, Check.mapError_ok.1 hwire⟩, fun _ _ => trivial⟩
  rw [hpayload, ← hfour, toBe_ofBe, hhead, htail, List.append_assoc]

theorem serve_handled (handle : PrivilegedRequest → Response) : wp (serve json handle policy credentials)
    (fun _ stream => ∀ request ∈ stream.handled, Admits json policy credentials bytes request)
    (fun _ stream => ∀ request ∈ stream.handled, Admits json policy credentials bytes request) { input := bytes } := by
  have hnone : ∀ request ∈ ([] : List PrivilegedRequest), Admits json policy credentials bytes request :=
    List.forall_mem_nil _
  refine wp_check (fun peer hpeer => ?_) (fun _ _ => hnone)
  refine wp_check (fun identity hidentity => ?_) (fun _ _ => hnone)
  obtain ⟨hmem, rfl⟩ : peer.principal ∈ policy ∧ identity = ⟨peer.principal, peer.processId⟩ := by
    unfold AuthorizationPolicy.authorize at hidentity
    split at hidentity
    · cases hidentity
      exact ⟨‹_›, rfl⟩
    · cases hidentity
  rw [wp_bind, wp_zoom]
  refine wp_mono wp_readRequest (fun wire rest ⟨payload, hframe, hlimit, hwire⟩ => ?_) (fun _ _ _ => hnone)
  rw [wp_ite]
  refine ⟨fun _ => hnone, fun _ => wp_check (fun _ hvalid => ?_) (fun _ _ => hnone)⟩
  have hadmits : ∀ request ∈ [wire.authenticate ⟨peer.principal, peer.processId⟩],
      Admits json policy credentials bytes request := List.forall_mem_singleton.2
    ⟨peer, payload, rest, wire, hpeer, hmem, hframe, hlimit, hwire, Check.mapError_ok.1 hvalid, rfl⟩
  -- the handler has its request; whatever becomes of the response, it gets no other
  refine wp_check (fun response _ => ?_) (fun _ _ => hadmits)
  rw [wp_ite]
  exact ⟨fun _ => hadmits, fun _ => hadmits⟩

/-- **The handler gets no request but the admitted one, and of a frame above the limit nothing is read but its length.**
-/
theorem helper_authorized (json : Json Response) (handle : PrivilegedRequest → Response) (policy : AuthorizationPolicy)
    (credentials : Result PeerCredentials) (bytes : List UInt8) :
    (∀ request ∈ (serve json handle policy credentials { input := bytes }).2.handled,
      Admits json policy credentials bytes request) ∧
    ∀ length payload, bytes = toBe 4 length ++ payload → maxHelperFrameLength < length → length < 2 ^ 32 →
      wp (serve json handle policy credentials) (fun _ _ => False) (fun _ stream => payload <:+ stream.input)
        { input := bytes } := by
  refine ⟨wp_state (serve_handled handle), ?_⟩
  rintro length payload rfl hlarge hlength
  refine wp_check (fun peer _ => ?_) (fun _ _ => List.suffix_append _ _)
  refine wp_check (fun identity _ => ?_) (fun _ _ => List.suffix_append _ _)
  rw [wp_bind, wp_zoom]
  unfold readRequest
  rw [wp_bind]
  unfold wp
  rw [Reader.readExact_append (length_toBe 4 length) payload]
  dsimp only
  rw [ofBe_toBe hlength, if_pos (.inr hlarge)]
  exact List.suffix_rfl

end

end Helper
end NetTool
