import Mathlib.Tactic.Common
/-!
# Error — the stable error model (`crates/error`)

Every fallible call of the toolkit returns a `NetToolError`: a machine-readable code, a text, whether a retry may help,
and structured details in key order (a `BTreeMap` in the source).
-/
namespace NetTool

inductive ErrorCode
  | invalidArgument | probeFailed | unsupported | storageFailed | agentUnavailable | actionUnsupported
  | resourceConflict | invalidState | rollbackFailed | persistenceFailed | speedFailed | protocolInvalid
  | controlFrameTooLarge | protocolUnsupportedFlag | protocolIncompatible | nodeTransportFailed | nodeTlsFailed
  | nodeNotPaired | authorizationExpired | dataPlaneUnauthorized | operationConflict | randomFailed | preflightFailed
  | backendNotBuilt | losslessCaptureNotCertified | helperUnauthorized | helperNotConfigured | helperTransportFailed
  | helperExecutionFailed | captureFormatInvalid | captureReadFailed
  deriving DecidableEq

def ErrorCode.asStr : ErrorCode → String
  | .invalidArgument => "CLI.INVALID_ARGUMENT"
  | .probeFailed => "DATAPLANE.PROBE_FAILED"
  | .unsupported => "PLATFORM.UNSUPPORTED"
  | .storageFailed => "STORAGE.DATABASE_FAILED"
  | .agentUnavailable => "AGENT.UNAVAILABLE"
  | .actionUnsupported => "ACTION.UNSUPPORTED"
  | .resourceConflict => "RESOURCE.CONFLICT"
  | .invalidState => "ACTION.INVALID_STATE"
  | .rollbackFailed => "SAFE_APPLY.ROLLBACK_FAILED"
  | .persistenceFailed => "HELPER.PERSISTENCE_FAILED"
  | .speedFailed => "SPEED.ENGINE_FAILED"
  | .protocolInvalid => "PROTOCOL.INVALID_MESSAGE"
  | .controlFrameTooLarge => "PROTOCOL.CONTROL_FRAME_TOO_LARGE"
  | .protocolUnsupportedFlag => "PROTOCOL.UNSUPPORTED_FLAG"
  | .protocolIncompatible => "PROTOCOL.MAJOR_INCOMPATIBLE"
  | .nodeTransportFailed => "NODE.TRANSPORT_FAILED"
  | .nodeTlsFailed => "NODE.TLS_FAILED"
  | .nodeNotPaired => "NODE.NOT_PAIRED"
  | .authorizationExpired => "NODE.AUTHORIZATION_EXPIRED"
  | .dataPlaneUnauthorized => "NODE.DATA_PLANE_UNAUTHORIZED"
  | .operationConflict => "OPERATION.ID_CONFLICT"
  | .randomFailed => "SECURITY.RANDOM_FAILED"
  | .preflightFailed => "DATAPLANE.PREFLIGHT_FAILED"
  | .backendNotBuilt => "DATAPLANE.BACKEND_NOT_BUILT"
  | .losslessCaptureNotCertified => "LOSSLESS_CAPTURE_NOT_CERTIFIED"
  | .helperUnauthorized => "HELPER.UNAUTHORIZED"
  | .helperNotConfigured => "HELPER.NOT_CONFIGURED"
  | .helperTransportFailed => "HELPER.TRANSPORT_FAILED"
  | .helperExecutionFailed => "HELPER.EXECUTION_FAILED"
  | .captureFormatInvalid => "CAPTURE.FORMAT_INVALID"
  | .captureReadFailed => "CAPTURE.READ_FAILED"

structure NetToolError where
  code : ErrorCode
  message : String
  retryable : Bool
  details : List (String × String)
  deriving DecidableEq

namespace NetToolError

def new (code : ErrorCode) (message : String) (retryable : Bool) : NetToolError := ⟨code, message, retryable, []⟩

/-- `Display`: the code, then the text. -/
def display (e : NetToolError) : String := e.code.asStr ++ ": " ++ e.message

end NetToolError

abbrev Result := Except NetToolError

end NetTool
