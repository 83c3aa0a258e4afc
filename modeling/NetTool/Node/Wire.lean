import NetTool.Node.Session
/-!
# Node.Wire — the control messages (`crates/node-protocol/src/wire.rs`)

An envelope carries the protocol version of its sender, a request ID and one message.  The numbers a build speaks are a
`Build`: the source has them as the constants `PROTOCOL_MAJOR` and `PROTOCOL_MINOR`, and the lowest minor the client
offers as a literal.  The pairing messages belong to the format; neither the client nor the server sends or accepts
them.
-/
namespace NetTool
namespace Node

open Speed

structure Build where
  major : Nat
  minimumMinor : Nat
  minor : Nat
  range : minimumMinor ≤ minor

def Build.current : Build := ⟨1, 0, 1, by decide⟩

structure HelloRequest where
  nodeId : List UInt8
  nodeName : String
  minMinor : Nat
  maxMinor : Nat
  deriving DecidableEq

structure HelloResponse where
  selectedMinor : Nat
  nodeId : List UInt8
  nodeName : String
  deriving DecidableEq

structure CapabilityMessage where
  id : Nat
  minVersion : Nat
  maxVersion : Nat
  available : Bool
  deriving DecidableEq

structure PrepareTest where
  sessionId : List UInt8
  operationId : String
  testType : String
  backend : String
  direction : String
  durationMs : Nat
  warmupMs : Nat
  cooldownMs : Nat
  streams : Nat
  frameSize : Nat
  payloadSize : Nat
  targetRateBps : Nat
  mtu : Nat
  sourceDataPort : Nat
  receiveDataPort : Nat
  acceleratedPciAddress : String
  remoteAcceleratedPciAddress : String
  remoteMacAddress : String
  deriving DecidableEq

structure PrepareTestResponse where
  ready : Bool
  dataPort : Nat
  authorizationTag : String
  sourceDataPort : Nat
  deriving DecidableEq

structure StartTest where
  sessionId : List UInt8
  operationId : String
  startAtUnixNanoseconds : Nat
  deriving DecidableEq

structure StopTest where
  sessionId : List UInt8
  operationId : String
  deriving DecidableEq

structure TestStatus where
  sessionId : List UInt8
  state : String
  deriving DecidableEq

structure ProtocolError where
  code : String
  message : String
  retryable : Bool
  deriving DecidableEq

inductive ControlMessage
  | helloRequest (hello : HelloRequest)
  | helloResponse (hello : HelloResponse)
  | pairRequest (nodeId publicKey : List UInt8)
  | pairResponse (trusted : Bool) (fingerprint : String)
  | capabilityRequest
  | capabilityResponse (capabilities : List CapabilityMessage)
  | prepareTest (prepare : PrepareTest)
  | prepareTestResponse (response : PrepareTestResponse)
  | startTest (start : StartTest)
  | stopTest (stop : StopTest)
  | testStatus (status : TestStatus)
  | testResult (result : TestResult)
  | testResultRequest (sessionId : List UInt8)
  | ping (nonce : Nat)
  | pong (nonce : Nat)
  | error (error : ProtocolError)
  deriving DecidableEq

structure Envelope where
  protocolMajor : Nat
  protocolMinor : Nat
  requestId : List UInt8
  message : Option ControlMessage

structure LocalNodeIdentity where
  nodeId : Bytes 16
  name : String

def protocol (message : String) : NetToolError := .new .protocolInvalid message false

end Node
end NetTool
