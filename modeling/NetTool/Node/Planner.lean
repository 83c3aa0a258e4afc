import NetTool.Lib.Check
import NetTool.Node.Server
/-!
# Node.Planner — from a speed request to the wire (`crates/node/src/planner.rs`)

The planner checks the request and the ports bound for it, works out which capabilities the run needs, refuses when the
remote node does not have them, and writes the `PrepareTest`.
-/
namespace NetTool
namespace Node

open Speed

structure SpeedSessionPlan where
  requiredCapabilities : List Nat
  prepare : PrepareTest
  deriving DecidableEq

/-- The ports the initiator has bound; 0 stands for none. -/
structure LocalDataPlanePorts where
  send : UInt16
  receive : UInt16
  deriving DecidableEq

def LocalDataPlanePorts.default : LocalDataPlanePorts := ⟨0, 0⟩

def protocolName : SpeedProtocol → String
  | .tcp => "tcp"
  | .udp => "udp"
  | .raw => "raw"

def directionName : Direction → String
  | .upload => "upload"
  | .download => "download"
  | .bidirectional => "bidirectional"

def Direction.sends : Direction → Bool
  | .upload | .bidirectional => true
  | .download => false

def Direction.receives : Direction → Bool
  | .download | .bidirectional => true
  | .upload => false

/-! ## Capabilities -/

/-- `BTreeSet::insert` on the ascending list of the elements. -/
def insertId (id : Nat) : List Nat → List Nat
  | [] => [id]
  | first :: rest =>
    if id < first then id :: first :: rest
    else if id = first then first :: rest
    else first :: insertId id rest

@[simp] theorem mem_insertId {id id' : Nat} {ids : List Nat} : id' ∈ insertId id ids ↔ id' = id ∨ id' ∈ ids := by
  induction ids with
  | nil => simp [insertId]
  | cons first rest ih =>
    unfold insertId
    by_cases hlt : id < first
    · rw [if_pos hlt, List.mem_cons]
    · rw [if_neg hlt]
      by_cases heq : id = first
      · rw [heq]
        simp
      · rw [if_neg heq, List.mem_cons, List.mem_cons, ih]
        exact or_left_comm

def protocolCapability : SpeedProtocol → Nat
  | .tcp => capabilityTcpSpeed
  | .udp => capabilityUdpSpeed
  | .raw => capabilityRawPacketGenerator

def backendCapability (backend : String) : Option Nat :=
  if backend = "dpdk" then some capabilityDpdk
  else if backend = "af_xdp" then some capabilityAfXdp
  else if backend = "rio" then some capabilityRio
  else none

/-- The identifiers `required_capabilities` inserts, in its order. -/
def insertedCapabilities (request : SpeedRunRequest) : List Nat :=
  [protocolCapability request.protocol] ++
    (if request.direction = .bidirectional then [capabilityBidirectional] else []) ++
    (backendCapability request.backend).toList ++
    (if request.frameSize.any (1518 < ·) then [capabilityJumboFrame] else []) ++
    (if request.latencyUnderLoad then [capabilityLatency, capabilityLatencyUnderLoad] else [])

def requiredCapabilities (request : SpeedRunRequest) : List Nat :=
  (insertedCapabilities request).foldl (fun ids id => insertId id ids) []

theorem mem_requiredCapabilities {request : SpeedRunRequest} {id : Nat} :
    id ∈ requiredCapabilities request ↔ id ∈ insertedCapabilities request := by
  have hfold : ∀ ids start : List Nat, id ∈ ids.foldl (fun ids id => insertId id ids) start ↔ id ∈ ids ∨
    id ∈ start := by
    intro ids
    induction ids with
    | nil => simp
    | cons first rest ih =>
      intro start
      rw [List.foldl_cons, ih, mem_insertId, List.mem_cons]
      exact or_left_comm.trans or_assoc.symm
  rw [requiredCapabilities, hfold]
  simp

/-- The first loop of `validate_capabilities`, over what was seen so far. -/
def checkAdvertised (seen : List Nat) : List CapabilityMessage → Result Unit
  | [] => .ok ()
  | capability :: rest =>
    if capability.id ∈ seen then .error (protocol "remote capability response contains duplicate IDs")
    else if capability.minVersion = 0 ∨ capability.maxVersion < capability.minVersion ∨ capability.maxVersion = 0 then
      .error (protocol "remote capability response contains an invalid version range")
    else checkAdvertised (capability.id :: seen) rest

def requiredCapabilityVersion : Nat := 1

def CapabilityMessage.provides (capability : CapabilityMessage) (id : Nat) : Bool :=
  capability.id == id && capability.available && decide (capability.minVersion ≤ requiredCapabilityVersion) &&
    decide (requiredCapabilityVersion ≤ capability.maxVersion)

/-- `format!("0x{id:04X}")`. -/
def hexCapability (id : Nat) : String :=
  let digits := (Nat.toDigits 16 id).map Char.toUpper
  "0x" ++ String.ofList (List.replicate (4 - digits.length) '0' ++ digits)

def missingCapability (id : Nat) : NetToolError :=
  { code := .protocolIncompatible
    message := "remote Node does not provide a required speed capability"
    retryable := false
    details := [("capability_id", hexCapability id)] }

def validateCapabilities (required : List Nat) (remote : List CapabilityMessage) : Result Unit := do
  checkAdvertised [] remote
  match required.find? (fun id => !remote.any (·.provides id)) with
  | some id => .error (missingCapability id)
  | none => .ok ()

/-! ## The plan -/

def prepareMessage (request : SpeedRunRequest) (operationId : String) (sid : SessionId) (ports : LocalDataPlanePorts) :
    PrepareTest where
  sessionId := sid.1
  operationId := operationId
  testType := protocolName request.protocol
  backend := request.backend
  direction := directionName request.direction
  durationMs := request.durationMs
  warmupMs := request.warmupMs
  cooldownMs := request.cooldownMs
  streams := (request.streams.map (·.toNat)).getD 0
  frameSize := (request.frameSize.map (·.toNat)).getD 0
  payloadSize := 0
  targetRateBps := request.targetRateBps.getD 0
  mtu := 0
  sourceDataPort := ports.send.toNat
  receiveDataPort := ports.receive.toNat
  acceleratedPciAddress := request.acceleratedPciAddress.getD ""
  remoteAcceleratedPciAddress := request.remoteAcceleratedPciAddress.getD ""
  remoteMacAddress := request.remoteMacAddress.getD ""

def planSpeedSession (request : SpeedRunRequest) (operationId : String) (sid : SessionId) (ports : LocalDataPlanePorts)
    (remote : List CapabilityMessage) : Result SpeedSessionPlan := do
  request.validate
  if trimIsEmpty operationId ∨ sid = Bytes.replicate 16 0 then
    .error (invalid "speed operation and session IDs must be non-empty")
  if request.protocol = .udp ∧ Direction.sends request.direction ∧ ports.send = 0 then
    .error (invalid "UDP source data port must be dynamically allocated before prepare")
  if request.protocol ≠ .raw ∧ Direction.receives request.direction ∧ ports.receive = 0 then
    .error (invalid "local receive data port must be dynamically allocated before prepare")
  if request.protocol = .raw ∧ ports ≠ .default then
    .error (invalid "raw Ethernet does not use socket data ports")
  validateCapabilities (requiredCapabilities request) remote
  pure ⟨requiredCapabilities request, prepareMessage request operationId sid ports⟩

/-! ## What a plan says -/

section
variable {request : SpeedRunRequest} {operationId : String} {sid : SessionId} {ports : LocalDataPlanePorts}
  {remote : List CapabilityMessage} {plan : SpeedSessionPlan}

structure Planned (request : SpeedRunRequest) (operationId : String) (sid : SessionId) (ports : LocalDataPlanePorts)
    (remote : List CapabilityMessage) (plan : SpeedSessionPlan) : Prop where
  valid : request.Valid
  operation : trimIsEmpty operationId = false
  session : sid ≠ Bytes.replicate 16 0
  provided : validateCapabilities (requiredCapabilities request) remote = .ok ()
  plan : plan = ⟨requiredCapabilities request, prepareMessage request operationId sid ports⟩

theorem planned_of_ok (h : planSpeedSession request operationId sid ports remote = .ok plan) :
    Planned request operationId sid ports remote plan := by
  unfold planSpeedSession at h
  simp only [Check.error_bind, Check.guard_ok, Check.bind_ok, Check.pure_ok, not_or, Bool.not_eq_true] at h
  obtain ⟨_, hvalid, ⟨hoperation, hsession⟩, -, -, -, _, hprovided, hplan⟩ := h
  exact ⟨SpeedRunRequest.validate_ok.1 hvalid, hoperation, hsession, hprovided, hplan.symm⟩

theorem provides_of_validate {required : List Nat} (h : validateCapabilities required remote = .ok ()) {id : Nat}
    (hid : id ∈ required) : remote.any (·.provides id) = true := by
  unfold validateCapabilities at h
  rw [Check.bind_ok] at h
  obtain ⟨_, -, h⟩ := h
  cases hfind : required.find? (fun id => !remote.any (·.provides id)) with
  | some missing => rw [hfind] at h; cases h
  | none =>
    rw [List.find?_eq_none] at hfind
    simpa using hfind id hid

end

end Node
end NetTool
