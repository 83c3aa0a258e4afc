import NetTool.Resource
import NetTool.Speed.Config
import NetTool.Speed.Lifecycle
/-!
# Node.Session — the data of the session coordinator (`crates/node/src/session.rs`)

A session is prepared in one of seven roles, waits for its start, runs, and ends.  The coordinator keeps the sessions in
three maps (TCP, UDP, DPDK), the requests it has answered by operation ID, the results, and the resource manager.  The
role of a socket session is not stored: it shows in which optional fields are set.
-/
namespace NetTool
namespace Node

open Prog Speed Resource

inductive NodeConnectionState
  | disconnected | connecting | tlsHandshake | hello | authenticating | capabilityNegotiation | ready | preparing
  | testReady | running | finalizing | completed | failed | canceled
  deriving DecidableEq

/-! ## Requests and responses -/

structure PrepareTcpRequest where
  sessionId : SessionId
  operationId : String
  sourceNodeId : Bytes 16
  sourceAddress : IpAddr
  bindAddress : SocketAddr
  config : TcpRunConfig
  authorizationTtlSeconds : Nat
  deriving DecidableEq

structure PrepareTcpSenderRequest where
  sessionId : SessionId
  operationId : String
  sourceNodeId : Bytes 16
  sourceAddress : IpAddr
  destination : SocketAddr
  config : TcpRunConfig
  authorizationTtlSeconds : Nat
  deriving DecidableEq

structure PrepareTcpBidirectionalRequest where
  sessionId : SessionId
  operationId : String
  sourceNodeId : Bytes 16
  sourceAddress : IpAddr
  bindAddress : SocketAddr
  destination : SocketAddr
  config : TcpRunConfig
  authorizationTtlSeconds : Nat
  deriving DecidableEq

structure PrepareUdpRequest where
  sessionId : SessionId
  operationId : String
  sourceNodeId : Bytes 16
  sourceAddress : SocketAddr
  bindAddress : SocketAddr
  streamId : UInt32
  maximumDatagramBytes : Nat
  idleTimeoutMilliseconds : Nat
  authorizationTtlSeconds : Nat
  deriving DecidableEq

structure PrepareUdpSenderRequest where
  sessionId : SessionId
  operationId : String
  sourceNodeId : Bytes 16
  sourceAddress : IpAddr
  destination : SocketAddr
  streamId : UInt32
  datagramBytes : Nat
  measurementMilliseconds : Nat
  targetBitsPerSecond : Option Nat
  authorizationTtlSeconds : Nat
  deriving DecidableEq

structure PrepareUdpBidirectionalRequest where
  sessionId : SessionId
  operationId : String
  sourceNodeId : Bytes 16
  sourceAddress : SocketAddr
  bindAddress : IpAddr
  destination : SocketAddr
  streamId : UInt32
  datagramBytes : Nat
  measurementMilliseconds : Nat
  targetBitsPerSecond : Option Nat
  authorizationTtlSeconds : Nat
  deriving DecidableEq

structure PrepareDpdkReceiverRequest where
  sessionId : SessionId
  operationId : String
  sourceNodeId : Bytes 16
  pciAddress : String
  durationMilliseconds : Nat
  remoteMacAddress : String
  authorizationTtlSeconds : Nat
  deriving DecidableEq

structure PreparedDpdkReceiver where
  pciAddress : String
  durationMilliseconds : Nat
  remoteMacAddress : String
  deriving DecidableEq

structure PrepareTcpResponse where
  sessionId : SessionId
  dataPort : UInt16
  authorizationTag : String
  expiresAtUnixSeconds : Nat
  state : NodeConnectionState
  deriving DecidableEq

structure PrepareUdpResponse where
  sessionId : SessionId
  dataPort : UInt16
  authorizationTag : String
  expiresAtUnixSeconds : Nat
  state : NodeConnectionState
  deriving DecidableEq

structure DataPlaneAuthorization where
  sessionId : SessionId
  sourceNodeId : Bytes 16
  sourceAddress : IpAddr
  sourcePort : Option UInt16
  destinationAddress : IpAddr
  protocol : String
  destinationPort : UInt16
  authorizationTag : String
  expiresAtUnixSeconds : Nat

/-! ## Endpoints and workers -/

/-- A listening TCP socket: the handle the system gave and the address it was bound to. -/
structure TcpListener where
  handle : Nat
  bindAddress : SocketAddr
  deriving DecidableEq

structure UdpSocket where
  handle : Nat
  bindAddress : SocketAddr
  deriving DecidableEq

inductive PreparedSocketReceiver
  | tcp (listener : TcpListener) (config : AuthorizedTcpReceiverConfig)
  | udp (socket : UdpSocket) (config : UdpReceiverConfig)
  deriving DecidableEq

inductive PreparedSocketSender
  | tcp (config : AuthorizedTcpSenderConfig) (destination : SocketAddr)
  | udp (socket : UdpSocket) (config : UdpSenderConfig) (destination : SocketAddr)
  deriving DecidableEq

inductive PreparedSocketBidirectional
  | tcp (listener : TcpListener) (receiver : AuthorizedTcpReceiverConfig) (sender : AuthorizedTcpSenderConfig)
      (destination : SocketAddr)
  | udp (socket : UdpSocket) (receiver : UdpReceiverConfig) (sender : UdpSenderConfig) (destination : SocketAddr)
  deriving DecidableEq

/-! ## Sessions -/

structure TcpSession where
  response : PrepareTcpResponse
  authorization : DataPlaneAuthorization
  config : TcpRunConfig
  listener : Option TcpListener
  state : NodeConnectionState
  reservationId : String
  lifecycle : SpeedTestLifecycle
  senderDestination : Option SocketAddr
  senderConfig : Option TcpRunConfig

structure UdpSession where
  response : PrepareUdpResponse
  authorization : DataPlaneAuthorization
  socket : Option UdpSocket
  streamId : UInt32
  maximumDatagramBytes : Nat
  idleTimeoutMilliseconds : Nat
  state : NodeConnectionState
  reservationId : String
  lifecycle : SpeedTestLifecycle
  senderDestination : Option SocketAddr
  senderConfig : Option UdpSenderConfig

structure DpdkSession where
  authorization : DataPlaneAuthorization
  state : NodeConnectionState
  reservationId : String
  lifecycle : SpeedTestLifecycle
  plan : Option PreparedDpdkReceiver

/-- `SessionMut`: a session of one of the three maps. -/
inductive Session
  | tcp (session : TcpSession)
  | udp (session : UdpSession)
  | dpdk (session : DpdkSession)

namespace Session

def authorization : Session → DataPlaneAuthorization
  | tcp s => s.authorization
  | udp s => s.authorization
  | dpdk s => s.authorization

def state : Session → NodeConnectionState
  | tcp s => s.state
  | udp s => s.state
  | dpdk s => s.state

def setState (state : NodeConnectionState) : Session → Session
  | tcp s => tcp { s with state := state }
  | udp s => udp { s with state := state }
  | dpdk s => dpdk { s with state := state }

def lifecycle : Session → SpeedTestLifecycle
  | tcp s => s.lifecycle
  | udp s => s.lifecycle
  | dpdk s => s.lifecycle

def setLifecycle (lifecycle : SpeedTestLifecycle) : Session → Session
  | tcp s => tcp { s with lifecycle := lifecycle }
  | udp s => udp { s with lifecycle := lifecycle }
  | dpdk s => dpdk { s with lifecycle := lifecycle }

def reservationId : Session → String
  | tcp s => s.reservationId
  | udp s => s.reservationId
  | dpdk s => s.reservationId

def closeEndpoint : Session → Session
  | tcp s => tcp { s with listener := none }
  | udp s => udp { s with socket := none }
  | dpdk s => dpdk { s with plan := none }

def SameMap : Session → Session → Prop
  | tcp _, tcp _ => True
  | udp _, udp _ => True
  | dpdk _, dpdk _ => True
  | _, _ => False

end Session

structure Sessions where
  tcp : Table SessionId TcpSession
  udp : Table SessionId UdpSession
  dpdk : Table SessionId DpdkSession

namespace Sessions

/-- `session_mut`: the maps are searched in this order. -/
def find (t : Sessions) (sid : SessionId) : Option Session :=
  match t.tcp.lookup sid with
  | some s => some (.tcp s)
  | none =>
    match t.udp.lookup sid with
    | some s => some (.udp s)
    | none => (t.dpdk.lookup sid).map .dpdk

def set (sid : SessionId) : Session → Sessions → Sessions
  | .tcp s, t => { t with tcp := t.tcp.put sid s }
  | .udp s, t => { t with udp := t.udp.put sid s }
  | .dpdk s, t => { t with dpdk := t.dpdk.put sid s }

structure Apart (t : Sessions) : Prop where
  udp : ∀ sid s, t.udp.lookup sid = some s → t.tcp.lookup sid = none
  dpdk : ∀ sid s, t.dpdk.lookup sid = some s → t.tcp.lookup sid = none ∧ t.udp.lookup sid = none

end Sessions

/-! ## The coordinator -/

inductive OperationRecord
  | prepareTcp (request : PrepareTcpRequest) (response : PrepareTcpResponse)
  | prepareTcpSender (request : PrepareTcpSenderRequest) (response : PrepareTcpResponse)
  | prepareTcpBidirectional (request : PrepareTcpBidirectionalRequest) (response : PrepareTcpResponse)
  | prepareUdpSender (request : PrepareUdpSenderRequest) (response : PrepareUdpResponse)
  | prepareUdpBidirectional (request : PrepareUdpBidirectionalRequest) (response : PrepareUdpResponse)
  | prepareUdp (request : PrepareUdpRequest) (response : PrepareUdpResponse)
  | prepareDpdkReceiver (request : PrepareDpdkReceiverRequest) (plan : PreparedDpdkReceiver)
  | start (sessionId : SessionId) (startAtUnixNanoseconds : Nat) (state : NodeConnectionState)
  | stop (sessionId : SessionId) (state : NodeConnectionState)
  deriving DecidableEq

structure TestResult where
  sessionId : List UInt8
  resultJson : List UInt8
  checksum : List UInt8
  deriving DecidableEq

structure SessionCoordinator where
  sessions : Sessions
  operations : Table String OperationRecord
  results : Table SessionId TestResult
  pendingResults : Table SessionId TestResult
  resources : ResourceManager

namespace SessionCoordinator

def new : SessionCoordinator := ⟨⟨∅, ∅, ∅⟩, ∅, ∅, ∅, .new⟩

/-- `session_mut`, to read. -/
def session (c : SessionCoordinator) (sid : SessionId) : Option Session := c.sessions.find sid

def sessionExists (c : SessionCoordinator) (sid : SessionId) : Bool :=
  (c.sessions.tcp.lookup sid).isSome || (c.sessions.udp.lookup sid).isSome || (c.sessions.dpdk.lookup sid).isSome

def sessionState (c : SessionCoordinator) (sid : SessionId) : Option NodeConnectionState :=
  (((c.sessions.tcp.lookup sid).map (·.state)).or ((c.sessions.udp.lookup sid).map (·.state))).or
    ((c.sessions.dpdk.lookup sid).map (·.state))

def setSession (sid : SessionId) (s : Session) (c : SessionCoordinator) : SessionCoordinator :=
  { c with sessions := c.sessions.set sid s }

def log (operationId : String) (record : OperationRecord) (c : SessionCoordinator) : SessionCoordinator :=
  { c with operations := c.operations.put operationId record }

end SessionCoordinator

abbrev Coord (α : Type) : Type := Prog SessionCoordinator NetToolError α

def invalid (message : String) : NetToolError := .new .invalidArgument message false
def invalidState (message : String) : NetToolError := .new .invalidState message false
def operationConflict : NetToolError :=
  .new .operationConflict "operation ID was already used by a different request" false
def sessionMissing : NetToolError := .new .invalidArgument "session does not exist" false
def ioError (error : String) : NetToolError :=
  .new .speedFailed ("dynamic data port allocation failed: " ++ error) true

def hexSessionId (sid : SessionId) : String := hexString sid.1

def onResources {α : Type} (m : Manage α) : Coord α :=
  zoom (·.resources) (fun resources c => { c with resources := resources }) m

def onLifecycle {α : Type} (sid : SessionId) (m : Life α) : Coord α :=
  zoom (fun c => ((c.session sid).map (·.lifecycle)).getD .new)
    (fun lifecycle c =>
      match c.session sid with
      | some s => c.setSession sid (s.setLifecycle lifecycle)
      | none => c) m

/-! ## Reading and writing the maps -/

namespace Session

variable {s s' : Session} {l l' : SpeedTestLifecycle} {state : NodeConnectionState}

@[simp] theorem state_setState : (s.setState state).state = state := by cases s <;> rfl
@[simp] theorem reservationId_setState : (s.setState state).reservationId = s.reservationId := by cases s <;> rfl
@[simp] theorem authorization_setState : (s.setState state).authorization = s.authorization := by cases s <;> rfl
@[simp] theorem state_setLifecycle : (s.setLifecycle l).state = s.state := by cases s <;> rfl
@[simp] theorem lifecycle_setLifecycle : (s.setLifecycle l).lifecycle = l := by cases s <;> rfl
@[simp] theorem reservationId_setLifecycle : (s.setLifecycle l).reservationId = s.reservationId := by cases s <;> rfl
@[simp] theorem setLifecycle_twice : (s.setLifecycle l).setLifecycle l' = s.setLifecycle l' := by cases s <;> rfl
@[simp] theorem setLifecycle_self : s.setLifecycle s.lifecycle = s := by cases s <;> rfl
@[simp] theorem state_closeEndpoint : s.closeEndpoint.state = s.state := by cases s <;> rfl
@[simp] theorem reservationId_closeEndpoint : s.closeEndpoint.reservationId = s.reservationId := by cases s <;> rfl
@[simp] theorem authorization_closeEndpoint : s.closeEndpoint.authorization = s.authorization := by cases s <;> rfl

@[simp] theorem SameMap.refl : ∀ (s : Session), SameMap s s
  | tcp _ => trivial
  | udp _ => trivial
  | dpdk _ => trivial

@[simp] theorem sameMap_setState : SameMap s (s'.setState state) ↔ SameMap s s' := by cases s <;> cases s' <;> rfl
@[simp] theorem sameMap_setLifecycle : SameMap s (s'.setLifecycle l) ↔ SameMap s s' := by cases s <;> cases s' <;> rfl
@[simp] theorem setLifecycle_sameMap : SameMap (s.setLifecycle l) s' ↔ SameMap s s' := by cases s <;> cases s' <;> rfl
@[simp] theorem sameMap_closeEndpoint : SameMap s s'.closeEndpoint ↔ SameMap s s' := by cases s <;> cases s' <;> rfl

end Session

namespace Sessions

variable {t : Sessions} {sid : SessionId} {s s' : Session}

theorem find_tcp {x : TcpSession} : t.find sid = some (.tcp x) ↔ t.tcp.lookup sid = some x := by
  unfold find
  cases t.tcp.lookup sid <;> cases t.udp.lookup sid <;> simp

theorem Apart.find_udp (h : t.Apart) {x : UdpSession} : t.find sid = some (.udp x) ↔ t.udp.lookup sid = some x := by
  unfold find
  cases htcp : t.tcp.lookup sid with
  | none => cases t.udp.lookup sid <;> simp
  | some y =>
    constructor
    · simp
    · intro hudp; rw [h.udp sid x hudp] at htcp; cases htcp

theorem Apart.find_dpdk (h : t.Apart) {x : DpdkSession} : t.find sid = some (.dpdk x) ↔ t.dpdk.lookup sid = some x := by
  unfold find
  cases htcp : t.tcp.lookup sid with
  | some y =>
    constructor
    · simp
    · intro hd; rw [(h.dpdk sid x hd).1] at htcp; cases htcp
  | none =>
    cases hudp : t.udp.lookup sid with
    | some y =>
      constructor
      · simp
      · intro hd; rw [(h.dpdk sid x hd).2] at hudp; cases hudp
    | none => simp

theorem find_eq_none : t.find sid = none ↔
    t.tcp.lookup sid = none ∧ t.udp.lookup sid = none ∧ t.dpdk.lookup sid = none := by
  unfold find
  cases t.tcp.lookup sid <;> cases t.udp.lookup sid <;> simp

/-- A session that is new, or that replaces one of the same map. -/
def Fits (t : Sessions) (sid : SessionId) (s : Session) : Prop :=
  t.find sid = none ∨ ∃ old, t.find sid = some old ∧ old.SameMap s

/-- The maps a session is not kept in do not have its ID. -/
def Others (t : Sessions) (sid : SessionId) : Session → Prop
  | .tcp _ => t.udp.lookup sid = none ∧ t.dpdk.lookup sid = none
  | .udp _ => t.tcp.lookup sid = none ∧ t.dpdk.lookup sid = none
  | .dpdk _ => t.tcp.lookup sid = none ∧ t.udp.lookup sid = none

theorem Apart.others_of_find (ha : t.Apart) (h : t.find sid = some s) : t.Others sid s := by
  cases s with
  | tcp x =>
    have htcp := find_tcp.1 h
    constructor
    · refine Option.eq_none_iff_forall_ne_some.2 (fun y hy => ?_)
      rw [ha.udp sid y hy] at htcp; cases htcp
    · refine Option.eq_none_iff_forall_ne_some.2 (fun y hy => ?_)
      rw [(ha.dpdk sid y hy).1] at htcp; cases htcp
  | udp x =>
    have hudp := ha.find_udp.1 h
    refine ⟨ha.udp sid x hudp, Option.eq_none_iff_forall_ne_some.2 (fun y hy => ?_)⟩
    rw [(ha.dpdk sid y hy).2] at hudp; cases hudp
  | dpdk x => exact ha.dpdk sid x (ha.find_dpdk.1 h)

theorem Others.sameMap (h : t.Others sid s) (hs : s.SameMap s') : t.Others sid s' := by
  cases s <;> cases s' <;> first | exact h | cases hs

theorem Apart.others (ha : t.Apart) (h : t.Fits sid s) : t.Others sid s := by
  rcases h with hnone | ⟨old, hold, hsame⟩
  · obtain ⟨htcp, hudp, hdpdk⟩ := find_eq_none.1 hnone
    cases s with
    | tcp x => exact ⟨hudp, hdpdk⟩
    | udp x => exact ⟨htcp, hdpdk⟩
    | dpdk x => exact ⟨htcp, hudp⟩
  · exact (ha.others_of_find hold).sameMap hsame

/-- **Writing a session that fits changes that session only.** -/
theorem Apart.find_set (ha : t.Apart) (h : t.Fits sid s) (sid' : SessionId) :
    (t.set sid s).find sid' = if sid' = sid then some s else t.find sid' := by
  have ho := ha.others h
  by_cases hid : sid' = sid
  · subst hid
    cases s with
    | tcp x => simp [Sessions.set, find]
    | udp x => simp [Sessions.set, find, ho.1]
    | dpdk x => simp [Sessions.set, find, ho.1, ho.2]
  · cases s <;> simp [Sessions.set, find, hid]

theorem Apart.set (ha : t.Apart) (h : t.Fits sid s) : (t.set sid s).Apart := by
  have ho := ha.others h
  constructor
  · intro sid' y hy
    have hudp := ha.udp sid'
    rcases eq_or_ne sid' sid with rfl | hid <;> cases s <;> simp_all [Sessions.set, Others]
  · intro sid' y hy
    have hdpdk := ha.dpdk sid'
    rcases eq_or_ne sid' sid with rfl | hid <;> cases s <;> simp_all [Sessions.set, Others]

theorem set_set (h : s.SameMap s') : (t.set sid s).set sid s' = t.set sid s' := by
  cases s <;> cases s' <;> first | (simp [Sessions.set]; done) | exact h.elim

theorem Apart.set_self (ha : t.Apart) (h : t.find sid = some s) : t.set sid s = t := by
  cases s with
  | tcp x => unfold Sessions.set; dsimp only; rw [Table.put_eq_self (find_tcp.1 h)]
  | udp x => unfold Sessions.set; dsimp only; rw [Table.put_eq_self (ha.find_udp.1 h)]
  | dpdk x => unfold Sessions.set; dsimp only; rw [Table.put_eq_self (ha.find_dpdk.1 h)]

end Sessions
end Node
end NetTool
