import NetTool.Error
import NetTool.Lib.Check
import NetTool.Net
import NetTool.Text
/-!
# Speed.Config — the run settings of the socket engines and their bounds (`crates/speed`)

`TcpRunConfig`, `UdpSenderConfig` and `UdpReceiverConfig` with their `validate`, and the session-scoped settings a
worker gets.
-/
namespace NetTool

open Check

abbrev SessionId : Type := Bytes 16

namespace Speed

def invalid (message : String) : NetToolError := .new .invalidArgument message false

def maxAuthorizationTagBytes : Nat := 256
def minAuthorizationTagBytes : Nat := 16

def validateAuthorizationTag (tag : String) : Result Unit := do
  if tag.utf8ByteSize < minAuthorizationTagBytes ∨ maxAuthorizationTagBytes < tag.utf8ByteSize then
    .error (invalid "authorization tag length is outside the secure range")
  if tag.toList.any isControl then .error (invalid "authorization tag contains control characters")

/-- `authorization_tag_matches`: the differences of all bytes are collected before they are looked at. -/
def authorizationTagMatches (expected : String) (presented : List UInt8) : Bool :=
  let expected := asBytes expected
  expected.length == presented.length &&
    (expected.zip presented).foldl (fun difference p => difference ||| (p.1 ^^^ p.2)) 0 == 0

structure TcpRunConfig where
  streams : UInt16
  payloadBytes : Nat
  warmupMilliseconds : Nat
  measurementMilliseconds : Nat
  deriving DecidableEq

def TcpRunConfig.validate (config : TcpRunConfig) : Result Unit := do
  if config.streams < 1 ∨ 128 < config.streams then .error (invalid "TCP streams must be between 1 and 128")
  if config.payloadBytes < 1024 ∨ 16 * 1024 * 1024 < config.payloadBytes then
    .error (invalid "TCP payload must be between 1 KiB and 16 MiB")
  if config.measurementMilliseconds < 100 ∨ 86400000 < config.measurementMilliseconds then
    .error (invalid "TCP measurement must be between 100 ms and 24 hours")

structure AuthorizedTcpSenderConfig where
  run : TcpRunConfig
  sessionId : SessionId
  authorizationTag : String
  deriving DecidableEq

/-- What `run_authorized_tcp_sender` checks before it connects. -/
def AuthorizedTcpSenderConfig.validate (config : AuthorizedTcpSenderConfig) : Result Unit := do
  validateAuthorizationTag config.authorizationTag
  config.run.validate

structure AuthorizedTcpReceiverConfig where
  expectedStreams : UInt16
  sessionId : SessionId
  authorizationTag : String
  deriving DecidableEq

/-- What `run_authorized_tcp_receiver` checks before it accepts. -/
def AuthorizedTcpReceiverConfig.validate (config : AuthorizedTcpReceiverConfig) : Result Unit := do
  validateAuthorizationTag config.authorizationTag
  if config.expectedStreams < 1 ∨ 128 < config.expectedStreams then
    .error (invalid "expected TCP streams must be between 1 and 128")

def udpSpeedHeaderBytes : Nat := 52
def maxUdpDatagramBytes : Nat := 65507

structure UdpSenderConfig where
  sessionId : SessionId
  streamId : UInt32
  datagramBytes : Nat
  measurementMilliseconds : Nat
  targetBitsPerSecond : Option Nat
  maximumPacketsPerBurst : UInt32
  authorizationTag : String
  deriving DecidableEq

def UdpSenderConfig.validate (config : UdpSenderConfig) : Result Unit := do
  if config.datagramBytes < udpSpeedHeaderBytes ∨ maxUdpDatagramBytes < config.datagramBytes then
    .error (invalid "UDP datagram size is outside the valid socket range")
  if config.measurementMilliseconds < 100 ∨ 86400000 < config.measurementMilliseconds then
    .error (invalid "UDP measurement must be between 100 ms and 24 hours")
  if config.targetBitsPerSecond = some 0 then .error (invalid "UDP target rate must be greater than zero")
  if config.maximumPacketsPerBurst < 1 ∨ 4096 < config.maximumPacketsPerBurst then
    .error (invalid "UDP burst size must be between 1 and 4096")
  validateAuthorizationTag config.authorizationTag

structure UdpReceiverConfig where
  sessionId : SessionId
  streamId : UInt32
  expectedSource : SocketAddr
  maximumDatagramBytes : Nat
  idleTimeoutMilliseconds : Nat
  authorizationTag : String
  deriving DecidableEq

def UdpReceiverConfig.validate (config : UdpReceiverConfig) : Result Unit := do
  if config.maximumDatagramBytes < udpSpeedHeaderBytes ∨ maxUdpDatagramBytes < config.maximumDatagramBytes then
    .error (invalid "UDP receive buffer is outside the valid socket range")
  if config.idleTimeoutMilliseconds < 100 ∨ 60000 < config.idleTimeoutMilliseconds then
    .error (invalid "UDP idle timeout must be between 100 ms and 60 seconds")
  validateAuthorizationTag config.authorizationTag

/-- A configuration of a socket engine; the run settings of a TCP receiver are checked on their own. -/
inductive EngineConfig
  | tcpRun (config : TcpRunConfig)
  | tcpSender (config : AuthorizedTcpSenderConfig)
  | tcpReceiver (config : AuthorizedTcpReceiverConfig)
  | udpSender (config : UdpSenderConfig)
  | udpReceiver (config : UdpReceiverConfig)
  deriving DecidableEq

def EngineConfig.validate : EngineConfig → Result Unit
  | tcpRun config => config.validate
  | tcpSender config => config.validate
  | tcpReceiver config => config.validate
  | udpSender config => config.validate
  | udpReceiver config => config.validate

/-! ## What the engines accept -/

def ValidTag (tag : String) : Prop := validateAuthorizationTag tag = .ok ()

theorem ValidTag.size {tag : String} (h : ValidTag tag) : 16 ≤ tag.utf8ByteSize ∧ tag.utf8ByteSize ≤ 256 := by
  simp only [ValidTag, validateAuthorizationTag, error_bind, guard_ok, not_or, Nat.not_lt] at h
  exact h.1

theorem foldl_difference (pairs : List (UInt8 × UInt8)) (difference : UInt8) :
    pairs.foldl (fun difference p => difference ||| (p.1 ^^^ p.2)) difference = 0 ↔
      difference = 0 ∧ ∀ p ∈ pairs, p.1 = p.2 := by
  induction pairs generalizing difference with
  | nil => simp
  | cons p pairs ih => simp [ih, UInt8.or_eq_zero_iff, and_assoc]

theorem authorizationTagMatches_iff {expected : String} {presented : List UInt8} :
    authorizationTagMatches expected presented = true ↔ presented = asBytes expected := by
  simp only [authorizationTagMatches, Bool.and_eq_true, beq_iff_eq, foldl_difference, true_and]
  constructor
  · rintro ⟨hlength, hpairs⟩
    refine List.ext_getElem hlength.symm (fun i hi hi' => ?_)
    have hmem : ((asBytes expected)[i], presented[i]) ∈ (asBytes expected).zip presented := by
      rw [← List.getElem_zip (h := by rw [List.length_zip]; omega)]
      exact List.getElem_mem _
    exact (hpairs _ hmem).symm
  · rintro rfl
    refine ⟨rfl, fun p hp => ?_⟩
    obtain ⟨i, hi, rfl⟩ := List.mem_iff_getElem.1 hp
    rw [List.getElem_zip]

theorem validTag_hexString (bytes : Bytes 32) : ValidTag (hexString bytes.1) := by
  have hsize : (hexString bytes.1).utf8ByteSize = 64 := by rw [utf8ByteSize_hexString, bytes.2]
  have hcontrol : (hexString bytes.1).toList.any isControl = false := by
    rw [List.any_eq_false]
    intro c hc
    obtain ⟨n, hn, rfl⟩ := exists_hexDigit hc
    simp [(hexDigit_plain hn).2.2]
  unfold ValidTag validateAuthorizationTag
  rw [hsize, hcontrol]
  rfl

theorem TcpRunConfig.validate_ok {config : TcpRunConfig} : config.validate = .ok () ↔
    (1 ≤ config.streams.toNat ∧ config.streams.toNat ≤ 128) ∧
    (1024 ≤ config.payloadBytes ∧ config.payloadBytes ≤ 16 * 1024 * 1024) ∧
    (100 ≤ config.measurementMilliseconds ∧ config.measurementMilliseconds ≤ 86400000) := by
  unfold validate
  simp only [error_bind, guard_ok, pure_ok, not_or, Nat.not_lt, UInt16.lt_iff_toNat_lt, and_true]
  rfl

theorem AuthorizedTcpSenderConfig.validate_ok {config : AuthorizedTcpSenderConfig} : config.validate = .ok () ↔
    ValidTag config.authorizationTag ∧ config.run.validate = .ok () := by
  unfold validate ValidTag
  rw [bind_ok]
  exact ⟨fun ⟨_, htag, hrun⟩ => ⟨htag, hrun⟩, fun h => ⟨(), h.1, h.2⟩⟩

theorem AuthorizedTcpReceiverConfig.validate_ok {config : AuthorizedTcpReceiverConfig} : config.validate = .ok () ↔
    ValidTag config.authorizationTag ∧ 1 ≤ config.expectedStreams.toNat ∧ config.expectedStreams.toNat ≤ 128 := by
  unfold validate ValidTag
  simp only [bind_ok, guard_ok, pure_ok, not_or, Nat.not_lt, UInt16.lt_iff_toNat_lt, and_true]
  exact ⟨fun h => h.choose_spec, fun h => ⟨(), h⟩⟩

theorem UdpSenderConfig.validate_ok {config : UdpSenderConfig} : config.validate = .ok () ↔
    (udpSpeedHeaderBytes ≤ config.datagramBytes ∧ config.datagramBytes ≤ maxUdpDatagramBytes) ∧
    (100 ≤ config.measurementMilliseconds ∧ config.measurementMilliseconds ≤ 86400000) ∧
    config.targetBitsPerSecond ≠ some 0 ∧
    (1 ≤ config.maximumPacketsPerBurst.toNat ∧ config.maximumPacketsPerBurst.toNat ≤ 4096) ∧
    ValidTag config.authorizationTag := by
  unfold validate
  simp only [error_bind, guard_ok, not_or, Nat.not_lt, UInt32.lt_iff_toNat_lt]
  rfl

theorem UdpReceiverConfig.validate_ok {config : UdpReceiverConfig} : config.validate = .ok () ↔
    (udpSpeedHeaderBytes ≤ config.maximumDatagramBytes ∧ config.maximumDatagramBytes ≤ maxUdpDatagramBytes) ∧
    (100 ≤ config.idleTimeoutMilliseconds ∧ config.idleTimeoutMilliseconds ≤ 60000) ∧
    ValidTag config.authorizationTag := by
  unfold validate
  simp only [error_bind, guard_ok, not_or, Nat.not_lt]
  rfl

end Speed
end NetTool
