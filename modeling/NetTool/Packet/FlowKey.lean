import Mathlib.Data.Prod.Lex
import NetTool.Lib.Bytes
import NetTool.Net
import NetTool.Packet.Tcp
/-!
# Packet.FlowKey — the key and the shard of a flow (`crates/packet/src/flow.rs`)

A key has the smaller endpoint of a five tuple first, so both directions of a conversation have one key, and no two
conversations share one (`canonical_eq_iff`).  A shard is a hash of the key.
-/
namespace NetTool
namespace Packet

structure FlowTuple where
  sourceIp : IpAddr
  destinationIp : IpAddr
  sourcePort : UInt16
  destinationPort : UInt16
  protocol : UInt8

structure FlowKey where
  firstIp : IpAddr
  firstPort : UInt16
  secondIp : IpAddr
  secondPort : UInt16
  protocol : UInt8

/-- Where an endpoint stands in Rust's order of pairs: IPv4 before IPv6, each by its octets, then by the port. -/
def endpointOrder : IpAddr × UInt16 → ℕ ×ₗ ℕ ×ₗ ℕ
  | (.v4 bits, port) => toLex (4, toLex (bits.toNat, port.toNat))
  | (.v6 bits, port) => toLex (6, toLex (bits.toNat, port.toNat))

namespace FlowTuple

def source (tuple : FlowTuple) : IpAddr × UInt16 := (tuple.sourceIp, tuple.sourcePort)
def destination (tuple : FlowTuple) : IpAddr × UInt16 := (tuple.destinationIp, tuple.destinationPort)

/-- The tuple of a packet that goes the other way. -/
def swap (tuple : FlowTuple) : FlowTuple :=
  ⟨tuple.destinationIp, tuple.sourceIp, tuple.destinationPort, tuple.sourcePort, tuple.protocol⟩

end FlowTuple

def FlowKey.canonical (tuple : FlowTuple) : FlowKey × FlowDirection :=
  if endpointOrder tuple.source ≤ endpointOrder tuple.destination then
    (⟨tuple.sourceIp, tuple.sourcePort, tuple.destinationIp, tuple.destinationPort, tuple.protocol⟩, .forward)
  else (⟨tuple.destinationIp, tuple.destinationPort, tuple.sourceIp, tuple.sourcePort, tuple.protocol⟩, .reverse)

/-! ## Shards -/

/-- FNV-1a. -/
def hashBytes (hash : UInt64) (bytes : List UInt8) : UInt64 :=
  bytes.foldl (fun hash byte => (hash ^^^ byte.toUInt64) * 0x00000100000001b3) hash

def hashIp (hash : UInt64) : IpAddr → UInt64
  | .v4 bits => hashBytes (hashBytes hash [4]) (Bytes.toBe 4 bits.toNat)
  | .v6 bits => hashBytes (hashBytes hash [6]) (Bytes.toBe 16 bits.toNat)

structure FlowSharder where
  shardCount : Nat

def FlowSharder.new (shardCount : Nat) : Option FlowSharder := if shardCount = 0 then none else some ⟨shardCount⟩

/-- The conversions of a `usize` and of a remainder below it do not fail. -/
def FlowSharder.shardFor (sharder : FlowSharder) (key : FlowKey) : Nat :=
  let hash := hashIp 0xcbf29ce484222325 key.firstIp
  let hash := hashBytes hash (Bytes.toBe 2 key.firstPort.toNat)
  let hash := hashIp hash key.secondIp
  let hash := hashBytes hash (Bytes.toBe 2 key.secondPort.toNat)
  (hashBytes hash [key.protocol]).toNat % sharder.shardCount

/-! ## Conversations -/

theorem endpointOrder_injective : Function.Injective endpointOrder := by
  rintro ⟨a, p⟩ ⟨b, q⟩ h
  cases a <;> cases b <;>
    simp_all [endpointOrder, Prod.ext_iff, ← BitVec.toNat_inj, ← UInt16.toNat_inj]

theorem canonical_swap (tuple : FlowTuple) :
    (FlowKey.canonical tuple.swap).1 = (FlowKey.canonical tuple).1 ∧
      ((FlowKey.canonical tuple.swap).2 ≠ (FlowKey.canonical tuple).2 ↔ tuple.source ≠ tuple.destination) := by
  have hsource : tuple.swap.source = tuple.destination := rfl
  have hdestination : tuple.swap.destination = tuple.source := rfl
  unfold FlowKey.canonical
  rw [hsource, hdestination]
  rcases lt_trichotomy (endpointOrder tuple.source) (endpointOrder tuple.destination) with h | h | h
  · simp [h.le, h.not_ge, FlowTuple.swap, ne_of_apply_ne endpointOrder h.ne]
  · have hsame := endpointOrder_injective h
    obtain ⟨hip, hport⟩ := Prod.ext_iff.1 hsame
    simp only [FlowTuple.source, FlowTuple.destination] at hip hport
    simp [hsame, FlowTuple.swap, hip, hport]
  · simp [h.le, h.not_ge, FlowTuple.swap, ne_of_apply_ne endpointOrder h.ne']

theorem canonical_eq_iff {a b : FlowTuple} :
    (FlowKey.canonical a).1 = (FlowKey.canonical b).1 ↔ a = b ∨ a = b.swap := by
  constructor
  · intro h
    cases a
    cases b
    unfold FlowKey.canonical at h
    split at h <;> split at h <;> simp_all [FlowTuple.swap]
  · rintro (rfl | rfl)
    · rfl
    · exact (canonical_swap b).1

/-- **A key is of one conversation**: of a tuple and its swap, which have opposite directions unless the endpoints are
one, and no other; their shard is one of those there are. -/
theorem flow_key_of_conversation :
    (∀ a b : FlowTuple, (FlowKey.canonical a).1 = (FlowKey.canonical b).1 ↔ a = b ∨ a = b.swap) ∧
    (∀ a : FlowTuple, (FlowKey.canonical a.swap).2 ≠ (FlowKey.canonical a).2 ↔ a.source ≠ a.destination) ∧
    ∀ count, (count = 0 ∧ FlowSharder.new count = none) ∨
      ∃ sharder, FlowSharder.new count = some sharder ∧ ∀ a : FlowTuple,
        sharder.shardFor (FlowKey.canonical a).1 < count ∧
        sharder.shardFor (FlowKey.canonical a.swap).1 = sharder.shardFor (FlowKey.canonical a).1 := by
  refine ⟨fun _ _ => canonical_eq_iff, fun a => (canonical_swap a).2, fun count => ?_⟩
  rcases Nat.eq_zero_or_pos count with rfl | hpos
  · exact .inl ⟨rfl, rfl⟩
  · refine .inr ⟨⟨count⟩, if_neg hpos.ne', fun a => ⟨Nat.mod_lt _ hpos, ?_⟩⟩
    rw [(canonical_swap a).1]

end Packet
end NetTool
