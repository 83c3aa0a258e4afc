import Mathlib.Algebra.Order.Ring.Int
/-!
# Net — IP and socket addresses

`std::net::IpAddr` and `SocketAddr`, with the `Display` texts that resource keys are built from.
-/
namespace NetTool

inductive IpAddr
  | v4 (bits : BitVec 32)
  | v6 (bits : BitVec 128)
  deriving DecidableEq

namespace IpAddr

def isIpv4 : IpAddr → Bool
  | v4 _ => true
  | v6 _ => false

def isUnspecified : IpAddr → Bool
  | v4 bits => bits == 0
  | v6 bits => bits == 0

def localhost : IpAddr := .v4 0x7f000001#32

/-- The octets of an IPv4 address, most significant first. -/
def octets (bits : BitVec 32) : List Nat := [24, 16, 8, 0].map (fun k => bits.toNat / 2 ^ k % 2 ^ 8)

def segments (bits : BitVec 128) : List Nat :=
  [112, 96, 80, 64, 48, 32, 16, 0].map (fun k => bits.toNat / 2 ^ k % 2 ^ 16)

def displayV4 (bits : BitVec 32) : String := ".".intercalate ((octets bits).map toString)

/-- `fmt_subslice`: segments in hexadecimal without leading zeros, between colons. -/
def fmtSubslice (l : List Nat) : String := ":".intercalate (l.map (fun n => String.ofList (Nat.toDigits 16 n)))

/-- The first longest run of zero segments, as its start and length. -/
def longestZeroes (l : List Nat) : Nat × Nat :=
  (l.zipIdx.foldl (fun (acc : (Nat × Nat) × (Nat × Nat)) p =>
    if p.1 = 0 then
      let current := if acc.2.2 = 0 then (p.2, 1) else (acc.2.1, acc.2.2 + 1)
      (if acc.1.2 < current.2 then current else acc.1, current)
    else (acc.1, (0, 0))) ((0, 0), (0, 0))).1

def displayV6 (bits : BitVec 128) : String :=
  if bits.toNat / 2 ^ 32 = 0xffff then "::ffff:" ++ displayV4 (bits.setWidth 32)
  else
    let l := segments bits
    let z := longestZeroes l
    if 1 < z.2 then fmtSubslice (l.take z.1) ++ "::" ++ fmtSubslice (l.drop (z.1 + z.2)) else fmtSubslice l

def display : IpAddr → String
  | v4 bits => displayV4 bits
  | v6 bits => displayV6 bits

end IpAddr

/-- `SocketAddr`: an IPv6 address carries a flow label and a scope. -/
inductive SocketAddr
  | v4 (ip : BitVec 32) (port : UInt16)
  | v6 (ip : BitVec 128) (port : UInt16) (flowinfo scopeId : UInt32)
  deriving DecidableEq

namespace SocketAddr

def new : IpAddr → UInt16 → SocketAddr
  | .v4 bits, port => .v4 bits port
  | .v6 bits, port => .v6 bits port 0 0

def ip : SocketAddr → IpAddr
  | v4 bits _     => .v4 bits
  | v6 bits _ _ _ => .v6 bits

def port : SocketAddr → UInt16
  | v4 _ port     => port
  | v6 _ port _ _ => port

def display : SocketAddr → String
  | v4 bits port => IpAddr.displayV4 bits ++ ":" ++ toString port.toNat
  | v6 bits port _ scopeId =>
    if scopeId = 0 then "[" ++ IpAddr.displayV6 bits ++ "]:" ++ toString port.toNat
    else "[" ++ IpAddr.displayV6 bits ++ "%" ++ toString scopeId.toNat ++ "]:" ++ toString port.toNat

end SocketAddr

example : IpAddr.localhost.display = "127.0.0.1" := by decide
example : (IpAddr.v6 0xfe800000000000000000000000000001#128).display = "fe80::1" := by decide

end NetTool
