import NetTool.Lib.Check
import NetTool.Net
import NetTool.Text
/-!
# DesiredState — the network state a helper may apply (`crates/helper-protocol`, `crates/domain`)

The closed schema of a desired state and its validation: address families, counts, duplicates, routes, DNS and MTU.
-/
namespace NetTool
namespace Helper

open Check

structure IpPrefix where
  address : IpAddr
  prefixLength : UInt8
  deriving DecidableEq

inductive Ipv4Configuration
  | dhcp
  | static (addresses : List IpPrefix)
  | disabled
  deriving DecidableEq

inductive Ipv6Configuration
  | automatic
  | static (addresses : List IpPrefix)
  | disabled
  deriving DecidableEq

structure DnsConfiguration where
  automatic : Bool
  servers : List IpAddr
  searchDomains : List String
  deriving DecidableEq

structure RouteConfiguration where
  destination : IpPrefix
  gateway : Option IpAddr
  metric : Option UInt32
  deriving DecidableEq

structure NetworkDesiredState where
  ipv4 : Ipv4Configuration
  ipv6 : Ipv6Configuration
  dns : DnsConfiguration
  routes : List RouteConfiguration
  mtu : Option UInt32
  deriving DecidableEq

def validatePrefix (p : IpPrefix) (ipv4 : Bool) : Except String Unit :=
  if p.address.isIpv4 != ipv4 || (if ipv4 then 32 else 128) < p.prefixLength.toNat || p.address.isUnspecified then
    .error "IP prefix address family or length is invalid"
  else .ok ()

/-- Check each prefix in turn against those before it; the source keeps them in a `HashSet`. -/
def validatePrefixList (ipv4 : Bool) : List IpPrefix → List IpPrefix → Except String Unit
  | _, [] => .ok ()
  | seen, p :: ps => do
    validatePrefix p ipv4
    if p ∈ seen then .error "duplicate static address is not allowed" else validatePrefixList ipv4 (p :: seen) ps

def validatePrefixes (prefixes : List IpPrefix) (ipv4 : Bool) : Except String Unit :=
  if prefixes = [] ∨ 16 < prefixes.length then .error "static address count must be between one and sixteen"
  else validatePrefixList ipv4 [] prefixes

def validateRoutes : List RouteConfiguration → List RouteConfiguration → Except String Unit
  | _, [] => .ok ()
  | seen, r :: rs => do
    validatePrefix r.destination r.destination.address.isIpv4
    if r.gateway.any (fun g => g.isIpv4 != r.destination.address.isIpv4 || g.isUnspecified) then
      .error "route gateway address family is invalid"
    else if r ∈ seen then .error "duplicate route is not allowed"
    else validateRoutes (r :: seen) rs

/-- `str::split(c)` on characters. -/
def splitOnChar (c : Char) : List Char → List (List Char)
  | [] => [[]]
  | x :: xs =>
    match splitOnChar c xs with
    | [] => [[x]]
    | y :: ys => if x = c then [] :: y :: ys else (x :: y) :: ys

/-- A label is ASCII where it is accepted, so its length in characters is its length in bytes. -/
def validLabel (label : List Char) : Bool :=
  !label.isEmpty && label.length ≤ 63 && label.head? != some '-' && label.getLast? != some '-' &&
    label.all (fun c => c.isAlphanum || c == '-')

def validDomain (domain : String) : Bool :=
  !domain.isEmpty && domain.utf8ByteSize ≤ 253 && domain.toList.head? != some '.' &&
    domain.toList.getLast? != some '.' && (splitOnChar '.' domain.toList).all validLabel

def NetworkDesiredState.validate (s : NetworkDesiredState) : Except String Unit := do
  match s.ipv4 with
  | .static addresses => validatePrefixes addresses true
  | _ => .ok ()
  match s.ipv6 with
  | .static addresses => validatePrefixes addresses false
  | _ => .ok ()
  if 256 < s.routes.length then .error "route count exceeds limit"
  validateRoutes [] s.routes
  if 16 < s.dns.servers.length ∨ 32 < s.dns.searchDomains.length then .error "DNS configuration exceeds limit"
  if s.dns.servers.any IpAddr.isUnspecified then .error "DNS server must not be unspecified"
  if !s.dns.searchDomains.all validDomain then .error "DNS search domain is invalid"
  if s.mtu.any (fun mtu => !(576 ≤ mtu.toNat && mtu.toNat ≤ 65535)) then .error "MTU must be between 576 and 65535"
  .ok ()

/-- The state the helper's own tests apply: everything automatic. -/
def NetworkDesiredState.auto : NetworkDesiredState := ⟨.dhcp, .automatic, ⟨true, [], []⟩, [], none⟩

example : NetworkDesiredState.auto.validate = .ok () := by decide

/-! ## What validation accepts -/

structure IpPrefix.Valid (ipv4 : Bool) (p : IpPrefix) : Prop where
  family : p.address.isIpv4 = ipv4
  length : p.prefixLength.toNat ≤ if ipv4 then 32 else 128
  specified : p.address.isUnspecified = false

theorem validatePrefix_ok {p : IpPrefix} {ipv4 : Bool} (h : validatePrefix p ipv4 = .ok ()) : p.Valid ipv4 := by
  obtain ⟨hnot, -⟩ := (guard_ok _ _ _ _).1 h
  simp only [Bool.or_eq_true, bne_iff_ne, ne_eq, decide_eq_true_eq, not_or, not_not, not_lt, Bool.not_eq_true] at hnot
  exact ⟨hnot.1.1, hnot.1.2, hnot.2⟩

theorem validatePrefixList_ok {ipv4 : Bool} {seen prefixes : List IpPrefix}
    (h : validatePrefixList ipv4 seen prefixes = .ok ()) : ∀ p ∈ prefixes, p.Valid ipv4 := by
  induction prefixes generalizing seen with
  | nil => simp
  | cons p ps ih =>
    obtain ⟨_, hp, h⟩ := (bind_ok _ _ _).1 h
    obtain ⟨-, h⟩ := (guard_ok _ _ _ _).1 h
    exact List.forall_mem_cons.2 ⟨validatePrefix_ok hp, ih h⟩

structure ValidPrefixes (ipv4 : Bool) (prefixes : List IpPrefix) : Prop where
  ne_nil : prefixes ≠ []
  length : prefixes.length ≤ 16
  all : ∀ p ∈ prefixes, p.Valid ipv4

theorem validatePrefixes_ok {prefixes : List IpPrefix} {ipv4 : Bool} (h : validatePrefixes prefixes ipv4 = .ok ()) :
    ValidPrefixes ipv4 prefixes := by
  obtain ⟨hcount, h⟩ := (guard_ok _ _ _ _).1 h
  exact ⟨fun hnil => hcount (.inl hnil), by omega, validatePrefixList_ok h⟩

theorem validateRoutes_ok {seen routes : List RouteConfiguration} (h : validateRoutes seen routes = .ok ()) :
    ∀ r ∈ routes, r.destination.Valid r.destination.address.isIpv4 ∧
      ∀ gateway, r.gateway = some gateway → gateway.isIpv4 = r.destination.address.isIpv4 := by
  induction routes generalizing seen with
  | nil => simp
  | cons r rs ih =>
    obtain ⟨_, hr, h⟩ := (bind_ok _ _ _).1 h
    obtain ⟨hgateway, h⟩ := (guard_ok _ _ _ _).1 h
    obtain ⟨-, h⟩ := (guard_ok _ _ _ _).1 h
    refine List.forall_mem_cons.2 ⟨⟨validatePrefix_ok hr, fun gateway hsome => ?_⟩, ih h⟩
    rw [hsome] at hgateway
    by_contra hne
    exact hgateway (by simp [hne])

namespace NetworkDesiredState

structure Valid (s : NetworkDesiredState) : Prop where
  ipv4 : ∀ addresses, s.ipv4 = .static addresses → ValidPrefixes true addresses
  ipv6 : ∀ addresses, s.ipv6 = .static addresses → ValidPrefixes false addresses
  routes : ∀ r ∈ s.routes, r.destination.Valid r.destination.address.isIpv4 ∧
    ∀ gateway, r.gateway = some gateway → gateway.isIpv4 = r.destination.address.isIpv4
  servers_length : s.dns.servers.length ≤ 16
  domains : s.dns.searchDomains.all validDomain = true
  mtu : ∀ mtu, s.mtu = some mtu → 576 ≤ mtu.toNat ∧ mtu.toNat ≤ 65535

theorem valid_of_validate {s : NetworkDesiredState} (h : s.validate = .ok ()) : s.Valid := by
  have hchain : s.validate = (do
      (match s.ipv4 with
        | .static addresses => validatePrefixes addresses true
        | _ => .ok () : Except String Unit)
      (match s.ipv6 with
        | .static addresses => validatePrefixes addresses false
        | _ => .ok () : Except String Unit)
      if 256 < s.routes.length then .error "route count exceeds limit" else do
        validateRoutes [] s.routes
        if 16 < s.dns.servers.length ∨ 32 < s.dns.searchDomains.length then .error "DNS configuration exceeds limit"
        else if s.dns.servers.any IpAddr.isUnspecified then .error "DNS server must not be unspecified"
        else if !s.dns.searchDomains.all validDomain then .error "DNS search domain is invalid"
        else if s.mtu.any (fun mtu => !(576 ≤ mtu.toNat && mtu.toNat ≤ 65535))
          then .error "MTU must be between 576 and 65535"
        else .ok ()) := by
    unfold validate
    cases s.ipv4 <;> cases s.ipv6 <;> rfl
  rw [hchain] at h
  obtain ⟨_, h4, h⟩ := (bind_ok _ _ _).1 h
  obtain ⟨_, h6, h⟩ := (bind_ok _ _ _).1 h
  obtain ⟨-, h⟩ := (guard_ok _ _ _ _).1 h
  obtain ⟨_, hroutes, h⟩ := (bind_ok _ _ _).1 h
  obtain ⟨hcounts, h⟩ := (guard_ok _ _ _ _).1 h
  obtain ⟨-, h⟩ := (guard_ok _ _ _ _).1 h
  obtain ⟨hdomains, h⟩ := (guard_ok _ _ _ _).1 h
  obtain ⟨hmtu, -⟩ := (guard_ok _ _ _ _).1 h
  refine ⟨fun addresses heq => ?_, fun addresses heq => ?_,
    validateRoutes_ok hroutes, by omega, by simpa using hdomains, fun mtu heq => ?_⟩
  · rw [heq] at h4
    exact validatePrefixes_ok h4
  · rw [heq] at h6
    exact validatePrefixes_ok h6
  · rw [heq] at hmtu
    simpa using hmtu

end NetworkDesiredState
end Helper
end NetTool
