import NetTool.PlatformNetwork.Executor
/-!
# PlatformNetwork.Windows — `netsh` and the PowerShell query (`crates/helper-core/src/platform_network_windows.rs`)

The reader runs a script over the cmdlets of Windows, so an interface is what these know of it: its addresses, its name
servers by family, set or given by the network, and its routes.  The commands set the addresses, the IPv4 name servers
and the MTU; the IPv6 name servers and what the network gives are never set, but they are read.  `settles_iff` says
which states are read back all the same.
-/
namespace NetTool
namespace PlatformNetwork
namespace Windows

open Helper List

/-! ## Commands -/

inductive Command
  | setAddressDhcp (interfaceId : Str)
  | setAddressStatic (interfaceId : Str) (address mask : BitVec 32)
  | setV6Dhcp (interfaceId : Str)
  | setV6None (interfaceId : Str)
  | setV6Address (interfaceId : Str) (address : BitVec 128) (length : UInt8)
  | setDnsDhcp (interfaceId : Str)
  | setDnsStatic (interfaceId : Str) (server : IpAddr)
  | setSubinterface (interfaceId : Str) (mtu : UInt32)
  deriving DecidableEq

def Command.interfaceId : Command → Str
  | .setAddressDhcp i => i
  | .setAddressStatic i _ _ => i
  | .setV6Dhcp i => i
  | .setV6None i => i
  | .setV6Address i _ _ => i
  | .setDnsDhcp i => i
  | .setDnsStatic i _ => i
  | .setSubinterface i _ => i

def Command.arguments : Command → List Str
  | .setAddressDhcp i =>
    ["interface".toList, "ipv4".toList, "set".toList, "address".toList, "name=".toList ++ i, "source=dhcp".toList]
  | .setAddressStatic i address mask =>
    ["interface".toList, "ipv4".toList, "set".toList, "address".toList, "name=".toList ++ i,
      "source=static".toList, "addr=".toList ++ textV4 address, "mask=".toList ++ textV4 mask, "gateway=none".toList]
  | .setV6Dhcp i =>
    ["interface".toList, "ipv6".toList, "set".toList, "address".toList, "interface=".toList ++ i, "source=dhcp".toList]
  | .setV6None i =>
    ["interface".toList, "ipv6".toList, "set".toList, "address".toList, "interface=".toList ++ i, "source=none".toList]
  | .setV6Address i address length =>
    ["interface".toList, "ipv6".toList, "set".toList, "address".toList, "interface=".toList ++ i,
      "address=".toList ++ textV6 address, "prefixlength=".toList ++ textNat length.toNat, "store=active".toList]
  | .setDnsDhcp i =>
    ["interface".toList, "ipv4".toList, "set".toList, "dnsservers".toList, "name=".toList ++ i, "source=dhcp".toList]
  | .setDnsStatic i server =>
    ["interface".toList, "ipv4".toList, "set".toList, "dnsservers".toList, "name=".toList ++ i,
      "source=static".toList, "address=".toList ++ server.display.toList, "validate=no".toList]
  | .setSubinterface i mtu =>
    ["interface".toList, "ipv4".toList, "set".toList, "subinterface".toList, "interface=".toList ++ i,
      "mtu=".toList ++ textNat mtu.toNat, "store=active".toList]

/-- `build_windows_netsh_commands`: of the DNS servers the first is set, whatever its family. -/
def adapter : Adapter Command where
  system := "Windows"
  tool := "Windows netsh"
  dhcp4 := .setAddressDhcp
  static4 := .setAddressStatic
  automatic6 := .setV6Dhcp
  disabled6 := .setV6None
  static6 := .setV6Address
  dns i dns :=
    if dns.automatic then .ok (.setDnsDhcp i)
    else
      match dns.servers with
      | server :: _ => .ok (.setDnsStatic i server)
      | [] => .error (invalid "Windows static DNS requires at least one server")
  setMtu := .setSubinterface
  command c := ⟨netshProgram, c.arguments⟩

/-! ## What Windows knows of an interface -/

inductive Ipv4Setting
  | dhcp
  | static (addresses : List (BitVec 32 × UInt8)) (gateways : List (BitVec 32))
  deriving DecidableEq

inductive Ipv6Setting
  | automatic
  | disabled
  | static (addresses : List (BitVec 128 × UInt8))
  deriving DecidableEq

/-- What the network gives an interface that asks for it. -/
structure Lease (n : Nat) where
  addresses : List (BitVec n × UInt8)
  servers : List (BitVec n)
  gateways : List (BitVec n)

structure Interface where
  /-- The adapters whose name matches the interface's name, which the cmdlet takes as a pattern. -/
  adapters : List Str
  ifIndex : Nat
  ipv4 : Ipv4Setting
  ipv6 : Ipv6Setting
  dns4 : Option (List (BitVec 32))
  dns6 : Option (List (BitVec 128))
  mtu : UInt32
  /-- Routes of other origin: whether it is a default route, and its next hop. -/
  routes : List (Bool × IpAddr)
  lease4 : Lease 32
  lease6 : Lease 128

/-- What a command does.  An IPv6 server is no argument for the IPv4 context, so it is refused. -/
def run : Command → Interface → Option Interface
  | .setAddressDhcp _, x => some { x with ipv4 := .dhcp }
  | .setAddressStatic _ address mask, x =>
    some { x with ipv4 := .static [(address, UInt8.ofNat (leadingOnes mask))] [] }
  | .setV6Dhcp _, x => some { x with ipv6 := .automatic }
  | .setV6None _, x => some { x with ipv6 := .disabled }
  | .setV6Address _ address length, x => some { x with ipv6 := .static [(address, length)] }
  | .setDnsDhcp _, x => some { x with dns4 := none }
  | .setDnsStatic _ (.v4 server), x => some { x with dns4 := some [server] }
  | .setDnsStatic _ (.v6 _), _ => none
  | .setSubinterface _ mtu, x => some { x with mtu := mtu }

/-! ## The query -/

structure WindowsAddress where
  address : Str
  prefixLength : UInt8

structure WindowsStateDocument where
  schemaVersion : Nat
  interfaceCount : Nat
  interfaceId : Str
  dhcp : Bool
  addresses4 : List WindowsAddress
  ipv6State : String
  addresses6 : List WindowsAddress
  servers : List Str
  mtu : UInt32
  defaultGateways : List Str
  routeCount : Nat

/-- A link-local address is printed with its zone. -/
def zone (x : Interface) (bits : BitVec 128) : Str :=
  if bits.toNat / 2 ^ 118 = 0x3fa then '%' :: textNat x.ifIndex else []

def Interface.addresses4 (x : Interface) : List (BitVec 32 × UInt8) :=
  match x.ipv4 with
  | .dhcp => x.lease4.addresses
  | .static addresses _ => addresses

def Interface.addresses6 (x : Interface) : List (BitVec 128 × UInt8) :=
  match x.ipv6 with
  | .static addresses => addresses
  | _ => []

def Interface.servers4 (x : Interface) : List (BitVec 32) :=
  match x.dns4 with
  | some servers => servers
  | none => if x.ipv4 = .dhcp then x.lease4.servers else []

def Interface.servers6 (x : Interface) : List (BitVec 128) :=
  match x.dns6 with
  | some servers => servers
  | none => if x.ipv6 = .automatic then x.lease6.servers else []

/-- `Get-DnsClientServerAddress` lists both families. -/
def Interface.servers (x : Interface) : List IpAddr := x.servers4.map .v4 ++ x.servers6.map .v6

def Interface.gateways4 (x : Interface) : List (BitVec 32) :=
  match x.ipv4 with
  | .dhcp => x.lease4.gateways
  | .static _ gateways => gateways

def Interface.gateways6 (x : Interface) : List (BitVec 128) := if x.ipv6 = .automatic then x.lease6.gateways else []

def Interface.hops (x : Interface) : List (Bool × IpAddr) :=
  (x.routes ++ x.gateways4.map (fun g => (true, IpAddr.v4 g)) ++ x.gateways6.map (fun g => (true, IpAddr.v6 g))).filter
    (fun r => !r.2.isUnspecified)

def ipv6StateText : Ipv6Setting → String
  | .static (_ :: _) => "static"
  | .automatic => "automatic"
  | _ => "disabled"

/-- The script: it stops unless the name matches one adapter. -/
def stateDocument (x : Interface) : Option WindowsStateDocument :=
  match x.adapters with
  | [name] => some {
      schemaVersion := 1
      interfaceCount := 1
      interfaceId := name
      dhcp := x.ipv4 = .dhcp
      addresses4 := x.addresses4.map (fun a => ⟨textV4 a.1, a.2⟩)
      ipv6State := ipv6StateText x.ipv6
      addresses6 := x.addresses6.map (fun a => ⟨textV6 a.1 ++ zone x a.1, a.2⟩)
      servers := serverTexts x.servers
      mtu := x.mtu
      defaultGateways := (x.hops.filter (·.1)).map (fun r => r.2.display.toList)
      routeCount := x.hops.length }
  | _ => none

/-! ## The reader -/

/-- `Ipv4Addr::from_str`. -/
def parseV4 (text : Str) : Option (BitVec 32) :=
  match IpAddr.readIpv4Addr text with
  | some (bits, []) => some bits
  | _ => none

/-- `Ipv6Addr::from_str`. -/
def parseV6 (text : Str) : Option (BitVec 128) :=
  match IpAddr.readIpv6Addr text with
  | some (bits, []) => some bits
  | _ => none

def oneIpv4Address (addresses : List WindowsAddress) : Result (BitVec 32 × UInt8) :=
  match addresses with
  | [a] =>
    match parseV4 a.address with
    | some bits => .ok (bits, a.prefixLength)
    | none => .error (platformReaderError "Windows IPv4 address is invalid")
  | _ => .error (platformReaderError "Windows static IPv4 must have one address")

def oneIpv6Address (addresses : List WindowsAddress) : Result (BitVec 128 × UInt8) :=
  match addresses with
  | [a] =>
    match parseV6 (a.address.takeWhile (· != '%')) with
    | some bits => .ok (bits, a.prefixLength)
    | none => .error (platformReaderError "Windows IPv6 address is invalid")
  | _ => .error (platformReaderError "Windows static IPv6 must have one address")

def parseIpv4 (document : WindowsStateDocument) : Result Ipv4Configuration :=
  if document.dhcp then .ok .dhcp
  else do
    let address ← oneIpv4Address document.addresses4
    .ok (.static [⟨.v4 address.1, address.2⟩])

def parseIpv6 (document : WindowsStateDocument) : Result Ipv6Configuration :=
  if document.ipv6State = "disabled" then
    if !document.addresses6.isEmpty then .error (platformReaderError "disabled IPv6 has addresses") else .ok .disabled
  else if document.ipv6State = "automatic" then .ok .automatic
  else if document.ipv6State = "static" then do
    let address ← oneIpv6Address document.addresses6
    .ok (.static [⟨.v6 address.1, address.2⟩])
  else .error (platformReaderError "Windows IPv6 state is invalid")

/-- `parse_windows_json_state`, on a document that was read. -/
def parseWindowsState (document : WindowsStateDocument) (expectedInterfaceId : Str) : Result NetworkDesiredState :=
  if document.schemaVersion ≠ 1 ∨ document.interfaceCount ≠ 1 ∨ document.interfaceId ≠ expectedInterfaceId ∨
      document.routeCount ≠ 0 ∨ !document.defaultGateways.isEmpty ∨ 16 < document.servers.length ∨
      ¬ (576 ≤ document.mtu.toNat ∧ document.mtu.toNat ≤ 65535) then
    .error (platformReaderError "Windows state JSON failed schema validation")
  else do
    let ipv4 ← parseIpv4 document
    let ipv6 ← parseIpv6 document
    let servers ← parseServers "Windows DNS address is invalid" document.servers
    let state : NetworkDesiredState := ⟨ipv4, ipv6, ⟨servers.isEmpty, servers, []⟩, [], some document.mtu⟩
    state.validate.mapError (.new .protocolInvalid · false)
    .ok state

def stateQueryCommand (interfaceId : Str) : PlatformCommand :=
  ⟨powershellExe, stateQueryOptions ++ [windowsStateQuery, "--".toList, interfaceId]⟩

def query (interfaceId : Str) (x : Interface) : Result WindowsStateDocument := do
  validatePlatformCommand (stateQueryCommand interfaceId)
  match stateDocument x with
  | some document => .ok document
  | none => .error (.new .helperExecutionFailed "PowerShell state query failed" true)

def readState (interfaceId : Str) (x : Interface) : Result NetworkDesiredState := do
  validateInterface interfaceId
  let document ← query interfaceId x
  parseWindowsState document interfaceId

/-! ## What the reader returns -/

theorem parseV4_textV4 (bits : BitVec 32) : parseV4 (textV4 bits) = some bits := by
  have h := IpAddr.readIpv4Addr_displayV4 bits (Numeral.noDigit_nil 10)
  rw [append_nil] at h
  have htext : textV4 bits = (IpAddr.displayV4 bits).toList := rfl
  unfold parseV4
  rw [htext, h]

theorem parseV6_textV6 (bits : BitVec 128) : parseV6 (textV6 bits) = some bits := by
  have htext : textV6 bits = (IpAddr.displayV6 bits).toList := rfl
  unfold parseV6
  rw [htext, IpAddr.readIpv6Addr_displayV6]

theorem takeWhile_zone (x : Interface) (bits : BitVec 128) :
    (textV6 bits ++ zone x bits).takeWhile (· != '%') = textV6 bits := by
  have hall : ∀ c ∈ textV6 bits, (c != '%') = true := by
    intro c hc
    refine bne_iff_ne.2 fun heq => ?_
    subst heq
    exact (bare_textV6 bits).not_mem (by decide) hc
  rw [takeWhile_append_of_pos hall]
  unfold zone
  split
  · rw [takeWhile_cons_of_neg (by decide), append_nil]
  · rw [takeWhile_nil, append_nil]

def Ipv4Setting.configuration : Ipv4Setting → Option Ipv4Configuration
  | .dhcp => some .dhcp
  | .static [(address, length)] _ => some (.static [⟨.v4 address, length⟩])
  | .static _ _ => none

def Ipv6Setting.configuration : Ipv6Setting → Option Ipv6Configuration
  | .automatic => some .automatic
  | .disabled => some .disabled
  | .static [] => some .disabled
  | .static [(address, length)] => some (.static [⟨.v6 address, length⟩])
  | .static _ => none

variable {c : Ipv4Configuration} {state : NetworkDesiredState} {x : Interface}

theorem Ipv4Setting.configuration_cases {s : Ipv4Setting} (h : s.configuration = some c) :
    (s = .dhcp ∧ c = .dhcp) ∨ ∃ address length gateways, s = .static [(address, length)] gateways ∧
      c = .static [⟨.v4 address, length⟩] := by
  rcases s with _ | ⟨_ | ⟨⟨address, length⟩, _ | ⟨second, rest⟩⟩, gateways⟩
  · exact .inl ⟨rfl, (Option.some.inj h).symm⟩
  · cases h
  · exact .inr ⟨address, length, gateways, rfl, (Option.some.inj h).symm⟩
  · cases h

theorem Ipv6Setting.configuration_cases {s : Ipv6Setting} {c : Ipv6Configuration} (h : s.configuration = some c) :
    (s = .automatic ∧ c = .automatic) ∨ (s ≠ .automatic ∧ c = .disabled) ∨
      ∃ address length, s = .static [(address, length)] ∧ c = .static [⟨.v6 address, length⟩] := by
  rcases s with _ | _ | ⟨_ | ⟨⟨address, length⟩, _ | ⟨second, rest⟩⟩⟩
  · exact .inl ⟨rfl, (Option.some.inj h).symm⟩
  · exact .inr (.inl ⟨by simp, (Option.some.inj h).symm⟩)
  · exact .inr (.inl ⟨by simp, (Option.some.inj h).symm⟩)
  · exact .inr (.inr ⟨address, length, rfl, (Option.some.inj h).symm⟩)
  · cases h

theorem Ipv4Setting.dhcp_iff {s : Ipv4Setting} (h : s.configuration = some c) : s = .dhcp ↔ c = .dhcp := by
  rcases configuration_cases h with ⟨rfl, rfl⟩ | ⟨_, _, _, rfl, rfl⟩ <;> simp

theorem Ipv6Setting.automatic_iff {s : Ipv6Setting} {c : Ipv6Configuration} (h : s.configuration = some c) :
    s = .automatic ↔ c = .automatic := by
  rcases configuration_cases h with ⟨rfl, rfl⟩ | ⟨hne, rfl⟩ | ⟨_, _, rfl, rfl⟩
  · simp
  · simp [hne]
  · simp

section
variable {x : Interface} {document : WindowsStateDocument}

theorem stateDocument_eq_some_iff : stateDocument x = some document ↔ ∃ name, x.adapters = [name] ∧
    document = ⟨1, 1, name, x.ipv4 = .dhcp,
    x.addresses4.map (fun a => ⟨textV4 a.1, a.2⟩), ipv6StateText x.ipv6,
      x.addresses6.map (fun a => ⟨textV6 a.1 ++ zone x a.1, a.2⟩),
    serverTexts x.servers, x.mtu, (x.hops.filter (·.1)).map (fun r => r.2.display.toList), x.hops.length⟩ := by
  unfold stateDocument
  rcases x.adapters with _ | ⟨name, _ | ⟨other, names⟩⟩
  · simp
  · simp only [Option.some.injEq, List.cons.injEq, and_true, exists_eq_left', eq_comm]
  · simp

theorem parseIpv4_ok_iff (h : stateDocument x = some document) {ipv4 : Ipv4Configuration} :
    parseIpv4 document = .ok ipv4 ↔ x.ipv4.configuration = some ipv4 := by
  obtain ⟨name, -, rfl⟩ := stateDocument_eq_some_iff.1 h
  unfold parseIpv4 Interface.addresses4
  rcases x.ipv4 with _ | ⟨_ | ⟨⟨address, length⟩, _ | ⟨second, rest⟩⟩, gateways⟩
  · simp [Ipv4Setting.configuration]
  · simp [Ipv4Setting.configuration, oneIpv4Address]
  · simp [Ipv4Setting.configuration, oneIpv4Address, parseV4_textV4]
  · simp [Ipv4Setting.configuration, oneIpv4Address]

theorem parseIpv6_ok_iff (h : stateDocument x = some document) {ipv6 : Ipv6Configuration} :
    parseIpv6 document = .ok ipv6 ↔ x.ipv6.configuration = some ipv6 := by
  obtain ⟨name, -, rfl⟩ := stateDocument_eq_some_iff.1 h
  unfold parseIpv6 Interface.addresses6
  rcases x.ipv6 with _ | _ | ⟨_ | ⟨⟨address, length⟩, _ | ⟨second, rest⟩⟩⟩
  · simp [Ipv6Setting.configuration, ipv6StateText]
  · simp [Ipv6Setting.configuration, ipv6StateText]
  · simp [Ipv6Setting.configuration, ipv6StateText]
  · simp [Ipv6Setting.configuration, ipv6StateText, oneIpv6Address, takeWhile_zone, parseV6_textV6]
  · simp [Ipv6Setting.configuration, ipv6StateText, oneIpv6Address]

end

/-- What an interface with no next hop reads as. -/
structure Reads (x : Interface) (state : NetworkDesiredState) : Prop where
  hops : x.hops = []
  ipv4 : x.ipv4.configuration = some state.ipv4
  ipv6 : x.ipv6.configuration = some state.ipv6
  dns : state.dns = ⟨x.servers.isEmpty, x.servers, []⟩
  routes : state.routes = []
  mtu : state.mtu = some x.mtu
  valid : state.validate = .ok ()

theorem parseWindowsState_ok_iff {document : WindowsStateDocument} {interfaceId : Str}
    (h : stateDocument x = some document) :
    parseWindowsState document interfaceId = .ok state ↔ x.adapters = [interfaceId] ∧ Reads x state := by
  have h4 : ∀ ipv4, parseIpv4 document = .ok ipv4 ↔ x.ipv4.configuration = some ipv4 := fun _ => parseIpv4_ok_iff h
  have h6 : ∀ ipv6, parseIpv6 document = .ok ipv6 ↔ x.ipv6.configuration = some ipv6 := fun _ => parseIpv6_ok_iff h
  obtain ⟨name, hname, hdocument⟩ := stateDocument_eq_some_iff.1 h
  unfold parseWindowsState
  rw [Check.guard_ok]
  simp only [Check.bind_ok, Check.mapError_ok, h4, h6]
  constructor
  · rintro ⟨hschema, ipv4, hipv4, ipv6, hipv6, servers, hservers, _, hvalid, hstate⟩
    simp only [not_or, not_not] at hschema
    obtain ⟨-, -, hid, hroutes, -⟩ := hschema
    rw [hdocument] at hid hroutes hservers
    rw [parseServers_display] at hservers
    cases hservers
    cases hstate
    refine ⟨hid ▸ hname, length_eq_zero_iff.1 hroutes, hipv4, hipv6, rfl, rfl, ?_, hvalid⟩
    rw [hdocument]
  · rintro ⟨hid, hreads⟩
    obtain rfl : name = interfaceId := by
      rw [hname] at hid
      cases hid
      rfl
    have hvalid := NetworkDesiredState.valid_of_validate hreads.valid
    have hlength : x.servers.length ≤ 16 := by
      have hle := hvalid.servers_length
      rw [hreads.dns] at hle
      exact hle
    refine ⟨?_, state.ipv4, hreads.ipv4, state.ipv6, hreads.ipv6, x.servers, ?_, (), ?_, ?_⟩
    · rw [hdocument]
      simp only [not_or, not_not, hreads.hops]
      refine ⟨trivial, trivial, trivial, rfl, by simp, ?_, hvalid.mtu _ hreads.mtu⟩
      unfold serverTexts
      rw [length_map]
      omega
    · rw [hdocument]
      exact parseServers_display _ _
    · rw [hdocument, ← hreads.dns, ← hreads.routes, ← hreads.mtu]
      exact hreads.valid
    · rw [hdocument, ← hreads.dns, ← hreads.routes, ← hreads.mtu]

/-- The query's command is the one that is let through, whatever the name. -/
theorem validate_stateQueryCommand (interfaceId : Str) :
    validatePlatformCommand (stateQueryCommand interfaceId) = validateInterface interfaceId := by
  have hallowed : ¬ (powershellExe ≠ networksetupProgram ∧ powershellExe ≠ netshProgram ∧
    powershellExe ≠ powershellExe) := by simp
  unfold validatePlatformCommand stateQueryCommand
  rw [if_neg hallowed, if_pos rfl]
  unfold validateStateQueryCommand
  rw [if_neg]
  · rfl
  · simp [stateQueryOptions]

theorem readState_ok_iff {interfaceId : Str} :
    readState interfaceId x = .ok state ↔ validateInterface interfaceId = .ok () ∧ x.adapters = [interfaceId] ∧
      Reads x state := by
  unfold readState query
  rw [validate_stateQueryCommand]
  cases hinterface : validateInterface interfaceId with
  | error e => simp
  | ok u =>
    cases hdocument : stateDocument x with
    | none =>
      have hnot : x.adapters ≠ [interfaceId] := by
        intro heq
        have hsome := stateDocument_eq_some_iff.2 ⟨interfaceId, heq, rfl⟩
        rw [hdocument] at hsome
        cases hsome
      simp [hnot]
    | some document =>
      simp only [Check.ok_bind]
      rw [parseWindowsState_ok_iff hdocument]
      simp

theorem Reads.single (h : Reads x state) : Single state := by
  refine ⟨h.valid, ?_, ?_, ?_, h.routes, _, h.mtu⟩
  · rcases Ipv4Setting.configuration_cases h.ipv4 with ⟨-, heq⟩ | ⟨address, length, _, -, heq⟩
    · exact .inl heq
    · exact .inr ⟨address, length, heq⟩
  · rcases Ipv6Setting.configuration_cases h.ipv6 with ⟨-, heq⟩ | ⟨-, heq⟩ | ⟨address, length, -, heq⟩
    · exact .inl heq
    · exact .inr (.inl heq)
    · exact .inr (.inr ⟨address, length, heq⟩)
  · rw [h.dns]

/-! ## The platform -/

theorem adapter_dns_ok {i : Str} {dns : DnsConfiguration} {c : Command} (h : adapter.dns i dns = .ok c) :
    (dns.automatic = true ∧ c = .setDnsDhcp i) ∨
      (dns.automatic = false ∧ ∃ server rest, dns.servers = server :: rest ∧ c = .setDnsStatic i server) := by
  obtain ⟨automatic, servers, domains⟩ := dns
  cases automatic with
  | true => exact .inl ⟨rfl, (Except.ok.inj h).symm⟩
  | false =>
    cases servers with
    | nil => cases h
    | cons server rest => exact .inr ⟨rfl, server, rest, rfl, (Except.ok.inj h).symm⟩

theorem adapter_addressed {i : Str} {desired : NetworkDesiredState} {commands : List Command}
    (h : adapter.build i desired = .ok commands) : ∀ c ∈ commands, c.interfaceId = i := by
  obtain ⟨-, -, -, -, ipv4, ipv6, dns, h4, h6, hdns, rfl, -⟩ := Adapter.build_ok_iff.1 h
  refine Adapter.forall_commands h4 h6 rfl (fun _ _ => rfl) rfl rfl (fun _ _ => rfl) ?_ (fun _ => rfl)
  rcases adapter_dns_ok hdns with ⟨-, rfl⟩ | ⟨-, _, _, -, rfl⟩ <;> rfl

def platform : Platform Interface Command where
  toAdapter := adapter
  backend := .windows
  interfaceId := Command.interfaceId
  run := run
  readState := readState
  addressed _ _ _ h := adapter_addressed h

theorem plain_append {label : String} (hlabel : Plain label.toList) {text : Str} :
    Plain (label.toList ++ text) ↔ ∀ c ∈ text, forbidden c = false := by
  constructor
  · exact fun h c hc => h.plain c (mem_append_right _ hc)
  · intro h
    refine ⟨by simp [hlabel.ne_nil], fun c hc => ?_⟩
    rcases mem_append.1 hc with hc | hc
    · exact hlabel.plain c hc
    · exact h c hc

theorem plain_arguments {c : Command} (hi : Plain c.interfaceId) : ∀ argument ∈ c.arguments, Plain argument := by
  have hname : Plain ("name=".toList ++ c.interfaceId) := (plain_append (by decide)).2 hi.plain
  have hinterface : Plain ("interface=".toList ++ c.interfaceId) := (plain_append (by decide)).2 hi.plain
  have hlabelled : ∀ {label : String} {text : Str}, Plain label.toList → Bare text → Plain (label.toList ++ text) :=
    fun hlabel htext => (plain_append hlabel).2 htext.plain.plain
  -- an argument is a word, the labelled name, or a labelled value
  cases c <;> simp only [Command.arguments, forall_mem_cons] <;> repeat' apply And.intro
  all_goals first
    | decide
    | with_reducible exact hlabelled (by decide) (bare_textV4 _)
    | with_reducible exact hlabelled (by decide) (bare_textV6 _)
    | with_reducible exact hlabelled (by decide) (bare_textNat _)
    | with_reducible exact hlabelled (by decide) (bare_display _)
    | exact hname
    | exact hinterface

theorem validate_command {c : Command} (hi : Plain c.interfaceId) :
    validatePlatformCommand (adapter.command c) = .ok () := by
  refine (validatePlatformCommand_ok_iff (.inr rfl)).2 ⟨?_, ?_, plain_arguments hi⟩
  · show c.arguments ≠ []
    cases c <;> simp [Command.arguments]
  · show c.arguments.length ≤ 32
    cases c <;> simp [Command.arguments]

/-! ## Where the commands of a state lead -/

/-- The settings of the configurations the reader returns. -/
def setting4 : Ipv4Configuration → Ipv4Setting
  | .static [⟨.v4 address, length⟩] => .static [(address, length)] []
  | _ => .dhcp

def setting6 : Ipv6Configuration → Ipv6Setting
  | .static [⟨.v6 address, length⟩] => .static [(address, length)]
  | .automatic => .automatic
  | _ => .disabled

/-- The interface after the commands of a state that set its IPv4 servers to `dns4`. -/
def Interface.configured (x : Interface) (state : NetworkDesiredState) (mtu : UInt32)
    (dns4 : Option (List (BitVec 32))) : Interface :=
  { x with ipv4 := setting4 state.ipv4, ipv6 := setting6 state.ipv6, dns4 := dns4, mtu := mtu }

def dnsSetting : List IpAddr → Option (Option (List (BitVec 32)))
  | [] => some none
  | .v4 server :: _ => some (some [server])
  | .v6 _ :: _ => none

section
variable {i : Str} {state : NetworkDesiredState} (hsingle : Single state)
include hsingle

theorem run_ipv4 {c : Command} (h : adapter.ipv4Command i state.ipv4 = .ok c) (x : Interface) :
    run c x = some { x with ipv4 := setting4 state.ipv4 } := by
  rcases Adapter.ipv4Command_ok h with ⟨heq, rfl⟩ | ⟨heq, -⟩ | ⟨address, length, heq, hlength, rfl⟩
  · rw [heq]
    rfl
  · rcases hsingle.ipv4 with hdhcp | ⟨_, _, hstatic⟩
    · rw [heq] at hdhcp; cases hdhcp
    · rw [heq] at hstatic; cases hstatic
  · rw [heq]
    show some { x with ipv4 := .static [(address, UInt8.ofNat (leadingOnes (netmask length.toNat)))] [] } = _
    rw [leadingOnes_netmask hlength, UInt8.ofNat_toNat]
    rfl

omit hsingle in
theorem run_ipv6 {c : Command} {ipv6 : Ipv6Configuration} (h : adapter.ipv6Command i ipv6 = .ok c) (x : Interface) :
    run c x = some { x with ipv6 := setting6 ipv6 } := by
  rcases Adapter.ipv6Command_ok h with ⟨rfl, rfl⟩ | ⟨rfl, rfl⟩ | ⟨address, length, rfl, rfl⟩ <;> rfl

theorem run_dns {c : Command} (h : adapter.dns i state.dns = .ok c) (x : Interface) :
    run c x = (dnsSetting state.dns.servers).map (fun dns4 => { x with dns4 := dns4 }) := by
  rw [hsingle.dns] at h
  cases hservers : state.dns.servers with
  | nil =>
    rw [hservers] at h
    cases h
    rfl
  | cons server rest =>
    rw [hservers] at h
    cases h
    cases server <;> rfl

theorem dns_ok : ∃ c, adapter.dns i state.dns = .ok c := by
  rw [hsingle.dns]
  cases state.dns.servers with
  | nil => exact ⟨_, rfl⟩
  | cons server rest => exact ⟨_, rfl⟩

theorem configuration_setting4 : (setting4 state.ipv4).configuration = some state.ipv4 := by
  rcases hsingle.ipv4 with heq | ⟨address, length, heq⟩ <;> rw [heq] <;> rfl

theorem configuration_setting6 : (setting6 state.ipv6).configuration = some state.ipv6 := by
  rcases hsingle.ipv6 with heq | heq | ⟨address, length, heq⟩ <;> rw [heq] <;> rfl

variable {commands : List Command}

theorem runAll_build {mtu : UInt32} (hmtu : state.mtu = some mtu) (h : adapter.build i state = .ok commands)
    (x : Interface) : platform.runAll commands x = (dnsSetting state.dns.servers).map (x.configured state mtu) := by
  obtain ⟨-, -, -, -, c4, c6, cd, h4, h6, hdns, rfl, -⟩ := Adapter.build_ok_iff.1 h
  rw [hmtu]
  show (run c4 x).bind _ = _
  rw [run_ipv4 hsingle h4]
  show (run c6 _).bind _ = _
  rw [run_ipv6 h6]
  show (run cd _).bind _ = _
  rw [run_dns hsingle hdns]
  cases dnsSetting state.dns.servers with
  | none => rfl
  | some dns4 => rfl

omit hsingle in
/-- Every DNS command names the interface, so its name is checked. -/
theorem plain_of_build (h : adapter.build i state = .ok commands) : Plain i := by
  obtain ⟨hinterface, -, -, -, c4, c6, cd, -, -, hdns, rfl, hvalid⟩ := Adapter.build_ok_iff.1 h
  have hcommand : validatePlatformCommand (adapter.command cd) = .ok () :=
    (validateCommands_ok_iff.1 hvalid).2 _ (mem_map_of_mem (by simp))
  have hname : "name=".toList ++ i ∈ (adapter.command cd).arguments := by
    rcases adapter_dns_ok hdns with ⟨-, rfl⟩ | ⟨-, _, _, -, rfl⟩ <;> simp [adapter, Command.arguments]
  have hprogram : (adapter.command cd).program = netshProgram := rfl
  have hargument := ((validatePlatformCommand_ok_iff (.inr hprogram)).1 hcommand).2.2 _ hname
  refine ⟨?_, (plain_append (by decide)).1 hargument⟩
  rintro rfl
  cases hinterface

theorem build_ok : (∃ commands, adapter.build i state = .ok commands) ↔ validateInterface i = .ok () ∧ Plain i := by
  constructor
  · rintro ⟨commands, h⟩
    exact ⟨(Adapter.build_ok_iff.1 h).1, plain_of_build h⟩
  · rintro ⟨hinterface, hplain⟩
    obtain ⟨c4, h4⟩ := hsingle.ipv4Command (a := adapter) i
    obtain ⟨c6, h6⟩ := hsingle.ipv6Command (a := adapter) i
    obtain ⟨cd, hdns⟩ := dns_ok (i := i) hsingle
    have hdomains : state.dns.searchDomains = [] := by rw [hsingle.dns]
    refine ⟨_, Adapter.build_ok_iff.2 ⟨hinterface, hsingle.valid, hsingle.routes, hdomains, c4, c6, cd, h4, h6,
      hdns, rfl, ?_⟩⟩
    refine validateCommands_ok_iff.2 ⟨by simp, fun command hcommand => ?_⟩
    obtain ⟨c, hc, rfl⟩ := mem_map.1 hcommand
    refine validate_command ?_
    refine Adapter.forall_commands (P := fun c => Plain c.interfaceId) h4 h6 hplain (fun _ _ => hplain) hplain hplain
      (fun _ _ => hplain) ?_ (fun _ => hplain) c hc
    rcases adapter_dns_ok hdns with ⟨-, rfl⟩ | ⟨-, _, _, -, rfl⟩ <;> exact hplain

end

/-! ## What the commands leave as it was -/

def Interface.standing6 (x : Interface) (ipv6 : Ipv6Configuration) : List (BitVec 128) :=
  match x.dns6 with
  | some servers => servers
  | none => if ipv6 = .automatic then x.lease6.servers else []

structure NoHop (x : Interface) (state : NetworkDesiredState) : Prop where
  routes : ∀ r ∈ x.routes, r.2.isUnspecified = true
  gateways4 : state.ipv4 = .dhcp → ∀ g ∈ x.lease4.gateways, (IpAddr.v4 g).isUnspecified = true
  gateways6 : state.ipv6 = .automatic → ∀ g ∈ x.lease6.gateways, (IpAddr.v6 g).isUnspecified = true

/-- The servers of a state are those its one DNS command leaves. -/
def OneServer (x : Interface) (state : NetworkDesiredState) : Prop :=
  (state.dns.servers = [] ∧ (state.ipv4 = .dhcp → x.lease4.servers = []) ∧ x.standing6 state.ipv6 = []) ∨
    ∃ server, state.dns.servers = .v4 server :: (x.standing6 state.ipv6).map .v6

theorem hops_eq_nil_iff : x.hops = [] ↔ (∀ r ∈ x.routes, r.2.isUnspecified = true) ∧
    (∀ g ∈ x.gateways4, (IpAddr.v4 g).isUnspecified = true) ∧
      ∀ g ∈ x.gateways6, (IpAddr.v6 g).isUnspecified = true := by
  unfold Interface.hops
  rw [filter_eq_nil_iff]
  simp only [Bool.not_eq_true', Bool.not_eq_false, forall_mem_append, forall_mem_map, and_assoc]

section
variable {x : Interface} {state : NetworkDesiredState} {mtu : UInt32} {dns4 : Option (List (BitVec 32))}
    (hsingle : Single state)
include hsingle

theorem hops_configured : (x.configured state mtu dns4).hops = [] ↔ NoHop x state := by
  have h4 : (x.configured state mtu dns4).gateways4 = if state.ipv4 = .dhcp then x.lease4.gateways else [] := by
    rcases hsingle.ipv4 with
      heq | ⟨address, length, heq⟩ <;> simp [Interface.configured, Interface.gateways4, setting4, heq]
  have h6 : (x.configured state mtu dns4).gateways6 = if state.ipv6 = .automatic then x.lease6.gateways else [] := by
    simp only [Interface.configured, Interface.gateways6, Ipv6Setting.automatic_iff (configuration_setting6 hsingle)]
  rw [hops_eq_nil_iff, h4, h6]
  constructor
  · rintro ⟨hroutes, hgateways4, hgateways6⟩
    exact ⟨hroutes, fun heq => by rwa [if_pos heq] at hgateways4, fun heq => by rwa [if_pos heq] at hgateways6⟩
  · intro h
    refine ⟨h.routes, ?_, ?_⟩
    · split
      · exact h.gateways4 (by assumption)
      · simp
    · split
      · exact h.gateways6 (by assumption)
      · simp

theorem servers6_configured : (x.configured state mtu dns4).servers6 = x.standing6 state.ipv6 := by
  simp only [Interface.configured, Interface.servers6, Interface.standing6,
    Ipv6Setting.automatic_iff (configuration_setting6 hsingle)]

theorem servers4_configured :
    (x.configured state mtu dns4).servers4 = dns4.getD (if state.ipv4 = .dhcp then x.lease4.servers else []) := by
  rcases hsingle.ipv4 with
    heq | ⟨address, length, heq⟩ <;> cases dns4 <;> simp [Interface.configured, Interface.servers4, setting4, heq]

theorem servers_configured :
    (∃ dns4, dnsSetting state.dns.servers = some dns4 ∧ (x.configured state mtu dns4).servers = state.dns.servers) ↔
    OneServer x state := by
  have hservers : ∀ dns4, (x.configured state mtu dns4).servers =
      (dns4.getD (if state.ipv4 = .dhcp then x.lease4.servers else [])).map IpAddr.v4 ++
        (x.standing6 state.ipv6).map .v6 := by
    intro dns4
    unfold Interface.servers
    rw [servers4_configured hsingle, servers6_configured hsingle]
  simp only [hservers]
  unfold OneServer
  generalize state.dns.servers = servers
  generalize x.standing6 state.ipv6 = standing
  rcases servers with _ | ⟨server | server, rest⟩
  · simp [dnsSetting]
  · constructor
    · rintro ⟨_, ⟨⟩, hrest⟩
      exact .inr ⟨server, hrest.symm⟩
    · rintro (⟨hnil, -⟩ | ⟨first, hrest⟩)
      · cases hnil
      · cases hrest
        exact ⟨some [server], rfl, rfl⟩
  · simp [dnsSetting]

end

/-- **The states that are read back after their commands**: of an interface with one matching adapter, those without a
next hop and with no DNS server but one of IPv4 and those the commands do not set. -/
theorem settles_iff {i : Str} : platform.Settles i x state ↔
    validateInterface i = .ok () ∧ Plain i ∧ Single state ∧ x.adapters = [i] ∧ NoHop x state ∧ OneServer x state := by
  constructor
  · rintro ⟨commands, x', hbuild, hrun, hread⟩
    obtain ⟨hinterface, hadapters, hreads⟩ := readState_ok_iff.1 hread
    have hsingle := hreads.single
    obtain ⟨mtu, hmtu⟩ := hsingle.mtu
    obtain ⟨-, hplain⟩ := (build_ok hsingle).1 ⟨commands, hbuild⟩
    rw [runAll_build hsingle hmtu hbuild, Option.map_eq_some_iff] at hrun
    obtain ⟨dns4, hdns4, rfl⟩ := hrun
    have hservers : (x.configured state mtu dns4).servers = state.dns.servers := by rw [hreads.dns]
    exact ⟨hinterface, hplain, hsingle, hadapters, (hops_configured hsingle).1 hreads.hops,
      (servers_configured hsingle).1 ⟨dns4, hdns4, hservers⟩⟩
  · rintro ⟨hinterface, hplain, hsingle, hadapters, hnohop, hone⟩
    obtain ⟨mtu, hmtu⟩ := hsingle.mtu
    obtain ⟨commands, hbuild⟩ := (build_ok hsingle).2 ⟨hinterface, hplain⟩
    obtain ⟨dns4, hdns4, hservers⟩ := (servers_configured hsingle).2 hone
    refine ⟨commands, x.configured state mtu dns4, hbuild, ?_, readState_ok_iff.2 ⟨hinterface, hadapters, ?_⟩⟩
    · rw [runAll_build hsingle hmtu hbuild, hdns4]
      rfl
    · refine ⟨(hops_configured hsingle).2 hnohop, configuration_setting4 hsingle, configuration_setting6 hsingle, ?_,
        hsingle.routes, hmtu, hsingle.valid⟩
      rw [hservers]
      exact hsingle.dns

end Windows
end PlatformNetwork
end NetTool
