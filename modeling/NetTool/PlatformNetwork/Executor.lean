import Mathlib.Logic.Function.Basic
import NetTool.Address
import NetTool.Error
import NetTool.Helper.DesiredState
import NetTool.Lib.Files
import NetTool.Lib.Prog
import NetTool.Lib.Str
/-!
# PlatformNetwork.Executor — the macOS and Windows executor (`crates/helper-core/src/platform_network.rs`)

A snapshot is the state the platform's reader returns; an apply and a restore run the commands that are built from a
state.  The two platforms share the executor and, up to the commands and the texts of an `Adapter`, the builder.  The
operating system does what a command says or refuses it (`Platform.run`).  So an apply that is verified and a restore
that reads back come to one question, whether the commands of a state bring an interface to where it reads as that state
(`Platform.Settles`).
-/
namespace NetTool
namespace PlatformNetwork

open Check Helper Prog List

inductive PlatformBackend
  | macos
  | windows
  deriving DecidableEq

structure PlatformCommand where
  program : String
  arguments : List Str

structure PlatformSnapshot where
  version : Nat
  interfaceId : Str
  backend : PlatformBackend
  state : NetworkDesiredState

def platformSnapshotVersion : Nat := 1

/-! ## Errors -/

def invalid (message : String) : NetToolError := .new .invalidArgument message false

def platformPersistenceError (error : String) : NetToolError :=
  .new .persistenceFailed ("platform snapshot persistence failed: " ++ error) true

def platformReaderError (message : String) : NetToolError := .new .helperExecutionFailed message true

/-! ## Commands -/

def validateInterface (interfaceId : Str) : Result Unit :=
  if interfaceId.isEmpty ∨ 256 < (interfaceId.map Char.utf8Size).sum ∨
      interfaceId.any (fun c => c == '\x00' || c == '\n' || c == '\r') then
    .error (invalid "interface ID contains unsupported characters")
  else .ok ()

def networksetupProgram : String := "/usr/sbin/networksetup"
def netshProgram : String := "C:\\Windows\\System32\\netsh.exe"
def powershellExe : String := "C:\\Windows\\System32\\WindowsPowerShell\\v1.0\\powershell.exe"

/-- `WINDOWS_STATE_QUERY`, by lines. -/
@[irreducible] def windowsStateQuery : Str := "\n".toList.intercalate ([
    "& \x7b",
    "param([Parameter(Mandatory=$true)][string]$InterfaceId)",
    "$ErrorActionPreference = 'Stop'",
    "Set-StrictMode -Version Latest",
    "[Console]::OutputEncoding = [System.Text.UTF8Encoding]::new($false)",
    "$adapter = @(Get-NetAdapter -Name $InterfaceId -ErrorAction Stop)",
    "if ($adapter.Count -ne 1) \x7b throw 'interface lookup did not return exactly one adapter' \x7d",
    "$index = $adapter[0].ifIndex",
    "$v4Interface = @(Get-NetIPInterface -InterfaceIndex $index -AddressFamily IPv4 -ErrorAction Stop)",
    "$v6Interface = @(Get-NetIPInterface -InterfaceIndex $index -AddressFamily IPv6 -ErrorAction Stop)",
    "if ($v4Interface.Count -ne 1 -or $v6Interface.Count -ne 1) \x7b throw 'IP interface lookup did not return exactly one entry per family' \x7d",
    "$v4 = @(Get-NetIPAddress -InterfaceIndex $index -AddressFamily IPv4 -ErrorAction Stop |",
    "    Where-Object \x7b $_.AddressState -eq 'Preferred' \x7d) |",
    "    ForEach-Object \x7b @\x7b address=$_.IPAddress; prefix_length=[int]$_.PrefixLength \x7d \x7d",
    "$v6 = @(Get-NetIPAddress -InterfaceIndex $index -AddressFamily IPv6 -ErrorAction Stop |",
    "    Where-Object \x7b $_.AddressState -eq 'Preferred' -and $_.PrefixOrigin -eq 'Manual' \x7d) |",
    "    ForEach-Object \x7b @\x7b address=$_.IPAddress; prefix_length=[int]$_.PrefixLength \x7d \x7d",
    "$routes = @(Get-NetRoute -InterfaceIndex $index -ErrorAction Stop |",
    "    Where-Object \x7b $_.RouteMetric -ge 0 -and $_.NextHop -notin @('0.0.0.0','::') \x7d)",
    "$gateways = @($routes | Where-Object \x7b $_.DestinationPrefix -in @('0.0.0.0/0','::/0') \x7d |",
    "    ForEach-Object \x7b $_.NextHop \x7d)",
    "$dns = @(Get-DnsClientServerAddress -InterfaceIndex $index -ErrorAction Stop |",
    "    ForEach-Object \x7b $_.ServerAddresses \x7d | Where-Object \x7b $_ \x7d)",
    "$ipv6State = if ($v6.Count -gt 0) \x7b",
    "    'static'",
    "\x7d elseif ($v6Interface[0].RouterDiscovery -eq 'Disabled' -and $v6Interface[0].Dhcp -eq 'Disabled') \x7b",
    "    'disabled'",
    "\x7d else \x7b",
    "    'automatic'",
    "\x7d",
    "@\x7b schema_version=1; interface_count=$adapter.Count; interface_id=$adapter[0].Name;",
    "   ipv4=@\x7b dhcp=($v4Interface[0].Dhcp -eq 'Enabled'); addresses=@($v4) \x7d;",
    "   ipv6=@\x7b state=$ipv6State; addresses=@($v6) \x7d;",
    "   dns=@\x7b servers=@($dns) \x7d; mtu=[int]$v4Interface[0].NlMtu;",
    "   default_gateways=@($gateways); route_count=$routes.Count \x7d | ConvertTo-Json -Compress -Depth 6",
    "\x7d"].map String.toList)

def stateQueryOptions : List Str :=
  ["-NoLogo", "-NoProfile", "-NonInteractive", "-ExecutionPolicy", "Bypass", "-Command"].map String.toList

def validateStateQueryCommand (command : PlatformCommand) : Result Unit :=
  if command.arguments.length ≠ 9 ∨ command.arguments.take 6 ≠ stateQueryOptions ∨
      command.arguments[6]? ≠ some windowsStateQuery ∨ command.arguments[7]? ≠ some "--".toList then
    .error (invalid "PowerShell state query arguments are not allowlisted")
  else validateInterface (command.arguments[8]?.getD [])

/-- The characters no argument of `networksetup` and `netsh` may have. -/
def forbidden (c : Char) : Bool :=
  c == '\x00' || c == '\n' || c == '\r' || c == ';' || c == '|' || c == '&' || c == '\x60' || c == '$'

def validatePlatformCommand (command : PlatformCommand) : Result Unit :=
  if command.program ≠ networksetupProgram ∧ command.program ≠ netshProgram ∧ command.program ≠ powershellExe then
    .error (invalid "platform command executable is not allowlisted")
  else if command.program = powershellExe then validateStateQueryCommand command
  else if command.arguments.isEmpty ∨ 32 < command.arguments.length then
    .error (invalid "platform command argument count is invalid")
  else if command.arguments.any (fun argument => argument.isEmpty || argument.any forbidden) then
    .error (invalid "platform command argument contains forbidden syntax")
  else .ok ()

def validateEach : List PlatformCommand → Result Unit
  | [] => .ok ()
  | command :: commands => do
    validatePlatformCommand command
    validateEach commands

def validateCommands (commands : List PlatformCommand) : Result Unit :=
  if commands.isEmpty then .error (invalid "platform command sequence is empty") else validateEach commands

def netmask (length : Nat) : BitVec 32 := if length = 0 then 0 else BitVec.allOnes 32 <<< (32 - length)

def leadingOnes (bits : BitVec 32) : Nat := ((List.range 32).takeWhile (fun k => bits.getMsbD k)).length

def ipv4Netmask (length : UInt8) : Result (BitVec 32) :=
  if 32 < length.toNat then .error (invalid "IPv4 prefix is out of range") else .ok (netmask length.toNat)

/-! ## Texts of addresses and numbers -/

def textV4 (bits : BitVec 32) : Str := (IpAddr.v4 bits).display.toList
def textV6 (bits : BitVec 128) : Str := (IpAddr.v6 bits).display.toList
def textNat (n : Nat) : Str := Nat.toDigits 10 n

def serverTexts (servers : List IpAddr) : List Str := servers.map (fun server => server.display.toList)

def parseServers (message : String) : List Str → Result (List IpAddr)
  | [] => .ok []
  | text :: texts =>
    match IpAddr.parse text with
    | some server => (parseServers message texts).map (server :: ·)
    | none => .error (platformReaderError message)

/-! ## The command builder -/

/-- What the builders of the platforms differ in. -/
structure Adapter (C : Type) where
  system : String
  tool : String
  dhcp4 : Str → C
  static4 : Str → BitVec 32 → BitVec 32 → C
  automatic6 : Str → C
  disabled6 : Str → C
  static6 : Str → BitVec 128 → UInt8 → C
  dns : Str → DnsConfiguration → Result C
  setMtu : Str → UInt32 → C
  command : C → PlatformCommand

section
variable {C : Type} (a : Adapter C)

/-- A disabled IPv4 is the unspecified address. -/
def Adapter.ipv4Command (interfaceId : Str) : Ipv4Configuration → Result C
  | .dhcp => .ok (a.dhcp4 interfaceId)
  | .disabled => .ok (a.static4 interfaceId 0 0)
  | .static addresses =>
    if addresses.length ≠ 1 then .error (invalid (a.tool ++ " requires exactly one IPv4 address"))
    else
      match addresses with
      | [] => .error (invalid (a.system ++ " static IPv4 requires an address"))
      | ⟨.v4 address, length⟩ :: _ => do
        let mask ← ipv4Netmask length
        .ok (a.static4 interfaceId address mask)
      | ⟨.v6 _, _⟩ :: _ => .error (invalid (a.system ++ " IPv4 adapter received a non-IPv4 address"))

def Adapter.ipv6Command (interfaceId : Str) : Ipv6Configuration → Result C
  | .automatic => .ok (a.automatic6 interfaceId)
  | .disabled => .ok (a.disabled6 interfaceId)
  | .static addresses =>
    if addresses.length ≠ 1 then .error (invalid (a.tool ++ " requires exactly one IPv6 address"))
    else
      match addresses with
      | [] => .error (invalid (a.system ++ " static IPv6 requires an address"))
      | ⟨.v6 address, length⟩ :: _ => .ok (a.static6 interfaceId address length)
      | ⟨.v4 _, _⟩ :: _ => .error (invalid (a.system ++ " IPv6 adapter received a non-IPv6 address"))

/-- `build_macos_networksetup_commands` and `build_windows_netsh_commands`. -/
def Adapter.build (interfaceId : Str) (desired : NetworkDesiredState) : Result (List C) := do
  validateInterface interfaceId
  desired.validate.mapError invalid
  if !desired.routes.isEmpty ∨ !desired.dns.searchDomains.isEmpty then
    .error (.new .unsupported (a.tool ++ " adapter does not apply routes or DNS search domains") false)
  else do
    let ipv4 ← a.ipv4Command interfaceId desired.ipv4
    let ipv6 ← a.ipv6Command interfaceId desired.ipv6
    let dns ← a.dns interfaceId desired.dns
    let commands := [ipv4, ipv6, dns] ++ (desired.mtu.map (a.setMtu interfaceId)).toList
    validateCommands (commands.map a.command)
    .ok commands

end

/-! ## The executor -/

/-- A platform: its adapter, its reader, and what its commands do to an interface `I`, or `none` where one is refused.
-/
structure Platform (I C : Type) extends Adapter C where
  backend : PlatformBackend
  interfaceId : C → Str
  run : C → I → Option I
  readState : Str → I → Result NetworkDesiredState
  addressed : ∀ i desired commands, toAdapter.build i desired = .ok commands → ∀ c ∈ commands, interfaceId c = i

/-- The interfaces by name, and the snapshot directory. -/
structure World (I : Type) where
  interfaces : Str → I
  snapshots : String → Option PlatformSnapshot

def World.set {I : Type} (interfaceId : Str) (i : I) (w : World I) : World I :=
  { w with interfaces := Function.update w.interfaces interfaceId i }

def World.record {I : Type} (snapshotId : String) (snapshot : PlatformSnapshot) (w : World I) : World I :=
  { w with snapshots := Function.update w.snapshots snapshotId (some snapshot) }

section
variable {I C : Type} (p : Platform I C)

def runCommand (c : C) : Prog (World I) NetToolError Unit := do
  ofExcept (validatePlatformCommand (p.command c))
  let w ← get
  match p.run c (w.interfaces (p.interfaceId c)) with
  | some i => modify (World.set (p.interfaceId c) i)
  | none => fail (.new .helperExecutionFailed "platform network command failed" true)

def executePlatformCommands (commands : List C) : Prog (World I) NetToolError Unit := do
  ofExcept (validateCommands (commands.map p.command))
  forEach (runCommand p) commands

def snapshotPath (snapshotId : String) : Result Unit :=
  if snapshotId.utf8ByteSize ≠ 64 ∨ !snapshotId.toList.all isAsciiHexdigit
    then .error (invalid "platform snapshot ID is invalid")
  else .ok ()

/-- The snapshot's id is a digest of its bytes and the time; here it is chosen by the caller. -/
def snapshot (snapshotId : String) (interfaceId : Str) : Prog (World I) NetToolError (String × NetworkDesiredState) :=
  do
  let w ← get
  let state ← ofExcept (p.readState interfaceId (w.interfaces interfaceId))
  ofExcept (state.validate.mapError invalid)
  ofExcept (snapshotPath snapshotId)
  modify (World.record snapshotId ⟨platformSnapshotVersion, interfaceId, p.backend, state⟩)
  pure (snapshotId, state)

def apply (interfaceId : Str) (desired : NetworkDesiredState) : Prog (World I) NetToolError Unit := do
  ofExcept (desired.validate.mapError invalid)
  let commands ← ofExcept (p.build interfaceId desired)
  executePlatformCommands p commands

def verify (interfaceId : Str) (desired : NetworkDesiredState) : Prog (World I) NetToolError Unit := do
  let w ← get
  let actual ← ofExcept (p.readState interfaceId (w.interfaces interfaceId))
  if actual ≠ desired then
    fail (.new .helperExecutionFailed "platform network state does not match requested state" false)
  else pure ()

def restore (snapshotId : String) : Prog (World I) NetToolError Unit := do
  ofExcept (snapshotPath snapshotId)
  let w ← get
  let snapshot ← ofOption (platformPersistenceError Files.notFound) (w.snapshots snapshotId)
  if snapshot.version ≠ platformSnapshotVersion ∨ snapshot.backend ≠ p.backend then
    fail (.new .protocolIncompatible "platform snapshot version or backend is unsupported" false)
  else do
    let commands ← ofExcept (p.build snapshot.interfaceId snapshot.state)
    executePlatformCommands p commands

end

/-! ## What the checks accept -/

structure Plain (argument : Str) : Prop where
  ne_nil : argument ≠ []
  plain : ∀ c ∈ argument, forbidden c = false

instance (argument : Str) : Decidable (Plain argument) :=
  decidable_of_iff (argument ≠ [] ∧ argument.all (fun c => !forbidden c) = true)
    ⟨fun h => ⟨h.1, by simpa using h.2⟩, fun h => ⟨h.1, by simpa using h.plain⟩⟩

theorem validatePlatformCommand_ok_iff {command : PlatformCommand}
    (h : command.program = networksetupProgram ∨ command.program = netshProgram) :
    validatePlatformCommand command = .ok () ↔
      command.arguments ≠ [] ∧ command.arguments.length ≤ 32 ∧ ∀ argument ∈ command.arguments, Plain argument := by
  have hallowed : ¬ (command.program ≠ networksetupProgram ∧ command.program ≠ netshProgram ∧
    command.program ≠ powershellExe) := by
    rcases h with h | h <;> simp [h]
  have hother : command.program ≠ powershellExe := by
    rcases h with h | h <;> rw [h] <;> decide
  have hplain : (¬ (command.arguments.any (fun argument => argument.isEmpty || argument.any forbidden) = true)) ↔
      ∀ argument ∈ command.arguments, Plain argument := by
    simp only [List.any_eq_true, Bool.or_eq_true, List.isEmpty_iff, not_exists, not_and, not_or, Bool.not_eq_true]
    exact ⟨fun h argument hmem => ⟨(h argument hmem).1, (h argument hmem).2⟩,
      fun h argument hmem => ⟨(h argument hmem).ne_nil, (h argument hmem).plain⟩⟩
  unfold validatePlatformCommand
  rw [if_neg hallowed, if_neg hother, guard_ok, guard_ok, hplain, not_or, and_assoc]
  simp

theorem validateEach_ok_iff : ∀ {commands : List PlatformCommand},
    validateEach commands = .ok () ↔ ∀ command ∈ commands, validatePlatformCommand command = .ok ()
  | [] => by simp [validateEach]
  | command :: commands => by
    unfold validateEach
    rw [bind_ok, forall_mem_cons, validateEach_ok_iff]
    exact ⟨fun ⟨_, h, hrest⟩ => ⟨h, hrest⟩, fun ⟨h, hrest⟩ => ⟨(), h, hrest⟩⟩

theorem validateCommands_ok_iff {commands : List PlatformCommand} :
    validateCommands commands = .ok () ↔ commands ≠ [] ∧ ∀ command ∈ commands,
      validatePlatformCommand command = .ok () := by
  unfold validateCommands
  rw [guard_ok, validateEach_ok_iff, List.isEmpty_iff]

/-- The characters of addresses and numbers, and no others. -/
structure Bare (text : Str) : Prop where
  ne_nil : text ≠ []
  chars : ∀ c ∈ text, IpAddr.isAddressChar c = true

theorem bare_textV4 (bits : BitVec 32) : Bare (textV4 bits) := ⟨IpAddr.display_ne_nil _, IpAddr.isAddressChar_display _⟩

theorem bare_textV6 (bits : BitVec 128) : Bare (textV6 bits) :=
  ⟨IpAddr.display_ne_nil _, IpAddr.isAddressChar_display _⟩

theorem bare_display (address : IpAddr) : Bare address.display.toList :=
  ⟨IpAddr.display_ne_nil _, IpAddr.isAddressChar_display _⟩

theorem bare_textNat (n : Nat) : Bare (textNat n) :=
  ⟨ne_nil_of_length_pos Nat.length_toDigits_pos, fun _ hc => IpAddr.isAddressChar_toDigits (by decide) (by decide) hc⟩

namespace Bare

variable {text : Str} (h : Bare text)
include h

theorem not_mem {c : Char} (hc : IpAddr.isAddressChar c = false) : c ∉ text := by
  intro hmem
  rw [h.chars c hmem] at hc
  cases hc

theorem plain : Plain text := by
  refine ⟨h.ne_nil, fun c hc => ?_⟩
  rw [← Bool.not_eq_true]
  intro hforbidden
  simp only [forbidden, Bool.or_eq_true, beq_iff_eq] at hforbidden
  have haddress := h.chars c hc
  rcases hforbidden with ((((((rfl | rfl) | rfl) | rfl) | rfl) | rfl) | rfl) | rfl <;> exact absurd haddress (by decide)

end Bare

theorem bare_serverTexts {servers : List IpAddr} {l : Str} (h : l ∈ serverTexts servers) : Bare l := by
  obtain ⟨server, -, rfl⟩ := mem_map.1 h
  exact bare_display server

theorem parseServers_display (message : String) (servers : List IpAddr) :
    parseServers message (serverTexts servers) = .ok servers := by
  induction servers with
  | nil => rfl
  | cons server servers ih =>
    show parseServers message (server.display.toList :: serverTexts servers) = _
    unfold parseServers
    simp only [IpAddr.parse_display, ih]
    rfl

theorem leadingOnes_netmask {n : Nat} (h : n ≤ 32) : leadingOnes (netmask n) = n := by
  have hall : ∀ k : Fin 33, leadingOnes (netmask k) = k := by decide +kernel
  exact hall ⟨n, by omega⟩

variable {C : Type} {interfaceId : Str}

theorem Adapter.build_ok_iff {a : Adapter C} {desired : NetworkDesiredState} {commands : List C} :
    a.build interfaceId desired = .ok commands ↔
      validateInterface interfaceId = .ok () ∧ desired.validate = .ok () ∧ desired.routes = [] ∧
        desired.dns.searchDomains = [] ∧
      ∃ ipv4 ipv6 dns, a.ipv4Command interfaceId desired.ipv4 = .ok ipv4 ∧
        a.ipv6Command interfaceId desired.ipv6 = .ok ipv6 ∧ a.dns interfaceId desired.dns = .ok dns ∧
        commands = [ipv4, ipv6, dns] ++ (desired.mtu.map (a.setMtu interfaceId)).toList ∧
        validateCommands (commands.map a.command) = .ok () := by
  unfold Adapter.build
  simp only [bind_ok, mapError_ok, guard_ok, Bool.not_eq_true', not_or, Bool.not_eq_false, List.isEmpty_iff,
    Except.ok.injEq]
  constructor
  · rintro ⟨_, hinterface, _, hvalid, ⟨hroutes, hdomains⟩, ipv4, h4, ipv6, h6, dns, hdns, _, hcommands, rfl⟩
    exact ⟨hinterface, hvalid, hroutes, hdomains, ipv4, ipv6, dns, h4, h6, hdns, rfl, hcommands⟩
  · rintro ⟨hinterface, hvalid, hroutes, hdomains, ipv4, ipv6, dns, h4, h6, hdns, rfl, hcommands⟩
    exact ⟨(), hinterface, (), hvalid, ⟨hroutes, hdomains⟩, ipv4, h4, ipv6, h6, dns, hdns, (), hcommands, rfl⟩

theorem Adapter.ipv4Command_ok {a : Adapter C} {ipv4 : Ipv4Configuration} {c : C}
    (h : a.ipv4Command interfaceId ipv4 = .ok c) :
    (ipv4 = .dhcp ∧ c = a.dhcp4 interfaceId) ∨ (ipv4 = .disabled ∧ c = a.static4 interfaceId 0 0) ∨
      ∃ address length, ipv4 = .static [⟨.v4 address, length⟩] ∧ length.toNat ≤ 32 ∧
        c = a.static4 interfaceId address (netmask length.toNat) := by
  cases ipv4 with
  | dhcp => exact .inl ⟨rfl, (Except.ok.inj h).symm⟩
  | disabled => exact .inr (.inl ⟨rfl, (Except.ok.inj h).symm⟩)
  | static addresses =>
    obtain ⟨hone, h⟩ := (guard_ok _ _ _ _).1 h
    obtain ⟨p, rfl⟩ := length_eq_one_iff.1 (not_not.1 hone)
    obtain ⟨address | address, length⟩ := p
    · obtain ⟨mask, hmask, h⟩ := (bind_ok _ _ _).1 h
      obtain ⟨hlength, hmask⟩ := (guard_ok _ _ _ _).1 hmask
      refine .inr (.inr ⟨address, length, rfl, not_lt.1 hlength, ?_⟩)
      rw [Except.ok.inj hmask]
      exact (Except.ok.inj h).symm
    · cases h

theorem Adapter.ipv6Command_ok {a : Adapter C} {ipv6 : Ipv6Configuration} {c : C}
    (h : a.ipv6Command interfaceId ipv6 = .ok c) :
    (ipv6 = .automatic ∧ c = a.automatic6 interfaceId) ∨ (ipv6 = .disabled ∧ c = a.disabled6 interfaceId) ∨
      ∃ address length, ipv6 = .static [⟨.v6 address, length⟩] ∧ c = a.static6 interfaceId address length := by
  cases ipv6 with
  | automatic => exact .inl ⟨rfl, (Except.ok.inj h).symm⟩
  | disabled => exact .inr (.inl ⟨rfl, (Except.ok.inj h).symm⟩)
  | static addresses =>
    obtain ⟨hone, h⟩ := (guard_ok _ _ _ _).1 h
    obtain ⟨p, rfl⟩ := length_eq_one_iff.1 (not_not.1 hone)
    obtain ⟨address | address, length⟩ := p
    · cases h
    · exact .inr (.inr ⟨address, length, rfl, (Except.ok.inj h).symm⟩)

/-- What holds of every command an adapter has for an interface, and of the DNS command, holds of those of a state. -/
theorem Adapter.forall_commands {a : Adapter C} {P : C → Prop} {ipv4 : Ipv4Configuration} {ipv6 : Ipv6Configuration}
    {c4 c6 cd : C}
    {mtu : Option UInt32} (h4 : a.ipv4Command interfaceId ipv4 = .ok c4) (h6 : a.ipv6Command interfaceId ipv6 = .ok c6)
    (hdhcp : P (a.dhcp4 interfaceId)) (hstatic : ∀ address mask, P (a.static4 interfaceId address mask))
    (hautomatic : P (a.automatic6 interfaceId)) (hdisabled : P (a.disabled6 interfaceId))
    (hstatic6 : ∀ address length, P (a.static6 interfaceId address length)) (hdns : P cd)
      (hmtu : ∀ n, P (a.setMtu interfaceId n)) :
    ∀ c ∈ [c4, c6, cd] ++ (mtu.map (a.setMtu interfaceId)).toList, P c := by
  intro c hc
  simp only [cons_append, nil_append, mem_cons, Option.mem_toList, Option.map_eq_some_iff] at hc
  rcases hc with rfl | rfl | rfl | ⟨n, -, rfl⟩
  · rcases Adapter.ipv4Command_ok h4 with ⟨-, rfl⟩ | ⟨-, rfl⟩ | ⟨_, _, -, -, rfl⟩
    exacts [hdhcp, hstatic _ _, hstatic _ _]
  · rcases Adapter.ipv6Command_ok h6 with ⟨-, rfl⟩ | ⟨-, rfl⟩ | ⟨_, _, -, rfl⟩
    exacts [hautomatic, hdisabled, hstatic6 _ _]
  · exact hdns
  · exact hmtu n

/-! ## States with one address of a family -/

/-- What both readers return, and all that they return: one address of a family at most, an MTU, and DNS servers that
are automatic when there are none. -/
structure Single (state : NetworkDesiredState) : Prop where
  valid : state.validate = .ok ()
  ipv4 : state.ipv4 = .dhcp ∨ ∃ address length, state.ipv4 = .static [⟨.v4 address, length⟩]
  ipv6 : state.ipv6 = .automatic ∨ state.ipv6 = .disabled ∨
    ∃ address length, state.ipv6 = .static [⟨.v6 address, length⟩]
  dns : state.dns = ⟨state.dns.servers.isEmpty, state.dns.servers, []⟩
  routes : state.routes = []
  mtu : ∃ mtu, state.mtu = some mtu

theorem Single.length_le {state : NetworkDesiredState} (h : Single state) {address : BitVec 32} {length : UInt8}
    (heq : state.ipv4 = .static [⟨.v4 address, length⟩]) : length.toNat ≤ 32 :=
  (((NetworkDesiredState.valid_of_validate h.valid).ipv4 _ heq).all _ mem_cons_self).length

theorem Single.ipv4Command {a : Adapter C} {state : NetworkDesiredState} (h : Single state) (interfaceId : Str) :
    ∃ c, a.ipv4Command interfaceId state.ipv4 = .ok c := by
  rcases h.ipv4 with heq | ⟨address, length, heq⟩
  · rw [heq]
    exact ⟨_, rfl⟩
  · have hmask : ipv4Netmask length = .ok (netmask length.toNat) := if_neg (not_lt.2 (h.length_le heq))
    rw [heq]
    refine ⟨a.static4 interfaceId address (netmask length.toNat), ?_⟩
    show (ipv4Netmask length >>= fun mask => .ok (a.static4 interfaceId address mask)) = _
    rw [hmask]
    rfl

theorem Single.ipv6Command {a : Adapter C} {state : NetworkDesiredState} (h : Single state) (interfaceId : Str) :
    ∃ c, a.ipv6Command interfaceId state.ipv6 = .ok c := by
  rcases h.ipv6 with heq | heq | ⟨address, length, heq⟩ <;> rw [heq]
  · exact ⟨_, rfl⟩
  · exact ⟨_, rfl⟩
  · exact ⟨_, rfl⟩

/-! ## Applying and restoring -/

section
variable {I C : Type} {p : Platform I C} {interfaceId : Str}

def Platform.runAll (p : Platform I C) : List C → I → Option I
  | [], i => some i
  | c :: commands, i => (p.run c i).bind (p.runAll commands)

def Platform.Settles (p : Platform I C) (interfaceId : Str) (i : I) (state : NetworkDesiredState) : Prop :=
  ∃ commands i', p.build interfaceId state = .ok commands ∧ p.runAll commands i = some i' ∧
    p.readState interfaceId i' = .ok state

theorem World.set_set (w : World I) (i i' : I) : (w.set interfaceId i).set interfaceId i' = w.set interfaceId i' := by
  unfold World.set
  simp

theorem World.set_interfaces (w : World I) (i : I) : (w.set interfaceId i).interfaces interfaceId = i :=
  Function.update_self ..

theorem World.set_self (w : World I) : w.set interfaceId (w.interfaces interfaceId) = w := by
  unfold World.set
  rw [Function.update_eq_self]

variable {w : World I} {commands : List C} {state : NetworkDesiredState}

theorem wp_forEach_runCommand : ∀ {commands : List C} {w : World I},
    (∀ c ∈ commands, validatePlatformCommand (p.command c) = .ok ()) → (∀ c ∈ commands, p.interfaceId c = interfaceId) →
    wp (forEach (runCommand p) commands)
      (fun _ w' => ∃ i', p.runAll commands (w.interfaces interfaceId) = some i' ∧ w' = w.set interfaceId i')
      (fun _ _ => p.runAll commands (w.interfaces interfaceId) = none) w
  | [], w, _, _ => ⟨_, rfl, w.set_self.symm⟩
  | c :: commands, w, hvalid, haddressed => by
    have hrest := fun w' : World I => wp_forEach_runCommand (w := w') (fun c' hc' => hvalid c' (mem_cons_of_mem _ hc'))
      (fun c' hc' => haddressed c' (mem_cons_of_mem _ hc'))
    refine (wp_bind (runCommand p c) (fun _ => forEach (runCommand p) commands)).2 ?_
    obtain rfl := haddressed c mem_cons_self
    unfold runCommand Platform.runAll
    apply wp_check_ok (hvalid c mem_cons_self)
    rw [wp_bind, wp_get]
    cases p.run c (w.interfaces (p.interfaceId c)) with
    | none => rfl
    | some i =>
      show wp (forEach (runCommand p) commands) _ _ _
      refine wp_mono (hrest (w.set (p.interfaceId c) i)) (fun _ w' h => ?_) (fun _ _ h => ?_)
      · obtain ⟨i', hi', rfl⟩ := h
        rw [World.set_interfaces] at hi'
        exact ⟨i', hi', World.set_set w i i'⟩
      · rw [World.set_interfaces] at h
        exact h

theorem wp_executePlatformCommands (h : p.build interfaceId state = .ok commands) :
    wp (executePlatformCommands p commands)
      (fun _ w' => ∃ i', p.runAll commands (w.interfaces interfaceId) = some i' ∧ w' = w.set interfaceId i')
      (fun _ _ => p.runAll commands (w.interfaces interfaceId) = none) w := by
  obtain ⟨-, -, -, -, _, _, _, -, -, -, -, hcommands⟩ := Adapter.build_ok_iff.1 h
  have heach : ∀ c ∈ commands, validatePlatformCommand (p.command c) = .ok () :=
    fun c hc => (validateCommands_ok_iff.1 hcommands).2 _ (mem_map_of_mem hc)
  unfold executePlatformCommands
  rw [hcommands]
  exact wp_forEach_runCommand heach (p.addressed _ _ _ h)

theorem execute_reads_iff (h : p.build interfaceId state = .ok commands) :
    ((executePlatformCommands p commands w).1 = .ok () ∧
      p.readState interfaceId ((executePlatformCommands p commands w).2.interfaces interfaceId) = .ok state) ↔
    p.Settles interfaceId (w.interfaces interfaceId) state := by
  rcases wp_cases (wp_executePlatformCommands (w := w) h) with ⟨_, _, hrun, i', hi', rfl⟩ | ⟨e, w', hrun, hnone⟩
  · rw [hrun, World.set_interfaces]
    constructor
    · exact fun hread => ⟨commands, i', h, hi', hread.2⟩
    · rintro ⟨commands', i'', hbuild, hi'', hread⟩
      obtain rfl : commands = commands' := Except.ok.inj (h.symm.trans hbuild)
      obtain rfl : i' = i'' := Option.mem_unique hi' hi''
      exact ⟨rfl, hread⟩
  · rw [hrun]
    constructor
    · exact fun hok => by cases hok.1
    · rintro ⟨commands', i'', hbuild, hi'', -⟩
      obtain rfl : commands = commands' := Except.ok.inj (h.symm.trans hbuild)
      rw [hnone] at hi''
      cases hi''

theorem verify_ok_iff :
    (verify p interfaceId state w).1 = .ok () ↔ p.readState interfaceId (w.interfaces interfaceId) = .ok state := by
  unfold verify
  rw [get_bind]
  cases hread : p.readState interfaceId (w.interfaces interfaceId) with
  | error e => exact ⟨fun h => (by cases h), fun h => (by cases h)⟩
  | ok actual =>
    rw [bind_of_ok (ofExcept_eq rfl w)]
    by_cases heq : actual = state
    · rw [if_neg (not_not.2 heq), heq]
      exact ⟨fun _ => rfl, fun _ => rfl⟩
    · rw [if_pos heq]
      exact ⟨fun h => (by cases h), fun h => absurd (Except.ok.inj h) heq⟩

/-- **An apply that is verified.** -/
theorem apply_verify_iff (h : p.build interfaceId state = .ok commands) :
    ((apply p interfaceId state w).1 = .ok () ∧
      (verify p interfaceId state (apply p interfaceId state w).2).1 = .ok ()) ↔
      p.Settles interfaceId (w.interfaces interfaceId) state := by
  obtain ⟨-, hvalid, -⟩ := Adapter.build_ok_iff.1 h
  have happly : apply p interfaceId state w = executePlatformCommands p commands w := by
    unfold apply
    rw [bind_of_ok (ofExcept_eq (mapError_ok.2 hvalid) w), bind_of_ok (ofExcept_eq h w)]
  rw [happly, verify_ok_iff, execute_reads_iff h]

/-- **A restore that reads back.** -/
theorem restore_reads_iff {snapshotId : String} (hpath : snapshotPath snapshotId = .ok ())
    (hsnapshot : w.snapshots snapshotId = some ⟨platformSnapshotVersion, interfaceId, p.backend, state⟩) :
    ((restore p snapshotId w).1 = .ok () ∧ p.readState interfaceId
      ((restore p snapshotId w).2.interfaces interfaceId) = .ok state) ↔
      p.Settles interfaceId (w.interfaces interfaceId) state := by
  have hload : (ofOption (platformPersistenceError Files.notFound) (w.snapshots snapshotId) : Prog (World I)
    NetToolError PlatformSnapshot) w =
      (.ok ⟨platformSnapshotVersion, interfaceId, p.backend, state⟩, w) := by
    rw [hsnapshot]
    rfl
  have hcurrent : ¬ (platformSnapshotVersion ≠ platformSnapshotVersion ∨ p.backend ≠ p.backend) := by simp
  unfold restore
  rw [bind_of_ok (ofExcept_eq hpath w), get_bind, bind_of_ok hload, if_neg hcurrent]
  cases hbuild : p.build interfaceId state with
  | ok commands =>
    exact execute_reads_iff hbuild
  | error e =>
    refine ⟨fun h => (by cases h.1), ?_⟩
    rintro ⟨commands, _, hcommands, -⟩
    rw [hbuild] at hcommands
    cases hcommands

end
end PlatformNetwork
end NetTool
