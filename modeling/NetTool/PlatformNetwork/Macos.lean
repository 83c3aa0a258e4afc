import NetTool.PlatformNetwork.Executor
/-!
# PlatformNetwork.Macos — `networksetup` (`crates/helper-core/src/platform_network_macos.rs`)

What the reader knows of an interface is what four queries print, so an interface is these four texts, whatever they are
at first.  A command replaces the text it is about by the one `networksetup` prints for the setting.  Of what the reader
accepts and the builder writes, each is read back as it was (`settles_iff`).
-/
namespace NetTool
namespace PlatformNetwork
namespace Macos

open Check Helper Str Numeral List

/-! ## Commands -/

inductive Command
  | setdhcp (interfaceId : Str)
  | setmanual (interfaceId : Str) (address mask router : BitVec 32)
  | setv6automatic (interfaceId : Str)
  | setv6off (interfaceId : Str)
  | setv6manual (interfaceId : Str) (address : BitVec 128) (length : UInt8) (router : BitVec 128)
  | setdnsservers (interfaceId : Str) (servers : List IpAddr)
  | setMTU (interfaceId : Str) (mtu : UInt32)
  deriving DecidableEq

def Command.interfaceId : Command → Str
  | .setdhcp i => i
  | .setmanual i _ _ _ => i
  | .setv6automatic i => i
  | .setv6off i => i
  | .setv6manual i _ _ _ => i
  | .setdnsservers i _ => i
  | .setMTU i _ => i

def serverArguments (servers : List IpAddr) : List Str :=
  if servers.isEmpty then ["Empty".toList] else serverTexts servers

def Command.arguments : Command → List Str
  | .setdhcp i => ["-setdhcp".toList, i]
  | .setmanual i address mask router => ["-setmanual".toList, i, textV4 address, textV4 mask, textV4 router]
  | .setv6automatic i => ["-setv6automatic".toList, i]
  | .setv6off i => ["-setv6off".toList, i]
  | .setv6manual i address length router =>
    ["-setv6manual".toList, i, textV6 address, textNat length.toNat, textV6 router]
  | .setdnsservers i servers => ["-setdnsservers".toList, i] ++ serverArguments servers
  | .setMTU i mtu => ["-setMTU".toList, i, textNat mtu.toNat]

/-- `build_macos_networksetup_commands`. -/
def adapter : Adapter Command where
  system := "macOS"
  tool := "macOS networksetup"
  dhcp4 := .setdhcp
  static4 i address mask := .setmanual i address mask 0
  automatic6 := .setv6automatic
  disabled6 := .setv6off
  static6 i address length := .setv6manual i address length 0
  dns i dns := .ok (.setdnsservers i (if dns.automatic then [] else dns.servers))
  setMtu := .setMTU
  command c := ⟨networksetupProgram, c.arguments⟩

/-! ## What `networksetup` prints -/

/-- The answers to `-getinfo`, `-getv6info`, `-getdnsservers` and `-getMTU`. -/
structure Interface where
  info : Str
  v6Info : Str
  dnsInfo : Str
  mtuInfo : Str

def printLines (ls : List Str) : Str := ls.flatMap (· ++ Newline.lf.text)

def labelled (label : String) (text : Str) : Str := label.toList ++ ' ' :: text

def manualInfo (address mask router : BitVec 32) : Str :=
  printLines ["Manual Configuration".toList, labelled "IP address:" (textV4 address),
    labelled "Subnet mask:" (textV4 mask), labelled "Router:" (textV4 router)]

def manualV6Info (address : BitVec 128) (length : Nat) (router : BitVec 128) : Str :=
  printLines [labelled "IPv6 IP address:" (textV6 address), labelled "Prefix Length:" (textNat length),
    labelled "IPv6 Router:" (textV6 router)]

def serverInfo (interfaceId : Str) (servers : List IpAddr) : Str :=
  if servers.isEmpty then "There aren't any DNS Servers set on ".toList ++ interfaceId ++ ".\n".toList
  else printLines (serverTexts servers)

def currentMtu (mtu : Nat) : Str :=
  "Active MTU: ".toList ++ textNat mtu ++ " (".toList ++ "Current Setting:".toList ++
    ' ' :: (textNat mtu ++ ")\n".toList)

def run : Command → Interface → Option Interface
  | .setdhcp _, i => some { i with info := "DHCP Configuration\n".toList }
  | .setmanual _ address mask router, i => some { i with info := manualInfo address mask router }
  | .setv6automatic _, i => some { i with v6Info := "IPv6: Automatic\n".toList }
  | .setv6off _, i => some { i with v6Info := "IPv6: Off\n".toList }
  | .setv6manual _ address length router, i => some { i with v6Info := manualV6Info address length.toNat router }
  | .setdnsservers interfaceId servers, i => some { i with dnsInfo := serverInfo interfaceId servers }
  | .setMTU _ mtu, i => some { i with mtuInfo := currentMtu mtu.toNat }

/-! ## The reader -/

def findLabel (output : Str) (label : String) : Option Str :=
  (lines output).findSome? (fun line => (stripPrefix label.toList line).map trim)

def parseOptionalIpLabel (output : Str) (label : String) : Result (Option IpAddr) :=
  match findLabel output label with
  | none => .ok none
  | some text =>
    if text.isEmpty ∨ text.map Char.toLower = "none".toList then .ok none
    else
      match IpAddr.parse text with
      | some address => .ok (some address)
      | none => .error (platformReaderError ("macOS state has invalid " ++ label))

def parseIpLabel (output : Str) (label : String) : Result IpAddr := do
  match ← parseOptionalIpLabel output label with
  | some address => .ok address
  | none => .error (platformReaderError ("macOS state is missing " ++ label))

def parseU8Label (output : Str) (label : String) : Result UInt8 :=
  match findLabel output label with
  | none => .error (platformReaderError ("macOS state is missing " ++ label))
  | some text =>
    match parseUnsigned (2 ^ 8) text with
    | some n => .ok (UInt8.ofNat n)
    | none => .error (platformReaderError ("macOS state has invalid " ++ label))

def prefixFromNetmask (mask : BitVec 32) : Result UInt8 :=
  if mask ≠ netmask (leadingOnes mask) then .error (platformReaderError "macOS subnet mask is not contiguous")
  else .ok (UInt8.ofNat (leadingOnes mask))

/-- A gateway would not survive a restore. -/
def rejectRouter (output : Str) (label message : String) : Result Unit := do
  match ← parseOptionalIpLabel output label with
  | some router => if router.isUnspecified then .ok () else .error (platformReaderError message)
  | none => .ok ()

def requireV4 (message : String) : IpAddr → Result (BitVec 32)
  | .v4 bits => .ok bits
  | .v6 _ => .error (platformReaderError message)

def requireV6 (message : String) : IpAddr → Result (BitVec 128)
  | .v6 bits => .ok bits
  | .v4 _ => .error (platformReaderError message)

def parseIpv4 (info : Str) : Result Ipv4Configuration :=
  if contains "DHCP Configuration".toList info then .ok .dhcp
  else do
    let address ← parseIpLabel info "IP address:"
    let mask ← parseIpLabel info "Subnet mask:"
    let address ← requireV4 "macOS IPv4 address has wrong family" address
    let mask ← requireV4 "macOS IPv4 subnet mask has wrong family" mask
    let length ← prefixFromNetmask mask
    rejectRouter info "Router:" "macOS state contains a gateway not representable by this adapter"
    .ok (.static [⟨.v4 address, length⟩])

def parseIpv6 (v6Info : Str) : Result Ipv6Configuration :=
  if contains "Off".toList v6Info ∨ contains "Disabled".toList v6Info then .ok .disabled
  else if contains "Automatic".toList v6Info then .ok .automatic
  else do
    let address ← parseIpLabel v6Info "IPv6 IP address:"
    let address ← requireV6 "macOS IPv6 address has wrong family" address
    let length ← parseU8Label v6Info "Prefix Length:"
    rejectRouter v6Info "IPv6 Router:" "macOS IPv6 state contains a gateway not representable by this adapter"
    .ok (.static [⟨.v6 address, length⟩])

def parseMacosDns (output : Str) : Result (List IpAddr) :=
  if contains "There aren't any DNS Servers".toList output ∨ (trim output).isEmpty then .ok []
  else parseServers "macOS DNS output is not an IP address"
    (((lines output).map trim).filter (fun line => !line.isEmpty))

def parseMtu (output : Str) : Result UInt32 :=
  match (split "Current Setting:".toList output)[1]?.bind (fun text => (splitWhitespace text).head?) with
  | none => .error (platformReaderError "macOS MTU output is invalid")
  | some text =>
    match parseUnsigned (2 ^ 32) (text.rdropWhile (· == ')')) with
    | some n => .ok (UInt32.ofNat n)
    | none => .error (platformReaderError "macOS MTU is invalid")

def parseMacosState (info v6Info dnsInfo mtuInfo : Str) : Result NetworkDesiredState := do
  let ipv4 ← parseIpv4 info
  let ipv6 ← parseIpv6 v6Info
  let servers ← parseMacosDns dnsInfo
  let mtu ← parseMtu mtuInfo
  let state : NetworkDesiredState := ⟨ipv4, ipv6, ⟨servers.isEmpty, servers, []⟩, [], some mtu⟩
  state.validate.mapError (.new .protocolInvalid · false)
  .ok state

/-- A query is a command as well, and its argument is checked. -/
def query (interfaceId : Str) (operation : String) (output : Str) : Result Str := do
  validatePlatformCommand ⟨networksetupProgram, [operation.toList, interfaceId]⟩
  .ok output

def readState (interfaceId : Str) (i : Interface) : Result NetworkDesiredState := do
  validateInterface interfaceId
  let info ← query interfaceId "-getinfo" i.info
  let v6Info ← query interfaceId "-getv6info" i.v6Info
  let dnsInfo ← query interfaceId "-getdnsservers" i.dnsInfo
  let mtuInfo ← query interfaceId "-getMTU" i.mtuInfo
  parseMacosState info v6Info dnsInfo mtuInfo

/-! ## What the reader returns -/

variable {ipv4 : Ipv4Configuration} {ipv6 : Ipv6Configuration} {info v6Info dnsInfo mtuInfo : Str}
  {state : NetworkDesiredState} {ip : IpAddr} {label : String} {output : Str} {length : UInt8} {servers : List IpAddr}
  {c : Command} {i : Str} {commands : List Command}

theorem parseMacosState_ok_iff :
    parseMacosState info v6Info dnsInfo mtuInfo = .ok state ↔
      ∃ ipv4 ipv6 servers mtu, parseIpv4 info = .ok ipv4 ∧ parseIpv6 v6Info = .ok ipv6 ∧
        parseMacosDns dnsInfo = .ok servers ∧
        parseMtu mtuInfo = .ok mtu ∧ state = ⟨ipv4, ipv6, ⟨servers.isEmpty, servers, []⟩, [], some mtu⟩ ∧
          state.validate = .ok () := by
  unfold parseMacosState
  simp only [bind_ok, mapError_ok, Except.ok.injEq]
  constructor
  · rintro ⟨ipv4, h4, ipv6, h6, servers, hdns, mtu, hmtu, _, hvalid, rfl⟩
    exact ⟨ipv4, ipv6, servers, mtu, h4, h6, hdns, hmtu, rfl, hvalid⟩
  · rintro ⟨ipv4, ipv6, servers, mtu, h4, h6, hdns, hmtu, rfl, hvalid⟩
    exact ⟨ipv4, h4, ipv6, h6, servers, hdns, mtu, hmtu, (), hvalid, rfl⟩

theorem single_of_parse (h : parseMacosState info v6Info dnsInfo mtuInfo = .ok state) : Single state := by
  obtain ⟨ipv4, ipv6, servers, mtu, h4, h6, -, -, rfl, hvalid⟩ := parseMacosState_ok_iff.1 h
  refine ⟨hvalid, ?_, ?_, rfl, rfl, mtu, rfl⟩
  · unfold parseIpv4 at h4
    by_cases hdhcp : contains "DHCP Configuration".toList info = true
    · rw [if_pos hdhcp] at h4
      exact .inl (Except.ok.inj h4).symm
    · rw [if_neg hdhcp] at h4
      simp only [bind_ok] at h4
      obtain ⟨_, -, _, -, address, -, _, -, length, -, _, -, h4⟩ := h4
      exact .inr ⟨address, length, (Except.ok.inj h4).symm⟩
  · unfold parseIpv6 at h6
    by_cases hoff : contains "Off".toList v6Info = true ∨ contains "Disabled".toList v6Info = true
    · rw [if_pos hoff] at h6
      exact .inr (.inl (Except.ok.inj h6).symm)
    · rw [if_neg hoff] at h6
      by_cases hautomatic : contains "Automatic".toList v6Info = true
      · rw [if_pos hautomatic] at h6
        exact .inl (Except.ok.inj h6).symm
      · rw [if_neg hautomatic] at h6
        simp only [bind_ok] at h6
        obtain ⟨_, -, address, -, length, -, _, -, h6⟩ := h6
        exact .inr (.inr ⟨address, length, (Except.ok.inj h6).symm⟩)

theorem plain_operation {operation interfaceId : Str} (hoperation : Plain operation) :
    validatePlatformCommand ⟨networksetupProgram, [operation, interfaceId]⟩ = .ok () ↔ Plain interfaceId := by
  rw [validatePlatformCommand_ok_iff (.inl rfl)]
  simp [hoperation]

theorem readState_ok_iff {interfaceId : Str} {i : Interface} :
    readState interfaceId i = .ok state ↔ validateInterface interfaceId = .ok () ∧ Plain interfaceId ∧
      parseMacosState i.info i.v6Info i.dnsInfo i.mtuInfo = .ok state := by
  have hquery : ∀ (operation : String) (output text : Str), Plain operation.toList →
      (query interfaceId operation output = .ok text ↔ Plain interfaceId ∧ text = output) := by
    intro operation output text hoperation
    unfold query
    rw [bind_ok]
    simp only [Except.ok.injEq, exists_and_right]
    rw [show (∃ u, validatePlatformCommand ⟨networksetupProgram, [operation.toList, interfaceId]⟩ = .ok u) ↔
      Plain interfaceId from
      ⟨fun ⟨_, h⟩ => (plain_operation hoperation).1 h, fun h => ⟨(), (plain_operation hoperation).2 h⟩⟩, eq_comm]
  unfold readState
  simp only [bind_ok, hquery "-getinfo" _ _ (by decide), hquery "-getv6info" _ _ (by decide),
    hquery "-getdnsservers" _ _ (by decide), hquery "-getMTU" _ _ (by decide)]
  constructor
  · rintro ⟨_, hinterface, _, ⟨hplain, rfl⟩, _, ⟨-, rfl⟩, _, ⟨-, rfl⟩, _, ⟨-, rfl⟩, h⟩
    exact ⟨hinterface, hplain, h⟩
  · rintro ⟨hinterface, hplain, h⟩
    exact ⟨(), hinterface, _, ⟨hplain, rfl⟩, _, ⟨hplain, rfl⟩, _, ⟨hplain, rfl⟩, _, ⟨hplain, rfl⟩, h⟩

section
variable {text : Str} (h : Bare text)
include h

theorem trim_space : trim (' ' :: text) = text := by
  exact trim_of_all fun c hc => IpAddr.isWhitespace_of_isAddressChar (h.chars c hc)

/-- It is not `none` in any case. -/
theorem toLower_ne_none : text.map Char.toLower ≠ "none".toList := by
  intro heq
  have hmem : 'n' ∈ text.map Char.toLower := by
    rw [heq]
    decide
  obtain ⟨c, hc, hlower⟩ := mem_map.1 hmem
  have hcase : c = 'n' ∨ c = 'N' := by
    unfold Char.toLower at hlower
    split at hlower
    case isTrue =>
      have hval : c.val + ('a'.val - 'A'.val) = 'N'.val + ('a'.val - 'A'.val) := congrArg Char.val hlower
      exact .inr (Char.ext ((UInt32.add_left_inj _).1 hval))
    case isFalse => exact .inl hlower
  have haddress := h.chars c hc
  rcases hcase with rfl | rfl <;> exact absurd haddress (by decide)

theorem not_mem_labelled {label : String} {c : Char} (hc : IpAddr.isAddressChar c = false) (hlabel : c ∉ label.toList)
    (hspace : c ≠ ' ') : c ∉ labelled label text := by
  intro hmem
  rcases mem_append.1 hmem with hmem | hmem
  · exact hlabel hmem
  · rcases mem_cons.1 hmem with rfl | hmem
    · exact hspace rfl
    · exact h.not_mem hc hmem

theorem fits_labelled {label : String} (hfeed : '\n' ∉ label.toList) (hreturn : '\r' ∉ label.toList) :
    Newline.lf.Fits (labelled label text) :=
  ⟨not_mem_labelled h (by decide) hfeed (by decide),
    fun _ hlast => not_mem_labelled h (by decide) hreturn (by decide) (mem_of_getLast? hlast)⟩

end

/-! ## Reading back what is printed -/

theorem not_mem_printLines {ls : List Str} {c : Char} (hc : c ≠ '\n') (h : ∀ l ∈ ls, c ∉ l) : c ∉ printLines ls := by
  intro hmem
  obtain ⟨l, hl, hmem⟩ := mem_flatMap.1 hmem
  rcases mem_append.1 hmem with hmem | hmem
  · exact h l hl hmem
  · exact hc (mem_singleton.1 hmem)

theorem stripPrefix_labelled (label : String) {text : Str} (h : Bare text) :
    (stripPrefix label.toList (labelled label text)).map trim = some text := by
  unfold labelled
  rw [stripPrefix_append, Option.map_some, trim_space h]

theorem findLabel_after (before : List Str) {after : List Str} {text : Str}
    (hfits : ∀ l ∈ before ++ labelled label text :: after, Newline.lf.Fits l)
    (hbefore : before.findSome? (fun line => (stripPrefix label.toList line).map trim) = none) (htext : Bare text) :
    findLabel (printLines (before ++ labelled label text :: after)) label = some text := by
  unfold findLabel printLines
  rw [lines_lines .lf hfits, List.findSome?_append, hbefore, List.findSome?_cons, stripPrefix_labelled _ htext]
  rfl

section
variable (address mask router : BitVec 32)

theorem fits_manualInfo : ∀ l ∈ ["Manual Configuration".toList, labelled "IP address:" (textV4 address),
    labelled "Subnet mask:" (textV4 mask), labelled "Router:" (textV4 router)], Newline.lf.Fits l := by
  simp only [forall_mem_cons]
  exact ⟨⟨by decide, by decide⟩, fits_labelled (bare_textV4 address) (by decide) (by decide),
    fits_labelled (bare_textV4 mask) (by decide) (by decide),
      fits_labelled (bare_textV4 router) (by decide) (by decide), by simp⟩

end

theorem parseOptionalIpLabel_display (h : findLabel output label = some ip.display.toList) :
    parseOptionalIpLabel output label = .ok (some ip) := by
  have hbare := bare_display ip
  have hnot : ¬ (ip.display.toList.isEmpty = true ∨ ip.display.toList.map Char.toLower = "none".toList) := by
    rw [List.isEmpty_iff, not_or]
    exact ⟨hbare.ne_nil, toLower_ne_none hbare⟩
  unfold parseOptionalIpLabel
  rw [h]
  simp only [if_neg hnot, IpAddr.parse_display]

theorem parseIpLabel_display (h : findLabel output label = some ip.display.toList) :
    parseIpLabel output label = .ok ip := by
  unfold parseIpLabel
  rw [parseOptionalIpLabel_display h]
  rfl

theorem rejectRouter_display {label message : String} (h : findLabel output label = some ip.display.toList)
    (hzero : ip.isUnspecified = true) : rejectRouter output label message = .ok () := by
  unfold rejectRouter
  rw [parseOptionalIpLabel_display h]
  show (if ip.isUnspecified = true then _ else _) = _
  rw [if_pos hzero]

theorem prefixFromNetmask_netmask (h : length.toNat ≤ 32) : prefixFromNetmask (netmask length.toNat) = .ok length := by
  unfold prefixFromNetmask
  rw [leadingOnes_netmask h, if_neg (not_not.2 rfl), UInt8.ofNat_toNat]

theorem parseIpv4_manualInfo (address : BitVec 32) (h : length.toNat ≤ 32) :
    parseIpv4 (manualInfo address (netmask length.toNat) 0) = .ok (.static [⟨.v4 address, length⟩]) := by
  generalize hmask : netmask length.toNat = mask
  have hnot : contains "DHCP Configuration".toList (manualInfo address mask 0) = false := by
    refine not_contains (c := 'H') (by decide) (not_mem_printLines (by decide) ?_)
    simp only [forall_mem_cons]
    exact ⟨by decide, not_mem_labelled (bare_textV4 address) (by decide) (by decide) (by decide),
      not_mem_labelled (bare_textV4 mask) (by decide) (by decide) (by decide),
      not_mem_labelled (bare_textV4 0) (by decide) (by decide) (by decide), by simp⟩
  have hfits := fits_manualInfo address mask 0
  have haddress : parseIpLabel (manualInfo address mask 0) "IP address:" = .ok (.v4 address) :=
    parseIpLabel_display (findLabel_after ["Manual Configuration".toList] hfits rfl (bare_textV4 address))
  have hmask' : parseIpLabel (manualInfo address mask 0) "Subnet mask:" = .ok (.v4 mask) :=
    parseIpLabel_display (findLabel_after [_, labelled "IP address:" (textV4 address)] hfits rfl (bare_textV4 mask))
  have hrouter (message : String) : rejectRouter (manualInfo address mask 0) "Router:" message = .ok () :=
    rejectRouter_display (findLabel_after [_, labelled "IP address:" (textV4 address),
      labelled "Subnet mask:" (textV4 mask)] hfits rfl (bare_display (.v4 0))) rfl
  unfold parseIpv4
  rw [hnot, haddress, ok_bind, hmask', ok_bind]
  dsimp only [requireV4]
  rw [ok_bind, ok_bind, ← hmask, prefixFromNetmask_netmask h, hmask, hrouter]
  rfl

/-! IPv6 is printed by a query of its own. -/

section
variable (address router : BitVec 128) (length : Nat)

theorem fits_manualV6Info :
    ∀ l ∈ [labelled "IPv6 IP address:" (textV6 address), labelled "Prefix Length:" (textNat length),
    labelled "IPv6 Router:" (textV6 router)], Newline.lf.Fits l := by
  simp only [forall_mem_cons]
  exact ⟨fits_labelled (bare_textV6 address) (by decide) (by decide),
    fits_labelled (bare_textNat length) (by decide) (by decide),
    fits_labelled (bare_textV6 router) (by decide) (by decide), by simp⟩

theorem not_mem_manualV6Info {c : Char} (hc : IpAddr.isAddressChar c = false)
    (hlabels : c ∉ "IPv6 IP address:".toList ∧ c ∉ "Prefix Length:".toList ∧ c ∉ "IPv6 Router:".toList ∧
      c ≠ ' ' ∧ c ≠ '\n') :
    c ∉ manualV6Info address length router := by
  obtain ⟨h1, h2, h3, hspace, hfeed⟩ := hlabels
  refine not_mem_printLines hfeed ?_
  simp only [forall_mem_cons]
  exact ⟨not_mem_labelled (bare_textV6 address) hc h1 hspace, not_mem_labelled (bare_textNat length) hc h2 hspace,
    not_mem_labelled (bare_textV6 router) hc h3 hspace, by simp⟩

end

theorem parseU8Label_textNat (h : findLabel output label = some (textNat length.toNat)) :
    parseU8Label output label = .ok length := by
  unfold parseU8Label
  rw [h]
  have hparse : parseUnsigned (2 ^ 8) (textNat length.toNat) = some length.toNat :=
    parseUnsigned_toDigits length.toNat_lt
  simp only [hparse, UInt8.ofNat_toNat]

theorem parseIpv6_manualV6Info (address : BitVec 128) (length : UInt8) :
    parseIpv6 (manualV6Info address length.toNat 0) = .ok (.static [⟨.v6 address, length⟩]) := by
  have hoff : contains "Off".toList (manualV6Info address length.toNat 0) = false :=
    not_contains (c := 'O') (by decide) (not_mem_manualV6Info address 0 length.toNat (by decide) (by decide))
  have hdisabled : contains "Disabled".toList (manualV6Info address length.toNat 0) = false :=
    not_contains (c := 'l') (by decide) (not_mem_manualV6Info address 0 length.toNat (by decide) (by decide))
  have hautomatic : contains "Automatic".toList (manualV6Info address length.toNat 0) = false :=
    not_contains (c := 'm') (by decide) (not_mem_manualV6Info address 0 length.toNat (by decide) (by decide))
  have hfits := fits_manualV6Info address 0 length.toNat
  have haddress : parseIpLabel (manualV6Info address length.toNat 0) "IPv6 IP address:" = .ok (.v6 address) :=
    parseIpLabel_display (findLabel_after [] hfits rfl (bare_textV6 address))
  have hlength : parseU8Label (manualV6Info address length.toNat 0) "Prefix Length:" = .ok length :=
    parseU8Label_textNat (findLabel_after [labelled "IPv6 IP address:" (textV6 address)] hfits rfl
      (bare_textNat length.toNat))
  have hrouter (message : String) :
    rejectRouter (manualV6Info address length.toNat 0) "IPv6 Router:" message = .ok () :=
    rejectRouter_display (findLabel_after [labelled "IPv6 IP address:" (textV6 address),
      labelled "Prefix Length:" (textNat length.toNat)] hfits rfl (bare_display (.v6 0))) rfl
  unfold parseIpv6
  rw [hoff, hdisabled, hautomatic, haddress]
  rw [hlength, hrouter]
  rfl

theorem lines_serverTexts (servers : List IpAddr) : lines (printLines (serverTexts servers)) = serverTexts servers :=
  lines_lines .lf fun _ hl => ⟨(bare_serverTexts hl).not_mem (by decide),
    fun _ hlast => (bare_serverTexts hl).not_mem (by decide) (mem_of_getLast? hlast)⟩

theorem trim_serverTexts (servers : List IpAddr) :
    ((serverTexts servers).map trim).filter (fun line => !line.isEmpty) = serverTexts servers := by
  have htrim : (serverTexts servers).map trim = serverTexts servers := by
    conv_rhs => rw [← map_id (serverTexts servers)]
    exact map_congr_left fun l hl =>
      trim_of_all fun c hc => IpAddr.isWhitespace_of_isAddressChar ((bare_serverTexts hl).chars c hc)
  rw [htrim]
  refine filter_eq_self.2 fun l hl => ?_
  simpa using (bare_serverTexts hl).ne_nil

theorem trim_serverTexts_ne_nil (h : servers ≠ []) : ¬ (trim (printLines (serverTexts servers))).isEmpty = true := by
  obtain ⟨server, rest, rfl⟩ := exists_cons_of_ne_nil h
  obtain ⟨c, text, heq⟩ := exists_cons_of_ne_nil (bare_display server).ne_nil
  have hsolid : isWhitespace c = false := by
    refine IpAddr.isWhitespace_of_isAddressChar ((bare_display server).chars c ?_)
    rw [heq]
    exact mem_cons_self
  have hprint : printLines (serverTexts (server :: rest)) =
    c :: (text ++ Newline.lf.text ++ printLines (serverTexts rest)) := by
    unfold printLines serverTexts
    rw [map_cons, heq]
    rfl
  rw [hprint, trim_cons hsolid]
  simp

theorem parseMacosDns_serverInfo (interfaceId : Str) (servers : List IpAddr) :
    parseMacosDns (serverInfo interfaceId servers) = .ok servers := by
  by_cases hnil : servers = []
  · subst hnil
    have hyes : contains "There aren't any DNS Servers".toList (serverInfo interfaceId []) = true := by
      rw [contains_iff]
      exact ⟨[], " set on ".toList ++ interfaceId ++ ".\n".toList, rfl⟩
    exact if_pos (.inl hyes)
  · have hinfo : serverInfo interfaceId servers = printLines (serverTexts servers) := if_neg (by simpa using hnil)
    have hnone : ¬ contains "There aren't any DNS Servers".toList (printLines (serverTexts servers)) = true := by
      rw [not_contains (c := 'T') (by decide) (not_mem_printLines (by decide) fun l hl =>
        (bare_serverTexts hl).not_mem (by decide))]
      exact Bool.false_ne_true
    unfold parseMacosDns
    rw [hinfo, if_neg (not_or.2 ⟨hnone, trim_serverTexts_ne_nil hnil⟩), lines_serverTexts, trim_serverTexts]
    exact parseServers_display _ servers

theorem textNat_not_mem {c : Char} (hc : toDigit 10 c = none) (n : Nat) : c ∉ textNat n := by
  intro hmem
  have hsome := isSome_toDigit_of_mem (by decide) (by decide) hmem
  rw [hc] at hsome
  cases hsome

theorem parseMtu_currentMtu (mtu : UInt32) : parseMtu (currentMtu mtu.toNat) = .ok mtu := by
  generalize htext : textNat mtu.toNat = text
  have hbare : Bare text := htext ▸ bare_textNat mtu.toNat
  have hnot : 'C' ∉ text := htext ▸ textNat_not_mem (by decide) mtu.toNat
  have hspaces : ∀ c ∈ text ++ [')'], isWhitespace c = false := by
    intro c hc
    rcases mem_append.1 hc with hc | hc
    · exact IpAddr.isWhitespace_of_isAddressChar (hbare.chars c hc)
    · rw [mem_singleton.1 hc]
      decide
  have hsplit : split "Current Setting:".toList (currentMtu mtu.toNat) =
      ["Active MTU: ".toList ++ text ++ " (".toList, ' ' :: (text ++ ")\n".toList)] := by
    unfold currentMtu
    rw [htext]
    have hfront : 'C' ∉ "Active MTU: ".toList ++ text ++ " (".toList := by
      rw [mem_append, mem_append, not_or, not_or]
      exact ⟨⟨by decide, hnot⟩, by decide⟩
    have hback : 'C' ∉ ' ' :: (text ++ ")\n".toList) := by
      rw [mem_cons, mem_append, not_or, not_or]
      exact ⟨by decide, hnot, by decide⟩
    exact split_append hfront hback
  have hword : (splitWhitespace (' ' :: (text ++ ")\n".toList))).head? = some (text ++ [')']) := by
    have hassoc : text ++ ")\n".toList = (text ++ [')']) ++ '\n' :: [] := by simp
    rw [splitWhitespace_space (by decide), hassoc, splitWhitespace_word (by simp) hspaces (by decide)]
    rfl
  have hdrop : (text ++ [')']).rdropWhile (· == ')') = text := by
    rw [rdropWhile_concat_pos _ _ _ (by decide), rdropWhile_eq_self_iff]
    intro hne hlast
    have hmem := getLast_mem hne
    rw [beq_iff_eq.1 hlast] at hmem
    exact hbare.not_mem (by decide) hmem
  have hparse : parseUnsigned (2 ^ 32) text = some mtu.toNat := htext ▸ parseUnsigned_toDigits mtu.toNat_lt
  unfold parseMtu
  rw [hsplit]
  simp only [List.getElem?_cons_succ, List.getElem?_cons_zero, Option.bind_some, hword, hdrop, hparse,
    UInt32.ofNat_toNat]

/-! ## The platform -/

theorem adapter_addressed {desired : NetworkDesiredState} (h : adapter.build i desired = .ok commands) :
    ∀ c ∈ commands, c.interfaceId = i := by
  obtain ⟨-, -, -, -, ipv4, ipv6, dns, h4, h6, hdns, rfl, -⟩ := Adapter.build_ok_iff.1 h
  cases hdns
  exact Adapter.forall_commands h4 h6 rfl (fun _ _ => rfl) rfl rfl (fun _ _ => rfl) rfl (fun _ => rfl)

def platform : Platform Interface Command where
  toAdapter := adapter
  backend := .macos
  interfaceId := Command.interfaceId
  run := run
  readState := readState
  addressed _ _ _ h := adapter_addressed h

theorem plain_arguments (hi : Plain c.interfaceId) : ∀ argument ∈ c.arguments, Plain argument := by
  cases c with
  | setdhcp i | setv6automatic i | setv6off i =>
    simp only [Command.arguments, forall_mem_cons]
    exact ⟨by decide, hi, by simp⟩
  | setmanual i address mask router =>
    simp only [Command.arguments, forall_mem_cons]
    exact ⟨by decide, hi, (bare_textV4 address).plain, (bare_textV4 mask).plain, (bare_textV4 router).plain, by simp⟩
  | setv6manual i address length router =>
    simp only [Command.arguments, forall_mem_cons]
    exact ⟨by decide, hi, (bare_textV6 address).plain, (bare_textNat _).plain, (bare_textV6 router).plain, by simp⟩
  | setdnsservers i servers =>
    simp only [Command.arguments, serverArguments, cons_append, nil_append, forall_mem_cons]
    refine ⟨by decide, hi, ?_⟩
    split
    · exact forall_mem_singleton.2 (by decide)
    · exact fun _ hmem => (bare_serverTexts hmem).plain
  | setMTU i mtu =>
    simp only [Command.arguments, forall_mem_cons]
    exact ⟨by decide, hi, (bare_textNat _).plain, by simp⟩

theorem validate_command (hi : Plain c.interfaceId) (hlength : c.arguments.length ≤ 32) :
    validatePlatformCommand (adapter.command c) = .ok () := by
  refine (validatePlatformCommand_ok_iff (.inl rfl)).2 ⟨?_, hlength, plain_arguments hi⟩
  show c.arguments ≠ []
  cases c <;> simp [Command.arguments]

theorem plain_of_build (h : adapter.build i state = .ok commands) : Plain i := by
  obtain ⟨-, -, -, -, c4, c6, cd, -, -, hdns, rfl, hvalid⟩ := Adapter.build_ok_iff.1 h
  have hcommand : validatePlatformCommand (adapter.command cd) = .ok () :=
    (validateCommands_ok_iff.1 hvalid).2 _ (mem_map_of_mem (by simp))
  have hname : i ∈ (adapter.command cd).arguments := by
    rw [← Except.ok.inj hdns]
    simp [adapter, Command.arguments]
  have hprogram : (adapter.command cd).program = networksetupProgram := rfl
  exact ((validatePlatformCommand_ok_iff (.inl hprogram)).1 hcommand).2.2 _ hname

theorem length_setdnsservers (h : servers.length ≤ 16) : (Command.setdnsservers i servers).arguments.length ≤ 32 := by
  simp only [Command.arguments, serverArguments, serverTexts, length_append, length_cons, length_nil]
  split
  · decide
  · rw [length_map]
    omega

theorem run_ipv4 (hsingle : Single state) (h : adapter.ipv4Command i state.ipv4 = .ok c) :
    ∃ info, (∀ x, run c x = some { x with info := info }) ∧ parseIpv4 info = .ok state.ipv4 := by
  rcases Adapter.ipv4Command_ok h with ⟨heq, rfl⟩ | ⟨heq, -⟩ | ⟨address, length, heq, hlength, rfl⟩
  · rw [heq]
    exact ⟨_, fun _ => rfl, by decide⟩
  · rcases hsingle.ipv4 with hdhcp | ⟨_, _, hstatic⟩
    · rw [heq] at hdhcp; cases hdhcp
    · rw [heq] at hstatic; cases hstatic
  · rw [heq]
    exact ⟨_, fun _ => rfl, parseIpv4_manualInfo address hlength⟩

theorem run_ipv6 (h : adapter.ipv6Command i ipv6 = .ok c) :
    ∃ v6Info, (∀ x, run c x = some { x with v6Info := v6Info }) ∧ parseIpv6 v6Info = .ok ipv6 := by
  rcases Adapter.ipv6Command_ok h with ⟨rfl, rfl⟩ | ⟨rfl, rfl⟩ | ⟨address, length, rfl, rfl⟩
  · exact ⟨_, fun _ => rfl, by decide⟩
  · exact ⟨_, fun _ => rfl, by decide⟩
  · exact ⟨_, fun _ => rfl, parseIpv6_manualV6Info address length⟩

/-- **Every state the reader can return is one it reads back after its commands**, from whatever the interface was. -/
theorem settles_iff {x : Interface} :
    platform.Settles i x state ↔ validateInterface i = .ok () ∧ Plain i ∧ Single state := by
  constructor
  · rintro ⟨commands, x', -, -, hread⟩
    obtain ⟨hinterface, hplain, hparse⟩ := readState_ok_iff.1 hread
    exact ⟨hinterface, hplain, single_of_parse hparse⟩
  · rintro ⟨hinterface, hplain, hsingle⟩
    obtain ⟨c4, h4⟩ := hsingle.ipv4Command (a := adapter) i
    obtain ⟨c6, h6⟩ := hsingle.ipv6Command (a := adapter) i
    obtain ⟨info, hrun4, hinfo⟩ := run_ipv4 hsingle h4
    obtain ⟨v6Info, hrun6, hv6Info⟩ := run_ipv6 h6
    obtain ⟨mtu, hmtu⟩ := hsingle.mtu
    have hservers : (if state.dns.automatic then [] else state.dns.servers) = state.dns.servers := by
      rw [hsingle.dns]
      cases state.dns.servers <;> rfl
    have hbuild : adapter.build i state = .ok [c4, c6, .setdnsservers i state.dns.servers, .setMTU i mtu] := by
      have hdomains : state.dns.searchDomains = [] := by rw [hsingle.dns]
      have hdns : adapter.dns i state.dns = .ok (.setdnsservers i state.dns.servers) := by
        show Except.ok (Command.setdnsservers i (if state.dns.automatic then [] else state.dns.servers)) = _
        rw [hservers]
      refine Adapter.build_ok_iff.2 ⟨hinterface, hsingle.valid, hsingle.routes, hdomains, c4, c6, _, h4,
        h6, hdns, ?_, ?_⟩
      · rw [hmtu]
        rfl
      · refine validateCommands_ok_iff.2 ⟨by simp, fun command hcommand => ?_⟩
        obtain ⟨c, hc, rfl⟩ := mem_map.1 hcommand
        have hlength := length_setdnsservers (i := i)
          (NetworkDesiredState.valid_of_validate hsingle.valid).servers_length
        have hmem : c ∈ [c4, c6, .setdnsservers i state.dns.servers] ++ ((some mtu).map (adapter.setMtu i)).toList := hc
        have hshort : Plain c.interfaceId ∧ c.arguments.length ≤ 32 := by
          refine Adapter.forall_commands (P := fun c => Plain c.interfaceId ∧ c.arguments.length ≤ 32) h4 h6 ?_
            (fun _ _ => ?_) ?_ ?_ (fun _ _ => ?_) ⟨hplain, hlength⟩ (fun _ => ?_) c hmem
          all_goals exact ⟨hplain, by simp [adapter, Command.arguments]⟩
        exact validate_command hshort.1 hshort.2
    refine ⟨_, ⟨info, v6Info, serverInfo i state.dns.servers, currentMtu mtu.toNat⟩, hbuild, ?_, ?_⟩
    · show (run c4 x).bind _ = _
      rw [hrun4]
      show (run c6 _).bind _ = _
      rw [hrun6]
      rfl
    · refine readState_ok_iff.2 ⟨hinterface, hplain, parseMacosState_ok_iff.2 ⟨_, _, _, _, hinfo, hv6Info,
        parseMacosDns_serverInfo i _, parseMtu_currentMtu mtu, ?_, hsingle.valid⟩⟩
      rw [← hsingle.dns, ← hsingle.routes, ← hmtu]

end Macos
end PlatformNetwork
end NetTool
