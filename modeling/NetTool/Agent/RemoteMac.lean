import NetTool.Agent.Authenticate
import NetTool.Node.Server
import NetTool.Packet.Generator
import NetTool.Speed.Request
/-!
# Agent.RemoteMac — who checks the remote MAC address

Five places check it before a frame is sent or received.  The request, the server and the session ask for a first octet
that is not zero, where an address is refused only when all six are; the receiver of the Agent (`parse_unicast_mac` in
`apps/agent/src/main.rs`) reads each part as a number, with a sign and any count of digits.  On every other text they
agree (`remote_mac_consistent_iff`).
-/
namespace NetTool
namespace Agent

open Check Speed Node Packet

/-- `u8::from_str_radix(part, 16)`, which passes over a plus sign. -/
def readOctet (part : List Char) : Option UInt8 := (Numeral.fromStrRadix 16 256 part).map .ofNat

def parseUnicastMac (value : String) : Result (Option (List UInt8)) := do
  let parts := value.toList.splitOn ':'
  if parts.length ≠ 6 then .error (.new .invalidArgument "DPDK receiver destination MAC is invalid" false)
  match parts.mapM readOctet with
  | none => .error (.new .invalidArgument "DPDK receiver destination MAC is invalid" false)
  | some mac =>
    if mac = zeros 6 ∨ mac.headD 0 % 2 ≠ 0 then
      .error (.new .invalidArgument "DPDK receiver destination MAC must be unicast" false)
    pure (some mac)

/-! ## Unicast addresses -/

def parts (value : String) : List (List Char) := value.toList.splitOn ':'

def SixOctets (parts : List (List Char)) : Prop :=
  parts.length = 6 ∧ ∀ part ∈ parts, part.length = 2 ∧ part.all isAsciiHexdigit = true

def Unicast (mac : List UInt8) : Prop := mac ≠ zeros 6 ∧ mac.headD 0 % 2 = 0

def octets (parts : List (List Char)) : List UInt8 := parts.map (fun part => .ofNat (fromHex part))

def IsUnicastMac (value : String) : Prop :=
  SixOctets (parts value) ∧ Unicast (octets (parts value))

theorem two_digits {part : List Char} (h : part.length = 2 ∧ part.all isAsciiHexdigit = true) :
    fromHex part < 256 ∧ readOctet part = some (.ofNat (fromHex part)) := by
  obtain ⟨a, b, rfl⟩ := List.length_eq_two.1 h.1
  have hdigits : isAsciiHexdigit a = true ∧ isAsciiHexdigit b = true := by simpa using h.2
  obtain ⟨-, -, ha, -, hav⟩ := hexdigit_facts hdigits.1
  obtain ⟨-, -, hb, -, hbv⟩ := hexdigit_facts hdigits.2
  have hvalue : fromHex [a, b] = 16 * Numeral.digitValue a + Numeral.digitValue b := by
    rw [← hav, ← hbv]
    exact congrArg (16 * · + hexValue b) (Nat.zero_add _)
  rw [readOctet, fromStrRadix_digits hdigits.1 hdigits.2, hvalue]
  exact ⟨by omega, rfl⟩

theorem mapM_octets {parts : List (List Char)} (h : ∀ part ∈ parts, part.length = 2 ∧ part.all isAsciiHexdigit = true) :
    parts.mapM readOctet = some (octets parts) := by
  induction parts with
  | nil => rfl
  | cons part parts ih =>
    rw [List.mapM_cons, (two_digits (h part List.mem_cons_self)).2,
      ih (fun part hmem => h part (List.mem_cons_of_mem _ hmem))]
    rfl

/-! ## The verdicts -/

variable {value : String}

theorem toNat_first (h : SixOctets (parts value)) :
    ((octets (parts value)).headD 0).toNat = fromHex ((parts value).headD []) := by
  cases hparts : parts value with
  | nil => rfl
  | cons part rest =>
    exact UInt8.toNat_ofNat_of_lt' (two_digits (h.2 part (by rw [hparts]; exact List.mem_cons_self))).1

theorem validUnicastMac_iff : validUnicastMac value = true ↔
    IsUnicastMac value ∧ (octets (parts value)).headD 0 ≠ 0 := by
  have hchecks : validUnicastMac value = true ↔ SixOctets (parts value) ∧ fromHex ((parts value).headD []) ≠ 0 ∧
      fromHex ((parts value).headD []) % 2 = 0 := by
    simp [validUnicastMac, isUnicastMac, SixOctets, parts, and_assoc]
  rw [hchecks]
  constructor
  · rintro ⟨hsix, hne, heven⟩
    rw [← toNat_first hsix] at hne heven
    have hfirst : (octets (parts value)).headD 0 ≠ 0 := fun h => hne (by rw [h]; rfl)
    exact ⟨⟨hsix, fun h => hfirst (by rw [h]; rfl), UInt8.toNat_inj.1 heven⟩, hfirst⟩
  · rintro ⟨⟨hsix, -, heven⟩, hne⟩
    rw [← toNat_first hsix]
    exact ⟨hsix, fun h => hne (UInt8.toNat_inj.1 h), congrArg UInt8.toNat heven⟩

theorem parseMac_iff : (∃ mac, parseMac value = .ok mac) ↔ IsUnicastMac value := by
  unfold parseMac IsUnicastMac SixOctets Unicast octets parts
  simp only [error_bind, guard_ok, pure_ok, not_or, ne_eq, not_not, Bool.not_eq_true, List.any_eq_false,
    Bool.or_eq_false_iff, bne_eq_false_iff_eq, Bool.not_eq_false']
  constructor
  · rintro ⟨mac, hparts, ⟨heven, hne⟩, rfl⟩
    exact ⟨hparts, hne, heven⟩
  · rintro ⟨hparts, hne, heven⟩
    exact ⟨_, hparts, ⟨heven, hne⟩, rfl⟩

theorem parseUnicastMac_iff : (∃ mac, parseUnicastMac value = .ok mac) ↔ (parts value).length = 6 ∧
    ∃ mac, (parts value).mapM readOctet = some mac ∧ Unicast mac := by
  unfold parseUnicastMac Unicast parts
  simp only [error_bind, guard_ok, ne_eq, not_not, exists_and_left]
  cases (value.toList.splitOn ':').mapM readOctet with
  | none => simp
  | some mac => simp [guard_ok, pure_ok]

/-- Everyone's verdict is whether the text is a unicast address. -/
structure Consistent (value : String) : Prop where
  request : validUnicastMac value = true ↔ IsUnicastMac value
  server : NodeControlService.validUnicastMac value = true ↔ IsUnicastMac value
  session : validDpdkMac value = true ↔ IsUnicastMac value
  receiver : (∃ mac, parseUnicastMac value = .ok mac) ↔ IsUnicastMac value
  generator : ∀ (profile : RawGeneratorProfile) bytes, profile.templateBytes = .ok bytes →
    ((∃ template, profile.templateBytesWithDestinationMac value = .ok template) ↔ IsUnicastMac value)

def ZeroFirst (value : String) : Prop :=
  IsUnicastMac value ∧ (octets (parts value)).headD 0 = 0

/-- Six numbers of a unicast address, but not of two digits each. -/
def Loose (value : String) : Prop :=
  (parts value).length = 6 ∧ ¬ SixOctets (parts value) ∧
    ∃ mac, (parts value).mapM readOctet = some mac ∧ Unicast mac

/-- **The five checks agree on a text exactly when it is neither a unicast address with a zero first octet nor one that
is written loosely.** -/
theorem remote_mac_consistent_iff (value : String) : Consistent value ↔ ¬ ZeroFirst value ∧ ¬ Loose value := by
  constructor
  · intro h
    constructor
    · rintro ⟨hunicast, hzero⟩
      exact (validUnicastMac_iff.1 (h.request.2 hunicast)).2 hzero
    · rintro ⟨hlength, hloose, hread⟩
      exact hloose (h.receiver.1 (parseUnicastMac_iff.2 ⟨hlength, hread⟩)).1
  · rintro ⟨hzero, hloose⟩
    have hrequest : validUnicastMac value = true ↔ IsUnicastMac value :=
      validUnicastMac_iff.trans (and_iff_left_of_imp fun hunicast hfirst => hzero ⟨hunicast, hfirst⟩)
    refine ⟨hrequest, hrequest, hrequest, parseUnicastMac_iff.trans ⟨?_, ?_⟩, ?_⟩
    · rintro ⟨hlength, mac, hread, hunicast⟩
      have hsix : SixOctets (parts value) := by
        by_contra hsix
        exact hloose ⟨hlength, hsix, mac, hread, hunicast⟩
      rw [mapM_octets hsix.2, Option.some.injEq] at hread
      exact ⟨hsix, hread ▸ hunicast⟩
    · rintro ⟨hsix, hunicast⟩
      exact ⟨hsix.1, _, mapM_octets hsix.2, hunicast⟩
    · intro profile bytes hbytes
      rw [← parseMac_iff]
      unfold RawGeneratorProfile.templateBytesWithDestinationMac
      rw [hbytes]
      cases parseMac value with
      | error error => simp
      | ok mac => simp

/-- The receiver and the generator take an address that the other three refuse, and the receiver alone one that is no
address. -/
theorem remote_mac_verdicts :
    (validUnicastMac "00:11:22:33:44:55" = false ∧ validDpdkMac "00:11:22:33:44:55" = false ∧
      parseMac "00:11:22:33:44:55" = .ok [0, 0x11, 0x22, 0x33, 0x44, 0x55] ∧
      parseUnicastMac "00:11:22:33:44:55" = .ok (some [0, 0x11, 0x22, 0x33, 0x44, 0x55])) ∧
    parseUnicastMac "2:+a:0:0:0:001" = .ok (some [2, 10, 0, 0, 0, 1]) ∧
    (∃ error, parseMac "2:+a:0:0:0:001" = .error error) ∧ validUnicastMac "2:+a:0:0:0:001" = false := by
  refine ⟨⟨by decide, by decide, by rfl, by rfl⟩, by rfl, ⟨_, by rfl⟩, by decide⟩

end Agent
end NetTool
