import Mathlib.Logic.Function.Basic
import NetTool.Error
import NetTool.Helper.DesiredState
import NetTool.Lib.Prog
import NetTool.Lib.Str
/-!
# NetworkManager.Executor — the Linux executor (`crates/helper-core/src/linux_network_manager.rs`)

The executor reads and writes a connection profile of NetworkManager through `nmcli`: a snapshot is the text of thirteen
properties, an apply one `connection modify` with the properties of the desired state, a restore one with those of the
snapshot.  `nmcli` itself is a parameter: `print` is the text it prints for a value.  Any command and any step on the
snapshot file may fail, a failed `modify` after storing a part of what it was given.
-/
namespace NetTool
namespace NetworkManager

open Prog Str Helper List

/-- `BTreeMap<String, String>`. -/
abbrev Properties : Type := Std.TreeMap String Str

def snapshotVersion : Nat := 1

def profileProperties : List String := [
  "ipv4.method",
  "ipv4.addresses",
  "ipv4.dns",
  "ipv4.dns-search",
  "ipv4.routes",
  "ipv4.ignore-auto-dns",
  "ipv6.method",
  "ipv6.addresses",
  "ipv6.dns",
  "ipv6.dns-search",
  "ipv6.routes",
  "ipv6.ignore-auto-dns",
  "802-3-ethernet.mtu"]

/-- `NetworkManagerSnapshot`. -/
structure Snapshot where
  version : Nat
  interfaceId : Str
  connectionUuid : Str
  properties : Properties

structure CommandOutput where
  success : Bool
  stdout : Str
  stderr : Str

/-! ## Errors -/

def executionError (context : String) (detail : Str) (retryable : Bool) : NetToolError :=
  .new .helperExecutionFailed (context ++ ": " ++ (if detail.isEmpty then "no platform detail"
    else String.ofList detail)) retryable

def persistenceError (error : Str) : NetToolError :=
  .new .persistenceFailed ("network snapshot persistence failed: " ++ String.ofList error) true

/-! ## `build_network_manager_properties` -/

def formatPrefix (p : IpPrefix) : Str := p.address.display.toList ++ '/' :: (toString p.prefixLength.toNat).toList

def formatAddresses (addresses : List IpPrefix) : Str := [','].intercalate (addresses.map formatPrefix)

/-- What follows the destination of a route: its gateway, or a placeholder when there is a metric, and the metric. -/
def formatHop (ipv4 : Bool) (gateway : Option IpAddr) (metric : Option UInt32) : Str :=
  (match gateway with
    | some gateway => ' ' :: gateway.display.toList
    | none => if metric.isSome then (if ipv4 then " 0.0.0.0".toList else " ::".toList) else []) ++
    match metric with
    | some metric => ' ' :: (toString metric.toNat).toList
    | none => []

def formatRoute (ipv4 : Bool) (route : RouteConfiguration) : Str :=
  formatPrefix route.destination ++ formatHop ipv4 route.gateway route.metric

def formatRoutes (routes : List RouteConfiguration) (ipv4 : Bool) : Str :=
  [','].intercalate ((routes.filter (fun route => route.destination.address.isIpv4 == ipv4)).map (formatRoute ipv4))

def formatServers (servers : List IpAddr) (ipv4 : Bool) : Str :=
  [','].intercalate ((servers.filter (fun address => address.isIpv4 == ipv4)).map
    (fun address => address.display.toList))

/-- `"auto"`, `"manual"` or `"disabled"`, and the addresses. -/
def ipv4Mode : Ipv4Configuration → Str × Str
  | .dhcp => ("auto".toList, [])
  | .static addresses => ("manual".toList, formatAddresses addresses)
  | .disabled => ("disabled".toList, [])

def ipv6Mode : Ipv6Configuration → Str × Str
  | .automatic => ("auto".toList, [])
  | .static addresses => ("manual".toList, formatAddresses addresses)
  | .disabled => ("disabled".toList, [])

def searchList (domains : List String) : Str := [','].intercalate (domains.map String.toList)

def yesNo (ignore : Bool) : Str := if ignore then "yes".toList else "no".toList

def buildNetworkManagerProperties (state : NetworkDesiredState) : Properties :=
  let properties : Properties := ∅
  let properties := properties.insert "ipv4.method" (ipv4Mode state.ipv4).1
  let properties := properties.insert "ipv4.addresses" (ipv4Mode state.ipv4).2
  let properties := properties.insert "ipv6.method" (ipv6Mode state.ipv6).1
  let properties := properties.insert "ipv6.addresses" (ipv6Mode state.ipv6).2
  let properties := properties.insert "ipv4.dns" (formatServers state.dns.servers true)
  let properties := properties.insert "ipv6.dns" (formatServers state.dns.servers false)
  let properties := properties.insert "ipv4.dns-search" (searchList state.dns.searchDomains)
  let properties := properties.insert "ipv6.dns-search" []
  let properties := properties.insert "ipv4.ignore-auto-dns" (yesNo !state.dns.automatic)
  let properties := properties.insert "ipv6.ignore-auto-dns" (yesNo !state.dns.automatic)
  let properties := properties.insert "ipv4.routes" (formatRoutes state.routes true)
  let properties := properties.insert "ipv6.routes" (formatRoutes state.routes false)
  match state.mtu with
  | some mtu => properties.insert "802-3-ethernet.mtu" (toString mtu.toNat).toList
  | none => properties

def normalizeProperty (value : Str) : Str :=
  [','].intercalate (((value.splitOn ',').map trim).filter (fun item => !item.isEmpty))

/-! ## `nmcli` and the snapshot directory -/

structure Device where
  kind : Str
  connection : Str

/-- A connection profile: the value of every property. -/
abbrev Profile : Type := String → Str

/-- What goes wrong with a command or a step on a file: it is not carried out, or it ends with an error after the first
`written` properties of a `modify` were stored. -/
inductive Fault
  | error (error : NetToolError)
  | failed (stderr : Str) (written : Nat)

/-- NetworkManager, the snapshot directory, and what is going to fail, step by step. -/
structure World where
  devices : Str → Option Device
  profiles : Str → Option Profile
  snapshots : String → Option Snapshot
  faults : List (Option Fault)

inductive Command
  | deviceType (interfaceId : Str)
  | deviceUuid (interfaceId : Str)
  | connectionShow (property : String) (uuid : Str)
  | modify (uuid : Str) (properties : List (String × Str))
  | up (uuid interfaceId : Str)

def Command.written : Command → List (String × Str)
  | modify _ properties => properties
  | _ => []

def store (profile : Profile) (properties : List (String × Str)) : Profile :=
  properties.foldl (fun profile p => Function.update profile p.1 p.2) profile

def World.write (w : World) (uuid : Str) (properties : List (String × Str)) : World :=
  { w with profiles := Function.update w.profiles uuid ((w.profiles uuid).map
    (fun profile => store profile properties)) }

def notFound : CommandOutput := ⟨false, [], "Error: not found.".toList⟩

def done (stdout : Str) : CommandOutput := ⟨true, stdout, []⟩

section
variable (print : Str → Str)

/-- A command that nothing hinders. -/
def nmcli (w : World) : Command → CommandOutput × World
  | .deviceType interfaceId =>
    match w.devices interfaceId with
    | some device => (done (print device.kind), w)
    | none => (notFound, w)
  | .deviceUuid interfaceId =>
    match w.devices interfaceId with
    | some device => (done (print device.connection), w)
    | none => (notFound, w)
  | .connectionShow property uuid =>
    match w.profiles uuid with
    | some profile => (done (print (profile property)), w)
    | none => (notFound, w)
  | .modify uuid properties =>
    match w.profiles uuid with
    | some _ => (done [], w.write uuid properties)
    | none => (notFound, w)
  | .up uuid interfaceId =>
    match w.profiles uuid, w.devices interfaceId with
    | some _, some device =>
      (done [], { w with devices := Function.update w.devices interfaceId (some { device with connection := uuid }) })
    | _, _ => (notFound, w)

/-- A command that fails may have stored a part of its properties. -/
def World.writePart (w : World) (written : Nat) : Command → World
  | .modify uuid properties => w.write uuid (properties.take written)
  | _ => w

def nextFault : Prog World NetToolError (Option Fault) := fun w =>
  match w.faults with
  | [] => (.ok none, w)
  | fault :: faults => (.ok fault, { w with faults := faults })

def runCommand (command : Command) : Prog World NetToolError CommandOutput := do
  match ← nextFault with
  | none => fun w => (.ok (nmcli print w command).1, (nmcli print w command).2)
  | some (.error error) => fail error
  | some (.failed stderr written) =>
    Prog.modify (fun w => w.writePart written command)
    pure ⟨false, [], stderr⟩

def fileStep : Prog World NetToolError Unit := do
  match ← nextFault with
  | none => pure ()
  | some (.error error) => fail error
  | some (.failed stderr _) => fail (persistenceError stderr)

/-! ## The executor -/

def runChecked (command : Command) : Prog World NetToolError Str := do
  let output ← runCommand print command
  if output.success then pure output.stdout
  else fail (executionError "NetworkManager command failed" (trim output.stderr) false)

def connectionUuid (interfaceId : Str) : Prog World NetToolError Str := do
  let output ← runChecked print (.deviceUuid interfaceId)
  let uuid := trim output
  if uuid.isEmpty ∨ uuid = ['-', '-'] ∨ uuid.any isWhitespace then
    fail (executionError "resolve active NetworkManager connection UUID"
      "device has no unambiguous active connection".toList false)
  else pure uuid

def ensureEthernet (interfaceId : Str) : Prog World NetToolError Unit := do
  let output ← runChecked print (.deviceType interfaceId)
  if trim output = "ethernet".toList then pure ()
  else fail (.new .unsupported "Linux NetworkManager executor currently supports Ethernet devices only" false)

def readProperty (uuid : Str) (property : String) : Prog World NetToolError Str := do
  let output ← runChecked print (.connectionShow property uuid)
  pure (trim output)

def activate (uuid interfaceId : Str) : Prog World NetToolError Unit := do
  let _ ← runChecked print (.up uuid interfaceId)
  pure ()

def modify (uuid : Str) (properties : Properties) : Prog World NetToolError Unit := do
  let _ ← runChecked print (.modify uuid properties.toList)
  pure ()

def snapshotPath (snapshotId : String) : Result String :=
  if snapshotId.utf8ByteSize ≠ 64 ∨ !snapshotId.toList.all isAsciiHexdigit
    then .error (.new .invalidArgument "snapshot ID is invalid" false)
  else .ok (snapshotId ++ ".json")

/-- The identifier is the text of a digest over random bytes; a file that could not be brought to the disk is there all
the same. -/
def writeSnapshot (digest : Bytes 32) (snapshot : Snapshot) : Prog World NetToolError String := do
  let snapshotId := hexString digest.val
  let path ← ofExcept (snapshotPath snapshotId)
  fileStep
  Prog.modify (fun w => { w with snapshots := Function.update w.snapshots path (some snapshot) })
  fileStep
  pure snapshotId

def readProperties (uuid : Str) : List String → Properties → Prog World NetToolError Properties
  | [], properties => pure properties
  | property :: rest, properties => do
    let value ← readProperty print uuid property
    readProperties uuid rest (properties.insert property value)

def currentSnapshot (interfaceId : Str) : Prog World NetToolError Snapshot := do
  ensureEthernet print interfaceId
  let uuid ← connectionUuid print interfaceId
  let properties ← readProperties print uuid profileProperties ∅
  pure ⟨snapshotVersion, interfaceId, uuid, properties⟩

def snapshot (digest : Bytes 32) (interfaceId : Str) : Prog World NetToolError (String × Snapshot) := do
  let snapshot ← currentSnapshot print interfaceId
  let snapshotId ← writeSnapshot digest snapshot
  pure (snapshotId, snapshot)

def apply (interfaceId : Str) (desired : NetworkDesiredState) : Prog World NetToolError Unit := do
  ofExcept (desired.validate.mapError (fun message => .new .invalidArgument message false))
  ensureEthernet print interfaceId
  let uuid ← connectionUuid print interfaceId
  modify print uuid (buildNetworkManagerProperties desired)
  activate print uuid interfaceId

def verifyProperty (uuid : Str) (p : String × Str) : Prog World NetToolError Unit := do
  let actual ← readProperty print uuid p.1
  if normalizeProperty actual ≠ normalizeProperty p.2 then
    fail { executionError "verify NetworkManager state"
      "profile property does not match requested state".toList false with
      details := [("property", p.1)] }
  else pure ()

def verify (interfaceId : Str) (desired : NetworkDesiredState) : Prog World NetToolError Unit := do
  let uuid ← connectionUuid print interfaceId
  forEach (verifyProperty print uuid) (buildNetworkManagerProperties desired).toList

def restore (snapshotId : String) : Prog World NetToolError Unit := do
  let path ← ofExcept (snapshotPath snapshotId)
  fileStep
  let w ← get
  let snapshot ← ofOption (persistenceError "No such file or directory".toList) (w.snapshots path)
  if snapshot.version ≠ snapshotVersion then
    fail (.new .protocolIncompatible "network snapshot version is unsupported" false)
  else
    modify print snapshot.connectionUuid snapshot.properties
    activate print snapshot.connectionUuid snapshot.interfaceId

/-- The calls of the executor; a snapshot comes with the digest its identifier is made of. -/
inductive Call
  | readState (interfaceId : Str)
  | snapshot (digest : Bytes 32) (interfaceId : Str)
  | apply (interfaceId : Str) (desired : NetworkDesiredState)
  | verify (interfaceId : Str) (desired : NetworkDesiredState)
  | restore (snapshotId : String)

def Call.digest : Call → Option (Bytes 32)
  | snapshot digest _ => some digest
  | _ => none

def perform (w : World) : Call → World
  | .readState interfaceId => (currentSnapshot print interfaceId w).2
  | .snapshot digest interfaceId => (snapshot print digest interfaceId w).2
  | .apply interfaceId desired => (apply print interfaceId desired w).2
  | .verify interfaceId desired => (verify print interfaceId desired w).2
  | .restore snapshotId => (restore print snapshotId w).2

end

/-! ## Property lists -/

variable {properties : List (String × Str)} {property : String}

theorem store_of_not_mem (h : ∀ p ∈ properties, p.1 ≠ property) (profile : Profile) :
    store profile properties property = profile property := by
  induction properties generalizing profile with
  | nil => rfl
  | cons p properties ih =>
    have hrest := ih (fun q hq => h q (mem_cons_of_mem _ hq)) (Function.update profile p.1 p.2)
    rw [Function.update_of_ne (Ne.symm (h p mem_cons_self))] at hrest
    exact hrest

theorem store_of_mem {value : Str} (h : (property, value) ∈ properties)
    (hdistinct : properties.Pairwise (fun a b => a.1 ≠ b.1)) (profile : Profile) :
    store profile properties property = value := by
  induction properties generalizing profile with
  | nil => cases h
  | cons p properties ih =>
    obtain ⟨hhead, htail⟩ := pairwise_cons.1 hdistinct
    rcases mem_cons.1 h with rfl | h
    · have hrest := store_of_not_mem (fun q hq => (hhead q hq).symm) (Function.update profile property value)
      rw [Function.update_self] at hrest
      exact hrest
    · exact ih h htail _

/-- **A profile after a `modify`** holds the written values, and the others as before. -/
theorem store_toList (profile : Profile) (properties : Properties) (property : String) :
    store profile properties.toList property = properties[property]?.getD (profile property) := by
  have hdistinct : properties.toList.Pairwise (fun a b => a.1 ≠ b.1) :=
    Std.TreeMap.distinct_keys_toList.imp (fun hne heq => hne (Std.LawfulEqCmp.compare_eq_iff_eq.2 heq))
  cases hget : properties[property]? with
  | some value => exact store_of_mem (Std.TreeMap.mem_toList_iff_getElem?_eq_some.2 hget) hdistinct profile
  | none =>
    refine store_of_not_mem (fun p hp heq => ?_) profile
    have hsome : properties[p.1]? = some p.2 := Std.TreeMap.mem_toList_iff_getElem?_eq_some.1 hp
    rw [heq, hget] at hsome
    cases hsome

theorem mem_of_mem_toList {properties : Properties} {p : String × Str} (h : p ∈ properties.toList) :
    p.1 ∈ properties := by
  have hsome : properties[p.1]? = some p.2 := Std.TreeMap.mem_toList_iff_getElem?_eq_some.1 h
  rw [Std.TreeMap.mem_iff_isSome_getElem?, hsome]
  rfl

theorem getElem?_insertAll {pairs : List (String × Str)} (hdistinct : pairs.Pairwise (fun a b => a.1 ≠ b.1))
    (properties : Properties) (property : String) (value : Str) :
    (pairs.foldl (fun m p => m.insert p.1 p.2) properties)[property]? = some value ↔
      (property, value) ∈ pairs ∨ (∀ p ∈ pairs, p.1 ≠ property) ∧ properties[property]? = some value := by
  induction pairs generalizing properties with
  | nil => simp
  | cons p pairs ih =>
    obtain ⟨hhead, htail⟩ := pairwise_cons.1 hdistinct
    rw [foldl_cons, ih htail, Std.TreeMap.getElem?_insert]
    by_cases hp : p.1 = property
    · subst hp
      have hnone : ∀ q ∈ pairs, q.1 ≠ p.1 := fun q hq => (hhead q hq).symm
      have hnot : (p.1, value) ∉ pairs := fun hmem => hnone _ hmem rfl
      rw [if_pos (Std.LawfulEqCmp.compare_eq_iff_eq.2 rfl), mem_cons, forall_mem_cons, Option.some.injEq]
      simp only [hnot, false_or, or_false, ne_eq, not_true_eq_false, false_and]
      exact ⟨fun h => Prod.ext rfl h.2.symm, fun h => ⟨hnone, (congrArg Prod.snd h).symm⟩⟩
    · have hne : (property, value) ≠ p := fun h => hp (congrArg Prod.fst h).symm
      simp [hp, hne]

def writtenProperties (state : NetworkDesiredState) : List (String × Str) :=
  [("ipv4.method", (ipv4Mode state.ipv4).1), ("ipv4.addresses", (ipv4Mode state.ipv4).2),
    ("ipv6.method", (ipv6Mode state.ipv6).1), ("ipv6.addresses", (ipv6Mode state.ipv6).2),
    ("ipv4.dns", formatServers state.dns.servers true), ("ipv6.dns", formatServers state.dns.servers false),
    ("ipv4.dns-search", searchList state.dns.searchDomains), ("ipv6.dns-search", []),
    ("ipv4.ignore-auto-dns", yesNo !state.dns.automatic), ("ipv6.ignore-auto-dns", yesNo !state.dns.automatic),
    ("ipv4.routes", formatRoutes state.routes true), ("ipv6.routes", formatRoutes state.routes false)] ++
    match state.mtu with
    | some mtu => [("802-3-ethernet.mtu", (toString mtu.toNat).toList)]
    | none => []

/-- The names that are written: all but the MTU, and that if there is one. -/
def writtenNames (mtu : Bool) : List String :=
  ["ipv4.method", "ipv4.addresses", "ipv6.method", "ipv6.addresses", "ipv4.dns", "ipv6.dns", "ipv4.dns-search",
    "ipv6.dns-search",
    "ipv4.ignore-auto-dns", "ipv6.ignore-auto-dns", "ipv4.routes", "ipv6.routes"] ++ if mtu
      then ["802-3-ethernet.mtu"] else []

theorem map_fst_writtenProperties (state : NetworkDesiredState) :
    (writtenProperties state).map Prod.fst = writtenNames state.mtu.isSome := by
  unfold writtenProperties writtenNames
  cases state.mtu <;> rfl

theorem getElem?_build (state : NetworkDesiredState) (property : String) (value : Str) :
    (buildNetworkManagerProperties state)[property]? = some value ↔ (property, value) ∈ writtenProperties state := by
  have hfold : buildNetworkManagerProperties state = (writtenProperties state).foldl
    (fun m p => m.insert p.1 p.2) ∅ := by
    unfold buildNetworkManagerProperties writtenProperties
    cases state.mtu <;> rfl
  have hdistinct : (writtenProperties state).Pairwise (fun a b => a.1 ≠ b.1) := by
    have hnodup : ∀ mtu, (writtenNames mtu).Nodup := by decide
    rw [← pairwise_map, map_fst_writtenProperties]
    exact hnodup _
  rw [hfold, getElem?_insertAll hdistinct]
  simp

/-- **An apply writes properties the snapshot records.** -/
theorem mem_build {state : NetworkDesiredState} (h : property ∈ buildNetworkManagerProperties state) :
    property ∈ profileProperties := by
  obtain ⟨value, hvalue⟩ := Option.isSome_iff_exists.1 (Std.TreeMap.mem_iff_isSome_getElem?.1 h)
  have hmem : property ∈ (writtenProperties state).map Prod.fst :=
    mem_map_of_mem ((getElem?_build state property value).1 hvalue)
  have hnames : ∀ mtu, ∀ name ∈ writtenNames mtu, name ∈ profileProperties := by decide
  rw [map_fst_writtenProperties] at hmem
  exact hnames _ _ hmem

/-! ## What a command does -/

/-- Since `w`: the profiles and devices of then are there, and no property but the recorded ones has changed. -/
structure Since (w w' : World) : Prop where
  profiles : ∀ uuid profile, w.profiles uuid = some profile →
    ∃ profile', w'.profiles uuid = some profile' ∧ ∀ property, property ∉ profileProperties →
      profile' property = profile property
  devices : ∀ interfaceId, (w.devices interfaceId).isSome → (w'.devices interfaceId).isSome

/-- A snapshot the executor may have written. -/
def Snapshot.Full (s : Snapshot) :
    Prop := s.version = snapshotVersion ∧ ∀ property ∈ s.properties, property ∈ profileProperties

def Recorded (w : World) : Prop := ∀ path s, w.snapshots path = some s → s.Full

theorem Since.refl (w : World) : Since w w := ⟨fun _ profile h => ⟨profile, h, fun _ _ => rfl⟩, fun _ h => h⟩

theorem Since.trans {w w' w'' : World} (h : Since w w') (h' : Since w' w'') : Since w w'' where
  profiles := fun uuid profile hprofile => by
    obtain ⟨profile', hprofile', hsame⟩ := h.profiles uuid profile hprofile
    obtain ⟨profile'', hprofile'', hsame'⟩ := h'.profiles uuid profile' hprofile'
    exact ⟨profile'', hprofile'', fun p hp => (hsame' p hp).trans (hsame p hp)⟩
  devices := fun i hi => h'.devices i (h.devices i hi)

theorem since_write (w : World) (uuid : Str) (h : ∀ p ∈ properties, p.1 ∈ profileProperties) :
    Since w (w.write uuid properties) where
  profiles := fun u profile hprofile => by
    by_cases hu : u = uuid
    · subst hu
      refine ⟨store profile properties, by simp [World.write, hprofile], fun property hnot => ?_⟩
      refine store_of_not_mem (fun p hp heq => hnot ?_) profile
      rw [← heq]
      exact h p hp
    · exact ⟨profile, by simp [World.write, hu, hprofile], fun _ _ => rfl⟩
  devices := fun _ hi => hi

section
variable (print : Str → Str) {w : World} {command : Command}

/-- **What a command can do**, whether it fails or not: it leaves the snapshots alone and sets properties it names. -/
theorem since_nmcli (h : ∀ p ∈ command.written, p.1 ∈ profileProperties) :
    Since w (nmcli print w command).2 ∧ (nmcli print w command).2.snapshots = w.snapshots := by
  cases command with
  | deviceType | deviceUuid | connectionShow =>
    dsimp only [nmcli]
    split <;> exact ⟨.refl w, rfl⟩
  | modify uuid properties =>
    dsimp only [nmcli]
    split
    · exact ⟨since_write w uuid h, rfl⟩
    · exact ⟨.refl w, rfl⟩
  | up uuid interfaceId =>
    dsimp only [nmcli]
    split
    · refine ⟨⟨(Since.refl w).profiles, fun i hi => ?_⟩, rfl⟩
      by_cases heq : i = interfaceId
      · simp [heq]
      · simpa [heq] using hi
    · exact ⟨.refl w, rfl⟩

end

end NetworkManager
end NetTool
