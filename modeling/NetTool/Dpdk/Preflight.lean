import NetTool.Lib.Str
import NetTool.Error
/-!
# Dpdk.Preflight — what a DPDK session is let to start on (`backend-dpdk/src/lib.rs`, `environment.rs`)

The preflight is a list of gates over the latest probe of the host.  One of them keeps the management NIC out of DPDK:
it compares the target with the PCI address that the first default route of `/proc/net/route` leads to.  A target whose
interface carries a later default route, or one behind an interface that has no PCI address, is not compared with
anything (`preflight_refuses_management_iff`).
-/
namespace NetTool
namespace Dpdk

open List

/-! ## The probe and the request -/

structure NicProbe where
  name : String
  pciAddress : Option String
  driver : Option String
  rxQueues : Option UInt32
  txQueues : Option UInt32
  numaNode : Option Int

structure ProbeReport where
  logicalCpus : Nat
  hugePagesFree : Option Nat
  nics : List NicProbe
  dpdkCapable : Bool

structure DpdkPreflightRequest where
  pciAddress : String
  managementPciAddress : Option String
  rxQueues : UInt32
  txQueues : UInt32
  workerNumaNode : Option Int
  workerCpus : List UInt32
  requiredHugePages : Nat
  certificationMode : Bool

inductive PreflightSeverity where
  | pass | warn | fail
  deriving DecidableEq

structure PreflightCheck where
  id : String
  severity : PreflightSeverity
  message : String

structure DpdkPreflightReport where
  canRun : Bool
  certifiable : Bool
  checks : List PreflightCheck

/-! ## The management NIC -/

/-- The interface of a line of the route table whose destination is `00000000`, whatever its mask. -/
def defaultRoute (line : Str) : Option Str :=
  match Str.splitWhitespace line with
  | interface :: destination :: _ => if destination = "00000000".toList then some interface else none
  | _ => none

/-- The rows of a route table: the first line is its header. -/
def routeRows (routeContents : Str) : List Str := (Str.lines routeContents).drop 1

def nicNamed (nics : List NicProbe) (interface : Str) : Option NicProbe :=
  nics.find? (fun nic => nic.name.toList == interface)

def resolveManagementPciFromRoute (routeContents : Str) (nics : List NicProbe) : Option String := do
  let interface ← (routeRows routeContents).findSome? defaultRoute
  let nic ← nicNamed nics interface
  nic.pciAddress

/-- `detect_management_pci_address` on Linux; `route` is what reading the table gave, if it could be read. -/
def detectManagementPciAddress (route : Option Str) (nics : List NicProbe) : Option String := do
  let routeContents ← route
  resolveManagementPciFromRoute routeContents nics

/-! ## The gates -/

/-- A gate that passes with one message and has the severity `otherwise` with another. -/
def check (id : String) (passed : Bool) (otherwise : PreflightSeverity) (passMessage failMessage : String) :
    PreflightCheck :=
  ⟨id, if passed then .pass else otherwise, if passed then passMessage else failMessage⟩

def degraded (certificationMode : Bool) : PreflightSeverity := if certificationMode then .fail else .warn

def targetNic (report : ProbeReport) (pciAddress : String) : Option NicProbe :=
  report.nics.find? (fun nic => nic.pciAddress == some pciAddress)

def queueOk (request : DpdkPreflightRequest) (nic : NicProbe) : Bool :=
  nic.rxQueues.any (fun queues => request.rxQueues ≤ queues) && nic.txQueues.any
    (fun queues => request.txQueues ≤ queues) && decide (0 < request.rxQueues) && decide (0 < request.txQueues)

def driverReady (nic : NicProbe) : Bool :=
  nic.driver.any (fun driver => ["vfio-pci", "uio_pci_generic", "igb_uio"].contains driver)

def numaMatch (request : DpdkPreflightRequest) (nic : NicProbe) : Bool :=
  match request.workerNumaNode, nic.numaNode with
  | some worker, some device => decide (worker = device ∨ device < 0)
  | _, _ => true

def hugePagesOk (report : ProbeReport) (request : DpdkPreflightRequest) : Bool :=
  report.hugePagesFree.any (fun pages => request.requiredHugePages ≤ pages) && decide (0 < request.requiredHugePages)

/-- Sorted and with repetitions taken out, the CPUs are as many as before exactly when none occurs twice. -/
def cpusUnique (report : ProbeReport) (request : DpdkPreflightRequest) : Bool :=
  !request.workerCpus.isEmpty && decide request.workerCpus.Nodup &&
    request.workerCpus.all (fun cpu => cpu.toNat < report.logicalCpus)

def managementChecks (request : DpdkPreflightRequest) : List PreflightCheck :=
  match request.managementPciAddress with
  | none => []
  | some managementPci =>
    [check "MANAGEMENT_NIC_PROTECTION" (managementPci != request.pciAddress) .fail
      "target NIC is distinct from the management NIC" "target NIC carries the management control plane"]

def nicChecks (request : DpdkPreflightRequest) (nic : NicProbe) : List PreflightCheck :=
  [check "QUEUE_CAPACITY" (queueOk request nic) .fail "requested RX/TX queues are available"
      "requested RX/TX queues exceed detected capacity or are zero",
    check "DRIVER_STATE" (driverReady nic) (degraded request.certificationMode)
      "NIC is bound to a supported userspace driver" "NIC is not bound to a known DPDK userspace driver",
    check "NUMA_LOCALITY" (numaMatch request nic) (degraded request.certificationMode)
      "worker and NIC NUMA locality is compatible" "worker and NIC are on different NUMA nodes"]

def preflightChecks (report : ProbeReport) (request : DpdkPreflightRequest) : List PreflightCheck :=
  let nic := targetNic report request.pciAddress
  [check "DPDK_RUNTIME" report.dpdkCapable .fail "DPDK runtime is available" "DPDK runtime is unavailable",
    check "PCI_DEVICE" nic.isSome .fail "PCI device was discovered" "PCI device was not discovered"] ++
  managementChecks request ++
  (nic.elim [] (nicChecks request)) ++
  [check "HUGE_PAGES" (hugePagesOk report request) (degraded request.certificationMode)
      "required Huge Pages are available" "required Huge Pages are missing",
    check "CPU_AFFINITY" (cpusUnique report request) .fail "worker CPU mapping is valid"
      "worker CPU mapping is empty, duplicated, or out of range"]

def evaluatePreflight (report : ProbeReport) (request : DpdkPreflightRequest) : DpdkPreflightReport :=
  let checks := preflightChecks report request
  let hasFailure := checks.any (fun item => item.severity == .fail)
  let hasWarning := checks.any (fun item => item.severity == .warn)
  ⟨!hasFailure, !hasFailure && !hasWarning, checks⟩

/-! ## The data plane's callers -/

/-- The request of `run_dpdk_rx`, `run_dpdk_tx` and `run_dpdk_capture`. -/
def dataplaneRequest (report : ProbeReport) (route : Option Str) (interface : String) : DpdkPreflightRequest where
  pciAddress := interface
  managementPciAddress := detectManagementPciAddress route report.nics
  rxQueues := 1
  txQueues := 1
  workerNumaNode := (targetNic report interface).bind (·.numaNode)
  workerCpus := [0]
  requiredHugePages := 1
  certificationMode := false

/-! ## When the preflight lets a session start -/

section
variable {report : ProbeReport} {request : DpdkPreflightRequest} {route : Str}

theorem check_severity_fail {id : String} {passed : Bool} {otherwise : PreflightSeverity} {a b : String} :
    (check id passed otherwise a b).severity = .fail ↔ passed = false ∧ otherwise = .fail := by
  cases passed <;> simp [check]

theorem degraded_eq_fail {mode : Bool} : degraded mode = .fail ↔ mode = true := by cases mode <;> simp [degraded]

/-- The gates other than the management one, as conditions: what only warns outside certification has to hold there. -/
structure Fit (report : ProbeReport) (request : DpdkPreflightRequest) : Prop where
  runtime : report.dpdkCapable = true
  device : ∃ nic, targetNic report request.pciAddress = some nic ∧ queueOk request nic = true ∧
    (request.certificationMode = true → driverReady nic = true ∧ numaMatch request nic = true)
  hugePages : request.certificationMode = true → hugePagesOk report request = true
  cpus : cpusUnique report request = true

theorem managementChecks_fail :
    (∃ item ∈ managementChecks request, item.severity = .fail) ↔
      request.managementPciAddress = some request.pciAddress := by
  unfold managementChecks
  cases request.managementPciAddress with
  | none => simp
  | some managementPci => simp [check_severity_fail]

theorem nicChecks_fail {nic : NicProbe} :
    (∃ item ∈ nicChecks request nic, item.severity = .fail) ↔
      ¬ (queueOk request nic = true ∧
        (request.certificationMode = true → driverReady nic = true ∧ numaMatch request nic = true)) := by
  simp only [nicChecks, mem_cons, not_mem_nil, or_false, exists_eq_or_imp, exists_eq_left, check_severity_fail,
    degraded_eq_fail, ← Bool.not_eq_true]
  tauto

/-- **The preflight's verdict**: a session may start on a target that meets the other gates and is not the management
NIC of the request. -/
theorem canRun_iff :
    (evaluatePreflight report request).canRun = true ↔
      Fit report request ∧ request.managementPciAddress ≠ some request.pciAddress := by
  have hcan : (evaluatePreflight report request).canRun = true ↔
      ¬ ∃ item ∈ preflightChecks report request, item.severity = .fail := by
    simp [evaluatePreflight]
  rw [hcan, preflightChecks]
  cases hnic : targetNic report request.pciAddress with
  | none =>
    constructor
    · intro h
      exact absurd ⟨_, mem_append_left _ (mem_append_left _ (mem_append_left _ (mem_cons_of_mem _
        (mem_singleton_self _)))), check_severity_fail.2 ⟨rfl, rfl⟩⟩ h
    · rintro ⟨⟨-, ⟨nic, hdevice, -⟩, -, -⟩, -⟩
      cases hnic.symm.trans hdevice
  | some nic =>
    simp only [Option.elim_some, mem_append, or_and_right, exists_or, managementChecks_fail, nicChecks_fail,
      mem_cons, not_mem_nil, or_false, exists_eq_left, check_severity_fail, degraded_eq_fail,
      Option.isSome_some, ← Bool.not_eq_true]
    constructor
    · intro h
      refine ⟨⟨by tauto, ⟨nic, hnic, ?_⟩, by tauto, by tauto⟩, by tauto⟩
      tauto
    · rintro ⟨⟨hruntime, ⟨nic', hdevice, hfits⟩, hpages, hcpus⟩, hmanagement⟩
      obtain rfl : nic = nic' := Option.mem_unique hnic hdevice
      tauto

/-! ## The management NIC and the route table -/

/-- The interface of the target carries a default route of the table. -/
def CarriesDefault (route : Str) (nics : List NicProbe) (target : String) : Prop :=
  ∃ nic ∈ nics, nic.pciAddress = some target ∧ ∃ line ∈ routeRows route, defaultRoute line = some nic.name.toList

/-- The first default route of the table is that of the target: its interface's entry in the probe has the target's PCI
address. -/
def FirstDefaultAt (route : Str) (nics : List NicProbe) (target : String) : Prop :=
  ∃ before line after interface nic, routeRows route = before ++ line :: after ∧
    (∀ earlier ∈ before, defaultRoute earlier = none) ∧ defaultRoute line = some interface ∧
    nicNamed nics interface = some nic ∧ nic.pciAddress = some target

theorem resolve_eq_some {nics : List NicProbe} {target : String} :
    resolveManagementPciFromRoute route nics = some target ↔ FirstDefaultAt route nics target := by
  simp only [resolveManagementPciFromRoute, Option.bind_eq_bind, Option.bind_eq_some_iff, List.findSome?_eq_some_iff,
    FirstDefaultAt]
  constructor
  · rintro ⟨interface, ⟨before, line, after, hrows, hline, hbefore⟩, nic, hnic, hpci⟩
    exact ⟨before, line, after, interface, nic, hrows, hbefore, hline, hnic, hpci⟩
  · rintro ⟨before, line, after, interface, nic, hrows, hbefore, hline, hnic, hpci⟩
    exact ⟨interface, ⟨before, line, after, hrows, hline, hbefore⟩, nic, hnic, hpci⟩

/-- **The management NIC stays out of DPDK** when its default route is the first of the table and leads to its PCI
address: a target that carries a default route is refused exactly then, or when another gate refuses it. -/
theorem preflight_refuses_management_iff
    (hdetected : request.managementPciAddress = detectManagementPciAddress (some route) report.nics) :
    (CarriesDefault route report.nics request.pciAddress → (evaluatePreflight report request).canRun = false) ↔
      (CarriesDefault route report.nics request.pciAddress →
        FirstDefaultAt route report.nics request.pciAddress ∨ ¬ Fit report request) := by
  have hdetect : request.managementPciAddress = some request.pciAddress ↔
      FirstDefaultAt route report.nics request.pciAddress := by
    rw [hdetected, ← resolve_eq_some]
    rfl
  rw [← Bool.not_eq_true, canRun_iff]
  tauto

end

/-- A host with one PCI NIC, `eth0`, and a wireless interface `wlan0` that is not on the PCI bus. -/
def sampleHost : ProbeReport where
  logicalCpus := 8
  hugePagesFree := some 1024
  nics := [⟨"wlan0", none, none, none, none, none⟩,
    ⟨"eth0", some "0000:01:00.0", some "ixgbe", some 4, some 4, some 0⟩]
  dpdkCapable := true

theorem preflight_refuses_only_uplink :
    CarriesDefault "Iface\tDestination\neth0\t00000000\n".toList sampleHost.nics "0000:01:00.0" ∧
      (evaluatePreflight sampleHost
        (dataplaneRequest sampleHost (some "Iface\tDestination\neth0\t00000000\n".toList) "0000:01:00.0")).canRun =
          false := by
  have hcarries : CarriesDefault "Iface\tDestination\neth0\t00000000\n".toList sampleHost.nics "0000:01:00.0" :=
    ⟨⟨"eth0", some "0000:01:00.0", some "ixgbe", some 4, some 4, some 0⟩, by simp [sampleHost], rfl,
      "eth0\t00000000".toList, by decide +kernel, by decide +kernel⟩
  refine ⟨hcarries, (preflight_refuses_management_iff rfl).2 (fun _ => .inl ?_) hcarries⟩
  exact resolve_eq_some.1 (by decide +kernel)

/-- With a default route over `wlan0` listed before that of `eth0`, a session may start on `eth0`. -/
theorem second_uplink_not_protected :
    CarriesDefault "Iface\tDestination\nwlan0\t00000000\neth0\t00000000\n".toList sampleHost.nics "0000:01:00.0" ∧
      (evaluatePreflight sampleHost
        (dataplaneRequest sampleHost (some "Iface\tDestination\nwlan0\t00000000\neth0\t00000000\n".toList)
          "0000:01:00.0")).canRun = true :=
  ⟨⟨⟨"eth0", some "0000:01:00.0", some "ixgbe", some 4, some 4, some 0⟩, by simp [sampleHost], rfl,
    "eth0\t00000000".toList, by decide +kernel, by decide +kernel⟩, by decide +kernel⟩

end Dpdk
end NetTool
