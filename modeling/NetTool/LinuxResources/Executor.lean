import Mathlib.Logic.Function.Basic
import NetTool.Error
import NetTool.Lib.Files
import NetTool.Text
/-!
# LinuxResources.Executor — NIC drivers and huge pages (`crates/helper-core/src/linux_resources.rs`)

A prepare snapshots the kernel's value in a state file of its operation, sets the value and reads it back; a release
sets the value of the snapshot and marks the file.  NICs and huge pages share that code (`prepareWith`, `releaseWith`),
over a *cell*: one value of the kernel and one state file.  Every access to the kernel and to the file may fail or be
the last thing the process does, with or without effect; sysfs is modelled by its documentation, and a state file is
replaced in one step.
-/
namespace NetTool
namespace LinuxResources

open Files (Halt)
open Prog

def resourceStateVersion : Nat := 1
def dpdkDriver : String := "vfio-pci"

/-- The snapshot of an operation: what it was asked to prepare, and the value before. -/
structure Snapshot (A V : Type) where
  version : Nat
  operationId : String
  target : A
  original : V
  released : Bool

/-- `std::io::Error`. -/
structure IoError where
  message : String
  interrupted : Bool

/-- How far a write got: a page count may be changed in part, and a probe may bind nothing. -/
inductive Extent
  | none
  | part (reached : Nat)
  | full
  deriving DecidableEq

/-- What is special about an access: it returns but falls short, it fails, or the process dies with it. -/
inductive Fault
  | short (reached : Nat)
  | fail (error : IoError) (extent : Extent)
  | die (extent : Extent)

/-- One value of the kernel, one state file, and what is going to happen. -/
structure Cell (A V K : Type) where
  kernel : K
  file : Option (Snapshot A V)
  faults : List (Option Fault)

/-! ## Errors -/

def operationConflict : NetToolError :=
  .new .operationConflict "resource operation ID was reused with different arguments" false

def executionError (message : String) : NetToolError := .new .helperExecutionFailed message false

def kernelError (context : String) (error : IoError) : NetToolError :=
  .new .helperExecutionFailed (context ++ ": " ++ error.message) error.interrupted

def persistenceError (message : String) : NetToolError :=
  .new .persistenceFailed ("resource snapshot persistence failed: " ++ message) true

structure ValueResult where
  originalDriver : Option String
  activeDriver : Option String
  previousPages : Option Nat
  activePages : Option Nat
  deriving DecidableEq

/-! ## Access to the kernel and the state file -/

abbrev ExecM (σ : Type) := Prog σ (Halt NetToolError)

section
variable {A V K : Type}

def nextFault : ExecM (Cell A V K) (Option Fault) := fun c =>
  match c.faults with
  | [] => (.ok Option.none, c)
  | fault :: faults => (.ok fault, { c with faults := faults })

def kernelRead (context : String) (observe : K → V) : ExecM (Cell A V K) V := do
  match ← nextFault with
  | some (.fail error _) => fail (.error (kernelError context error))
  | some (.die _) => fail .died
  | _ =>
    let c ← get
    pure (observe c.kernel)

def kernelWrite (context : String) (effect : Extent → K → K) : ExecM (Cell A V K) Unit := do
  match ← nextFault with
  | Option.none => modify (fun c => { c with kernel := effect .full c.kernel })
  | some (.short reached) => modify (fun c => { c with kernel := effect (.part reached) c.kernel })
  | some (.fail error extent) =>
    modify (fun c => { c with kernel := effect extent c.kernel })
    fail (.error (kernelError context error))
  | some (.die extent) =>
    modify (fun c => { c with kernel := effect extent c.kernel })
    fail .died

/-- A step on the state file or the temporary file beside it. -/
def fileStep : ExecM (Cell A V K) Unit := do
  match ← nextFault with
  | some (.fail error _) => fail (.error (persistenceError error.message))
  | some (.die _) => fail .died
  | _ => pure ()

def readState : ExecM (Cell A V K) (Snapshot A V) := do
  fileStep
  let c ← get
  ofOption (.error (persistenceError Files.notFound)) c.file

/-- The temporary file is written and renamed, then the directory is synced. -/
def writeState (state : Snapshot A V) : ExecM (Cell A V K) Unit := do
  fileStep
  modify (fun c => { c with file := some state })
  fileStep

/-! ## The code NICs and huge pages share -/

/-- The snapshot in the file, or a new one of the value that is read now. -/
def loadOrSnapshot [DecidableEq A] (operationId : String) (target : A) (read : ExecM (Cell A V K) V) :
    ExecM (Cell A V K) (Snapshot A V) := do
  let c ← get
  if c.file.isSome then do
    let existing ← readState
    if existing.operationId ≠ operationId ∨ existing.target ≠ target then fail (.error operationConflict)
    else pure existing
  else do
    let original ← read
    let snapshot : Snapshot A V := ⟨resourceStateVersion, operationId, target, original, false⟩
    writeState snapshot
    pure snapshot

/-- `prepare_dpdk` and `prepare_hugepages`. -/
def prepareWith [DecidableEq A] (operationId : String) (target : A) (read : ExecM (Cell A V K) V)
    (alreadyReleased : String) (act : ExecM (Cell A V K) Unit) :
    ExecM (Cell A V K) (Snapshot A V) := do
  let snapshot ← loadOrSnapshot operationId target read
  if snapshot.released then fail (.error (.new .invalidState alreadyReleased false))
  else do
    act
    let snapshot := { snapshot with released := false }
    writeState snapshot
    pure snapshot

/-- `restore_driver` and `release_hugepages`. -/
def releaseWith (conflict : Snapshot A V → Bool) (undo : Snapshot A V → ExecM (Cell A V K) Unit) :
    ExecM (Cell A V K) (Snapshot A V) := do
  let snapshot ← readState
  if conflict snapshot then fail (.error operationConflict)
  else if snapshot.released then pure snapshot
  else do
    undo snapshot
    let snapshot := { snapshot with released := true }
    writeState snapshot
    pure snapshot

end

/-! ## NIC drivers -/

/-- A PCI device: its driver, its override, and the driver the kernel would choose. -/
structure Nic where
  driver : Option String
  override : Option String
  native : Option String

/-- Writing to `driver_override`: a newline clears it; a write of no bytes is none. -/
def setOverride (value : String) : Extent → Nic → Nic
  | .none, nic => nic
  | _, nic =>
    if value = "" then nic
    else if value = "\n" then { nic with override := Option.none }
    else { nic with override := some value }

/-- Writing the address to a driver's `unbind`. -/
def unbind (driver : String) : Extent → Nic → Nic
  | .none, nic => nic
  | _, nic => if nic.driver = some driver then { nic with driver := Option.none } else nic

/-- Writing the address to `drivers_probe`: a device without a driver gets the one of its override, if there is one. -/
def probe : Extent → Nic → Nic
  | .full, nic => if nic.driver = Option.none then { nic with driver := nic.override <|> nic.native } else nic
  | _, nic => nic

abbrev NicCell : Type := Cell String (Option String) Nic

def currentDriver : ExecM NicCell (Option String) := kernelRead "read PCI driver" Nic.driver

def unbindCurrent : Option String → ExecM NicCell Unit
  | some driver => kernelWrite "unbind PCI driver" (unbind driver)
  | Option.none => pure ()

def probeTarget (targetDriver : Option String) : ExecM NicCell Unit :=
  if targetDriver.isSome then kernelWrite "probe PCI driver" probe else pure ()

def bindDriver (targetDriver : Option String) : ExecM NicCell Unit := do
  let current ← currentDriver
  if current = targetDriver then pure ()
  else do
    kernelWrite "write PCI driver override" (setOverride (targetDriver.getD ""))
    unbindCurrent current
    probeTarget targetDriver
    let now ← currentDriver
    if now ≠ targetDriver then fail (.error (executionError "PCI driver read-back verification failed")) else pure ()

def prepareNic (operationId pciAddress : String) : ExecM NicCell (Snapshot String (Option String)) :=
  prepareWith operationId pciAddress currentDriver "NIC prepare operation was already released"
    (bindDriver (some dpdkDriver))

def restoreNic (operationId pciAddress : String) : ExecM NicCell (Snapshot String (Option String)) :=
  releaseWith (fun s => s.version != resourceStateVersion || s.operationId != operationId || s.target !=
    pciAddress) (fun s => do
    bindDriver s.original
    kernelWrite "clear PCI driver override" (setOverride "\n"))

/-! ## Huge pages -/

/-- The pool of a node, or of the machine, for pages of one size. -/
structure Pool where
  node : Option Nat
  pageSizeKib : Nat
  deriving DecidableEq

structure PoolRequest where
  pool : Pool
  requestedPages : Nat
  deriving DecidableEq

/-- Writing to `nr_hugepages`: the count goes towards what was written. -/
def resize (pages : Nat) : Extent → Nat → Nat
  | .none, count => count
  | .part reached, count => max (min count pages) (min (max count pages) reached)
  | .full, _ => pages

abbrev PoolCell : Type := Cell PoolRequest Nat Nat

def readCount : ExecM PoolCell Nat := kernelRead "read Huge Page count" id

def writeCount (pages : Nat) : ExecM PoolCell Unit := do
  kernelWrite "write Huge Page count" (resize pages)
  let count ← readCount
  if count ≠ pages then fail (.error (executionError "Huge Page read-back verification failed")) else pure ()

def preparePool (operationId : String) (request : PoolRequest) : ExecM PoolCell (Snapshot PoolRequest Nat) :=
  prepareWith operationId request readCount "Huge Page prepare operation was already released"
    (writeCount request.requestedPages)

def releasePool (operationId : String) : ExecM PoolCell (Snapshot PoolRequest Nat) :=
  releaseWith (fun s => s.version != resourceStateVersion || s.operationId != operationId)
    (fun s => writeCount s.original)

/-! ## The executor -/

/-- The kernel's values by resource and the state files by operation. -/
structure Bank (R A V K : Type) where
  kernel : R → K
  files : String → Option (Snapshot A V)
  faults : List (Option Fault)

section
variable {R A V K α : Type} [DecidableEq R]

def Bank.cell (operationId : String) (resource : R) (b : Bank R A V K) : Cell A V K :=
  ⟨b.kernel resource, b.files operationId, b.faults⟩

def Bank.setCell (operationId : String) (resource : R) (c : Cell A V K) (b : Bank R A V K) : Bank R A V K where
  kernel := Function.update b.kernel resource c.kernel
  files := Function.update b.files operationId c.file
  faults := c.faults

/-- A program of one operation and one resource. -/
def onCell (operationId : String) (resource : R) (m : ExecM (Cell A V K) α) : ExecM (Bank R A V K) α :=
  zoom (Bank.cell operationId resource) (Bank.setCell operationId resource) m

end

abbrev NicBank : Type := Bank String String (Option String) Nic
abbrev PoolBank : Type := Bank Pool PoolRequest Nat Nat

def validatePciAddress (value : String) : Result Unit :=
  if isPciBdf value then .ok ()
  else .error (.new .invalidArgument "PCI address must use dddd:bb:ss.f format" false)

/-- A product that does not fit 64 bits is over the limit as well. -/
def validateHugepages (pages pageSizeKib : Nat) : Result Unit :=
  if pages = 0 ∨ pageSizeKib = 0 ∨ 1073741824 < pages * pageSizeKib then
    .error (.new .invalidArgument "Huge Page request is outside the safety limit" false)
  else .ok ()

def orStop {σ : Type} (result : Result Unit) : ExecM σ Unit :=
  ofExcept (result.mapError .error)

def prepareDpdk (operationId pciAddress : String) : ExecM NicBank ValueResult := do
  orStop (validatePciAddress pciAddress)
  let snapshot ← onCell operationId pciAddress (prepareNic operationId pciAddress)
  pure ⟨snapshot.original, some dpdkDriver, Option.none, Option.none⟩

def restoreDriver (prepareOperationId pciAddress : String) : ExecM NicBank ValueResult := do
  orStop (validatePciAddress pciAddress)
  let snapshot ← onCell prepareOperationId pciAddress (restoreNic prepareOperationId pciAddress)
  pure ⟨snapshot.original, snapshot.original, Option.none, Option.none⟩

def prepareHugepages (operationId : String) (request : PoolRequest) : ExecM PoolBank ValueResult :=
  do
  orStop (validateHugepages request.requestedPages request.pool.pageSizeKib)
  let snapshot ← onCell operationId request.pool (preparePool operationId request)
  pure ⟨Option.none, Option.none, some snapshot.original, some request.requestedPages⟩

/-- The pool is the one in the state file; without a file nothing is read or written. -/
def releaseHugepages (prepareOperationId : String) : ExecM PoolBank ValueResult := do
  let b ← get
  let pool := ((b.files prepareOperationId).map (fun s => s.target.pool)).getD ⟨Option.none, 0⟩
  let snapshot ← onCell prepareOperationId pool (releasePool prepareOperationId)
  pure ⟨Option.none, Option.none, some snapshot.original, some snapshot.original⟩

end LinuxResources
end NetTool
