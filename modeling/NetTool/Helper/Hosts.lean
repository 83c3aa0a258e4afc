import NetTool.Helper.AtomicReplace
import NetTool.Lib.Run
/-!
# Helper.Hosts — backing up and restoring the hosts file (`apps/helper/src/main.rs`)

The helper keeps one backup of the hosts file in its state directory.  `atomic_replace` takes the permissions of its
target, so the start-up creates the backup file, empty, when there is none: a restore before the first backup then
empties the hosts file.  And a backup that fails after its rename has replaced the backup file.  In a run without these
two a restore fails and changes nothing, or brings back the contents of the last successful backup
(`restore_of_orderly`).
-/
namespace NetTool
namespace Helper

open Prog Files

structure Configuration where
  stateDirectory : String
  hostsPath : Path

def Configuration.hostsBackupPath (c : Configuration) : Path := ⟨c.stateDirectory, "hosts.backup"⟩

/-- The operations on the hosts file.  `rewrite` is what a replace does to the text it read: it parses the entries and
replaces the managed section, or fails. -/
inductive HostsOperation
  | read
  | backup
  | restore
  | atomicReplace (rewrite : List UInt8 → Result (List UInt8)) (entryCount : Nat)

inductive HostsResponse
  | dryRun
  | content (bytes : List UInt8)
  | backedUp (bytes : Nat)
  | restored (bytes : Nat)
  | updated (entryCount : Nat)
  deriving DecidableEq

/-! ## The helper -/

section
variable (c : Configuration) (faults : Faults)

/-- The part of the start-up about the backup file. -/
def startUp : Prog (Disk Path) (Halt NetToolError) Unit := do
  let present ← isPresent (faults .metadata) c.hostsBackupPath
  if present then pure ()
  else
    createNew hostsIoError (faults .create) c.hostsBackupPath defaultMode
    setPermissions hostsIoError (faults .setPermissions) c.hostsBackupPath 0o600

def copyFile (source target : Path) : Prog (Disk Path) (Halt NetToolError) Nat := do
  let file ← open_ hostsIoError (faults .read) source
  atomicReplace faults target file.bytes
  pure file.bytes.length

def execute (dryRun : Bool) (operation : HostsOperation) : Prog (Disk Path) (Halt NetToolError) HostsResponse :=
  if dryRun then pure .dryRun
  else
    match operation with
    | .read => do
      let file ← open_ hostsIoError (faults .read) c.hostsPath
      pure (.content file.bytes)
    | .backup => do
      let bytes ← copyFile faults c.hostsPath c.hostsBackupPath
      pure (.backedUp bytes)
    | .restore => do
      let bytes ← copyFile faults c.hostsBackupPath c.hostsPath
      pure (.restored bytes)
    | .atomicReplace rewrite entryCount => do
      let current ← open_ hostsIoError (faults .read) c.hostsPath
      let updated ← ofExcept ((rewrite current.bytes).mapError .error)
      atomicReplace faults c.hostsPath updated
      pure (.updated entryCount)

end

/-! ## Runs -/

/-- The disk, and the contents of the hosts file at the last backup that succeeded. -/
structure Machine where
  disk : Disk Path
  lastBackup : Option (List UInt8)

/-- The helper starts, it serves a request, or someone else writes the hosts file. -/
inductive Step
  | startUp (faults : Faults)
  | request (dryRun : Bool) (operation : HostsOperation) (faults : Faults)
  | edit (file : Option File)

section
variable (c : Configuration)

def BackedUp (answer : Except (Halt NetToolError) HostsResponse) : Bool :=
  match answer with
  | .ok (.backedUp _) => true
  | _ => false

def Machine.step (m : Machine) : Step → Machine
  | .startUp faults => { m with disk := (Helper.startUp c faults m.disk).2 }
  | .request dryRun operation faults =>
    let answered := execute c faults dryRun operation m.disk
    ⟨answered.2, if BackedUp answered.1 then content c.hostsPath m.disk else m.lastBackup⟩
  | .edit file => { m with disk := Function.update m.disk c.hostsPath file }

/-- A restore fails and leaves the hosts file as it is, or brings back the last backup. -/
def RestoresBackup (m : Machine) (faults : Faults) : Prop :=
  let answered := execute c faults false .restore m.disk
  ((∃ halt, answered.1 = .error halt) ∧ answered.2 c.hostsPath = m.disk c.hostsPath) ∨
    (m.lastBackup.isSome ∧ content c.hostsPath answered.2 = m.lastBackup)

/-- The hosts file is not itself the file `hosts.backup` of the state directory; a backup does not fail after its
rename; and a restore comes after a backup. -/
def Orderly (m : Machine) (step : Step) : Prop :=
  c.hostsPath ≠ c.hostsBackupPath ∧
    match step with
    | .request false .backup faults => ¬ Late faults
    | .request false .restore _ => m.lastBackup.isSome
    | _ => True

end

/-! ## What stays in the backup file -/

section
variable {c : Configuration} {faults : Faults} {disk : Disk Path}

theorem hostsBackupPath_ne_temporary (path : Path) : c.hostsBackupPath ≠ path.temporary := by
  intro h
  have hname : "hosts.backup".toList = fileStem path.fileName.toList ++ '.' :: "nettool.tmp".toList := by
    have htext := congrArg (fun p => p.fileName.toList) h
    simpa [Configuration.hostsBackupPath, Path.temporary, Path.withExtension] using htext
  -- the extension alone is as long as the name
  have hstem : fileStem path.fileName.toList = [] := by
    have hlength := congrArg List.length hname
    rw [List.length_append] at hlength
    have hzero : (fileStem path.fileName.toList).length = 0 := by
      have hleft : "hosts.backup".toList.length = 12 := by decide
      have hright : ('.' :: "nettool.tmp".toList).length = 12 := by decide
      omega
    exact List.length_eq_zero_iff.1 hzero
  rw [hstem] at hname
  revert hname
  decide

theorem wp_copyFile (source target : Path) : wp (copyFile faults source target)
    (fun _ disk' => ∃ file, disk source = some file ∧ ¬ Late faults ∧ disk target ≠ none ∧
      disk' = install target file.bytes disk)
    (fun _ disk' => disk' = disk ∨ (∃ file, disk' = Function.update disk target.temporary (some file)) ∨
      (Late faults ∧ ∃ file, disk source = some file ∧ disk target ≠ none ∧
        disk' = install target file.bytes disk)) disk := by
  unfold copyFile
  rw [wp_bind, wp_open]
  refine ⟨fun file _ hfile => ?_, fun _ _ => .inl rfl, fun _ _ => .inl rfl⟩
  apply wp_then (wp_atomicReplace faults target file.bytes disk)
  · rintro _ disk' ⟨hcreates, -, hlate, hdisk⟩
    exact ⟨file, hfile, hlate, hcreates.2.1, hdisk⟩
  · rintro _ disk' (⟨-, hdisk⟩ | ⟨-, -, left, hdisk⟩ | ⟨hcreates, -, hlate, hdisk⟩)
    · exact .inl hdisk
    · exact .inr (.inl ⟨left, hdisk⟩)
    · exact .inr (.inr ⟨hlate, file, hfile, hcreates.2.1, hdisk⟩)

theorem content_congr {path : Path} {disk' : Disk Path} (h : disk' path = disk path) :
    content path disk' = content path disk := by
  unfold content
  rw [h]

/-- After a backup the backup file has the contents of the hosts file; nothing else changes it. -/
theorem wp_execute (hapart : c.hostsPath ≠ c.hostsBackupPath) {dryRun : Bool} {operation : HostsOperation}
    (hlate : dryRun = false → operation = .backup → ¬ Late faults) :
    wp (execute c faults dryRun operation)
      (fun a disk' => content c.hostsBackupPath disk' =
        if BackedUp (.ok a) then content c.hostsPath disk else content c.hostsBackupPath disk)
      (fun _ disk' => content c.hostsBackupPath disk' = content c.hostsBackupPath disk) disk := by
  unfold execute
  cases dryRun with
  | true => exact rfl
  | false =>
    rw [if_neg (by decide)]
    cases operation with
    | read =>
      rw [wp_bind, wp_open]
      exact ⟨fun _ _ _ => rfl, fun _ _ => rfl, fun _ _ => rfl⟩
    | backup =>
      apply wp_then (wp_copyFile c.hostsPath c.hostsBackupPath)
      · rintro _ disk' ⟨file, hfile, -, hexists, rfl⟩
        show content c.hostsBackupPath (install c.hostsBackupPath file.bytes disk) = content c.hostsPath disk
        rw [install_self file.bytes hexists]
        unfold content
        rw [hfile]
        rfl
      · rintro _ disk' (rfl | ⟨left, rfl⟩ | ⟨hfault, -⟩)
        · rfl
        · exact content_congr (Function.update_of_ne c.hostsBackupPath.temporary_ne.symm _ _)
        · exact absurd hfault (hlate rfl rfl)
    | restore =>
      apply wp_then (wp_copyFile c.hostsBackupPath c.hostsPath)
      · rintro _ disk' ⟨file, -, -, -, rfl⟩
        exact content_congr (install_of_ne file.bytes hapart.symm)
      · rintro _ disk' (rfl | ⟨left, rfl⟩ | ⟨-, file, -, -, rfl⟩)
        · rfl
        · exact content_congr (Function.update_of_ne (hostsBackupPath_ne_temporary _) _ _)
        · exact content_congr (install_of_ne file.bytes hapart.symm)
    | atomicReplace rewrite entryCount =>
      rw [wp_bind, wp_open]
      refine ⟨fun current _ _ => ?_, fun _ _ => rfl, fun _ _ => rfl⟩
      refine wp_check (fun updated _ => ?_) (fun _ _ => rfl)
      rw [wp_bind]
      exact wp_of_state (content_congr (atomicReplace_of_ne updated hapart.symm (hostsBackupPath_ne_temporary _)))

end

/-! ## The restore -/

section
variable {c : Configuration} {m : Machine}

/-- The backup file has the contents of the last backup. -/
def Kept (c : Configuration) (m : Machine) : Prop :=
  ∀ bytes, m.lastBackup = some bytes → content c.hostsBackupPath m.disk = some bytes

theorem Kept.startUp (h : Kept c m) (faults : Faults) : Kept c (m.step c (.startUp faults)) := by
  intro bytes hlast
  have hbytes := h bytes hlast
  have hpresent : m.disk c.hostsBackupPath ≠ none := by
    intro hnone
    unfold content at hbytes
    rw [hnone] at hbytes
    cases hbytes
  have hcreate : wp (do
      createNew hostsIoError (faults .create) c.hostsBackupPath defaultMode
      setPermissions hostsIoError (faults .setPermissions) c.hostsBackupPath 0o600)
      (fun _ disk => disk = m.disk) (fun _ disk => disk = m.disk) m.disk := by
    rw [wp_bind, wp_createNew]
    exact ⟨fun _ hnone => absurd hnone hpresent, fun _ _ => rfl, fun _ _ => rfl⟩
  have hsame : (Helper.startUp c faults m.disk).2 = m.disk := by
    refine wp_state (P := (· = m.disk)) ?_
    unfold Helper.startUp
    rw [wp_bind, wp_isPresent]
    refine ⟨fun _ => ?_, fun _ _ _ => hcreate, fun _ _ => rfl⟩
    rw [wp_ite]
    exact ⟨fun _ => rfl, fun _ => hcreate⟩
  show content c.hostsBackupPath (Helper.startUp c faults m.disk).2 = some bytes
  rw [hsame]
  exact hbytes

theorem Kept.request (h : Kept c m) {dryRun : Bool} {operation : HostsOperation} {faults : Faults}
    (horderly : Orderly c m (.request dryRun operation faults)) :
    Kept c (m.step c (.request dryRun operation faults)) := by
  obtain ⟨hapart, hcondition⟩ := horderly
  have hlate : dryRun = false → operation = .backup → ¬ Late faults := by
    rintro rfl rfl
    exact hcondition
  intro bytes hlast
  have hspec : wp (execute c faults dryRun operation) _ _ m.disk := wp_execute hapart hlate
  have hlast : (if BackedUp (execute c faults dryRun operation m.disk).1 then content c.hostsPath m.disk
    else m.lastBackup) = some bytes := hlast
  show content c.hostsBackupPath (execute c faults dryRun operation m.disk).2 = some bytes
  rcases wp_cases hspec with ⟨a, disk', hrun, hcontent⟩ | ⟨halt, disk', hrun, hcontent⟩
  · rw [hrun] at hlast ⊢
    by_cases hbacked : BackedUp (.ok a) = true
    · rw [if_pos hbacked] at hlast hcontent
      exact hcontent.trans hlast
    · rw [if_neg hbacked] at hlast hcontent
      exact hcontent.trans (h bytes hlast)
  · rw [hrun] at hlast ⊢
    exact hcontent.trans (h bytes hlast)

theorem Kept.step (h : Kept c m) (step : Step) (horderly : Orderly c m step) : Kept c (m.step c step) := by
  cases step with
  | startUp faults => exact h.startUp faults
  | request dryRun operation faults => exact h.request horderly
  | edit file =>
    intro bytes hlast
    rw [← h bytes hlast]
    exact content_congr (Function.update_of_ne horderly.1.symm _ _)

theorem Kept.restores (h : Kept c m) {bytes : List UInt8} (hlast : m.lastBackup = some bytes) (faults : Faults) :
    RestoresBackup c m faults := by
  have hbackup := h bytes hlast
  have hsame : ∀ file, m.disk c.hostsBackupPath = some file → file.bytes = bytes := by
    intro file hfile
    unfold content at hbackup
    rw [hfile] at hbackup
    exact Option.some.inj hbackup
  have hspec : wp (execute c faults false .restore)
      (fun _ disk' => content c.hostsPath disk' = some bytes)
      (fun _ disk' => disk' c.hostsPath = m.disk c.hostsPath ∨ content c.hostsPath disk' = some bytes) m.disk := by
    apply wp_then (wp_copyFile c.hostsBackupPath c.hostsPath)
    · rintro _ disk' ⟨file, hfile, -, hexists, rfl⟩
      show content c.hostsPath (install c.hostsPath file.bytes m.disk) = some bytes
      rw [install_self file.bytes hexists, hsame file hfile]
    · rintro _ disk' (rfl | ⟨left, rfl⟩ | ⟨-, file, hfile, hexists, rfl⟩)
      · exact .inl rfl
      · exact .inl (Function.update_of_ne c.hostsPath.temporary_ne.symm _ _)
      · right
        rw [install_self file.bytes hexists, hsame file hfile]
  unfold RestoresBackup
  rw [hlast]
  rcases wp_cases hspec with ⟨a, disk', hrun, hcontent⟩ | ⟨halt, disk', hrun, hcontent⟩
  · rw [hrun]
    exact .inr ⟨rfl, hcontent⟩
  · rw [hrun]
    rcases hcontent with hunchanged | hcontent
    · exact .inl ⟨⟨halt, rfl⟩, hunchanged⟩
    · exact .inr ⟨rfl, hcontent⟩

/-- **In an orderly run every restore fails and changes nothing, or brings back the last successful backup.** -/
theorem restore_of_orderly (c : Configuration) (disk : Disk Path) {m : Machine}
    (hreach : Reach ⟨disk, none⟩ (Machine.step c) (Orderly c) m) {faults : Faults}
    (horderly : Orderly c m (.request false .restore faults)) : RestoresBackup c m faults := by
  have hkept : Kept c m := hreach.invariant (fun bytes hlast => by cases hlast) (fun _ step h hok => h.step step hok)
  obtain ⟨bytes, hlast⟩ := Option.isSome_iff_exists.1 horderly.2
  exact hkept.restores hlast faults

end

def sampleConfiguration : Configuration := ⟨"/var/lib/nettool", sampleHosts⟩

/-- The helper starts, backs the hosts file up, and someone else removes its line. -/
def sampleSteps : List Step :=
  [.startUp noFaults, .request false .backup noFaults, .edit (some ⟨[], 0o644⟩)]

theorem restore_after_backup : RestoresBackup sampleConfiguration
    (sampleSteps.foldl (Machine.step sampleConfiguration) ⟨sampleDisk, none⟩) noFaults := by
  have hapart : sampleConfiguration.hostsPath ≠ sampleConfiguration.hostsBackupPath := by decide
  have hnotLate : ¬ Late noFaults := by
    rintro (h | h)
    · exact h rfl
    · exact h rfl
  apply restore_of_orderly sampleConfiguration sampleDisk
  · exact Reach.foldl sampleSteps _ .init ⟨⟨hapart, trivial⟩, ⟨hapart, hnotLate⟩, ⟨hapart, trivial⟩, trivial⟩
  · exact ⟨hapart, by decide⟩

/-- Without a backup the restore succeeds, and the hosts file is empty. -/
theorem restore_empties_hosts :
    (execute sampleConfiguration noFaults false .restore
      (Machine.step sampleConfiguration ⟨sampleDisk, none⟩ (.startUp noFaults)).disk).1 = .ok (.restored 0) ∧
    content sampleHosts (execute sampleConfiguration noFaults false .restore
      (Machine.step sampleConfiguration ⟨sampleDisk, none⟩ (.startUp noFaults)).disk).2 = some [] ∧
    ¬ RestoresBackup sampleConfiguration
      (Machine.step sampleConfiguration ⟨sampleDisk, none⟩ (.startUp noFaults)) noFaults := by
  refine ⟨by decide, by decide, ?_⟩
  rintro (⟨⟨halt, hhalt⟩, -⟩ | ⟨hlast, -⟩)
  · cases hhalt
  · cases hlast

end Helper
end NetTool
