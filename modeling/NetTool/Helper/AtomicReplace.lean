import Mathlib.Data.List.TakeWhile
import NetTool.Error
import NetTool.Lib.Files
/-!
# Helper.AtomicReplace — `atomic_replace` of the helper (`apps/helper/src/main.rs`)

The new contents go into a temporary file beside the target, which is then renamed over it.  So the target has its old
or its new contents whatever fails (`atomicReplace_content`).  But nothing removes the temporary file of a call that
stops before its rename, and the next call asks that there be none: it fails, and so does every later one
(`recovers_iff`, `stuck_run`).
-/
namespace NetTool
namespace Helper

open Prog Files List
open Function (update update_idem update_of_ne update_self)

/-! ## Paths -/

/-- An absolute path: its directory and the name of the file in it. -/
structure Path where
  parent : String
  fileName : String
  deriving DecidableEq

/-- The name up to its last dot; a dot at the front does not count. -/
def fileStem (name : List Char) : List Char :=
  match name.reverse.dropWhile (· != '.') with
  | [] => name
  | [_] => name
  | _ :: stem => stem.reverse

def Path.withExtension (path : Path) (extension : String) : Path :=
  ⟨path.parent, String.ofList (fileStem path.fileName.toList ++ '.' :: extension.toList)⟩

def Path.temporary (path : Path) : Path := path.withExtension "nettool.tmp"

/-- A name is its stem, or its stem and an extension without a dot. -/
theorem fileStem_cases (name : List Char) :
    fileStem name = name ∨ ∃ extension, '.' ∉ extension ∧ name = fileStem name ++ '.' :: extension := by
  have hplain : ∀ c ∈ name.reverse.takeWhile (· != '.'), c ≠ '.' := fun c hc => by simpa using mem_takeWhile_imp hc
  have hhead : ∀ c rest, name.reverse.dropWhile (· != '.') = c :: rest → c = '.' := by
    intro c rest hrest
    have hnot := head_dropWhile_not (· != '.') (hrest ▸ cons_ne_nil c rest)
    simpa [hrest] using hnot
  have hname : (name.reverse.dropWhile (· != '.')).reverse ++ (name.reverse.takeWhile (· != '.')).reverse = name := by
    rw [← reverse_append, takeWhile_append_dropWhile, reverse_reverse]
  unfold fileStem
  cases hrest : name.reverse.dropWhile (· != '.') with
  | nil => exact .inl rfl
  | cons dot stem =>
    obtain rfl := hhead dot stem hrest
    cases stem with
    | nil => exact .inl rfl
    | cons c stem =>
      refine .inr ⟨(name.reverse.takeWhile (· != '.')).reverse, ?_, ?_⟩
      · exact fun hmem => hplain '.' (mem_reverse.1 hmem) rfl
      · rw [hrest, reverse_cons, append_assoc] at hname
        exact hname.symm

theorem Path.temporary_ne (path : Path) : path.temporary ≠ path := by
  intro h
  have hname : fileStem path.fileName.toList ++ '.' :: "nettool.tmp".toList = path.fileName.toList := by
    have htext := congrArg (fun p => p.fileName.toList) h
    simpa [temporary, withExtension] using htext
  rcases fileStem_cases path.fileName.toList with hstem | ⟨extension, hplain, hstem⟩
  · rw [hstem] at hname
    simp at hname
  · have htail := append_cancel_left (hname.trans hstem)
    have hdotted : '.' ∈ "nettool.tmp".toList := by decide
    rw [(List.cons.inj htail).2] at hdotted
    exact hplain hdotted

/-! ## The function -/

def hostsIoError (error : String) : NetToolError :=
  .new .persistenceFailed ("helper file operation failed: " ++ error) true

/-- The file operations of a call, in their order; `read` is the one of the caller. -/
inductive FileStep
  | read | metadata | create | setPermissions | write | sync | rename | openParent | syncParent
  deriving DecidableEq

abbrev Faults : Type := FileStep → Option Fault

def noFaults : Faults := fun _ => none

def defaultMode : Nat := 0o644

def atomicReplace (faults : Faults) (path : Path) (bytes : List UInt8) : Prog (Disk Path) (Halt NetToolError) Unit := do
  let metadata ← open_ hostsIoError (faults .metadata) path
  createNew hostsIoError (faults .create) path.temporary defaultMode
  setPermissions hostsIoError (faults .setPermissions) path.temporary metadata.mode
  writeAll hostsIoError (faults .write) path.temporary bytes
  sync hostsIoError (faults .sync)
  rename hostsIoError (faults .rename) path.temporary path
  sync hostsIoError (faults .openParent)
  sync hostsIoError (faults .syncParent)

/-! ## What a call does -/

section
variable (faults : Faults) (path : Path) (bytes : List UInt8) (disk : Disk Path)

/-- The call gets as far as creating the temporary file. -/
def Creates : Prop :=
  faults .metadata = none ∧ disk path ≠ none ∧ faults .create = none ∧ disk path.temporary = none

/-- It stops between creating the temporary file and renaming it. -/
def Interrupted : Prop :=
  faults .setPermissions ≠ none ∨ faults .write ≠ none ∨ faults .sync ≠ none ∨ faults .rename ≠ none

/-- It stops after the rename. -/
def Late : Prop := faults .openParent ≠ none ∨ faults .syncParent ≠ none

def install : Disk Path := update disk path ((disk path).map fun file => { file with bytes := bytes })

theorem ne_none_of_eq_some {fault : Option Fault} {f : Fault} (h : fault = some f) : fault ≠ none := by
  rw [h]
  exact Option.some_ne_none f

theorem install_eq {file renamed : File} (hfile : disk path = some file) (hnone : disk path.temporary = none)
    (hrenamed : renamed = { file with bytes := bytes }) :
    update (update (update disk path.temporary (some renamed)) path (some renamed))
      path.temporary none = install path bytes disk := by
  have hne := path.temporary_ne
  unfold install
  rw [hfile, Option.map_some, ← hrenamed]
  funext p
  by_cases htemporary : p = path.temporary
  · rw [htemporary, update_self, update_of_ne hne, hnone]
  · by_cases hpath : p = path
    · rw [hpath, update_of_ne hne.symm, update_self, update_self]
    · rw [update_of_ne htemporary, update_of_ne hpath, update_of_ne htemporary,
        update_of_ne hpath]

/-- **A call leaves the disk as it was, leaves a temporary file, or installs the contents.** -/
theorem wp_atomicReplace : wp (atomicReplace faults path bytes)
    (fun _ disk' => Creates faults path disk ∧ ¬ Interrupted faults ∧ ¬ Late faults ∧ disk' = install path bytes disk)
    (fun _ disk' => (¬ Creates faults path disk ∧ disk' = disk) ∨
      (Creates faults path disk ∧ Interrupted faults ∧ ∃ file, disk' = update disk path.temporary (some file)) ∨
      (Creates faults path disk ∧ ¬ Interrupted faults ∧ Late faults ∧ disk' = install path bytes disk)) disk := by
  unfold atomicReplace
  rw [wp_bind, wp_open]
  refine ⟨fun file hmetadata hfile => ?_, fun _ hnone => .inl ⟨fun h => h.2.1 hnone, rfl⟩,
    fun f hf => .inl ⟨fun h => ne_none_of_eq_some hf h.1, rfl⟩⟩
  rw [wp_bind, wp_createNew]
  refine ⟨fun hcreate hnone => ?_, fun _ hsome => .inl ⟨fun h => hsome h.2.2.2, rfl⟩,
    fun f hf => .inl ⟨fun h => ne_none_of_eq_some hf h.2.2.1, rfl⟩⟩
  have hcreates : Creates faults path disk := ⟨hmetadata, by rw [hfile]; exact Option.some_ne_none _, hcreate, hnone⟩
  -- from here on there is a temporary file
  rw [wp_bind, wp_setPermissions]
  refine ⟨fun hpermissions => ?_, fun f hf => .inr (.inl ⟨hcreates, .inl (ne_none_of_eq_some hf), _, rfl⟩)⟩
  rw [update_self, Option.map_some, update_idem, wp_bind, wp_writeAll, update_self,
    Option.map_some, update_idem]
  refine ⟨fun hwrite => ?_, fun f hf => .inr (.inl ⟨hcreates, .inr (.inl (ne_none_of_eq_some hf)), _, by
    rw [Option.map_some, update_idem]⟩)⟩
  rw [wp_bind, wp_sync]
  refine ⟨fun hsync => ?_, fun f hf =>
    .inr (.inl ⟨hcreates, .inr (.inr (.inl (ne_none_of_eq_some hf))), _, rfl⟩)⟩
  rw [wp_bind, wp_rename]
  refine ⟨fun hrename => ?_, fun f hf =>
    .inr (.inl ⟨hcreates, .inr (.inr (.inr (ne_none_of_eq_some hf))), _, rfl⟩)⟩
  have hnot : ¬ Interrupted faults := by
    rintro (h | h | h | h)
    · exact h hpermissions
    · exact h hwrite
    · exact h hsync
    · exact h hrename
  rw [update_self]
  dsimp only [nil_append]
  rw [install_eq path bytes disk hfile hnone rfl, wp_bind, wp_sync]
  refine ⟨fun hopen => ?_, fun f hf => .inr (.inr ⟨hcreates, hnot, .inl (ne_none_of_eq_some hf), rfl⟩)⟩
  rw [wp_sync]
  refine ⟨fun hparent => ?_, fun f hf => .inr (.inr ⟨hcreates, hnot, .inr (ne_none_of_eq_some hf), rfl⟩)⟩
  refine ⟨hcreates, hnot, ?_, rfl⟩
  rintro (h | h)
  · exact h hopen
  · exact h hparent

/-- The disk after a call, whether it returns or stops. -/
def Leaves (disk' : Disk Path) : Prop :=
  (¬ Creates faults path disk ∧ disk' = disk) ∨
    (Creates faults path disk ∧ Interrupted faults ∧ ∃ file, disk' = update disk path.temporary (some file)) ∨
    (Creates faults path disk ∧ ¬ Interrupted faults ∧ disk' = install path bytes disk)

theorem atomicReplace_disk : Leaves faults path bytes disk (atomicReplace faults path bytes disk).2 := by
  rcases wp_after (wp_atomicReplace faults path bytes disk) with
    ⟨_, hcreates, hnot, -, hdisk⟩ | ⟨_, h | h | ⟨hcreates, hnot, -, hdisk⟩⟩
  · exact .inr (.inr ⟨hcreates, hnot, hdisk⟩)
  · exact .inl h
  · exact .inr (.inl h)
  · exact .inr (.inr ⟨hcreates, hnot, hdisk⟩)

/-! ## What the next call finds -/

def content : Option (List UInt8) := (disk path).map (·.bytes)

variable {faults path disk}

theorem install_self (h : disk path ≠ none) : content path (install path bytes disk) = some bytes := by
  obtain ⟨file, hfile⟩ := Option.ne_none_iff_exists'.1 h
  unfold content install
  rw [update_self, hfile]
  rfl

theorem install_of_ne {other : Path} (h : other ≠ path) : install path bytes disk other = disk other :=
  update_of_ne h _ _

/-- The target has its old or its new contents, whatever went wrong. -/
theorem atomicReplace_content : content path (atomicReplace faults path bytes disk).2 = content path disk ∨
    content path (atomicReplace faults path bytes disk).2 = some bytes := by
  rcases atomicReplace_disk faults path bytes disk with ⟨-, hdisk⟩ | ⟨-, -, file, hdisk⟩ | ⟨hcreates, -, hdisk⟩
  · rw [hdisk]
    exact .inl rfl
  · left
    unfold content
    rw [hdisk, update_of_ne path.temporary_ne.symm]
  · rw [hdisk]
    exact .inr (install_self bytes hcreates.2.1)

theorem atomicReplace_of_ne {other : Path} (hpath : other ≠ path) (htemporary : other ≠ path.temporary) :
    (atomicReplace faults path bytes disk).2 other = disk other := by
  rcases atomicReplace_disk faults path bytes disk with ⟨-, hdisk⟩ | ⟨-, -, file, hdisk⟩ | ⟨-, -, hdisk⟩
  · rw [hdisk]
  · rw [hdisk, update_of_ne htemporary]
  · rw [hdisk, install_of_ne bytes hpath]

theorem atomicReplace_succeeds (hexists : disk path ≠ none) (hnone : disk path.temporary = none) :
    ∃ disk', atomicReplace noFaults path bytes disk = (.ok (), disk') ∧ content path disk' = some bytes := by
  have hcreates : Creates noFaults path disk := ⟨rfl, hexists, rfl, hnone⟩
  rcases wp_cases (wp_atomicReplace noFaults path bytes disk) with ⟨_, disk', hrun, h⟩ | ⟨_, disk', -, h⟩
  · refine ⟨disk', hrun, ?_⟩
    rw [h.2.2.2]
    exact install_self bytes hexists
  · rcases h with ⟨hnot, -⟩ | ⟨-, hfault | hfault | hfault | hfault, -⟩ | ⟨-, -, hfault | hfault, -⟩
    · exact absurd hcreates hnot
    all_goals exact absurd rfl hfault

end

/-! ## Runs of calls -/

def replaceAll (path : Path) (calls : List (Faults × List UInt8)) (disk : Disk Path) : Disk Path :=
  calls.foldl (fun disk call => (atomicReplace call.1 path call.2 disk).2) disk

/-- A disk the next call without faults succeeds on. -/
def Ready (path : Path) (disk : Disk Path) : Prop := disk path ≠ none ∧ disk path.temporary = none

/-- The first fault is not one between the creation of the temporary file and its rename. -/
def Clean (faults : Faults) : Prop := faults .metadata ≠ none ∨ faults .create ≠ none ∨ ¬ Interrupted faults

section
variable {path : Path} {disk : Disk Path}

theorem Ready.install (h : Ready path disk) (bytes : List UInt8) : Ready path (install path bytes disk) := by
  refine ⟨fun hnone => ?_, ?_⟩
  · have hself := install_self bytes h.1
    unfold content at hself
    rw [hnone] at hself
    cases hself
  · rw [install_of_ne bytes path.temporary_ne]
    exact h.2

/-- Once a temporary file is left no call changes anything any more. -/
theorem stuck_run (calls : List (Faults × List UInt8)) (h : disk path.temporary ≠ none) :
    replaceAll path calls disk = disk := by
  induction calls with
  | nil => rfl
  | cons call calls ih =>
    have hcall : (atomicReplace call.1 path call.2 disk).2 = disk := by
      rcases atomicReplace_disk call.1 path call.2 disk with ⟨-, hdisk⟩ | ⟨hcreates, -⟩ | ⟨hcreates, -⟩
      · exact hdisk
      · exact absurd hcreates.2.2.2 h
      · exact absurd hcreates.2.2.2 h
    show replaceAll path calls (atomicReplace call.1 path call.2 disk).2 = disk
    rw [hcall]
    exact ih

end

/-! ## Recovery -/

/-- After a call the target is whole, and a later call without faults succeeds. -/
structure Recovers (faults : Faults) (path : Path) (bytes : List UInt8) (disk : Disk Path) : Prop where
  whole : content path (atomicReplace faults path bytes disk).2 = content path disk ∨
    content path (atomicReplace faults path bytes disk).2 = some bytes
  later : ∀ bytes', ∃ disk', atomicReplace noFaults path bytes' (atomicReplace faults path bytes disk).2 =
    (.ok (), disk') ∧ content path disk' = some bytes'

/-- **A call can be recovered from exactly when it found the target and no temporary file, and leaves none.** -/
theorem recovers_iff (faults : Faults) (path : Path) (bytes : List UInt8) (disk : Disk Path) :
    Recovers faults path bytes disk ↔ disk path ≠ none ∧ disk path.temporary = none ∧ Clean faults := by
  have hfound : ∀ disk' : Disk Path, (∀ bytes', ∃ disk'', atomicReplace noFaults path bytes' disk' = (.ok (), disk'') ∧
      content path disk'' = some bytes') → disk' path ≠ none ∧ disk' path.temporary = none := by
    intro disk' hlater
    obtain ⟨disk'', hrun, -⟩ := hlater []
    obtain ⟨⟨-, hexists, -, hnone⟩, -⟩ := wp_ok (wp_atomicReplace noFaults path [] disk') hrun
    exact ⟨hexists, hnone⟩
  rcases atomicReplace_disk faults path bytes disk with ⟨hnot, hdisk⟩ | ⟨hcreates, hfault, file, hdisk⟩ |
    ⟨hcreates, hnot, hdisk⟩
  · constructor
    · intro h
      obtain ⟨hexists, hnone⟩ := hfound _ h.later
      rw [hdisk] at hexists hnone
      refine ⟨hexists, hnone, ?_⟩
      by_contra hclean
      unfold Clean at hclean
      rw [not_or, not_or, not_not, not_not] at hclean
      exact hnot ⟨hclean.1, hexists, hclean.2.1, hnone⟩
    · rintro ⟨hexists, hnone, -⟩
      refine ⟨atomicReplace_content bytes, fun bytes' => ?_⟩
      rw [hdisk]
      exact atomicReplace_succeeds bytes' hexists hnone
  · -- the temporary file is left, and the next call finds it
    refine iff_of_false (fun h => ?_) ?_
    · have hnone := (hfound _ h.later).2
      rw [hdisk, update_self] at hnone
      cases hnone
    · rintro ⟨-, -, hmetadata | hcreate | hnot⟩
      · exact hmetadata hcreates.1
      · exact hcreate hcreates.2.2.1
      · exact hnot hfault
  · refine iff_of_true ⟨atomicReplace_content bytes, fun bytes' => ?_⟩
      ⟨hcreates.2.1, hcreates.2.2.2, .inr (.inr hnot)⟩
    have hready : Ready path (install path bytes disk) := Ready.install ⟨hcreates.2.1, hcreates.2.2.2⟩ bytes
    rw [hdisk]
    exact atomicReplace_succeeds bytes' hready.1 hready.2

def sampleHosts : Path := ⟨"/etc", "hosts"⟩
def sampleText : List UInt8 := "127.0.0.1 localhost\n".toList.map (fun c => .ofNat c.toNat)
def sampleDisk : Disk Path := update (fun _ => none) sampleHosts (some ⟨sampleText, 0o644⟩)

/-- The disk is full: the write gets nothing through. -/
def fullDisk : Faults :=
  fun step => if step = .write then some (.fail "No space left on device (os error 28)" 0) else none

theorem leftover_blocks_the_next_call :
    (atomicReplace noFaults sampleHosts [1] (atomicReplace fullDisk sampleHosts [1] sampleDisk).2).1 =
      .error (.error (hostsIoError "File exists (os error 17)")) := by
  rfl

theorem stuck_run_full :
    replaceAll sampleHosts [(noFaults, [2])] (atomicReplace fullDisk sampleHosts [1] sampleDisk).2 =
      (atomicReplace fullDisk sampleHosts [1] sampleDisk).2 :=
  stuck_run _ (fun h => by cases h)

end Helper
end NetTool
