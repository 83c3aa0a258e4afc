import Mathlib.Logic.Function.Basic
import NetTool.Lib.Prog
/-!
# Lib.Files — file operations that fail, in a process that may die

A disk gives each path its file.  A program over it makes file operations; each may fail or be the last thing the
process does, and which of them do is part of the input (`Fault`).  A failed operation changes nothing, except that a
write may have got through in part.  What is on the disk stays there when the process dies.
-/
namespace NetTool
namespace Files

open Prog

structure File where
  bytes : List UInt8
  mode : Nat

abbrev Disk (Path : Type) : Type := Path → Option File

/-- What goes wrong at an operation; a write gets `written` bytes through before it does. -/
inductive Fault
  | fail (error : String) (written : Nat)
  | die (written : Nat)

def Fault.written : Fault → Nat
  | fail _ written => written
  | die written => written

/-- How a program stops: it returns an error, or there is no program any more. -/
inductive Halt (ε : Type)
  | error (e : ε)
  | died
  deriving DecidableEq

def notFound : String := "No such file or directory (os error 2)"
def fileExists : String := "File exists (os error 17)"

section
variable {Path ε α : Type} [DecidableEq Path] (report : String → ε)

def Fault.halt : Fault → Halt ε
  | .fail error _ => .error (report error)
  | .die _ => .died

/-- An operation that is not made when there is a fault. -/
def unlessFault (fault : Option Fault) (operation : Prog (Disk Path) (Halt ε) α) : Prog (Disk Path) (Halt ε) α :=
  match fault with
  | none => operation
  | some f => fail (f.halt report)

variable (fault : Option Fault) (path : Path)

/-- The file of a path, for its contents or its metadata. -/
def open_ : Prog (Disk Path) (Halt ε) File :=
  unlessFault report fault (do
    let disk ← get
    ofOption (.error (report notFound)) (disk path))

/-- `Path::exists`: what cannot be looked at counts as missing. -/
def isPresent : Prog (Disk Path) (Halt ε) Bool :=
  match fault with
  | none => do
    let disk ← get
    pure (disk path).isSome
  | some (.fail _ _) => pure false
  | some (.die _) => fail .died

/-- `create_new`: there must be no file. -/
def createNew (mode : Nat) : Prog (Disk Path) (Halt ε) Unit :=
  unlessFault report fault (do
    let disk ← get
    if (disk path).isSome then fail (.error (report fileExists))
    else modify (Function.update · path (some ⟨[], mode⟩)))

def change (f : File → File) : Prog (Disk Path) (Halt ε) Unit :=
  modify (fun disk => Function.update disk path ((disk path).map f))

def setPermissions (mode : Nat) : Prog (Disk Path) (Halt ε) Unit :=
  unlessFault report fault (change path (fun file => { file with mode := mode }))

def append (bytes : List UInt8) : Prog (Disk Path) (Halt ε) Unit :=
  change path (fun file => { file with bytes := file.bytes ++ bytes })

/-- A faulty write still leaves the part that got through. -/
def writeAll (bytes : List UInt8) : Prog (Disk Path) (Halt ε) Unit :=
  match fault with
  | none => append path bytes
  | some f => do
    append path (bytes.take f.written)
    fail (f.halt report)

def sync : Prog (Disk Path) (Halt ε) Unit := unlessFault report fault (pure ())

def rename (source target : Path) : Prog (Disk Path) (Halt ε) Unit :=
  unlessFault report fault
    (modify (fun disk => Function.update (Function.update disk target (disk source)) source none))

end

/-! ## Their specifications -/

section
variable {Path ε α : Type} {report : String → ε} {fault : Option Fault} {path : Path} {disk : Disk Path}
  {E : Halt ε → Disk Path → Prop}

theorem wp_unlessFault {m : Prog (Disk Path) (Halt ε) α} {Q : α → Disk Path → Prop} :
    wp (unlessFault report fault m) Q E disk ↔
      (fault = none → wp m Q E disk) ∧ ∀ f, fault = some f → E (f.halt report) disk := by
  cases fault <;> simp [unlessFault]

theorem wp_open {Q : File → Disk Path → Prop} : wp (open_ report fault path) Q E disk ↔
    (∀ file, fault = none → disk path = some file → Q file disk) ∧
      (fault = none → disk path = none → E (.error (report notFound)) disk) ∧
      ∀ f, fault = some f → E (f.halt report) disk := by
  unfold open_
  rw [wp_unlessFault, wp_bind, wp_get, wp_ofOption, ← and_assoc, forall_and]
  exact and_congr_left fun _ => and_congr_left fun _ => ⟨fun h _ hf hd => h hf _ hd, fun h hf _ hd => h _ hf hd⟩

theorem wp_isPresent {Q : Bool → Disk Path → Prop} : wp (isPresent fault path) Q E disk ↔
    (fault = none → Q (disk path).isSome disk) ∧
      (∀ error written, fault = some (.fail error written) → Q false disk) ∧
      ∀ written, fault = some (.die written) → E .died disk := by
  rcases fault with _ | _ | _ <;> simp [isPresent]

theorem wp_sync {Q : Unit → Disk Path → Prop} : wp (sync report fault) Q E disk ↔
    (fault = none → Q () disk) ∧ ∀ f, fault = some f → E (f.halt report) disk := wp_unlessFault

variable [DecidableEq Path] {Q : Unit → Disk Path → Prop}

theorem wp_createNew {mode : Nat} : wp (createNew report fault path mode) Q E disk ↔
    (fault = none → disk path = none → Q () (Function.update disk path (some ⟨[], mode⟩))) ∧
      (fault = none → disk path ≠ none → E (.error (report fileExists)) disk) ∧
      ∀ f, fault = some f → E (f.halt report) disk := by
  unfold createNew
  rw [wp_unlessFault, wp_bind, wp_get, wp_ite, ← and_assoc, forall_and]
  simp only [Option.isSome_iff_ne_none, not_not, wp_fail, wp_modify]
  exact and_congr_left fun _ => and_comm

theorem wp_setPermissions {mode : Nat} : wp (setPermissions report fault path mode) Q E disk ↔
    (fault = none → Q () (Function.update disk path ((disk path).map fun file => { file with mode := mode }))) ∧
      ∀ f, fault = some f → E (f.halt report) disk := wp_unlessFault

theorem wp_writeAll {bytes : List UInt8} : wp (writeAll report fault path bytes) Q E disk ↔
    (fault = none → Q () (Function.update disk path ((disk path).map fun file =>
      { file with bytes := file.bytes ++ bytes }))) ∧ ∀ f, fault = some f → E (f.halt report)
        (Function.update disk path ((disk path).map fun file =>
          { file with bytes := file.bytes ++ bytes.take f.written })) := by
  cases fault <;> simp [writeAll, append, change]

theorem wp_rename {source target : Path} : wp (rename report fault source target) Q E disk ↔
    (fault = none → Q () (Function.update (Function.update disk target (disk source)) source none)) ∧
      ∀ f, fault = some f → E (f.halt report) disk := wp_unlessFault

end

end Files
end NetTool
