import NetTool.PlatformNetwork.Macos
import NetTool.PlatformNetwork.Windows
/-!
# PlatformNetwork.Boundary — what reaches the command runner (`platform_network.rs` and the two readers)

`PlatformNetwork.Executor` lets a command do what it says.  Here the runner is any at all, its answers free to depend on
what it has run before, and the state is the list of the commands it was given.  Over every sequence of calls, the
builders' commands and the readers' queries reach it checked (`platform_commands_checked`): as `networksetup` or `netsh`
with plain arguments, or as the one PowerShell query, whose script is full of the characters that are forbidden
elsewhere.
-/
namespace NetTool
namespace PlatformNetwork
namespace Boundary

open Helper Prog

structure CommandOutput where
  success : Bool
  stdout : Str

/-- The world outside: the runner, given what it ran before, and the parser of the PowerShell document. -/
structure System where
  run : List PlatformCommand → PlatformCommand → Result CommandOutput
  parseWindowsJsonState : Str → Str → Result NetworkDesiredState

/-- A program that may run commands; the state is what the runner was given, the latest first. -/
abbrev Running (α : Type) : Type := Prog (List PlatformCommand) NetToolError α

section
variable (system : System)

def runValidatedPlatformCommand (command : PlatformCommand) : Running CommandOutput := do
  ofExcept (validatePlatformCommand command)
  let before ← get
  modify (command :: ·)
  ofExcept (system.run before command)

def runOrFail (failure : String) (command : PlatformCommand) : Running Str := do
  let output ← runValidatedPlatformCommand system command
  if output.success then pure output.stdout else fail (.new .helperExecutionFailed failure true)

def executePlatformCommands (commands : List PlatformCommand) : Running Unit := do
  ofExcept (validateCommands commands)
  forEach (fun command => runOrFail system "platform network command failed" command >>= fun _ => pure ()) commands

def networksetupQuery (interfaceId : Str) (operation : String) : Running Str :=
  runOrFail system "networksetup state query failed" ⟨networksetupProgram, [operation.toList, interfaceId]⟩

def readState (interfaceId : Str) : PlatformBackend → Running NetworkDesiredState
  | .macos => do
    ofExcept (validateInterface interfaceId)
    let info ← networksetupQuery system interfaceId "-getinfo"
    let v6Info ← networksetupQuery system interfaceId "-getv6info"
    let dnsInfo ← networksetupQuery system interfaceId "-getdnsservers"
    let mtuInfo ← networksetupQuery system interfaceId "-getMTU"
    ofExcept (Macos.parseMacosState info v6Info dnsInfo mtuInfo)
  | .windows => do
    ofExcept (validateInterface interfaceId)
    let output ← runOrFail system "PowerShell state query failed" (Windows.stateQueryCommand interfaceId)
    ofExcept (system.parseWindowsJsonState output interfaceId)

def builtCommands (interfaceId : Str) (state : NetworkDesiredState) :
    PlatformBackend → Result (List PlatformCommand)
  | .macos => (Macos.adapter.build interfaceId state).map (·.map Macos.adapter.command)
  | .windows => (Windows.adapter.build interfaceId state).map (·.map Windows.adapter.command)

/-- The calls of the executor.  A restore is given what its snapshot file holds, whoever wrote it. -/
inductive Call
  | readState (interfaceId : Str)
  | snapshot (interfaceId : Str)
  | apply (interfaceId : Str) (desired : NetworkDesiredState)
  | verify (interfaceId : Str) (desired : NetworkDesiredState)
  | restore (stored : Option PlatformSnapshot)

def Call.perform (backend : PlatformBackend) : Call → Running Unit
  | .readState interfaceId => do
    let _ ← Boundary.readState system interfaceId backend
  | .snapshot interfaceId => do
    let state ← Boundary.readState system interfaceId backend
    ofExcept (state.validate.mapError invalid)
  | .apply interfaceId desired => do
    ofExcept (desired.validate.mapError invalid)
    let commands ← ofExcept (builtCommands interfaceId desired backend)
    executePlatformCommands system commands
  | .verify interfaceId desired => do
    let actual ← Boundary.readState system interfaceId backend
    if actual ≠ desired then
      fail (.new .helperExecutionFailed "platform network state does not match requested state" false)
    else pure ()
  | .restore stored => do
    let snapshot ← ofOption (platformPersistenceError Files.notFound) stored
    if snapshot.version ≠ platformSnapshotVersion ∨ snapshot.backend ≠ backend then
      fail (.new .protocolIncompatible "platform snapshot version or backend is unsupported" false)
    else do
      let commands ← ofExcept (builtCommands snapshot.interfaceId snapshot.state backend)
      executePlatformCommands system commands

def ran (backend : PlatformBackend) (calls : List Call) : List PlatformCommand :=
  calls.foldl (fun before call => (call.perform system backend before).2) []

end

/-! ## What is let through -/

/-- A plain command of the two tools, or the state query. -/
inductive Allowed : PlatformCommand → Prop
  | tool (command : PlatformCommand) (hprogram : command.program = networksetupProgram ∨ command.program = netshProgram)
      (hne : command.arguments ≠ []) (hcount : command.arguments.length ≤ 32)
      (hplain : ∀ argument ∈ command.arguments, Plain argument) : Allowed command
  | query (interfaceId : Str) (h : validateInterface interfaceId = .ok ()) :
    Allowed (Windows.stateQueryCommand interfaceId)

theorem allowed_of_stateQuery {command : PlatformCommand} (hprogram : command.program = powershellExe)
    (h : validateStateQueryCommand command = .ok ()) : Allowed command := by
  obtain ⟨program, arguments⟩ := command
  unfold validateStateQueryCommand at h
  rw [Check.guard_ok] at h
  simp only [not_or, not_not] at h
  obtain ⟨⟨hlength, hoptions, hscript, hdashes⟩, hinterface⟩ := h
  match arguments, hlength with
  | [_, _, _, _, _, _, script, dashes, interfaceId], _ =>
    rw [← List.take_append_drop 6 [_, _, _, _, _, _, script, dashes, interfaceId], hoptions,
      show program = powershellExe from hprogram]
    cases Option.some.inj hscript
    cases Option.some.inj hdashes
    exact .query interfaceId hinterface

theorem validatePlatformCommand_ok {command : PlatformCommand} :
    validatePlatformCommand command = .ok () ↔ Allowed command := by
  constructor
  · intro h
    by_cases htool : command.program = networksetupProgram ∨ command.program = netshProgram
    · obtain ⟨hne, hcount, hplain⟩ := (validatePlatformCommand_ok_iff htool).1 h
      exact .tool command htool hne hcount hplain
    · unfold validatePlatformCommand at h
      rw [Check.guard_ok] at h
      have hshell : command.program = powershellExe := by
        by_contra hother
        exact h.1 ⟨fun heq => htool (.inl heq), fun heq => htool (.inr heq), hother⟩
      rw [if_pos hshell] at h
      exact allowed_of_stateQuery hshell h.2
  · intro h
    cases h with
    | tool _ hprogram hne hcount hplain => exact (validatePlatformCommand_ok_iff hprogram).2 ⟨hne, hcount, hplain⟩
    | query interfaceId h => rw [Windows.validate_stateQueryCommand, h]

/-! ## Every call -/

section
variable {system : System} {backend : PlatformBackend}

abbrev Checked {α : Type} (m : Running α) : Prop :=
  Keeps (fun given => ∀ command ∈ given, Allowed command) (fun _ => False) m

theorem checked_runOrFail (failure : String) (command : PlatformCommand) :
    Checked (runOrFail system failure command) := by
  have hrun : Checked (runValidatedPlatformCommand system command) := by
    intro given h
    refine wp_check (fun _ hvalid => ?_) (fun _ _ => .inr h)
    exact Keeps.ofExcept _ _ (List.forall_mem_cons.2 ⟨validatePlatformCommand_ok.1 hvalid, h⟩)
  exact hrun.bind fun _ => .ite (.pure _) (.fail _)

theorem checked_executePlatformCommands (commands : List PlatformCommand) :
    Checked (executePlatformCommands system commands) :=
  (Keeps.ofExcept _).bind fun _ => .forEach (fun command => (checked_runOrFail _ command).bind fun _ =>
    .pure _) commands

theorem checked_readState (interfaceId : Str) : Checked (readState system interfaceId backend) := by
  cases backend with
  | macos =>
    refine (Keeps.ofExcept _).bind fun _ => (checked_runOrFail _ _).bind fun _ =>
      (checked_runOrFail _ _).bind fun _ => ?_
    exact (checked_runOrFail _ _).bind fun _ => (checked_runOrFail _ _).bind fun _ => .ofExcept _
  | windows => exact (Keeps.ofExcept _).bind fun _ => (checked_runOrFail _ _).bind fun _ => .ofExcept _

theorem checked_perform (call : Call) : Checked (call.perform system backend) := by
  cases call with
  | readState interfaceId => exact (checked_readState interfaceId).bind fun _ => .pure _
  | snapshot interfaceId => exact (checked_readState interfaceId).bind fun _ => .ofExcept _
  | apply interfaceId desired =>
    exact (Keeps.ofExcept _).bind fun _ => (Keeps.ofExcept _).bind fun commands =>
      checked_executePlatformCommands commands
  | verify interfaceId desired => exact (checked_readState interfaceId).bind fun _ => .ite (.fail _) (.pure _)
  | restore stored =>
    refine (Keeps.ofOption _ _).bind fun _ => .ite (.fail _) ((Keeps.ofExcept _).bind fun commands => ?_)
    exact checked_executePlatformCommands commands

end

/-- **Every command that reaches the runner is let through, and a batch with one that is not runs nothing.** -/
theorem platform_commands_checked (system : System) (backend : PlatformBackend) (calls : List Call) :
    (∀ command ∈ ran system backend calls, Allowed command) ∧
    ∀ commands given, (∃ command ∈ commands, ¬ Allowed command) →
      ∃ error, executePlatformCommands system commands given = (.error error, given) := by
  constructor
  · unfold ran
    induction calls using List.reverseRecOn with
    | nil => simp
    | append_singleton calls call ih =>
      rw [List.foldl_append]
      exact wp_state ((checked_perform call).always ih)
  · rintro commands given ⟨command, hmem, hnot⟩
    cases hvalid : validateCommands commands with
    | ok _ => exact absurd (validatePlatformCommand_ok.1 ((validateCommands_ok_iff.1 hvalid).2 command hmem)) hnot
    | error error =>
      refine ⟨error, ?_⟩
      unfold executePlatformCommands
      rw [hvalid]
      rfl

def sampleSystem : System where
  run _ _ := .ok ⟨true, []⟩
  parseWindowsJsonState _ _ := .error (invalid "not a document")

/-- Reading an interface on Windows hands the runner a script with the forbidden characters. -/
theorem state_query_is_not_plain :
    ran sampleSystem .windows [.readState "Ethernet".toList] = [Windows.stateQueryCommand "Ethernet".toList] ∧
    ¬ ∀ argument ∈ (Windows.stateQueryCommand "Ethernet".toList).arguments, Plain argument := by
  refine ⟨?_, fun hplain => ?_⟩
  · have hname : validateInterface "Ethernet".toList = .ok () := by decide
    simp only [ran, List.foldl_cons, List.foldl_nil, Call.perform, readState, runOrFail, runValidatedPlatformCommand,
      Windows.validate_stateQueryCommand, hname]
    rfl
  · have hscript := hplain windowsStateQuery (by simp [Windows.stateQueryCommand])
    have hnewline : '\n' ∈ windowsStateQuery := by
      decide +kernel
    exact absurd (hscript.plain _ hnewline) (by decide)

end Boundary
end PlatformNetwork
end NetTool
