import NetTool.NetworkManager.Executor
/-!
# NetworkManager.Restore — a restore takes back what applies wrote

Between a snapshot and its restore the executor may be called in any way, and any of its commands may fail: properties
outside the record never change (`Since`), and a restore that returns has set all those inside it
(`restore_returns_the_profile`).
-/
namespace NetTool
namespace NetworkManager

open Prog Str Helper List

/-! ## Invariants of the executor -/

/-- An invariant that commands cannot break. -/
def Framed (I : World → Prop) : Prop := ∀ w w', I w → Since w w' → w'.snapshots = w.snapshots → I w'

section
variable {print : Str → Str} {I : World → Prop} (hI : Framed I)
include hI

theorem Framed.faults {w : World} (hw : I w) (faults : List (Option Fault)) : I { w with faults := faults } :=
  hI w _ hw ⟨(Since.refl w).profiles, (Since.refl w).devices⟩ rfl

theorem keeps_nextFault : Keeps I (fun _ => False) nextFault := by
  intro w hw
  unfold nextFault
  rcases hfaults : w.faults with _ | ⟨fault, faults⟩
  · simpa [wp, hfaults] using hw
  · simpa [wp, hfaults] using hI.faults hw faults

theorem keeps_runChecked {command : Command} (h : ∀ p ∈ command.written, p.1 ∈ profileProperties) :
    Keeps I (fun _ => False) (runChecked print command) := by
  refine Keeps.bind ?_ (fun output => .ite (.pure _) (.fail _))
  refine (keeps_nextFault hI).bind fun fault => ?_
  rcases fault with _ | (error | ⟨stderr, written⟩)
  · intro w hw
    obtain ⟨hsince, hsnapshots⟩ := since_nmcli print (w := w) h
    exact hI w _ hw hsince hsnapshots
  · exact .fail _
  · refine (Keeps.modify fun w hw => ?_).bind fun _ => .pure _
    cases command with
    | modify uuid properties => exact hI w _ hw (since_write w uuid fun p hp => h p (mem_of_mem_take hp)) rfl
    | deviceType | deviceUuid | connectionShow | up => exact hI w _ hw (.refl w) rfl

theorem keeps_fileStep : Keeps I (fun _ => False) fileStep := by
  refine (keeps_nextFault hI).bind fun fault => ?_
  rcases fault with _ | (error | ⟨stderr, written⟩)
  · exact .pure _
  · exact .fail _
  · exact .fail _

theorem keeps_ensureEthernet (interfaceId : Str) : Keeps I (fun _ => False) (ensureEthernet print interfaceId) :=
  (keeps_runChecked hI (by simp [Command.written])).bind fun _ => (Keeps.pure _).ite (.fail _)

theorem keeps_connectionUuid (interfaceId : Str) : Keeps I (fun _ => False) (connectionUuid print interfaceId) :=
  (keeps_runChecked hI (by simp [Command.written])).bind fun _ => (Keeps.fail _).ite (.pure _)

theorem keeps_readProperty (uuid : Str) (property : String) :
    Keeps I (fun _ => False) (readProperty print uuid property) :=
  (keeps_runChecked hI (by simp [Command.written])).bind fun _ => .pure _

theorem keeps_activate (uuid interfaceId : Str) : Keeps I (fun _ => False) (activate print uuid interfaceId) :=
  (keeps_runChecked hI (by simp [Command.written])).bind fun _ => .pure _

theorem keeps_modify (uuid : Str) {properties : Properties}
    (h : ∀ property ∈ properties, property ∈ profileProperties) :
    Keeps I (fun _ => False) (modify print uuid properties) :=
  Keeps.bind (keeps_runChecked hI fun p hp => h p.1 (mem_of_mem_toList hp)) fun _ => .pure _

theorem keeps_readProperties (uuid : Str) : ∀ (names : List String) (properties : Properties),
    Keeps I (fun _ => False) (readProperties print uuid names properties)
  | [], properties => Keeps.pure properties
  | name :: names, properties =>
    (keeps_readProperty hI uuid name).bind fun value => keeps_readProperties uuid names (properties.insert name value)

theorem keeps_currentSnapshot (interfaceId : Str) : Keeps I (fun _ => False) (currentSnapshot print interfaceId) := by
  refine (keeps_ensureEthernet hI interfaceId).bind fun _ => (keeps_connectionUuid hI interfaceId).bind fun uuid => ?_
  exact (keeps_readProperties hI uuid profileProperties ∅).bind fun _ => .pure _

theorem keeps_apply (interfaceId : Str) (desired : NetworkDesiredState) :
    Keeps I (fun _ => False) (apply print interfaceId desired) := by
  refine (Keeps.ofExcept _).bind fun _ => (keeps_ensureEthernet hI interfaceId).bind fun _ => ?_
  refine (keeps_connectionUuid hI interfaceId).bind fun uuid => ?_
  exact (keeps_modify hI uuid fun _ => mem_build).bind fun _ => keeps_activate hI uuid interfaceId

end

/-! ## What a call returns -/

/-- Nothing but what is still to fail is different. -/
def SameNetwork (w w' : World) : Prop := ∃ faults, w' = { w with faults := faults }

theorem SameNetwork.refl (w : World) : SameNetwork w w := ⟨w.faults, rfl⟩

theorem SameNetwork.trans {w w' w'' : World} (h : SameNetwork w w') (h' : SameNetwork w' w'') : SameNetwork w w'' := by
  obtain ⟨_, rfl⟩ := h
  obtain ⟨faults, rfl⟩ := h'
  exact ⟨faults, rfl⟩

section
variable {print : Str → Str} {w : World}

theorem wp_nextFault : wp nextFault (fun _ w' => SameNetwork w w') (fun _ _ => False) w := by
  unfold nextFault
  rcases hfaults : w.faults with _ | ⟨fault, faults⟩
  · simpa [wp, hfaults] using SameNetwork.refl w
  · simpa [wp, hfaults] using ⟨faults, rfl⟩

theorem wp_runChecked (command : Command) :
    wp (runChecked print command) (fun output w' => ∃ v, SameNetwork w v ∧ nmcli print v command = (done output, w'))
      (fun _ _ => True) w := by
  unfold runChecked
  rw [wp_bind]
  have hrun : wp (runCommand print command) (fun output w' => output.success = true →
      ∃ v, SameNetwork w v ∧ nmcli print v command = (done output.stdout, w')) (fun _ _ => True) w := by
    refine wp_then wp_nextFault (fun fault v hv => ?_) (fun _ _ h => h.elim)
    rcases fault with _ | (error | ⟨stderr, written⟩)
    · refine fun hsuccess => ⟨v, hv, ?_⟩
      revert hsuccess
      cases command <;> dsimp only [nmcli] <;> split <;> simp [done, notFound]
    · trivial
    · intro hsuccess
      cases hsuccess
  refine wp_mono hrun (fun output w' h => ?_) (fun _ _ h => h)
  rw [wp_ite]
  exact ⟨h, fun _ => trivial⟩

theorem wp_ensureEthernet (interfaceId : Str) :
    wp (ensureEthernet print interfaceId) (fun _ w' => SameNetwork w w') (fun _ _ => True) w := by
  refine wp_seq (wp_runChecked _) (fun output w' h => ?_)
  obtain ⟨v, hv, hrun⟩ := h
  have hsame : w' = v := by
    dsimp only [nmcli] at hrun
    split at hrun <;> exact (congrArg Prod.snd hrun).symm
  rw [wp_ite]
  exact ⟨fun _ => hsame ▸ hv, fun _ => trivial⟩

theorem wp_connectionUuid (interfaceId : Str) :
    wp (connectionUuid print interfaceId) (fun _ w' => SameNetwork w w' ∧ (w.devices interfaceId).isSome)
      (fun _ _ => True) w := by
  refine wp_seq (wp_runChecked _) (fun output w' h => ?_)
  obtain ⟨v, ⟨faults, rfl⟩, hrun⟩ := h
  have hdevice : w' = { w with faults := faults } ∧ (w.devices interfaceId).isSome := by
    dsimp only [nmcli] at hrun
    split at hrun
    · rename_i device hdevice
      rw [hdevice]
      exact ⟨(congrArg Prod.snd hrun).symm, rfl⟩
    · cases congrArg (fun r => r.1.success) hrun
  rw [wp_ite]
  exact ⟨fun _ => trivial, fun _ => ⟨⟨faults, hdevice.1⟩, hdevice.2⟩⟩

theorem wp_readProperty (uuid : Str) (property : String) :
    wp (readProperty print uuid property) (fun value w' => SameNetwork w w' ∧
      ∃ profile, w.profiles uuid = some profile ∧ value = trim (print (profile property))) (fun _ _ => True) w := by
  refine wp_seq (wp_runChecked _) (fun output w' h => ?_)
  obtain ⟨v, ⟨faults, rfl⟩, hrun⟩ := h
  dsimp only [nmcli] at hrun
  split at hrun
  · rename_i profile hprofile
    obtain ⟨hout, rfl⟩ := Prod.mk.inj hrun
    have houtput : print (profile property) = output := congrArg CommandOutput.stdout hout
    exact ⟨⟨faults, rfl⟩, profile, hprofile, by rw [houtput]⟩
  · cases congrArg (fun r => r.1.success) hrun

theorem wp_readProperties (uuid : Str) (names : List String) (properties : Properties) :
    wp (readProperties print uuid names properties) (fun result w' => SameNetwork w w' ∧
      (names ≠ [] → (w.profiles uuid).isSome) ∧ ∀ profile, w.profiles uuid = some profile → ∀ property,
        result[property]? = if property ∈ names then some (trim (print (profile property))) else properties[property]?)
      (fun _ _ => True) w := by
  induction names generalizing properties w with
  | nil => exact ⟨.refl w, fun h => absurd rfl h, fun _ _ _ => by simp⟩
  | cons name names ih =>
    refine wp_seq (wp_readProperty uuid name) (fun value v h => ?_)
    obtain ⟨⟨faults, rfl⟩, profile, hprofile, rfl⟩ := h
    refine wp_mono (ih _) (fun result w' h => ?_) (fun _ _ h => h)
    obtain ⟨hsame, -, hresult⟩ := h
    refine ⟨(SameNetwork.trans ⟨faults, rfl⟩ hsame), fun _ => by rw [hprofile]; rfl,
      fun profile' hprofile' property => ?_⟩
    obtain rfl : profile = profile' := Option.mem_unique hprofile hprofile'
    rw [hresult profile hprofile, Std.TreeMap.getElem?_insert]
    by_cases hrest : property ∈ names
    · rw [if_pos hrest, if_pos (mem_cons_of_mem _ hrest)]
    · rw [if_neg hrest]
      by_cases hname : name = property
      · subst hname
        rw [if_pos (Std.LawfulEqCmp.compare_eq_iff_eq.2 rfl), if_pos mem_cons_self]
      · have hnot : property ∉ name :: names := by simp [Ne.symm hname, hrest]
        rw [if_neg (fun h => hname (Std.LawfulEqCmp.compare_eq_iff_eq.1 h)), if_neg hnot]

/-- **What a snapshot records.** -/
structure Records (print : Str → Str) (w : World) (interfaceId : Str) (s : Snapshot) (profile : Profile) : Prop where
  version : s.version = snapshotVersion
  interface : s.interfaceId = interfaceId ∧ (w.devices interfaceId).isSome
  profile_eq : w.profiles s.connectionUuid = some profile
  properties : ∀ property,
    s.properties[property]? = if property ∈ profileProperties then some (trim (print (profile property))) else none

theorem wp_currentSnapshot (interfaceId : Str) :
    wp (currentSnapshot print interfaceId) (fun s w' => SameNetwork w w' ∧
      ∃ profile, Records print w interfaceId s profile) (fun _ _ => True) w := by
  refine wp_seq (wp_ensureEthernet interfaceId) (fun _ v hv => ?_)
  obtain ⟨faults, rfl⟩ := hv
  refine wp_seq (wp_connectionUuid interfaceId) (fun uuid v h => ?_)
  obtain ⟨⟨faults', rfl⟩, hdevice⟩ := h
  refine wp_seq (wp_readProperties uuid profileProperties ∅) (fun properties w' h => ?_)
  obtain ⟨⟨faults'', rfl⟩, hsome, hproperties⟩ := h
  obtain ⟨profile, hprofile⟩ := Option.isSome_iff_exists.1 (hsome (by simp [profileProperties]))
  refine ⟨⟨faults'', rfl⟩, profile, rfl, ⟨rfl, hdevice⟩, hprofile, fun property => ?_⟩
  rw [hproperties profile hprofile]
  simp

def pathOf (digest : Bytes 32) : String := hexString digest.val ++ ".json"

theorem pathOf_injective {a b : Bytes 32} (h : pathOf a = pathOf b) : a = b := by
  have hlists := congrArg String.toList h
  simp only [pathOf, hexString, String.toList_append, String.toList_ofList] at hlists
  exact Subtype.ext (flatMap_hexByte_injective (append_cancel_right hlists))

theorem snapshotPath_digest (digest : Bytes 32) : snapshotPath (hexString digest.val) = .ok (pathOf digest) := by
  have hlength : (hexString digest.val).utf8ByteSize = 64 := by
    rw [utf8ByteSize_hexString, digest.property]
  have hdigit : ∀ n < 16, isAsciiHexdigit (hexDigit n) = true := by decide
  have hdigits : (hexString digest.val).toList.all isAsciiHexdigit = true := by
    refine all_eq_true.2 fun c hc => ?_
    obtain ⟨n, hn, rfl⟩ := exists_hexDigit hc
    exact hdigit n hn
  unfold snapshotPath
  rw [if_neg (by simp [hlength, hdigits])]
  rfl

def World.record (w : World) (digest : Bytes 32) (s : Snapshot) : World :=
  { w with snapshots := Function.update w.snapshots (pathOf digest) (some s) }

theorem wp_fileStep : wp fileStep (fun _ w' => SameNetwork w w') (fun _ w' => SameNetwork w w') w := by
  refine wp_then wp_nextFault (fun fault v hv => ?_) (fun _ _ h => h.elim)
  rcases fault with _ | (error | ⟨stderr, written⟩)
  · exact hv
  · exact hv
  · exact hv

theorem wp_writeSnapshot (digest : Bytes 32) (s : Snapshot) :
    wp (writeSnapshot digest s) (fun id w' => id = hexString digest.val ∧ SameNetwork (w.record digest s) w')
      (fun _ w' => SameNetwork w w' ∨ SameNetwork (w.record digest s) w') w := by
  apply wp_check_ok (snapshotPath_digest _)
  refine wp_then wp_fileStep (fun _ v hv => ?_) (fun _ _ h => .inl h)
  obtain ⟨faults, rfl⟩ := hv
  rw [wp_bind, wp_modify, wp_bind]
  have hrecord : SameNetwork (w.record digest s)
      { w with faults := faults, snapshots := Function.update w.snapshots (pathOf digest) (some s) } := ⟨faults, rfl⟩
  exact wp_mono wp_fileStep (fun _ w' h => ⟨rfl, hrecord.trans h⟩) (fun _ w' h => .inr (hrecord.trans h))

/-- **What a snapshot that returned leaves behind.** -/
theorem wp_snapshot (digest : Bytes 32) (interfaceId : Str) :
    wp (snapshot print digest interfaceId) (fun r w' => r.1 = hexString digest.val ∧
      (∃ profile, Records print w interfaceId r.2 profile) ∧ SameNetwork (w.record digest r.2) w')
        (fun _ _ => True) w := by
  refine wp_seq (wp_currentSnapshot interfaceId) (fun s v h => ?_)
  obtain ⟨⟨faults, rfl⟩, hrecords⟩ := h
  refine wp_then (wp_writeSnapshot digest s) (fun id w' h => ?_) (fun _ _ _ => trivial)
  exact ⟨h.1, hrecords, SameNetwork.trans ⟨faults, rfl⟩ h.2⟩

theorem wp_modify (uuid : Str) (properties : Properties) :
    wp (modify print uuid properties) (fun _ w' => ∃ profile, w.profiles uuid = some profile ∧
      SameNetwork (w.write uuid properties.toList) w') (fun _ _ => True) w := by
  refine wp_seq (wp_runChecked _) (fun output w' h => ?_)
  obtain ⟨v, ⟨faults, rfl⟩, hrun⟩ := h
  dsimp only [nmcli] at hrun
  split at hrun
  · rename_i profile hprofile
    exact ⟨profile, hprofile, ⟨faults, (congrArg Prod.snd hrun).symm⟩⟩
  · cases congrArg (fun r => r.1.success) hrun

theorem wp_activate (uuid interfaceId : Str) :
    wp (activate print uuid interfaceId) (fun _ w' => w'.profiles = w.profiles) (fun _ _ => True) w := by
  refine wp_seq (wp_runChecked _) (fun output w' h => ?_)
  obtain ⟨v, ⟨faults, rfl⟩, hrun⟩ := h
  dsimp only [nmcli] at hrun
  split at hrun <;> exact (congrArg (fun r => r.2.profiles) hrun).symm

/-- **A restore that returned has written the snapshot.** -/
theorem wp_restore {digest : Bytes 32} {s : Snapshot} (h : w.snapshots (pathOf digest) = some s) :
    wp (restore print (hexString digest.val)) (fun _ w' => ∃ profile, w.profiles s.connectionUuid = some profile ∧
      w'.profiles s.connectionUuid = some (store profile s.properties.toList)) (fun _ _ => True) w := by
  unfold restore
  rw [wp_bind, wp_ofExcept, snapshotPath_digest]
  refine ⟨fun path hpath => ?_, fun _ _ => trivial⟩
  cases hpath
  refine wp_then wp_fileStep (fun _ v hv => ?_) (fun _ _ _ => trivial)
  obtain ⟨faults, rfl⟩ := hv
  apply wp_ofOption_some h
  rw [wp_ite]
  refine ⟨fun _ => trivial, fun _ => ?_⟩
  refine wp_seq (wp_modify _ _) (fun _ v hv => ?_)
  obtain ⟨profile, hprofile, hwrite⟩ := hv
  refine wp_mono (wp_activate _ _) (fun _ w' hw' => ⟨profile, hprofile, ?_⟩) (fun _ _ h => h)
  obtain ⟨faults', rfl⟩ := hwrite
  have hnow : w.profiles s.connectionUuid = some profile := hprofile
  rw [hw']
  simp [World.write, hnow]

end

/-! ## Runs -/

theorem Records.full {print : Str → Str} {w : World} {interfaceId : Str} {s : Snapshot} {profile : Profile}
    (h : Records print w interfaceId s profile) : s.Full := by
  refine ⟨h.version, fun property hp => ?_⟩
  by_contra hnot
  have hsome := Std.TreeMap.mem_iff_isSome_getElem?.1 hp
  rw [h.properties, if_neg hnot] at hsome
  cases hsome

section
variable {print : Str → Str} {I : World → Prop} {w : World}

/-- **One call**: an invariant that no command can break, and no snapshot the call takes. -/
theorem perform_keeps (hI : Framed I) (hrecorded : ∀ w, I w → Recorded w) {call : Call}
    (hadd : ∀ digest, call.digest = some digest → ∀ w s, I w → s.Full → I (w.record digest s)) (hw : I w) :
    I (perform print w call) := by
  have hsame : ∀ v v', I v → SameNetwork v v' → I v' := by
    rintro v _ hv ⟨faults, rfl⟩
    exact hI.faults hv faults
  cases call with
  | readState interfaceId => exact wp_state ((keeps_currentSnapshot hI interfaceId).always hw)
  | apply interfaceId desired => exact wp_state ((keeps_apply hI interfaceId desired).always hw)
  | verify interfaceId desired =>
    refine wp_state (((keeps_connectionUuid hI interfaceId).bind fun uuid => Keeps.forEach (fun p => ?_) _).always hw)
    exact (keeps_readProperty hI uuid p.1).bind fun _ => (Keeps.fail _).ite (.pure _)
  | snapshot digest interfaceId =>
    apply wp_state
    refine wp_then (wp_and ((keeps_currentSnapshot hI interfaceId).always hw) (wp_currentSnapshot interfaceId))
      (fun s v h => ?_) (fun _ _ h => h.1)
    obtain ⟨hv, -, profile, hrecords⟩ := h
    have hnew := hadd digest rfl v s hv hrecords.full
    refine wp_then (wp_writeSnapshot digest s) (fun id w' h => hsame _ w' hnew h.2) (fun _ w' h => ?_)
    rcases h with h | h
    · exact hsame _ w' hv h
    · exact hsame _ w' hnew h
  | restore snapshotId =>
    apply wp_state
    refine wp_check (fun path _ => ?_) (fun _ _ => hw)
    refine wp_seq ((keeps_fileStep hI).always hw) (fun _ v hv => ?_)
    rw [wp_bind, wp_get, wp_bind, wp_ofOption]
    refine ⟨fun s hs => ?_, fun _ => hv⟩
    obtain ⟨-, hproperties⟩ := hrecorded v hv path s hs
    rw [wp_ite]
    refine ⟨fun _ => hv, fun _ => ?_⟩
    exact ((keeps_modify hI s.connectionUuid hproperties).bind
      (fun _ => keeps_activate hI s.connectionUuid s.interfaceId)).always hv

/-- **A run of calls.** -/
theorem performAll_keeps (hI : Framed I) (hrecorded : ∀ w, I w → Recorded w) : ∀ (calls : List Call) (w : World),
    (∀ call ∈ calls, ∀ digest, call.digest = some digest → ∀ w s, I w → s.Full → I (w.record digest s)) → I w →
      I (calls.foldl (perform print) w)
  | [], _, _, hw => hw
  | call :: calls, w, hadd, hw =>
    performAll_keeps hI hrecorded calls (perform print w call) (fun c hc => hadd c (mem_cons_of_mem _ hc))
      (perform_keeps hI hrecorded (hadd call mem_cons_self) hw)

theorem recorded_record {digest : Bytes 32} {s : Snapshot} (hw : Recorded w) (hs : s.Full) :
    Recorded (w.record digest s) := by
  intro path s' h
  by_cases hpath : path = pathOf digest
  · subst hpath
    simp only [World.record, Function.update_self, Option.some.injEq] at h
    exact h ▸ hs
  · simp only [World.record, Function.update_of_ne hpath] at h
    exact hw path s' h

theorem recorded_of_run {start : World} (hstart : ∀ path, start.snapshots path = none) (calls : List Call) :
    Recorded (calls.foldl (perform print) start) := by
  refine performAll_keeps (fun w w' hw _ hsame => ?_) (fun _ hw => hw) calls start
    (fun _ _ _ _ w s hw hs => recorded_record hw hs) (fun path s h => ?_)
  · unfold Recorded
    rw [hsame]
    exact hw
  · rw [hstart] at h
    cases h

/-- What every run after a snapshot keeps. -/
structure Held (then_ : World) (digest : Bytes 32) (s : Snapshot) (w : World) : Prop where
  since : Since then_ w
  recorded : Recorded w
  held : w.snapshots (pathOf digest) = some s

theorem framed_held (then_ : World) (digest : Bytes 32) (s : Snapshot) : Framed (Held then_ digest s) := by
  intro w w' hw hsince hsame
  refine ⟨hw.since.trans hsince, ?_, by rw [hsame]; exact hw.held⟩
  unfold Recorded
  rw [hsame]
  exact hw.recorded

theorem held_of_run {then_ : World} {digest : Bytes 32} {s : Snapshot} {calls : List Call}
    (hcalls : ∀ call ∈ calls, call.digest ≠ some digest) (hw : Held then_ digest s w) :
    Held then_ digest s (calls.foldl (perform print) w) := by
  refine performAll_keeps (framed_held then_ digest s) (fun _ h => h.recorded) calls w
    (fun call hcall d hd v s' hv hs' => ?_) hw
  have hne : pathOf digest ≠ pathOf d := fun h => hcalls call hcall (by rw [hd, pathOf_injective h])
  refine ⟨⟨hv.since.profiles, hv.since.devices⟩, recorded_record hv.recorded hs', ?_⟩
  show Function.update v.snapshots (pathOf d) (some s') (pathOf digest) = some s
  rw [Function.update_of_ne hne]
  exact hv.held

end

/-! ## When nothing fails -/

section
variable {print : Str → Str} {w : World} {interfaceId uuid : Str} {device : Device} {profile : Profile}
    (hf : w.faults = [])
include hf

theorem nextFault_eq : nextFault w = (.ok none, w) := by
  unfold nextFault
  rw [hf]

theorem runCommand_eq (command : Command) :
    runCommand print command w = (.ok (nmcli print w command).1, (nmcli print w command).2) := by
  unfold runCommand
  rw [bind_of_ok (nextFault_eq hf)]

theorem runChecked_eq {command : Command} {output : Str} {w' : World} (h : nmcli print w command = (done output, w')) :
    runChecked print command w = (.ok output, w') := by
  unfold runChecked
  rw [bind_of_ok (runCommand_eq hf command), h]
  rfl

theorem fileStep_eq : fileStep w = (.ok (), w) := by
  unfold fileStep
  rw [bind_of_ok (nextFault_eq hf)]
  rfl

section
variable (hprofile : w.profiles uuid = some profile)
include hprofile

theorem readProperty_eq (property : String) :
    readProperty print uuid property w = (.ok (trim (print (profile property))), w) := by
  have hrun : nmcli print w (.connectionShow property uuid) = (done (print (profile property)), w) := by
    simp only [nmcli, hprofile]
  unfold readProperty
  rw [bind_of_ok (runChecked_eq hf hrun)]
  rfl

theorem readProperties_eq :
    ∀ (names : List String) (properties : Properties), ∃ result, readProperties print uuid names properties w =
      (.ok result, w)
  | [], properties => ⟨properties, rfl⟩
  | name :: names, properties => by
    unfold readProperties
    rw [bind_of_ok (readProperty_eq hf hprofile name)]
    exact readProperties_eq names _

theorem modify_eq (properties : Properties) :
    modify print uuid properties w = (.ok (), w.write uuid properties.toList) := by
  have hrun : nmcli print w (.modify uuid properties.toList) = (done [], w.write uuid properties.toList) := by
    simp only [nmcli, hprofile]
  unfold modify
  rw [bind_of_ok (runChecked_eq hf hrun)]
  rfl

theorem activate_eq (hdevice : w.devices interfaceId = some device) :
    activate print uuid interfaceId w =
      (.ok (), { w with devices := Function.update w.devices interfaceId (some { device with
        connection := uuid }) }) := by
  have hrun : nmcli print w (.up uuid interfaceId) =
      (done [], { w with devices := Function.update w.devices interfaceId (some { device with connection :=
        uuid }) }) := by
    simp only [nmcli, hprofile, hdevice]
  unfold activate
  rw [bind_of_ok (runChecked_eq hf hrun)]
  rfl

end

/-- **A restore succeeds when nothing fails.** -/
theorem restore_ok {digest : Bytes 32} {s : Snapshot} (hs : w.snapshots (pathOf digest) = some s)
    (hversion : s.version = snapshotVersion)
    (hprofile : w.profiles s.connectionUuid = some profile) (hdevice : w.devices s.interfaceId = some device) :
    (restore print (hexString digest.val) w).1 = .ok () := by
  have hwritten : (w.write s.connectionUuid s.properties.toList).profiles
    s.connectionUuid = some (store profile s.properties.toList) := by
    simp [World.write, hprofile]
  have hmodify : (modify print s.connectionUuid s.properties >>= fun _ => activate print s.connectionUuid
    s.interfaceId) w = _ :=
    bind_of_ok (modify_eq hf hprofile s.properties) _
  have hactivate : activate print s.connectionUuid s.interfaceId (w.write s.connectionUuid s.properties.toList) = _ :=
    activate_eq (w := w.write s.connectionUuid s.properties.toList) hf hwritten hdevice
  unfold restore
  rw [snapshotPath_digest]
  show ((fileStep >>= _) w).1 = _
  rw [bind_of_ok (fileStep_eq hf), get_bind, hs]
  show ((if s.version ≠ snapshotVersion then _ else _ : Prog World NetToolError Unit) w).1 = _
  rw [if_neg (fun h => h hversion), hmodify, hactivate]

structure Ready (print : Str → Str) (w : World) (interfaceId uuid : Str) (device : Device) (profile : Profile) :
    Prop where
  device_eq : w.devices interfaceId = some device
  kind : trim (print device.kind) = "ethernet".toList
  uuid_eq : trim (print device.connection) = uuid
  uuid_proper : ¬ (uuid.isEmpty ∨ uuid = ['-', '-'] ∨ uuid.any isWhitespace)
  profile_eq : w.profiles uuid = some profile

variable (h : Ready print w interfaceId uuid device profile)
include h

theorem ensureEthernet_eq : ensureEthernet print interfaceId w = (.ok (), w) := by
  have hrun : nmcli print w (.deviceType interfaceId) =
    (done (print device.kind), w) := by simp only [nmcli, h.device_eq]
  unfold ensureEthernet
  rw [bind_of_ok (runChecked_eq hf hrun), if_pos h.kind]
  rfl

theorem connectionUuid_eq : connectionUuid print interfaceId w = (.ok uuid, w) := by
  have hrun : nmcli print w (.deviceUuid interfaceId) =
    (done (print device.connection), w) := by simp only [nmcli, h.device_eq]
  unfold connectionUuid
  rw [bind_of_ok (runChecked_eq hf hrun)]
  simp only [h.uuid_eq]
  rw [if_neg h.uuid_proper]
  rfl

/-- **A snapshot succeeds when nothing fails.** -/
theorem snapshot_ok (digest : Bytes 32) :
    ∃ s, snapshot print digest interfaceId w = (.ok (hexString digest.val, s), w.record digest s) ∧
      s.connectionUuid = uuid := by
  obtain ⟨properties, hread⟩ : ∃ properties, readProperties print uuid profileProperties ∅ w = (.ok properties, w) :=
    readProperties_eq hf h.profile_eq profileProperties ∅
  have hcurrent : currentSnapshot print interfaceId w = (.ok ⟨snapshotVersion, interfaceId, uuid, properties⟩, w) := by
    unfold currentSnapshot
    rw [bind_of_ok (ensureEthernet_eq hf h), bind_of_ok (connectionUuid_eq hf h), bind_of_ok hread]
    rfl
  refine ⟨⟨snapshotVersion, interfaceId, uuid, properties⟩, ?_, rfl⟩
  have hwrite : writeSnapshot digest ⟨snapshotVersion, interfaceId, uuid, properties⟩ w =
      (.ok (hexString digest.val), w.record digest ⟨snapshotVersion, interfaceId, uuid, properties⟩) := by
    unfold writeSnapshot
    rw [snapshotPath_digest]
    show ((fileStep >>= _) w) = _
    rw [bind_of_ok (fileStep_eq hf)]
    have hrecord : (w.record digest ⟨snapshotVersion, interfaceId, uuid, properties⟩).faults = [] := hf
    exact bind_of_ok (fileStep_eq hrecord) _
  unfold snapshot
  rw [bind_of_ok hcurrent, bind_of_ok hwrite]
  rfl

end

/-! ## A restore takes back what applies wrote -/

/-- **Restore after apply.**  A snapshot records the thirteen properties, which are all that an apply ever writes;
whatever is called after it and whatever fails, a restore that returns has put every recorded property back and no other
has changed, and it returns unless a step of it fails. -/
theorem restore_returns_the_profile (print : Str → Str) {start : World} (hstart : ∀ path, start.snapshots path = none)
    (earlier : List Call) {digest : Bytes 32} {interfaceId : Str} {r : String × Snapshot} {taken : World}
    (hsnapshot : snapshot print digest interfaceId (earlier.foldl (perform print) start) = (.ok r, taken)) :
    ∃ profile, (earlier.foldl (perform print) start).profiles r.2.connectionUuid = some profile ∧
      (∀ property, r.2.properties[property]? =
        if property ∈ profileProperties then some (trim (print (profile property))) else none) ∧
      (∀ desired : NetworkDesiredState, desired.validate = .ok () → ∀ property ∈ buildNetworkManagerProperties desired,
        property ∈ r.2.properties) ∧
      ∀ later : List Call, (∀ call ∈ later, call.digest ≠ some digest) →
        ((later.foldl (perform print) taken).faults = [] →
          (restore print r.1 (later.foldl (perform print) taken)).1 = .ok ()) ∧
        ((restore print r.1 (later.foldl (perform print) taken)).1 = .ok () →
          ∃ profile', (restore print r.1 (later.foldl (perform print) taken)).2.profiles r.2.connectionUuid =
            some profile' ∧ (∀ property, profile' property = r.2.properties[property]?.getD (profile property)) ∧
            ((∀ property ∈ profileProperties, trim (print (profile property)) = profile property) →
              profile' = profile)) := by
  have hrecorded : Recorded (earlier.foldl (perform print) start) := recorded_of_run hstart earlier
  obtain ⟨hid, ⟨profile, hrecords⟩, hafter⟩ := wp_ok (wp_snapshot digest interfaceId) hsnapshot
  refine ⟨profile, hrecords.profile_eq, hrecords.properties, ?_, ?_⟩
  · intro desired _ property hproperty
    rw [Std.TreeMap.mem_iff_isSome_getElem?, hrecords.properties, if_pos (mem_build hproperty)]
    rfl
  · intro later hlater
    have htaken : Held (earlier.foldl (perform print) start) digest r.2 taken := by
      obtain ⟨faults, rfl⟩ := hafter
      refine ⟨⟨(Since.refl _).profiles, (Since.refl _).devices⟩, recorded_record hrecorded hrecords.full, ?_⟩
      exact Function.update_self _ _ _
    have hheld : Held _ digest r.2 (later.foldl (perform print) taken) := held_of_run hlater htaken
    generalize later.foldl (perform print) taken = now at hheld
    obtain ⟨profile₁, hprofile₁, hframe⟩ := hheld.since.profiles _ _ hrecords.profile_eq
    rw [hid]
    constructor
    · intro hf
      obtain ⟨device, hdevice⟩ := Option.isSome_iff_exists.1 (hheld.since.devices _ hrecords.interface.2)
      rw [← hrecords.interface.1] at hdevice
      exact restore_ok hf hheld.held hrecords.version hprofile₁ hdevice
    · intro hok
      have hspec : wp (restore print (hexString digest.val)) _ _ now := wp_restore hheld.held
      rcases wp_cases hspec with ⟨_, w', hrun, profile₂, hprofile₂, hstored⟩ | ⟨e, w', hrun, -⟩
      · rw [hrun]
        obtain rfl : profile₁ = profile₂ := Option.mem_unique hprofile₁ hprofile₂
        have hvalue : ∀ property, store profile₁ r.2.properties.toList property =
          r.2.properties[property]?.getD (profile property) := by
          intro property
          rw [store_toList, hrecords.properties]
          by_cases hp : property ∈ profileProperties
          · rw [if_pos hp]
            rfl
          · rw [if_neg hp]
            exact hframe property hp
        refine ⟨_, hstored, hvalue, fun hexact => ?_⟩
        funext property
        rw [hvalue, hrecords.properties]
        by_cases hp : property ∈ profileProperties
        · rw [if_pos hp]
          exact hexact property hp
        · rw [if_neg hp]
          rfl
      · rw [hrun] at hok
        cases hok

def sampleProfile (property : String) : Str :=
  if property = "ipv4.addresses" then "192.0.2.7/24".toList
  else if property = "ipv4.dns" then "192.0.2.1".toList
  else []

def sampleWorld : World where
  devices := fun interfaceId => if interfaceId = ['e'] then some ⟨"ethernet".toList, ['u']⟩ else none
  profiles := fun uuid => if uuid = ['u'] then some sampleProfile else none
  snapshots := fun _ => none
  faults := []

theorem sampleWorld_ready : Ready id sampleWorld ['e'] ['u'] ⟨"ethernet".toList, ['u']⟩ sampleProfile :=
  ⟨rfl, by decide, by decide, by decide, rfl⟩

/-- Restored at once, and after an apply, the profile has its address and its server again. -/
theorem restore_returns_the_profile_sample :
    ∃ s, snapshot id (Bytes.replicate 32 0) ['e'] sampleWorld =
        (.ok (hexString (Bytes.replicate 32 0).val, s), sampleWorld.record (Bytes.replicate 32 0) s) ∧
      (restore id (hexString (Bytes.replicate 32 0).val) (sampleWorld.record (Bytes.replicate 32 0) s)).1 = .ok () ∧
      ∀ desired, (restore id (hexString (Bytes.replicate 32 0).val)
          (perform id (sampleWorld.record (Bytes.replicate 32 0) s) (.apply ['e'] desired))).1 = .ok () →
        (restore id (hexString (Bytes.replicate 32 0).val)
          (perform id (sampleWorld.record (Bytes.replicate 32 0) s) (.apply ['e'] desired))).2.profiles ['u'] =
            some sampleProfile := by
  obtain ⟨s, hsnapshot, huuid⟩ := snapshot_ok rfl sampleWorld_ready (Bytes.replicate 32 0)
  obtain ⟨profile, hprofile, -, -, hlater⟩ := restore_returns_the_profile id (fun _ => rfl) [] hsnapshot
  refine ⟨s, hsnapshot, (hlater [] (by simp)).1 rfl, fun desired hok => ?_⟩
  rw [huuid] at hprofile hlater
  obtain rfl : sampleProfile = profile := Option.some.inj hprofile
  obtain ⟨profile', hprofile', -, hsame⟩ := (hlater [.apply ['e'] desired] (by simp [Call.digest])).2 hok
  exact hprofile'.trans (congrArg some (hsame (by decide)))

end NetworkManager
end NetTool
