import Mathlib.Data.List.Forall2
import NetTool.Hosts.Layout
import NetTool.Lib.Prog
/-!
# Hosts.Parse — the Agent's side of the managed section (`apps/agent/src/action_hosts.rs`)

The Agent reads the helper's file with a parser of its own and sends back the whole list of entries, so what it reads
must be what the helper wrote.  A line is taken apart at its first comment sign and at white space; addresses and
hostnames hold neither (`parseEntry_renderEntry`).  So every accepted replacement is read back entry by entry, and a
mutation keeps the entries it does not name, whatever fails on the way (`agent_reads_what_the_helper_wrote`).
-/
namespace NetTool
namespace Hosts

open Prog Str List

namespace Protocol

/-- The entry of the protocol: the address is a text. -/
structure ManagedHostsEntry where
  address : Str
  hostname : Str
  comment : Option Str
  enabled : Bool

end Protocol

/-! ## `parse_managed_hosts` -/

def entryInvalid : NetToolError := hostsError "managed hosts entry is invalid"

/-- Without the sign of a disabled entry. -/
def stripDisabled (line : Str) : Str × Bool :=
  match stripPrefix disabledPrefix line with
  | none => (line, true)
  | some value => (trimStart value, false)

def splitComment (line : Str) : Str × Option Str :=
  match splitOnce '#' line with
  | none => (line, none)
  | some (value, note) => (trimEnd value, some (trim note))

/-- One line of a section, trimmed and not empty. -/
def parseEntry (line : Str) : Result Protocol.ManagedHostsEntry :=
  let line := stripDisabled line
  let fields := splitComment line.1
  match splitWhitespace fields.1 with
  | [address, hostname] =>
    if (IpAddr.parse address).isNone then .error (hostsError "managed hosts address is invalid")
    else .ok ⟨address, hostname, fields.2, line.2⟩
  | _ => .error entryInvalid

def parseEntries : List Str → Result (List Protocol.ManagedHostsEntry)
  | [] => .ok []
  | line :: ls =>
    if (trim line).isEmpty then parseEntries ls
    else do
      let entry ← parseEntry (trim line)
      let entries ← parseEntries ls
      pure (entry :: entries)

def parseLines (ls : List Str) (profileId : Str) : Result (List Protocol.ManagedHostsEntry) :=
  let starts := ls.countP (fun line => trim line = beginMarker profileId)
  let ends := ls.countP (fun line => trim line = endMarker profileId)
  if starts = 0 ∧ ends = 0 then .ok []
  else if starts ≠ 1 ∨ ends ≠ 1 then .error (hostsError "managed hosts markers are missing or duplicated")
  else
    let start := ls.findIdx (fun line => trim line = beginMarker profileId)
    let finish := ls.findIdx (fun line => trim line = endMarker profileId)
    if finish ≤ start then .error (hostsError "managed hosts markers are out of order")
    else parseEntries ((ls.take finish).drop (start + 1))

def parseManagedHosts (content profileId : Str) : Result (List Protocol.ManagedHostsEntry) :=
  parseLines (lines content) profileId

/-! ## The parser looks at trimmed lines -/

theorem parseEntries_map_trim (ls : List Str) : parseEntries (ls.map trim) = parseEntries ls := by
  induction ls with
  | nil => rfl
  | cons line ls ih => rw [map_cons, parseEntries, parseEntries, trim_trim, ih]

theorem parseLines_map_trim (ls : List Str) (profileId : Str) :
    parseLines (ls.map trim) profileId = parseLines ls profileId := by
  unfold parseLines
  simp only [countP_map, findIdx_map, Function.comp_def, trim_trim, ← map_take, ← map_drop, parseEntries_map_trim]

theorem found_once {p : Str → Bool} {front back : List Str} {line : Str} (hfront : ∀ l ∈ front, p l = false)
    (hline : p line = true) (hback : ∀ l ∈ back, p l = false) :
    (front ++ line :: back).countP p = 1 ∧ (front ++ line :: back).findIdx p = front.length := by
  constructor
  · rw [countP_append, countP_cons_of_pos hline, countP_eq_zero.2 (by simpa using hfront),
      countP_eq_zero.2 (by simpa using hback)]
  · rw [findIdx_append, findIdx_eq_length.2 hfront, findIdx_cons, hline]
    simp

theorem parseLines_located {profileId : Str} {front body back : List Str} {first last : Str}
    (hfirst : trim first = beginMarker profileId) (hlast : trim last = endMarker profileId)
    (hother : ∀ line ∈ front ++ body ++ back, Unmarked profileId line) :
    parseLines (front ++ first :: (body ++ last :: back)) profileId = parseEntries body := by
  have hne := beginMarker_ne_endMarker profileId profileId
  simp only [forall_mem_append] at hother
  obtain ⟨⟨hfront, hmiddle⟩, hback⟩ := hother
  obtain ⟨hstarts, hstart⟩ :
    (front ++ first :: (body ++ last :: back)).countP (fun line => trim line = beginMarker profileId) = 1 ∧
      (front ++ first :: (body ++ last :: back)).findIdx (fun line => trim line = beginMarker profileId) =
        front.length := by
    refine found_once (fun line hline => decide_eq_false (hfront line hline).1) (decide_eq_true hfirst) ?_
    simp only [forall_mem_append, forall_mem_cons, decide_eq_false_iff_not, hlast]
    exact ⟨fun line hline => (hmiddle line hline).1, Ne.symm hne, fun line hline => (hback line hline).1⟩
  obtain ⟨hends, hfinish⟩ :
    (front ++ first :: (body ++ last :: back)).countP (fun line => trim line = endMarker profileId) = 1 ∧
      (front ++ first :: (body ++ last :: back)).findIdx (fun line => trim line = endMarker profileId) =
        (front ++ first :: body).length := by
    rw [← cons_append, ← append_assoc]
    refine found_once ?_ (decide_eq_true hlast) (fun line hline => decide_eq_false (hback line hline).2)
    simp only [forall_mem_append, forall_mem_cons, decide_eq_false_iff_not, hfirst]
    exact ⟨fun line hline => (hfront line hline).2, hne, fun line hline => (hmiddle line hline).2⟩
  have hbody : ((front ++ first :: (body ++ last :: back)).take (front ++ first :: body).length).drop
    (front.length + 1) = body := by
    rw [← cons_append, ← append_assoc, take_left, append_cons]
    exact drop_left' (by simp)
  unfold parseLines
  simp only [hstarts, hends, hstart, hfinish, hbody]
  rw [if_neg (by omega), if_neg (by omega), if_neg (by simp)]

/-! ## One entry -/

def view (entry : ManagedHostsEntry) : Protocol.ManagedHostsEntry :=
  ⟨entry.address.display.toList, entry.hostname, entry.comment.map trim, entry.enabled⟩

def entryFields (entry : ManagedHostsEntry) : Str := entry.address.display.toList ++ ' ' :: entry.hostname

def entryComment (entry : ManagedHostsEntry) : Str :=
  match entry.comment with
  | none => []
  | some comment => " # ".toList ++ comment

theorem renderEntry_eq (entry : ManagedHostsEntry) :
    renderEntry entry = (if entry.enabled then [] else disabledPrefix) ++
      (entryFields entry ++ entryComment entry) := by
  unfold renderEntry entryFields entryComment
  cases entry.comment with
  | none => simp only [append_assoc]
  | some comment => simp only [append_assoc]

section
variable {entry : ManagedHostsEntry} (h : Accepted entry)
include h

/-- The fields start and end with characters that are not white space. -/
theorem entryFields_ends : (∃ c rest, entryFields entry = c :: rest ∧ Solid c) ∧
    ∃ front c, entryFields entry = front ++ [c] ∧ Solid c := by
  have hne := h.hostname_ne_nil
  constructor
  · rcases hcase : entry.address.display.toList with _ | ⟨c, rest⟩
    · exact absurd hcase (IpAddr.display_ne_nil _)
    · refine ⟨c, rest ++ ' ' :: entry.hostname, by rw [entryFields, hcase]; rfl, ?_⟩
      exact display_solid entry.address c (by rw [hcase]; exact mem_cons_self)
  · refine ⟨entry.address.display.toList ++ ' ' :: entry.hostname.dropLast, entry.hostname.getLast hne, ?_, ?_⟩
    · rw [append_assoc, cons_append, dropLast_append_getLast hne, entryFields]
    · exact isHostnameChar_solid (h.hostname _ (getLast_mem hne))

theorem hash_not_mem_entryFields : '#' ∉ entryFields entry := by
  unfold entryFields
  rw [mem_append, mem_cons]
  rintro (hmem | heq | hmem)
  · exact (display_solid entry.address _ hmem).2.2.2 rfl
  · exact absurd heq (by decide)
  · exact (isHostnameChar_solid (h.hostname _ hmem)).2.2.2 rfl

theorem splitWhitespace_entryFields :
    splitWhitespace (entryFields entry) = [entry.address.display.toList, entry.hostname] := by
  have haddress : ∀ c ∈ entry.address.display.toList, isWhitespace c = false :=
    fun c hc => (display_solid entry.address c hc).1
  have hhost : ∀ c ∈ entry.hostname, isWhitespace c = false := fun c hc => (isHostnameChar_solid (h.hostname c hc)).1
  unfold splitWhitespace entryFields
  rw [splitOnP_append_cons_of_forall_mem haddress ' ' (by decide), splitOnP_eq_singleton hhost]
  have hdisplay : ¬ entry.address.display.toList.isEmpty = true := by
    rw [List.isEmpty_iff]
    exact IpAddr.display_ne_nil entry.address
  have hhostname : ¬ entry.hostname.isEmpty = true := by simpa using h.hostname_ne_nil
  rw [filter_cons_of_pos (by simpa using hdisplay), filter_cons_of_pos (by simpa using hhostname), filter_nil]

/-- What is left of the fields and the comment when the line is trimmed. -/
theorem trimEnd_entry : ∃ tail, trimEnd (entryFields entry ++ entryComment entry) = entryFields entry ++ tail ∧
    splitComment (entryFields entry ++ tail) = (entryFields entry, entry.comment.map trim) := by
  obtain ⟨front, c, hfields, hc⟩ := (entryFields_ends h).2
  have hhash := hash_not_mem_entryFields h
  have hkeep : trimEnd (entryFields entry) = entryFields entry := by
    rw [hfields, trimEnd_append_cons hc.1]
    rfl
  cases hcomment : entry.comment with
  | none =>
    refine ⟨[], ?_, ?_⟩
    · rw [entryComment, hcomment, append_nil, hkeep]
    · rw [append_nil, splitComment, splitOnce_of_not_mem hhash]
      rfl
  | some comment =>
    have hsign : " # ".toList = [' ', '#', ' '] := by decide
    have htext : entryFields entry ++ entryComment entry = (entryFields entry ++ [' ']) ++ '#' :: (' ' :: comment) := by
      rw [entryComment, hcomment]
      simp [hsign]
    have hsplit : splitOnce '#' ((entryFields entry ++ [' ']) ++ '#' :: trimEnd (' ' :: comment)) =
        some (entryFields entry ++ [' '], trimEnd (' ' :: comment)) :=
      splitOnce_append (by simp [hhash]) _
    refine ⟨' ' :: '#' :: trimEnd (' ' :: comment), ?_, ?_⟩
    · rw [htext, trimEnd_append_cons (by decide)]
      simp
    · rw [splitComment, show entryFields entry ++ ' ' :: '#' :: trimEnd (' ' :: comment) =
        (entryFields entry ++ [' ']) ++ '#' :: trimEnd (' ' :: comment) by simp, hsplit]
      dsimp only
      rw [trimEnd_append_of_all (all_eq_true.1 (by decide)), hkeep, trim_trimEnd]
      exact congrArg (fun text => (_, some text))
        (trim_append_left (w := [' ']) (all_eq_true.1 (by decide)) comment)

/-- **An entry is read back from its line.** -/
theorem parseEntry_renderEntry : trim (renderEntry entry) ≠ [] ∧
    parseEntry (trim (renderEntry entry)) = .ok (view entry) := by
  obtain ⟨tail, htrim, hsplit⟩ := trimEnd_entry h
  obtain ⟨c, rest, hhead, hc⟩ := (entryFields_ends h).1
  have hline : trim (renderEntry entry) = (if entry.enabled then [] else disabledPrefix) ++
    (entryFields entry ++ tail) := by
    rw [renderEntry_eq]
    cases entry.enabled with
    | true =>
      rw [if_pos rfl, nil_append, nil_append, ← htrim, hhead, cons_append]
      unfold trim
      rw [trimStart_cons hc.1]
    | false =>
      -- the sign of a disabled entry ends in a space, the fields do not start with one
      have hsplit : disabledPrefix = '#' :: disabledPrefix.tail := by decide
      rw [if_neg (by decide), ← htrim, hhead, hsplit, cons_append, cons_append, trim_cons (by decide), cons_append,
        trimEnd_append_cons hc.1]
      have hfirst := trimEnd_append_cons hc.1 [] (rest ++ entryComment entry)
      rw [nil_append, nil_append] at hfirst
      rw [hfirst]
  have hstrip : stripDisabled (trim (renderEntry entry)) = (entryFields entry ++ tail, entry.enabled) := by
    rw [hline]
    unfold stripDisabled
    cases entry.enabled with
    | true =>
      have hsplit : disabledPrefix = '#' :: disabledPrefix.tail := by decide
      rw [if_pos rfl, nil_append, hhead, cons_append, hsplit, stripPrefix_cons_of_ne (Ne.symm hc.2.2.2)]
    | false =>
      rw [if_neg (by decide), stripPrefix_append]
      simp only
      rw [hhead, cons_append, trimStart_cons hc.1]
  constructor
  · rw [hline, hhead]
    simp
  · unfold parseEntry
    rw [hstrip]
    simp only [hsplit, splitWhitespace_entryFields h, IpAddr.parse_display]
    rfl

end

theorem parseEntries_renderEntry {entries : List ManagedHostsEntry} (h : ∀ entry ∈ entries, Accepted entry) :
    parseEntries (entries.map renderEntry) = .ok (entries.map view) := by
  induction entries with
  | nil => rfl
  | cons entry entries ih =>
    obtain ⟨hne, hparse⟩ := parseEntry_renderEntry (h entry mem_cons_self)
    have hempty : ¬ (trim (renderEntry entry)).isEmpty = true := by simpa using hne
    rw [map_cons, parseEntries, if_neg hempty, hparse, ih fun e he => h e (mem_cons_of_mem _ he)]
    rfl

/-- **What the helper wrote is what the Agent reads.** -/
theorem parseManagedHosts_output {existing profileId output : Str} {entries : List ManagedHostsEntry}
    (h : replaceManagedSection existing profileId entries = .ok output) :
    parseManagedHosts output profileId = .ok (entries.map view) := by
  obtain ⟨hvalid, -⟩ := replaceManagedSection_ok.1 h
  obtain ⟨front, back, hother, hlines⟩ := output_lines h
  have hne := hvalid.profile_ne_nil
  have hprofile := hvalid.profile
  have hsection : (sectionLines profileId entries).map trim =
      beginMarker profileId :: ((entries.map renderEntry).map trim ++ [endMarker profileId]) := by
    unfold sectionLines
    rw [map_cons, map_append, map_singleton, trim_beginMarker hne hprofile, trim_endMarker hne hprofile]
  have hbody : ∀ line ∈ (entries.map renderEntry).map trim, Unmarked profileId line := by
    simp only [forall_mem_map]
    exact fun entry _ => (renderEntry_unmarked entry profileId).trim
  unfold parseManagedHosts
  rw [← parseLines_map_trim, hlines, hsection, append_assoc, cons_append, append_assoc, singleton_append,
    parseLines_located (trim_beginMarker hne hprofile) (trim_endMarker hne hprofile), parseEntries_map_trim,
    parseEntries_renderEntry hvalid.entries]
  rw [forall_mem_append] at hother
  rw [forall_mem_append, forall_mem_append]
  exact ⟨⟨hother.1, hbody⟩, hother.2⟩

/-! ## The helper's operation -/

/-- `validate_hosts` of the protocol. -/
def validateHostsEntries : List Protocol.ManagedHostsEntry → Except String Unit
  | [] => .ok ()
  | entry :: entries =>
    if (IpAddr.parse entry.address).isNone then .error "hosts entry address is invalid"
    else if entry.hostname.isEmpty || 253 < entry.hostname.length || !entry.hostname.all isHostnameChar then
      .error "hosts entry hostname is invalid"
    else if entry.comment.any (fun comment => comment.any (fun c => c == '\r' || c == '\n')) then
      .error "hosts entry comment contains a newline"
    else validateHostsEntries entries

def validateHosts (profileId : Str) (entries : List Protocol.ManagedHostsEntry) : Except String Unit :=
  if profileId.isEmpty || !profileId.all isProfileChar then .error "hosts profile ID contains unsupported characters"
  else if 10000 < entries.length then .error "managed hosts entry count exceeds limit"
  else validateHostsEntries entries

def parseAddress (entry : Protocol.ManagedHostsEntry) : Result ManagedHostsEntry :=
  match IpAddr.parse entry.address with
  | none => .error (hostsError "hosts address is invalid")
  | some address => .ok ⟨address, entry.hostname, entry.comment, entry.enabled⟩

def parseAddresses : List Protocol.ManagedHostsEntry → Result (List ManagedHostsEntry)
  | [] => .ok []
  | entry :: entries => do
    let first ← parseAddress entry
    let rest ← parseAddresses entries
    pure (first :: rest)

/-- What `HostsAtomicReplace` makes of the file. -/
def hostsAtomicReplace (content profileId : Str) (entries : List Protocol.ManagedHostsEntry) :
    Result Str := do
  let parsed ← parseAddresses entries
  replaceManagedSection content profileId parsed

/-! ## `execute_mutation` -/

inductive Mutation
  | add (address hostname : Str) (comment : Option Str)
  | remove (hostname : Str)
  | setEnabled (hostname : Str) (enabled : Bool)

def Mutation.hostname : Mutation → Str
  | add _ hostname _ => hostname
  | remove hostname => hostname
  | setEnabled hostname _ => hostname

/-- The entries to send, or `none` when nothing is to be sent. -/
def Mutation.replacement (current : List Protocol.ManagedHostsEntry) :
    Mutation → Result (Option (List Protocol.ManagedHostsEntry))
  | add address hostname comment =>
    if current.any (fun entry => entry.hostname = hostname)
      then .error (hostsError "hosts hostname already exists in profile")
    else .ok (some (current ++ [⟨address, hostname, comment, true⟩]))
  | remove hostname =>
    let entries := current.filter (fun entry => entry.hostname ≠ hostname)
    if entries.length = current.length then .ok none else .ok (some entries)
  | setEnabled hostname enabled =>
    if current.any (fun entry => entry.hostname = hostname) then
      .ok (some (current.map (fun entry => if entry.hostname = hostname
        then { entry with enabled := enabled } else entry)))
    else .error (hostsError "hosts hostname does not exist in profile")

/-- What goes wrong between the Agent and the helper's file: reading it, before it is rewritten, and after. -/
structure HelperLink where
  read : Option NetToolError
  before : Option NetToolError
  after : Option NetToolError

inductive MutationResponse
  | unchanged (entryCount : Nat) (hostname : Str)
  | dryRun
  | updated (entryCount : Nat)

section
variable (link : HelperLink) (dryRun : Bool) (profileId : Str)

def orFail : Option NetToolError → Prog Str NetToolError Unit
  | none => pure ()
  | some error => fail error

def readManagedHosts : Prog Str NetToolError (List Protocol.ManagedHostsEntry) := do
  orFail link.read
  let content ← get
  ofExcept (parseManagedHosts content profileId)

/-- The call with a `HostsAtomicReplace`: checked, sent, and carried out unless it is a dry run. -/
def helperReplace (entries : List Protocol.ManagedHostsEntry) : Prog Str NetToolError MutationResponse := do
  ofExcept ((validateHosts profileId entries).mapError hostsError)
  orFail link.before
  if dryRun then pure .dryRun
  else
    let content ← get
    let updated ← ofExcept (hostsAtomicReplace content profileId entries)
    modify (fun _ => updated)
    orFail link.after
    pure (.updated entries.length)

def executeMutation (mutation : Mutation) : Prog Str NetToolError MutationResponse := do
  let current ← readManagedHosts link profileId
  let replacement ← ofExcept (mutation.replacement current)
  match replacement with
  | none => pure (.unchanged current.length mutation.hostname)
  | some entries => helperReplace link dryRun profileId entries

end

/-! ## Agreement -/

/-- The Agent's entry is the helper's: same hostname, flag and address, and the comment without white space around it.
-/
def Represents (entry : ManagedHostsEntry) (read : Protocol.ManagedHostsEntry) : Prop :=
  read.hostname = entry.hostname ∧ read.enabled = entry.enabled ∧ IpAddr.parse read.address = some entry.address ∧
    read.comment = entry.comment.map trim

def SameEntry (a b : Protocol.ManagedHostsEntry) : Prop :=
  a.hostname = b.hostname ∧ a.enabled = b.enabled ∧ (∃ address, IpAddr.parse a.address = some address ∧
    IpAddr.parse b.address = some address) ∧ a.comment.map trim = b.comment.map trim

variable {entry : Protocol.ManagedHostsEntry} {entries : List Protocol.ManagedHostsEntry} {mutation : Mutation}

theorem parseAddress_ok {parsed : ManagedHostsEntry} (h : parseAddress entry = .ok parsed) :
    SameEntry entry (view parsed) := by
  unfold parseAddress at h
  split at h
  · cases h
  · rename_i address haddress
    cases h
    refine ⟨rfl, rfl, ⟨address, haddress, IpAddr.parse_display address⟩, ?_⟩
    simp [view, Function.comp_def, trim_trim]

theorem parseAddresses_ok {parsed : List ManagedHostsEntry} (h : parseAddresses entries = .ok parsed) :
    List.Forall₂ SameEntry entries (parsed.map view) := by
  induction entries generalizing parsed with
  | nil =>
    cases h
    exact .nil
  | cons entry entries ih =>
    obtain ⟨first, hfirst, h⟩ := (Check.bind_ok _ _ _).1 h
    obtain ⟨rest, hrest, h⟩ := (Check.bind_ok _ _ _).1 h
    cases h
    exact .cons (parseAddress_ok hfirst) (ih hrest)

theorem parseEntries_address {ls : List Str} (h : parseEntries ls = .ok entries) :
    ∀ entry ∈ entries, SameEntry entry entry := by
  induction ls generalizing entries with
  | nil =>
    cases h
    simp
  | cons line ls ih =>
    unfold parseEntries at h
    split at h
    · exact ih h
    · obtain ⟨first, hfirst, h⟩ := (Check.bind_ok _ _ _).1 h
      obtain ⟨rest, hrest, h⟩ := (Check.bind_ok _ _ _).1 h
      cases h
      obtain ⟨address, haddress⟩ : ∃ address, IpAddr.parse first.address = some address := by
        unfold parseEntry at hfirst
        dsimp only at hfirst
        split at hfirst
        · obtain ⟨hsome, hfirst⟩ := (Check.guard_ok _ _ _ _).1 hfirst
          cases hfirst
          exact Option.ne_none_iff_exists'.1 (by simpa using hsome)
        · cases hfirst
      exact forall_mem_cons.2 ⟨⟨rfl, rfl, ⟨address, haddress, haddress⟩, rfl⟩, ih hrest⟩

theorem parseManagedHosts_address {content profileId : Str} (h : parseManagedHosts content profileId = .ok entries) :
    List.Forall₂ SameEntry entries entries := by
  unfold parseManagedHosts parseLines at h
  dsimp only at h
  split at h
  · cases h
    exact .nil
  · split at h
    · cases h
    · split at h
      · cases h
      · exact forall₂_same.2 (parseEntries_address h)

theorem filter_setEnabled (hostname : Str) (enabled : Bool) (current : List Protocol.ManagedHostsEntry) :
    (current.map (fun entry => if entry.hostname = hostname then { entry with enabled := enabled } else entry)).filter
        (fun entry => entry.hostname ≠ hostname) =
      current.filter (fun entry => entry.hostname ≠ hostname) := by
  induction current with
  | nil => rfl
  | cons entry current ih =>
    rw [map_cons]
    by_cases hname : entry.hostname = hostname
    · rw [filter_cons_of_neg (by simp [hname]), filter_cons_of_neg (by simp [hname]), ih]
    · rw [if_neg hname, filter_cons_of_pos (by simp [hname]), filter_cons_of_pos (by simp [hname]), ih]

theorem replacement_others {current entries : List Protocol.ManagedHostsEntry}
    (h : mutation.replacement current = .ok (some entries)) :
    entries.filter (fun entry => entry.hostname ≠ mutation.hostname) =
      current.filter (fun entry => entry.hostname ≠ mutation.hostname) := by
  cases mutation with
  | add address hostname comment =>
    obtain ⟨-, h⟩ := (Check.guard_ok _ _ _ _).1 h
    cases h
    simp [Mutation.hostname]
  | remove hostname =>
    unfold Mutation.replacement at h
    dsimp only at h
    split at h
    · cases h
    · cases h
      rw [filter_filter]
      apply filter_congr
      intro entry _
      by_cases hname : entry.hostname = hostname <;> simp [Mutation.hostname, hname]
  | setEnabled hostname enabled =>
    unfold Mutation.replacement at h
    dsimp only at h
    split at h
    · cases h
      exact filter_setEnabled hostname enabled current
    · cases h

section
variable {link : HelperLink} {dryRun : Bool} {profileId content : Str}

variable {P : Str → Prop}

theorem wp_orFail {α : Type} {fault : Option NetToolError} {m : Prog Str NetToolError α} {Q : α → Str → Prop}
    (h : P content) (hm : wp m Q (fun _ => P) content) : wp (orFail fault >>= fun _ => m) Q (fun _ => P) content := by
  cases fault with
  | none => exact hm
  | some error => exact h

/-- A mutation leaves the file alone or rewrites it with the entries it read, mutated. -/
theorem wp_executeMutation {mutation : Mutation} (hsame : P content)
    (hnew : ∀ current entries output, parseManagedHosts content profileId = .ok current → mutation.replacement current =
      .ok (some entries) → hostsAtomicReplace content profileId entries = .ok output → P output) :
    wp (executeMutation link dryRun profileId mutation) (fun _ => P) (fun _ => P) content := by
  unfold executeMutation readManagedHosts
  rw [wp_bind]
  refine wp_orFail hsame ?_
  rw [wp_bind, wp_get, wp_ofExcept]
  refine ⟨fun current hcurrent => ?_, fun _ _ => hsame⟩
  refine wp_check (fun replacement hreplacement => ?_) (fun _ _ => hsame)
  cases replacement with
  | none => exact hsame
  | some entries =>
    refine wp_check (fun _ _ => wp_orFail hsame ?_) (fun _ _ => hsame)
    rw [wp_ite]
    refine ⟨fun _ => hsame, fun _ => ?_⟩
    rw [wp_bind, wp_get, wp_bind, wp_ofExcept]
    refine ⟨fun updated hupdated => ?_, fun _ _ => hsame⟩
    have hwritten := hnew current entries updated hcurrent hreplacement hupdated
    exact wp_orFail hwritten hwritten

end

/-- The entries a mutation does not name are read from the file in the same order, meaning the same. -/
def OthersKept (profileId : Str) (mutation : Mutation) (current : List Protocol.ManagedHostsEntry) (content : Str) :
    Prop :=
  ∃ later, parseManagedHosts content profileId = .ok later ∧
    List.Forall₂ SameEntry (current.filter (fun entry => entry.hostname ≠ mutation.hostname))
      (later.filter (fun entry => entry.hostname ≠ mutation.hostname))

theorem othersKept_of_same {profileId content : Str} {current entries later : List Protocol.ManagedHostsEntry}
    (hothers : entries.filter (fun entry => entry.hostname ≠ mutation.hostname) =
      current.filter (fun entry => entry.hostname ≠ mutation.hostname))
    (hlater : parseManagedHosts content profileId = .ok later) (hsame : List.Forall₂ SameEntry entries later) :
    OthersKept profileId mutation current content := by
  refine ⟨later, hlater, ?_⟩
  rw [← hothers]
  refine rel_filter (fun a b hab => ?_) hsame
  simp [hab.1]

/-- **Agent and helper agree on the format.**  The Agent reads every accepted replacement entry by entry; and whatever a
mutation meets on its way, the entries it does not name are still there. -/
theorem agent_reads_what_the_helper_wrote :
    (∀ existing profileId entries output, replaceManagedSection existing profileId entries = .ok output →
      ∃ read, parseManagedHosts output profileId = .ok read ∧ List.Forall₂ Represents entries read) ∧
    ∀ link dryRun profileId mutation content current, parseManagedHosts content profileId = .ok current →
      OthersKept profileId mutation current (executeMutation link dryRun profileId mutation content).2 := by
  constructor
  · intro existing profileId entries output h
    refine ⟨_, parseManagedHosts_output h, ?_⟩
    rw [forall₂_map_right_iff]
    exact forall₂_same.2 fun entry _ => ⟨rfl, rfl, IpAddr.parse_display entry.address, rfl⟩
  · intro link dryRun profileId mutation content current hcurrent
    have hkept : Leaves (OthersKept profileId mutation current) (executeMutation link dryRun profileId mutation)
        content := by
      refine wp_executeMutation (othersKept_of_same rfl hcurrent (parseManagedHosts_address hcurrent)) ?_
      intro current' entries output hcurrent' hreplacement houtput
      obtain rfl : current = current' := Except.ok.inj (hcurrent.symm.trans hcurrent')
      obtain ⟨parsed, hparsed, houtput⟩ := (Check.bind_ok _ _ _).1 houtput
      exact othersKept_of_same (replacement_others hreplacement) (parseManagedHosts_output houtput)
        (parseAddresses_ok hparsed)
    exact wp_state hkept

/-- Two entries in an empty file; then the first is disabled. -/
theorem agent_reads_what_the_helper_wrote_sample :
    ∃ output, replaceManagedSection [] sampleProfile [sampleEntry,
      { sampleEntry with hostname := ['b'] }] = .ok output ∧
      (∃ read, parseManagedHosts output sampleProfile = .ok read ∧
        List.Forall₂ Represents [sampleEntry, { sampleEntry with hostname := ['b'] }] read) ∧
      OthersKept sampleProfile (.setEnabled sampleEntry.hostname false)
        [view sampleEntry, view { sampleEntry with hostname := ['b'] }]
        (executeMutation ⟨none, none, none⟩ false sampleProfile (.setEnabled sampleEntry.hostname false) output).2 := by
  have hok : replaceManagedSection [] sampleProfile [sampleEntry, { sampleEntry with hostname := ['b'] }] =
      .ok (renderSection sampleProfile [sampleEntry, { sampleEntry with hostname := ['b'] }] .lf) := by decide
  exact ⟨_, hok, agent_reads_what_the_helper_wrote.1 _ _ _ _ hok,
    agent_reads_what_the_helper_wrote.2 _ _ _ _ _ _ (parseManagedHosts_output hok)⟩

end Hosts
end NetTool
