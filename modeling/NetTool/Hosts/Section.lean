import NetTool.Address
import NetTool.Error
import NetTool.Lib.Check
/-!
# Hosts.Section — the managed section of a hosts file (`crates/helper-core/src/hosts.rs`)

A profile owns the lines between its two markers.  `replace_managed_section` appends the section when there is none, and
otherwise joins all lines of the file again around the new one (`replaceManagedSection_ok`).  Joining them uses one
newline for every line, so a file that has a line feed on its own beside a carriage return and a line feed loses that:
the text outside the section is kept exactly when every line there already ends in the newline of the file
(`replaceManagedSection_preserves_iff`).
-/
namespace NetTool
namespace Hosts

open Str List

structure ManagedHostsEntry where
  address : IpAddr
  hostname : Str
  comment : Option Str
  enabled : Bool

def hostsError (message : String) : NetToolError := .new .invalidArgument message false

def isProfileChar (c : Char) : Bool := c.isAlphanum || c == '-' || c == '_'

def validateProfileId (profileId : Str) : Result Unit :=
  if profileId.isEmpty || !profileId.all isProfileChar
    then .error (hostsError "hosts profile ID contains unsupported characters")
  else .ok ()

def isHostnameChar (c : Char) : Bool := c.isAlphanum || c == '-' || c == '.' || c == '_'

/-- A hostname is ASCII where it is accepted, so its length in characters is its length in bytes. -/
def validateEntry (entry : ManagedHostsEntry) : Result Unit :=
  if entry.hostname.isEmpty || 253 < entry.hostname.length || !entry.hostname.all isHostnameChar then
    .error (hostsError "hosts entry hostname is invalid")
  else if entry.comment.any (fun comment => comment.any (fun c => c == '\r' || c == '\n')) then
    .error (hostsError "hosts entry comment contains a newline")
  else .ok ()

def validateEntries : List ManagedHostsEntry → Result Unit
  | [] => .ok ()
  | entry :: entries => do
    validateEntry entry
    validateEntries entries

def beginPrefix : Str := "# BEGIN NETTOOL PROFILE ".toList
def endPrefix : Str := "# END NETTOOL PROFILE ".toList
def disabledPrefix : Str := "# NETTOOL DISABLED ".toList

def beginMarker (profileId : Str) : Str := beginPrefix ++ profileId
def endMarker (profileId : Str) : Str := endPrefix ++ profileId

def renderEntry (entry : ManagedHostsEntry) : Str :=
  (if entry.enabled then [] else disabledPrefix) ++ entry.address.display.toList ++ ' ' :: entry.hostname ++
    (match entry.comment with
    | none => []
    | some comment => " # ".toList ++ comment)

def sectionLines (profileId : Str) (entries : List ManagedHostsEntry) : List Str :=
  beginMarker profileId :: (entries.map renderEntry ++ [endMarker profileId])

def renderSection (profileId : Str) (entries : List ManagedHostsEntry) (newline : Newline) : Str :=
  newline.text.intercalate (sectionLines profileId entries) ++ newline.text

def newlineOf (existing : Str) : Newline := if contains ['\r', '\n'] existing then .crlf else .lf

def positionsFrom (k : Nat) (marker : Str) (ls : List Str) : List Nat :=
  (ls.zipIdx k).filterMap (fun p => if trim p.1 = marker then some p.2 else none)

def positions (marker : Str) (ls : List Str) : List Nat := positionsFrom 0 marker ls

def appendSection (existing : Str) (newline : Newline) (managed : Str) : Str :=
  let result := existing
  let result := if !result.isEmpty && !(result.getLast? == some '\n' || result.getLast? == some '\r')
    then result ++ newline.text else result
  let result := if !result.isEmpty && !(newline.text ++ newline.text).isSuffixOf result
    then result ++ newline.text else result
  result ++ managed

/-- `trim_end_matches(['\r', '\n'])`. -/
def trimNewlines (s : Str) : Str := s.rdropWhile (fun c => c == '\r' || c == '\n')

/-- All lines again, the section's own replaced. -/
def placeSection (existing : Str) (newline : Newline) (managed : Str) (start finish : Nat) : Str :=
  newline.text.intercalate
      ((lines existing).take start ++ split newline.text (trimNewlines managed) ++
        (lines existing).drop (finish + 1)) ++
    (if existing.getLast? = some '\n' then newline.text else [])

def opensSection (line : Str) : Bool := beginPrefix.isPrefixOf (trim line)

def replaceManagedSection (existing profileId : Str) (entries : List ManagedHostsEntry) : Result Str := do
  validateProfileId profileId
  validateEntries entries
  let newline := newlineOf existing
  let beginPositions := positions (beginMarker profileId) (lines existing)
  let endPositions := positions (endMarker profileId) (lines existing)
  if 1 < beginPositions.length ∨ 1 < endPositions.length ∨ beginPositions.length ≠ endPositions.length then
    .error (hostsError "managed hosts markers are missing or duplicated")
  else
    let managed := renderSection profileId entries newline
    if beginPositions.isEmpty then .ok (appendSection existing newline managed)
    else
      let start := beginPositions.headD 0
      let finish := endPositions.headD 0
      if finish < start ∨ (((lines existing).take finish).drop (start + 1)).any opensSection then
        .error (hostsError "managed hosts markers are nested or out of order")
      else .ok (placeSection existing newline managed start finish)

/-! ## What is accepted -/

theorem validateProfileId_ok (profileId : Str) :
    validateProfileId profileId = .ok () ↔ profileId ≠ [] ∧ ∀ c ∈ profileId, isProfileChar c = true := by
  unfold validateProfileId
  simp

structure Accepted (entry : ManagedHostsEntry) : Prop where
  hostname_ne_nil : entry.hostname ≠ []
  hostname_length : entry.hostname.length ≤ 253
  hostname : ∀ c ∈ entry.hostname, isHostnameChar c = true
  comment : ∀ comment ∈ entry.comment, ∀ c ∈ comment, c ≠ '\r' ∧ c ≠ '\n'

variable (entry : ManagedHostsEntry)

theorem validateEntry_ok : validateEntry entry = .ok () ↔ Accepted entry := by
  unfold validateEntry
  rw [Check.guard_ok, Check.guard_ok]
  simp only [Bool.or_eq_true, List.isEmpty_iff, decide_eq_true_eq, Bool.not_eq_true', List.all_eq_false, not_or,
    not_exists, not_and, Bool.not_eq_true, Bool.not_eq_false, Option.any_eq_true, any_eq_true, beq_iff_eq, and_true]
  constructor
  · rintro ⟨⟨⟨hne, hlen⟩, hchars⟩, hcomment⟩
    exact ⟨hne, by omega, hchars, fun comment hc c hmem => hcomment comment hc c hmem⟩
  · rintro ⟨hne, hlen, hchars, hcomment⟩
    exact ⟨⟨⟨hne, by omega⟩, hchars⟩, hcomment⟩

theorem validateEntries_ok (entries : List ManagedHostsEntry) :
    validateEntries entries = .ok () ↔ ∀ entry ∈ entries, Accepted entry := by
  induction entries with
  | nil => simp [validateEntries]
  | cons entry entries ih =>
    rw [validateEntries, Check.bind_ok, forall_mem_cons, ← ih, ← validateEntry_ok]
    exact ⟨fun ⟨_, h1, h2⟩ => ⟨h1, h2⟩, fun ⟨h1, h2⟩ => ⟨(), h1, h2⟩⟩

/-! ## Characters of a section -/

/-- Neither white space, a newline nor the sign of a comment. -/
def Solid (c : Char) : Prop := isWhitespace c = false ∧ c ≠ '\n' ∧ c ≠ '\r' ∧ c ≠ '#'

theorem solid_of_range {c : Char} (h1 : 45 ≤ c.toNat) (h2 : c.toNat ≤ 122) : Solid c := by
  have hne : ∀ d : Char, d.toNat < 45 → c ≠ d := fun d hd e => by subst e; omega
  refine ⟨?_, hne _ (by decide), hne _ (by decide), hne _ (by decide)⟩
  unfold isWhitespace
  simp only [Bool.or_eq_false_iff, Bool.and_eq_false_iff, decide_eq_false_iff_not, beq_eq_false_iff_ne, ne_eq]
  omega

theorem isAlphanum_range {c : Char} (h : c.isAlphanum = true) : 48 ≤ c.toNat ∧ c.toNat ≤ 122 := by
  delta Char.isAlphanum Char.isAlpha Char.isUpper Char.isLower Char.isDigit at h
  simp only [Bool.or_eq_true, Bool.and_eq_true, decide_eq_true_eq, ge_iff_le, UInt32.le_iff_toNat_le] at h
  have hval : c.toNat = c.val.toNat := rfl
  rcases h with (⟨h1, h2⟩ | ⟨h1, h2⟩) | ⟨h1, h2⟩
  · have hA : 'A'.val.toNat = 65 := rfl
    have hZ : 'Z'.val.toNat = 90 := rfl
    omega
  · have ha : 'a'.val.toNat = 97 := rfl
    have hz : 'z'.val.toNat = 122 := rfl
    omega
  · have h0 : '0'.val.toNat = 48 := rfl
    have h9 : '9'.val.toNat = 57 := rfl
    omega

theorem isHostnameChar_solid {c : Char} (h : isHostnameChar c = true) : Solid c := by
  simp only [isHostnameChar, Bool.or_eq_true, beq_iff_eq] at h
  rcases h with ((h | rfl) | rfl) | rfl
  · obtain ⟨h1, h2⟩ := isAlphanum_range h
    exact solid_of_range (by omega) h2
  · exact solid_of_range (by decide) (by decide)
  · exact solid_of_range (by decide) (by decide)
  · exact solid_of_range (by decide) (by decide)

theorem isProfileChar_solid {c : Char} (h : isProfileChar c = true) : Solid c := by
  apply isHostnameChar_solid
  simp only [isProfileChar, isHostnameChar, Bool.or_eq_true] at h ⊢
  tauto

theorem display_solid (address : IpAddr) : ∀ c ∈ address.display.toList, Solid c := by
  intro c hc
  obtain ⟨h1, h2⟩ := IpAddr.isAddressChar_range (IpAddr.isAddressChar_display address c hc)
  exact solid_of_range (by omega) (by omega)

def OneLine (s : Str) : Prop := '\n' ∉ s ∧ '\r' ∉ s

theorem OneLine.append {a b : Str} (ha : OneLine a) (hb : OneLine b) : OneLine (a ++ b) := by
  constructor
  · rw [mem_append]; exact fun h => h.elim ha.1 hb.1
  · rw [mem_append]; exact fun h => h.elim ha.2 hb.2

theorem oneLine_of_solid {s : Str} (h : ∀ c ∈ s, Solid c) : OneLine s :=
  ⟨fun hm => (h _ hm).2.1 rfl, fun hm => (h _ hm).2.2.1 rfl⟩

theorem OneLine.fits {nl : Newline} {s : Str} (h : OneLine s) : nl.Fits s :=
  ⟨h.1, fun _ hlast => h.2 (mem_of_getLast? hlast)⟩

theorem oneLine_renderEntry {entry : ManagedHostsEntry} (h : Accepted entry) : OneLine (renderEntry entry) := by
  have hdisabled : OneLine disabledPrefix := ⟨by decide, by decide⟩
  have hsign : OneLine " # ".toList := ⟨by decide, by decide⟩
  have hspace : OneLine [' '] := ⟨by decide, by decide⟩
  have hhost := oneLine_of_solid (fun c hc => isHostnameChar_solid (h.hostname c hc))
  have haddress := oneLine_of_solid (display_solid entry.address)
  refine OneLine.append (OneLine.append (OneLine.append ?_ haddress) (hspace.append hhost)) ?_
  · cases entry.enabled
    · exact hdisabled
    · exact ⟨by simp, by simp⟩
  · cases hc : entry.comment with
    | none => exact ⟨by simp, by simp⟩
    | some comment =>
      have hcomment := h.comment comment hc
      exact hsign.append ⟨fun hm => (hcomment _ hm).2 rfl, fun hm => (hcomment _ hm).1 rfl⟩

section
variable {profileId : Str} {entries : List ManagedHostsEntry}

theorem oneLine_profile (h : ∀ c ∈ profileId, isProfileChar c = true) : OneLine profileId :=
  oneLine_of_solid (fun c hc => isProfileChar_solid (h c hc))

/-! ## Markers -/

theorem beginMarker_eq (profileId : Str) : ∃ rest, beginMarker profileId = '#' :: ' ' :: 'B' :: rest :=
  ⟨"EGIN NETTOOL PROFILE ".toList ++ profileId, by
    have hsplit : beginPrefix = '#' :: ' ' :: 'B' :: "EGIN NETTOOL PROFILE ".toList := by decide
    rw [beginMarker, hsplit]
    rfl⟩

theorem endMarker_eq (profileId : Str) : ∃ rest, endMarker profileId = '#' :: ' ' :: 'E' :: rest :=
  ⟨"ND NETTOOL PROFILE ".toList ++ profileId, by
    have hsplit : endPrefix = '#' :: ' ' :: 'E' :: "ND NETTOOL PROFILE ".toList := by decide
    rw [endMarker, hsplit]
    rfl⟩

theorem beginMarker_ne_endMarker (p q : Str) : beginMarker p ≠ endMarker q := by
  obtain ⟨a, ha⟩ := beginMarker_eq p
  obtain ⟨b, hb⟩ := endMarker_eq q
  rw [ha, hb]
  simp

section
variable (hne : profileId ≠ []) (hprofile : ∀ c ∈ profileId, isProfileChar c = true)
include hne hprofile

theorem profile_concat : ∃ front c, profileId = front ++ [c] ∧ Solid c := by
  refine ⟨profileId.dropLast, profileId.getLast hne, (dropLast_append_getLast hne).symm, ?_⟩
  exact isProfileChar_solid (hprofile _ (getLast_mem hne))

theorem trim_marker (front : Str) : trim ('#' :: (front ++ profileId)) = '#' :: (front ++ profileId) := by
  obtain ⟨start, c, rfl, hc⟩ := profile_concat hne hprofile
  rw [trim_cons (by decide), ← append_assoc, trimEnd_append_cons hc.1]
  rfl

theorem trim_beginMarker : trim (beginMarker profileId) = beginMarker profileId := by
  exact trim_marker hne hprofile _

theorem trim_endMarker : trim (endMarker profileId) = endMarker profileId := by
  exact trim_marker hne hprofile _

end

/-- An entry's line starts with its address, or with a comment sign, a space and an `N`. -/
theorem trim_renderEntry :
    (∃ c rest, trim (renderEntry entry) = c :: rest ∧ c ≠ '#') ∨
      ∃ rest, trim (renderEntry entry) = '#' :: ' ' :: 'N' :: rest := by
  unfold renderEntry
  rw [append_assoc, append_assoc]
  cases entry.enabled with
  | true =>
    left
    rcases hcase : entry.address.display.toList with _ | ⟨c, rest⟩
    · exact absurd hcase (IpAddr.display_ne_nil _)
    · have hc : Solid c := display_solid entry.address c (by rw [hcase]; exact mem_cons_self)
      rw [if_pos rfl, nil_append, cons_append, trim_cons hc.1]
      exact ⟨c, _, rfl, hc.2.2.2⟩
  | false =>
    right
    have hsplit : disabledPrefix = '#' :: ([' '] ++ 'N' :: disabledPrefix.drop 3) := by decide
    rw [if_neg (by decide), hsplit, cons_append, trim_cons (by decide), append_assoc [' '],
      show ∀ text rest : Str, ('N' :: text) ++ rest = 'N' :: (text ++ rest) from fun _ _ => rfl,
      trimEnd_append_cons (by decide)]
    exact ⟨_, rfl⟩

def Unmarked (profileId line : Str) : Prop := trim line ≠ beginMarker profileId ∧ trim line ≠ endMarker profileId

theorem Unmarked.trim {q line : Str} (h : Unmarked q line) : Unmarked q (Str.trim line) := by
  unfold Unmarked
  rw [trim_trim]
  exact h

theorem unmarked_of_blank {line : Str} (h : trim line = []) (q : Str) : Unmarked q line := by
  obtain ⟨a, ha⟩ := beginMarker_eq q
  obtain ⟨b, hb⟩ := endMarker_eq q
  unfold Unmarked
  rw [h, ha, hb]
  simp

/-- **No entry is read as a marker**, of whatever profile. -/
theorem renderEntry_unmarked (q : Str) : Unmarked q (renderEntry entry) := by
  obtain ⟨a, ha⟩ := beginMarker_eq q
  obtain ⟨b, hb⟩ := endMarker_eq q
  unfold Unmarked
  rw [ha, hb]
  rcases trim_renderEntry entry with ⟨c, rest, htrim, hc⟩ | ⟨rest, htrim⟩
  · rw [htrim]
    simp [hc]
  · rw [htrim]
    simp

theorem renderEntry_opensNone : opensSection (renderEntry entry) = false := by
  have hsplit : beginPrefix = '#' :: ' ' :: 'B' :: beginPrefix.drop 3 := by decide
  unfold opensSection
  rw [hsplit]
  rcases trim_renderEntry entry with ⟨c, rest, htrim, hc⟩ | ⟨rest, htrim⟩
  · rw [htrim]
    simp [List.isPrefixOf, Ne.symm hc]
  · rw [htrim]
    simp [List.isPrefixOf]

end

/-! ## Positions -/

section
variable {marker : Str} {k n : Nat}

theorem positionsFrom_cons (k : Nat) (marker line : Str) (ls : List Str) :
    positionsFrom k marker (line :: ls) =
      if trim line = marker then k :: positionsFrom (k + 1) marker ls else positionsFrom (k + 1) marker ls := by
  unfold positionsFrom
  by_cases h : trim line = marker
  · simp [h]
  · simp [h]

theorem positionsFrom_append (k : Nat) (marker : Str) (a b : List Str) :
    positionsFrom k marker (a ++ b) = positionsFrom k marker a ++ positionsFrom (k + a.length) marker b := by
  induction a generalizing k with
  | nil => simp [positionsFrom]
  | cons line a ih =>
    rw [cons_append, positionsFrom_cons, positionsFrom_cons, ih, show k + 1 + a.length = k + (a.length + 1) by omega]
    split <;> rfl

theorem positionsFrom_eq_nil {ls : List Str} : positionsFrom k marker ls = [] ↔ ∀ line ∈ ls, trim line ≠ marker := by
  induction ls generalizing k with
  | nil => simp [positionsFrom]
  | cons line ls ih =>
    rw [positionsFrom_cons]
    by_cases h : trim line = marker
    · simp [h]
    · rw [if_neg h, ih]
      simp [h]

theorem positionsFrom_eq_singleton {ls : List Str} :
    positionsFrom k marker ls = [n] ↔ ∃ a line b, ls = a ++ line :: b ∧ k + a.length = n ∧ trim line = marker ∧
      (∀ l ∈ a, trim l ≠ marker) ∧ ∀ l ∈ b, trim l ≠ marker := by
  constructor
  · intro h
    induction ls generalizing k with
    | nil => simp [positionsFrom] at h
    | cons line ls ih =>
      rw [positionsFrom_cons] at h
      by_cases hline : trim line = marker
      · rw [if_pos hline] at h
        obtain ⟨rfl, hrest⟩ := List.cons.inj h
        exact ⟨[], line, ls, rfl, rfl, hline, by simp, positionsFrom_eq_nil.1 hrest⟩
      · rw [if_neg hline] at h
        obtain ⟨a, found, b, rfl, hn, hfound, ha, hb⟩ := ih h
        refine ⟨line :: a, found, b, rfl, by rw [length_cons]; omega, hfound, ?_, hb⟩
        exact forall_mem_cons.2 ⟨hline, ha⟩
  · rintro ⟨a, line, b, rfl, hn, hline, ha, hb⟩
    rw [positionsFrom_append, positionsFrom_cons, if_pos hline, positionsFrom_eq_nil.2 ha,
      positionsFrom_eq_nil.2 hb, hn]
    rfl

end

/-! ## Where the section is -/

/-- The pieces of a text around and in the section of a profile. -/
structure Located (existing profileId : Str) (before : List Str) (first : Str) (body : List Str) (last : Str)
    (after : List Str) : Prop where
  pieces : splitInclusive existing = before ++ first :: (body ++ last :: after)
  first_marks : trim (stripLineEnd first) = beginMarker profileId
  last_marks : trim (stripLineEnd last) = endMarker profileId
  before_unmarked : ∀ piece ∈ before, Unmarked profileId (stripLineEnd piece)
  body_unmarked : ∀ piece ∈ body, Unmarked profileId (stripLineEnd piece)
  after_unmarked : ∀ piece ∈ after, Unmarked profileId (stripLineEnd piece)

section
variable {existing profileId : Str} {before body after : List Str} {first last : Str}

namespace Located

variable (h : Located existing profileId before first body last after)
include h

theorem lines_eq : lines existing = before.map stripLineEnd ++ stripLineEnd first ::
    (body.map stripLineEnd ++ stripLineEnd last :: after.map stripLineEnd) := by
  unfold lines
  rw [h.pieces]
  simp

theorem isPieces : Pieces (before ++ first :: (body ++ last :: after)) := by
  rw [← h.pieces]
  exact pieces_splitInclusive existing

theorem mem_of_before : ∀ piece ∈ before, piece ∈ splitInclusive existing := fun piece hp => by rw [h.pieces]; simp [hp]

theorem mem_of_after : ∀ piece ∈ after, piece ∈ splitInclusive existing := fun piece hp => by rw [h.pieces]; simp [hp]

theorem before_terminated : ∀ piece ∈ before, Terminated piece :=
  fun _ hp => h.isPieces.terminated_of_mem (by simp) hp

theorem beginPositions : positions (beginMarker profileId) (lines existing) = [before.length] := by
  rw [h.lines_eq, positions, positionsFrom_eq_singleton]
  refine ⟨_, _, _, rfl, by simp, h.first_marks, forall_mem_map.2 fun piece hp => (h.before_unmarked piece hp).1, ?_⟩
  rw [forall_mem_append, forall_mem_cons, forall_mem_map, forall_mem_map, h.last_marks]
  exact ⟨fun piece hp => (h.body_unmarked piece hp).1, (beginMarker_ne_endMarker profileId profileId).symm,
    fun piece hp => (h.after_unmarked piece hp).1⟩

theorem endPositions : positions (endMarker profileId) (lines existing) = [before.length + 1 + body.length] := by
  rw [h.lines_eq, positions, positionsFrom_eq_singleton]
  refine ⟨before.map stripLineEnd ++ stripLineEnd first :: body.map stripLineEnd, _, _, by simp, by simp; omega,
    h.last_marks, ?_, forall_mem_map.2 fun piece hp => (h.after_unmarked piece hp).2⟩
  rw [forall_mem_append, forall_mem_cons, forall_mem_map, forall_mem_map, h.first_marks]
  exact ⟨fun piece hp => (h.before_unmarked piece hp).2, beginMarker_ne_endMarker profileId profileId,
    fun piece hp => (h.body_unmarked piece hp).2⟩

theorem take_pieces : (splitInclusive existing).take before.length = before := by
  rw [h.pieces]
  exact take_left' rfl

theorem drop_pieces : (splitInclusive existing).drop (before.length + 1 + body.length + 1) = after := by
  have hsplit : splitInclusive existing = (before ++ first :: (body ++ [last])) ++ after := by rw [h.pieces]; simp
  rw [hsplit]
  exact drop_left' (by simp; omega)

theorem body_lines :
    ((lines existing).take (before.length + 1 + body.length)).drop (before.length + 1) = body.map stripLineEnd := by
  have hsplit : lines existing =
      (before.map stripLineEnd ++ [stripLineEnd first]) ++
        (body.map stripLineEnd ++ stripLineEnd last :: after.map stripLineEnd) := by
    rw [h.lines_eq]
    simp
  rw [drop_take, hsplit, drop_left' (by simp)]
  exact take_left' (by simp)

end Located

/-- The text again around a section: every line outside it ended with `nl`. -/
def rejoined (nl : Newline) (before section_ : List Str) (last : Str) (after : List Str) : Str :=
  (before.map (retie nl)).flatten ++ nl.text.intercalate section_ ++ lineEnd nl last ++ (after.map (retie nl)).flatten

theorem located_of_positions {start finish : Nat}
    (hstart : positions (beginMarker profileId) (lines existing) = [start])
    (hfinish : positions (endMarker profileId) (lines existing) = [finish]) (hle : start ≤ finish) :
    ∃ before first body last after, Located existing profileId before first body last after ∧ before.length = start ∧
      before.length + 1 + body.length = finish := by
  obtain ⟨a, begins, rest, hlines, hlen, hbegins, ha, hrest⟩ := positionsFrom_eq_singleton.1 hstart
  -- the end marker is neither before the begin marker nor the same line
  rw [positions, hlines, positionsFrom_append, positionsFrom_cons,
    if_neg (hbegins ▸ beginMarker_ne_endMarker profileId profileId)] at hfinish
  have hnone : positionsFrom 0 (endMarker profileId) a = [] := by
    cases hcase : positionsFrom 0 (endMarker profileId) a with
    | nil => rfl
    | cons m ms =>
      rw [hcase] at hfinish
      obtain ⟨rfl, hms⟩ := List.cons.inj hfinish
      have hsingle : positionsFrom 0 (endMarker profileId) a = [m] := by rw [hcase, (append_eq_nil_iff.1 hms).1]
      obtain ⟨c, x, d, rfl, hm, -⟩ := positionsFrom_eq_singleton.1 hsingle
      rw [length_append, length_cons] at hlen
      omega
  rw [hnone] at hfinish
  obtain ⟨b, ends, c, rfl, hlenb, hends, hb, hc⟩ := positionsFrom_eq_singleton.1 hfinish
  rw [positionsFrom_eq_nil] at hnone
  -- the lines are those of pieces
  obtain ⟨before, tail, hpieces, rfl, htail⟩ := map_eq_append_iff.1 hlines
  obtain ⟨first, tail', rfl, rfl, htail'⟩ := map_eq_cons_iff.1 htail
  obtain ⟨body, tail'', rfl, rfl, htail''⟩ := map_eq_append_iff.1 htail'
  obtain ⟨last, after, rfl, rfl, rfl⟩ := map_eq_cons_iff.1 htail''
  have hmem : ∀ {ls : List Str} {piece : Str}, piece ∈ ls → stripLineEnd piece ∈ ls.map stripLineEnd := mem_map_of_mem
  rw [length_map] at hlen hlenb
  refine ⟨before, first, body, last, after, ⟨hpieces, hbegins, hends, ?_, ?_,
    ?_⟩, by omega, by rw [length_map] at hlenb; omega⟩
  · exact fun piece hp => ⟨ha _ (hmem hp), hnone _ (hmem hp)⟩
  · exact fun piece hp => ⟨hrest _ (mem_append_left _ (hmem hp)), hb _ (hmem hp)⟩
  · exact fun piece hp => ⟨hrest _ (mem_append_right _ (mem_cons_of_mem _ (hmem hp))), hc _ (hmem hp)⟩

end

/-! ## What is returned -/

section
variable {existing profileId : Str} {entries : List ManagedHostsEntry} {before body after : List Str} {first last : Str}

/-- What `replace_managed_section` asks of its profile and entries. -/
structure Valid (profileId : Str) (entries : List ManagedHostsEntry) : Prop where
  profile_ne_nil : profileId ≠ []
  profile : ∀ c ∈ profileId, isProfileChar c = true
  entries : ∀ entry ∈ entries, Accepted entry

theorem Valid.oneLine (h : Valid profileId entries) : ∀ line ∈ sectionLines profileId entries, OneLine line := by
  have hbegin : OneLine beginPrefix := ⟨by decide, by decide⟩
  have hend : OneLine endPrefix := ⟨by decide, by decide⟩
  intro line hline
  simp only [sectionLines, mem_cons, mem_append, mem_map, not_mem_nil, or_false] at hline
  rcases hline with rfl | ⟨entry, hmem, rfl⟩ | rfl
  · exact hbegin.append (oneLine_profile h.profile)
  · exact oneLine_renderEntry (h.entries entry hmem)
  · exact hend.append (oneLine_profile h.profile)

theorem split_renderSection (h : Valid profileId entries) (nl : Newline) :
    split nl.text (trimNewlines (renderSection profileId entries nl)) = sectionLines profileId entries := by
  have htrim : trimNewlines (renderSection profileId entries nl) =
    nl.text.intercalate (sectionLines profileId entries) := by
    obtain ⟨front, c, hprofile, hc⟩ := profile_concat h.profile_ne_nil h.profile
    -- the last line is the end marker, whose last character is the profile's
    obtain ⟨text, htext⟩ : ∃ text, nl.text.intercalate (sectionLines profileId entries) = text ++ [c] := by
      refine ⟨(beginMarker profileId :: entries.map renderEntry).flatMap (· ++ nl.text) ++ (endPrefix ++ front), ?_⟩
      have hconcat := intercalate_concat nl.text (beginMarker profileId :: entries.map renderEntry)
        (endMarker profileId)
      have hend : endMarker profileId = (endPrefix ++ front) ++ [c] := by rw [endMarker, hprofile, append_assoc]
      rw [hend, ← append_assoc] at hconcat
      rw [sectionLines, hend]
      exact hconcat
    unfold trimNewlines renderSection
    rw [htext]
    have hkeep : List.rdropWhile (fun c => c == '\r' || c == '\n') (text ++ [c]) = text ++ [c] :=
      rdropWhile_concat_neg _ _ _ (by simp [hc.2.1, hc.2.2.1])
    cases nl with
    | lf =>
      show List.rdropWhile _ ((text ++ [c]) ++ ['\n']) = _
      rw [rdropWhile_concat_pos _ _ _ (by decide), hkeep]
    | crlf =>
      rw [append_crlf, rdropWhile_concat_pos _ _ _ (by decide), rdropWhile_concat_pos _ _ _ (by decide), hkeep]
  rw [htrim]
  exact split_intercalate nl _ _ (fun line hline => (h.oneLine line hline).1)

theorem placeSection_eq (hvalid : Valid profileId entries) (h : Located existing profileId before first body last after)
    (nl : Newline) :
    placeSection existing nl (renderSection profileId entries nl) before.length (before.length + 1 + body.length) =
      rejoined nl before (sectionLines profileId entries) last after := by
  have hrest : Pieces (last :: after) := h.isPieces.append_right.tail.append_right
  -- the text ends in a line feed when its last piece does
  have hend : (if existing.getLast? = some '\n' then nl.text else []) =
    lineEnd nl ((last :: after).getLast (by simp)) := by
    have hsplit : splitInclusive existing =
        (before ++ first :: (body ++ (last :: after).dropLast)) ++ [(last :: after).getLast (by simp)] := by
      rw [h.pieces, append_assoc, cons_append, append_assoc, dropLast_append_getLast]
    have hpieces := pieces_splitInclusive existing
    have htext := flatten_splitInclusive existing
    rw [hsplit] at hpieces htext
    have hiff := hpieces.terminated_flatten
    rw [htext] at hiff
    exact if_congr hiff rfl rfl
  unfold placeSection rejoined
  rw [lines, ← map_take, ← map_drop, h.take_pieces, h.drop_pieces, split_renderSection hvalid nl, hend, sectionLines]
  -- the first line of the section goes with what is before it, the others with what follows
  have hjoin := intercalate_append_cons nl.text (before.map stripLineEnd) (beginMarker profileId)
    ((entries.map renderEntry ++ [endMarker profileId]) ++ after.map stripLineEnd)
  have hsection := intercalate_append_cons nl.text [] (beginMarker profileId)
    (entries.map renderEntry ++ [endMarker profileId])
  rw [nil_append, flatMap_nil, nil_append] at hsection
  rw [append_assoc, cons_append, hjoin, hsection, flatMap_stripLineEnd h.before_terminated, flatMap_append,
    ← append_assoc, append_assoc _ _ (lineEnd nl _), rejoin_tail hrest]
  simp only [append_assoc]

/-- **What `replace_managed_section` returns.** -/
theorem replaceManagedSection_ok {output : Str} :
    replaceManagedSection existing profileId entries = .ok output ↔ Valid profileId entries ∧
      (((∀ line ∈ lines existing, Unmarked profileId line) ∧
          output = appendSection existing (newlineOf existing) (renderSection profileId entries (newlineOf existing))) ∨
        ∃ before first body last after, Located existing profileId before first body last after ∧
          (∀ piece ∈ body, opensSection (stripLineEnd piece) = false) ∧
          output = rejoined (newlineOf existing) before (sectionLines profileId entries) last after) := by
  have hvalid : Valid profileId entries ↔ validateProfileId profileId = .ok () ∧ validateEntries entries = .ok () := by
    rw [validateProfileId_ok, validateEntries_ok]
    exact ⟨fun h => ⟨⟨h.profile_ne_nil, h.profile⟩, h.entries⟩, fun h => ⟨h.1.1, h.1.2, h.2⟩⟩
  unfold replaceManagedSection
  constructor
  · intro h
    obtain ⟨_, hprofile, h⟩ := (Check.bind_ok _ _ _).1 h
    obtain ⟨_, hentries, h⟩ := (Check.bind_ok _ _ _).1 h
    have hok : Valid profileId entries := hvalid.2 ⟨hprofile, hentries⟩
    refine ⟨hok, ?_⟩
    obtain ⟨hcount, h⟩ := (Check.guard_ok _ _ _ _).1 h
    rcases hbegin : positions (beginMarker profileId) (lines existing) with _ | ⟨start, more⟩
    · -- no begin marker, so no end marker
      have hend : positions (endMarker profileId) (lines existing) = [] := length_eq_zero_iff.1 (by
        rw [hbegin, length_nil] at hcount
        omega)
      rw [hbegin] at h
      left
      refine ⟨fun line hline => ⟨positionsFrom_eq_nil.1 hbegin line hline, positionsFrom_eq_nil.1 hend line hline⟩, ?_⟩
      exact (Except.ok.inj h).symm
    · rw [hbegin, length_cons] at hcount
      have hmore : more = [] := length_eq_zero_iff.1 (by omega)
      obtain ⟨finish, hfinish⟩ := length_eq_one_iff.1
        (by omega : (positions (endMarker profileId) (lines existing)).length = 1)
      rw [hmore] at hbegin
      rw [hbegin, hfinish] at h
      obtain ⟨horder, h⟩ := (Check.guard_ok _ _ _ _).1 h
      simp only [headD_cons] at horder h
      obtain ⟨before, first, body, last, after, hloc, rfl, rfl⟩ := located_of_positions hbegin hfinish
        (Nat.le_of_not_lt fun hlt => horder (.inl hlt))
      right
      rw [placeSection_eq hok hloc] at h
      refine ⟨before, first, body, last, after, hloc, ?_, (Except.ok.inj h).symm⟩
      intro piece hp
      rw [hloc.body_lines] at horder
      exact Bool.eq_false_iff.2 fun hopens =>
        horder (.inr (any_eq_true.2 ⟨_, mem_map_of_mem hp, hopens⟩))
  · rintro ⟨hok, hout⟩
    obtain ⟨hprofile, hentries⟩ := hvalid.1 hok
    rw [hprofile, hentries]
    rcases hout with ⟨hunmarked, rfl⟩ | ⟨before, first, body, last, after, hloc, hflat, rfl⟩
    · have hbegin : positions (beginMarker profileId) (lines existing) = [] :=
        positionsFrom_eq_nil.2 fun line hline => (hunmarked line hline).1
      have hend : positions (endMarker profileId) (lines existing) = [] :=
        positionsFrom_eq_nil.2 fun line hline => (hunmarked line hline).2
      simp [hbegin, hend]
    · have hnone : (body.map stripLineEnd).any opensSection = false := by
        rw [any_eq_false]
        intro line hline
        obtain ⟨piece, hp, rfl⟩ := mem_map.1 hline
        rw [hflat piece hp]
        decide
      simp only [Check.ok_bind, hloc.beginPositions, hloc.endPositions, length_singleton, headD_cons,
        hloc.body_lines, hnone, placeSection_eq hok hloc]
      simp
      omega

/-! ## What stays outside the section -/

def sectionSpan (existing profileId : Str) : Option (Nat × Nat) :=
  match positions (beginMarker profileId) (lines existing), positions (endMarker profileId) (lines existing) with
  | [start], [finish] => some (start, finish)
  | _, _ => none

def piecesBefore (existing : Str) (span : Nat × Nat) : List Str := (splitInclusive existing).take span.1
def piecesAfter (existing : Str) (span : Nat × Nat) : List Str := (splitInclusive existing).drop (span.2 + 1)

/-- How the end marker's line ends: with a newline, unless the text ends with the section and without one. -/
def sectionEnd (existing : Str) (span : Nat × Nat) : Str :=
  lineEnd (newlineOf existing) ((splitInclusive existing).getD span.2 [])

/-- The output is the text with only the section replaced; without a section, the text with the section appended after
at most two separator newlines. -/
def PreservesOutside (existing profileId : Str) (entries : List ManagedHostsEntry) (output : Str) : Prop :=
  let newline := (newlineOf existing).text
  let managed := newline.intercalate (sectionLines profileId entries)
  match sectionSpan existing profileId with
  | none => ∃ separators ∈ [[], newline, newline ++ newline], output = existing ++ separators ++ managed ++ newline
  | some span => output =
      (piecesBefore existing span).flatten ++ managed ++ sectionEnd existing span ++ (piecesAfter existing span).flatten

/-- Every line outside the section that ends in a line feed ends in the newline of the text. -/
def OneNewlineOutside (existing profileId : Str) : Prop :=
  ∀ span ∈ sectionSpan existing profileId, ∀ piece ∈ piecesBefore existing span ++ piecesAfter existing span,
    Terminated piece → (newlineOf existing).text <:+ piece

/-- A text with a carriage return and a line feed in a row is joined with both. -/
theorem newlineOf_eq_crlf : newlineOf existing = .crlf ↔ ∃ l, l ++ ['\r', '\n'] ∈ splitInclusive existing := by
  rw [← contains_crlf_iff, newlineOf]
  split <;> simp_all

/-- A piece is kept, or it ends in a line feed alone in a text that is joined with both and grows. -/
theorem retie_cases {piece : Str} (hmem : piece ∈ splitInclusive existing) :
    (retie (newlineOf existing) piece = piece ∧ (Terminated piece → (newlineOf existing).text <:+ piece)) ∨
      (piece.length < (retie (newlineOf existing) piece).length ∧ Terminated piece ∧
        ¬ (newlineOf existing).text <:+ piece) := by
  rcases (pieces_splitInclusive existing).of_mem hmem with ⟨hl, -⟩ | ⟨l, hl, rfl⟩
  · have hterm := not_terminated hl
    exact .inl ⟨retie_not_terminated hterm, fun h => absurd h hterm⟩
  · have hterm := terminated_line l
    rw [retie_terminated hterm, stripLineEnd_line]
    by_cases hcr : l.getLast? = some '\r'
    · obtain ⟨front, rfl⟩ := List.getLast?_eq_some_iff.1 hcr
      have hcrlf : newlineOf existing = .crlf := newlineOf_eq_crlf.2 ⟨front, by simpa using hmem⟩
      rw [hcrlf]
      exact .inl ⟨by simp [Newline.text], fun _ => ⟨front, by simp [Newline.text]⟩⟩
    · rw [if_neg hcr]
      cases hnl : newlineOf existing with
      | lf => exact .inl ⟨rfl, fun _ => ⟨l, rfl⟩⟩
      | crlf =>
        refine .inr ⟨by simp [Newline.text], hterm, ?_⟩
        rintro ⟨front, hfront⟩
        have hsame : (front ++ ['\r']) ++ ['\n'] = l ++ ['\n'] := by simpa [Newline.text] using hfront
        have hl' : front ++ ['\r'] = l := append_cancel_right hsame
        exact hcr (by rw [← hl']; simp)

/-- Joining again never shortens a text, and lengthens it where a piece is not kept. -/
theorem flatten_retie_length {ls : List Str} (hmem : ∀ piece ∈ ls, piece ∈ splitInclusive existing) :
    ls.flatten.length ≤ (ls.map (retie (newlineOf existing))).flatten.length ∧
      ((ls.map (retie (newlineOf existing))).flatten.length = ls.flatten.length →
        ∀ piece ∈ ls, Terminated piece → (newlineOf existing).text <:+ piece) := by
  induction ls with
  | nil => simp
  | cons piece ls ih =>
    obtain ⟨hle, heq⟩ := ih (fun q hq => hmem q (mem_cons_of_mem _ hq))
    rw [map_cons, flatten_cons, flatten_cons, length_append, length_append]
    rcases retie_cases (hmem piece mem_cons_self) with ⟨hsame, hends⟩ | ⟨hlt, -, -⟩
    · rw [hsame]
      refine ⟨by omega, fun h => forall_mem_cons.2 ⟨hends, heq (by omega)⟩⟩
    · exact ⟨by omega, fun h => by omega⟩

theorem map_retie_eq_self {ls : List Str} (hmem : ∀ piece ∈ ls, piece ∈ splitInclusive existing)
    (hends : ∀ piece ∈ ls, Terminated piece → (newlineOf existing).text <:+ piece) :
    ls.map (retie (newlineOf existing)) = ls := by
  conv_rhs => rw [← map_id ls]
  apply map_congr_left
  intro piece hp
  rcases retie_cases (hmem piece hp) with ⟨hsame, -⟩ | ⟨-, hterm, hnot⟩
  · exact hsame
  · exact absurd (hends piece hp hterm) hnot

section
variable (h : Located existing profileId before first body last after)
include h

theorem Located.sectionEnd_eq :
    sectionEnd existing (before.length, before.length + 1 + body.length) = lineEnd (newlineOf existing) last := by
  have hlast : (splitInclusive existing)[before.length + 1 + body.length]? = some last := by
    have hsplit : splitInclusive existing = (before ++ first :: body) ++ last :: after := by rw [h.pieces]; simp
    rw [hsplit, List.getElem?_append_right (by simp; omega)]
    simp [show before.length + 1 + body.length - (before.length + (body.length + 1)) = 0 by omega]
  unfold sectionEnd
  rw [getD_eq_getElem?_getD, hlast, Option.getD_some]

end

/-- At most two newlines come between a text and the section appended to it. -/
theorem appendSection_eq (existing : Str) (nl : Newline) (managed : Str) :
    ∃ separators ∈ [[], nl.text, nl.text ++ nl.text], appendSection existing nl managed = existing ++
      separators ++ managed := by
  unfold appendSection
  dsimp only
  split
  · split
    · exact ⟨nl.text ++ nl.text, by simp, by simp⟩
    · exact ⟨nl.text, by simp, by simp⟩
  · split
    · exact ⟨nl.text, by simp, by simp⟩
    · exact ⟨[], by simp, by simp⟩

theorem sectionSpan_of_unmarked (h : ∀ line ∈ lines existing, Unmarked profileId line) :
    sectionSpan existing profileId = none := by
  have hbegin : positions (beginMarker profileId) (lines existing) = [] :=
    positionsFrom_eq_nil.2 fun line hline => (h line hline).1
  unfold sectionSpan
  rw [hbegin]

/-- **The text outside the section is kept exactly when every line there ends in the newline of the text.** -/
theorem replaceManagedSection_preserves_iff {output : Str}
    (h : replaceManagedSection existing profileId entries = .ok output) :
    PreservesOutside existing profileId entries output ↔ OneNewlineOutside existing profileId := by
  obtain ⟨-, hout⟩ := replaceManagedSection_ok.1 h
  unfold PreservesOutside OneNewlineOutside
  rcases hout with ⟨hunmarked, rfl⟩ | ⟨before, first, body, last, after, hloc, -, rfl⟩
  · -- appended: nothing outside is touched
    rw [sectionSpan_of_unmarked hunmarked]
    refine ⟨fun _ span hspan => (by cases hspan), fun _ => ?_⟩
    obtain ⟨separators, hsep, heq⟩ := appendSection_eq existing (newlineOf existing)
      (renderSection profileId entries (newlineOf existing))
    exact ⟨separators, hsep, by rw [heq, renderSection, ← append_assoc]⟩
  · rw [sectionSpan, hloc.beginPositions, hloc.endPositions]
    simp only [Option.mem_def, Option.some.injEq, forall_eq', piecesBefore, piecesAfter, hloc.take_pieces,
      hloc.drop_pieces, hloc.sectionEnd_eq, rejoined]
    constructor
    · intro heq
      -- no part got shorter and the whole did not get longer
      have hlen := congrArg List.length heq
      simp only [length_append] at hlen
      have hb := flatten_retie_length hloc.mem_of_before
      have ha := flatten_retie_length hloc.mem_of_after
      intro piece hp
      rcases mem_append.1 hp with hp | hp
      · exact hb.2 (by omega) piece hp
      · exact ha.2 (by omega) piece hp
    · intro hends
      rw [map_retie_eq_self hloc.mem_of_before (fun piece hp => hends piece (mem_append_left _ hp)),
        map_retie_eq_self hloc.mem_of_after (fun piece hp => hends piece (mem_append_right _ hp))]

end

def sampleProfile : Str := "lab".toList

def sampleEntry : ManagedHostsEntry := ⟨.v4 0xc0000201#32, "api.lab".toList, none, true⟩

def sampleText (newline : Newline) (ls : List Str) : Str := ls.flatMap (· ++ newline.text)

def sampleHosts (newline : Newline) : Str :=
  sampleText newline ["before".toList, beginMarker sampleProfile, endMarker sampleProfile, "after".toList]

theorem replaceManagedSection_preserves_sample :
    ∃ output, replaceManagedSection (sampleHosts .crlf) sampleProfile [sampleEntry] = .ok output ∧
      PreservesOutside (sampleHosts .crlf) sampleProfile [sampleEntry] output := by
  have hok : replaceManagedSection (sampleHosts .crlf) sampleProfile [sampleEntry] = .ok (sampleText .crlf
      ["before".toList, beginMarker sampleProfile, "192.0.2.1 api.lab".toList, endMarker sampleProfile,
        "after".toList]) := by decide
  refine ⟨_, hok, (replaceManagedSection_preserves_iff hok).2 ?_⟩
  unfold OneNewlineOutside
  decide

/-- A file whose first line ends in a line feed alone and the others in a carriage return and a line feed. -/
def mixedHosts : Str :=
  "127.0.0.1 localhost\n".toList ++ sampleText .crlf [beginMarker sampleProfile, endMarker sampleProfile]

/-- The line before the section does not end as it did. -/
theorem line_feed_is_rewritten :
    ∃ output, replaceManagedSection mixedHosts sampleProfile [] = .ok output ∧
      ¬ PreservesOutside mixedHosts sampleProfile [] output := by
  refine ⟨"127.0.0.1 localhost\r\n".toList ++ sampleText .crlf
    [beginMarker sampleProfile, endMarker sampleProfile], by decide, ?_⟩
  have hspan : sectionSpan mixedHosts sampleProfile = some (1, 2) := by decide
  unfold PreservesOutside
  rw [hspan]
  decide

end Hosts
end NetTool
