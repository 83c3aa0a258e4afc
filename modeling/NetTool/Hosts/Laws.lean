import NetTool.Hosts.Parse
/-!
# Hosts.Laws — replacing sections one after another

In a file with one newline style, replacing a section twice is the second replacement alone, and the sections of the
other profiles are read as before.  One file escapes the first law: it ends in a carriage return, holds no line feed
after one, and has no section yet.  The line feed that the first replacement appends makes this a file with carriage
returns and line feeds, which the second one then puts everywhere (`section_laws_iff`).
-/
namespace NetTool
namespace Hosts

open Str List

/-- Every line that ends in a line feed has a carriage return before it, or none has. -/
def UniformNewline (s : Str) : Prop :=
  (∀ piece ∈ splitInclusive s, Terminated piece → ['\r', '\n'] <:+ piece) ∨
    ∀ piece ∈ splitInclusive s, ¬ ['\r', '\n'] <:+ piece

/-- A text without a section whose last character is a carriage return, in a text without one before a line feed. -/
def EndsInCarriageReturn (existing profileId : Str) : Prop :=
  newlineOf existing = .lf ∧ existing.getLast? = some '\r' ∧ ∀ line ∈ lines existing, Unmarked profileId line

/-- No line of the section of `p` is a marker of `q`. -/
def Disjoint (existing p q : Str) : Prop :=
  ∀ before first body last after, Located existing p before first body last after →
    ∀ piece ∈ first :: (body ++ [last]), Unmarked q (stripLineEnd piece)

/-- The laws of replacing the section of a profile in a file. -/
structure SectionLaws (existing profileId : Str) : Prop where
  twice : ∀ entries entries' output, replaceManagedSection existing profileId entries = .ok output →
    replaceManagedSection output profileId entries' = replaceManagedSection existing profileId entries'
  others : ∀ entries output q, replaceManagedSection existing profileId entries = .ok output → q ≠ profileId →
    Disjoint existing profileId q → parseManagedHosts output q = parseManagedHosts existing q
  onePair : ∀ entries output, replaceManagedSection existing profileId entries = .ok output →
    ∃ start finish, positions (beginMarker profileId) (lines output) = [start] ∧
      positions (endMarker profileId) (lines output) = [finish] ∧ start < finish
  noForgery : ∀ entry, Accepted entry → OneLine (renderEntry entry) ∧ opensSection (renderEntry entry) = false ∧
    ∀ q, Unmarked q (renderEntry entry)

/-! ## One style -/

theorem UniformNewline.suffix {s : Str} (h : UniformNewline s) :
    ∀ piece ∈ splitInclusive s, Terminated piece → (newlineOf s).text <:+ piece := by
  intro piece hp hterm
  cases hnl : newlineOf s with
  | lf =>
    obtain ⟨l, rfl⟩ := List.getLast?_eq_some_iff.1 hterm
    exact ⟨l, rfl⟩
  | crlf =>
    obtain ⟨l, hl⟩ := newlineOf_eq_crlf.1 hnl
    rcases h with h | h
    · exact h piece hp hterm
    · exact absurd ⟨l, rfl⟩ (h _ hl)

/-- Which newline a text is joined with, from its pieces. -/
theorem newlineOf_eq {s : Str} {nl : Newline} (hcrlf : nl = .crlf → ∃ l, l ++ ['\r', '\n'] ∈ splitInclusive s)
    (hlf : nl = .lf → ∀ piece ∈ splitInclusive s, ¬ ['\r', '\n'] <:+ piece) : newlineOf s = nl := by
  cases nl with
  | crlf => exact newlineOf_eq_crlf.2 (hcrlf rfl)
  | lf =>
    cases hnl : newlineOf s with
    | lf => rfl
    | crlf =>
      obtain ⟨l, hl⟩ := newlineOf_eq_crlf.1 hnl
      exact absurd ⟨l, rfl⟩ (hlf rfl _ hl)

theorem not_crlf_of_lf {s piece : Str} (h : newlineOf s = .lf) (hp : piece ∈ splitInclusive s) :
    ¬ ['\r', '\n'] <:+ piece := by
  rintro ⟨l, rfl⟩
  rw [newlineOf_eq_crlf.2 ⟨l, hp⟩] at h
  cases h

theorem not_crlf_lf {l : Str} (h : l.getLast? ≠ some '\r') : ¬ ['\r', '\n'] <:+ l ++ ['\n'] := by
  rintro ⟨front, hfront⟩
  have hsame : (front ++ ['\r']) ++ ['\n'] = l ++ ['\n'] := by simpa using hfront
  have hl : front ++ ['\r'] = l := append_cancel_right hsame
  exact h (by rw [← hl]; simp)

theorem OneLine.getLast {l : Str} (h : OneLine l) : l.getLast? ≠ some '\r' := fun e => h.2 (mem_of_getLast? e)

section
variable {existing profileId : Str} {entries entries' : List ManagedHostsEntry} {before body after : List Str}
    {first last : Str}

/-! ## The output has the section in its place -/

theorem terminated_endMarker {nl : Newline} (h : Valid profileId entries) :
    Terminated (endMarker profileId ++ lineEnd nl last) ↔ Terminated last := by
  by_cases hterm : Terminated last
  · have hnl : lineEnd nl last = nl.text := if_pos hterm
    rw [hnl]
    exact ⟨fun _ => hterm, fun _ => terminated_newline nl _⟩
  · have hnl : lineEnd nl last = [] := if_neg hterm
    rw [hnl, append_nil]
    have hend : OneLine (endMarker profileId) := h.oneLine _ (by simp [sectionLines])
    exact ⟨fun ht => absurd ht (not_terminated hend.1), fun ht => absurd ht hterm⟩

/-! A text whose pieces are a section's between pieces that are no markers. -/

section
variable {s : Str} {nl : Newline} (hvalid : Valid profileId entries)
  (hpieces : splitInclusive s = before ++ sectionPieces nl profileId entries last ++ after)
  (hbefore : ∀ piece ∈ before, Unmarked profileId (stripLineEnd piece))
  (hafter : ∀ piece ∈ after, Unmarked profileId (stripLineEnd piece))
include hvalid hpieces hbefore hafter

theorem located_sectionPieces :
    Located s profileId before (beginMarker profileId ++ nl.text) ((entries.map renderEntry).map (· ++ nl.text))
        (endMarker profileId ++ lineEnd nl last) after ∧
      ∀ piece ∈ (entries.map renderEntry).map (· ++ nl.text), opensSection (stripLineEnd piece) = false := by
  have hstrip := map_stripLineEnd_sectionPieces hvalid nl last
  unfold sectionPieces sectionLines at hstrip
  rw [map_cons, cons_append, map_cons, map_append] at hstrip
  obtain ⟨hfirst, hrest⟩ := List.cons.inj hstrip
  obtain ⟨hbody, hlast⟩ := append_inj' hrest rfl
  -- a line of the body is the line of an entry
  have hentry : ∀ P : Str → Prop, (∀ entry, P (renderEntry entry)) →
      ∀ piece ∈ (entries.map renderEntry).map (· ++ nl.text), P (stripLineEnd piece) := by
    intro P hP
    rw [← forall_mem_map (f := stripLineEnd), hbody, forall_mem_map]
    exact fun entry _ => hP entry
  refine ⟨⟨?_, ?_, ?_, hbefore, hentry _ fun entry => renderEntry_unmarked entry profileId, hafter⟩,
    hentry (fun line => opensSection line = false) renderEntry_opensNone⟩
  · rw [hpieces]
    simp [sectionPieces]
  · rw [hfirst]
    exact trim_beginMarker hvalid.profile_ne_nil hvalid.profile
  · rw [(List.cons.inj hlast).1]
    exact trim_endMarker hvalid.profile_ne_nil hvalid.profile

/-- An output that has the section between pieces joined with its own newline is replaced as the file was. -/
theorem replace_again (hvalid' : Valid profileId entries') :
    replaceManagedSection s profileId entries' =
      .ok (rejoined (newlineOf s) before (sectionLines profileId entries')
        (endMarker profileId ++ lineEnd nl last) after) := by
  obtain ⟨hloc, hflat⟩ := located_sectionPieces hvalid hpieces hbefore hafter
  exact replaceManagedSection_ok.2 ⟨hvalid', .inr ⟨_, _, _, _, _, hloc, hflat, rfl⟩⟩

theorem onePair_of_placed : ∃ start finish, positions (beginMarker profileId) (lines s) = [start] ∧
    positions (endMarker profileId) (lines s) = [finish] ∧ start < finish := by
  obtain ⟨hloc, -⟩ := located_sectionPieces hvalid hpieces hbefore hafter
  exact ⟨_, _, hloc.beginPositions, hloc.endPositions, by omega⟩

end

theorem sectionPieces_crlf {nl : Newline} (hvalid : Valid profileId entries) {piece : Str}
    (hp : piece ∈ sectionPieces nl profileId entries last) (hlf : nl = .lf) : ¬ ['\r', '\n'] <:+ piece := by
  subst hlf
  have hline := hvalid.oneLine
  rcases mem_append.1 hp with hp | hp
  · obtain ⟨l, hl, rfl⟩ := mem_map.1 hp
    refine not_crlf_lf (hline l ?_).getLast
    exact mem_append_left _ hl
  · rw [mem_singleton] at hp
    subst hp
    have hend : OneLine (endMarker profileId) := hline _ (by simp [sectionLines])
    by_cases hterm : Terminated last
    · have hnl : lineEnd .lf last = ['\n'] := if_pos hterm
      rw [hnl]
      exact not_crlf_lf hend.getLast
    · have hnl : lineEnd .lf last = [] := if_neg hterm
      rw [hnl, append_nil]
      rintro ⟨front, hfront⟩
      exact hend.1 (by rw [← hfront]; simp)

/-- A section in its place keeps the newline of the file. -/
theorem newlineOf_placed {s : Str} {nl : Newline} (hvalid : Valid profileId entries)
    (hpieces : splitInclusive s = before ++ sectionPieces nl profileId entries last ++ after)
    (hother : nl = .lf → ∀ piece ∈ before ++ after, ¬ ['\r', '\n'] <:+ piece) : newlineOf s = nl := by
  refine newlineOf_eq (fun hcrlf => ⟨beginMarker profileId, ?_⟩) (fun hlf piece hp => ?_)
  · have hmem : beginMarker profileId ++ nl.text ∈ sectionPieces nl profileId entries last := by simp [sectionPieces]
    subst hcrlf
    rw [hpieces]
    exact mem_append_left _ (mem_append_right _ hmem)
  · rw [hpieces] at hp
    rcases mem_append.1 hp with hp | hp
    · rcases mem_append.1 hp with hp | hp
      · exact hother hlf piece (mem_append_left _ hp)
      · exact sectionPieces_crlf hvalid hp hlf
    · exact hother hlf piece (mem_append_right _ hp)

/-! ## Twice -/

theorem twice_of_located {nl : Newline} (hstyle : newlineOf existing = nl) (huniform : UniformNewline existing)
    (hvalid : Valid profileId entries) (hvalid' : Valid profileId entries')
      (hloc : Located existing profileId before first body last after)
    (hflat : ∀ piece ∈ body, opensSection (stripLineEnd piece) = false) :
    replaceManagedSection (rejoined nl before (sectionLines profileId entries) last after) profileId entries' =
      replaceManagedSection existing profileId entries' := by
  have hkeepBefore := map_retie_eq_self hloc.mem_of_before
    (fun piece hp => huniform.suffix piece (hloc.mem_of_before piece hp))
  have hkeepAfter := map_retie_eq_self hloc.mem_of_after
    (fun piece hp => huniform.suffix piece (hloc.mem_of_after piece hp))
  have hpieces := splitInclusive_rejoined hvalid hloc nl
  rw [hstyle] at hkeepBefore hkeepAfter
  rw [hkeepBefore, hkeepAfter] at hpieces
  have hnl := newlineOf_placed hvalid hpieces (fun hlf piece hp => by
    rcases mem_append.1 hp with hp | hp
    · exact not_crlf_of_lf (hstyle.trans hlf) (hloc.mem_of_before piece hp)
    · exact not_crlf_of_lf (hstyle.trans hlf) (hloc.mem_of_after piece hp))
  have hsecond : replaceManagedSection existing profileId entries' =
      .ok (rejoined nl before (sectionLines profileId entries') last after) :=
    replaceManagedSection_ok.2 ⟨hvalid', .inr ⟨_, _, _, _, _, hloc, hflat, by rw [hstyle]⟩⟩
  have hend : lineEnd nl (endMarker profileId ++ lineEnd nl last) = lineEnd nl last :=
    if_congr (terminated_endMarker hvalid) rfl rfl
  rw [replace_again hvalid hpieces hloc.before_unmarked hloc.after_unmarked hvalid', hnl, hsecond]
  unfold rejoined
  rw [hend]

theorem separated_unmarked (hunmarked : ∀ line ∈ lines existing, Unmarked profileId line) (nl : Newline) :
    ∀ piece ∈ splitInclusive (separated existing nl), Unmarked profileId (stripLineEnd piece) := by
  intro piece hp
  obtain ⟨blanks, hblanks, hlines⟩ := lines_separated existing nl
  have hmem : trim (stripLineEnd piece) ∈ (lines existing).map trim ++ blanks := by
    rw [← hlines]
    exact mem_map_of_mem (mem_map_of_mem hp)
  rcases mem_append.1 hmem with hmem | hmem
  · obtain ⟨line, hline, htrim⟩ := mem_map.1 hmem
    have h := hunmarked line hline
    unfold Unmarked at h ⊢
    rw [← htrim]
    exact h
  · exact unmarked_of_blank (hblanks _ hmem) profileId

theorem splitInclusive_appended_section (existing : Str) (hvalid : Valid profileId entries) (nl : Newline) :
    splitInclusive (appendSection existing nl (renderSection profileId entries nl)) =
      splitInclusive (separated existing nl) ++ sectionPieces nl profileId entries nl.text ++ [] := by
  have hterm : lineEnd nl nl.text = nl.text := if_pos (terminated_newline nl [])
  rw [splitInclusive_appended hvalid, append_nil, sectionPieces, hterm, sectionLines, map_cons, map_append,
    map_singleton, map_cons, cons_append]

/-- A piece before an appended section is one of the file, its last line with the newline, or a blank line. -/
theorem mem_separated {nl : Newline} {piece : Str} (hp : piece ∈ splitInclusive (separated existing nl)) :
    piece ∈ splitInclusive existing ∨ (∃ l, l.getLast? = existing.getLast? ∧ piece = l ++ nl.text) ∨
      piece = nl.text := by
  obtain ⟨blanks, hblanks, ⟨-, hsplit⟩ | ⟨front, l, hexisting, -, hend, hsplit⟩⟩ := splitInclusive_separated existing nl
  · rw [hsplit] at hp
    exact (mem_append.1 hp).imp_right fun hp => .inr (hblanks piece hp)
  · rw [hsplit] at hp
    rcases mem_append.1 hp with hp | hp
    · exact .inl (by rw [hexisting]; exact mem_append_left _ hp)
    · exact .inr ((mem_cons.1 hp).imp (fun hp => ⟨l, hend, hp⟩) (hblanks piece))

theorem twice_of_appended {nl : Newline} (hstyle : newlineOf existing = nl) (huniform : UniformNewline existing)
    (hvalid : Valid profileId entries) (hvalid' : Valid profileId entries') (hunmarked : ∀ line ∈ lines existing,
      Unmarked profileId line)
    (hlast : ¬ EndsInCarriageReturn existing profileId) :
    replaceManagedSection (appendSection existing nl (renderSection profileId entries nl)) profileId entries' =
      replaceManagedSection existing profileId entries' := by
  have hpieces := splitInclusive_appended_section existing hvalid nl
  have hunm := separated_unmarked hunmarked nl
  -- every piece before the section ends in the newline of the file
  have hends : ∀ piece ∈ splitInclusive (separated existing nl), Terminated piece → nl.text <:+ piece := by
    intro piece hp hterm
    rcases mem_separated hp with hp | ⟨l, -, rfl⟩ | rfl
    · exact hstyle ▸ huniform.suffix piece hp hterm
    · exact suffix_append _ _
    · exact suffix_rfl
  -- and none ends in a carriage return and a line feed when the file has none
  have hlf : nl = .lf → ∀ piece ∈ splitInclusive (separated existing nl) ++ [], ¬ ['\r', '\n'] <:+ piece := by
    intro hnl piece hp
    rw [append_nil] at hp
    rcases mem_separated hp with hp | ⟨l, hend, rfl⟩ | rfl
    · exact not_crlf_of_lf (hstyle.trans hnl) hp
    · rw [hnl]
      exact not_crlf_lf fun hcr => hlast ⟨hstyle.trans hnl, hend ▸ hcr, hunmarked⟩
    · rw [hnl]
      decide
  have hnl := newlineOf_placed hvalid hpieces hlf
  have hsecond : replaceManagedSection existing profileId entries' =
      .ok (appendSection existing nl (renderSection profileId entries' nl)) :=
    replaceManagedSection_ok.2 ⟨hvalid', .inl ⟨hunmarked, by rw [hstyle]⟩⟩
  have hkeep : (splitInclusive (separated existing nl)).map (retie nl) = splitInclusive (separated existing nl) := by
    have hmem : ∀ piece ∈ splitInclusive (separated existing nl),
        piece ∈ splitInclusive (appendSection existing nl (renderSection profileId entries nl)) := by
      intro piece hp
      rw [hpieces]
      exact mem_append_left _ (mem_append_left _ hp)
    have hself := map_retie_eq_self hmem (by rw [hnl]; exact hends)
    rwa [hnl] at hself
  have hend : lineEnd nl (endMarker profileId ++ lineEnd nl nl.text) = nl.text :=
    if_pos ((terminated_endMarker hvalid).2 (terminated_newline _ []))
  rw [replace_again hvalid hpieces hunm (by simp) hvalid', hnl, hsecond, appendSection_append]
  unfold rejoined
  rw [hend, hkeep, flatten_splitInclusive, renderSection]
  simp

/-- A final carriage return becomes one before a line feed, and the second replacement puts it everywhere. -/
theorem twice_of_carriage_return (hvalid : Valid profileId entries) (hcr : EndsInCarriageReturn existing profileId) :
    ∃ output, replaceManagedSection existing profileId entries = .ok output ∧
      replaceManagedSection output profileId entries ≠ .ok output := by
  obtain ⟨hlf, hlast, hunmarked⟩ := hcr
  have hfirst : replaceManagedSection existing profileId entries =
      .ok (appendSection existing .lf (renderSection profileId entries .lf)) :=
    replaceManagedSection_ok.2 ⟨hvalid, .inl ⟨hunmarked, by rw [hlf]⟩⟩
  have hpieces := splitInclusive_appended_section existing hvalid .lf
  refine ⟨_, hfirst, ?_⟩
  -- the last line of the file got a line feed after its carriage return
  have hcrlf : newlineOf (appendSection existing .lf (renderSection profileId entries .lf)) = .crlf := by
    obtain ⟨blanks, -, ⟨hkeep, -⟩ | ⟨front, l, -, -, hend, hsplit⟩⟩ := splitInclusive_separated existing .lf
    · rcases hkeep with rfl | hterm
      · cases hlast
      · rw [Terminated, hlast] at hterm
        cases hterm
    · rw [hlast] at hend
      obtain ⟨l', rfl⟩ := List.getLast?_eq_some_iff.1 hend
      refine newlineOf_eq_crlf.2 ⟨l', ?_⟩
      rw [hpieces, hsplit]
      simp [Newline.text]
  obtain ⟨hloc, -⟩ := located_sectionPieces hvalid hpieces (separated_unmarked hunmarked .lf) (by simp)
  rw [replace_again hvalid hpieces (separated_unmarked hunmarked .lf) (by simp) hvalid, hcrlf]
  intro hsame
  have hsplit := splitInclusive_rejoined hvalid hloc .crlf
  rw [Except.ok.inj hsame, hpieces, append_assoc, append_assoc] at hsplit
  obtain ⟨-, hsection⟩ := append_inj hsplit (by simp)
  have hbegin : beginMarker profileId ++ Newline.lf.text = beginMarker profileId ++ Newline.crlf.text := by
    exact (List.cons.inj hsection).1
  exact absurd (append_cancel_left hbegin) (by decide)

/-! ## The sections of other profiles -/

theorem unmarked_sectionLines {q : Str} (hvalid : Valid profileId entries) (hq : q ≠ profileId) :
    ∀ line ∈ sectionLines profileId entries, Unmarked q line := by
  intro line hline
  rcases mem_cons.1 hline with rfl | hline
  · unfold Unmarked
    rw [trim_beginMarker hvalid.profile_ne_nil hvalid.profile]
    exact ⟨fun h => hq (append_cancel_left h).symm, beginMarker_ne_endMarker _ _⟩
  · rcases mem_append.1 hline with hline | hline
    · obtain ⟨entry, -, rfl⟩ := mem_map.1 hline
      exact renderEntry_unmarked entry q
    · rw [mem_singleton] at hline
      subst hline
      unfold Unmarked
      rw [trim_endMarker hvalid.profile_ne_nil hvalid.profile]
      exact ⟨(beginMarker_ne_endMarker _ _).symm, fun h => hq (append_cancel_left h).symm⟩

end

theorem parseEntries_append (a b : List Str) :
    parseEntries (a ++ b) = (do
      let first ← parseEntries a
      let rest ← parseEntries b
      pure (first ++ rest)) := by
  induction a with
  | nil =>
    rw [nil_append]
    cases parseEntries b <;> rfl
  | cons line a ih =>
    rw [cons_append, parseEntries, parseEntries, ih]
    by_cases hempty : (trim line).isEmpty = true
    · rw [if_pos hempty, if_pos hempty]
    · rw [if_neg hempty, if_neg hempty]
      cases parseEntry (trim line) with
      | error e => rfl
      | ok entry =>
        cases parseEntries a with
        | error e => rfl
        | ok first => cases parseEntries b <;> rfl

theorem parseEntry_beginMarker (profileId : Str) : parseEntry (beginMarker profileId) = .error entryInvalid := by
  obtain ⟨rest, hrest⟩ := beginMarker_eq profileId
  have hstrip : stripDisabled (beginMarker profileId) = (beginMarker profileId, true) := by
    have hsplit : disabledPrefix = '#' :: ' ' :: 'N' :: disabledPrefix.drop 3 := by decide
    unfold stripDisabled
    rw [hrest, hsplit]
    simp [stripPrefix, List.isPrefixOf]
  have hcomment : splitOnce '#' (beginMarker profileId) = some ([], ' ' :: 'B' :: rest) := by
    rw [hrest]
    exact splitOnce_append (a := []) (by simp) _
  unfold parseEntry
  simp only [hstrip, splitComment, hcomment]
  rfl

/-- A section that opens inside the lines of another one makes them no entries. -/
theorem parseEntries_opens {first profileId : Str} (h : trim first = beginMarker profileId) (ls : List Str) :
    parseEntries (first :: ls) = .error entryInvalid := by
  have hne : ¬ (trim first).isEmpty = true := by
    obtain ⟨rest, hrest⟩ := beginMarker_eq profileId
    rw [h, hrest]
    simp
  rw [parseEntries, if_neg hne, h, parseEntry_beginMarker, Check.error_bind]

theorem findIdx_around {p : Str → Bool} {middle : List Str} (h : ∀ line ∈ middle, p line = false)
    (front back : List Str) :
    (front ++ (middle ++ back)).findIdx p =
      if front.findIdx p < front.length then front.findIdx p else back.findIdx p + middle.length + front.length := by
  have hmiddle : middle.findIdx p = middle.length := findIdx_eq_length.2 h
  rw [findIdx_append, findIdx_append, hmiddle, if_neg (Nat.lt_irrefl _)]

theorem countP_around {p : Str → Bool} {middle : List Str} (h : ∀ line ∈ middle, p line = false)
    (front back : List Str) : (front ++ (middle ++ back)).countP p = front.countP p + back.countP p := by
  have hmiddle : middle.countP p = 0 := countP_eq_zero.2 fun line hline => by simp [h line hline]
  rw [countP_append, countP_append, hmiddle, Nat.zero_add]

theorem take_around (front middle back : List Str) (k : Nat) :
    (front ++ (middle ++ back)).take (k + middle.length + front.length) = front ++ (middle ++ back.take k) := by
  rw [Nat.add_comm, take_length_add_append, Nat.add_comm k, take_length_add_append]

/-- **Lines without a marker of a profile may be exchanged**, if nothing follows them or both stop the parser. -/
theorem parseLines_exchange {q : Str} {front middle middle' back : List Str} (h : ∀ line ∈ middle, Unmarked q line)
    (h' : ∀ line ∈ middle', Unmarked q line)
    (hparse : back = [] ∨ ∀ ls, parseEntries (middle ++ ls) = parseEntries (middle' ++ ls)) :
    parseLines (front ++ (middle ++ back)) q = parseLines (front ++ (middle' ++ back)) q := by
  have hmark : ∀ ls : List Str, (∀ line ∈ ls, Unmarked q line) →
      (∀ line ∈ ls, decide (trim line = beginMarker q) = false) ∧
        ∀ line ∈ ls, decide (trim line = endMarker q) = false :=
    fun ls hls => ⟨fun line hline => decide_eq_false (hls line hline).1,
      fun line hline => decide_eq_false (hls line hline).2⟩
  obtain ⟨hb, he⟩ := hmark middle h
  obtain ⟨hb', he'⟩ := hmark middle' h'
  unfold parseLines
  simp only [countP_around hb, countP_around he, countP_around hb', countP_around he', findIdx_around hb,
    findIdx_around he, findIdx_around hb', findIdx_around he']
  generalize (fun line => decide (trim line = beginMarker q)) = begins
  generalize (fun line => decide (trim line = endMarker q)) = ends
  by_cases hnone : front.countP begins + back.countP begins = 0 ∧ front.countP ends + back.countP ends = 0
  · rw [if_pos hnone, if_pos hnone]
  rw [if_neg hnone, if_neg hnone]
  by_cases hone : front.countP begins + back.countP begins ≠ 1 ∨ front.countP ends + back.countP ends ≠ 1
  · rw [if_pos hone, if_pos hone]
  rw [if_neg hone, if_neg hone]
  -- where the two markers are: before the middle lines or behind them
  by_cases hbegin : front.findIdx begins < front.length
  · rw [if_pos hbegin, if_pos hbegin]
    by_cases hend : front.findIdx ends < front.length
    · rw [if_pos hend, if_pos hend, take_append_of_le_length (Nat.le_of_lt hend),
        take_append_of_le_length (Nat.le_of_lt hend)]
    · rw [if_neg hend, if_neg hend, if_neg (by omega), if_neg (by omega), take_around, take_around,
        drop_append_of_le_length hbegin, drop_append_of_le_length hbegin, parseEntries_append _ (middle ++ _),
        parseEntries_append _ (middle' ++ _)]
      rcases hparse with rfl | hparse
      · exfalso
        -- the end marker is there, and it is not in front
        apply hend
        rw [findIdx_lt_length]
        by_contra hno
        apply hone
        right
        rw [countP_eq_zero.2 fun line hline hmark => hno ⟨line, hline, hmark⟩, countP_nil]
        decide
      · rw [hparse]
  · rw [if_neg hbegin, if_neg hbegin]
    by_cases hend : front.findIdx ends < front.length
    · rw [if_pos hend, if_pos hend, if_pos (by omega), if_pos (by omega)]
    · rw [if_neg hend, if_neg hend]
      by_cases hord : back.findIdx ends ≤ back.findIdx begins
      · rw [if_pos (by omega), if_pos (by omega)]
      · rw [if_neg (by omega), if_neg (by omega), take_around, take_around]
        have hdrop : ∀ (m ls : List Str) (k : Nat), (front ++ (m ++ ls)).drop (k + m.length + front.length + 1) =
          ls.drop (k + 1) := by
          intro m ls k
          rw [show k + m.length + front.length + 1 = front.length + (m.length + (k + 1)) by omega,
            drop_length_add_append, drop_length_add_append]
        rw [hdrop, hdrop]

section
variable {existing profileId q output : Str} {entries : List ManagedHostsEntry}

section
variable (h : replaceManagedSection existing profileId entries = .ok output)
include h

/-- **The sections of the other profiles are read as before.** -/
theorem others_of_ok (hq : q ≠ profileId) (hdisjoint : Disjoint existing profileId q) :
    parseManagedHosts output q = parseManagedHosts existing q := by
  obtain ⟨hvalid, hout⟩ := replaceManagedSection_ok.1 h
  have hsection := unmarked_sectionLines hvalid hq
  unfold parseManagedHosts
  rcases hout with ⟨-, rfl⟩ | ⟨before, first, body, last, after, hloc, -, rfl⟩
  · obtain ⟨blanks, hblanks, hlines⟩ := lines_separated existing (newlineOf existing)
    have hnew : ∀ line ∈ blanks ++ (sectionLines profileId entries).map trim, Unmarked q line := by
      rw [forall_mem_append, forall_mem_map]
      exact ⟨fun line hline => unmarked_of_blank (by rw [hblanks line hline]; rfl) q,
        fun line hline => (hsection line hline).trim⟩
    have hexchange :
        parseLines ((lines existing).map trim ++ ((blanks ++ (sectionLines profileId entries).map trim) ++ [])) q =
        parseLines ((lines existing).map trim ++ ([] ++ [])) q :=
      parseLines_exchange hnew (by simp) (.inl rfl)
    rw [append_nil, append_nil, append_nil] at hexchange
    rw [lines_appended hvalid, ← parseLines_map_trim, map_append, hlines, append_assoc, hexchange, parseLines_map_trim]
  · rw [lines_rejoined hvalid hloc, hloc.lines_eq]
    have hold : ∀ line ∈ stripLineEnd first :: (body.map stripLineEnd ++ [stripLineEnd last]), Unmarked q line := by
      have hmapped := forall_mem_map.2 (hdisjoint before first body last after hloc)
      rwa [map_cons, map_append] at hmapped
    -- both sections stop the parser of a section around them
    have hstop : ∀ ls, parseEntries (sectionLines profileId entries ++ ls) =
        parseEntries (stripLineEnd first :: (body.map stripLineEnd ++ [stripLineEnd last]) ++ ls) := by
      intro ls
      unfold sectionLines
      rw [cons_append, cons_append, parseEntries_opens (trim_beginMarker hvalid.profile_ne_nil hvalid.profile),
        parseEntries_opens hloc.first_marks]
    rw [append_assoc, parseLines_exchange hsection hold (.inr hstop)]
    simp

/-! ## One pair of markers -/

/-- **The output has one pair of markers, in order.** -/
theorem onePair_of_ok :
    ∃ start finish, positions (beginMarker profileId) (lines output) = [start] ∧
      positions (endMarker profileId) (lines output) = [finish] ∧ start < finish := by
  obtain ⟨hvalid, ⟨hunmarked, rfl⟩ | ⟨before, first, body, last, after, hloc, -, rfl⟩⟩ := replaceManagedSection_ok.1 h
  · exact onePair_of_placed hvalid (splitInclusive_appended_section existing hvalid _)
      (separated_unmarked hunmarked _) (by simp)
  · -- other newlines around the section do not make a line a marker
    have hretied : ∀ ls : List Str, (∀ piece ∈ ls, piece ∈ splitInclusive existing) →
        (∀ piece ∈ ls, Unmarked profileId (stripLineEnd piece)) →
        ∀ piece ∈ ls.map (retie (newlineOf existing)), Unmarked profileId (stripLineEnd piece) := by
      intro ls hmem hls
      rw [← forall_mem_map (f := stripLineEnd), map_stripLineEnd_retie hmem, forall_mem_map]
      exact hls
    exact onePair_of_placed hvalid (splitInclusive_rejoined hvalid hloc _)
      (hretied before hloc.mem_of_before hloc.before_unmarked) (hretied after hloc.mem_of_after hloc.after_unmarked)

/-! ## The laws -/

theorem twice_of_ok {entries' : List ManagedHostsEntry} (huniform : UniformNewline existing)
    (hlast : ¬ EndsInCarriageReturn existing profileId) :
    replaceManagedSection output profileId entries' = replaceManagedSection existing profileId entries' := by
  obtain ⟨hvalid, hout⟩ := replaceManagedSection_ok.1 h
  by_cases hvalid' : Valid profileId entries'
  · rcases hout with ⟨hunmarked, rfl⟩ | ⟨before, first, body, last, after, hloc, hflat, rfl⟩
    · exact twice_of_appended rfl huniform hvalid hvalid' hunmarked hlast
    · exact twice_of_located rfl huniform hvalid hvalid' hloc hflat
  · -- an entry list that is refused is refused whatever the file
    unfold replaceManagedSection
    cases hp : validateProfileId profileId with
    | error e => rfl
    | ok u =>
      cases he : validateEntries entries' with
      | error e => rfl
      | ok v =>
        obtain ⟨hne, hprofile⟩ := (validateProfileId_ok profileId).1 hp
        exact absurd ⟨hne, hprofile, (validateEntries_ok entries').1 he⟩ hvalid'

end

/-- **The laws of sections hold in a file with one newline style** exactly if it does not end in a carriage return
alone, or has a section already. -/
theorem section_laws_iff (huniform : UniformNewline existing) (hprofile : validateProfileId profileId = .ok ()) :
    SectionLaws existing profileId ↔ ¬ EndsInCarriageReturn existing profileId := by
  constructor
  · intro hlaws hcr
    obtain ⟨hne, hchars⟩ := (validateProfileId_ok profileId).1 hprofile
    have hvalid : Valid profileId [] := ⟨hne, hchars, by simp⟩
    obtain ⟨output, hok, hagain⟩ := twice_of_carriage_return hvalid hcr
    exact hagain ((hlaws.twice [] [] output hok).trans hok)
  · intro hcr
    exact {
      twice := fun _ _ _ h => twice_of_ok h huniform hcr
      others := fun _ _ _ h hq hdisjoint => others_of_ok h hq hdisjoint
      onePair := fun _ _ h => onePair_of_ok h
      noForgery := fun entry h => ⟨oneLine_renderEntry h, renderEntry_opensNone entry, renderEntry_unmarked entry⟩ }

end

theorem section_laws_sample : UniformNewline (sampleHosts .crlf) ∧ validateProfileId sampleProfile = .ok () ∧
    SectionLaws (sampleHosts .crlf) sampleProfile := by
  have huniform : UniformNewline (sampleHosts .crlf) := .inl (by decide)
  have hprofile : validateProfileId sampleProfile = .ok () := by decide
  refine ⟨huniform, hprofile, (section_laws_iff huniform hprofile).2 fun h => ?_⟩
  exact absurd h.1 (by decide)

def carriageReturnHosts : Str := "::1 a\r".toList

/-- The section is appended after a line feed; replaced by itself, every newline of the file changes. -/
theorem carriage_return_is_spread : UniformNewline carriageReturnHosts ∧
    replaceManagedSection carriageReturnHosts sampleProfile [] =
      .ok (carriageReturnHosts ++ '\n' :: sampleText .lf [beginMarker sampleProfile, endMarker sampleProfile]) ∧
    replaceManagedSection (carriageReturnHosts ++ '\n' :: sampleText .lf
      [beginMarker sampleProfile, endMarker sampleProfile])
        sampleProfile [] =
      .ok (carriageReturnHosts ++ '\n' :: sampleText .crlf [beginMarker sampleProfile, endMarker sampleProfile]) ∧
    ¬ SectionLaws carriageReturnHosts sampleProfile := by
  refine ⟨.inr (by decide), by decide, by decide, fun hlaws => ?_⟩
  have hsame := hlaws.twice [] []
    (carriageReturnHosts ++ '\n' :: sampleText .lf [beginMarker sampleProfile, endMarker sampleProfile]) (by decide)
  exact absurd hsame (by decide)

end Hosts
end NetTool
