import NetTool.Hosts.Section
/-!
# Hosts.Layout — the lines of a file with its section replaced

Whichever way the section got into the file, its lines are there in one piece, and up to white space the lines around it
are those of the file before (`output_lines`).  An appended section starts a line of its own after at most one blank
line.
-/
namespace NetTool
namespace Hosts

open Str List

/-! ## An appended section -/

def separated (existing : Str) (nl : Newline) : Str := appendSection existing nl []

theorem appendSection_append (existing : Str) (nl : Newline) (managed : Str) :
    appendSection existing nl managed = separated existing nl ++ managed := by
  unfold separated appendSection
  rw [append_nil]

/-- A text that ends in a line feed or is empty may be kept as it is; any other gets a newline. -/
theorem separated_cases (existing : Str) (nl : Newline) :
    ((existing = [] ∨ Terminated existing) ∧
        (separated existing nl = existing ∨ separated existing nl = existing ++ nl.text)) ∨
      (existing ≠ [] ∧ ¬ Terminated existing ∧
        (separated existing nl = existing ++ nl.text ∨ separated existing nl = existing ++ nl.text ++ nl.text)) := by
  unfold separated appendSection
  simp only [append_nil]
  by_cases hadd : (!existing.isEmpty && !(existing.getLast? == some '\n' || existing.getLast? == some '\r')) = true
  · rw [if_pos hadd]
    simp only [Bool.and_eq_true, Bool.not_eq_true', isEmpty_eq_false_iff, Bool.or_eq_false_iff,
      beq_eq_false_iff_ne] at hadd
    exact .inr ⟨hadd.1, hadd.2.1, (ite_eq_or_eq _ _ _).symm⟩
  · rw [if_neg hadd]
    by_cases hkeep : existing = [] ∨ Terminated existing
    · exact .inl ⟨hkeep, (ite_eq_or_eq _ _ _).symm⟩
    · obtain ⟨hnil, hterm⟩ := not_or.1 hkeep
      -- two newlines never end in a carriage return, so one newline is added
      have hnot : (nl.text ++ nl.text).isSuffixOf existing = false := by
        rw [Bool.eq_false_iff]
        intro hsuffix
        obtain ⟨front, rfl⟩ := isSuffixOf_iff_suffix.1 hsuffix
        rw [← append_assoc] at hterm
        exact hterm (terminated_newline nl _)
      rw [if_pos (by simp [hnil, hnot])]
      exact .inr ⟨hnil, hterm, .inl rfl⟩

theorem separated_terminated (existing : Str) (nl : Newline) :
    separated existing nl = [] ∨ Terminated (separated existing nl) := by
  rcases separated_cases existing nl with ⟨hkeep, h | h⟩ | ⟨-, -, h | h⟩
  · rw [h]; exact hkeep
  · rw [h]; exact .inr (terminated_newline nl _)
  · rw [h]; exact .inr (terminated_newline nl _)
  · rw [h]; exact .inr (terminated_newline nl _)

theorem renderSection_eq (profileId : Str) (entries : List ManagedHostsEntry) (nl : Newline) :
    renderSection profileId entries nl = (sectionLines profileId entries).flatMap (· ++ nl.text) := by
  have hconcat := intercalate_concat nl.text (beginMarker profileId :: entries.map renderEntry) (endMarker profileId)
  rw [cons_append] at hconcat
  unfold renderSection sectionLines
  rw [hconcat]
  simp

section
variable {existing profileId : Str} {entries : List ManagedHostsEntry} {before body after : List Str} {first last : Str}

theorem splitInclusive_appended (h : Valid profileId entries) (nl : Newline) :
    splitInclusive (appendSection existing nl (renderSection profileId entries nl)) =
      splitInclusive (separated existing nl) ++ (sectionLines profileId entries).map (· ++ nl.text) := by
  rw [appendSection_append, splitInclusive_append (separated_terminated existing nl), renderSection_eq,
    (splitInclusive_lines nl fun l hl => (h.oneLine l hl).1).2]

/-- A newline after the last line changes at most white space at its end. -/
theorem trim_stripLineEnd_newline (nl : Newline) (l : Str) : trim (stripLineEnd (l ++ nl.text)) = trim l := by
  cases nl with
  | lf =>
    show trim (stripLineEnd (l ++ ['\n'])) = _
    rw [stripLineEnd_line]
    by_cases hcr : l.getLast? = some '\r'
    · obtain ⟨front, rfl⟩ := List.getLast?_eq_some_iff.1 hcr
      rw [if_pos hcr, dropLast_concat, trim_append_of_all (all_eq_true.1 (by decide))]
    · rw [if_neg hcr]
  | crlf => rw [append_crlf, stripLineEnd_line, if_pos (by simp), dropLast_concat]

/-- The pieces of the text before an appended section: those of the file, the last of them ended, and a blank line or
none. -/
theorem splitInclusive_separated (existing : Str) (nl : Newline) :
    ∃ blanks, (∀ piece ∈ blanks, piece = nl.text) ∧
      (((existing = [] ∨ Terminated existing) ∧ splitInclusive (separated existing nl) =
        splitInclusive existing ++ blanks) ∨
        ∃ front last, splitInclusive existing = front ++ [last] ∧ '\n' ∉ last ∧ last.getLast? = existing.getLast? ∧
          splitInclusive (separated existing nl) = front ++ (last ++ nl.text) :: blanks) := by
  have hblank : ∀ a : Str, (a = [] ∨ Terminated a) → splitInclusive (a ++ nl.text) = splitInclusive a ++ [nl.text] := by
    intro a ha
    rw [splitInclusive_append ha, splitInclusive_newline]
  rcases separated_cases existing nl with ⟨hkeep, h | h⟩ | ⟨hne, hterm, hsep⟩
  · exact ⟨[], by simp, .inl ⟨hkeep, by rw [h, append_nil]⟩⟩
  · exact ⟨[nl.text], by simp, .inl ⟨hkeep, by rw [h, hblank existing hkeep]⟩⟩
  · obtain ⟨front, last, hsplit⟩ := eq_nil_or_concat (splitInclusive existing) |>.resolve_left (fun hnil => by
      have htext := flatten_splitInclusive existing
      rw [hnil] at htext
      exact hne htext.symm)
    rw [concat_eq_append] at hsplit
    have hpieces := pieces_splitInclusive existing
    have htext := flatten_splitInclusive existing
    rw [hsplit] at hpieces htext
    have hlast : '\n' ∉ last ∧ last ≠ [] := by
      rcases hpieces.of_mem (mem_append_right front (mem_singleton_self last)) with hp | ⟨l, -, rfl⟩
      · exact hp
      · exact absurd (htext ▸ hpieces.terminated_flatten.2 (terminated_line l)) hterm
    have hend : last.getLast? = existing.getLast? := by
      rw [← htext, flatten_append, flatten_singleton, List.getLast?_append, List.getLast?_eq_some_getLast hlast.2]
      rfl
    -- the last line gets its newline
    have hnew : Pieces (front ++ [last ++ nl.text]) :=
      hpieces.append_left.append (fun p hp => hpieces.terminated_of_mem (by simp) hp) (.newline hlast.1 .nil)
    have hended : splitInclusive (existing ++ nl.text) = front ++ [last ++ nl.text] := by
      rw [← hnew.splitInclusive_flatten, ← htext]
      simp
    rcases hsep with h | h
    · exact ⟨[], by simp, .inr ⟨front, last, hsplit, hlast.1, hend, by rw [h, hended]⟩⟩
    · refine ⟨[nl.text], by simp, .inr ⟨front, last, hsplit, hlast.1, hend, ?_⟩⟩
      rw [h, hblank _ (.inr (terminated_newline nl _)), hended, append_assoc]
      rfl

theorem lines_separated (existing : Str) (nl : Newline) :
    ∃ blanks, (∀ line ∈ blanks, line = []) ∧
      (lines (separated existing nl)).map trim = (lines existing).map trim ++ blanks := by
  have hline : trim (stripLineEnd nl.text) = [] := by cases nl <;> decide
  obtain ⟨blanks, hblanks, hpieces⟩ := splitInclusive_separated existing nl
  refine ⟨(blanks.map stripLineEnd).map trim, ?_, ?_⟩
  · intro line hl
    rw [map_map] at hl
    obtain ⟨piece, hp, rfl⟩ := mem_map.1 hl
    rw [hblanks piece hp]
    exact hline
  · unfold lines
    rcases hpieces with ⟨-, hsplit⟩ | ⟨front, last, hexisting, hlast, -, hsplit⟩
    · rw [hsplit, map_append, map_append]
    · rw [hsplit, hexisting]
      simp only [map_append, map_cons, map_nil, trim_stripLineEnd_newline, append_assoc, singleton_append]
      rw [stripLineEnd_not_terminated (not_terminated hlast)]

/-! ## A section in its place -/

/-- The section's lines as pieces, the last one ended as the old section's last. -/
def sectionPieces (nl : Newline) (profileId : Str) (entries : List ManagedHostsEntry) (last : Str) : List Str :=
  (beginMarker profileId :: entries.map renderEntry).map (· ++ nl.text) ++ [endMarker profileId ++ lineEnd nl last]

theorem splitInclusive_rejoined (hvalid : Valid profileId entries)
    (h : Located existing profileId before first body last after) (nl : Newline) :
    splitInclusive (rejoined nl before (sectionLines profileId entries) last after) =
      before.map (retie nl) ++ sectionPieces nl profileId entries last ++ after.map (retie nl) := by
  have hline := hvalid.oneLine
  have hpieces := h.isPieces
  have hlastAfter : Pieces (last :: after) := hpieces.append_right.tail.append_right
  have hend : '\n' ∉ endMarker profileId := (hline _ (by simp [sectionLines])).1
  have hends : endMarker profileId ≠ [] := by
    obtain ⟨rest, hrest⟩ := endMarker_eq profileId
    rw [hrest]
    simp
  -- the end marker's line and what follows it
  have htail : Pieces ((endMarker profileId ++ lineEnd nl last) :: after.map (retie nl)) := by
    by_cases hterm : Terminated last
    · have hnl : lineEnd nl last = nl.text := if_pos hterm
      rw [hnl]
      exact .newline hend hlastAfter.tail.map_retie
    · have hnl : lineEnd nl last = [] := if_neg hterm
      have hafter : after = [] := by
        by_contra hne
        exact hterm (Pieces.terminated_of_mem (a := [last]) (b := after) hlastAfter hne (by simp))
      rw [hnl, hafter, append_nil]
      exact .last hend hends
  have hfront : Pieces ((beginMarker profileId :: entries.map renderEntry).map (· ++ nl.text)) := by
    refine (splitInclusive_lines nl fun l hl => (hline l ?_).1).1
    exact mem_append_left _ hl
  have hsection : Pieces ((beginMarker profileId :: entries.map renderEntry).map (· ++ nl.text) ++
      ((endMarker profileId ++ lineEnd nl last) :: after.map (retie nl))) := by
    refine hfront.append (fun piece hp => ?_) htail
    obtain ⟨l, -, rfl⟩ := mem_map.1 hp
    exact terminated_newline nl l
  have hall : Pieces (before.map (retie nl) ++ (sectionPieces nl profileId entries last ++ after.map (retie nl))) := by
    refine hpieces.append_left.map_retie.append (fun piece hp => ?_) ?_
    · obtain ⟨p, hbefore, rfl⟩ := mem_map.1 hp
      exact terminated_retie (h.before_terminated p hbefore)
    · unfold sectionPieces
      rw [append_assoc]
      exact hsection
  have htext : rejoined nl before (sectionLines profileId entries) last after =
      (before.map (retie nl) ++ (sectionPieces nl profileId entries last ++ after.map (retie nl))).flatten := by
    have hconcat := intercalate_concat nl.text (beginMarker profileId :: entries.map renderEntry) (endMarker profileId)
    rw [cons_append] at hconcat
    unfold rejoined sectionPieces sectionLines
    rw [hconcat, flatMap_def]
    simp
  rw [htext, hall.splitInclusive_flatten, append_assoc]

/-- A line of a text fits the newline the text is joined with. -/
theorem fits_newlineOf {piece : Str} (hmem : piece ∈ splitInclusive existing) (hterm : Terminated piece) :
    (newlineOf existing).Fits (stripLineEnd piece) := by
  have hpieces := pieces_splitInclusive existing
  refine ⟨newline_not_mem_stripLineEnd hpieces hmem, fun hlf hcr => ?_⟩
  rcases hpieces.of_mem hmem with ⟨hl, -⟩ | ⟨l, hl, rfl⟩
  · exact not_terminated hl hterm
  · rw [stripLineEnd_line] at hcr
    -- a line that ended in a carriage return would make it the newline of the text
    by_cases hlast : l.getLast? = some '\r'
    · obtain ⟨front, rfl⟩ := List.getLast?_eq_some_iff.1 hlast
      have hcrlf : newlineOf existing = .crlf := newlineOf_eq_crlf.2 ⟨front, by simpa using hmem⟩
      rw [hcrlf] at hlf
      cases hlf
    · rw [if_neg hlast] at hcr
      exact hlast hcr

theorem map_stripLineEnd_retie {ls : List Str} (hmem : ∀ piece ∈ ls, piece ∈ splitInclusive existing) :
    (ls.map (retie (newlineOf existing))).map stripLineEnd = ls.map stripLineEnd := by
  rw [map_map]
  exact map_congr_left fun piece hp => stripLineEnd_retie (fits_newlineOf (hmem piece hp))

theorem map_stripLineEnd_sectionPieces (h : Valid profileId entries) (nl : Newline) (last : Str) :
    (sectionPieces nl profileId entries last).map stripLineEnd = sectionLines profileId entries := by
  have hfits : ∀ l ∈ sectionLines profileId entries, nl.Fits l := fun l hl => (h.oneLine l hl).fits
  have hend : stripLineEnd (endMarker profileId ++ lineEnd nl last) = endMarker profileId := by
    have hfit := hfits (endMarker profileId) (by simp [sectionLines])
    by_cases hterm : Terminated last
    · have hnl : lineEnd nl last = nl.text := if_pos hterm
      rw [hnl, stripLineEnd_newline hfit]
    · have hnl : lineEnd nl last = [] := if_neg hterm
      rw [hnl, append_nil, stripLineEnd_not_terminated (not_terminated hfit.1)]
  unfold sectionPieces
  rw [map_append, map_singleton, hend, map_stripLineEnd_lines nl, sectionLines, cons_append]
  intro l hl
  apply hfits
  exact mem_append_left _ hl

/-- **The lines of a text whose section was replaced in its place.** -/
theorem lines_rejoined (hvalid : Valid profileId entries)
    (h : Located existing profileId before first body last after) :
    lines (rejoined (newlineOf existing) before (sectionLines profileId entries) last after) =
      before.map stripLineEnd ++ sectionLines profileId entries ++ after.map stripLineEnd := by
  unfold lines
  rw [splitInclusive_rejoined hvalid h, map_append, map_append, map_stripLineEnd_sectionPieces hvalid,
    map_stripLineEnd_retie h.mem_of_before, map_stripLineEnd_retie h.mem_of_after]

theorem lines_appended (hvalid : Valid profileId entries) (nl : Newline) :
    lines (appendSection existing nl (renderSection profileId entries nl)) =
      lines (separated existing nl) ++ sectionLines profileId entries := by
  unfold lines
  rw [splitInclusive_appended hvalid, map_append, map_stripLineEnd_lines nl fun l hl => (hvalid.oneLine l hl).fits]

/-- **The lines of the output, trimmed**: those of the section, between lines that are not markers of the profile. -/
theorem output_lines {output : Str} (h : replaceManagedSection existing profileId entries = .ok output) :
    ∃ front back, (∀ line ∈ front ++ back, Unmarked profileId line) ∧
      (lines output).map trim = front ++ (sectionLines profileId entries).map trim ++ back := by
  obtain ⟨hvalid, hout⟩ := replaceManagedSection_ok.1 h
  rcases hout with ⟨hunmarked, rfl⟩ | ⟨before, first, body, last, after, hloc, -, rfl⟩
  · obtain ⟨blanks, hblank, hlines⟩ := lines_separated existing (newlineOf existing)
    refine ⟨(lines existing).map trim ++ blanks, [], ?_, ?_⟩
    · rw [append_nil, forall_mem_append, forall_mem_map]
      exact ⟨fun line hline => (hunmarked line hline).trim,
        fun line hline => unmarked_of_blank (by rw [hblank line hline]; rfl) profileId⟩
    · rw [lines_appended hvalid, map_append, hlines, append_nil]
  · refine ⟨(before.map stripLineEnd).map trim, (after.map stripLineEnd).map trim, ?_, ?_⟩
    · simp only [forall_mem_append, forall_mem_map]
      exact ⟨fun piece hp => (hloc.before_unmarked piece hp).trim, fun piece hp => (hloc.after_unmarked piece hp).trim⟩
    · rw [lines_rejoined hvalid hloc, map_append, map_append]

end

end Hosts
end NetTool
