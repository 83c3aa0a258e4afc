import Mathlib.Data.List.DropRight
import Mathlib.Data.List.Infix
import Mathlib.Data.List.Basic
import NetTool.Text
/-!
# Lib.Str — text as Rust's `str` trims, searches and cuts it

A text is the list of its characters.  `lines` cuts it after every line feed and drops the line feed with one carriage
return before it; a carriage return at the very end stays.  So a text is its *pieces*, the lines with what ends them
(`splitInclusive`), and what joining lines again does to a text is said piece by piece (`retie`).
-/
namespace NetTool

open List

abbrev Str : Type := List Char

namespace Str

/-! ## White space -/

def trimStart (s : Str) : Str := s.dropWhile isWhitespace
def trimEnd (s : Str) : Str := s.rdropWhile isWhitespace

def trim (s : Str) : Str := trimEnd (trimStart s)

variable {c : Char} {s : Str} {ls : List Str} {sep : Str} {l : Str} {piece : Str} {nl : Newline} {pieces : List Str}

theorem trimStart_cons (hc : isWhitespace c = false) (s : Str) : trimStart (c :: s) = c :: s := by
  simp [trimStart, hc]

theorem trimEnd_append_cons (hc : isWhitespace c = false) (a b : Str) :
    trimEnd (a ++ c :: b) = a ++ c :: trimEnd b := by
  unfold trimEnd List.rdropWhile
  rw [reverse_append, reverse_cons, append_assoc, dropWhile_append]
  by_cases hb : (List.dropWhile isWhitespace b.reverse).isEmpty
  · simp [hc]
  · rw [if_neg hb]
    simp

theorem trimEnd_append_of_all {w : Str} (hw : ∀ c ∈ w, isWhitespace c = true) (s : Str) :
    trimEnd (s ++ w) = trimEnd s := by
  unfold trimEnd List.rdropWhile
  have hnil : List.dropWhile isWhitespace w.reverse = [] :=
    dropWhile_eq_nil_iff.2 (fun c hc => hw c (mem_reverse.1 hc))
  rw [reverse_append, dropWhile_append, hnil]
  simp

theorem trim_cons (hc : isWhitespace c = false) (s : Str) : trim (c :: s) = c :: trimEnd s := by
  unfold trim
  rw [trimStart_cons hc]
  exact trimEnd_append_cons hc [] s

theorem trim_append_of_all {w : Str} (hw : ∀ c ∈ w, isWhitespace c = true) (s : Str) : trim (s ++ w) = trim s := by
  unfold trim
  have hnil : trimStart w = [] := dropWhile_eq_nil_iff.2 hw
  have hsplit : trimStart (s ++ w) = if (trimStart s).isEmpty then trimStart w else trimStart s ++ w :=
    dropWhile_append
  rw [hsplit]
  by_cases hs : (trimStart s).isEmpty
  · rw [if_pos hs, hnil, isEmpty_iff.1 hs]
  · rw [if_neg hs, trimEnd_append_of_all hw]

theorem trim_append_left {w : Str} (hw : ∀ c ∈ w, isWhitespace c = true) (s : Str) : trim (w ++ s) = trim s := by
  unfold trim trimStart
  rw [dropWhile_append_of_pos hw]

theorem trimStart_trimEnd (s : Str) (hs : trimStart s = s) : trimStart (trimEnd s) = trimEnd s := by
  have hpre : trimEnd s <+: s := rdropWhile_prefix isWhitespace s
  rcases hcase : trimEnd s with _ | ⟨c, t⟩
  · rfl
  · obtain ⟨rest, hrest⟩ := hpre
    rw [hcase] at hrest
    have hc : isWhitespace c = false := by
      by_contra hne
      rw [← hrest] at hs
      simp only [trimStart, cons_append, Bool.not_eq_false] at hs hne
      rw [dropWhile_cons_of_pos hne] at hs
      have hlen := (dropWhile_suffix isWhitespace (l := t ++ rest)).length_le
      rw [hs, length_cons] at hlen
      omega
    exact trimStart_cons hc t

theorem trim_trim (s : Str) : trim (trim s) = trim s := by
  have hstart : trimStart (trimEnd (trimStart s)) = trimEnd (trimStart s) :=
    trimStart_trimEnd _ (dropWhile_idempotent isWhitespace s)
  unfold trim
  rw [hstart]
  exact rdropWhile_idempotent isWhitespace _

theorem trim_trimEnd (s : Str) : trim (trimEnd s) = trim s := by
  have happend : s = trimEnd s ++ s.rtakeWhile isWhitespace := rdropWhile_append_rtakeWhile.symm
  conv_rhs => rw [happend]
  exact (trim_append_of_all (fun c hc => mem_rtakeWhile_imp hc) _).symm

theorem trim_of_all (h : ∀ c ∈ s, isWhitespace c = false) : trim s = s := by
  have hstart : trimStart s = s := by
    cases s with
    | nil => rfl
    | cons c s => exact trimStart_cons (h c mem_cons_self) s
  unfold trim
  rw [hstart]
  rcases eq_nil_or_concat s with rfl | ⟨front, c, rfl⟩
  · rfl
  · rw [concat_eq_append] at h ⊢
    exact trimEnd_append_cons (h c (by simp)) front []

theorem count_trim (hc : isWhitespace c = false) (s : Str) : (trim s).count c = s.count c := by
  have hstart : (trimStart s).count c = s.count c := by
    have hzero : (s.takeWhile isWhitespace).count c = 0 := count_eq_zero.2 fun hmem => by
      rw [mem_takeWhile_imp hmem] at hc
      cases hc
    conv_rhs => rw [← takeWhile_append_dropWhile (p := isWhitespace) (l := s), count_append, hzero, Nat.zero_add]
    rfl
  have hend : (trimEnd (trimStart s)).count c = (trimStart s).count c := by
    have hzero : ((trimStart s).rtakeWhile isWhitespace).count c = 0 := count_eq_zero.2 fun hmem => by
      rw [mem_rtakeWhile_imp hmem] at hc
      cases hc
    have happend : trimEnd (trimStart s) ++ (trimStart s).rtakeWhile isWhitespace = trimStart s :=
      rdropWhile_append_rtakeWhile
    conv_rhs => rw [← happend, count_append, hzero, Nat.add_zero]
  unfold trim
  rw [hend, hstart]

def splitWhitespace (s : Str) : List Str := (s.splitOnP isWhitespace).filter (fun word => !word.isEmpty)

theorem splitWhitespace_space (hc : isWhitespace c = true) (s : Str) :
    splitWhitespace (c :: s) = splitWhitespace s := by
  unfold splitWhitespace
  rw [splitOnP_cons_eq_if_modifyHead, if_pos hc]
  rfl

theorem splitWhitespace_word {word : Str} (hne : word ≠ []) (hword : ∀ x ∈ word, isWhitespace x = false)
    (hc : isWhitespace c = true) (s : Str) : splitWhitespace (word ++ c :: s) = word :: splitWhitespace s := by
  unfold splitWhitespace
  rw [splitOnP_append_cons_of_forall_mem hword c hc, filter_cons_of_pos (by simpa using hne)]

/-! ## Search -/

def contains (pattern s : Str) : Bool := s.tails.any pattern.isPrefixOf

theorem contains_iff {pattern s : Str} : contains pattern s = true ↔ pattern <:+: s := by
  unfold contains
  rw [any_eq_true]
  constructor
  · rintro ⟨t, ht, hpre⟩
    exact (List.isPrefixOf_iff_prefix.1 hpre).isInfix.trans ((mem_tails _ _).1 ht).isInfix
  · rintro ⟨a, b, hab⟩
    refine ⟨pattern ++ b, (mem_tails _ _).2 ⟨a, by rw [← hab, append_assoc]⟩, ?_⟩
    exact isPrefixOf_iff_prefix.2 (prefix_append _ _)

theorem not_contains {pattern s : Str} (hc : c ∈ pattern) (hs : c ∉ s) : contains pattern s = false := by
  rw [← Bool.not_eq_true, contains_iff]
  exact fun h => hs (h.subset hc)

def stripPrefix (front s : Str) : Option Str := if front.isPrefixOf s then some (s.drop front.length) else none

theorem stripPrefix_append (front s : Str) : stripPrefix front (front ++ s) = some s := by
  have hpre : front.isPrefixOf (front ++ s) = true := isPrefixOf_iff_prefix.2 (prefix_append _ _)
  simp [stripPrefix, hpre]

theorem stripPrefix_cons_of_ne {c d : Char} (h : c ≠ d) (front s : Str) : stripPrefix (c :: front) (d :: s) = none := by
  simp [stripPrefix, h]

/-- `split_once(c)`: what is before and after the first `c`. -/
def splitOnce (c : Char) : Str → Option (Str × Str)
  | [] => none
  | x :: s => if x = c then some ([], s) else (splitOnce c s).map (fun p => (x :: p.1, p.2))

/-- Induction on a text without the character. -/
theorem notMemInduction {P : ∀ s : Str, c ∉ s → Prop} (nil : P [] not_mem_nil)
    (cons : ∀ x s (hx : x ≠ c) (hs : c ∉ s), P s hs → P (x :: s) (not_mem_cons_of_ne_of_not_mem hx.symm hs)) :
    ∀ s hs, P s hs
  | [], _ => nil
  | x :: s, hs => cons x s (ne_of_not_mem_cons hs).symm (not_mem_of_not_mem_cons hs) (notMemInduction nil cons s _)

theorem splitOnce_of_not_mem (h : c ∉ s) : splitOnce c s = none := by
  induction s, h using notMemInduction with
  | nil => rfl
  | cons x s hx _ ih => simp [splitOnce, hx, ih]

theorem splitOnce_append {a : Str} (h : c ∉ a) (b : Str) : splitOnce c (a ++ c :: b) = some (a, b) := by
  induction a, h using notMemInduction with
  | nil => simp [splitOnce]
  | cons x a hx _ ih => simp [splitOnce, hx, ih]

theorem splitOn_cons_of_ne {c sep : Char} (h : c ≠ sep) (s : Str) :
    (c :: s).splitOn sep = (s.splitOn sep).modifyHead (List.cons c) := by
  unfold List.splitOn
  rw [splitOnP_cons_eq_if_modifyHead, if_neg (by simpa using h)]

theorem splitOn_cons_self (sep : Char) (s : Str) : (sep :: s).splitOn sep = [] :: s.splitOn sep := by
  unfold List.splitOn
  rw [splitOnP_cons_eq_if_modifyHead, if_pos (by simp)]

theorem count_intercalate {c sep : Char} (hc : c ≠ sep) (items : List Str) :
    ([sep].intercalate items).count c = (items.map (List.count c)).sum := by
  induction items with
  | nil => rfl
  | cons item items ih =>
    rw [map_cons, sum_cons, ← ih]
    by_cases hnil : items = []
    · subst hnil
      simp
    · rw [intercalate_cons_of_ne_nil hnil]
      simp [Ne.symm hc]

theorem intercalate_all {p : Char → Bool} (hsep : ∀ c ∈ sep, p c = true) (hls : ∀ l ∈ ls, ∀ c ∈ l, p c = true) :
    ∀ c ∈ sep.intercalate ls, p c = true := by
  induction ls with
  | nil => simp
  | cons l ls ih =>
    intro c hc
    by_cases hnil : ls = []
    · subst hnil
      rw [intercalate_singleton] at hc
      exact hls l (by simp) c hc
    · rw [intercalate_cons_of_ne_nil hnil, mem_append, mem_append] at hc
      rcases hc with (hc | hc) | hc
      · exact hls l (by simp) c hc
      · exact hsep c hc
      · exact ih (fun l hl => hls l (mem_cons_of_mem _ hl)) c hc

/-! ## Splitting at a separator -/

/-- Put a character in front of the first piece. -/
def consHead (c : Char) : List Str → List Str
  | [] => [[c]]
  | l :: ls => (c :: l) :: ls

/-- The pieces between the occurrences of a separator, from the left; `skip` characters of the current one are still to
be passed over. -/
def splitFrom (sep : Str) : Nat → Str → List Str
  | _, [] => [[]]
  | skip + 1, _ :: s => splitFrom sep skip s
  | 0, c :: s =>
    if sep.isPrefixOf (c :: s) then [] :: splitFrom sep (sep.length - 1) s else consHead c (splitFrom sep 0 s)

/-- `split(separator)` with a text as the pattern. -/
def split (sep s : Str) : List Str := splitFrom sep 0 s

theorem splitFrom_of_not_mem (h : c ∉ s) : splitFrom (c :: sep) 0 s = [s] := by
  induction s, h using notMemInduction with
  | nil => rfl
  | cons x s hx _ ih =>
    have hno : (c :: sep).isPrefixOf (x :: s) = false := by simp [List.isPrefixOf, hx.symm]
    rw [splitFrom, hno, ih]
    rfl

theorem splitFrom_skip : ∀ (a b : Str), splitFrom sep a.length (a ++ b) = splitFrom sep 0 b
  | [], _ => rfl
  | _ :: a, b => splitFrom_skip a b

theorem split_append {a b : Str} (ha : c ∉ a) (hb : c ∉ b) : split (c :: sep) (a ++ c :: sep ++ b) = [a, b] := by
  unfold split
  induction a, ha using notMemInduction with
  | nil =>
    have hyes : (c :: sep).isPrefixOf (c :: (sep ++ b)) = true := by
      rw [List.isPrefixOf_iff_prefix]
      exact ⟨b, rfl⟩
    show splitFrom (c :: sep) 0 (c :: (sep ++ b)) = _
    rw [splitFrom, hyes, if_pos rfl, length_cons, Nat.add_sub_cancel, splitFrom_skip, splitFrom_of_not_mem hb]
  | cons x a hx _ ih =>
    have hno : (c :: sep).isPrefixOf (x :: (a ++ c :: sep ++ b)) = false := by simp [List.isPrefixOf, hx.symm]
    rw [cons_append, cons_append, splitFrom, hno, ih]
    rfl

/-! ## Lines -/

/-- `split_inclusive('\n')`. -/
def splitInclusive : Str → List Str
  | [] => []
  | c :: s => if c = '\n' then [c] :: splitInclusive s else consHead c (splitInclusive s)

/-- A piece without its line feed and the carriage return before it. -/
def stripLineEnd (piece : Str) : Str :=
  if piece.getLast? = some '\n' then
    if piece.dropLast.getLast? = some '\r' then piece.dropLast.dropLast else piece.dropLast
  else piece

def lines (s : Str) : List Str := (splitInclusive s).map stripLineEnd

inductive Newline
  | lf
  | crlf
  deriving DecidableEq

def Newline.text : Newline → Str
  | lf => ['\n']
  | crlf => ['\r', '\n']

theorem splitInclusive_line (hl : '\n' ∉ l) (s : Str) :
    splitInclusive (l ++ '\n' :: s) = (l ++ ['\n']) :: splitInclusive s := by
  induction l, hl using notMemInduction with
  | nil => simp [splitInclusive]
  | cons c l hc _ ih =>
    rw [cons_append, splitInclusive, if_neg hc, ih]
    rfl

theorem splitInclusive_last (hl : '\n' ∉ l) (hne : l ≠ []) : splitInclusive l = [l] := by
  induction l, hl using notMemInduction with
  | nil => exact absurd rfl hne
  | cons c l hc _ ih =>
    rw [splitInclusive, if_neg hc]
    by_cases hnil : l = []
    · subst hnil; rfl
    · rw [ih hnil]; rfl

/-- **Induction on the lines of a text**: it is its last line, or a line with its line feed and a text. -/
theorem linesInduction {P : Str → Prop} (last : ∀ l, '\n' ∉ l → P l)
    (line : ∀ l s, '\n' ∉ l → P s → P (l ++ '\n' :: s)) (s : Str) : P s := by
  suffices h : ∀ (s l : Str), '\n' ∉ l → P (l ++ s) from h s [] (by simp)
  intro s
  induction s with
  | nil => intro l hl; rw [append_nil]; exact last l hl
  | cons c s ih =>
    intro l hl
    by_cases hc : c = '\n'
    · subst hc
      exact line l s hl (ih [] (by simp))
    · have hmem : '\n' ∉ l ++ [c] := by simp [hl, Ne.symm hc]
      simpa using ih (l ++ [c]) hmem

def Terminated (s : Str) : Prop := s.getLast? = some '\n'

instance (s : Str) : Decidable (Terminated s) := inferInstanceAs (Decidable (_ = _))

theorem terminated_line (l : Str) : Terminated (l ++ ['\n']) := by simp [Terminated]

theorem not_terminated (hl : '\n' ∉ l) : ¬ Terminated l := fun h => hl (mem_of_getLast? h)

/-- The pieces of some text: each ends in its only line feed, but the last need not. -/
inductive Pieces : List Str → Prop
  | nil : Pieces []
  | last {l : Str} : '\n' ∉ l → l ≠ [] → Pieces [l]
  | line {l : Str} {rest : List Str} : '\n' ∉ l → Pieces rest → Pieces ((l ++ ['\n']) :: rest)

theorem pieces_splitInclusive (s : Str) : Pieces (splitInclusive s) := by
  induction s using linesInduction with
  | last l hl =>
    by_cases hne : l = []
    · subst hne; exact .nil
    · rw [splitInclusive_last hl hne]; exact .last hl hne
  | line l s hl ih => rw [splitInclusive_line hl]; exact .line hl ih

theorem flatten_splitInclusive (s : Str) : (splitInclusive s).flatten = s := by
  induction s using linesInduction with
  | last l hl =>
    by_cases hne : l = []
    · subst hne; rfl
    · rw [splitInclusive_last hl hne]; simp
  | line l s hl ih => rw [splitInclusive_line hl, flatten_cons, ih, append_assoc]; rfl

namespace Pieces

variable {a b : List Str}

/-- **A text is its pieces.** -/
theorem splitInclusive_flatten {pieces : List Str} (h : Pieces pieces) : splitInclusive pieces.flatten = pieces := by
  induction h with
  | nil => rfl
  | last hl hne => rw [flatten_singleton, splitInclusive_last hl hne]
  | line hl _ ih =>
    rw [flatten_cons, append_assoc, singleton_append, splitInclusive_line hl, ih]

theorem tail {piece : Str} {rest : List Str} (h : Pieces (piece :: rest)) : Pieces rest := by
  cases h with
  | last => exact .nil
  | line _ h => exact h

theorem append_right (h : Pieces (a ++ b)) : Pieces b := by
  induction a with
  | nil => exact h
  | cons piece a ih => exact ih h.tail

theorem append_left (h : Pieces (a ++ b)) : Pieces a := by
  induction a with
  | nil => exact .nil
  | cons piece a ih =>
    rw [cons_append] at h
    have hrest := ih h.tail
    cases hab : a ++ b with
    | nil =>
      obtain ⟨rfl, rfl⟩ := append_eq_nil_iff.1 hab
      exact h
    | cons q rest =>
      rw [hab] at h
      cases h with
      | line hl _ => exact .line hl hrest

/-- Only the last piece may lack its line feed. -/
theorem terminated_of_mem {piece : Str} (h : Pieces (a ++ b)) (hb : b ≠ []) (hmem : piece ∈ a) : Terminated piece := by
  induction a with
  | nil => cases hmem
  | cons q a ih =>
    rw [cons_append] at h
    rcases mem_cons.1 hmem with rfl | hmem
    · cases hab : a ++ b with
      | nil => exact absurd (append_eq_nil_iff.1 hab).2 hb
      | cons r rest =>
        rw [hab] at h
        cases h with
        | line => exact terminated_line _
    · exact ih h.tail hmem

theorem append (ha : Pieces a) (hterm : ∀ piece ∈ a, Terminated piece) (hb : Pieces b) : Pieces (a ++ b) := by
  induction ha with
  | nil => exact hb
  | last hl _ => exact absurd (hterm _ mem_cons_self) (not_terminated hl)
  | line hl _ ih => exact .line hl (ih (fun piece hp => hterm piece (mem_cons_of_mem _ hp)))

theorem of_mem {pieces : List Str} {piece : Str} (h : Pieces pieces) (hmem : piece ∈ pieces) :
    ('\n' ∉ piece ∧ piece ≠ []) ∨ ∃ l, '\n' ∉ l ∧ piece = l ++ ['\n'] := by
  induction h with
  | nil => cases hmem
  | last hl hne => rw [mem_singleton] at hmem; subst hmem; exact .inl ⟨hl, hne⟩
  | line hl _ ih =>
    rcases mem_cons.1 hmem with rfl | hmem
    · exact .inr ⟨_, hl, rfl⟩
    · exact ih hmem

theorem terminated_flatten {piece : Str} (h : Pieces (a ++ [piece])) :
    Terminated (a ++ [piece]).flatten ↔ Terminated piece := by
  have hne : piece ≠ [] := by
    rcases h.of_mem (mem_append_right a (mem_singleton_self piece)) with ⟨-, hne⟩ | ⟨l, -, rfl⟩
    · exact hne
    · simp
  unfold Terminated
  rw [flatten_append, flatten_singleton, List.getLast?_append, List.getLast?_eq_some_getLast hne]
  rfl

end Pieces

/-! ## Joining lines -/

/-- A line that a newline can be put after so that the line is read back. -/
def Newline.Fits (nl : Newline) (l : Str) : Prop := '\n' ∉ l ∧ (nl = .lf → l.getLast? ≠ some '\r')

theorem stripLineEnd_not_terminated (h : ¬ Terminated piece) : stripLineEnd piece = piece := if_neg h

theorem stripLineEnd_line (l : Str) :
    stripLineEnd (l ++ ['\n']) = if l.getLast? = some '\r' then l.dropLast else l := by
  have hterm : (l ++ ['\n']).getLast? = some '\n' := terminated_line l
  unfold stripLineEnd
  rw [if_pos hterm, dropLast_concat]

theorem append_crlf (l : Str) : l ++ Newline.crlf.text = (l ++ ['\r']) ++ ['\n'] := by simp [Newline.text]

theorem stripLineEnd_newline (h : nl.Fits l) : stripLineEnd (l ++ nl.text) = l := by
  cases nl with
  | lf =>
    show stripLineEnd (l ++ ['\n']) = l
    rw [stripLineEnd_line, if_neg (h.2 rfl)]
  | crlf => rw [append_crlf, stripLineEnd_line, if_pos (by simp), dropLast_concat]

theorem terminated_newline (nl : Newline) (l : Str) : Terminated (l ++ nl.text) := by
  cases nl <;> simp [Terminated, Newline.text]

theorem mem_stripLineEnd (h : c ∈ stripLineEnd piece) : c ∈ piece := by
  unfold stripLineEnd at h
  split at h
  · split at h
    · exact mem_of_mem_dropLast (mem_of_mem_dropLast h)
    · exact mem_of_mem_dropLast h
  · exact h

theorem newline_not_mem_stripLineEnd (h : Pieces pieces) (hmem : piece ∈ pieces) : '\n' ∉ stripLineEnd piece := by
  rcases h.of_mem hmem with ⟨hl, -⟩ | ⟨l, hl, rfl⟩
  · exact fun m => hl (mem_stripLineEnd m)
  · rw [stripLineEnd_line]
    split
    · exact fun m => hl (mem_of_mem_dropLast m)
    · exact hl

theorem Pieces.newline {rest : List Str} (hl : '\n' ∉ l) (h : Pieces rest) : Pieces ((l ++ nl.text) :: rest) := by
  cases nl with
  | lf => exact .line hl h
  | crlf =>
    rw [append_crlf]
    exact .line (by simp [hl]) h

/-- Texts are cut apart where the first ends in a line feed. -/
theorem splitInclusive_append {a : Str} (ha : a = [] ∨ Terminated a) (b : Str) :
    splitInclusive (a ++ b) = splitInclusive a ++ splitInclusive b := by
  have hterm : ∀ piece ∈ splitInclusive a, Terminated piece := by
    intro piece hp
    rcases ha with rfl | ha
    · cases hp
    · obtain ⟨front, last, hsplit⟩ := eq_nil_or_concat (splitInclusive a) |>.resolve_left (ne_nil_of_mem hp)
      rw [concat_eq_append] at hsplit
      have hpieces := pieces_splitInclusive a
      have htext := flatten_splitInclusive a
      rw [hsplit] at hpieces htext hp
      rcases mem_append.1 hp with hp | hp
      · exact hpieces.terminated_of_mem (by simp) hp
      · rw [mem_singleton] at hp
        subst hp
        exact hpieces.terminated_flatten.1 (htext ▸ ha)
  have hflatten : a ++ b = (splitInclusive a ++ splitInclusive b).flatten := by
    rw [flatten_append, flatten_splitInclusive, flatten_splitInclusive]
  rw [hflatten]
  exact ((pieces_splitInclusive a).append hterm (pieces_splitInclusive b)).splitInclusive_flatten

section
variable (nl)

theorem splitInclusive_newline : splitInclusive nl.text = [nl.text] := by cases nl <;> decide

theorem splitInclusive_lines (h : ∀ l ∈ ls, '\n' ∉ l) :
    Pieces (ls.map (· ++ nl.text)) ∧ splitInclusive (ls.flatMap (· ++ nl.text)) = ls.map (· ++ nl.text) := by
  have hpieces : Pieces (ls.map (· ++ nl.text)) := by
    induction ls with
    | nil => exact .nil
    | cons l ls ih => exact .newline (h l mem_cons_self) (ih fun x hx => h x (mem_cons_of_mem _ hx))
  refine ⟨hpieces, ?_⟩
  exact hpieces.splitInclusive_flatten

theorem map_stripLineEnd_lines (h : ∀ l ∈ ls, nl.Fits l) : (ls.map (· ++ nl.text)).map stripLineEnd = ls := by
  rw [map_map]
  conv_rhs => rw [← map_id ls]
  exact map_congr_left fun l hl => stripLineEnd_newline (h l hl)

theorem lines_lines (h : ∀ l ∈ ls, nl.Fits l) : lines (ls.flatMap (· ++ nl.text)) = ls := by
  unfold lines
  rw [(splitInclusive_lines nl (fun l hl => (h l hl).1)).2, map_stripLineEnd_lines nl h]

end

/-- What a piece ends in when its text is joined again with `nl`. -/
def lineEnd (nl : Newline) (piece : Str) : Str := if Terminated piece then nl.text else []

/-- A piece whose line is ended with `nl` instead. -/
def retie (nl : Newline) (piece : Str) : Str := stripLineEnd piece ++ lineEnd nl piece

theorem retie_terminated (h : Terminated piece) : retie nl piece = stripLineEnd piece ++ nl.text := by
  rw [retie, lineEnd, if_pos h]

theorem retie_not_terminated (h : ¬ Terminated piece) : retie nl piece = piece := by
  rw [retie, lineEnd, if_neg h, stripLineEnd_not_terminated h, append_nil]

theorem terminated_retie (h : Terminated piece) : Terminated (retie nl piece) := by
  rw [retie_terminated h]
  exact terminated_newline nl _

theorem Pieces.map_retie (h : Pieces pieces) : Pieces (pieces.map (retie nl)) := by
  induction h with
  | nil => exact .nil
  | last hl hne =>
    rw [map_singleton, retie_not_terminated (not_terminated hl)]
    exact .last hl hne
  | @line l rest hl hrest ih =>
    rw [map_cons, retie_terminated (terminated_line l)]
    exact .newline (newline_not_mem_stripLineEnd (.line hl hrest) mem_cons_self) ih

theorem stripLineEnd_retie (h : Terminated piece → nl.Fits (stripLineEnd piece)) :
    stripLineEnd (retie nl piece) = stripLineEnd piece := by
  by_cases hterm : Terminated piece
  · rw [retie_terminated hterm, stripLineEnd_newline (h hterm)]
  · rw [retie_not_terminated hterm]

theorem intercalate_concat (sep : Str) (ls : List Str) (l : Str) :
    sep.intercalate (ls ++ [l]) = ls.flatMap (· ++ sep) ++ l := by
  induction ls with
  | nil => simp
  | cons x ls ih => rw [cons_append, intercalate_cons_of_ne_nil (by simp), ih]; simp

theorem intercalate_append_cons (sep : Str) (a : List Str) (l : Str) (b : List Str) :
    sep.intercalate (a ++ l :: b) = a.flatMap (· ++ sep) ++ l ++ b.flatMap (sep ++ ·) := by
  induction a with
  | nil =>
    induction b generalizing l with
    | nil => simp
    | cons x b ih =>
      rw [nil_append, intercalate_cons_cons]
      have hx := ih x
      rw [nil_append] at hx
      rw [hx]
      simp
  | cons x a ih => rw [cons_append, intercalate_cons_of_ne_nil (by simp), ih]; simp

/-- **Lines joined again.**  Joining the lines of a text's pieces, with a newline at the end when the text had one, is
ending each of its lines with that newline. -/
theorem rejoin_tail {rest : List Str} (h : Pieces (piece :: rest)) :
    (rest.map stripLineEnd).flatMap (nl.text ++ ·) ++ lineEnd nl ((piece :: rest).getLast (by simp)) =
      lineEnd nl piece ++ (rest.map (retie nl)).flatten := by
  induction rest generalizing piece with
  | nil => simp
  | cons q rest ih =>
    have hterm : Terminated piece := Pieces.terminated_of_mem (a := [piece]) (b := q :: rest) h (by simp) (by simp)
    have hq := ih h.tail
    have hend : lineEnd nl piece = nl.text := if_pos hterm
    rw [getLast_cons (by simp), map_cons, flatMap_cons, append_assoc, hq, map_cons,
      retie, hend]
    simp

theorem flatMap_stripLineEnd (h : ∀ piece ∈ pieces, Terminated piece) :
    (pieces.map stripLineEnd).flatMap (· ++ nl.text) = (pieces.map (retie nl)).flatten := by
  rw [flatMap_map, flatMap_def]
  congr 1
  exact map_congr_left fun piece hp => (retie_terminated (h piece hp)).symm

/-! ## Carriage returns -/

theorem contains_cons (pattern : Str) (c : Char) (s : Str) :
    contains pattern (c :: s) = (pattern.isPrefixOf (c :: s) || contains pattern s) := by
  simp [contains, List.tails]

theorem contains_crlf_line (l s : Str) (hl : '\n' ∉ l) :
    contains ['\r', '\n'] (l ++ '\n' :: s) = (decide (l.getLast? = some '\r') || contains ['\r', '\n'] s) := by
  induction l, hl using notMemInduction with
  | nil => rw [nil_append, contains_cons]; simp
  | cons c l _ hl ih =>
    rw [cons_append, contains_cons, ih]
    cases l with
    | nil =>
      by_cases hc : c = '\r'
      · simp [hc]
      · simp [hc, Ne.symm hc]
    | cons d l =>
      have hd : '\n' ≠ d := ne_of_not_mem_cons hl
      simp [hd]

/-- A text holds a carriage return and a line feed in a row when one of its lines ends in them. -/
theorem contains_crlf_iff (s : Str) : contains ['\r', '\n'] s = true ↔ ∃ l, l ++ ['\r', '\n'] ∈ splitInclusive s := by
  induction s using linesInduction with
  | last l hl =>
    have hno : contains ['\r', '\n'] l = false := by
      rw [Bool.eq_false_iff]
      intro h
      exact hl ((contains_iff.1 h).subset (by simp))
    rw [hno]
    constructor
    · intro h; cases h
    · rintro ⟨l', hmem⟩
      by_cases hne : l = []
      · subst hne; simp [splitInclusive] at hmem
      · rw [splitInclusive_last hl hne, mem_singleton] at hmem
        exact absurd (hmem ▸ by simp) hl
  | line l s hl ih =>
    rw [contains_crlf_line l s hl, Bool.or_eq_true, ih, decide_eq_true_eq, splitInclusive_line hl]
    simp only [mem_cons]
    constructor
    · rintro (hlast | ⟨l', hmem⟩)
      · obtain ⟨l', rfl⟩ := List.getLast?_eq_some_iff.1 hlast
        exact ⟨l', .inl (by simp)⟩
      · exact ⟨l', .inr hmem⟩
    · rintro ⟨l', heq | hmem⟩
      · left
        have hl' : l = l' ++ ['\r'] := by
          have hsame : l ++ ['\n'] = (l' ++ ['\r']) ++ ['\n'] := by rw [← heq]; simp
          exact append_cancel_right hsame
        simp [hl']
      · exact .inr ⟨l', hmem⟩

/-! ## Splitting what was joined -/

theorem newline_isPrefixOf (hc : c ≠ '\n') (hs : s.head? ≠ some '\n') : nl.text.isPrefixOf (c :: s) = false := by
  cases nl with
  | lf => simp [Newline.text, List.isPrefixOf, Ne.symm hc]
  | crlf =>
    cases s with
    | nil => simp [Newline.text, List.isPrefixOf]
    | cons d s =>
      have hd : '\n' ≠ d := fun e => hs (e ▸ rfl)
      simp [Newline.text, List.isPrefixOf, hd]

theorem splitFrom_cons (hc : c ≠ '\n') (hs : s.head? ≠ some '\n') :
    splitFrom nl.text 0 (c :: s) = consHead c (splitFrom nl.text 0 s) := by
  rw [splitFrom, newline_isPrefixOf hc hs]
  rfl

theorem splitFrom_newline (nl : Newline) (hl : '\n' ∉ l) (s : Str) :
    splitFrom nl.text 0 (l ++ nl.text ++ s) = l :: splitFrom nl.text 0 s := by
  induction l, hl using notMemInduction with
  | nil => cases nl <;> simp [Newline.text, splitFrom, List.isPrefixOf]
  | cons c l hc hl ih =>
    cases nl with
    | lf =>
      -- the character after `c` may be the line feed itself, so `splitFrom_cons` does not apply
      have hno : Newline.lf.text.isPrefixOf (c :: (l ++ Newline.lf.text ++ s)) = false := by
        simp [Newline.text, List.isPrefixOf, Ne.symm hc]
      rw [cons_append, cons_append, splitFrom, hno, ih]
      rfl
    | crlf =>
      have hhead : (l ++ Newline.crlf.text ++ s).head? ≠ some '\n' := by
        cases l with
        | nil => simp [Newline.text]
        | cons d l => simpa using (ne_of_not_mem_cons hl).symm
      rw [cons_append, cons_append, splitFrom_cons hc hhead, ih]
      rfl

theorem splitFrom_last (nl : Newline) (hl : '\n' ∉ l) : splitFrom nl.text 0 l = [l] := by
  induction l, hl using notMemInduction with
  | nil => rfl
  | cons c l hc hl ih =>
    have hhead : l.head? ≠ some '\n' := fun e => hl (mem_of_head? e)
    rw [splitFrom_cons hc hhead, ih]
    rfl

/-- **Splitting at a newline takes apart what was joined with it.** -/
theorem split_intercalate (nl : Newline) (l : Str) (ls : List Str) (h : ∀ x ∈ l :: ls, '\n' ∉ x) :
    split nl.text (nl.text.intercalate (l :: ls)) = l :: ls := by
  unfold split
  induction ls generalizing l with
  | nil => simp [splitFrom_last nl (h l (by simp))]
  | cons x ls ih =>
    rw [intercalate_cons_cons, splitFrom_newline nl (h l (by simp)), ih x (fun y hy => h y (mem_cons_of_mem _ hy))]

end Str
end NetTool
