import NetTool.Lib.Numeral
import NetTool.Net
/-!
# Address — reading IP addresses (`std::net`'s parser)

`IpAddr::from_str` reads an IPv4 address, or else an IPv6 address: groups before a `::`, groups after it, the last two
of either part possibly written as an IPv4 address.  It reads back what `Display` prints (`parse_display`), although
`Display` shortens the first longest run of zero groups and prints a mapped IPv4 address in its own notation.
-/
namespace NetTool
namespace IpAddr

open Numeral List

/-! ## The parser -/

def readGivenChar (c : Char) : Str → Option Str
  | [] => none
  | x :: s => if x = c then some s else none

/-- Read a separator first, except at index zero. -/
def readSeparator {α : Type} (sep : Char) (index : Nat) (inner : Str → Option (α × Str)) (s : Str) : Option (α × Str) :=
  if index = 0 then inner s else (readGivenChar sep s).bind inner

def readOctet (s : Str) : Option (Nat × Str) := readNumber 10 3 false 256 s

def ofOctets (a b c d : Nat) : BitVec 32 := BitVec.ofNat 32 (((a * 2 ^ 8 + b) * 2 ^ 8 + c) * 2 ^ 8 + d)

def readIpv4Addr (s : Str) : Option (BitVec 32 × Str) := do
  let a ← readSeparator '.' 0 readOctet s
  let b ← readSeparator '.' 1 readOctet a.2
  let c ← readSeparator '.' 2 readOctet b.2
  let d ← readSeparator '.' 3 readOctet c.2
  some (ofOctets a.1 b.1 c.1 d.1, d.2)

def readGroup (s : Str) : Option (Nat × Str) := readNumber 16 4 true 65536 s

/-- An IPv4 address in the last two groups, of which there must be two left. -/
def readEmbedded (index remaining : Nat) (s : Str) : Option (BitVec 32 × Str) :=
  if 0 < remaining then readSeparator ':' index readIpv4Addr s else none

/-- `read_groups`: the groups read from index `index` on, whether they end in an IPv4 address, and the rest of the text.
-/
def readGroups : Nat → Nat → Str → (List Nat × Bool) × Str
  | _, 0, s => (([], false), s)
  | index, remaining + 1, s =>
    match readEmbedded index remaining s with
    | some (bits, rest) => (([bits.toNat / 2 ^ 16, bits.toNat % 2 ^ 16], true), rest)
    | none =>
      match readSeparator ':' index readGroup s with
      | none => (([], false), s)
      | some (group, rest) =>
        let more := readGroups (index + 1) remaining rest
        ((group :: more.1.1, more.1.2), more.2)

def ofSegments (groups : List Nat) : BitVec 128 := BitVec.ofNat 128 (groups.foldl (fun n g => n * 2 ^ 16 + g) 0)

/-- The front groups, zeros, and the groups after `::`. -/
def readTail (front : List Nat) (s : Str) : Option (BitVec 128 × Str) :=
  let back := readGroups 0 (8 - (front.length + 1)) s
  some (ofSegments (front ++ List.replicate (8 - front.length - back.1.1.length) 0 ++ back.1.1), back.2)

def readIpv6Addr (s : Str) : Option (BitVec 128 × Str) :=
  let front := readGroups 0 8 s
  if front.1.1.length = 8 then some (ofSegments front.1.1, front.2)
  else if front.1.2 then none
  else (readGivenChar ':' front.2).bind fun s => (readGivenChar ':' s).bind (readTail front.1.1)

def readIpAddr (s : Str) : Option (IpAddr × Str) :=
  match readIpv4Addr s with
  | some (bits, rest) => some (v4 bits, rest)
  | none => (readIpv6Addr s).map (fun p => (v6 p.1, p.2))

/-- `IpAddr::from_str`: the whole text must be read. -/
def parse (s : Str) : Option IpAddr :=
  match readIpAddr s with
  | some (address, []) => some address
  | _ => none

def readPort (s : Str) : Option (UInt16 × Str) :=
  (readGivenChar ':' s).bind fun s => (readNumber 10 s.length true (2 ^ 16) s).map (fun p => (.ofNat p.1, p.2))

def readSocketAddrV4 (s : Str) : Option (SocketAddr × Str) := do
  let ip ← readIpv4Addr s
  let port ← readPort ip.2
  some (.v4 ip.1 port.1, port.2)

/-- The scope of an IPv6 address; without one, it is zero and nothing is read. -/
def readScopeId (s : Str) : UInt32 × Str :=
  match (readGivenChar '%' s).bind fun s => readNumber 10 s.length true (2 ^ 32) s with
  | some (scopeId, rest) => (.ofNat scopeId, rest)
  | none => (0, s)

def readSocketAddrV6 (s : Str) : Option (SocketAddr × Str) := do
  let inside ← readGivenChar '[' s
  let ip ← readIpv6Addr inside
  let scopeId := readScopeId ip.2
  let after ← readGivenChar ']' scopeId.2
  let port ← readPort after
  some (.v6 ip.1 port.1 0 scopeId.1, port.2)

def parseSocketAddr (s : Str) : Option SocketAddr :=
  match (readSocketAddrV4 s).or (readSocketAddrV6 s) with
  | some (address, []) => some address
  | _ => none

example : parse "192.0.2.1".toList = some (v4 0xc0000201#32) := by decide
example : parse "FE80:0::1".toList = some (v6 0xfe800000000000000000000000000001#128) := by decide
example : parse "010.0.0.1".toList = none := by decide
example : parseSocketAddr "[fe80::1%2]:47000".toList
    = some (.v6 0xfe800000000000000000000000000001#128 47000 0 2) := by decide

/-! ## IPv4 -/

theorem toList_displayV4 (bits : BitVec 32) :
    (displayV4 bits).toList = ['.'].intercalate ((octets bits).map (Nat.toDigits 10)) := by
  unfold displayV4
  rw [String.toList_intercalate, map_map]
  congr 1
  apply map_congr_left
  intro n _
  simp

theorem ofOctets_octets (bits : BitVec 32) :
    ofOctets (bits.toNat / 2 ^ 24 % 2 ^ 8) (bits.toNat / 2 ^ 16 % 2 ^ 8) (bits.toNat / 2 ^ 8 % 2 ^ 8)
      (bits.toNat / 2 ^ 0 % 2 ^ 8) = bits := by
  unfold ofOctets
  apply BitVec.eq_of_toNat_eq
  rw [BitVec.toNat_ofNat]
  omega

variable {rest : Str} {s : Str} {c : Char}

theorem readOctet_toDigits {n : Nat} (hn : n < 256) (hrest : NoDigit 10 rest) :
    readOctet (Nat.toDigits 10 n ++ rest) = some (n, rest) :=
  readNumber_toDigits (by decide) (by decide) (by decide) (by omega) hn hrest

theorem readSeparator_succ {α : Type} (sep : Char) (index : Nat) (inner : Str → Option (α × Str)) (s : Str) :
    readSeparator sep (index + 1) inner (sep :: s) = inner s := by
  simp [readSeparator, readGivenChar]

theorem readIpv4Addr_displayV4 (bits : BitVec 32) (hrest : NoDigit 10 rest) :
    readIpv4Addr ((displayV4 bits).toList ++ rest) = some (bits, rest) := by
  have hdot : ∀ s : Str, NoDigit 10 ('.' :: s) := noDigit_cons (by decide)
  have hlt : ∀ k, bits.toNat / 2 ^ k % 2 ^ 8 < 256 := fun k => Nat.mod_lt _ (by decide)
  rw [toList_displayV4, octets]
  simp only [map_cons, map_nil, intercalate_cons_cons, intercalate_singleton, append_assoc,
    nil_append, cons_append]
  unfold readIpv4Addr
  simp only [readSeparator_succ, readOctet_toDigits (hlt _) (hdot _), readOctet_toDigits (hlt _) hrest,
    Option.bind_eq_bind,
    Option.bind_some, show ∀ s, readSeparator '.' 0 readOctet s = readOctet s from fun s => rfl, ofOctets_octets]

/-- An IPv4 address has a dot after its first digits. -/
theorem readIpv4Addr_none (h : (readDigits 10 s).2.head? ≠ some '.') : readIpv4Addr s = none := by
  unfold readIpv4Addr
  cases ha : readSeparator '.' 0 readOctet s with
  | none => rfl
  | some a =>
    have hrest : a.2 = (readDigits 10 s).2 := readNumber_rest ha
    have hb : readSeparator '.' 1 readOctet a.2 = none := by
      rw [hrest]
      rcases hcase : (readDigits 10 s).2 with _ | ⟨c, t⟩
      · rfl
      · have hc : c ≠ '.' := fun e => h (by rw [hcase, e]; rfl)
        simp [readSeparator, readGivenChar, hc]
    simp [hb]

/-! ## Groups -/

def hexText (group : Nat) : Str := Nat.toDigits 16 group

/-- Where the groups end: at the end of the text, or at `::`. -/
def Stops (s : Str) : Prop := s = [] ∨ ∃ t, s = ':' :: ':' :: t

theorem noDigit_colon (radix : Nat) (hradix : radix ≤ 16) (s : Str) : NoDigit radix (':' :: s) := by
  refine noDigit_cons ?_ _
  have hcolon : digitValue ':' = 36 := by decide
  rw [toDigit, if_neg (by omega)]

theorem readGroup_hexText {group : Nat} (hg : group < 65536) (hrest : NoDigit 16 rest) :
    readGroup (hexText group ++ rest) = some (group, rest) :=
  readNumber_toDigits (by decide) (by decide) (by decide) (by omega) hg hrest

/-- A group is not the start of an IPv4 address, when what follows is a colon or the end. -/
theorem readIpv4Addr_hexText {group : Nat} (hrest : NoDigit 10 rest) (hdot : rest.head? ≠ some '.') :
    readIpv4Addr (hexText group ++ rest) = none := by
  apply readIpv4Addr_none
  intro h
  rcases head_readDigits h hrest with hmem | hhead
  · exact absurd (isSome_toDigit (by decide) (by decide) hmem) (by decide)
  · exact hdot hhead

theorem readIpv4Addr_noDigit (h : NoDigit 10 s) (hdot : s.head? ≠ some '.') : readIpv4Addr s = none := by
  apply readIpv4Addr_none
  rw [readDigits_of_noDigit h]
  exact hdot

theorem readGroups_stop (index remaining : Nat) (h : Stops s) : readGroups index remaining s = (([], false), s) := by
  cases remaining with
  | zero => rfl
  | succ remaining =>
    -- neither reader gets past a text that is empty or goes on with a colon
    have hfails : ∀ {α : Type} (inner : Str → Option (α × Str)), inner [] = none → (∀ t, inner (':' :: t) = none) →
        readSeparator ':' index inner s = none := by
      intro α inner hnil hcolon
      rcases h with rfl | ⟨t, rfl⟩
      · cases index <;> simp [readSeparator, readGivenChar, hnil]
      · cases index <;> simp [readSeparator, readGivenChar, hcolon]
    have hembedded : readEmbedded index remaining s = none := by
      unfold readEmbedded
      split
      · exact hfails readIpv4Addr (readIpv4Addr_noDigit (noDigit_nil 10) (by simp))
          (fun t => readIpv4Addr_noDigit (noDigit_colon 10 (by decide) t) (by simp))
      · rfl
    have hgroup : readSeparator ':' index readGroup s = none :=
      hfails readGroup (readNumber_of_noDigit (noDigit_nil 16))
        (fun t => readNumber_of_noDigit (noDigit_colon 16 (by decide) t))
    rw [readGroups, hembedded]
    simp only [hgroup]

theorem readGroups_group {index remaining g : Nat} {s rest : Str} (hg : g < 65536)
    (hsep : ∀ {α : Type} (inner : Str → Option (α × Str)), readSeparator ':' index inner s = inner (hexText g ++ rest))
    (hnext : ∀ radix ≤ 16, NoDigit radix rest) (hdot : rest.head? ≠ some '.') :
    readGroups index (remaining + 1) s =
      ((g :: (readGroups (index + 1) remaining rest).1.1, (readGroups (index + 1) remaining rest).1.2),
        (readGroups (index + 1) remaining rest).2) := by
  have hembedded : readEmbedded index remaining s = none := by
    unfold readEmbedded
    rw [hsep, readIpv4Addr_hexText (hnext 10 (by decide)) hdot, ite_self]
  rw [readGroups, hembedded]
  simp only [hsep, readGroup_hexText hg (hnext 16 (by decide))]

variable (groups : List Nat)

/-- What follows a group is another colon, `::` or the end. -/
theorem noDigit_groups (hstop : Stops rest) :
    (∀ radix ≤ 16, NoDigit radix (groups.flatMap (fun g => ':' :: hexText g) ++ rest)) ∧
      (groups.flatMap (fun g => ':' :: hexText g) ++ rest).head? ≠ some '.' := by
  cases groups with
  | nil =>
    rcases hstop with rfl | ⟨t, rfl⟩
    · exact ⟨fun radix _ => noDigit_nil radix, by simp⟩
    · exact ⟨fun radix hradix => noDigit_colon radix hradix _, by simp⟩
  | cons => exact ⟨fun radix hradix => noDigit_colon radix hradix _, by simp⟩

theorem readGroups_tail {groups : List Nat} (hlt : ∀ g ∈ groups, g < 65536) (hstop : Stops rest)
    {index remaining : Nat} (hlen : groups.length ≤ remaining) :
    readGroups (index + 1) remaining (groups.flatMap (fun g => ':' :: hexText g) ++ rest) =
      ((groups, false), rest) := by
  induction groups generalizing index remaining with
  | nil => exact readGroups_stop _ _ hstop
  | cons g groups ih =>
    obtain ⟨remaining, rfl⟩ : ∃ k, remaining = k + 1 := ⟨remaining - 1, by simp at hlen; omega⟩
    obtain ⟨hnext, hdot⟩ := noDigit_groups groups hstop
    rw [flatMap_cons, cons_append, cons_append, append_assoc,
      readGroups_group (hlt g (by simp)) (fun inner => readSeparator_succ ':' index inner _) hnext hdot,
      ih (fun g hg => hlt g (mem_cons_of_mem _ hg)) (by simpa using hlen)]

theorem toList_fmtSubslice : (fmtSubslice groups).toList = [':'].intercalate (groups.map hexText) := by
  unfold fmtSubslice
  rw [String.toList_intercalate, map_map]
  congr 1
  apply map_congr_left
  intro n _
  simp [hexText]

theorem toList_fmtSubslice_cons (g : Nat) (groups : List Nat) :
    (fmtSubslice (g :: groups)).toList = hexText g ++ groups.flatMap (fun g => ':' :: hexText g) := by
  have h := Str.intercalate_append_cons [':'] [] (hexText g) (groups.map hexText)
  rw [toList_fmtSubslice]
  simpa [flatMap_map] using h

/-- **The groups between colons are read back.** -/
theorem readGroups_fmtSubslice (rest : Str) (limit : Nat) (hlt : ∀ g ∈ groups, g < 65536)
    (hstop : Stops rest) (hlen : groups.length ≤ limit) :
    readGroups 0 limit ((fmtSubslice groups).toList ++ rest) = ((groups, false), rest) := by
  cases groups with
  | nil => exact readGroups_stop _ _ hstop
  | cons g groups =>
    obtain ⟨limit, rfl⟩ : ∃ k, limit = k + 1 := ⟨limit - 1, by simp at hlen; omega⟩
    obtain ⟨hnext, hdot⟩ := noDigit_groups groups hstop
    rw [toList_fmtSubslice_cons, append_assoc, readGroups_group (hlt g (by simp)) (fun inner => rfl) hnext hdot,
      readGroups_tail (fun g hg => hlt g (mem_cons_of_mem _ hg)) hstop (by simpa using hlen)]

/-! ## The longest run of zeros -/

/-- A run: the groups from `run.1` on, `run.2` of them, are there and zero. -/
def ZeroRun (l : List Nat) (run : Nat × Nat) : Prop := ∀ i, run.1 ≤ i → i < run.1 + run.2 → l[i]? = some 0

theorem zeroRun_nil (l : List Nat) (start : Nat) : ZeroRun l (start, 0) := fun i h1 h2 => absurd h2 (by omega)

/-- One group: the run that ends here, and the longer of it and the best so far. -/
def zeroStep (acc : (Nat × Nat) × (Nat × Nat)) (p : Nat × Nat) : (Nat × Nat) × (Nat × Nat) :=
  if p.1 = 0 then
    let current := if acc.2.2 = 0 then (p.2, 1) else (acc.2.1, acc.2.2 + 1)
    (if acc.1.2 < current.2 then current else acc.1, current)
  else (acc.1, (0, 0))

/-- Both runs are runs of zeros, and the current one ends where the reader is. -/
theorem zeroStep_runs {l rest : List Nat} {k : Nat} {acc : (Nat × Nat) × (Nat × Nat)} (hl : l.drop k = rest)
    (hbest : ZeroRun l acc.1) (hcur : ZeroRun l acc.2) (hend : acc.2.2 = 0 ∨ acc.2.1 + acc.2.2 = k) :
    ZeroRun l ((rest.zipIdx k).foldl zeroStep acc).1 := by
  induction rest generalizing k acc with
  | nil => exact hbest
  | cons g rest ih =>
    have hg : l[k]? = some g := by
      have h0 := congrArg (fun t => t[0]?) hl
      simpa using h0
    have hdrop : l.drop (k + 1) = rest := by
      rw [← tail_drop, hl]
      rfl
    rw [zipIdx_cons, foldl_cons]
    unfold zeroStep
    by_cases hzero : g = 0
    · -- the current run grows by this group
      subst hzero
      have hgrown : ZeroRun l (if acc.2.2 = 0 then (k, 1) else (acc.2.1, acc.2.2 + 1)) := by
        intro i h1 h2
        by_cases hnone : acc.2.2 = 0
        · rw [if_pos hnone] at h1 h2
          obtain rfl : i = k := by omega
          exact hg
        · rw [if_neg hnone] at h1 h2
          by_cases hi : i = k
          · subst hi; exact hg
          · exact hcur i h1 (by omega)
      rw [if_pos rfl]
      refine ih hdrop ?_ hgrown ?_
      · dsimp only
        by_cases hlonger : acc.1.2 < (if acc.2.2 = 0 then (k, 1) else (acc.2.1, acc.2.2 + 1)).2
        · rw [if_pos hlonger]; exact hgrown
        · rw [if_neg hlonger]; exact hbest
      · right
        split
        · rfl
        · simp; omega
    · rw [if_neg hzero]
      exact ih hdrop hbest (zeroRun_nil l 0) (.inl rfl)

theorem zeroRun_longestZeroes (l : List Nat) : ZeroRun l (longestZeroes l) := by
  exact zeroStep_runs (l := l) (k := 0) rfl (zeroRun_nil l 0) (zeroRun_nil l 0) (.inl rfl)

theorem ZeroRun.le_length {l : List Nat} {run : Nat × Nat} (h : ZeroRun l run) (hpos : 0 < run.2) :
    run.1 + run.2 ≤ l.length := by
  have hlast := h (run.1 + run.2 - 1) (by omega) (by omega)
  have hlt := (List.getElem?_eq_some_iff.1 hlast).1
  omega

theorem ZeroRun.split {l : List Nat} {run : Nat × Nat} (h : ZeroRun l run) :
    l.take run.1 ++ List.replicate run.2 0 ++ l.drop (run.1 + run.2) = l := by
  have hmid : (l.drop run.1).take run.2 = List.replicate run.2 0 := by
    apply ext_getElem?
    intro i
    rw [List.getElem?_take, List.getElem?_replicate, List.getElem?_drop]
    split
    · exact h _ (by omega) (by omega)
    · rfl
  rw [← hmid, ← drop_drop, append_assoc, take_append_drop, take_append_drop]

/-! ## IPv6 -/

variable (bits : BitVec 128)

theorem segments_lt : ∀ g ∈ segments bits, g < 65536 := by
  intro g hg
  obtain ⟨k, -, rfl⟩ := mem_map.1 hg
  exact Nat.mod_lt _ (by decide)

theorem length_segments : (segments bits).length = 8 := rfl

/-- A number down to bit `k` is its part down to bit `k + 16` and the segment below it. -/
theorem div_segment (n k : Nat) : n / 2 ^ (k + 16) * 2 ^ 16 + n / 2 ^ k % 2 ^ 16 = n / 2 ^ k := by
  rw [Nat.pow_add, ← Nat.div_div_eq_div_mul]
  exact Nat.div_add_mod' _ _

theorem ofSegments_segments : ofSegments (segments bits) = bits := by
  have hlt := bits.isLt
  have htop : bits.toNat / 2 ^ (112 + 16) = 0 := Nat.div_eq_of_lt hlt
  have hsum : (segments bits).foldl (fun n g => n * 2 ^ 16 + g) (bits.toNat / 2 ^ (112 + 16)) = bits.toNat / 2 ^ 0 := by
    simp only [segments, map_cons, map_nil, foldl_cons, foldl_nil]
    rw [div_segment _ 112, div_segment _ 96, div_segment _ 80, div_segment _ 64, div_segment _ 48, div_segment _ 32,
      div_segment _ 16, div_segment _ 0]
  rw [htop] at hsum
  unfold ofSegments
  rw [hsum, Nat.pow_zero, Nat.div_one, BitVec.ofNat_toNat, BitVec.setWidth_eq]

theorem readGivenChar_cons (c : Char) (s : Str) : readGivenChar c (c :: s) = some s := if_pos rfl

theorem toList_double_colon : "::".toList = [':', ':'] := by decide

/-- A mapped address: the two last groups are read as an IPv4 address. -/
theorem readIpv6Addr_mapped (low : BitVec 32) :
    readIpv6Addr ("::ffff:" ++ displayV4 low).toList =
      some (ofSegments [0, 0, 0, 0, 0, 0xffff, low.toNat / 2 ^ 16, low.toNat % 2 ^ 16], []) := by
  have htext : ("::ffff:" ++ displayV4 low).toList = ':' :: ':' ::
    (hexText 0xffff ++ ':' :: (displayV4 low).toList) := by
    have hprefix : "::ffff:".toList = ':' :: ':' :: (hexText 0xffff ++ [':']) := by decide
    rw [String.toList_append, hprefix]
    simp
  have hread := readGroups_stop 0 8
    (.inr ⟨hexText 0xffff ++ ':' :: (displayV4 low).toList, rfl⟩)
  have hv4 := readIpv4Addr_displayV4 low (noDigit_nil 10)
  rw [append_nil] at hv4
  have hlast : readGroups 1 6 (':' :: (displayV4 low).toList) =
      (([low.toNat / 2 ^ 16, low.toNat % 2 ^ 16], true), []) := by
    have hembedded : readEmbedded 1 5 (':' :: (displayV4 low).toList) = some (low, []) := by
      unfold readEmbedded
      rw [if_pos (by decide), readSeparator_succ, hv4]
    rw [readGroups, hembedded]
  have htail : readGroups 0 7 (hexText 0xffff ++ ':' :: (displayV4 low).toList) =
      (([0xffff, low.toNat / 2 ^ 16, low.toNat % 2 ^ 16], true), []) := by
    rw [readGroups_group (by decide) (fun inner => rfl) (fun radix hradix => noDigit_colon radix hradix _)
      (by simp), hlast]
  rw [htext]
  unfold readIpv6Addr
  simp only [hread, length_nil]
  simp only [Bool.false_eq_true, if_false, readGivenChar_cons, Option.bind_some, readTail, length_nil, Nat.zero_add,
    Nat.add_one_sub_one, htail]
  rfl

/-- The three ways to write an IPv6 address. -/
theorem displayV6_cases :
    (bits.toNat / 2 ^ 32 = 0xffff ∧ displayV6 bits = "::ffff:" ++ displayV4 (bits.setWidth 32)) ∨
      (∃ front back, displayV6 bits = fmtSubslice front ++ "::" ++ fmtSubslice back ∧ front.length + back.length < 8 ∧
        front ++ List.replicate (8 - front.length - back.length) 0 ++ back = segments bits) ∨
      displayV6 bits = fmtSubslice (segments bits) := by
  by_cases hmapped : bits.toNat / 2 ^ 32 = 0xffff
  · exact .inl ⟨hmapped, if_pos hmapped⟩
  · right
    have htext : displayV6 bits = if 1 < (longestZeroes (segments bits)).2 then
        fmtSubslice ((segments bits).take (longestZeroes (segments bits)).1) ++ "::" ++
          fmtSubslice ((segments bits).drop ((longestZeroes (segments bits)).1 + (longestZeroes (segments bits)).2))
        else fmtSubslice (segments bits) := if_neg hmapped
    have hzero := zeroRun_longestZeroes (segments bits)
    have hlen := length_segments bits
    generalize segments bits = l at htext hzero hlen ⊢
    generalize longestZeroes l = run at htext hzero
    by_cases hrun : 1 < run.2
    · left
      rw [if_pos hrun] at htext
      have hle := hzero.le_length (by omega)
      have hfront : (l.take run.1).length = run.1 := length_take_of_le (by omega)
      have hback : (l.drop (run.1 + run.2)).length = 8 - (run.1 + run.2) := by rw [length_drop, hlen]
      refine ⟨_, _, htext, by omega, ?_⟩
      rw [hfront, hback, show 8 - run.1 - (8 - (run.1 + run.2)) = run.2 by omega, hzero.split]
    · rw [if_neg hrun] at htext
      exact .inr htext

/-- **An IPv6 address is read back from its text.** -/
theorem readIpv6Addr_displayV6 : readIpv6Addr (displayV6 bits).toList = some (bits, []) := by
  have hlt := segments_lt bits
  rcases displayV6_cases bits with ⟨hmapped, htext⟩ | ⟨front, back, htext, hlen, hsegments⟩ | htext
  · rw [htext, readIpv6Addr_mapped, ofSegments]
    refine congrArg (fun read => some (read, [])) (BitVec.eq_of_toNat_eq ?_)
    simp only [foldl_cons, foldl_nil, BitVec.toNat_setWidth]
    rw [BitVec.toNat_ofNat]
    omega
  · have hfront : ∀ g ∈ front, g < 65536 := fun g hg => hlt g (by simp [← hsegments, hg])
    have hback : ∀ g ∈ back, g < 65536 := fun g hg => hlt g (by simp [← hsegments, hg])
    have hread := readGroups_fmtSubslice front (':' :: ':' :: (fmtSubslice back).toList) 8 hfront
      (.inr ⟨_, rfl⟩) (by omega)
    have htail := readGroups_fmtSubslice back [] (8 - (front.length + 1)) hback (.inl rfl) (by omega)
    rw [append_nil] at htail
    rw [htext, String.toList_append, String.toList_append, toList_double_colon, append_assoc]
    unfold readIpv6Addr
    simp only [cons_append, nil_append, hread]
    rw [if_neg (by omega)]
    simp only [Bool.false_eq_true, if_false, readGivenChar_cons, Option.bind_some, readTail, htail, hsegments,
      ofSegments_segments]
  · have hread := readGroups_fmtSubslice (segments bits) [] 8 hlt (.inl rfl) (length_segments bits).le
    rw [append_nil] at hread
    rw [htext, readIpv6Addr]
    simp only [hread, length_segments bits, if_true, ofSegments_segments]

/-! ## The characters of an address -/

def isAddressChar (c : Char) : Bool := (toDigit 16 c).isSome || c == ':' || c == '.'

theorem isAddressChar_range (h : isAddressChar c = true) : 46 ≤ c.toNat ∧ c.toNat ≤ 122 := by
  simp only [isAddressChar, Bool.or_eq_true, beq_iff_eq] at h
  rcases h with (h | rfl) | rfl
  · have hdigit : digitValue c < 16 := by
      by_contra hge
      rw [toDigit, if_neg hge] at h
      cases h
    -- every branch but the last of `digitValue` is a range of ASCII letters or digits
    unfold digitValue at hdigit
    have hval : ∀ d : Char, d ≤ c ↔ d.toNat ≤ c.toNat := fun d => Iff.rfl
    have hval' : ∀ d : Char, c ≤ d ↔ c.toNat ≤ d.toNat := fun d => Iff.rfl
    simp only [Bool.and_eq_true, decide_eq_true_eq, hval, hval'] at hdigit
    have h0 : '0'.toNat = 48 := rfl
    have ha : 'a'.toNat = 97 := rfl
    have hA : 'A'.toNat = 65 := rfl
    split_ifs at hdigit with hd hl hu
    · omega
    · omega
    · omega
    · omega
  · decide
  · decide

theorem isWhitespace_of_isAddressChar (h : isAddressChar c = true) : isWhitespace c = false := by
  obtain ⟨h1, h2⟩ := isAddressChar_range h
  rw [← Bool.not_eq_true]
  intro hspace
  simp only [isWhitespace, Bool.or_eq_true, Bool.and_eq_true, decide_eq_true_eq, beq_iff_eq] at hspace
  omega

theorem isAddressChar_toDigits {radix n : Nat} (h1 : 1 < radix) (h16 : radix ≤ 16) (h : c ∈ Nat.toDigits radix n) :
    isAddressChar c = true := by
  simp [isAddressChar, isSome_toDigit h1 h16 h]

/-- Numbers in a radix, joined with a character of addresses. -/
theorem isAddressChar_intercalate {radix : Nat} (h1 : 1 < radix) (h16 : radix ≤ 16) (hsep : isAddressChar c = true)
    (numbers : List Nat) : ∀ d ∈ [c].intercalate (numbers.map (Nat.toDigits radix)), isAddressChar d = true := by
  refine Str.intercalate_all (by simpa using hsep) ?_
  intro l hl d hd
  obtain ⟨n, -, rfl⟩ := mem_map.1 hl
  exact isAddressChar_toDigits h1 h16 hd

theorem isAddressChar_displayV4 (bits : BitVec 32) : ∀ c ∈ (displayV4 bits).toList, isAddressChar c = true := by
  rw [toList_displayV4]
  exact isAddressChar_intercalate (by decide) (by decide) (by decide) _

theorem isAddressChar_fmtSubslice : ∀ c ∈ (fmtSubslice groups).toList, isAddressChar c = true := by
  rw [toList_fmtSubslice]
  exact isAddressChar_intercalate (by decide) (by decide) (by decide) _

theorem isAddressChar_displayV6 : ∀ c ∈ (displayV6 bits).toList, isAddressChar c = true := by
  have hfixed : ∀ c ∈ "::ffff:".toList, isAddressChar c = true := all_eq_true.1 (by decide)
  have hdouble : ∀ c ∈ "::".toList, isAddressChar c = true := all_eq_true.1 (by decide)
  intro c hc
  rcases displayV6_cases bits with ⟨-, htext⟩ | ⟨front, back, htext, -, -⟩ | htext
  · rw [htext, String.toList_append, mem_append] at hc
    exact hc.elim (hfixed c) (isAddressChar_displayV4 _ c)
  · rw [htext, String.toList_append, String.toList_append, mem_append, mem_append] at hc
    exact hc.elim (fun h => h.elim (isAddressChar_fmtSubslice _ c) (hdouble c)) (isAddressChar_fmtSubslice _ c)
  · rw [htext] at hc
    exact isAddressChar_fmtSubslice _ c hc

variable (address : IpAddr)

theorem isAddressChar_display : ∀ c ∈ address.display.toList, isAddressChar c = true := by
  cases address with
  | v4 bits => exact isAddressChar_displayV4 bits
  | v6 bits => exact isAddressChar_displayV6 bits

/-! ## Round trip -/

theorem readIpv4Addr_fmtSubslice (hstop : Stops rest) : readIpv4Addr ((fmtSubslice groups).toList ++ rest) = none := by
  cases groups with
  | nil =>
    obtain ⟨hnext, hdot⟩ := noDigit_groups [] hstop
    exact readIpv4Addr_noDigit (hnext 10 (by decide)) hdot
  | cons g groups =>
    obtain ⟨hnext, hdot⟩ := noDigit_groups groups hstop
    rw [toList_fmtSubslice_cons, append_assoc]
    exact readIpv4Addr_hexText (hnext 10 (by decide)) hdot

theorem readIpv4Addr_displayV6 : readIpv4Addr (displayV6 bits).toList = none := by
  rcases displayV6_cases bits with ⟨-, htext⟩ | ⟨front, back, htext, -, -⟩ | htext
  · rw [htext, String.toList_append]
    exact readIpv4Addr_noDigit (noDigit_colon 10 (by decide) _) (by simp)
  · rw [htext, String.toList_append, String.toList_append, append_assoc]
    exact readIpv4Addr_fmtSubslice front (.inr ⟨_, rfl⟩)
  · have h := readIpv4Addr_fmtSubslice (segments bits) (.inl rfl)
    rwa [append_nil, ← htext] at h

/-- **An address is read back from its text.** -/
theorem parse_display : parse address.display.toList = some address := by
  unfold parse readIpAddr
  cases address with
  | v4 bits =>
    have h := readIpv4Addr_displayV4 bits (noDigit_nil 10)
    rw [append_nil] at h
    have htext : (v4 bits).display = displayV4 bits := rfl
    rw [htext, h]
  | v6 bits =>
    have htext : (v6 bits).display = displayV6 bits := rfl
    rw [htext, readIpv4Addr_displayV6, readIpv6Addr_displayV6]
    rfl

theorem display_ne_nil : address.display.toList ≠ [] := by
  intro hnil
  have hparse := parse_display address
  rw [hnil] at hparse
  cases hparse

end IpAddr
end NetTool
