import Mathlib.Data.List.Basic
import Mathlib.Tactic.Common
import NetTool.Lib.Str
/-!
# Lib.Numeral — numbers in a text

`Nat.toDigits` writes a number; the reader takes the longest run of digits of its radix and refuses a run that is too
long, a leading zero where none is allowed, and a value out of bounds.  What was written is read back up to the first
character that is not a digit (`readNumber_toDigits`).
-/
namespace NetTool
namespace Numeral

open List

/-- What a character counts for as a digit; 36 is more than any digit. -/
def digitValue (c : Char) : Nat :=
  if '0' ≤ c && c ≤ '9' then c.toNat - 48 else if 'a' ≤ c && c ≤ 'z' then c.toNat - 87
  else if 'A' ≤ c && c ≤ 'Z' then c.toNat - 55 else 36

def toDigit (radix : Nat) (c : Char) : Option Nat := if digitValue c < radix then some (digitValue c) else none

/-- The digits at the front of a text, and the rest. -/
def readDigits (radix : Nat) : Str → List Nat × Str
  | [] => ([], [])
  | c :: s =>
    match toDigit radix c with
    | none => ([], c :: s)
    | some d => (d :: (readDigits radix s).1, (readDigits radix s).2)

/-- The number that digits stand for, most significant first. -/
def value (radix : Nat) (digits : List Nat) : Nat := digits.foldl (fun n d => n * radix + d) 0

/-- Read a number of at most `maxDigits` digits below `limit`. -/
def readNumber (radix maxDigits : Nat) (allowZeroPrefix : Bool) (limit : Nat) (s : Str) : Option (Nat × Str) :=
  let digits := (readDigits radix s).1
  if maxDigits < digits.length || digits.isEmpty || (!allowZeroPrefix && digits.head? == some 0 && 1 < digits.length)
    then none
  else if value radix digits < limit then some (value radix digits, (readDigits radix s).2)
  else none

def NoDigit (radix : Nat) (s : Str) : Prop := ∀ c ∈ s.head?, toDigit radix c = none

theorem noDigit_nil (radix : Nat) : NoDigit radix [] := by simp [NoDigit]

variable {c : Char} {allowZeroPrefix : Bool} {radix maxDigits limit : Nat}

theorem noDigit_cons {radix : Nat} (hc : toDigit radix c = none) (s : Str) : NoDigit radix (c :: s) := by
  simp [NoDigit, hc]

theorem readDigits_of_noDigit {radix : Nat} {s : Str} (h : NoDigit radix s) : readDigits radix s = ([], s) := by
  cases s with
  | nil => rfl
  | cons c s => rw [readDigits, h c (by simp)]

theorem readDigits_append {radix : Nat} {l rest : Str} {digits : List Nat}
    (hl : l.map (toDigit radix) = digits.map some)
    (hrest : NoDigit radix rest) : readDigits radix (l ++ rest) = (digits, rest) := by
  induction l generalizing digits with
  | nil =>
    obtain rfl : digits = [] := by simpa using hl.symm
    exact readDigits_of_noDigit hrest
  | cons c l ih =>
    cases digits with
    | nil => simp at hl
    | cons d digits =>
      simp only [map_cons, List.cons.injEq] at hl
      rw [cons_append, readDigits, hl.1, ih hl.2]

theorem head_readDigits {radix : Nat} {l rest : Str} (h : (readDigits radix (l ++ rest)).2.head? = some c)
    (hrest : NoDigit radix rest) : c ∈ l ∨ rest.head? = some c := by
  induction l with
  | nil => rw [nil_append, readDigits_of_noDigit hrest] at h; exact .inr h
  | cons x l ih =>
    rw [cons_append, readDigits] at h
    cases hx : toDigit radix x with
    | none =>
      rw [hx] at h
      simp only [List.head?_cons, Option.some.injEq] at h
      exact .inl (by simp [h])
    | some d =>
      rw [hx] at h
      exact (ih h).imp (mem_cons_of_mem _) id

theorem toDigit_digitChar {radix d : Nat} (hd : d < radix) (hradix : radix ≤ 16) :
    toDigit radix d.digitChar = some d := by
  have hall : ∀ d < 16, digitValue d.digitChar = d := by decide
  have hvalue := hall d (by omega)
  rw [toDigit, hvalue, if_pos hd]

theorem value_append (radix : Nat) (digits : List Nat) (d : Nat) :
    value radix (digits ++ [d]) = value radix digits * radix + d := by
  simp [value]

def digits (radix n : Nat) : List Nat := ((Nat.toDigits radix n).filterMap (toDigit radix))

section
variable {radix : Nat} (h1 : 1 < radix) (h16 : radix ≤ 16)
include h1 h16

theorem map_toDigits (n : Nat) :
    (Nat.toDigits radix n).map (toDigit radix) = (digits radix n).map some ∧ value radix (digits radix n) = n := by
  induction n using Nat.strong_induction_on with
  | _ n ih =>
    unfold digits
    by_cases hn : n < radix
    · rw [Nat.toDigits_of_lt_base hn]
      simp [toDigit_digitChar hn h16, value]
    · have hd := toDigit_digitChar (Nat.mod_lt n (by omega : 0 < radix)) h16
      obtain ⟨hmap, hvalue⟩ := ih (n / radix) (Nat.div_lt_self (by omega) h1)
      unfold digits at hmap hvalue
      rw [Nat.toDigits_of_base_le h1 (by omega)]
      simp only [map_append, filterMap_append, map_cons, map_nil, filterMap_cons, filterMap_nil,
        hd, hmap, value_append, hvalue, true_and]
      exact Nat.div_add_mod' n radix

theorem digits_length (n : Nat) : (digits radix n).length = (Nat.toDigits radix n).length := by
  have h := congrArg List.length (map_toDigits h1 h16 n).1
  simpa using h.symm

theorem head_digits (n : Nat) (hn : 0 < n) : (digits radix n).head? ≠ some 0 := by
  induction n using Nat.strong_induction_on with
  | _ n ih =>
    unfold digits
    by_cases hlt : n < radix
    · rw [Nat.toDigits_of_lt_base hlt]
      simp [toDigit_digitChar hlt h16]
      omega
    · have hpos : 0 < n / radix := Nat.div_pos (by omega) (by omega)
      have hdiv := ih (n / radix) (Nat.div_lt_self hn h1) hpos
      have hne : digits radix (n / radix) ≠ [] := by
        intro hnil
        have hlen := digits_length h1 h16 (n / radix)
        rw [hnil] at hlen
        exact absurd hlen (Nat.ne_of_lt Nat.length_toDigits_pos)
      rw [Nat.toDigits_of_base_le h1 (by omega), filterMap_append]
      unfold digits at hdiv hne
      rw [List.head?_append_of_ne_nil _ hne]
      exact hdiv

/-- **A number that was written is read back.** -/
theorem readNumber_toDigits {n maxDigits limit : Nat} {allowZeroPrefix : Bool} {rest : Str} (hmax : 0 < maxDigits)
    (hn : n < radix ^ maxDigits) (hlimit : n < limit) (hrest : NoDigit radix rest) :
    readNumber radix maxDigits allowZeroPrefix limit (Nat.toDigits radix n ++ rest) = some (n, rest) := by
  obtain ⟨hmap, hvalue⟩ := map_toDigits h1 h16 n
  have hlen := digits_length h1 h16 n
  have hle := (Nat.length_toDigits_le_iff h1 hmax).2 hn
  have hpos : 0 < (Nat.toDigits radix n).length := Nat.length_toDigits_pos
  have hne : digits radix n ≠ [] := ne_nil_of_length_pos (by omega)
  have hzero : ¬ ((digits radix n).head? = some 0 ∧ 1 < (digits radix n).length) := by
    rintro ⟨hhead, hlong⟩
    by_cases h0 : n = 0
    · subst h0
      rw [hlen, Nat.toDigits_of_lt_base (by omega)] at hlong
      simp at hlong
    · exact head_digits h1 h16 n (by omega) hhead
  unfold readNumber
  rw [readDigits_append hmap hrest]
  simp only [hvalue, hlimit, if_true]
  rw [if_neg]
  simp only [Bool.or_eq_true, decide_eq_true_eq, List.isEmpty_iff, Bool.and_eq_true, beq_iff_eq, not_or]
  exact ⟨⟨by omega, hne⟩, fun h => hzero ⟨h.1.2, h.2⟩⟩

end

theorem isSome_toDigit_of_mem {radix n : Nat} (h1 : 1 < radix) (h16 : radix ≤ 16) (h : c ∈ Nat.toDigits radix n) :
    (toDigit radix c).isSome = true := by
  have hmem : toDigit radix c ∈ (digits radix n).map some := by
    rw [← (map_toDigits h1 h16 n).1]
    exact mem_map_of_mem h
  obtain ⟨d, -, hd⟩ := mem_map.1 hmem
  rw [← hd]
  rfl

theorem isSome_toDigit {radix n : Nat} (h1 : 1 < radix) (h16 : radix ≤ 16) (h : c ∈ Nat.toDigits radix n) :
    (toDigit 16 c).isSome = true := by
  have hsome := isSome_toDigit_of_mem h1 h16 h
  have hvalue : digitValue c < radix := by
    by_contra hge
    rw [toDigit, if_neg hge] at hsome
    cases hsome
  rw [toDigit, if_pos (by omega)]
  rfl

theorem readNumber_of_noDigit {s : Str} (h : NoDigit radix s) :
    readNumber radix maxDigits allowZeroPrefix limit s = none := by
  unfold readNumber
  rw [readDigits_of_noDigit h]
  simp

/-- What a reader of numbers leaves is what is left after the digits. -/
theorem readNumber_rest {s : Str} {p : Nat × Str} (h : readNumber radix maxDigits allowZeroPrefix limit s = some p) :
    p.2 = (readDigits radix s).2 := by
  unfold readNumber at h
  dsimp only at h
  split at h
  · cases h
  · split at h
    · cases h; rfl
    · cases h

/-! ## Unsigned integers -/

/-- `from_str` of an unsigned type with values below `limit`: decimal digits after an optional plus sign. -/
def parseUnsigned (limit : Nat) (s : Str) : Option Nat :=
  let text := if s.head? = some '+' then s.tail else s
  match readDigits 10 text with
  | (digits, []) => if digits = [] ∨ limit ≤ value 10 digits then none else some (value 10 digits)
  | _ => none

/-- `from_str_radix` of an unsigned type with values below `limit`. -/
def fromStrRadix (radix limit : Nat) (s : Str) : Option Nat :=
  let text := if s.head? = some '+' then s.tail else s
  match readDigits radix text with
  | (digits, []) => if digits = [] ∨ limit ≤ value radix digits then none else some (value radix digits)
  | _ => none

theorem parseUnsigned_toDigits {n limit : Nat} (h : n < limit) : parseUnsigned limit (Nat.toDigits 10 n) = some n := by
  have h1 : 1 < 10 := by decide
  have h16 : 10 ≤ 16 := by decide
  obtain ⟨hmap, hvalue⟩ := map_toDigits h1 h16 n
  have hpos : 0 < (Nat.toDigits 10 n).length := Nat.length_toDigits_pos
  have hne : digits 10 n ≠ [] := ne_nil_of_length_pos (by rw [digits_length h1 h16]; exact hpos)
  have hread : readDigits 10 (Nat.toDigits 10 n) = (digits 10 n, []) := by
    have happend := readDigits_append hmap (noDigit_nil 10)
    rwa [append_nil] at happend
  have hplus : (Nat.toDigits 10 n).head? ≠ some '+' := by
    intro hhead
    have hdigit := isSome_toDigit h1 h16 (mem_of_head? hhead)
    exact absurd hdigit (by decide)
  unfold parseUnsigned
  simp only [if_neg hplus, hread, hvalue]
  simp [hne, h]

end Numeral
end NetTool
