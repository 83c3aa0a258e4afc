import Mathlib.Algebra.Order.Ring.Int
/-!
# Lib.OnesComplement — 16-bit sums with end-around carry

`sum16` adds the big-endian 16-bit words of a byte string, a last odd byte counted as a high byte, and brings each carry
back in at the low end.  It depends on the plain sum of the words only (`sum16_eq`), so that replacing a zero word by
the complement of the sum makes the sum all ones (`sum16_complement`): that is how a receiver checks a checksum.
-/
namespace NetTool
namespace OnesComplement

open List

def add16 (a b : Nat) : Nat := if a + b < 65536 then a + b else a + b - 65535

def words : List UInt8 → List Nat
  | [] => []
  | [high] => [high.toNat * 256]
  | high :: low :: rest => (high.toNat * 256 + low.toNat) :: words rest

def sum16 (bytes : List UInt8) : Nat := (words bytes).foldl add16 0

def total (bytes : List UInt8) : Nat := (words bytes).sum

/-- Zero for zero only; otherwise the residue modulo 65535 between 1 and 65535. -/
def wrap (n : Nat) : Nat := if n = 0 then 0 else (n - 1) % 65535 + 1

variable (bytes : List UInt8)

theorem words_le : ∀ w ∈ words bytes, w ≤ 65535 := by
  induction bytes using words.induct with
  | case1 => exact fun w hw => absurd hw not_mem_nil
  | case2 high =>
    intro w hw
    have hhigh := high.toNat_lt
    rw [words, mem_singleton] at hw
    omega
  | case3 high low rest ih =>
    intro w hw
    have hhigh := high.toNat_lt
    have hlow := low.toNat_lt
    rw [words, mem_cons] at hw
    rcases hw with rfl | hw
    · omega
    · exact ih w hw

theorem add16_wrap {n w : Nat} (hw : w ≤ 65535) : add16 (wrap n) w = wrap (n + w) := by
  unfold add16 wrap
  by_cases hn : n = 0
  · subst hn
    rw [if_pos rfl, if_pos (by omega)]
    by_cases hw0 : w = 0
    · rw [if_pos (by omega)]
      omega
    · rw [if_neg (by omega)]
      omega
  · have hsum : n + w ≠ 0 := by omega
    rw [if_neg hn]
    split <;> omega

theorem foldl_add16 {l : List Nat} (hl : ∀ w ∈ l, w ≤ 65535) (n : Nat) : l.foldl add16 (wrap n) = wrap (n + l.sum) := by
  induction l generalizing n with
  | nil => rfl
  | cons w rest ih =>
    rw [foldl_cons, add16_wrap (hl w (mem_cons_self ..)), ih (fun w hw => hl w (mem_cons_of_mem _ hw)),
      sum_cons, Nat.add_assoc]

/-- **The sum with carries is a function of the plain sum.** -/
theorem sum16_eq : sum16 bytes = wrap (total bytes) := by
  have hfold := foldl_add16 (words_le bytes) 0
  rwa [Nat.zero_add] at hfold

theorem sum16_le : sum16 bytes ≤ 65535 := by
  rw [sum16_eq, wrap]
  split <;> omega

/-- Words do not cross an even position. -/
theorem words_append {front : List UInt8} (h : front.length % 2 = 0) (back : List UInt8) :
    words (front ++ back) = words front ++ words back := by
  induction front using words.induct with
  | case1 => rfl
  | case2 high => exact absurd h Nat.one_ne_zero
  | case3 high low rest ih =>
    rw [length_cons, length_cons] at h
    show _ :: words (rest ++ back) = _ :: (words rest ++ words back)
    rw [ih (by omega)]

theorem total_append {front : List UInt8} (h : front.length % 2 = 0) (back : List UInt8) :
    total (front ++ back) = total front + total back := by
  unfold total
  rw [words_append h, sum_append]

/-- **A word that completes the sum of the others to all ones makes the whole sum all ones.**  Zero and all ones are two
ways to write the complement of an all-ones sum. -/
theorem sum16_complement {front back : List UInt8} {high low : UInt8} (heven : front.length % 2 = 0)
    (hsome : 0 < total (front ++ 0 :: 0 :: back))
    (hword : high.toNat * 256 + low.toNat = 65535 - sum16 (front ++ 0 :: 0 :: back) ∨
      sum16 (front ++ 0 :: 0 :: back) = 65535 ∧ high.toNat * 256 + low.toNat = 65535) :
    sum16 (front ++ high :: low :: back) = 65535 := by
  have hzero : total (front ++ 0 :: 0 :: back) = total front + total back := by
    rw [total_append heven]
    show _ + (0 + (words back).sum) = _
    rw [Nat.zero_add]
    rfl
  have hfull : total (front ++ high :: low :: back) = total front + total back + (high.toNat * 256 + low.toNat) := by
    rw [total_append heven]
    show _ + (high.toNat * 256 + low.toNat + total back) = _
    omega
  rw [sum16_eq, wrap] at hword
  rw [sum16_eq, wrap]
  rw [if_neg (by omega)] at hword
  rw [if_neg (by omega)]
  omega

end OnesComplement
end NetTool
