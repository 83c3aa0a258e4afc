import Mathlib.Algebra.Order.Ring.Int
/-!
# Lib.Bytes — parts of a byte string and the numbers in them

`range` is a part of a list by its two ends, if they are in order and inside.  `ofBe` and `ofLe` read a number from
bytes, most or least significant byte first; `toLe` and `toBe` write one: a number that fits is read back (`ofLe_toLe`,
`ofBe_toBe`), and bytes that were read are what would be written (`toLe_ofLe`, `toBe_ofBe`).
-/
namespace NetTool
namespace Bytes

open List

variable {α : Type*}

/-- `slice.get(start..stop)`. -/
def range (l : List α) (start stop : Nat) : Option (List α) :=
  if start ≤ stop ∧ stop ≤ l.length then some ((l.take stop).drop start) else none

theorem range_some_iff {l part : List α} {start stop : Nat} :
    range l start stop = some part ↔ start ≤ stop ∧ stop ≤ l.length ∧ (l.take stop).drop start = part := by
  unfold range
  by_cases h : start ≤ stop ∧ stop ≤ l.length
  · rw [if_pos h, Option.some.injEq]
    exact ⟨fun hpart => ⟨h.1, h.2, hpart⟩, fun hpart => hpart.2.2⟩
  · rw [if_neg h]
    exact ⟨fun hnone => (by cases hnone), fun hpart => absurd ⟨hpart.1, hpart.2.1⟩ h⟩

theorem range_append {front : List α} {start length : Nat} (h : front.length ≤ start) (l : List α) :
    range (front ++ l) start (start + length) = range l (start - front.length) (start - front.length + length) := by
  unfold range
  by_cases hstop : start - front.length + length ≤ l.length
  · have htake : (front ++ l).take (start + length) = front ++ l.take (start - front.length + length) := by
      rw [take_append, take_of_length_le (by omega), Nat.sub_add_comm h]
    rw [if_pos ⟨Nat.le_add_right _ _, by rw [length_append]; omega⟩, if_pos ⟨Nat.le_add_right _ _, hstop⟩, htake,
      drop_append, drop_eq_nil_of_le h, nil_append]
  · rw [if_neg (by rw [length_append]; omega), if_neg (by omega)]

theorem take_congr {l l' : List α} {n k : Nat} (h : l.take n = l'.take n) (hk : k ≤ n) : l.take k = l'.take k := by
  rw [← Nat.min_eq_left hk, ← take_take, ← take_take, h]

theorem part_part (l : List α) {start stop low high : Nat} (h : start + high ≤ stop) :
    ((((l.take stop).drop start).take high).drop low) = (l.take (start + high)).drop (start + low) := by
  rw [take_drop, take_take, drop_drop, Nat.min_eq_left (by omega)]

/-- `l[start..stop]` for some bounds that lie between two positions in the list. -/
def Part (l : List α) (low high : Nat) (part : List α) : Prop :=
  ∃ start stop, low ≤ start ∧ start ≤ stop ∧ stop ≤ high ∧ high ≤ l.length ∧ part = (l.take stop).drop start

/-! ## Numbers -/

def ofBe (bytes : List UInt8) : Nat := bytes.foldl (fun n b => n * 256 + b.toNat) 0

def ofLe : List UInt8 → Nat
  | [] => 0
  | b :: rest => b.toNat + 256 * ofLe rest

/-- The lowest `width` bytes of a number. -/
def toLe : Nat → Nat → List UInt8
  | 0, _ => []
  | width + 1, value => .ofNat value :: toLe width (value / 256)

@[simp] theorem length_toLe (width value : Nat) : (toLe width value).length = width := by
  induction width generalizing value with
  | zero => rfl
  | succ width ih => rw [toLe, length_cons, ih]

theorem ofLe_toLe {width value : Nat} (h : value < 256 ^ width) : ofLe (toLe width value) = value := by
  induction width generalizing value with
  | zero => exact (Nat.lt_one_iff.1 h).symm
  | succ width ih =>
    have hhigh : value / 256 < 256 ^ width := Nat.div_lt_of_lt_mul (by rwa [Nat.pow_succ, Nat.mul_comm] at h)
    rw [toLe, ofLe, ih hhigh]
    exact Nat.mod_add_div value 256

/-- The same bytes, most significant first. -/
def toBe (width value : Nat) : List UInt8 := (toLe width value).reverse

@[simp] theorem length_toBe (width value : Nat) : (toBe width value).length = width := by
  rw [toBe, length_reverse, length_toLe]

variable (bytes : List UInt8)

theorem ofBe_reverse : ofBe bytes.reverse = ofLe bytes := by
  unfold ofBe
  rw [foldl_reverse]
  induction bytes with
  | nil => rfl
  | cons b rest ih =>
    rw [foldr_cons, ofLe]
    omega

theorem ofBe_toBe {width value : Nat} (h : value < 256 ^ width) : ofBe (toBe width value) = value := by
  rw [toBe, ofBe_reverse, ofLe_toLe h]

theorem toLe_ofLe : toLe bytes.length (ofLe bytes) = bytes := by
  induction bytes with
  | nil => rfl
  | cons b rest ih =>
    have hb := b.toNat_lt
    have hlow : UInt8.ofNat (b.toNat + 256 * ofLe rest) = b := by
      rw [← UInt8.toNat_inj, UInt8.toNat_ofNat']
      omega
    have hhigh : (b.toNat + 256 * ofLe rest) / 256 = ofLe rest := by omega
    rw [length_cons, ofLe, toLe, hlow, hhigh, ih]

theorem ofBe_eq_ofLe : ofBe bytes = ofLe bytes.reverse := by
  rw [← ofBe_reverse, reverse_reverse]

theorem toBe_ofBe : toBe bytes.length (ofBe bytes) = bytes := by
  have hback := toLe_ofLe bytes.reverse
  rw [length_reverse] at hback
  rw [toBe, ofBe_eq_ofLe, hback, reverse_reverse]

/-- A field of a byte string is what its number is written as. -/
theorem toBe_field {bytes : List UInt8} {start width : Nat} (h : start + width ≤ bytes.length) :
    toBe width (ofBe ((bytes.drop start).take width)) = (bytes.drop start).take width := by
  have hwidth : ((bytes.drop start).take width).length = width := by
    rw [length_take, length_drop]
    omega
  have hback := toBe_ofBe ((bytes.drop start).take width)
  rwa [hwidth] at hback

theorem ofLe_lt : ofLe bytes < 256 ^ bytes.length := by
  induction bytes with
  | nil => exact Nat.one_pos
  | cons b rest ih =>
    have hb := b.toNat_lt
    rw [ofLe, length_cons]
    omega

theorem ofBe_take_lt (width : Nat) : ofBe (bytes.take width) < 256 ^ width := by
  have hlt := ofLe_lt (bytes.take width).reverse
  rw [← ofBe_eq_ofLe, length_reverse, length_take] at hlt
  exact Nat.lt_of_lt_of_le hlt (Nat.pow_le_pow_right (by decide) (Nat.min_le_left _ _))

end Bytes
end NetTool
