import Mathlib.Algebra.Order.Ring.Int
/-!
# Lib.Serial — 32-bit numbers that wrap around

`before` compares two numbers by the sign of their difference.  Numbers that lie within half the circle of a base are
ordered by it as their distances from the base are (`before_iff`).  `Span start length` is a range of numbers, wrapping
where it has to.
-/
namespace NetTool
namespace Serial

/-- How far a number lies after the base. -/
def offset (base x : UInt32) : Nat := (x - base).toNat

def before (left right : UInt32) : Bool := decide ((left - right).toInt32 < 0)

/-- The numbers from `start` on, `length` of them. -/
def Span (start : UInt32) (length : Nat) (x : UInt32) : Prop := offset start x < length

instance (start : UInt32) (length : Nat) (x : UInt32) : Decidable (Span start length x) :=
  inferInstanceAs (Decidable (_ < _))

theorem offset_lt (base x : UInt32) : offset base x < 2 ^ 32 := (x - base).toNat_lt

theorem offset_eq (base x : UInt32) : offset base x = (2 ^ 32 - base.toNat + x.toNat) % 2 ^ 32 :=
  UInt32.toNat_sub ..

@[simp] theorem offset_self (base : UInt32) : offset base base = 0 := by
  unfold offset
  rw [UInt32.sub_self]
  rfl

theorem offset_inj {base x y : UInt32} (h : offset base x = offset base y) : x = y := by
  rw [offset_eq, offset_eq] at h
  have hx := x.toNat_lt
  have hy := y.toNat_lt
  apply UInt32.toNat_inj.1
  omega

theorem offset_of_base (base x y : UInt32) : offset y x = (2 ^ 32 - offset base y + offset base x) % 2 ^ 32 := by
  have hy := y.toNat_lt
  rw [offset_eq, offset_eq base y, offset_eq base x]
  omega

theorem before_iff_offset (left right : UInt32) : before left right = true ↔ 2 ^ 31 ≤ offset right left := by
  have hlt := offset_lt right left
  unfold before offset at *
  rw [decide_eq_true_eq, Int32.lt_iff_toInt_lt]
  show (if 2 * (left - right).toNat < 2 ^ 32 then ((left - right).toNat : Int)
    else ((left - right).toNat : Int) - (2 ^ 32 : Nat)) < 0 ↔ _
  split <;> omega

/-- **Within half the circle of a base the sign of the difference orders by distance.** -/
theorem before_iff {base left right : UInt32} (hleft : offset base left < 2 ^ 31)
    (hright : offset base right ≤ 2 ^ 31) : before left right = true ↔ offset base left < offset base right := by
  rw [before_iff_offset, offset_of_base base left right]
  omega

/-- Neither of two numbers is before the other when they are equal, and only then. -/
theorem eq_iff_not_before {left right : UInt32} :
    left = right ↔ before left right = false ∧ before right left = false := by
  rw [Bool.eq_false_iff, Bool.eq_false_iff, Ne, Ne, before_iff_offset, before_iff_offset]
  have hleft := left.toNat_lt
  have hright := right.toNat_lt
  constructor
  · rintro rfl
    rw [offset_self]
    omega
  · rintro ⟨h, h'⟩
    rw [offset_eq] at h h'
    apply UInt32.toNat_inj.1
    omega

theorem offset_add {base start length : UInt32} (h : offset base start + length.toNat < 2 ^ 32) :
    offset base (start + length) = offset base start + length.toNat := by
  rw [offset_eq] at h
  rw [offset_eq, offset_eq base start, UInt32.toNat_add]
  omega

theorem span_iff {base start : UInt32} {length : Nat} (h : offset base start + length ≤ 2 ^ 32) (x : UInt32) :
    Span start length x ↔ offset base start ≤ offset base x ∧ offset base x < offset base start + length := by
  have hx := offset_lt base x
  unfold Span
  rw [offset_of_base base x start]
  omega

theorem offset_zero (x : UInt32) : offset 0 x = x.toNat := by
  unfold offset
  rw [UInt32.sub_zero]

theorem span_iff_toNat {start : UInt32} {length : Nat} (h : start.toNat + length ≤ 2 ^ 32) (x : UInt32) :
    Span start length x ↔ start.toNat ≤ x.toNat ∧ x.toNat < start.toNat + length := by
  rw [← offset_zero start] at h
  rw [span_iff h, offset_zero, offset_zero]

end Serial
end NetTool
