import Mathlib.Tactic.Common
/-!
# Lib.Slice — writing into a buffer at an offset

A buffer is a list; `copyAt` replaces the elements from an offset on, and `copyAll` makes a list of such writes in
order. A write that fits keeps the length.
-/
namespace NetTool
namespace Slice

open List

variable {α : Type*}

def copyAt (start : Nat) (source buffer : List α) : List α :=
  buffer.take start ++ source ++ buffer.drop (start + source.length)

def copyAll (writes : List (Nat × List α)) (buffer : List α) : List α :=
  writes.foldl (fun buffer write => copyAt write.1 write.2 buffer) buffer

def Fits (size : Nat) (write : Nat × List α) : Prop := write.1 + write.2.length ≤ size

instance (size : Nat) (write : Nat × List α) : Decidable (Fits size write) := inferInstanceAs (Decidable (_ ≤ _))

theorem length_copyAt {start : Nat} {source buffer : List α} (h : start + source.length ≤ buffer.length) :
    (copyAt start source buffer).length = buffer.length := by
  unfold copyAt
  rw [length_append, length_append, length_take, length_drop]
  omega

theorem copyAt_part {start : Nat} (front : List α) {old source : List α} (back : List α) (hstart : front.length = start)
    (hlength : old.length = source.length) :
    copyAt start source (front ++ (old ++ back)) = front ++ (source ++ back) := by
  have hend : start + source.length = (front ++ old).length := by rw [length_append, hstart, hlength]
  unfold copyAt
  rw [hend, ← append_assoc front old back, drop_left, append_assoc front old back, ← hstart, take_left,
    append_assoc]

theorem length_copyAll {writes : List (Nat × List α)} {buffer : List α}
    (h : ∀ write ∈ writes, Fits buffer.length write) : (copyAll writes buffer).length = buffer.length := by
  induction writes generalizing buffer with
  | nil => rfl
  | cons write rest ih =>
    have hfirst : (copyAt write.1 write.2 buffer).length = buffer.length :=
      length_copyAt (h write (mem_cons_self ..))
    have hrest : ∀ w ∈ rest, Fits (copyAt write.1 write.2 buffer).length w := by
      intro w hw
      rw [hfirst]
      exact h w (mem_cons_of_mem _ hw)
    exact (ih hrest).trans hfirst

end Slice
end NetTool
