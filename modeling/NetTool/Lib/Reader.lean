import Mathlib.Data.List.Basic
import NetTool.Lib.Prog
/-!
# Lib.Reader — programs that read a stream

The state of a reader is what is still to be read.  `readExact` takes the next elements and nothing beyond them.  A
reader that recovers a value from what was written for it, whatever follows, recovers a list of values from what was
written for them one after another, and leaves what follows (`readMany_flatMap`).
-/
namespace NetTool
namespace Reader

open List

variable {α β ε : Type}

/-- `read_exact`: the next `length` elements.  A stream that ends before them is read to its end. -/
def readExact (e : ε) (length : Nat) : Prog (List α) ε (List α) := fun stream =>
  if length ≤ stream.length then (.ok (stream.take length), stream.drop length) else (.error e, [])

theorem readExact_append {e : ε} {part : List α} {length : Nat} (h : part.length = length) (rest : List α) :
    readExact e length (part ++ rest) = (.ok part, rest) := by
  unfold readExact
  rw [if_pos (by rw [length_append]; omega), take_left' h, drop_left' h]

theorem wp_readExact {e : ε} {length : Nat} {stream : List α} {Q : List α → List α → Prop} {E : ε → List α → Prop}
    (hread : ∀ part rest, stream = part ++ rest → part.length = length → Q part rest) (hshort : E e []) :
    Prog.wp (readExact e length) Q E stream := by
  unfold Prog.wp readExact
  by_cases hlength : length ≤ stream.length
  · rw [if_pos hlength]
    exact hread _ _ (take_append_drop _ _).symm (by rw [length_take]; omega)
  · rw [if_neg hlength]
    exact hshort

def readMany (read : Prog (List α) ε β) : Nat → Prog (List α) ε (List β)
  | 0 => Prog.pure []
  | count + 1 => do
    let value ← read
    let others ← readMany read count
    Prog.pure (value :: others)

theorem readMany_flatMap {read : Prog (List α) ε β} {write : β → List α} {values : List β}
    (h : ∀ value ∈ values, ∀ rest, read (write value ++ rest) = (.ok value, rest)) (rest : List α) :
    readMany read values.length (values.flatMap write ++ rest) = (.ok values, rest) := by
  induction values with
  | nil => rfl
  | cons value values ih =>
    have hfirst := h value mem_cons_self (values.flatMap write ++ rest)
    have hothers := ih (fun v hv => h v (mem_cons_of_mem _ hv))
    rw [flatMap_cons, append_assoc, length_cons, readMany, Prog.bind_of_ok hfirst, Prog.bind_of_ok hothers]
    rfl

end Reader
end NetTool
