import Mathlib.Data.List.Basic
/-!
# Slot — a value that several holders save, set and put back

Each holder saves the value it finds when it comes and puts that value back when it goes.  Holders that overlap save
each other's values, so what the last one puts back need not be the first value.  It is the first value when the holder
that came first goes last (`anchored_release`).
-/
namespace NetTool

open List

/-- The value, and what each holder has saved, the oldest first. -/
structure Slot (O V : Type) where
  value : V
  saved : List (O × V)

namespace Slot

variable {O V : Type} [DecidableEq O]

/-- A holder comes, if it is not there yet, and sets the value. -/
def prepare (o : O) (v : V) (s : Slot O V) : Slot O V where
  value := v
  saved := if o ∈ s.saved.map Prod.fst then s.saved else s.saved ++ [(o, s.value)]

/-- A holder puts back what it has saved, and goes. -/
def release (o : O) (s : Slot O V) : Slot O V :=
  match s.saved.find? (fun p => p.1 = o) with
  | none => s
  | some p => ⟨p.2, s.saved.filter (fun q => q.1 ≠ o)⟩

/-- Holders in the order they came, after one more. -/
def arrive (o : O) (holders : List O) : List O := if o ∈ holders then holders else holders ++ [o]

def leave (o : O) (holders : List O) : List O := holders.filter (· ≠ o)

/-- The oldest holder goes when there is no other. -/
def OldestLast (o : O) (holders : List O) : Prop := holders.head? = some o → holders = [o]

/-- What the oldest holder has saved is `v₀`, which is the value when there is no holder. -/
def Anchored (v₀ : V) (s : Slot O V) : Prop :=
  match s.saved with
  | [] => s.value = v₀
  | p :: _ => p.2 = v₀

variable {o o' : O} {v v₀ w : V} {s : Slot O V}

theorem holders_prepare : (s.prepare o v).saved.map Prod.fst = arrive o (s.saved.map Prod.fst) := by
  unfold prepare arrive
  by_cases ho : o ∈ s.saved.map Prod.fst
  · simp only [if_pos ho]
  · simp only [if_neg ho, map_append, map_cons, map_nil]

theorem not_mem_of_find?_none (h : s.saved.find? (fun p => p.1 = o) = none) : o ∉ s.saved.map Prod.fst := by
  intro ho
  obtain ⟨p, hp, rfl⟩ := mem_map.1 ho
  simpa using List.find?_eq_none.1 h p hp

theorem holders_release : (s.release o).saved.map Prod.fst = leave o (s.saved.map Prod.fst) := by
  unfold release leave
  rw [filter_map]
  cases hfind : s.saved.find? (fun p => p.1 = o) with
  | some p => rfl
  | none =>
    have hall : ∀ q ∈ s.saved, ((fun o' => decide (o' ≠ o)) ∘ Prod.fst) q = true := by
      intro q hq
      have hne : q.1 ≠ o := fun heq => not_mem_of_find?_none hfind (mem_map.2 ⟨q, hq, heq⟩)
      simpa using hne
    rw [filter_eq_self.2 hall]

theorem mem_prepare : (o', w) ∈ (s.prepare o v).saved ↔
    (o', w) ∈ s.saved ∨ (o' = o ∧ w = s.value ∧ o ∉ s.saved.map Prod.fst) := by
  unfold prepare
  by_cases ho : o ∈ s.saved.map Prod.fst
  · simp [ho]
  · simp [ho]

theorem mem_release : (o', w) ∈ (s.release o).saved ↔ (o', w) ∈ s.saved ∧ o' ≠ o := by
  unfold release
  cases hfind : s.saved.find? (fun p => p.1 = o) with
  | some p => simp only [mem_filter, decide_eq_true_eq]
  | none =>
    refine ⟨fun h => ⟨h, fun heq => ?_⟩, fun h => h.1⟩
    exact not_mem_of_find?_none hfind (mem_map.2 ⟨(o', w), h, heq⟩)

theorem release_of_not_mem (h : ∀ w, (o, w) ∉ s.saved) : s.release o = s := by
  unfold release
  cases hfind : s.saved.find? (fun p => p.1 = o) with
  | none => rfl
  | some p =>
    have hkey : p.1 = o := by simpa using List.find?_some hfind
    refine absurd (mem_of_find?_eq_some hfind) ?_
    rw [← hkey] at h
    exact h p.2

/-- The value put back is one the holder has saved. -/
theorem value_release (h : (o, w) ∈ s.saved) : (o, (s.release o).value) ∈ s.saved := by
  unfold release
  cases hfind : s.saved.find? (fun p => p.1 = o) with
  | none => exact absurd (mem_map.2 ⟨(o, w), h, rfl⟩) (not_mem_of_find?_none hfind)
  | some p =>
    have hkey : p.1 = o := by simpa using List.find?_some hfind
    rw [← hkey]
    exact mem_of_find?_eq_some hfind

/-! ## The oldest holder's value -/

theorem anchored_prepare (h : s.Anchored v₀) : (s.prepare o v).Anchored v₀ := by
  obtain ⟨value, _ | ⟨p, saved⟩⟩ := s
  · exact h
  · unfold prepare Anchored
    by_cases ho : o ∈ (p :: saved).map Prod.fst
    · simp only [if_pos ho]
      exact h
    · simp only [if_neg ho, cons_append]
      exact h

theorem anchored_release (h : s.Anchored v₀) (hlast : OldestLast o (s.saved.map Prod.fst)) :
    (s.release o).Anchored v₀ := by
  obtain ⟨value, _ | ⟨p, saved⟩⟩ := s
  · exact h
  · by_cases hp : p.1 = o
    · -- the oldest goes, so it is alone
      have halone : p.1 :: saved.map Prod.fst = [o] := hlast (congrArg some hp)
      have hnil : saved = [] := map_eq_nil_iff.1 (List.cons.inj halone).2
      subst hnil
      unfold release Anchored
      simp only [List.find?_cons, hp, decide_true, filter_cons, ne_eq, not_true, decide_false, filter_nil]
      exact h
    · unfold release
      cases hfind : (p :: saved).find? (fun q => q.1 = o) with
      | none => exact h
      | some q =>
        simp only [filter_cons, ne_eq, hp, not_false_eq_true, decide_true, if_true]
        exact h

end Slot
end NetTool
