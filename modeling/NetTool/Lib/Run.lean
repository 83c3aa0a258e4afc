import Mathlib.Tactic.Common
/-!
# Run — what holds along every run of a machine

A machine is an initial state and a step function over labels; a run is a list of labels.  `Reach init step ok` collects
the states of the runs in which every label satisfies `ok` at the state it is taken from, so that a result about all
runs (`ok` always true) and one about the runs that keep to a condition are proved by the same induction
(`Reach.invariant`).
-/
namespace NetTool

variable {σ α : Type}

/-- The states reachable from `init` by steps whose label is allowed by `ok` where it is taken. -/
inductive Reach (init : σ) (step : σ → α → σ) (ok : σ → α → Prop) : σ → Prop
  | init : Reach init step ok init
  | step {s : σ} (a : α) : Reach init step ok s → ok s a → Reach init step ok (step s a)

/-- Every label of a list is allowed where the list takes it. -/
def Allowed (step : σ → α → σ) (ok : σ → α → Prop) : σ → List α → Prop
  | _, []      => True
  | s, a :: as => ok s a ∧ Allowed step ok (step s a) as

instance Allowed.decidable (step : σ → α → σ) (ok : σ → α → Prop) [∀ s a, Decidable (ok s a)] :
    ∀ s as, Decidable (Allowed step ok s as)
  | _, []      => .isTrue trivial
  | s, a :: as => @instDecidableAnd _ _ _ (Allowed.decidable step ok (step s a) as)

namespace Reach

variable {init : σ} {step : σ → α → σ} {ok : σ → α → Prop} {s : σ}

/-- **The invariant rule.** -/
theorem invariant {I : σ → Prop} (h0 : I init) (hstep : ∀ s a, I s → ok s a → I (step s a))
    (h : Reach init step ok s) : I s := by
  induction h with
  | init => exact h0
  | step a _ hok ih => exact hstep _ a ih hok

theorem trans {s' : σ} (h : Reach init step ok s) (h' : Reach s step ok s') : Reach init step ok s' := by
  induction h' with
  | init => exact h
  | step a _ hok ih => exact .step a ih hok

theorem foldl : ∀ (as : List α) (s : σ), Reach init step ok s → Allowed step ok s as →
    Reach init step ok (as.foldl step s)
  | [], _, h, _ => h
  | a :: as, s, h, hall => foldl as (step s a) (.step a h hall.1) hall.2

end Reach

end NetTool
