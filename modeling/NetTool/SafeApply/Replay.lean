import NetTool.SafeApply.Confirm
/-!
# SafeApply.Replay — what an accepted `begin` vouches for

A `begin` that runs through returns a record in `PendingConfirmation`, applied and verified.  A replay answers with the
record on the list, and takes any pending one: a record that an earlier attempt left in `Prepared` or `RollingBack` is
handed out as if its apply had succeeded.
-/
namespace NetTool
namespace SafeApply

open Prog
open Ledger (Inv)

variable {env : Env} {w v : World}

/-- The operation waits for its confirmation, and a desired state of the hash asked for was applied and verified for
it. -/
def Vouched (env : Env) (request : BeginSafeApply) (r : PendingSafeApply) (w : World) : Prop :=
  r.operationId = request.operationId ∧ r.state = .pendingConfirmation ∧
    ∃ d, env.hashDesired d = env.hashDesired request.desiredState ∧ desiredOf r.operationId w.events = some d ∧
      .applied r.operationId d ∈ since r.operationId w.events ∧ .verified r.operationId d ∈ since r.operationId w.events

/-- The list holds a record that answers the request and does not wait for a confirmation: one whose apply did not
finish, or whose restore did not. -/
def Stale (env : Env) (request : BeginSafeApply) (w : World) : Prop :=
  ∃ x ∈ w.pending, x.operationId = request.operationId ∧ answers env request x = true ∧ x.state ≠ .pendingConfirmation

variable {r : PendingSafeApply} {request : BeginSafeApply}

theorem begin_of_stale (hnd : (w.pending.map (·.operationId)).Nodup) (hcheck : request.check = .ok ())
    {x : PendingSafeApply} (hx : x ∈ w.pending) (hop : x.operationId = request.operationId)
    (ha : answers env request x = true) : SafeApply.begin env request w = (.ok x, w) := by
  have hfind : w.pending.find? (fun item => decide (item.operationId = request.operationId)) = some x := by
    cases hf : w.pending.find? (fun item => decide (item.operationId = request.operationId)) with
    | none => exact absurd (List.find?_eq_none.1 hf x hx) (by simp [hop])
    | some y =>
      have hy := List.find?_some hf
      simp only [decide_eq_true_eq] at hy
      rw [List.inj_on_of_nodup_map hnd (List.mem_of_find?_eq_some hf) hx (hy.trans hop.symm)]
  have hpassed : ofExcept (request.check.mapError Stop.error) w = (.ok (), w) := by rw [hcheck]; rfl
  unfold SafeApply.begin
  rw [bind_of_ok hpassed, get_bind, hfind]
  exact congrFun (if_pos ha) w

theorem begin_check (h : SafeApply.begin env request w = (.ok r, v)) : request.check = .ok () := by
  cases hc : request.check with
  | ok a => rfl
  | error e =>
    unfold SafeApply.begin at h
    rw [hc] at h
    cases h

/-- **In every run, what a `begin` that returns `Ok` hands out waits for its confirmation, applied and verified, exactly
when the request is refused by its checks or no stale record answers it.** -/
theorem begin_vouches_iff (env : Env) (w : World) (h : Reachable env (fun _ => True) w) (hrun : w.running = true)
    (request : BeginSafeApply) :
    (∀ r v, SafeApply.begin env request w = (.ok r, v) → Vouched env request r v) ↔
      ¬ (request.check = .ok () ∧ Stale env request w) := by
  obtain ⟨hi, hintact⟩ := reach_inv h
  constructor
  · rintro hall ⟨hcheck, x, hx, hop, ha, hst⟩
    exact hst (hall x w (begin_of_stale hi.nodupMemory hcheck hx hop ha)).2.1
  · intro hnot r v hm
    have hlong : Along env.hashDesired (fun _ => True) w.ledger w := ⟨.refl, hrun, hintact⟩
    obtain ⟨hv, hr, hop, hhash, hst⟩ := wp_ok (hlong.begin env request) hm
    replace hst : r.state = .pendingConfirmation := by
      rcases hst with hst | ⟨rfl, ha⟩
      · exact hst
      · by_contra hne
        exact hnot ⟨begin_check hm, r, hr, hop, ha, hne⟩
    obtain ⟨hs, d, hd, hdh⟩ := (hi.moves hv.moves).sound r (.inl hr)
    unfold Ledger.Sound at hs
    rw [hst] at hs
    obtain ⟨d', hd', ha, hvouched⟩ := hs.1
    obtain rfl : d' = d := Option.mem_unique hd' hd
    exact ⟨hop, hst, d', hdh.trans hhash, hd, ha, hvouched⟩

theorem begin_vouches_iff_sample :
    Vouched calmEnv sampleRequest (sampleRecord .pendingConfirmation) (run calmEnv waitingRun) := by
  have hcall : SafeApply.begin calmEnv sampleRequest (run calmEnv [.open]) =
      (.ok (sampleRecord .pendingConfirmation), run calmEnv waitingRun) := Prod.ext rfl rfl
  refine (begin_vouches_iff calmEnv (run calmEnv [.open]) (Reach.foldl [Request.open] _ .init ⟨trivial, trivial⟩)
    (by decide) sampleRequest).2 ?_ _ _ hcall
  rintro ⟨-, x, hx, -⟩
  cases hx

/-- The state write of a first `begin` fails; the second one returns the `Prepared` record, and nothing was applied. -/
theorem begin_replays_unapplied : ¬ ∀ (env : Env) (w : World), Reachable env (fun _ => True) w → w.running = true →
    ∀ request r v, SafeApply.begin env request w = (.ok r, v) → Vouched env request r v := by
  intro h
  have hcall : SafeApply.begin (failingWrite 1) sampleRequest (run (failingWrite 1) waitingRun) =
      (.ok (sampleRecord .prepared), run (failingWrite 1) waitingRun) := Prod.ext rfl rfl
  have hst := (h (failingWrite 1) _ (waitingRun_reachable _) (by decide) sampleRequest _ _ hcall).2.1
  cases hst

end SafeApply
end NetTool
