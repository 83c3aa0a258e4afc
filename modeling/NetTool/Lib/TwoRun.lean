import NetTool.Lib.Prog
/-!
# TwoRun — two runs of a program from related states

`Agree R m m' s t` says that `m` from `s` and `m'` from `t` answer the same and leave states related by `R`.  Its rules
follow the program: a read may be of anything the two states have in common, and a write is done on both sides.
`AgreeBut X R` is for a program that may be refused for a reason in `X` which the two states need not share: when both
runs are refused for such a reason or neither is, the states stay related and the answers are the same, the refusals
apart.
-/
namespace NetTool
namespace Prog

variable {σ τ ε α β : Type} {R : σ → σ → Prop} {s t : σ}

def Agree (R : σ → σ → Prop) (m m' : Prog σ ε α) (s t : σ) : Prop := (m s).1 = (m' t).1 ∧ R (m s).2 (m' t).2

/-- The program answers alike at the two states. -/
abbrev Respects (R : σ → σ → Prop) (m : Prog σ ε α) (s t : σ) : Prop := Agree R m m s t

namespace Agree

variable {m m' : Prog σ ε α}

theorem pure (a : α) (h : R s t) : Agree R (Pure.pure a : Prog σ ε α) (Pure.pure a) s t := ⟨rfl, h⟩

theorem fail (e : ε) (h : R s t) : Agree R (Prog.fail e : Prog σ ε α) (Prog.fail e) s t := ⟨rfl, h⟩

theorem modify {f g : σ → σ} (h : R (f s) (g t)) : Agree R (Prog.modify f : Prog σ ε Unit) (Prog.modify g) s t :=
  ⟨rfl, h⟩

theorem ofOption (e : ε) (o : Option α) (h : R s t) :
    Agree R (Prog.ofOption e o : Prog σ ε α) (Prog.ofOption e o) s t := by
  cases o <;> exact ⟨rfl, h⟩

theorem bind {k k' : α → Prog σ ε β} (h : Agree R m m' s t) (hk : ∀ a s' t', R s' t' → Agree R (k a) (k' a) s' t') :
    Agree R (m >>= k) (m' >>= k') s t := by
  obtain ⟨hanswer, hstate⟩ := h
  show (Prog.bind m k s).1 = (Prog.bind m' k' t).1 ∧ R (Prog.bind m k s).2 (Prog.bind m' k' t).2
  unfold Prog.bind
  rcases hm : m s with ⟨e | a, s'⟩ <;> rcases hm' : m' t with ⟨e' | a', t'⟩ <;> rw [hm, hm'] at hanswer hstate
  · exact ⟨congrArg Except.error (Except.error.inj hanswer), hstate⟩
  · cases hanswer
  · cases hanswer
  · cases hanswer
    exact hk a s' t' hstate

/-- The states are read, and what is done with them may differ. -/
theorem get_bind {k k' : σ → Prog σ ε α} (h : Agree R (k s) (k' t) s t) : Agree R (get >>= k) (get >>= k') s t := h

variable {k k' : β → Prog σ ε α}

theorem ofOption_bind {e : ε} {o o' : Option β} (heq : o = o') (h : R s t)
    (hk : ∀ b, o = some b → Agree R (k b) (k' b) s t) :
    Agree R (Prog.ofOption e o >>= k) (Prog.ofOption e o' >>= k') s t := by
  subst heq
  cases o with
  | none => exact ⟨rfl, h⟩
  | some b => exact hk b rfl

theorem ofExcept_bind {r : Except ε β} (h : R s t) (hk : ∀ b, r = .ok b → Agree R (k b) (k' b) s t) :
    Agree R (Prog.ofExcept r >>= k) (Prog.ofExcept r >>= k') s t := by
  cases r with
  | error e => exact ⟨rfl, h⟩
  | ok b => exact hk b rfl

theorem modify_bind {f g : σ → σ} {k k' : Unit → Prog σ ε α} (h : Agree R (k ()) (k' ()) (f s) (g t)) :
    Agree R (Prog.modify f >>= k) (Prog.modify g >>= k') s t := h

theorem ite {p p' : Prop} [Decidable p] [Decidable p'] {n n' : Prog σ ε α} (hp : p ↔ p') (hm : p → Agree R m m' s t)
    (hn : ¬ p → Agree R n n' s t) : Agree R (if p then m else n) (if p' then m' else n') s t := by
  by_cases h : p
  · rw [if_pos h, if_pos (hp.1 h)]
    exact hm h
  · rw [if_neg h, if_neg (fun h' => h (hp.2 h'))]
    exact hn h

theorem guard {p : Prop} [Decidable p] {e : ε} (h : R s t) (hm : ¬ p → Agree R m m' s t) :
    Agree R (if p then Prog.fail e else m) (if p then Prog.fail e else m') s t :=
  .ite Iff.rfl (fun _ => .fail e h) hm

/-- A program of a component, which the two runs may hold in different surroundings. -/
theorem zoom {S : τ → τ → Prop} {look : σ → τ} {write : τ → σ → σ} {n n' : Prog τ ε α}
    (h : Agree S n n' (look s) (look t)) (hwrite : ∀ a b, S a b → R (write a s) (write b t)) :
    Agree R (Prog.zoom look write n) (Prog.zoom look write n') s t :=
  ⟨h.1, hwrite _ _ h.2⟩

end Agree

/-! ## Up to a refusal -/

def Refused (X : ε → Prop) (r : Except ε α) : Prop := ∃ e, r = .error e ∧ X e

variable {X : ε → Prop}

theorem not_refused_ok (a : α) : ¬ Refused X (.ok a : Except ε α) := by
  rintro ⟨e, h, -⟩
  cases h

theorem refused_error {e : ε} : Refused X (.error e : Except ε α) ↔ X e := by
  constructor
  · rintro ⟨e', h, hX⟩
    cases h
    exact hX
  · exact fun hX => ⟨e, rfl, hX⟩

theorem not_refused_of_wp {m : Prog σ ε α} (h : wp m (fun _ _ => True) (fun e _ => ¬ X e) s) : ¬ Refused X (m s).1 := by
  rintro ⟨e, he, hX⟩
  unfold wp at h
  rcases hm : m s with ⟨e' | a, s'⟩ <;> rw [hm] at h he
  · cases he
    exact h hX
  · cases he

def AgreeBut (X : ε → Prop) (R : σ → σ → Prop) (m m' : Prog σ ε α) (s t : σ) : Prop :=
  (Refused X (m s).1 ↔ Refused X (m' t).1) → (¬ Refused X (m s).1 → (m s).1 = (m' t).1) ∧ R (m s).2 (m' t).2

abbrev RespectsBut (X : ε → Prop) (R : σ → σ → Prop) (m : Prog σ ε α) (s t : σ) : Prop := AgreeBut X R m m s t

namespace AgreeBut

variable {X : ε → Prop} {m m' : Prog σ ε α}

theorem of_agree (h : Agree R m m' s t) : AgreeBut X R m m' s t := fun _ => ⟨fun _ => h.1, h.2⟩

theorem congr {Y : ε → Prop} (hX : ∀ e, X e ↔ Y e) (h : AgreeBut X R m m' s t) : AgreeBut Y R m m' s t := by
  have heq : X = Y := funext (fun e => propext (hX e))
  rw [← heq]
  exact h

theorem get_bind {k k' : σ → Prog σ ε α} (h : AgreeBut X R (k s) (k' t) s t) :
    AgreeBut X R (get >>= k) (get >>= k') s t := h

variable {k k' : β → Prog σ ε α}

theorem ofExcept_bind {r : Except ε β} (h : R s t) (hk : ∀ b, r = .ok b → AgreeBut X R (k b) (k' b) s t) :
    AgreeBut X R (Prog.ofExcept r >>= k) (Prog.ofExcept r >>= k') s t := by
  cases r with
  | error e => exact fun _ => ⟨fun _ => rfl, h⟩
  | ok b => exact hk b rfl

theorem ofOption_bind {e : ε} {o : Option β} (h : R s t) (hk : ∀ b, o = some b → AgreeBut X R (k b) (k' b) s t) :
    AgreeBut X R (Prog.ofOption e o >>= k) (Prog.ofOption e o >>= k') s t := by
  cases o with
  | none => exact fun _ => ⟨fun _ => rfl, h⟩
  | some b => exact hk b rfl

theorem ite {p p' : Prop} [Decidable p] [Decidable p'] {n n' : Prog σ ε α} (hp : p ↔ p')
    (hm : p → AgreeBut X R m m' s t)
    (hn : ¬ p → AgreeBut X R n n' s t) : AgreeBut X R (if p then m else n) (if p' then m' else n') s t := by
  by_cases h : p
  · rw [if_pos h, if_pos (hp.1 h)]
    exact hm h
  · rw [if_neg h, if_neg (fun h' => h (hp.2 h'))]
    exact hn h

theorem guard {p : Prop} [Decidable p] {e : ε} (h : R s t) (hm : ¬ p → AgreeBut X R m m' s t) :
    AgreeBut X R (if p then Prog.fail e else m) (if p then Prog.fail e else m') s t :=
  .ite Iff.rfl (fun _ => .of_agree (.fail e h)) hm

/-- Nothing that follows is refused for a reason in `X`, so the first part decides. -/
theorem bind {k k' : α → Prog σ ε β} (h : AgreeBut X R m m' s t) (hk : ∀ a s' t', R s' t' → Agree R (k a) (k' a) s' t')
    (hX : ∀ a s', ¬ Refused X (k a s').1) (hX' : ∀ a s', ¬ Refused X (k' a s').1) :
    AgreeBut X R (m >>= k) (m' >>= k') s t := by
  intro hiff
  change Refused X (Prog.bind m k s).1 ↔ Refused X (Prog.bind m' k' t).1 at hiff
  show (¬ Refused X (Prog.bind m k s).1 → (Prog.bind m k s).1 = (Prog.bind m' k' t).1) ∧
    R (Prog.bind m k s).2 (Prog.bind m' k' t).2
  unfold AgreeBut at h
  unfold Prog.bind at hiff ⊢
  rcases hm : m s with ⟨e | a, s'⟩ <;> rcases hm' : m' t with ⟨e' | a', t'⟩ <;> rw [hm, hm'] at h hiff
  · simp only [refused_error] at h hiff ⊢
    obtain ⟨hanswer, hstate⟩ := h hiff
    exact ⟨fun hnot => congrArg Except.error (Except.error.inj (hanswer hnot)), hstate⟩
  · -- One run stopped for a reason outside of `X`: then so did the other.
    have hnot : ¬ X e := fun hXe => hX' a' t' (hiff.1 (refused_error.2 hXe))
    have hneither : Refused X (.error e : Except ε α) ↔ Refused X (.ok a' : Except ε α) :=
      iff_of_false (fun h' => hnot (refused_error.1 h')) (not_refused_ok a')
    cases (h hneither).1 (fun h' => hnot (refused_error.1 h'))
  · have hnot : ¬ X e' := fun hXe => hX a s' (hiff.2 (refused_error.2 hXe))
    have hneither : Refused X (.ok a : Except ε α) ↔ Refused X (.error e' : Except ε α) :=
      iff_of_false (not_refused_ok a) (fun h' => hnot (refused_error.1 h'))
    cases (h hneither).1 (not_refused_ok a)
  · obtain ⟨hanswer, hstate⟩ := h (iff_of_false (not_refused_ok a) (not_refused_ok a'))
    cases hanswer (not_refused_ok a)
    obtain ⟨hanswer', hstate'⟩ := hk a s' t' hstate
    exact ⟨fun _ => hanswer', hstate'⟩

/-- What is made of the answer afterwards may look at what the states have in common. -/
theorem bind_read {f : α → σ → β} (h : AgreeBut X R m m' s t) (hf : ∀ a s' t', R s' t' → f a s' = f a t') :
    AgreeBut X R (m >>= fun a => get >>= fun s' => Pure.pure (f a s'))
      (m' >>= fun a => get >>= fun s' => Pure.pure (f a s')) s t :=
  h.bind (fun a s' t' hR => ⟨congrArg Except.ok (hf a s' t' hR), hR⟩) (fun _ _ => not_refused_ok _)
    (fun _ _ => not_refused_ok _)

theorem bind_pure {f : α → β} (h : AgreeBut X R m m' s t) :
    AgreeBut X R (m >>= fun a => Pure.pure (f a)) (m' >>= fun a => Pure.pure (f a)) s t :=
  h.bind (fun a _ _ hR => .pure (f a) hR) (fun _ _ => not_refused_ok _) (fun _ _ => not_refused_ok _)

theorem zoom {S : τ → τ → Prop} {look : σ → τ} {write : τ → σ → σ} {n n' : Prog τ ε α}
    (h : AgreeBut X S n n' (look s) (look t)) (hwrite : ∀ a b, S a b → R (write a s) (write b t)) :
    AgreeBut X R (Prog.zoom look write n) (Prog.zoom look write n') s t :=
  fun hiff => ⟨(h hiff).1, hwrite _ _ (h hiff).2⟩

end AgreeBut
end Prog
end NetTool
