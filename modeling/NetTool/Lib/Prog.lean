import Mathlib.Tactic.Common
/-!
# Prog — programs over a state, which may stop

A `Prog σ ε α` changes a state of type `σ` and returns an `α`, or stops with an `ε`.  The state it had reached is kept
in both cases: that is what a method on `&mut self` returning a `Result` does, an early return included.  `wp m Q E` is
the weakest precondition: from it `m` returns with `Q` or stops with `E`.  Its equations turn a program into its
verification conditions, and `wp_mono` lets the specification of a callee be used without opening it.
-/
namespace NetTool

def Prog (σ ε α : Type) : Type := σ → Except ε α × σ

namespace Prog

variable {σ τ ε δ α β : Type}

protected def pure (a : α) : Prog σ ε α := fun s => (.ok a, s)

protected def bind (m : Prog σ ε α) (f : α → Prog σ ε β) : Prog σ ε β := fun s =>
  match m s with
  | (.ok a, s')    => f a s'
  | (.error e, s') => (.error e, s')

instance : Monad (Prog σ ε) where
  pure := Prog.pure
  bind := Prog.bind

def fail (e : ε) : Prog σ ε α := fun s => (.error e, s)
def get : Prog σ ε σ := fun s => (.ok s, s)
def modify (f : σ → σ) : Prog σ ε Unit := fun s => (.ok (), f s)

/-- A result already computed, as a program that changes nothing. -/
def ofExcept : Except ε α → Prog σ ε α
  | .ok a    => Prog.pure a
  | .error e => fail e

def ofOption (e : ε) : Option α → Prog σ ε α
  | some a => Prog.pure a
  | none   => fail e

/-- Run `m` and hand back the errors `p` recognises as a value; what `p` does not recognise still stops. -/
def attempt (p : ε → Option δ) (m : Prog σ ε α) : Prog σ ε (Except δ α) := fun s =>
  match m s with
  | (.ok a, s')    => (.ok (.ok a), s')
  | (.error e, s') =>
    match p e with
    | some d => (.ok (.error d), s')
    | none   => (.error e, s')

/-- Run `m` with its errors renamed. -/
def mapError (f : ε → δ) (m : Prog σ ε α) : Prog σ δ α := fun s => ((m s).1.mapError f, (m s).2)

/-- Run a program of a component of the state. -/
def zoom (look : σ → τ) (write : τ → σ → σ) (m : Prog τ ε α) : Prog σ ε α := fun s =>
  match m (look s) with
  | (r, t) => (r, write t s)

/-- Run `f` on each element in turn, stopping at the first that stops. -/
def forEach (f : α → Prog σ ε Unit) : List α → Prog σ ε Unit
  | []      => Prog.pure ()
  | a :: as => Prog.bind (f a) (fun _ => forEach f as)

variable {f : α → Prog σ ε Unit} {a : α} {m : Prog σ ε α}

theorem forEach_ok_iff {as : List α} {s : σ} (h : ∀ a ∈ as, (f a s).2 = s) :
    (forEach f as s).1 = .ok () ↔ ∀ a ∈ as, (f a s).1 = .ok () := by
  induction as with
  | nil => simp [forEach, Prog.pure]
  | cons a as ih =>
    have hrest := ih fun b hb => h b (List.mem_cons_of_mem _ hb)
    have hstate := h a List.mem_cons_self
    unfold forEach Prog.bind
    rcases hrun : f a s with ⟨e | u, s'⟩
    · simp [hrun]
    · rw [hrun] at hstate
      subst hstate
      simp [hrun, hrest]

theorem get_bind (f : σ → Prog σ ε α) (s : σ) : (get >>= f) s = f s s := rfl

theorem bind_of_ok {s s' : σ} (h : m s = (.ok a, s')) (f : α → Prog σ ε β) : (m >>= f) s = f a s' := by
  show Prog.bind m f s = _
  unfold Prog.bind
  rw [h]

theorem ofExcept_eq {x : Except ε α} (h : x = .ok a) (s : σ) : (ofExcept x : Prog σ ε α) s = (.ok a, s) := by
  rw [h]
  rfl

theorem bind_of_error {s s' : σ} {e : ε} (h : m s = (.error e, s')) (f : α → Prog σ ε β) :
    (m >>= f) s = (.error e, s') := by
  show Prog.bind m f s = _
  unfold Prog.bind
  rw [h]

theorem mapError_of_ok {s s' : σ} {f : ε → δ} (h : m s = (.ok a, s')) : mapError f m s = (.ok a, s') := by
  unfold mapError
  rw [h]
  rfl

theorem bind_pure_snd (m : Prog σ ε α) (f : α → β) (s : σ) : ((m >>= fun a => pure (f a)) s).2 = (m s).2 := by
  show (Prog.bind m _ s).2 = _
  unfold Prog.bind
  rcases m s with ⟨_ | _, _⟩ <;> rfl

/-! ## Weakest preconditions -/

def wp (m : Prog σ ε α) (Q : α → σ → Prop) (E : ε → σ → Prop) (s : σ) : Prop :=
  match m s with
  | (.ok a, s')    => Q a s'
  | (.error e, s') => E e s'

variable {Q : α → σ → Prop} {E : ε → σ → Prop} {s s' : σ}

@[simp] theorem wp_pure (a : α) : wp (pure a : Prog σ ε α) Q E s ↔ Q a s := Iff.rfl
@[simp] theorem wp_pure' (a : α) : wp (Prog.pure a : Prog σ ε α) Q E s ↔ Q a s := Iff.rfl
@[simp] theorem wp_fail (e : ε) : wp (fail e : Prog σ ε α) Q E s ↔ E e s := Iff.rfl
@[simp] theorem wp_get {Q : σ → σ → Prop} : wp (get : Prog σ ε σ) Q E s ↔ Q s s := Iff.rfl
@[simp] theorem wp_modify (f : σ → σ) {Q : Unit → σ → Prop} : wp (modify f : Prog σ ε Unit) Q E s ↔ Q () (f s) :=
  Iff.rfl

@[simp] theorem wp_bind (m : Prog σ ε β) (f : β → Prog σ ε α) :
    wp (m >>= f) Q E s ↔ wp m (fun b s' => wp (f b) Q E s') E s := by
  show wp (Prog.bind m f) Q E s ↔ _
  unfold wp Prog.bind
  rcases m s with ⟨_ | _, _⟩ <;> rfl

theorem wp_mono {Q' : α → σ → Prop} {E' : ε → σ → Prop} (h : wp m Q E s) (hQ : ∀ a s', Q a s' → Q' a s')
    (hE : ∀ e s', E e s' → E' e s') : wp m Q' E' s := by
  unfold wp at h ⊢
  rcases hm : m s with ⟨_ | _, _⟩ <;> rw [hm] at h
  · exact hE _ _ h
  · exact hQ _ _ h

theorem wp_then {f : α → Prog σ ε β} {Q' : β → σ → Prop} {E' : ε → σ → Prop} (h : wp m Q E s)
    (hf : ∀ a s', Q a s' → wp (f a) Q' E' s') (hE : ∀ e s', E e s' → E' e s') : wp (m >>= f) Q' E' s :=
  (wp_bind m f).2 (wp_mono h hf hE)

theorem wp_seq {f : α → Prog σ ε β} {Q' : β → σ → Prop} (h : wp m Q E s) (hf : ∀ a s', Q a s' → wp (f a) Q' E s') :
    wp (m >>= f) Q' E s :=
  wp_then h hf fun _ _ h => h

theorem wp_and {Q' : α → σ → Prop} {E' : ε → σ → Prop} (h : wp m Q E s) (h' : wp m Q' E' s) :
    wp m (fun a s' => Q a s' ∧ Q' a s') (fun e s' => E e s' ∧ E' e s') s := by
  unfold wp at h h' ⊢
  rcases hm : m s with ⟨_ | _, _⟩ <;> rw [hm] at h h' <;> exact ⟨h, h'⟩

theorem wp_ok (h : wp m Q E s) (hr : m s = (.ok a, s')) : Q a s' := by
  unfold wp at h; rw [hr] at h; exact h

theorem wp_error {e : ε} (h : wp m Q E s) (hr : m s = (.error e, s')) : E e s' := by
  unfold wp at h; rw [hr] at h; exact h

theorem wp_of_ok (hr : m s = (.ok a, s')) (h : Q a s') : wp m Q E s := by
  unfold wp; rw [hr]; exact h

theorem wp_cases (h : wp m Q E s) : (∃ a s', m s = (.ok a, s') ∧ Q a s') ∨ (∃ e s', m s = (.error e, s') ∧ E e s') := by
  unfold wp at h
  rcases hm : m s with ⟨e | a, s'⟩ <;> rw [hm] at h
  · exact .inr ⟨e, s', rfl, h⟩
  · exact .inl ⟨a, s', rfl, h⟩

theorem wp_state {P : σ → Prop} (h : wp m (fun _ => P) (fun _ => P) s) : P (m s).2 := by
  unfold wp at h
  rcases hm : m s with ⟨_ | _, _⟩ <;> rw [hm] at h <;> exact h

theorem wp_after (h : wp m Q E s) : (∃ a, Q a (m s).2) ∨ ∃ e, E e (m s).2 := by
  unfold wp at h
  rcases hm : m s with ⟨e | a, _⟩ <;> rw [hm] at h
  · exact .inr ⟨e, h⟩
  · exact .inl ⟨a, h⟩

theorem wp_of_state {P : σ → Prop} (h : P (m s).2) : wp m (fun _ => P) (fun _ => P) s := by
  unfold wp
  rcases hm : m s with ⟨_ | _, _⟩ <;> rw [hm] at h <;> exact h

@[simp] theorem wp_ofExcept (r : Except ε α) :
    wp (ofExcept r : Prog σ ε α) Q E s ↔ (∀ a, r = .ok a → Q a s) ∧ (∀ e, r = .error e → E e s) := by
  cases r <;> simp [ofExcept]

theorem wp_check {r : Except ε β} {f : β → Prog σ ε α} (hok : ∀ b, r = .ok b → wp (f b) Q E s)
    (herror : ∀ e, r = .error e → E e s) : wp (ofExcept r >>= f) Q E s :=
  (wp_bind _ _).2 ((wp_ofExcept r).2 ⟨hok, herror⟩)

/-- Whether it returns or stops, the program leaves a state in `P`. -/
def Leaves (P : σ → Prop) (m : Prog σ ε α) (s : σ) : Prop := wp m (fun _ => P) (fun _ => P) s

namespace Leaves

variable {P : σ → Prop}

theorem fail (e : ε) (h : P s) : Leaves P (Prog.fail e : Prog σ ε α) s := h

theorem ite {p : Prop} [Decidable p] {m n : Prog σ ε α} (hm : Leaves P m s) (hn : Leaves P n s) :
    Leaves P (if p then m else n) s := by
  split
  · exact hm
  · exact hn

theorem ofExcept_bind {x : Except ε β} {k : β → Prog σ ε α} (h : P s) (hk : ∀ b, x = .ok b → Leaves P (k b) s) :
    Leaves P (ofExcept x >>= k) s :=
  wp_check hk (fun _ _ => h)

theorem bind_read {k : α → Prog σ ε β} (h : Leaves P m s) (hk : ∀ a s', (k a s').2 = s') : Leaves P (m >>= k) s :=
  (wp_bind _ _).2 (wp_mono h (fun a s' hP => wp_of_state ((hk a s').symm ▸ hP)) (fun _ _ hP => hP))

end Leaves

theorem wp_check_ok {r : Except ε β} {b : β} {f : β → Prog σ ε α} (hr : r = .ok b) (h : wp (f b) Q E s) :
    wp (ofExcept r >>= f) Q E s := by
  rw [hr]
  exact h

@[simp] theorem wp_ofOption (e : ε) (o : Option α) :
    wp (ofOption e o : Prog σ ε α) Q E s ↔ (∀ a, o = some a → Q a s) ∧ (o = none → E e s) := by
  cases o <;> simp [ofOption]

theorem wp_ofOption_some {o : Option β} {b : β} {e : ε} {f : β → Prog σ ε α} (ho : o = some b) (h : wp (f b) Q E s) :
    wp (ofOption e o >>= f) Q E s := by
  rw [ho]
  exact h

@[simp] theorem wp_attempt (p : ε → Option δ) (m : Prog σ ε α) {Q : Except δ α → σ → Prop} :
    wp (attempt p m) Q E s ↔ wp m (fun a => Q (.ok a))
      (fun e s' => (∀ d, p e = some d → Q (.error d) s') ∧ (p e = none → E e s')) s := by
  unfold wp attempt
  rcases m s with ⟨e | a, s'⟩
  · cases hp : p e <;> simp [hp]
  · rfl

/-- When every error is handed back as a value, the program does not stop. -/
theorem wp_attempt_some (m : Prog σ ε α) {Q : Except ε α → σ → Prop} :
    wp (attempt some m) Q E s ↔ wp m (fun a => Q (.ok a)) (fun e => Q (.error e)) s := by
  unfold wp attempt
  rcases m s with ⟨_ | _, _⟩ <;> rfl

@[simp] theorem wp_mapError (f : ε → δ) (m : Prog σ ε α) {E : δ → σ → Prop} :
    wp (mapError f m) Q E s ↔ wp m Q (fun e => E (f e)) s := by
  unfold wp mapError
  rcases m s with ⟨_ | _, _⟩ <;> rfl

theorem wp_try {f : Except ε β → Prog σ ε α} {n : Prog σ ε β} {R : β → σ → Prop} {F : ε → σ → Prop} (h : wp n R F s)
    (hok : ∀ b s', R b s' → wp (f (.ok b)) Q E s') (herror : ∀ e s', F e s' → wp (f (.error e)) Q E s') :
    wp (attempt some n >>= f) Q E s :=
  (wp_bind _ _).2 ((wp_attempt_some n).2 (wp_mono h hok herror))

theorem wp_ite (c : Prop) [Decidable c] (m n : Prog σ ε α) :
    wp (if c then m else n) Q E s ↔ (c → wp m Q E s) ∧ (¬ c → wp n Q E s) := by
  by_cases h : c <;> simp [h]

@[simp] theorem wp_zoom (look : σ → τ) (write : τ → σ → σ) (m : Prog τ ε α) :
    wp (zoom look write m) Q E s ↔ wp m (fun a t => Q a (write t s)) (fun e t => E e (write t s)) (look s) := by
  unfold wp zoom
  rcases m (look s) with ⟨_ | _, _⟩ <;> rfl

/-- **The loop rule**: an invariant indexed by what is left to do, established by each body. -/
theorem wp_forEach {I : List α → σ → Prop} (hbody : ∀ a as s, I (a :: as) s → wp (f a) (fun _ => I as) E s) :
    ∀ (as : List α) (s : σ), I as s → wp (forEach f as) (fun _ => I []) E s
  | [], _, h => h
  | a :: as, s, h => by
    have hb := hbody a as s h
    exact (wp_bind (f a) (fun _ => forEach f as)).2 (wp_mono hb (fun _ s' hs' => wp_forEach hbody as s' hs')
      (fun _ _ he => he))

/-! ## Invariants of a program -/

/-- The program keeps `I`, except where it stops for a reason in `D`. -/
def Keeps (I : σ → Prop) (D : ε → Prop) (m : Prog σ ε α) : Prop :=
  ∀ s, I s → wp m (fun _ s' => I s') (fun e s' => D e ∨ I s') s

namespace Keeps

variable {I : σ → Prop} {D : ε → Prop} {m : Prog σ ε α}

theorem always {s : σ} (h : Keeps I (fun _ => False) m) (hs : I s) : wp m (fun _ => I) (fun _ => I) s :=
  wp_mono (h s hs) (fun _ _ hs' => hs') (fun _ _ hs' => hs'.resolve_left not_false)

theorem pure (a : α) : Keeps I D (Pure.pure a : Prog σ ε α) := fun _ h => h

theorem fail (e : ε) : Keeps I D (Prog.fail e : Prog σ ε α) := fun _ h => .inr h

theorem get : Keeps I D (Prog.get : Prog σ ε σ) := fun _ h => h

theorem modify {f : σ → σ} (hf : ∀ s, I s → I (f s)) : Keeps I D (Prog.modify f : Prog σ ε Unit) := hf

theorem ofExcept (r : Except ε α) : Keeps I D (Prog.ofExcept r : Prog σ ε α) := by
  cases r with
  | ok a => exact fun _ h => h
  | error e => exact fun _ h => .inr h

theorem ofOption (e : ε) (o : Option α) : Keeps I D (Prog.ofOption e o : Prog σ ε α) := by
  cases o with
  | some a => exact fun _ h => h
  | none => exact fun _ h => .inr h

theorem bind {n : Prog σ ε β} {f : β → Prog σ ε α} (hn : Keeps I D n) (hf : ∀ b, Keeps I D (f b)) :
    Keeps I D (n >>= f) := by
  intro s hs
  exact wp_seq (hn s hs) (fun b s' hs' => hf b s' hs')

theorem ite {c : Prop} [Decidable c] {n : Prog σ ε α} (hm : Keeps I D m) (hn : Keeps I D n) :
    Keeps I D (if c then m else n) := by
  by_cases hc : c
  · rw [if_pos hc]; exact hm
  · rw [if_neg hc]; exact hn

/-- What is handed back as a value must not be a reason in `D`. -/
theorem attempt {p : ε → Option δ} (hp : ∀ e, D e → p e = none) (hm : Keeps I D m) : Keeps I D (Prog.attempt p m) := by
  intro s hs
  rw [wp_attempt]
  refine wp_mono (hm s hs) (fun _ _ h => h) (fun e s' h => ⟨fun d hd => ?_, fun _ => h⟩)
  rcases h with h | h
  · rw [hp e h] at hd; cases hd
  · exact h

theorem forEach {f : α → Prog σ ε Unit} (hf : ∀ a, Keeps I D (f a)) : ∀ (as : List α), Keeps I D (Prog.forEach f as)
  | [] => fun _ h => h
  | a :: as => (hf a).bind (fun _ => forEach hf as)

end Keeps
end Prog
end NetTool
