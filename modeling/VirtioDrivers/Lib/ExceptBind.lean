import Mathlib.Logic.Basic

/-! Rewriting and inversion rules for programs in the `Except` and `EStateM` monads: how `pure`,
`throw` and `bind` compute, and what a successful or failed `bind` says about its
two halves. Proofs about such programs peel a run apart with these instead of
unfolding the monad. -/
namespace Except
universe u
variable {ε α β : Type u}

@[simp] theorem pure_eq_ok (a : α) : (pure a : Except ε α) = .ok a := rfl

@[simp] theorem throw_eq_error (e : ε) : (throw e : Except ε α) = .error e := rfl

@[simp] theorem ok_bind (a : α) (f : α → Except ε β) : (Except.ok a >>= f) = f a := rfl

@[simp] theorem error_bind (e : ε) (f : α → Except ε β) : (Except.error e >>= f) = .error e := rfl

theorem bind_eq_ok {x : Except ε α} {f : α → Except ε β} {b : β} :
    x >>= f = .ok b ↔ ∃ a, x = .ok a ∧ f a = .ok b := by
  cases x with
  | error e => simp
  | ok a => simp

/-- Every error `x` can end in satisfies `p`. -/
def ErrorsSatisfy (p : ε → Prop) (x : Except ε α) : Prop := ∀ e, x = .error e → p e

namespace ErrorsSatisfy
variable {p : ε → Prop}

theorem pure (a : α) : ErrorsSatisfy p (Pure.pure a : Except ε α) := by
  intro e h
  cases h

theorem throw {e : ε} (h : p e) : ErrorsSatisfy p (MonadExcept.throw e : Except ε α) := by
  intro e' he
  cases he
  exact h

theorem bind {x : Except ε α} {f : α → Except ε β} (hx : ErrorsSatisfy p x)
    (hf : ∀ a, ErrorsSatisfy p (f a)) : ErrorsSatisfy p (x >>= f) := by
  intro e h
  cases x with
  | error e' => exact hx e (by simpa using h)
  | ok a => exact hf a e (by simpa using h)

theorem ite {c : Prop} [Decidable c] {x y : Except ε α} (hx : ErrorsSatisfy p x)
    (hy : ErrorsSatisfy p y) : ErrorsSatisfy p (if c then x else y) := by
  split
  · exact hx
  · exact hy

end ErrorsSatisfy

end Except

namespace EStateM
universe u
variable {ε σ α β : Type u}

theorem run_bind_eq_ok {x : EStateM ε σ α} {f : α → EStateM ε σ β} {s s' : σ} {b : β} :
    (x >>= f).run s = .ok b s' ↔ ∃ a s₁, x.run s = .ok a s₁ ∧ (f a).run s₁ = .ok b s' := by
  rw [run_bind]
  cases x.run s with
  | ok a s₁ =>
    constructor
    · exact fun h => ⟨a, s₁, rfl, h⟩
    · rintro ⟨a', s', h, h'⟩
      cases h
      exact h'
  | error e s₁ => simp

theorem run_bind_of_ok {x : EStateM ε σ α} {f : α → EStateM ε σ β} {s s₁ : σ} {a : α}
    (h : x.run s = .ok a s₁) : (x >>= f).run s = (f a).run s₁ := by
  rw [run_bind, h]

theorem run_bind_of_error {x : EStateM ε σ α} {f : α → EStateM ε σ β} {s s₁ : σ} {e : ε}
    (h : x.run s = .error e s₁) : (x >>= f).run s = .error e s₁ := by
  rw [run_bind, h]

theorem run_pure_eq_ok {a b : α} {s s' : σ} :
    (pure a : EStateM ε σ α).run s = .ok b s' ↔ a = b ∧ s' = s := by
  constructor
  · rintro ⟨⟩
    exact ⟨rfl, rfl⟩
  · rintro ⟨rfl, rfl⟩
    rfl

theorem run_ofExcept_eq_ok {x : Except ε α} {a : α} {s s' : σ} :
    (MonadExcept.ofExcept x : EStateM ε σ α).run s = .ok a s' ↔ x = .ok a ∧ s' = s := by
  cases x with
  | error e =>
    simp only [reduceCtorEq, false_and, iff_false]
    rintro ⟨⟩
  | ok b =>
    simp only [Except.ok.injEq]
    constructor
    · rintro ⟨⟩
      exact ⟨rfl, rfl⟩
    · rintro ⟨rfl, rfl⟩
      rfl

@[simp] theorem run_ofExcept_ok (a : α) (s : σ) :
    (MonadExcept.ofExcept (.ok a : Except ε α) : EStateM ε σ α).run s = .ok a s := rfl

@[simp] theorem run_ofExcept_error (e : ε) (s : σ) :
    (MonadExcept.ofExcept (.error e : Except ε α) : EStateM ε σ α).run s = .error e s := rfl

/-! The same rules for a computation applied to its state, as `simp` leaves it once it
has unfolded `bind`. -/

@[simp] theorem ofExcept_ok_apply (a : α) (s : σ) :
    (MonadExcept.ofExcept (.ok a : Except ε α) : EStateM ε σ α) s = .ok a s := rfl

@[simp] theorem ofExcept_error_apply (e : ε) (s : σ) :
    (MonadExcept.ofExcept (.error e : Except ε α) : EStateM ε σ α) s = .error e s := rfl

@[simp] theorem set_apply (s s' : σ) : (set s' : EStateM ε σ PUnit) s = .ok ⟨⟩ s' := rfl

@[simp] theorem getThe_apply (s : σ) : (getThe σ : EStateM ε σ σ) s = .ok s s := rfl

@[simp] theorem get_apply (s : σ) : (MonadStateOf.get : EStateM ε σ σ) s = .ok s s := rfl

@[simp] theorem monadState_get_apply (s : σ) : (MonadState.get : EStateM ε σ σ) s = .ok s s := rfl

@[simp] theorem modifyThe_apply (f : σ → σ) (s : σ) :
    (modifyThe σ f : EStateM ε σ PUnit) s = .ok ⟨⟩ (f s) := rfl

@[simp] theorem modify_apply (f : σ → σ) (s : σ) :
    (modify f : EStateM ε σ PUnit) s = .ok ⟨⟩ (f s) := rfl

@[simp] theorem modifyGet_apply (f : σ → α × σ) (s : σ) :
    (MonadStateOf.modifyGet f : EStateM ε σ α) s = .ok (f s).1 (f s).2 := rfl

@[simp] theorem map_apply (f : α → β) (x : EStateM ε σ α) (s : σ) :
    (f <$> x) s = match x s with
      | .ok a s => .ok (f a) s
      | .error e s => .error e s := rfl

@[simp] theorem pure_apply (a : α) (s : σ) : (pure a : EStateM ε σ α) s = .ok a s := rfl

@[simp] theorem throw_apply (e : ε) (s : σ) : (throw e : EStateM ε σ α) s = .error e s := rfl

theorem bind_apply (x : EStateM ε σ α) (f : α → EStateM ε σ β) (s : σ) :
    (x >>= f) s = match x s with
      | .ok a s => f a s
      | .error e s => .error e s := rfl

/-! The same rules for a computation that may also end in an error value, as `?` on a `Result`
does, over one that may fail. -/

theorem run_exceptT_bind_of_ok {δ : Type u} {x : ExceptT δ (EStateM ε σ) α}
    {f : α → ExceptT δ (EStateM ε σ) β} {s s₁ : σ} {a : α} (h : x.run.run s = .ok (.ok a) s₁) :
    (x >>= f).run.run s = (f a).run.run s₁ := by
  rw [ExceptT.run_bind, run_bind_of_ok h]

theorem run_exceptT_bind_of_error {δ : Type u} {x : ExceptT δ (EStateM ε σ) α}
    {f : α → ExceptT δ (EStateM ε σ) β} {s s₁ : σ} {e : δ} (h : x.run.run s = .ok (.error e) s₁) :
    (x >>= f).run.run s = .ok (.error e) s₁ := by
  rw [ExceptT.run_bind, run_bind_of_ok h]
  rfl

/-- What a run returned, if it returned. -/
def Result.value? : EStateM.Result ε σ α → Option α
  | .ok a _ => some a
  | .error _ _ => none

/-- The state a run left, if it returned. -/
def Result.state? : EStateM.Result ε σ α → Option σ
  | .ok _ s => some s
  | .error _ _ => none

/-- How a run failed, if it failed. -/
def Result.error? : EStateM.Result ε σ α → Option ε
  | .ok _ _ => none
  | .error e _ => some e

section Parts
variable {τ : Type u}

/-- Runs a step on one part of a larger state; an error leaves the whole state as it was. -/
def onPart (get : σ → τ) (put : σ → τ → σ) (m : τ → Except ε (τ × α)) : EStateM ε σ α :=
  fun s => match m (get s) with
    | .ok (t, a) => .ok a (put s t)
    | .error e => .error e s

/-- Runs a computation on one part of a larger state. -/
def zoom (get : σ → τ) (put : σ → τ → σ) (m : EStateM ε τ α) : EStateM ε σ α :=
  fun s => match m (get s) with
    | .ok a t => .ok a (put s t)
    | .error e t => .error e (put s t)

variable {get : σ → τ} {put : σ → τ → σ} {s : σ}

theorem run_onPart_ok {m : τ → Except ε (τ × α)} {t : τ} {a : α} (h : m (get s) = .ok (t, a)) :
    (onPart get put m).run s = .ok a (put s t) := by
  simp [onPart, EStateM.run, h]

theorem run_onPart_error {m : τ → Except ε (τ × α)} {e : ε} (h : m (get s) = .error e) :
    (onPart get put m).run s = .error e s := by
  simp [onPart, EStateM.run, h]

theorem run_zoom_ok {m : EStateM ε τ α} {t : τ} {a : α} (h : m.run (get s) = .ok a t) :
    (zoom get put m).run s = .ok a (put s t) := by
  simp only [EStateM.run] at h
  simp [zoom, EStateM.run, h]

theorem run_zoom_error {m : EStateM ε τ α} {t : τ} {e : ε} (h : m.run (get s) = .error e t) :
    (zoom get put m).run s = .error e (put s t) := by
  simp only [EStateM.run] at h
  simp [zoom, EStateM.run, h]

/-! ### Frames

A computation keeps a view of the state when every run that returns leaves the view as
it found it. The rules follow the shape of a `do` block, so a frame fact about a method
is proved by walking its body. -/

/-- Every run of `x` that returns leaves `view` of the state as it was. -/
def Keeps (view : σ → β) (x : EStateM ε σ α) : Prop :=
  ∀ s a s', x.run s = .ok a s' → view s' = view s

variable {view : σ → β}

theorem Keeps.bind {γ : Type u} {x : EStateM ε σ γ} {f : γ → EStateM ε σ α} (hx : Keeps view x)
    (hf : ∀ a, Keeps view (f a)) : Keeps view (x >>= f) := by
  intro s b s' h
  obtain ⟨a, s₁, h₁, h₂⟩ := run_bind_eq_ok.mp h
  rw [hf a s₁ b s' h₂, hx s a s₁ h₁]

theorem Keeps.pure (a : α) : Keeps view (Pure.pure a : EStateM ε σ α) := by
  rintro s b s' ⟨⟩
  rfl

theorem Keeps.getThe : Keeps view (getThe σ : EStateM ε σ σ) := by
  rintro s b s' ⟨⟩
  rfl

theorem Keeps.ite {c : Prop} [Decidable c] {x y : EStateM ε σ α} (hx : Keeps view x)
    (hy : Keeps view y) : Keeps view (if c then x else y) := by
  split
  · exact hx
  · exact hy

theorem Keeps.modifyThe {f : σ → σ} (h : ∀ s, view (f s) = view s) :
    Keeps view (modifyThe σ f : EStateM ε σ PUnit) := by
  rintro s b s' ⟨⟩
  exact h s

theorem Keeps.onPart {m : τ → Except ε (τ × α)} (h : ∀ s t, view (put s t) = view s) :
    Keeps view (onPart get put m) := by
  intro s a s' hrun
  cases hm : m (get s) with
  | error e => simp [run_onPart_error hm] at hrun
  | ok r =>
    rw [run_onPart_ok hm] at hrun
    cases hrun
    exact h s r.1

theorem Keeps.zoom {m : EStateM ε τ α} (h : ∀ s t, view (put s t) = view s) :
    Keeps view (zoom get put m) := by
  intro s a s' hrun
  cases hm : m.run (get s) with
  | error e t => simp [run_zoom_error hm] at hrun
  | ok b t =>
    rw [run_zoom_ok hm] at hrun
    cases hrun
    exact h s t

/-! ### Invariants

A computation preserves an invariant of the state when every run from a state that
satisfies it ends in one that does, whether it returns or fails. The rules follow the
shape of a `do` block; a value read from the state, or out of a pure result, comes with
what is known of it. -/

/-- The state a run leaves, whether it returned or failed. -/
def Result.state : EStateM.Result ε σ α → σ
  | .ok _ s => s
  | .error _ s => s

theorem Result.eq_ok_of_value? {r : EStateM.Result ε σ α} {a : α} (h : r.value? = some a) :
    r = .ok a r.state := by
  cases r with
  | ok b s => cases h; rfl
  | error e s => cases h

/-- Every run of `x` from a state where `P` holds ends in a state where it holds. -/
def Preserves (P : σ → Prop) (x : EStateM ε σ α) : Prop :=
  ∀ s, P s → P (x.run s).state

variable {P : σ → Prop}

theorem Preserves.run_bind {γ : Type u} {x : EStateM ε σ γ} {f : γ → EStateM ε σ α}
    (hf : ∀ a, Preserves P (f a)) {s : σ} (hx : P (x.run s).state) : P ((x >>= f).run s).state := by
  simp only [EStateM.run] at hx ⊢
  rw [bind_apply]
  cases h : x s with
  | ok a s₁ =>
    rw [h] at hx
    exact hf a s₁ hx
  | error e s₁ =>
    rw [h] at hx
    exact hx

theorem Preserves.bind {γ : Type u} {x : EStateM ε σ γ} {f : γ → EStateM ε σ α}
    (hx : Preserves P x) (hf : ∀ a, Preserves P (f a)) : Preserves P (x >>= f) :=
  fun s hs => Preserves.run_bind hf (hx s hs)

theorem Preserves.pure (a : α) : Preserves P (Pure.pure a : EStateM ε σ α) := fun _ hs => hs

theorem Preserves.throw (e : ε) : Preserves P (MonadExcept.throw e : EStateM ε σ α) :=
  fun _ hs => hs

theorem Preserves.throw_bind {γ : Type u} (e : ε) (f : γ → EStateM ε σ α) :
    Preserves P ((MonadExcept.throw e : EStateM ε σ γ) >>= f) :=
  fun _ hs => hs

theorem Preserves.set {s' : σ} (h : P s') : Preserves P (set s' : EStateM ε σ PUnit) :=
  fun _ _ => h

theorem Preserves.modifyThe {f : σ → σ} (h : ∀ s, P s → P (f s)) :
    Preserves P (modifyThe σ f : EStateM ε σ PUnit) := h

theorem Preserves.getThe_bind {f : σ → EStateM ε σ α} (hf : ∀ s, P s → Preserves P (f s)) :
    Preserves P (getThe σ >>= f) :=
  fun s hs => hf s hs s hs

theorem Preserves.ofExcept_bind {γ : Type u} {x : Except ε γ} {f : γ → EStateM ε σ α}
    (hf : ∀ a, x = .ok a → Preserves P (f a)) : Preserves P (MonadExcept.ofExcept x >>= f) := by
  intro s hs
  cases hx : x with
  | error e =>
    show P ((MonadExcept.ofExcept (Except.error e) >>= f : EStateM ε σ α) s).state
    exact hs
  | ok a =>
    exact hf a hx s hs

/-- A computation on a part of the state preserves an invariant of the whole when the
part it starts from satisfies an invariant it preserves, and putting back any part that
satisfies that one restores the invariant of the whole. -/
theorem Preserves.zoom {τ : Type u} {get : σ → τ} {put : σ → τ → σ} {m : EStateM ε τ α}
    {Q : σ → τ → Prop} (hget : ∀ s, P s → Q s (get s)) (hm : ∀ s, P s → Preserves (Q s) m)
    (hput : ∀ s t, P s → Q s t → P (put s t)) : Preserves P (EStateM.zoom get put m) := by
  intro s hs
  have h₁ := hm s hs (get s) (hget s hs)
  simp only [EStateM.run] at h₁ ⊢
  unfold EStateM.zoom
  cases h : m (get s) with
  | ok a t =>
    rw [h] at h₁
    exact hput s t hs h₁
  | error e t =>
    rw [h] at h₁
    exact hput s t hs h₁

/-! ### Postconditions

What a computation returns, from any state, when it returns. The rules follow the shape of a
`do` block as those of invariants do: a value bound comes with what is known of it, and a
branch of a `match` or an `if` is taken by splitting the goal. -/

/-- Every value `x` returns, from any state, satisfies `Q`. -/
def Ensures (Q : α → Prop) (x : EStateM ε σ α) : Prop :=
  ∀ s a s', x.run s = .ok a s' → Q a

namespace Ensures
variable {Q : α → Prop}

theorem pure {a : α} (h : Q a) : Ensures Q (Pure.pure a : EStateM ε σ α) := by
  rintro s b s' ⟨⟩
  exact h

theorem trivial (x : EStateM ε σ β) : Ensures (fun _ => True) x := fun _ _ _ _ => True.intro

theorem bind {γ : Type u} {R : γ → Prop} {x : EStateM ε σ γ} {f : γ → EStateM ε σ α}
    (hx : Ensures R x) (hf : ∀ c, R c → Ensures Q (f c)) : Ensures Q (x >>= f) := by
  intro s a s' h
  obtain ⟨c, s₁, hc, hfc⟩ := run_bind_eq_ok.mp h
  exact hf c (hx s c s₁ hc) s₁ a s' hfc

theorem ofExcept_bind {γ : Type u} {x : Except ε γ} {f : γ → EStateM ε σ α}
    (hf : ∀ c, x = .ok c → Ensures Q (f c)) : Ensures Q (MonadExcept.ofExcept x >>= f) := by
  refine bind (R := fun c => x = .ok c) ?_ hf
  intro s c s' h
  exact (run_ofExcept_eq_ok.mp h).1

end Ensures

/-! ### Returning

A computation returns when its run from every state returns: it neither fails nor panics,
whatever the state. -/

/-- The run of `x` from every state returns. -/
def Returns (x : EStateM ε σ α) : Prop :=
  ∀ s, ∃ a s', x.run s = .ok a s'

namespace Returns

theorem pure (a : α) : Returns (Pure.pure a : EStateM ε σ α) := fun s => ⟨a, s, rfl⟩

theorem bind {γ : Type u} {x : EStateM ε σ γ} {f : γ → EStateM ε σ α} (hx : Returns x)
    (hf : ∀ c, Returns (f c)) : Returns (x >>= f) := by
  intro s
  obtain ⟨c, s₁, hc⟩ := hx s
  obtain ⟨a, s', hfc⟩ := hf c s₁
  exact ⟨a, s', run_bind_eq_ok.mpr ⟨c, s₁, hc, hfc⟩⟩

theorem ofExcept_bind {γ : Type u} {x : Except ε γ} {c : γ} {f : γ → EStateM ε σ α}
    (hx : x = .ok c) (hf : Returns (f c)) : Returns (MonadExcept.ofExcept x >>= f) := by
  subst hx
  intro s
  obtain ⟨a, s', h⟩ := hf s
  exact ⟨a, s', by rw [run_bind_of_ok (run_ofExcept_ok c s)]; exact h⟩

end Returns

end Parts

end EStateM
