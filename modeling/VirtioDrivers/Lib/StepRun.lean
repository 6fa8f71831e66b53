import Mathlib.Data.List.Induction

/-! Runs of a command interpreter whose steps are computations in `EStateM`: the commands of
a list run one after another, each returning, from one state to the next. A run is built at
its end, as a program makes it. Four rules carry what is known of one step over a whole run.
A step that moves an observation of the state as an abstract step says moves it, over a
run, as the fold of that abstract step over the commands: the run simulates the abstract
machine. A step that only appends to a log entries of some kind makes a run do the same.
A property each step keeps holds at the end of a run. A step that returns from every state
runs every list of commands. -/
namespace EStateM
variable {ε σ γ β α : Type}

/-- The runs of `step` from the state `s`: the commands run, and the state they end in. -/
inductive Runs (step : γ → EStateM ε σ Unit) (s : σ) : List γ → σ → Prop
  | nil : Runs step s [] s
  | snoc {cs : List γ} {c : γ} {s₁ s₂ : σ} :
      Runs step s cs s₁ → (step c).run s₁ = .ok () s₂ → Runs step s (cs ++ [c]) s₂

namespace Runs

theorem simulates {step : γ → EStateM ε σ Unit} {s s' : σ} {cs : List γ} (obs : σ → β)
    {next : β → γ → β}
    (hstep : ∀ {c s₁ s₂}, (step c).run s₁ = .ok () s₂ → obs s₂ = next (obs s₁) c)
    (hr : Runs step s cs s') : obs s' = cs.foldl next (obs s) := by
  induction hr with
  | nil => rfl
  | snoc _ hc ih => rw [List.foldl_append, List.foldl_cons, List.foldl_nil, ← ih, hstep hc]

theorem appends {step : γ → EStateM ε (List α) Unit} {log log' : List α} {cs : List γ}
    {P : α → Prop}
    (hstep : ∀ {c l₁ l₂}, (step c).run l₁ = .ok () l₂ → ∃ new, l₂ = l₁ ++ new ∧ ∀ a ∈ new, P a)
    (hr : Runs step log cs log') : ∃ new, log' = log ++ new ∧ ∀ a ∈ new, P a := by
  induction hr with
  | nil => exact ⟨[], by simp, by simp⟩
  | snoc _ hc ih =>
    obtain ⟨new₁, rfl, h₁⟩ := ih
    obtain ⟨new₂, rfl, h₂⟩ := hstep hc
    refine ⟨new₁ ++ new₂, by simp, fun a ha => ?_⟩
    rcases List.mem_append.mp ha with ha | ha
    · exact h₁ a ha
    · exact h₂ a ha

theorem preserves {step : γ → EStateM ε σ Unit} {s s' : σ} {cs : List γ} {P : σ → Prop}
    (hstep : ∀ {c s₁ s₂}, P s₁ → (step c).run s₁ = .ok () s₂ → P s₂)
    (hr : Runs step s cs s') (h₀ : P s) : P s' := by
  induction hr with
  | nil => exact h₀
  | snoc _ hc ih => exact hstep ih hc

theorem of_returns {step : γ → EStateM ε σ Unit} {cs : List γ}
    (hstep : ∀ c ∈ cs, ∀ s₁, ∃ s₂, (step c).run s₁ = .ok () s₂) (s : σ) :
    ∃ s', Runs step s cs s' := by
  -- a run grows at its end, so the list is taken apart at its end too
  induction cs using List.reverseRecOn with
  | nil => exact ⟨s, .nil⟩
  | append_singleton cs c ih =>
    obtain ⟨s₁, h₁⟩ := ih fun c' hc' => hstep c' (List.mem_append_left _ hc')
    obtain ⟨s₂, h₂⟩ := hstep c (List.mem_append_right _ (List.mem_singleton_self c)) s₁
    exact ⟨s₂, .snoc h₁ h₂⟩

end Runs
end EStateM
