import Mathlib.Logic.Relation
import Mathlib.Data.Nat.Init

/-! Runs that end under a fair schedule. A system steps on a clock, and a schedule `k` says
what the environment offers at each tick. A measure that no step raises, and that every
step at a tick with an offer lowers, runs out unless the run ends first; so when the
schedule offers something infinitely often, every run ends. -/
namespace Fair
variable {σ : Type*} (R : σ → σ → Prop) (I : σ → Nat → Prop) (Done : σ → Prop)
  (clock : σ → Nat) (k : Nat → Nat)

/-- From a state where `I` holds with measure `μ` the run either ends, or steps to a state
one tick later where `I` holds again with a measure no larger, and smaller when the
schedule made an offer at the tick of the step. -/
def Progress : Prop :=
  ∀ s μ, I s μ → Done s ∨ ∃ s' μ', R s s' ∧ I s' μ' ∧ clock s' = clock s + 1 ∧ μ' ≤ μ ∧
    (0 < k (clock s) → μ' < μ)

/-- The schedule makes an offer at some tick from every tick on. -/
def Infinitely : Prop := ∀ n, ∃ m, n ≤ m ∧ 0 < k m

variable {R I Done clock k}

/-- Within `D` ticks of an offer a run from measure `μ` ends, given that every run from a
smaller measure does. -/
theorem reaches_of_offer (hp : Progress R I Done clock k) {μ : Nat}
    (ih : ∀ s μ', μ' < μ → I s μ' → ∃ s', Relation.ReflTransGen R s s' ∧ Done s') :
    ∀ D s, I s μ → 0 < k (clock s + D) → ∃ s', Relation.ReflTransGen R s s' ∧ Done s' := by
  intro D
  induction D with
  | zero =>
    intro s hs hk
    rcases hp s μ hs with hd | ⟨s', μ', hr, hs', -, -, hlt⟩
    · exact ⟨s, .refl, hd⟩
    · obtain ⟨s'', hr', hd⟩ := ih s' μ' (hlt hk) hs'
      exact ⟨s'', .head hr hr', hd⟩
  | succ D ihD =>
    intro s hs hk
    rcases hp s μ hs with hd | ⟨s', μ', hr, hs', hc, hle, -⟩
    · exact ⟨s, .refl, hd⟩
    -- a step that lowers the measure is the outer induction's; one that keeps it is a
    -- tick closer to the offer
    rcases Nat.lt_or_ge μ' μ with hμ | hμ
    · obtain ⟨s'', hr', hd⟩ := ih s' μ' hμ hs'
      exact ⟨s'', .head hr hr', hd⟩
    · obtain rfl : μ' = μ := Nat.le_antisymm hle hμ
      have hD : clock s' + D = clock s + (D + 1) := by omega
      obtain ⟨s'', hr', hd⟩ := ihD s' hs' (hD ▸ hk)
      exact ⟨s'', .head hr hr', hd⟩

theorem reaches_done (hp : Progress R I Done clock k) (hk : Infinitely k) :
    ∀ μ s, I s μ → ∃ s', Relation.ReflTransGen R s s' ∧ Done s' := by
  intro μ
  induction μ using Nat.strong_induction_on with
  | _ μ ih =>
    intro s hs
    obtain ⟨m, hm, hkm⟩ := hk (clock s)
    exact reaches_of_offer hp (fun s' μ' hlt hs' => ih μ' hlt s' hs') (m - clock s) s hs
      (by rwa [Nat.add_sub_cancel' hm])

end Fair
