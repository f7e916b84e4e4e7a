/-
Sda/Lib/Budget.lean

Runs that use up a budget.

A step that meets `B` takes one unit of a budget that no step gives back.  Then a run
has at most as many such steps as the budget has units left (`countSteps_le`): the
amount used grows with each of them, and stays below the limit when the step begins.

* `countSteps` — the steps of a run that meet `B`;
* `countSteps_le` — their number, from the amount used.
-/
import Sda.Lib.Run

namespace Sda

variable {σ ε : Type*} {step : σ → ε → σ} {B : σ → ε → Prop} [∀ s e, Decidable (B s e)]

/-- The number of steps of the run that meet `B`. -/
def countSteps (step : σ → ε → σ) (B : σ → ε → Prop) [∀ s e, Decidable (B s e)] :
    σ → List ε → Nat
  | _, [] => 0
  | s, e :: es => (if B s e then 1 else 0) + countSteps step B (step s e) es

@[simp] theorem countSteps_nil (s : σ) : countSteps step B s [] = 0 := rfl

theorem countSteps_cons_of_pos {s : σ} {e : ε} {es : List ε} (h : B s e) :
    countSteps step B s (e :: es) = 1 + countSteps step B (step s e) es := by
  rw [countSteps, if_pos h]

theorem countSteps_cons_of_neg {s : σ} {e : ε} {es : List ε} (h : ¬B s e) :
    countSteps step B s (e :: es) = countSteps step B (step s e) es := by
  rw [countSteps, if_neg h, Nat.zero_add]

/-- **The budget rule.**  Along a run whose steps meet `C`, no step gives back what is
used, and a step that meets `B` finds a unit left and uses it. -/
theorem countSteps_le {C : σ → ε → Prop} {used : σ → Nat} {limit : Nat}
    (hkeep : ∀ s e, C s e → used s ≤ used (step s e))
    (huse : ∀ s e, C s e → B s e → used s < limit ∧ used s < used (step s e))
    {s : σ} {es : List ε} (h : Along step C s es) :
    countSteps step B s es ≤ limit - used s := by
  induction es generalizing s with
  | nil => exact Nat.zero_le _
  | cons e es ih =>
    have hrest := ih h.2
    by_cases hB : B s e
    · obtain ⟨hleft, hmore⟩ := huse s e h.1 hB
      rw [countSteps_cons_of_pos hB]
      omega
    · have hsame := hkeep s e h.1
      rw [countSteps_cons_of_neg hB]
      omega

end Sda
