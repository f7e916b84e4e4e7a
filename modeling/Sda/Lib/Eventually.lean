/-
Sda/Lib/Eventually.lean

What a system reaches whatever the order of its steps.

A system is a partial function `step : σ → ε → Option σ`: the scheduler picks the event,
and an event that is not possible is `none`.  `Eventually step P s` says that every run
from `s` that is continued as long as a step is possible passes through a state with
`P`: no schedule avoids `P` forever, and none gets stuck before it.

Main results: the variant rule `eventually_of_variant` (an invariant, a quantity that
every step lowers, and no deadlock outside `P`), and `not_eventually_of_stuck`, which
refutes it by one run.
-/
import Mathlib.Logic.Relation
import Mathlib.Order.WellFounded

namespace Sda

open Relation

variable {σ ε : Type*} {step : σ → ε → Option σ} {P : σ → Prop} {s s' : σ}

/-- Every run from here that goes on while it can passes through `P`. -/
inductive Eventually (step : σ → ε → Option σ) (P : σ → Prop) : σ → Prop
  | now {s : σ} (h : P s) : Eventually step P s
  | later {s : σ} (hgo : ∃ e s', step s e = some s')
      (hall : ∀ e s', step s e = some s' → Eventually step P s') : Eventually step P s

/-- One step of some event. -/
def Moves (step : σ → ε → Option σ) (s s' : σ) : Prop :=
  ∃ e, step s e = some s'

/-- No step is possible. -/
def Stuck (step : σ → ε → Option σ) (s : σ) : Prop :=
  ∀ e, step s e = none

/-- What every step preserves holds in every state reached. -/
theorem reach_invariant {I : σ → Prop} (hstep : ∀ s e s', I s → step s e = some s' → I s')
    (h : ReflTransGen (Moves step) s s') (hs : I s) : I s' := by
  induction h with
  | refl => exact hs
  | tail _ hmove ih =>
    obtain ⟨e, he⟩ := hmove
    exact hstep _ e _ ih he

/-- Of what is reached eventually there is a run to it. -/
theorem Eventually.reached (h : Eventually step P s) :
    ∃ s', ReflTransGen (Moves step) s s' ∧ P s' := by
  induction h with
  | now h => exact ⟨_, .refl, h⟩
  | later hgo _ ih =>
    obtain ⟨e, s₁, he⟩ := hgo
    obtain ⟨s', hreach, hP⟩ := ih e s₁ he
    exact ⟨s', hreach.head ⟨e, he⟩, hP⟩

/-- **The variant rule.**  The induction is on the quantity that every step lowers. -/
theorem eventually_of_variant {M : Type*} {r : M → M → Prop} (hwf : WellFounded r)
    {I : σ → Prop} (variant : σ → M)
    (hinv : ∀ s e s', I s → step s e = some s' → I s')
    (hlower : ∀ s e s', I s → step s e = some s' → r (variant s') (variant s))
    (hlive : ∀ s, I s → P s ∨ ∃ e s', step s e = some s') (hs : I s) :
    Eventually step P s := by
  induction s using (InvImage.wf variant hwf).induction with
  | _ s ih =>
    rcases hlive s hs with hP | hgo
    · exact .now hP
    · apply Eventually.later hgo
      intro e s' he
      exact ih s' (hlower s e s' hs he) (hinv s e s' hs he)

/-- A run that avoids `P` and ends where no step is possible. -/
def AvoidsTo (step : σ → ε → Option σ) (P : σ → Prop) : σ → List ε → σ → Prop
  | s, [], s' => ¬P s ∧ s = s'
  | s, e :: es, s' => ¬P s ∧ ∃ s₁, step s e = some s₁ ∧ AvoidsTo step P s₁ es s'

/-- One such run refutes `Eventually`. -/
theorem not_eventually_of_stuck {es : List ε} (hrun : AvoidsTo step P s es s')
    (hstuck : Stuck step s') : ¬Eventually step P s := by
  induction es generalizing s with
  | nil =>
    obtain ⟨hP, rfl⟩ := hrun
    rintro (h | ⟨⟨e, s₁, he⟩, -⟩)
    · exact hP h
    · rw [hstuck e] at he
      cases he
  | cons e es ih =>
    obtain ⟨hP, s₁, he, hrest⟩ := hrun
    rintro (h | ⟨-, hall⟩)
    · exact hP h
    · exact ih hrest (hall e s₁ he)

end Sda
