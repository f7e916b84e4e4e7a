/-
Sda/Lib/Run.lean

Runs of a deterministic system that takes one event at a time.

A system is a function `step : σ → ε → σ`; the environment chooses the
events, and `run step s es` is the state after the events `es`.  Two
predicates speak about whole runs:

* `Along step C s es` — every transition of the run meets `C`, a condition
  on the state before the transition and the event taken;
* `Always step P s es` — `P` holds in every state the run reaches, the
  first one included; `Ever step P s es` — it holds in some.

Main results: the invariant rule `always_of_along`, its transition form
`along_of_along`, the rule `along_final` for what lasts to the end, the rule
`ever_iff_of_along` for a record of the past, and `along_iff_along` and
`always_iff_along`, which turn a condition that is exact for one step into one
that is exact for runs.
-/
import Mathlib.Tactic.TypeStar

namespace Sda

variable {σ ε : Type*} {step : σ → ε → σ}

/-- The state after a list of events. -/
def run (step : σ → ε → σ) (s : σ) (es : List ε) : σ :=
  es.foldl step s

@[simp] theorem run_nil (s : σ) : run step s [] = s := rfl

@[simp] theorem run_cons (s : σ) (e : ε) (es : List ε) :
    run step s (e :: es) = run step (step s e) es := rfl

theorem run_append (s : σ) (es fs : List ε) :
    run step s (es ++ fs) = run step (run step s es) fs :=
  List.foldl_append

/-- Some run leads from the one state to the other. -/
def Reaches (step : σ → ε → σ) (s s' : σ) : Prop :=
  ∃ es, s' = run step s es

theorem Reaches.refl (s : σ) : Reaches step s s := ⟨[], rfl⟩

theorem Reaches.one (s : σ) (e : ε) : Reaches step s (step s e) := ⟨[e], rfl⟩

theorem Reaches.trans (s t u : σ) (h : Reaches step s t) (h' : Reaches step t u) :
    Reaches step s u := by
  obtain ⟨es, rfl⟩ := h
  obtain ⟨fs, rfl⟩ := h'
  exact ⟨es ++ fs, (run_append s es fs).symm⟩

/-- Every transition of the run meets `C`. -/
def Along (step : σ → ε → σ) (C : σ → ε → Prop) : σ → List ε → Prop
  | _, [] => True
  | s, e :: es => C s e ∧ Along step C (step s e) es

/-- `P` holds in every state of the run. -/
def Always (step : σ → ε → σ) (P : σ → Prop) : σ → List ε → Prop
  | s, [] => P s
  | s, e :: es => P s ∧ Always step P (step s e) es

/-- `P` holds in some state of the run. -/
def Ever (step : σ → ε → σ) (P : σ → Prop) : σ → List ε → Prop
  | s, [] => P s
  | s, e :: es => P s ∨ Ever step P (step s e) es

instance decidableAlong (C : σ → ε → Prop) [∀ s e, Decidable (C s e)] :
    ∀ s es, Decidable (Along step C s es)
  | _, [] => inferInstanceAs (Decidable True)
  | s, e :: es =>
    haveI := decidableAlong C (step s e) es
    inferInstanceAs (Decidable (C s e ∧ Along step C (step s e) es))

instance decidableAlways (P : σ → Prop) [∀ s, Decidable (P s)] :
    ∀ s es, Decidable (Always step P s es)
  | s, [] => inferInstanceAs (Decidable (P s))
  | s, e :: es =>
    haveI := decidableAlways P (step s e) es
    inferInstanceAs (Decidable (P s ∧ Always step P (step s e) es))

/-! ### Elementary facts -/

@[simp] theorem along_nil {C : σ → ε → Prop} (s : σ) : Along step C s [] := trivial

@[simp] theorem along_cons {C : σ → ε → Prop} (s : σ) (e : ε) (es : List ε) :
    Along step C s (e :: es) ↔ C s e ∧ Along step C (step s e) es := Iff.rfl

@[simp] theorem always_nil {P : σ → Prop} (s : σ) : Always step P s [] ↔ P s := Iff.rfl

@[simp] theorem always_cons {P : σ → Prop} (s : σ) (e : ε) (es : List ε) :
    Always step P s (e :: es) ↔ P s ∧ Always step P (step s e) es := Iff.rfl

theorem Always.head {P : σ → Prop} {s : σ} {es : List ε} (h : Always step P s es) : P s := by
  cases es with
  | nil => exact h
  | cons e es => exact h.1

theorem Always.last {P : σ → Prop} {s : σ} {es : List ε} (h : Always step P s es) :
    P (run step s es) := by
  induction es generalizing s with
  | nil => exact h
  | cons e es ih => exact ih h.2

theorem Always.mono {P Q : σ → Prop} (hPQ : ∀ s, P s → Q s) {s : σ} {es : List ε}
    (h : Always step P s es) : Always step Q s es := by
  induction es generalizing s with
  | nil => exact hPQ _ h
  | cons e es ih => exact ⟨hPQ _ h.1, ih h.2⟩

/-! ### The invariant rules -/

/-- **Invariant rule.**  What holds initially and survives every step that
meets `C` holds in every state of a run all of whose steps meet `C`. -/
theorem always_of_along {I : σ → Prop} {C : σ → ε → Prop}
    (hstep : ∀ s e, I s → C s e → I (step s e)) {s : σ} {es : List ε}
    (hinit : I s) (h : Along step C s es) : Always step I s es := by
  induction es generalizing s with
  | nil => exact hinit
  | cons e es ih => exact ⟨hinit, ih (hstep s e hinit h.1) h.2⟩

/-- What holds of every step holds along every run. -/
theorem along_of_forall {C : σ → ε → Prop} (h : ∀ s e, C s e) (s : σ) (es : List ε) :
    Along step C s es := by
  induction es generalizing s with
  | nil => trivial
  | cons e es ih => exact ⟨h s e, ih (step s e)⟩

/-- The invariant rule for steps without a condition. -/
theorem always_of_step {I : σ → Prop} (hstep : ∀ s e, I s → I (step s e))
    {s : σ} (hinit : I s) (es : List ε) : Always step I s es := by
  induction es generalizing s with
  | nil => exact hinit
  | cons e es ih => exact ⟨hinit, ih (hstep s e hinit)⟩

theorem along_and {C D : σ → ε → Prop} {s : σ} {es : List ε} :
    Along step (fun s e => C s e ∧ D s e) s es ↔ Along step C s es ∧ Along step D s es := by
  induction es generalizing s with
  | nil => exact ⟨fun _ => ⟨trivial, trivial⟩, fun _ => trivial⟩
  | cons e es ih =>
    rw [along_cons, along_cons, along_cons, ih]
    exact and_and_and_comm

/-- **Transition rule.**  Under an invariant, a condition on each step gives a
property of each step. -/
theorem along_of_along {I : σ → Prop} {C D : σ → ε → Prop}
    (hstep : ∀ s e, I s → C s e → I (step s e))
    (hprop : ∀ s e, I s → C s e → D s e) {s : σ} {es : List ε}
    (hinit : I s) (h : Along step C s es) : Along step D s es := by
  induction es generalizing s with
  | nil => trivial
  | cons e es ih =>
    exact ⟨hprop s e hinit h.1, ih (hstep s e hinit h.1) h.2⟩

/-- **What a step establishes and later steps keep holds at the end.**  `R s e t`
says of a later state `t` what the step `e` from `s` was to achieve. -/
theorem along_final {C : σ → ε → Prop} {R : σ → ε → σ → Prop}
    (hstep : ∀ s e, C s e → R s e (step s e))
    (hkeep : ∀ s e t e', R s e t → R s e (step t e')) {s : σ} {es : List ε}
    (h : Along step C s es) : Along step (fun s' e => R s' e (run step s es)) s es := by
  have keep : ∀ (fs : List ε) s e t, R s e t → R s e (run step t fs) := by
    intro fs
    induction fs with
    | nil => exact fun s e t hR => hR
    | cons f fs ih => exact fun s e t hR => ih s e (step t f) (hkeep s e t f hR)
  induction es generalizing s with
  | nil => trivial
  | cons e es ih => exact ⟨keep es s e _ (hstep s e h.1), ih h.2⟩

theorem Ever.of_head {P : σ → Prop} {s : σ} {es : List ε} (h : P s) : Ever step P s es := by
  cases es with
  | nil => exact h
  | cons e es => exact Or.inl h

/-- What does not hold all along fails at some time. -/
theorem always_or_ever (P : σ → Prop) (s : σ) (es : List ε) :
    Always step P s es ∨ Ever step (fun t => ¬P t) s es := by
  induction es generalizing s with
  | nil => exact Classical.em (P s)
  | cons e es ih =>
    by_cases hP : P s
    · rcases ih (step s e) with hall | hsome
      · exact Or.inl ⟨hP, hall⟩
      · exact Or.inr (Or.inr hsome)
    · exact Or.inr (Or.inl hP)

/-- **A record of the past.**  What starts as `P` and grows at every step by what
`P` says of the new state ends as "`P` has held". -/
theorem ever_iff_of_along {A P : σ → Prop} {s : σ} {es : List ε} (hinit : A s ↔ P s)
    (h : Along step (fun s e => A (step s e) ↔ A s ∨ P (step s e)) s es) :
    A (run step s es) ↔ Ever step P s es := by
  have key : ∀ {es : List ε} {s : σ}, (P s → A s) →
      Along step (fun s e => A (step s e) ↔ A s ∨ P (step s e)) s es →
      (A (run step s es) ↔ A s ∨ Ever step P s es) := by
    intro es
    induction es with
    | nil => exact fun hP _ => (or_iff_left_of_imp hP).symm
    | cons e es ih =>
      intro s hP h
      have hstep : A (step s e) ↔ A s ∨ P (step s e) := h.1
      rw [run_cons, ih (fun hnew => hstep.mpr (Or.inr hnew)) h.2, hstep]
      constructor
      · rintro ((hA | hnew) | hlater)
        · exact Or.inl hA
        · exact Or.inr (Or.inr (Ever.of_head hnew))
        · exact Or.inr (Or.inr hlater)
      · rintro (hA | hnow | hlater)
        · exact Or.inl (Or.inl hA)
        · exact Or.inl (Or.inl (hP hnow))
        · exact Or.inr hlater
  rw [key hinit.mpr h, hinit]
  exact or_iff_right_of_imp Ever.of_head

/-- The transition rule for an exact condition: a property of each step that
keeps the invariant. -/
theorem along_iff_along {I : σ → Prop} {C D : σ → ε → Prop}
    (hstep : ∀ s e, I s → C s e → I (step s e))
    (hexact : ∀ s e, I s → (D s e ↔ C s e)) {s : σ} (hinit : I s) (es : List ε) :
    Along step D s es ↔ Along step C s es := by
  induction es generalizing s with
  | nil => exact Iff.rfl
  | cons e es ih =>
    rw [along_cons, along_cons, hexact s e hinit]
    exact and_congr_right fun hc => ih (hstep s e hinit hc)

/-- **Exact conditions lift to runs.**  Let `I` survive every step.  If on
the states of `I` one step from `P` keeps `P` exactly when it meets `C`,
then a run from `P` stays in `P` exactly when all its steps meet `C`. -/
theorem always_iff_along {I P : σ → Prop} {C : σ → ε → Prop}
    (hinv : ∀ s e, I s → I (step s e))
    (hexact : ∀ s e, I s → P s → (P (step s e) ↔ C s e)) {s : σ}
    (hinit : I s) (hP : P s) (es : List ε) :
    Always step P s es ↔ Along step C s es := by
  induction es generalizing s with
  | nil => exact iff_of_true hP trivial
  | cons e es ih =>
    rw [always_cons, along_cons]
    constructor
    · rintro ⟨-, h⟩
      exact ⟨(hexact s e hinit hP).mp h.head, (ih (hinv s e hinit) h.head).mp h⟩
    · rintro ⟨hc, h⟩
      have hP' := (hexact s e hinit hP).mpr hc
      exact ⟨hP, (ih (hinv s e hinit) hP').mpr h⟩

end Sda
