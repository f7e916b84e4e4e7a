/-
Sda/Lib/BiUnique.lean

Relations that grow by one pair at a time and stay partial injections
(`Relator.BiUnique`: at most one partner on each side).

* `biUnique_withPair` — a partial injection keeps its property exactly when the
  new pair is compatible with every old one;
* `biUnique_foldlM` — so a loop that adds pairs ends in a partial injection
  exactly when each pair is compatible with those before it.
-/
import Mathlib.Logic.Relator
import Mathlib.Tactic.TypeStar

namespace Sda

variable {α β : Type*} {R R' : α → β → Prop} {p : α × β}

/-- Fewer pairs have no more partners. -/
theorem biUnique_mono (hsub : ∀ a b, R a b → R' a b) (h : Relator.BiUnique R') :
    Relator.BiUnique R :=
  ⟨fun _ _ _ ha hb => h.1 (hsub _ _ ha) (hsub _ _ hb),
    fun _ _ _ ha hb => h.2 (hsub _ _ ha) (hsub _ _ hb)⟩

/-- The relation and the pair a step adds, if any. -/
def WithPair (R : α → β → Prop) (p : Option (α × β)) (a : α) (b : β) : Prop :=
  R a b ∨ p = some (a, b)

/-- A pair that shares no partner: it meets an old pair on both sides or on none. -/
def Compatible (R : α → β → Prop) (p : α × β) : Prop :=
  ∀ a b, R a b → (a = p.1 ↔ b = p.2)

theorem withPair_none : WithPair R none = R := by
  funext a b
  simp [WithPair]

/-- **One pair more.** -/
theorem biUnique_withPair (h : Relator.BiUnique R) :
    Relator.BiUnique (WithPair R (some p)) ↔ Compatible R p := by
  constructor
  · rintro ⟨hleft, hright⟩ a b hab
    constructor
    · rintro rfl
      exact hright (Or.inl hab) (Or.inr rfl)
    · rintro rfl
      exact hleft (Or.inl hab) (Or.inr rfl)
  · intro hp
    constructor
    · rintro a b c (ha | ha) (hb | hb)
      · exact h.1 ha hb
      · cases hb
        exact (hp a c ha).mpr rfl
      · cases ha
        exact ((hp b c hb).mpr rfl).symm
      · cases ha
        cases hb
        rfl
    · rintro a b c (hb | hb) (hc | hc)
      · exact h.2 hb hc
      · cases hc
        exact (hp a b hb).mp rfl
      · cases hb
        exact ((hp a c hc).mp rfl).symm
      · cases hb
        cases hc
        rfl

/-- One pair more, or none. -/
theorem biUnique_withPair? (h : Relator.BiUnique R) (p : Option (α × β)) :
    Relator.BiUnique (WithPair R p) ↔ ∀ q, p = some q → Compatible R q := by
  rcases p with - | p
  · rw [withPair_none]
    exact iff_of_true h nofun
  · rw [biUnique_withPair h]
    constructor
    · rintro hp q ⟨⟩
      exact hp
    · intro hp
      exact hp p rfl

/-! ### Loops that may raise -/

section Loops

variable {σ ε err : Type*} {step : σ → ε → Except err σ} {Q : σ → α → β → Prop}
variable {added : σ → ε → Option (α × β)}

/-- Every iteration of a loop meets `C`, as far as the loop comes. -/
def AlongLoop (step : σ → ε → Except err σ) (C : σ → ε → Prop) : σ → List ε → Prop
  | _, [] => True
  | s, e :: es => C s e ∧
    match step s e with
    | .error _ => True
    | .ok s' => AlongLoop step C s' es

instance decidableAlongLoop (C : σ → ε → Prop) [∀ s e, Decidable (C s e)] :
    ∀ s es, Decidable (AlongLoop step C s es)
  | _, [] => inferInstanceAs (Decidable True)
  | s, e :: es =>
    haveI : Decidable (match step s e with
        | .error _ => True
        | .ok s' => AlongLoop step C s' es) :=
      match step s e with
      | .error _ => inferInstanceAs (Decidable True)
      | .ok s' => decidableAlongLoop C s' es
    inferInstanceAs (Decidable (C s e ∧ _))

/-- Iterations that add pairs only add pairs. -/
theorem pairs_foldlM
    (hstep : ∀ s e s', step s e = .ok s' → Q s' = WithPair (Q s) (added s e)) {s t : σ}
    {es : List ε} (hloop : es.foldlM step s = .ok t) {a : α} {b : β} (h : Q s a b) :
    Q t a b := by
  induction es generalizing s with
  | nil =>
    cases hloop
    exact h
  | cons e es ih =>
    rw [List.foldlM_cons] at hloop
    rcases hs : step s e with err | s'
    · rw [hs] at hloop
      cases hloop
    · rw [hs] at hloop
      apply ih hloop
      rw [hstep s e s' hs]
      exact Or.inl h

/-- **Loops that add pairs**: the last relation is a partial injection exactly
when each iteration adds none or a compatible one. -/
theorem biUnique_foldlM
    (hstep : ∀ s e s', step s e = .ok s' → Q s' = WithPair (Q s) (added s e)) {s t : σ}
    {es : List ε} (hloop : es.foldlM step s = .ok t) (h : Relator.BiUnique (Q s)) :
    Relator.BiUnique (Q t) ↔
      AlongLoop step (fun s e => ∀ p, added s e = some p → Compatible (Q s) p) s es := by
  induction es generalizing s with
  | nil =>
    cases hloop
    exact iff_of_true h trivial
  | cons e es ih =>
    rw [List.foldlM_cons] at hloop
    rcases hs : step s e with err | s'
    · rw [hs] at hloop
      cases hloop
    rw [hs] at hloop
    have hone := biUnique_withPair? h (added s e)
    rw [← hstep s e s' hs] at hone
    rw [AlongLoop, hs, ← hone]
    constructor
    · intro hlast
      have hnext := biUnique_mono (fun a b => pairs_foldlM hstep hloop) hlast
      exact ⟨hnext, (ih hloop hnext).mp hlast⟩
    · rintro ⟨hnext, hrest⟩
      exact (ih hloop hnext).mpr hrest

end Loops

end Sda
