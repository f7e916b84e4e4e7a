/-
Sda/Lib/Rely.lean

Processes that share a store, and rely–guarantee reasoning about them.

A process `Proc σ α` is a sequential program over a store others write too:
`ret a` has ended with the answer `a`, and `act tx next` runs the transaction
`tx` and goes on as the store it met tells it.  A `System` is a store and its
processes; the scheduler names the process that moves next, and a process it
never names again has crashed where it stood.

`Safe R G Q p s` says of the process `p` standing at the store `s`: while the
others change the store within `R`, each of its transactions changes it within
`G`, and its answer meets `Q`.  `RelyTriple` is the judgement for proofs, with one
rule for each way a process is built.

Main results: `safe_step`, a step of one process leaves every process safe when
each relies on no more than what the others guarantee, and from it the rules for
schedules, `along_guar`, `always_store` and `answer_of_safe`.
-/
import Sda.Lib.Run
import Mathlib.Logic.Relation

namespace Sda

open Relation

universe u v w

/-! ### Processes -/

/-- A sequential program over a shared store. -/
inductive Proc (σ : Type u) (α : Type v) : Type (max u v)
  | ret (a : α)
  | act (tx : σ → σ) (next : σ → Proc σ α)

namespace Proc

variable {σ : Type u} {α : Type v} {β : Type w}

/-- One program after another. -/
def bind : Proc σ α → (α → Proc σ β) → Proc σ β
  | .ret a, k => k a
  | .act tx next, k => .act tx fun s => (next s).bind k

instance : Monad (Proc σ) where
  pure := .ret
  bind := .bind

/-- One transaction, with its answer. -/
def atomic (f : σ → α × σ) : Proc σ α :=
  .act (fun s => (f s).2) fun s => .ret (f s).1

/-- A query. -/
def read (f : σ → α) : Proc σ α :=
  atomic fun s => (f s, s)

/-- A transaction without an answer. -/
def change (f : σ → σ) : Proc σ PUnit :=
  atomic fun s => (.unit, f s)

/-- The next transaction of the process, taken at a store. -/
def advance : Proc σ α → σ → Proc σ α × σ
  | .ret a, s => (.ret a, s)
  | .act tx next, s => (next s, tx s)

/-- The answer of a process that has ended. -/
def answer : Proc σ α → Option α
  | .ret a => some a
  | .act _ _ => none

theorem eq_ret_of_answer {p : Option (Proc σ α)} {a : α} (h : p.bind answer = some a) :
    p = some (.ret a) := by
  obtain ⟨p, rfl, hp⟩ := Option.bind_eq_some_iff.mp h
  cases p with
  | ret b =>
    cases hp
    rfl
  | act tx next => cases hp

end Proc

/-- Processes over one store. -/
structure System (σ : Type u) (α : Type v) where
  store : σ
  procs : List (Proc σ α)

/-- The scheduler lets the process number `i` take its next transaction. -/
def System.step {σ : Type u} {α : Type v} (S : System σ α) (i : Nat) : System σ α :=
  match S.procs[i]? with
  | none => S
  | some p => ⟨(p.advance S.store).2, S.procs.set i (p.advance S.store).1⟩

/-! ### The judgement -/

section Safe

variable {σ : Type u} {α : Type v} {R G : σ → σ → Prop} {Q : α → σ → Prop} {s s' : σ}

/-- Whatever the others do within `R`, the process keeps to `G` and ends in `Q`. -/
def Safe (R G : σ → σ → Prop) (Q : α → σ → Prop) : Proc σ α → σ → Prop
  | .ret a, s => ∀ t, ReflTransGen R s t → Q a t
  | .act tx next, s => ∀ t, ReflTransGen R s t → G t (tx t) ∧ Safe R G Q (next t) (tx t)

/-- A safe process stays safe while the others move. -/
theorem Safe.rely {p : Proc σ α} (h : Safe R G Q p s) (hR : R s s') : Safe R G Q p s' := by
  cases p with
  | ret a => exact fun t ht => h t (ReflTransGen.head hR ht)
  | act tx next => exact fun t ht => h t (ReflTransGen.head hR ht)

/-- A safe process that moves changes the store within its guarantee, if at all. -/
theorem Safe.advance {p : Proc σ α} (h : Safe R G Q p s) :
    (G s (p.advance s).2 ∨ (p.advance s).2 = s) ∧
      Safe R G Q (p.advance s).1 (p.advance s).2 := by
  cases p with
  | ret a => exact ⟨Or.inr rfl, h⟩
  | act tx next =>
    obtain ⟨hG, hnext⟩ := h s ReflTransGen.refl
    exact ⟨Or.inl hG, hnext⟩

/-- `P` survives what the others do. -/
def Stable (R : σ → σ → Prop) (P : σ → Prop) : Prop :=
  ∀ s s', P s → R s s' → P s'

theorem Stable.rely {P : σ → Prop} (h : Stable R P) (hP : P s) (hR : ReflTransGen R s s') :
    P s' := by
  induction hR with
  | refl => exact hP
  | tail _ hstep ih => exact h _ _ ih hstep

theorem stable_true : Stable R fun _ => True :=
  fun _ _ _ _ => trivial

/-- A fact about the answer alone guards the assertion. -/
theorem Stable.imp {p : Prop} {P : σ → Prop} (h : p → Stable R P) : Stable R fun s => p → P s :=
  fun _ _ hP hR hp => h hp _ _ (hP hp) hR

theorem Stable.and {P P' : σ → Prop} (h : Stable R P) (h' : Stable R P') :
    Stable R fun s => P s ∧ P' s :=
  fun s s' hP hR => ⟨h s s' hP.1 hR, h' s s' hP.2 hR⟩

/-- A fact that does not depend on the state. -/
theorem stable_fact {p : Prop} : Stable R fun _ => p :=
  fun _ _ hp _ => hp

theorem Stable.all {ι : Type w} {P : ι → σ → Prop} (h : ∀ i, Stable R (P i)) :
    Stable R fun s => ∀ i, P i s :=
  fun _ _ hP hR i => h i _ _ (hP i) hR

end Safe

/-- From a store of `P`, whatever the others do within `R`, the process keeps to
`G` and ends in `Q`. -/
def RelyTriple {σ : Type u} {α : Type v} (R G : σ → σ → Prop) (P : σ → Prop) (p : Proc σ α)
    (Q : α → σ → Prop) : Prop :=
  ∀ s, P s → Safe R G Q p s

namespace RelyTriple

variable {σ : Type u} {α β : Type v} {R G : σ → σ → Prop} {P P' : σ → Prop}
  {Q Q' : α → σ → Prop} {p : Proc σ α}

theorem pure {a : α} (hP : Stable R P) (h : ∀ s, P s → Q a s) : RelyTriple R G P (pure a) Q :=
  fun _ hs t ht => h t (hP.rely hs ht)

theorem conseq (h : RelyTriple R G P p Q) (hP : ∀ s, P' s → P s)
    (hQ : ∀ a s, Q a s → Q' a s) : RelyTriple R G P' p Q' := by
  intro s hs
  replace h := h s (hP s hs)
  clear hP hs
  induction p generalizing s with
  | ret a => exact fun t ht => hQ a t (h t ht)
  | act tx next ih => exact fun t ht => ⟨(h t ht).1, ih t _ (h t ht).2⟩

theorem bind {k : α → Proc σ β} {Q' : β → σ → Prop} (h : RelyTriple R G P p Q)
    (hk : ∀ a, RelyTriple R G (Q a) (k a) Q') : RelyTriple R G P (p >>= k) Q' := by
  intro s hs
  replace h := h s hs
  clear hs
  induction p generalizing s with
  | ret a => exact hk a s (h s ReflTransGen.refl)
  | act tx next ih => exact fun t ht => ⟨(h t ht).1, ih t _ (h t ht).2⟩

/-- One transaction: the assertion survives the wait before it, and what it
establishes survives the wait after it. -/
theorem atomic {f : σ → α × σ} (hP : Stable R P) (hQ : ∀ a, Stable R (Q a))
    (h : ∀ s, P s → G s (f s).2 ∧ Q (f s).1 (f s).2) : RelyTriple R G P (Proc.atomic f) Q := by
  intro s hs t ht
  obtain ⟨hG, hQt⟩ := h t (hP.rely hs ht)
  exact ⟨hG, fun t' ht' => (hQ _).rely hQt ht'⟩

theorem read {f : σ → α} (hG : ∀ s, G s s) (hP : Stable R P) :
    RelyTriple R G P (Proc.read f) fun _ => P :=
  atomic hP (fun _ => hP) fun s hs => ⟨hG s, hs⟩

/-- What a transaction keeps may be strengthened together with what the others do. -/
theorem strengthen {R' G' : σ → σ → Prop} {Q' : α → σ → Prop} {f : σ → α × σ}
    (h : RelyTriple R G P (Proc.atomic f) Q) (hP : Stable R' P') (hQ : ∀ a, Stable R' (Q' a))
    (himp : ∀ s, P' s → P s)
    (hmore : ∀ s, P' s → G s (f s).2 → Q (f s).1 (f s).2 →
      G' s (f s).2 ∧ Q' (f s).1 (f s).2) :
    RelyTriple R' G' P' (Proc.atomic f) Q' := by
  apply atomic hP hQ
  intro s hs
  obtain ⟨hG, hanswer⟩ := h s (himp s hs) s ReflTransGen.refl
  exact hmore s hs hG (hanswer _ ReflTransGen.refl)

end RelyTriple

/-! ### Schedules -/

section System

variable {σ : Type u} {α : Type v} {G : Nat → σ → σ → Prop} {S : System σ α}

/-- What the process number `j` relies on: the guarantees of the others. -/
def Others (G : Nat → σ → σ → Prop) (j : Nat) (s s' : σ) : Prop :=
  ∃ i, i ≠ j ∧ G i s s'

/-- Every process is safe against the others. -/
def AllSafe (G : Nat → σ → σ → Prop) (S : System σ α) : Prop :=
  ∀ i p, S.procs[i]? = some p → Safe (Others G i) (G i) (fun _ _ => True) p S.store

/-- A step is a transaction of the process the scheduler names, or none. -/
theorem guar_step (h : AllSafe G S) (i : Nat) :
    G i S.store (S.step i).store ∨ (S.step i).store = S.store := by
  rw [System.step]
  rcases hp : S.procs[i]? with - | p
  · exact Or.inr rfl
  · exact (h i p hp).advance.1

/-- **One process moves, and all stay safe.** -/
theorem safe_step (h : AllSafe G S) (i : Nat) : AllSafe G (S.step i) := by
  intro j q hq
  have hguar := guar_step h i
  rw [System.step] at hq hguar ⊢
  rcases hp : S.procs[i]? with - | p
  · rw [hp] at hq
    exact h j q hq
  · rw [hp] at hq hguar
    dsimp only at hq hguar ⊢
    by_cases hij : i = j
    · subst hij
      rw [List.getElem?_set_self (List.getElem?_eq_some_iff.mp hp).1] at hq
      cases hq
      exact (h i p hp).advance.2
    · rw [List.getElem?_set_ne hij] at hq
      rcases hguar with hG | heq
      · exact (h j q hq).rely ⟨i, hij, hG⟩
      · rw [heq]
        exact h j q hq

/-- **Transition rule.**  Along every schedule each step keeps to the guarantee
of the process that moves, or leaves the store as it was. -/
theorem along_guar {I : σ → Prop} {D : System σ α → Nat → Prop} (hinit : AllSafe G S)
    (hI : I S.store) (hG : ∀ i s s', I s → G i s s' → I s')
    (hD : ∀ S i, I S.store →
      (G i S.store (S.step i).store ∨ (S.step i).store = S.store) → D S i)
    (schedule : List Nat) : Along System.step D S schedule := by
  refine along_of_along (I := fun S : System σ α => AllSafe G S ∧ I S.store)
    (C := fun _ _ => True) ?_ ?_ ⟨hinit, hI⟩ ?_
  · rintro S i ⟨hS, hI⟩ -
    refine ⟨safe_step hS i, ?_⟩
    rcases guar_step hS i with h | h
    · exact hG i _ _ hI h
    · rw [h]
      exact hI
  · rintro S i ⟨hS, hI⟩ -
    exact hD S i hI (guar_step hS i)
  · clear hinit hI
    induction schedule generalizing S with
    | nil => trivial
    | cons i schedule ih => exact ⟨trivial, ih⟩

/-- **Invariant rule.**  What every guarantee keeps holds of the store along every
schedule. -/
theorem always_store {I : σ → Prop} (hinit : AllSafe G S) (hI : I S.store)
    (hG : ∀ i s s', I s → G i s s' → I s') (schedule : List Nat) :
    Always System.step (fun S => I S.store) S schedule := by
  refine (always_of_step (I := fun S : System σ α => AllSafe G S ∧ I S.store) ?_
    ⟨hinit, hI⟩ schedule).mono fun S h => h.2
  rintro S i ⟨hS, hI⟩
  refine ⟨safe_step hS i, ?_⟩
  rcases guar_step hS i with h | h
  · exact hG i _ _ hI h
  · rw [h]
    exact hI

/-- **Answer rule.**  A process that is safe against the others ends, under every schedule, in
what it is safe for. -/
theorem answer_of_safe {G' : σ → σ → Prop} {Q : α → σ → Prop} {i : Nat} (hinit : AllSafe G S)
    (hi : ∀ p, S.procs[i]? = some p → Safe (Others G i) G' Q p S.store) (schedule : List Nat)
    {a : α} (hended : (run System.step S schedule).procs[i]? = some (.ret a)) :
    Q a (run System.step S schedule).store := by
  have hstep : ∀ (S : System σ α) (j : Nat), AllSafe G S →
      (∀ p, S.procs[i]? = some p → Safe (Others G i) G' Q p S.store) →
      ∀ p, (S.step j).procs[i]? = some p → Safe (Others G i) G' Q p (S.step j).store := by
    intro S j hS hi q hq
    have hguar := guar_step hS j
    rw [System.step] at hq hguar ⊢
    rcases hp : S.procs[j]? with - | p
    · rw [hp] at hq
      exact hi q hq
    · rw [hp] at hq hguar
      dsimp only at hq hguar ⊢
      by_cases hji : j = i
      · subst hji
        rw [List.getElem?_set_self (List.getElem?_eq_some_iff.mp hp).1] at hq
        cases hq
        exact (hi p hp).advance.2
      · rw [List.getElem?_set_ne hji] at hq
        rcases hguar with hG | heq
        · exact (hi q hq).rely ⟨j, hji, hG⟩
        · rw [heq]
          exact hi q hq
  induction schedule generalizing S with
  | nil => exact hi _ hended _ ReflTransGen.refl
  | cons j schedule ih => exact ih (safe_step hinit j) (hstep S j hinit hi) hended

end System

end Sda
