/-
Sda/Lib/Claim.lean

At most once by a durable claim.

Processes share a store that has a table of claims and a log of acts.  A process
creates a claim, acts under it once, and rewrites it afterwards; no process
touches the claims of another.  `Claims` names the parts: whose a row is, the
claim an act is made under, what the process knows of the row when it acts
(`held`), and what stays true of it for good (`kept`).

`Respects` is the guarantee of one process, `Once` the invariant: every act has a
claim it was made under, and no claim has two.  Main results: the four ways of
respecting the others' claims, what a process may assume while the others
move (`stable_owns`, `stable_ready`), `Once.step`, and `Once.nodup`: acts differ in
whatever a unique column of their claims tells apart.
-/
import Sda.Lib.Rely
import Sda.Lib.Table

namespace Sda

universe u v w

/-- A table of claims and a log of acts in a store. -/
structure Claims (σ : Type u) (α : Type v) (β : Type w) where
  rows : σ → Table α
  owner : α → Nat
  log : σ → List β
  claim : β → Nat
  held : β → α → Prop
  kept : β → α → Prop
  kept_of_held : ∀ x a, held x a → kept x a

namespace Claims

variable {σ : Type u} {α : Type v} {β : Type w} (C : Claims σ α β)

/-- The claim `k` is of process `i` and meets `P`. -/
def Owns (i k : Nat) (P : α → Prop) (s : σ) : Prop :=
  ∃ a, (C.rows s).get? k = some a ∧ C.owner a = i ∧ P a

/-- Process `i` holds the claim of `x` and has not acted under it. -/
def Ready (i : Nat) (x : β) (s : σ) : Prop :=
  C.Owns i (C.claim x) (C.held x) s ∧ C.claim x ∉ (C.log s).map C.claim

/-- What process `i` may do to claims and acts. -/
structure Respects (i : Nat) (s s' : σ) : Prop where
  others : ∀ k a, (C.rows s).get? k = some a → C.owner a ≠ i → (C.rows s').get? k = some a
  keeps : ∀ x k a, (C.rows s).get? k = some a → C.kept x a →
    ∃ b, (C.rows s').get? k = some b ∧ C.kept x b
  acts : C.log s' = C.log s ∨ ∃ x, C.log s' = C.log s ++ [x] ∧ C.Ready i x s

/-- Every act has its claim, and no claim has two acts. -/
structure Once (s : σ) : Prop where
  claimed : ∀ x ∈ C.log s, ∃ a, (C.rows s).get? (C.claim x) = some a ∧ C.kept x a
  once : ((C.log s).map C.claim).Nodup

variable {C} {i k : Nat} {x : β} {s s' : σ} {a b : α} {P : α → Prop}

theorem Owns.mono {Q : α → Prop} (h : C.Owns i k P s) (hPQ : ∀ a, P a → Q a) :
    C.Owns i k Q s := by
  obtain ⟨a, ha, hi, hP⟩ := h
  exact ⟨a, ha, hi, hPQ a hP⟩

/-! ### Ways to respect the others -/

namespace Respects

theorem of_same (hrows : C.rows s' = C.rows s) (hlog : C.log s' = C.log s) :
    C.Respects i s s' := by
  refine ⟨fun k a ha _ => ?_, fun x k a ha hx => ⟨a, ?_, hx⟩, Or.inl hlog⟩
  · rw [hrows]
    exact ha
  · rw [hrows]
    exact ha

theorem refl (s : σ) : C.Respects i s s :=
  of_same rfl rfl

/-- A new claim. -/
theorem create (hrows : C.rows s' = (C.rows s).create a) (hlog : C.log s' = C.log s) :
    C.Respects i s s' := by
  refine ⟨fun k b hb _ => ?_, fun x k b hb hx => ⟨b, ?_, hx⟩, Or.inl hlog⟩
  · rw [hrows]
    exact Table.get?_create_of_some hb
  · rw [hrows]
    exact Table.get?_create_of_some hb

/-- A claim of the process itself is rewritten. -/
theorem update (ha : (C.rows s).get? k = some a) (hi : C.owner a = i)
    (hself : (C.rows s').get? k = some b)
    (hne : ∀ j, j ≠ k → (C.rows s').get? j = (C.rows s).get? j) (hlog : C.log s' = C.log s)
    (hkept : ∀ x, C.kept x a → C.kept x b) : C.Respects i s s' := by
  refine ⟨fun j c hc hj => ?_, fun x j c hc hx => ?_, Or.inl hlog⟩
  · rw [hne j, hc]
    rintro rfl
    rw [ha] at hc
    cases hc
    exact hj hi
  · by_cases hjk : j = k
    · subst hjk
      rw [ha] at hc
      cases hc
      exact ⟨b, hself, hkept x hx⟩
    · exact ⟨c, (hne j hjk).trans hc, hx⟩

/-- An act under a claim that is ready. -/
theorem act (hready : C.Ready i x s) (hrows : C.rows s' = C.rows s)
    (hlog : C.log s' = C.log s ++ [x]) : C.Respects i s s' := by
  have hsame : ∀ k a, (C.rows s).get? k = some a → (C.rows s').get? k = some a := by
    intro k a ha
    rw [hrows]
    exact ha
  exact ⟨fun k a ha _ => hsame k a ha, fun y k a ha hy => ⟨a, hsame k a ha, hy⟩,
    Or.inr ⟨x, hlog, hready⟩⟩

end Respects

/-! ### What a process may assume -/

section Stable

variable {G : Nat → σ → σ → Prop}

theorem stable_owns (hG : ∀ j s s', G j s s' → C.Respects j s s') :
    Stable (Others G i) (C.Owns i k P) := by
  rintro s s' ⟨a, ha, hi, hP⟩ ⟨j, hj, hguar⟩
  exact ⟨a, (hG j s s' hguar).others k a ha (by rw [hi]; exact hj.symm), hi, hP⟩

theorem stable_ready (hG : ∀ j s s', G j s s' → C.Respects j s s') :
    Stable (Others G i) (C.Ready i x) := by
  rintro s s' ⟨howns, hlog⟩ hR
  refine ⟨stable_owns hG s s' howns hR, ?_⟩
  obtain ⟨j, hj, hguar⟩ := hR
  rcases (hG j s s' hguar).acts with heq | ⟨y, heq, ⟨b, hb, hbj, -⟩, -⟩
  · rw [heq]
    exact hlog
  · rw [heq, List.map_append, List.mem_append, List.map_singleton, List.mem_singleton]
    rintro (hx | hx)
    · exact hlog hx
    · -- the other process acts under a claim of its own
      obtain ⟨a, ha, hai, -⟩ := howns
      rw [← hx, ha] at hb
      cases hb
      exact hj (hbj.symm.trans hai)

end Stable

/-! ### The invariant -/

/-- **One step keeps every act under its own claim.** -/
theorem Once.step (h : C.Once s) (hstep : C.Respects i s s') : C.Once s' := by
  have hkeep : ∀ x ∈ C.log s, ∃ b, (C.rows s').get? (C.claim x) = some b ∧ C.kept x b := by
    intro x hx
    obtain ⟨a, ha, hkept⟩ := h.claimed x hx
    exact hstep.keeps x _ a ha hkept
  rcases hstep.acts with heq | ⟨y, heq, ⟨a, ha, -, hheld⟩, hnew⟩
  · refine ⟨fun x hx => ?_, ?_⟩
    · rw [heq] at hx
      exact hkeep x hx
    · rw [heq]
      exact h.once
  · refine ⟨fun x hx => ?_, ?_⟩
    · rw [heq] at hx
      rcases List.mem_append.mp hx with hx | hx
      · exact hkeep x hx
      · obtain rfl := List.mem_singleton.mp hx
        exact hstep.keeps x _ a ha (C.kept_of_held x a hheld)
    · rw [heq, List.map_append, List.map_singleton, ← List.concat_eq_append]
      exact h.once.concat hnew

/-- A claim created now has no act yet. -/
theorem Once.fresh (h : C.Once s) : (C.rows s).nextKey ∉ (C.log s).map C.claim := by
  intro hin
  obtain ⟨x, hx, hkey⟩ := List.mem_map.mp hin
  obtain ⟨a, ha, -⟩ := h.claimed x hx
  rw [hkey, Table.get?_nextKey] at ha
  cases ha

/-- Acts differ in what tells their claims apart. -/
theorem Once.nodup {γ : Type*} {f : β → γ} (h : C.Once s)
    (hunique : ∀ x y a b, (C.rows s).get? (C.claim x) = some a →
      (C.rows s).get? (C.claim y) = some b → C.kept x a → C.kept y b → f x = f y →
        C.claim x = C.claim y) : ((C.log s).map f).Nodup := by
  apply List.Nodup.map_on _ (List.Nodup.of_map _ h.once)
  intro x hx y hy heq
  obtain ⟨a, ha, hkept⟩ := h.claimed x hx
  obtain ⟨b, hb, hkept'⟩ := h.claimed y hy
  exact List.inj_on_of_nodup_map h.once hx hy (hunique x y a b ha hb hkept hkept' heq)

end Claims

end Sda
