/-
Sda/Lib/Measure.lean

Programs that only add to what they leave behind.

A measure maps the state of a program to a commutative monoid: what has been
written so far, regardless of the order.  `Adds measure c r m` says that `c`
ends with `r` from every state and adds `m` to the measure.  The amount does
not depend on the state, so a program built from such parts is described by a
sum, statement by statement; `Adds.each` turns a loop into a `List.sum`.
-/
import Sda.Lib.Prog
import Mathlib.Algebra.BigOperators.Group.List.Basic

namespace Sda.Prog

variable {ε σ α β M : Type} [AddCommMonoid M] {measure : σ → M}

/-- From every state `c` ends with `r` and adds `m` to the measure. -/
def Adds (measure : σ → M) (c : Prog ε σ α) (r : Except ε α) (m : M) : Prop :=
  ∀ s, ∃ s', exec c s = (r, s') ∧ measure s' = measure s + m

variable {c : Prog ε σ α} {f : α → Prog ε σ β} {handler : ε → Prog ε σ α}
variable {r : Except ε α} {r' : Except ε β} {a : α} {e : ε} {m n : M}

theorem Adds.measure_eq (h : Adds measure c r m) (s : σ) :
    measure (exec c s).2 = measure s + m := by
  obtain ⟨s', hs', hm⟩ := h s
  rw [hs', hm]

theorem Adds.congr (h : Adds measure c r m) (heq : m = n) : Adds measure c r n :=
  heq ▸ h

theorem Adds.pure (a : α) : Adds measure (pure a : Prog ε σ α) (.ok a) 0 :=
  fun s => ⟨s, rfl, (add_zero _).symm⟩

theorem Adds.throw (e : ε) : Adds measure (throw e : Prog ε σ α) (.error e) 0 :=
  fun s => ⟨s, rfl, (add_zero _).symm⟩

theorem Adds.known (r : Except ε α) : Adds measure (known r) r 0 :=
  fun s => ⟨s, rfl, (add_zero _).symm⟩

theorem Adds.change {g : σ → σ} (h : ∀ s, measure (g s) = measure s + m) :
    Adds measure (change g : Prog ε σ Unit) (.ok ()) m :=
  fun s => ⟨g s, rfl, h s⟩

theorem Adds.bind (hc : Adds measure c (.ok a) m) (hf : Adds measure (f a) r' n) :
    Adds measure (c >>= f) r' (m + n) := by
  intro s
  obtain ⟨s₁, h₁, hm⟩ := hc s
  obtain ⟨s₂, h₂, hn⟩ := hf s₁
  refine ⟨s₂, by rw [exec_bind_ok h₁, h₂], ?_⟩
  rw [hn, hm, add_assoc]

theorem Adds.bind_error (hc : Adds measure c (.error e) m) :
    Adds measure (c >>= f) (.error e) m := by
  intro s
  obtain ⟨s', h, hm⟩ := hc s
  exact ⟨s', exec_bind_error h, hm⟩

theorem Adds.catching (hc : Adds measure c (.ok a) m) :
    Adds measure (catching c handler) (.ok a) m := by
  intro s
  obtain ⟨s', h, hm⟩ := hc s
  exact ⟨s', by rw [exec_catching, h], hm⟩

theorem Adds.catching_error (hc : Adds measure c (.error e) m)
    (hh : Adds measure (handler e) r n) : Adds measure (Prog.catching c handler) r (m + n) := by
  intro s
  obtain ⟨s₁, h₁, hm⟩ := hc s
  obtain ⟨s₂, h₂, hn⟩ := hh s₁
  refine ⟨s₂, by rw [exec_catching, h₁]; exact h₂, ?_⟩
  rw [hn, hm, add_assoc]

theorem Adds.ite_pos {p : Prop} [Decidable p] {d : Prog ε σ α} (hp : p)
    (hc : Adds measure c r m) : Adds measure (if p then c else d) r m := by
  rw [if_pos hp]
  exact hc

theorem Adds.ite_neg {p : Prop} [Decidable p] {d : Prog ε σ α} (hp : ¬p)
    (hc : Adds measure c r m) : Adds measure (if p then d else c) r m := by
  rw [if_neg hp]
  exact hc

/-- The loop rule: a loop adds the sum of what its rounds add. -/
theorem Adds.each_map {γ : Type} {g : γ → β} {round : β → Prog ε σ Unit} {amount : γ → M}
    {xs : List γ} (h : ∀ x ∈ xs, Adds measure (round (g x)) (.ok ()) (amount x)) :
    Adds measure (each (xs.map g) round) (.ok ()) (xs.map amount).sum := by
  induction xs with
  | nil => exact Adds.pure ()
  | cons x xs ih =>
    rw [List.map_cons, List.map_cons, List.sum_cons]
    exact Adds.bind (h x List.mem_cons_self) (ih fun y hy => h y (List.mem_cons_of_mem x hy))

theorem Adds.each {round : β → Prog ε σ Unit} {amount : β → M} {xs : List β}
    (h : ∀ x ∈ xs, Adds measure (round x) (.ok ()) (amount x)) :
    Adds measure (each xs round) (.ok ()) (xs.map amount).sum := by
  have hmap := Adds.each_map (g := id) h
  rwa [List.map_id] at hmap

/-- A sum over the hits of a search, over the things searched. -/
theorem sum_map_filterMap {γ : Type} (g : β → Option γ) (f : γ → M) (xs : List β) :
    ((xs.filterMap g).map f).sum = (xs.map fun x => (g x).elim 0 f).sum := by
  induction xs with
  | nil => rfl
  | cons x xs ih =>
    rw [List.map_cons, List.sum_cons, ← ih]
    rcases h : g x with - | y
    · rw [List.filterMap_cons_none h, Option.elim_none, zero_add]
    · rw [List.filterMap_cons_some h, List.map_cons, List.sum_cons, Option.elim_some]

theorem sum_map_filter (p : β → Bool) (f : β → M) (xs : List β) :
    ((xs.filter p).map f).sum = (xs.map fun x => if p x then f x else 0).sum := by
  rw [List.sum_map_ite, List.map_const', List.sum_replicate, nsmul_zero, add_zero]
  simp

end Sda.Prog
