/-
Sda/Lib/Prog.lean

Programs over a state that survives their exceptions, and rules for them.

Two ways to run code against a store are kept apart.

* A *transaction* is a function into `Except ε`: an exception carries no
  state, so whatever the transaction did before raising is gone.
* A *program* (`Prog ε σ α`) is a sequence of transactions and computations.
  An exception stops it, but the transactions already committed stay.

`Prog.atomic` runs a transaction inside a program.  Programs are reasoned
about through `Prog.exec`, whose equations for the control structures are
simp lemmas, and through two judgements:

* `Within R c` — every exit of `c`, normal or exceptional, is related to its
  start by `R`.  For a reflexive and transitive `R` it composes without side
  conditions, so "nothing `c` does leaves `R`" is checked statement by
  statement;
* `Triple P c Q E` — from `P`, a normal exit satisfies `Q` and an
  exceptional one `E`.

`Returns c p` says that the exit of `c` is normal exactly when `p` holds.
-/
import Mathlib.Tactic.TypeStar
import Mathlib.Order.Defs.Unbundled

namespace Sda

/-- Sequencing of transactions succeeds when both parts do. -/
theorem except_bind_ok {ε α β : Type} {x : Except ε α} {f : α → Except ε β} {b : β} :
    (x >>= f) = .ok b ↔ ∃ a, x = .ok a ∧ f a = .ok b := by
  cases x with
  | error e =>
    constructor
    · intro h
      cases h
    · rintro ⟨a, h, -⟩
      cases h
  | ok a =>
    constructor
    · exact fun h => ⟨a, rfl, h⟩
    · rintro ⟨a', ha, h⟩
      cases ha
      exact h

/-- A sequence does not raise if the first part does not, and the second does not on its result. -/
theorem isOk_bind_iff {ε α β : Type} {x : Except ε α} {f : α → Except ε β} :
    (x >>= f).isOk = true ↔ ∃ a, x = .ok a ∧ (f a).isOk = true := by
  cases x with
  | error e =>
    constructor
    · intro h
      cases h
    · rintro ⟨a, h, -⟩
      cases h
  | ok a =>
    constructor
    · intro h
      exact ⟨a, rfl, h⟩
    · rintro ⟨a', h, h'⟩
      cases h
      exact h'

/-- What is computed from a result does not raise. -/
@[simp] theorem isOk_bind_ok {ε α β : Type} (x : Except ε α) (g : α → β) :
    (x >>= fun a => Except.ok (g a)).isOk = x.isOk := by
  cases x <;> rfl

/-- Two parts of which neither sees the other's result. -/
theorem isOk_bind₂ {ε α β γ : Type} (x : Except ε α) (y : Except ε β) (f : α → β → γ) :
    (do let a ← x
        let b ← y
        Except.ok (f a b)).isOk = (x.isOk && y.isOk) := by
  cases x with
  | error e => rfl
  | ok a => cases y <;> rfl

/-- A mapped result comes from a result. -/
theorem except_map_ok {ε α β : Type} {x : Except ε α} {f : α → β} {b : β} :
    x.map f = .ok b ↔ ∃ a, x = .ok a ∧ f a = b := by
  cases x with
  | error e =>
    constructor
    · intro h
      cases h
    · rintro ⟨a, h, -⟩
      cases h
  | ok a =>
    constructor
    · intro h
      cases h
      exact ⟨a, rfl, rfl⟩
    · rintro ⟨a', ha, rfl⟩
      cases ha
      rfl

/-- A program over the state `σ` that may raise `ε`. -/
abbrev Prog (ε σ α : Type) := ExceptT ε (StateM σ) α

namespace Prog

variable {ε σ α β : Type}

/-- Run a program: its result or exception, and the state it leaves. -/
def exec (c : Prog ε σ α) (s : σ) : Except ε α × σ := (ExceptT.run c) s

/-- A transaction as one statement of a program. -/
def atomic (tx : σ → Except ε (α × σ)) : Prog ε σ α :=
  ExceptT.mk fun s =>
    match tx s with
    | .ok (a, s') => (.ok a, s')
    | .error e => (.error e, s)

/-- A transaction without a result. -/
def atomically (tx : σ → Except ε σ) : Prog ε σ Unit :=
  atomic fun s => (tx s).map fun s' => ((), s')

/-- `try c except exc: handler(exc)`. -/
def catching (c : Prog ε σ α) (handler : ε → Prog ε σ α) : Prog ε σ α :=
  tryCatch c handler

/-- A result or exception that is already known. -/
def known (r : Except ε α) : Prog ε σ α :=
  ExceptT.mk fun s => (r, s)

/-- A change of the state that cannot fail. -/
def change (f : σ → σ) : Prog ε σ Unit :=
  ExceptT.mk fun s => (.ok (), f s)

/-- A program over a component of the state. -/
def zoom {τ : Type} (view : τ → σ) (put : τ → σ → τ) (c : Prog ε σ α) : Prog ε τ α :=
  ExceptT.mk fun t => ((exec c (view t)).1, put t (exec c (view t)).2)

/-- `for x in xs: f x`. -/
def each (xs : List β) (f : β → Prog ε σ Unit) : Prog ε σ Unit :=
  match xs with
  | [] => pure ()
  | x :: xs => do
    f x
    each xs f

/-! ### Execution -/

variable {c : Prog ε σ α} {f : α → Prog ε σ β} {s s' : σ} {a : α} {e : ε}

@[simp] theorem exec_pure (a : α) (s : σ) : exec (pure a : Prog ε σ α) s = (.ok a, s) := rfl

@[simp] theorem exec_throw (e : ε) (s : σ) :
    exec (throw e : Prog ε σ α) s = (.error e, s) := rfl

theorem exec_bind (c : Prog ε σ α) (f : α → Prog ε σ β) (s : σ) :
    exec (c >>= f) s =
      match exec c s with
      | (.ok a, s') => exec (f a) s'
      | (.error e, s') => (.error e, s') := by
  show ExceptT.run (ExceptT.bind c f) s = _
  rcases h : exec c s with ⟨r, s'⟩
  have h' : c s = (r, s') := h
  show ExceptT.bindCont f (c s).1 (c s).2 = _
  rw [h']
  cases r <;> rfl

theorem exec_bind_ok (h : exec c s = (.ok a, s')) : exec (c >>= f) s = exec (f a) s' := by
  rw [exec_bind, h]

theorem exec_bind_error (h : exec c s = (.error e, s')) :
    exec (c >>= f) s = (.error e, s') := by
  rw [exec_bind, h]

theorem exec_catching (c : Prog ε σ α) (handler : ε → Prog ε σ α) (s : σ) :
    exec (catching c handler) s =
      match exec c s with
      | (.ok a, s') => (.ok a, s')
      | (.error e, s') => exec (handler e) s' := by
  rcases h : exec c s with ⟨r, s'⟩
  have h' : c s = (r, s') := h
  simp only [catching, tryCatch, tryCatchThe, MonadExceptOf.tryCatch, ExceptT.tryCatch, ExceptT.mk,
    bind, StateT.bind, h', exec, ExceptT.run]
  cases r <;> rfl

@[simp] theorem exec_atomic_ok {tx : σ → Except ε (α × σ)} (h : tx s = .ok (a, s')) :
    exec (atomic tx) s = (.ok a, s') := by
  simp [exec, atomic, ExceptT.run, ExceptT.mk, h]

@[simp] theorem exec_atomic_error {tx : σ → Except ε (α × σ)} (h : tx s = .error e) :
    exec (atomic tx) s = (.error e, s) := by
  simp [exec, atomic, ExceptT.run, ExceptT.mk, h]

@[simp] theorem exec_atomically_ok {tx : σ → Except ε σ} (h : tx s = .ok s') :
    exec (atomically tx) s = (.ok (), s') :=
  exec_atomic_ok (by rw [h]; rfl)

@[simp] theorem exec_atomically_error {tx : σ → Except ε σ} (h : tx s = .error e) :
    exec (atomically tx) s = (.error e, s) :=
  exec_atomic_error (by rw [h]; rfl)

@[simp] theorem exec_known (r : Except ε α) (s : σ) : exec (known r) s = (r, s) := rfl

@[simp] theorem exec_change (f : σ → σ) (s : σ) :
    exec (change f : Prog ε σ Unit) s = (.ok (), f s) := rfl

@[simp] theorem exec_zoom {τ : Type} (view : τ → σ) (put : τ → σ → τ) (c : Prog ε σ α) (t : τ) :
    exec (zoom view put c) t = ((exec c (view t)).1, put t (exec c (view t)).2) := rfl

/-! ### Triples -/

/-- From `P`, a normal exit satisfies `Q` and an exceptional exit `E`. -/
def Triple (P : σ → Prop) (c : Prog ε σ α) (Q : α → σ → Prop) (E : ε → σ → Prop) : Prop :=
  ∀ s, P s →
    match exec c s with
    | (.ok a, s') => Q a s'
    | (.error e, s') => E e s'

section Rules

variable {P P' : σ → Prop} {Q Q' : α → σ → Prop} {R : β → σ → Prop} {E E' : ε → σ → Prop}

theorem Triple.conseq (h : Triple P c Q E) (hP : ∀ s, P' s → P s)
    (hQ : ∀ a s, Q a s → Q' a s) (hE : ∀ e s, E e s → E' e s) : Triple P' c Q' E' := by
  intro s hs
  have := h s (hP s hs)
  rcases hx : exec c s with ⟨r | a, s'⟩
  · rw [hx] at this
    exact hE _ _ this
  · rw [hx] at this
    exact hQ _ _ this

theorem Triple.pure (h : ∀ s, P s → Q a s) : Triple P (pure a) Q E :=
  fun s hs => h s hs

theorem Triple.throw {α : Type} {Q : α → σ → Prop} (h : ∀ s, P s → E e s) :
    Triple P (throw e : Prog ε σ α) Q E :=
  fun s hs => h s hs

theorem Triple.bind (hc : Triple P c Q E) (hf : ∀ a, Triple (Q a) (f a) R E) :
    Triple P (c >>= f) R E := by
  intro s hs
  have hq := hc s hs
  rw [exec_bind]
  rcases hx : exec c s with ⟨r | a, s'⟩
  · rw [hx] at hq
    exact hq
  · rw [hx] at hq
    exact hf a s' hq

theorem Triple.catching {handler : ε → Prog ε σ α} (hc : Triple P c Q E)
    (hh : ∀ e, Triple (E e) (handler e) Q E') : Triple P (catching c handler) Q E' := by
  intro s hs
  have hq := hc s hs
  rw [exec_catching]
  rcases hx : exec c s with ⟨r | a, s'⟩
  · rw [hx] at hq
    exact hh r s' hq
  · rw [hx] at hq
    exact hq

theorem Triple.known {r : Except ε α} (hok : ∀ a, r = .ok a → ∀ s, P s → Q a s)
    (herr : ∀ e, r = .error e → ∀ s, P s → E e s) : Triple P (known r) Q E := by
  intro s hs
  rw [exec_known]
  rcases hr : r with e | a
  · exact herr e hr s hs
  · exact hok a hr s hs

theorem Triple.change {g : σ → σ} {Q : Unit → σ → Prop} (h : ∀ s, P s → Q () (g s)) :
    Triple P (change g) Q E :=
  fun s hs => h s hs

theorem Triple.ite {p : Prop} [Decidable p] {d : Prog ε σ α} (ht : p → Triple P c Q E)
    (hf : ¬p → Triple P d Q E) : Triple P (if p then c else d) Q E := by
  split
  · exact ht ‹p›
  · exact hf ‹¬p›

/-- A fact of the precondition that does not depend on the state. -/
theorem Triple.of_fact {p : Prop} (h : p → Triple P c Q E) :
    Triple (fun s => p ∧ P s) c Q E :=
  fun s hs => h hs.1 s hs.2

/-- A transaction, when a rolled back one keeps `P` and `P` is enough for `E`. -/
theorem Triple.atomic {tx : σ → Except ε (α × σ)}
    (hok : ∀ s a s', P s → tx s = .ok (a, s') → Q a s') (herr : ∀ e s, P s → E e s) :
    Triple P (atomic tx) Q E := by
  intro s hs
  rcases htx : tx s with e | ⟨a, s'⟩
  · rw [exec_atomic_error htx]
    exact herr e s hs
  · rw [exec_atomic_ok htx]
    exact hok s a s' hs htx

/-- The loop rule: `I rest` holds before the rest of the list is processed. -/
theorem Triple.each {I : List β → σ → Prop} {g : β → Prog ε σ Unit} {xs : List β}
    (h : ∀ x rest, x ∈ xs → Triple (I (x :: rest)) (g x) (fun _ => I rest) E) :
    Triple (I xs) (each xs g) (fun _ => I []) E := by
  induction xs with
  | nil => exact Triple.pure fun s hs => hs
  | cons x xs ih =>
    refine Triple.bind (h x xs List.mem_cons_self) fun _ => ih fun y rest hy => ?_
    exact h y rest (List.mem_cons_of_mem x hy)

/-- A program over a component, when every exit of it keeps `P'`. -/
theorem Triple.zoom {τ : Type} {view : τ → σ} {put : τ → σ → τ} {P P' : τ → Prop}
    (h : ∀ t, P t → P' (put t (exec c (view t)).2)) :
    Triple P (zoom view put c) (fun _ => P') (fun _ => P') := by
  intro t ht
  have hput := h t ht
  rw [exec_zoom]
  rcases hx : exec c (view t) with ⟨r | a, s'⟩ <;> rw [hx] at hput <;> exact hput

end Rules

/-! ### Relations between start and exit -/

/-- Every exit of `c` is related to its start. -/
def Within (R : σ → σ → Prop) (c : Prog ε σ α) : Prop :=
  ∀ s, R s (exec c s).2

section WithinRules

variable {R : σ → σ → Prop}

theorem Within.pure (hrefl : ∀ s, R s s) (a : α) : Within R (pure a : Prog ε σ α) :=
  fun s => hrefl s

theorem Within.atomic (hrefl : ∀ s, R s s) {tx : σ → Except ε (α × σ)}
    (h : ∀ s a s', tx s = .ok (a, s') → R s s') : Within R (atomic tx) := by
  intro s
  rcases htx : tx s with e | ⟨a, s'⟩
  · rw [exec_atomic_error htx]
    exact hrefl s
  · rw [exec_atomic_ok htx]
    exact h s a s' htx

theorem Within.atomically (hrefl : ∀ s, R s s) {tx : σ → Except ε σ}
    (h : ∀ s s', tx s = .ok s' → R s s') : Within R (atomically tx) := by
  intro s
  rcases htx : tx s with e | s'
  · rw [exec_atomically_error htx]
    exact hrefl s
  · rw [exec_atomically_ok htx]
    exact h s s' htx

theorem Within.change {f : σ → σ} (h : ∀ s, R s (f s)) : Within R (change f : Prog ε σ Unit) :=
  fun s => h s

theorem Within.bind (htrans : ∀ s t u, R s t → R t u → R s u) (hc : Within R c)
    (hf : ∀ a, Within R (f a)) : Within R (c >>= f) := by
  intro s
  have h := hc s
  rw [exec_bind]
  rcases hx : exec c s with ⟨r | a, s'⟩
  · rw [hx] at h
    exact h
  · rw [hx] at h
    exact htrans _ _ _ h (hf a s')

theorem Within.known (hrefl : ∀ s, R s s) (r : Except ε α) : Within R (known r : Prog ε σ α) :=
  fun s => hrefl s

theorem Within.catching (htrans : ∀ s t u, R s t → R t u → R s u) {handler : ε → Prog ε σ α}
    (hc : Within R c) (hh : ∀ e, Within R (handler e)) : Within R (catching c handler) := by
  intro s
  have h := hc s
  rw [exec_catching]
  rcases hx : exec c s with ⟨e | a, s'⟩
  · rw [hx] at h
    exact htrans _ _ _ h (hh e s')
  · rw [hx] at h
    exact h

theorem Within.ite {d : Prop} [Decidable d] {c' : Prog ε σ α} (ht : Within R c)
    (hf : Within R c') : Within R (if d then c else c') := by
  split
  · exact ht
  · exact hf

theorem Within.each (hrefl : ∀ s, R s s) (htrans : ∀ s t u, R s t → R t u → R s u)
    {g : β → Prog ε σ Unit} {xs : List β} (h : ∀ x ∈ xs, Within R (g x)) :
    Within R (each xs g) := by
  induction xs with
  | nil => exact Within.pure hrefl ()
  | cons x xs ih =>
    exact Within.bind htrans (h x List.mem_cons_self)
      fun _ => ih fun y hy => h y (List.mem_cons_of_mem x hy)

end WithinRules

/-! ### Normal returns -/

/-- `c` returns normally exactly when `p` holds, whatever state it starts from. -/
def Returns (c : Prog ε σ α) (p : Prop) : Prop :=
  ∀ s, (exec c s).1.isOk = true ↔ p

section ReturnsRules

variable {p q : Prop}

theorem Returns.congr (h : Returns c p) (hpq : p ↔ q) : Returns c q :=
  fun s => (h s).trans hpq

theorem Returns.pure (a : α) : Returns (pure a : Prog ε σ α) True :=
  fun _ => iff_true_intro rfl

theorem Returns.change (g : σ → σ) : Returns (change g : Prog ε σ Unit) True :=
  fun _ => iff_true_intro rfl

theorem Returns.known (r : Except ε α) : Returns (known r : Prog ε σ α) (r.isOk = true) :=
  fun _ => Iff.rfl

theorem Returns.bind (hc : Returns c p) (hf : ∀ a, Returns (f a) q) :
    Returns (c >>= f) (p ∧ q) := by
  intro s
  have h := hc s
  rw [exec_bind]
  rcases hx : exec c s with ⟨e | a, s'⟩ <;> rw [hx] at h
  · have hp : ¬p := fun hp => Bool.noConfusion (h.mpr hp)
    exact ⟨fun hb => Bool.noConfusion hb, fun hpq => absurd hpq.1 hp⟩
  · have hp : p := h.mp rfl
    exact (hf a s').trans ⟨fun hq => ⟨hp, hq⟩, fun hpq => hpq.2⟩

/-- A known value decides how the program goes on. -/
theorem Returns.known_bind {r : Except ε α} {q : α → Prop} (hf : ∀ a, Returns (f a) (q a)) :
    Returns (Prog.known r >>= f) (∃ a, r = .ok a ∧ q a) := by
  intro s
  rcases r with e | a
  · constructor
    · exact fun hb => Bool.noConfusion hb
    · rintro ⟨a, ha, -⟩
      cases ha
  · apply (hf a s).trans
    constructor
    · exact fun hq => ⟨a, rfl, hq⟩
    · rintro ⟨b, hb, hq⟩
      cases hb
      exact hq

theorem Returns.catching {handler : ε → Prog ε σ α} (hc : Returns c p)
    (hh : ∀ e, Returns (handler e) q) : Returns (catching c handler) (p ∨ q) := by
  intro s
  have h := hc s
  rw [exec_catching]
  rcases hx : exec c s with ⟨e | a, s'⟩ <;> rw [hx] at h
  · have hp : ¬p := fun hp => Bool.noConfusion (h.mpr hp)
    exact (hh e s').trans ⟨Or.inr, fun hpq => hpq.resolve_left hp⟩
  · have hp : p := h.mp rfl
    exact ⟨fun _ => .inl hp, fun _ => rfl⟩

theorem Returns.ite {d : Prop} [Decidable d] {c' : Prog ε σ α} (ht : Returns c p)
    (hf : Returns c' q) : Returns (if d then c else c') (if d then p else q) := by
  split
  · exact ht
  · exact hf

theorem Returns.each {g : β → Prog ε σ Unit} {P : β → Prop} {xs : List β}
    (h : ∀ x ∈ xs, Returns (g x) (P x)) : Returns (each xs g) (∀ x ∈ xs, P x) := by
  induction xs with
  | nil => exact (Returns.pure ()).congr (by simp)
  | cons x xs ih =>
    have hx := h x List.mem_cons_self
    have hxs := ih fun y hy => h y (List.mem_cons_of_mem x hy)
    exact (hx.bind fun _ => hxs).congr List.forall_mem_cons.symm

end ReturnsRules

end Prog

end Sda
