/-
Sda/Lib/Decimal.lean

Decimal rounding of exact rationals, the way Python rounds.

`roundHalfEven` is `round` and `Decimal.quantize` at their default: to the nearest integer, and of
two that are equally near to the even one; `Nearest` says so and determines it.  `truncate` is
`int`.  Amounts of money are rounded to whole cents, by `toCents` or upwards by `ceilCents`.
-/
import Mathlib.Data.Rat.Floor
import Mathlib.Tactic.Linarith
import Mathlib.Tactic.FieldSimp

namespace Sda

/-! ### To integers -/

/-- The nearest integer, of two that are equally near the even one. -/
def roundHalfEven (q : ℚ) : ℤ :=
  if q - ⌊q⌋ < 1 / 2 then ⌊q⌋
  else if 1 / 2 < q - ⌊q⌋ then ⌊q⌋ + 1
  else if ⌊q⌋ % 2 = 0 then ⌊q⌋ else ⌊q⌋ + 1

/-- `n` is the nearest integer, or of two that are equally near the even one. -/
def Nearest (q : ℚ) (n : ℤ) : Prop :=
  |q - n| < 1 / 2 ∨ |q - n| = 1 / 2 ∧ n % 2 = 0

/-- Towards zero. -/
def truncate (q : ℚ) : ℤ := if 0 ≤ q then ⌊q⌋ else ⌈q⌉

variable {q r : ℚ} {m n : ℤ}

theorem nearest_roundHalfEven (q : ℚ) : Nearest q (roundHalfEven q) := by
  have hle : (⌊q⌋ : ℚ) ≤ q := Int.floor_le q
  have hlt : q < ⌊q⌋ + 1 := Int.lt_floor_add_one q
  unfold roundHalfEven
  split
  · next hlow =>
    left
    rw [abs_lt]
    constructor <;> linarith
  · next hlow =>
    split
    · next hhigh =>
      left
      push_cast
      rw [abs_lt]
      constructor <;> linarith
    · next hhigh =>
      -- exactly between two integers
      have hhalf : q - ⌊q⌋ = 1 / 2 := le_antisymm (not_lt.mp hhigh) (not_lt.mp hlow)
      right
      split
      · next heven =>
        refine ⟨?_, heven⟩
        rw [hhalf, abs_of_pos (by norm_num)]
      · next hodd =>
        refine ⟨?_, by omega⟩
        push_cast
        rw [show q - (⌊q⌋ + 1) = -(1 / 2) by linarith, abs_neg, abs_of_pos (by norm_num)]

theorem Nearest.near (h : Nearest q n) : |q - n| ≤ 1 / 2 :=
  h.elim le_of_lt fun h => h.1.le

/-- Two integers as near as that are at most one apart. -/
theorem Nearest.unique (hm : Nearest q m) (hn : Nearest q n) : m = n := by
  have hm' := abs_le.mp hm.near
  have hn' := abs_le.mp hn.near
  have hdist : m - n ≤ 1 ∧ n - m ≤ 1 := by
    constructor
    · have h : ((m - n : ℤ) : ℚ) ≤ 1 := by push_cast; linarith [hm'.1, hn'.2]
      exact_mod_cast h
    · have h : ((n - m : ℤ) : ℚ) ≤ 1 := by push_cast; linarith [hn'.1, hm'.2]
      exact_mod_cast h
  by_contra hne
  -- a whole step apart, `q` is half way between, and both would be even
  have hstep : m = n + 1 ∨ n = m + 1 := by omega
  have hhalf : ∀ {a b : ℤ}, Nearest q a → Nearest q b → a = b + 1 → a % 2 = 0 ∧ b % 2 = 0 := by
    intro a b ha hb hab
    have ha' := abs_le.mp ha.near
    have hb' := abs_le.mp hb.near
    have hcast : (a : ℚ) = b + 1 := by exact_mod_cast hab
    refine ⟨(ha.resolve_left ?_).2, (hb.resolve_left ?_).2⟩
    · intro hlt
      linarith [(abs_lt.mp hlt).1, hb'.2]
    · intro hlt
      linarith [(abs_lt.mp hlt).2, ha'.1]
  rcases hstep with h | h
  · have := hhalf hm hn h
    omega
  · have := hhalf hn hm h
    omega

theorem roundHalfEven_eq_iff : roundHalfEven q = n ↔ Nearest q n :=
  ⟨fun h => h ▸ nearest_roundHalfEven q, (nearest_roundHalfEven q).unique⟩

@[simp] theorem roundHalfEven_intCast (n : ℤ) : roundHalfEven n = n := by
  rw [roundHalfEven_eq_iff]
  left
  simp

/-- Rounding does not pass an integer. -/
theorem le_roundHalfEven (h : (n : ℚ) ≤ q) : n ≤ roundHalfEven q := by
  have hnear := abs_le.mp (nearest_roundHalfEven q).near
  by_contra hlt
  have hstep : roundHalfEven q + 1 ≤ n := by omega
  have hstep' : (roundHalfEven q : ℚ) + 1 ≤ n := by exact_mod_cast hstep
  linarith [hnear.2]

theorem truncate_of_nonneg (h : 0 ≤ q) : truncate q = ⌊q⌋ := if_pos h

/-- Below zero, truncation goes up. -/
theorem le_truncate_of_neg (h : q < 0) : q ≤ truncate q := by
  rw [truncate, if_neg (not_le.mpr h)]
  exact Int.le_ceil q

/-! ### To cents -/

/-- `round(q, 2)`, or `q.quantize(Decimal('0.01'))`. -/
def toCents (q : ℚ) : ℚ := roundHalfEven (q * 100) / 100

/-- `math.ceil(q * 100) / 100` -/
def ceilCents (q : ℚ) : ℚ := ⌈q * 100⌉ / 100

/-- A number of cents. -/
def WholeCents (q : ℚ) : Prop := ∃ n : ℤ, q = n / 100

theorem wholeCents_toCents (q : ℚ) : WholeCents (toCents q) := ⟨_, rfl⟩

theorem wholeCents_ceilCents (q : ℚ) : WholeCents (ceilCents q) := ⟨_, rfl⟩

theorem toCents_of_wholeCents (h : WholeCents q) : toCents q = q := by
  obtain ⟨n, rfl⟩ := h
  have hmul : (n : ℚ) / 100 * 100 = n := by field_simp
  rw [toCents, hmul, roundHalfEven_intCast]

/-- A number of cents is what rounding leaves alone. -/
theorem toCents_eq_self_iff : toCents q = q ↔ WholeCents q :=
  ⟨fun h => h ▸ wholeCents_toCents q, toCents_of_wholeCents⟩

theorem toCents_eq_iff : toCents q = n / 100 ↔ Nearest (q * 100) n := by
  rw [← roundHalfEven_eq_iff, toCents, div_left_inj' (by norm_num), Int.cast_inj]

/-- Two amounts round to the same cents. -/
theorem toCents_eq_toCents_iff :
    toCents q = toCents r ↔ ∃ n, Nearest (q * 100) n ∧ Nearest (r * 100) n := by
  constructor
  · intro h
    exact ⟨_, nearest_roundHalfEven _, toCents_eq_iff.mp h.symm⟩
  · rintro ⟨n, hq, hr⟩
    rw [toCents_eq_iff.mpr hq, toCents_eq_iff.mpr hr]

theorem le_toCents (hr : WholeCents r) (h : r ≤ q) : r ≤ toCents q := by
  obtain ⟨n, rfl⟩ := hr
  have hmul : (n : ℚ) ≤ q * 100 := by linarith
  have hle : (n : ℚ) ≤ roundHalfEven (q * 100) := by exact_mod_cast le_roundHalfEven hmul
  rw [toCents]
  linarith

theorem le_ceilCents (q : ℚ) : q ≤ ceilCents q := by
  have := Int.le_ceil (q * 100)
  rw [ceilCents]
  linarith

/-- An amount reaches a number of cents when rounded up exactly when it is more than one cent
less. -/
theorem le_ceilCents_iff (n : ℤ) : (n : ℚ) / 100 ≤ ceilCents q ↔ (n - 1 : ℚ) / 100 < q := by
  have hceil : n ≤ ⌈q * 100⌉ ↔ (n - 1 : ℚ) < q * 100 := by
    rw [show n ≤ ⌈q * 100⌉ ↔ n - 1 < ⌈q * 100⌉ by omega, Int.lt_ceil]
    push_cast
    rfl
  rw [ceilCents, div_le_div_iff_of_pos_right (by norm_num), Int.cast_le, hceil]
  constructor <;> intro h <;> linarith

end Sda
