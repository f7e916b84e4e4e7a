/-
Sda/Pipeline/Pricing.lean

The price of a listing (payload_pipeline, pricing/rules.py), over exact rationals.

`calculate_price` multiplies, rounds up to cents and applies the floor; a forced ending then
replaces everything behind the point.  That can undo the floor: 10.75 with the ending .50 is
10.50.  `atLeast_iff` says when it does not.
-/
import Sda.Lib.Decimal
import Mathlib.Tactic.NormNum

namespace Sda.Pipeline

/-- **`PricingRule`** -/
structure PricingRule where
  /-- `price <= 10` -/
  multiplierLow : ℚ := 2
  /-- `10 < price <= 100` -/
  multiplierMid : ℚ := 2
  /-- `price > 100` -/
  multiplierHigh : ℚ := 2
  minPrice : ℚ := 0
  forcedEnding : Option ℚ := none
  deriving DecidableEq, Repr

/-- **`select_multiplier`** -/
def PricingRule.selectMultiplier (rule : PricingRule) (rawPrice : ℚ) : ℚ :=
  if rawPrice ≤ 10 then rule.multiplierLow
  else if rawPrice ≤ 100 then rule.multiplierMid
  else rule.multiplierHigh

/-- The price before the ending: multiplied, in cents, and not below the floor. -/
def PricingRule.floored (rule : PricingRule) (rawPrice : ℚ) : ℚ :=
  max (toCents (ceilCents (rawPrice * rule.selectMultiplier rawPrice))) rule.minPrice

/-- **`calculate_price`** -/
def calculatePrice (rawPrice : ℚ) : Option PricingRule → ℚ
  | none => rawPrice
  | some rule =>
    match rule.forcedEnding with
    | none => rule.floored rawPrice
    | some ending => truncate (rule.floored rawPrice) + ending

/-- **`_apply_pricing`**: `ctx.pricing_rules` is no dict, or maps marketplaces to rules. -/
def applyPricing (marketplace : String) (rawPrice : ℚ)
    (pricingRules : Option (String → Option PricingRule)) : ℚ :=
  match pricingRules with
  | none => rawPrice
  | some rules => calculatePrice rawPrice (rules marketplace)

/-- What a rule stands for: a price that is not below its minimum nor below the multiplied one,
with the ending it forces. -/
structure PricingRule.Respected (rule : PricingRule) (rawPrice price : ℚ) : Prop where
  floor : rule.minPrice ≤ price
  multiplied : rawPrice * rule.selectMultiplier rawPrice ≤ price
  ending : ∀ ending, rule.forcedEnding = some ending → Int.fract price = ending

/-- The higher of the two bounds a rule sets. -/
def PricingRule.bound (rule : PricingRule) (rawPrice : ℚ) : ℚ :=
  max (rawPrice * rule.selectMultiplier rawPrice) rule.minPrice

/-- A forced ending does not lie below the bound: the bound is negative, or the ending is not
below its decimals, or rounding up to cents reaches the next whole number. -/
def PricingRule.EndingFits (rule : PricingRule) (rawPrice : ℚ) : Prop :=
  ∀ ending, rule.forcedEnding = some ending →
    rule.bound rawPrice < 0 ∨ Int.fract (rule.bound rawPrice) ≤ ending ∨
      ⌊rule.bound rawPrice⌋ + 99 / 100 < rawPrice * rule.selectMultiplier rawPrice

variable {rule : PricingRule} {rawPrice ending : ℚ}

theorem floored_eq (rule : PricingRule) (rawPrice : ℚ) :
    rule.floored rawPrice =
      max (ceilCents (rawPrice * rule.selectMultiplier rawPrice)) rule.minPrice := by
  rw [PricingRule.floored, toCents_of_wholeCents (wholeCents_ceilCents _)]

/-- Before the ending, both bounds are met. -/
theorem bound_le_floored (rule : PricingRule) (rawPrice : ℚ) :
    rule.bound rawPrice ≤ rule.floored rawPrice := by
  rw [floored_eq]
  exact max_le_max (le_ceilCents _) (le_refl _)

/-- The price reaches the whole number after the bound only by the rounding to cents. -/
theorem succ_le_floored_iff :
    (⌊rule.bound rawPrice⌋ + 1 : ℚ) ≤ rule.floored rawPrice ↔
      ⌊rule.bound rawPrice⌋ + 99 / 100 < rawPrice * rule.selectMultiplier rawPrice := by
  have hmin : ¬ (⌊rule.bound rawPrice⌋ + 1 : ℚ) ≤ rule.minPrice := by
    have hlt := Int.lt_floor_add_one (rule.bound rawPrice)
    have hle : rule.minPrice ≤ rule.bound rawPrice := le_max_right _ _
    intro h
    linarith
  have hceil := le_ceilCents_iff (q := rawPrice * rule.selectMultiplier rawPrice)
    ((⌊rule.bound rawPrice⌋ + 1) * 100)
  have hcents : (((⌊rule.bound rawPrice⌋ + 1) * 100 : ℤ) : ℚ) / 100 =
      ⌊rule.bound rawPrice⌋ + 1 := by
    push_cast
    field_simp
  have hbelow : ((((⌊rule.bound rawPrice⌋ + 1) * 100 : ℤ) : ℚ) - 1) / 100 =
      ⌊rule.bound rawPrice⌋ + 99 / 100 := by
    push_cast
    ring
  rw [hcents, hbelow] at hceil
  rw [floored_eq, le_max_iff, or_iff_left hmin, hceil]

/-- The ending replaces everything behind the point. -/
theorem bound_le_ending_iff (hending : 0 ≤ ending) :
    rule.bound rawPrice ≤ truncate (rule.floored rawPrice) + ending ↔
      rule.bound rawPrice < 0 ∨ Int.fract (rule.bound rawPrice) ≤ ending ∨
        ⌊rule.bound rawPrice⌋ + 99 / 100 < rawPrice * rule.selectMultiplier rawPrice := by
  have hle := bound_le_floored rule rawPrice
  by_cases hneg : rule.bound rawPrice < 0
  · refine iff_of_true ?_ (Or.inl hneg)
    by_cases hfloored : rule.floored rawPrice < 0
    · have := le_truncate_of_neg hfloored
      linarith
    · have hpos : 0 ≤ rule.floored rawPrice := not_lt.mp hfloored
      have hzero : (0 : ℚ) ≤ ⌊rule.floored rawPrice⌋ := by exact_mod_cast Int.floor_nonneg.mpr hpos
      rw [truncate_of_nonneg hpos]
      linarith
  · have hpos : 0 ≤ rule.floored rawPrice := (not_lt.mp hneg).trans hle
    have hfract := Int.floor_add_fract (rule.bound rawPrice)
    rw [truncate_of_nonneg hpos, or_iff_right hneg, ← succ_le_floored_iff]
    by_cases hnext : (⌊rule.bound rawPrice⌋ + 1 : ℚ) ≤ rule.floored rawPrice
    · refine iff_of_true ?_ (Or.inr hnext)
      have hfloor : ⌊rule.bound rawPrice⌋ + 1 ≤ ⌊rule.floored rawPrice⌋ :=
        Int.le_floor.mpr (by push_cast; exact hnext)
      have hcast : (⌊rule.bound rawPrice⌋ : ℚ) + 1 ≤ ⌊rule.floored rawPrice⌋ := by
        exact_mod_cast hfloor
      linarith [Int.lt_floor_add_one (rule.bound rawPrice)]
    · -- the whole number before the point is that of the bound
      have hsame : ⌊rule.floored rawPrice⌋ = ⌊rule.bound rawPrice⌋ := by
        apply le_antisymm
        · apply Int.lt_add_one_iff.mp
          apply Int.floor_lt.mpr
          push_cast
          exact not_le.mp hnext
        · exact Int.floor_le_floor hle
      rw [or_iff_left hnext, hsame]
      constructor <;> intro h <;> linarith

/-- **The floor of a rule.**  The price respects the rule exactly when its forced ending fits. -/
theorem calculatePrice_respected_iff (rule : PricingRule) (rawPrice : ℚ)
    (hending : ∀ ending, rule.forcedEnding = some ending → 0 ≤ ending ∧ ending < 1) :
    rule.Respected rawPrice (calculatePrice rawPrice (some rule)) ↔ rule.EndingFits rawPrice := by
  cases hforced : rule.forcedEnding with
  | none =>
    have hprice : calculatePrice rawPrice (some rule) = rule.floored rawPrice := by
      simp only [calculatePrice, hforced]
    have hboth := max_le_iff.mp (bound_le_floored rule rawPrice)
    rw [hprice]
    refine iff_of_true ⟨hboth.2, hboth.1, ?_⟩ ?_
    · simp [hforced]
    · simp [PricingRule.EndingFits, hforced]
  | some ending =>
    obtain ⟨hlow, hhigh⟩ := hending ending hforced
    have hprice : calculatePrice rawPrice (some rule) =
        truncate (rule.floored rawPrice) + ending := by
      simp only [calculatePrice, hforced]
    have hfits : rule.EndingFits rawPrice ↔
        rule.bound rawPrice ≤ truncate (rule.floored rawPrice) + ending := by
      rw [bound_le_ending_iff hlow, PricingRule.EndingFits, hforced]
      simp only [Option.some.injEq, forall_eq']
    rw [hprice, hfits]
    constructor
    · intro h
      exact max_le h.multiplied h.floor
    · intro h
      refine ⟨(le_max_right _ _).trans h, (le_max_left _ _).trans h, ?_⟩
      intro ending' hending'
      rw [hforced] at hending'
      cases hending'
      rw [Int.fract_intCast_add]
      exact Int.fract_eq_self.mpr ⟨hlow, hhigh⟩

/-- Twice five with the ending .99. -/
theorem calculatePrice_respected_five :
    PricingRule.Respected { forcedEnding := some 0.99 } 5
      (calculatePrice 5 (some { forcedEnding := some 0.99 })) := by
  apply (calculatePrice_respected_iff { forcedEnding := some 0.99 } 5 ?_).mpr
  · intro ending hending
    cases hending
    right
    left
    have hbound : PricingRule.bound { forcedEnding := some 0.99 } 5 = (10 : ℤ) := by
      norm_num [PricingRule.bound, PricingRule.selectMultiplier]
    rw [hbound, Int.fract_intCast]
    norm_num
  · intro ending hending
    cases hending
    norm_num

/-- A floor of 10.75 and the ending .50 make a price of 10.50. -/
theorem calculatePrice_below_floor :
    ¬ ∀ (rule : PricingRule) (rawPrice : ℚ), 0 < rawPrice →
      (∀ ending, rule.forcedEnding = some ending → 0 ≤ ending ∧ ending < 1) →
      rule.Respected rawPrice (calculatePrice rawPrice (some rule)) := by
  intro h
  have hrespected := h { minPrice := 10.75, forcedEnding := some 0.5 } 5 (by norm_num) (by
    intro ending hending
    cases hending
    norm_num)
  have hprice : calculatePrice 5 (some { minPrice := 10.75, forcedEnding := some 0.5 }) = 10.5 := by
    decide +kernel
  have hfloor := hrespected.floor
  rw [hprice] at hfloor
  norm_num at hfloor

end Sda.Pipeline
