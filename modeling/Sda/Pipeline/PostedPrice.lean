/-
Sda/Pipeline/PostedPrice.lean

The price of a dropship offer, computed twice.

The builder of a marketplace puts a price into the payload (marketplaces/*.py, and the builders of
single games that have their own); `_attempt_post` computes one for the `Listing`, for the case
that the response names none.  Both start from `calculate_price`.  The poster then applies the
exchange rate whatever the marketplace, while only GameBoost and U7Buy do; and it knows none of the
minimums, roundings and endings of the builders.
-/
import Sda.Pipeline.Pricing

namespace Sda.Pipeline

/-! ### The payload -/

/-- The builders, by what they do with a price. -/
inductive Builder
  /-- `BaseEldoradoBuilder` -/
  | eldorado
  /-- `BaseGameBoostBuilder`, and the item builders of two games -/
  | gameboost
  /-- the GameBoost builder of Fortnite -/
  | gameboostFortnite
  /-- `BaseG2GBuilder` -/
  | g2g
  /-- the G2G builders of CS2, Steam, Roblox and Fortnite -/
  | g2gUnrounded
  /-- `BasePlayerAuctionsBuilder`, both payloads -/
  | playerauctions
  /-- `U7BuyAccountBuilder` -/
  | u7buy
  deriving DecidableEq, Repr

def Builder.marketplace : Builder → String
  | .eldorado => "eldorado"
  | .gameboost | .gameboostFortnite => "gameboost"
  | .g2g | .g2gUnrounded => "g2g"
  | .playerauctions => "playerauctions"
  | .u7buy => "u7buy"

/-- The pricing rules of **`build_context`**. -/
def contextRules (marketplace : String) (rule : PricingRule) :
    Option (String → Option PricingRule) :=
  some fun m => if m = marketplace then some rule else none

/-- `round(max(price, lowest), 2)` -/
def roundedAbove (lowest price : ℚ) : ℚ := toCents (max price lowest)

/-- The price of the base builder for GameBoost. -/
def gameboostPrice (price : ℚ) : Option ℚ → ℚ
  | none => price
  | some exchangeRate => toCents (price * exchangeRate)

/-- The price of U7Buy's builder, which has its own rule. -/
def u7buyPrice (rawPrice : ℚ) (rule : PricingRule) (exchangeRate : Option ℚ) : ℚ :=
  let price := max (rawPrice * rule.multiplierLow) rule.minPrice
  match exchangeRate with
  | none => toCents price
  -- a rate of zero is no rate
  | some exchangeRate => toCents (if exchangeRate = 0 then price else price * exchangeRate)

/-- **The price in the payload** of a source item. -/
def Builder.sentPrice (b : Builder) (rawPrice : ℚ) (rule : PricingRule)
    (exchangeRate : Option ℚ) : ℚ :=
  let price := applyPricing b.marketplace rawPrice (contextRules b.marketplace rule)
  match b with
  | .eldorado | .g2g => roundedAbove 0.1 price
  | .gameboost => gameboostPrice price exchangeRate
  | .gameboostFortnite => truncate (gameboostPrice price exchangeRate) + 0.99
  | .g2gUnrounded => price
  | .playerauctions => roundedAbove 0.01 price
  | .u7buy => u7buyPrice rawPrice rule exchangeRate

/-! ### The record -/

/-- **The price `_attempt_post` records**, `confirmed` being the one in the response; an item
without a price is skipped. -/
def recordedPrice (rawPrice : ℚ) (rule : PricingRule) (exchangeRate confirmed : Option ℚ) :
    Option ℚ :=
  if rawPrice ≤ 0 then none
  else
    let finalPrice := calculatePrice rawPrice (some rule)
    let finalPrice := match exchangeRate with
      | none => finalPrice
      | some exchangeRate => toCents (finalPrice * exchangeRate)
    some (confirmed.getD finalPrice)

/-- When the two prices are one, `price` being the calculated one and `lowest` the minimum of a
builder that rounds. -/
def KeptAbove (lowest price : ℚ) : Option ℚ → Prop
  | none => lowest ≤ price ∧ WholeCents price
  | some exchangeRate =>
    ∃ cents, Nearest (price * exchangeRate * 100) cents ∧ Nearest (max price lowest * 100) cents

/-- The price already ends as Fortnite's builder lets it end. -/
def KeptEnding (price : ℚ) : Option ℚ → Prop
  | none => ∃ n : ℤ, 0 ≤ n ∧ price = n + 0.99
  | some exchangeRate => ∃ n : ℤ, 0 ≤ n ∧ Nearest (price * exchangeRate * 100) (n * 100 + 99)

/-- The exchange rate does not change the price. -/
def KeptUnrounded (price : ℚ) : Option ℚ → Prop
  | none => True
  | some exchangeRate =>
    ∃ cents : ℤ, price = cents / 100 ∧ Nearest (price * exchangeRate * 100) cents

/-- U7Buy's own rule comes to the same. -/
def KeptOwn (price own : ℚ) : Option ℚ → Prop
  | none => ∃ cents : ℤ, price = cents / 100 ∧ Nearest (own * 100) cents
  | some exchangeRate => ∃ cents, Nearest (price * exchangeRate * 100) cents ∧
      Nearest ((if exchangeRate = 0 then own else own * exchangeRate) * 100) cents

/-- When the price of the record is the price of the payload. -/
def Builder.Keeps (b : Builder) (rawPrice : ℚ) (rule : PricingRule) (exchangeRate : Option ℚ) :
    Prop :=
  let price := calculatePrice rawPrice (some rule)
  match b with
  | .eldorado | .g2g => KeptAbove 0.1 price exchangeRate
  | .gameboost => True
  | .gameboostFortnite => KeptEnding price exchangeRate
  | .g2gUnrounded => KeptUnrounded price exchangeRate
  | .playerauctions => KeptAbove 0.01 price exchangeRate
  | .u7buy => KeptOwn price (max (rawPrice * rule.multiplierLow) rule.minPrice) exchangeRate

/-! ### One builder after the other -/

variable {lowest price own : ℚ} {exchangeRate : Option ℚ}

/-- Every builder starts from the price of the poster. -/
theorem applyPricing_contextRules (marketplace : String) (rawPrice : ℚ) (rule : PricingRule) :
    applyPricing marketplace rawPrice (contextRules marketplace rule) =
      calculatePrice rawPrice (some rule) := by
  simp [applyPricing, contextRules]

/-- What the poster makes of the calculated price is what GameBoost's builder makes of it. -/
theorem recordedPrice_eq {rawPrice : ℚ} (h : 0 < rawPrice) (rule : PricingRule)
    (exchangeRate : Option ℚ) :
    recordedPrice rawPrice rule exchangeRate none =
      some (gameboostPrice (calculatePrice rawPrice (some rule)) exchangeRate) := by
  rw [recordedPrice, if_neg (not_le.mpr h)]
  cases exchangeRate with
  | none => rfl
  | some exchangeRate => rfl

theorem keptAbove_iff (hlowest : WholeCents lowest) :
    gameboostPrice price exchangeRate = roundedAbove lowest price ↔
      KeptAbove lowest price exchangeRate := by
  cases exchangeRate with
  | none =>
    show price = toCents (max price lowest) ↔ lowest ≤ price ∧ WholeCents price
    constructor
    · intro h
      constructor
      · rw [h]
        exact le_toCents hlowest (le_max_right _ _)
      · rw [h]
        exact wholeCents_toCents _
    · rintro ⟨hle, hwhole⟩
      rw [max_eq_left hle, toCents_of_wholeCents hwhole]
  | some exchangeRate => exact toCents_eq_toCents_iff

/-- A price is its whole part and .99. -/
theorem eq_truncate_add_iff : price = truncate price + 0.99 ↔ ∃ n : ℤ, 0 ≤ n ∧ price = n + 0.99 := by
  constructor
  · intro h
    by_cases hneg : price < 0
    · -- truncation went up
      have := le_truncate_of_neg hneg
      norm_num at h
      linarith
    · have hpos : 0 ≤ price := not_lt.mp hneg
      rw [truncate_of_nonneg hpos] at h
      exact ⟨⌊price⌋, Int.floor_nonneg.mpr hpos, h⟩
  · rintro ⟨n, hn, h⟩
    have hcast : (0 : ℚ) ≤ n := by exact_mod_cast hn
    have hpos : 0 ≤ price := by
      norm_num at h
      linarith
    have hfloor : ⌊price⌋ = n := by
      apply Int.floor_eq_iff.mpr
      norm_num at h
      constructor <;> linarith
    rw [truncate_of_nonneg hpos, hfloor]
    exact h

theorem keptEnding_iff :
    gameboostPrice price exchangeRate = truncate (gameboostPrice price exchangeRate) + 0.99 ↔
      KeptEnding price exchangeRate := by
  rw [eq_truncate_add_iff]
  cases exchangeRate with
  | none => rfl
  | some exchangeRate =>
    apply exists_congr
    intro n
    apply and_congr_right
    intro _
    have hcents : (n : ℚ) + 0.99 = ((n * 100 + 99 : ℤ) : ℚ) / 100 := by
      push_cast
      ring
    rw [hcents]
    exact toCents_eq_iff

theorem keptUnrounded_iff :
    gameboostPrice price exchangeRate = price ↔ KeptUnrounded price exchangeRate := by
  cases exchangeRate with
  | none => exact iff_of_true rfl trivial
  | some exchangeRate =>
    show toCents (price * exchangeRate) = price ↔ _
    constructor
    · intro h
      obtain ⟨cents, hcents⟩ : WholeCents price := h ▸ wholeCents_toCents _
      exact ⟨cents, hcents, toCents_eq_iff.mp (hcents ▸ h)⟩
    · rintro ⟨cents, hcents, hnear⟩
      rw [toCents_eq_iff.mpr hnear, hcents]

theorem keptOwn_iff {rawPrice : ℚ} {rule : PricingRule} :
    gameboostPrice price exchangeRate = u7buyPrice rawPrice rule exchangeRate ↔
      KeptOwn price (max (rawPrice * rule.multiplierLow) rule.minPrice) exchangeRate := by
  cases exchangeRate with
  | none =>
    show price = toCents (max (rawPrice * rule.multiplierLow) rule.minPrice) ↔ _
    constructor
    · intro h
      obtain ⟨cents, hcents⟩ : WholeCents price := h ▸ wholeCents_toCents _
      exact ⟨cents, hcents, toCents_eq_iff.mp (hcents ▸ h.symm)⟩
    · rintro ⟨cents, hcents, hnear⟩
      rw [toCents_eq_iff.mpr hnear, hcents]
  | some exchangeRate => exact toCents_eq_toCents_iff

/-- **The two prices.**  What the poster records of a posted item, the response naming no price, is
what the payload says exactly when the builder keeps it. -/
theorem recordedPrice_eq_sentPrice_iff (b : Builder) (rawPrice : ℚ) (rule : PricingRule)
    (exchangeRate : Option ℚ) (hposted : 0 < rawPrice) :
    recordedPrice rawPrice rule exchangeRate none = some (b.sentPrice rawPrice rule exchangeRate) ↔
      b.Keeps rawPrice rule exchangeRate := by
  rw [recordedPrice_eq hposted, Option.some.injEq]
  unfold Builder.sentPrice
  rw [applyPricing_contextRules]
  cases b with
  | eldorado => exact keptAbove_iff ⟨10, by norm_num⟩
  | gameboost => exact iff_of_true rfl trivial
  | gameboostFortnite => exact keptEnding_iff
  | g2g => exact keptAbove_iff ⟨10, by norm_num⟩
  | g2gUnrounded => exact keptUnrounded_iff
  | playerauctions => exact keptAbove_iff ⟨1, by norm_num⟩
  | u7buy => exact keptOwn_iff

/-- An account for 10 dollars on Eldorado, without an exchange rate. -/
theorem recordedPrice_eq_sentPrice_eldorado :
    recordedPrice 10 { forcedEnding := some 0.99 } none none =
      some (Builder.eldorado.sentPrice 10 { forcedEnding := some 0.99 } none) := by
  apply (recordedPrice_eq_sentPrice_iff .eldorado 10 { forcedEnding := some 0.99 } none
    (by norm_num)).mpr
  have hprice : calculatePrice 10 (some { forcedEnding := some 0.99 }) = (2099 : ℤ) / 100 := by
    decide +kernel
  show KeptAbove 0.1 (calculatePrice 10 (some { forcedEnding := some 0.99 })) none
  rw [hprice]
  exact ⟨by norm_num, 2099, rfl⟩

/-- With the default of a target URL, a rate of 0.87, the payload says 20.99 and the record
18.26. -/
theorem recordedPrice_ne_sentPrice :
    ¬ ∀ (b : Builder) (rawPrice : ℚ) (rule : PricingRule) (exchangeRate : Option ℚ),
      0 < rawPrice →
      recordedPrice rawPrice rule exchangeRate none =
        some (b.sentPrice rawPrice rule exchangeRate) := by
  intro h
  have hboth := h .eldorado 10 { forcedEnding := some 0.99 } (some 0.87) (by norm_num)
  have hrecorded : recordedPrice 10 { forcedEnding := some 0.99 } (some 0.87) none =
      some 18.26 := by
    decide +kernel
  have hsent : Builder.eldorado.sentPrice 10 { forcedEnding := some 0.99 } (some 0.87) =
      20.99 := by
    decide +kernel
  rw [hrecorded, hsent] at hboth
  norm_num at hboth

end Sda.Pipeline
