/-
Sda/Dropship/Variants.lean

Variant contexts and the router that chooses a variant with room (services/variant_context.py,
variant_routing.py, variant_slug.py).

A context is what the pipeline is told about the variants of a game at one store: for each type
of variant its entries by source key, with the limits and with how many live listings there
are.  `VariantRouter` counts its own posts on top.  A context without entries for a type is
one that lacks the key.

A router says of a variant only what it counted itself: `select_room` and `roomIn_regionRoom` are
what the poster gets from it.
-/
import Sda.Lib.Text
import Mathlib.Data.List.Basic

namespace Sda.Dropship

/-! ### Rows and contexts -/

/-- `GameVariant.VariantType`. -/
inductive VariantType
  | platform | region
  deriving DecidableEq, Repr

/-- A `GameVariant`, with its `GameVariantLimit` at the store. -/
structure GameVariant where
  type : VariantType
  slug : String
  sourceKey : String := ""
  /-- It has a mapping for the marketplace. -/
  mapped : Bool := true
  /-- `max_offers` and `stock_reserve`. -/
  limits : Option (Nat × Nat) := none
  deriving DecidableEq, Repr

/-- An entry of a context. -/
structure Entry where
  slug : String
  limit : Nat
  stockReserve : Nat
  active : Nat
  deriving DecidableEq, Repr

/-- The entries of each type, by their keys. -/
abbrev Context := VariantType → List (String × Entry)

/-- `DEFAULT_MAX_OFFERS` and `DEFAULT_STOCK_RESERVE`, or those of a region. -/
def VariantType.defaults : VariantType → Nat × Nat
  | .platform => (300, 300)
  | .region => (200, 200)

/-- Limit and reserve of a variant. -/
def GameVariant.bounds (v : GameVariant) : Nat × Nat :=
  v.limits.getD v.type.defaults

/-! ### Slugs in a listing -/

/-- **`_split_known_components`**, `_walk`: the remainder as known slugs joined by hyphens.  The
fuel is longer than the remainder, which shrinks. -/
def walk (known : List String) : Nat → String → Option (List String)
  | 0, _ => none
  | fuel + 1, remainder =>
    if remainder ∈ known then some [remainder]
    else known.findSome? fun candidate =>
      let first := (candidate ++ "-").toList
      if first.isPrefixOf remainder.toList then
        (walk known fuel (String.ofList (remainder.toList.drop first.length))).map
          (candidate :: ·)
      else none

/-- **`_split_known_components`**: long slugs are tried first. -/
def splitKnownComponents (known : List String) (value : String) : List String :=
  let known := (known.filter (· ≠ "")).mergeSort fun a b => decide (b.length ≤ a.length)
  (walk known (value.length + 1) value).getD []

/-- **`variant_value_contains_slug`** -/
def variantValueContainsSlug (known : List String) (value slug : String) : Bool :=
  let value := lowerText (stripText value)
  let slug := lowerText (stripText slug)
  if value = "" ∨ slug = "" then false
  else if value = slug then true
  else if value ∈ known then false
  else
    match splitKnownComponents known value with
    | [] => (slug ++ "-").toList.isPrefixOf value.toList ||
        ("-" ++ slug).toList.isSuffixOf value.toList || containsText ("-" ++ slug ++ "-") value
    | components => components.contains slug

/-- `known_slugs`. -/
def knownSlugs (variants : List GameVariant) : List String :=
  variants.map fun v => lowerText v.slug

/-- A live listing with this variant text is one of this slug. -/
def holdsSlug (variants : List GameVariant) (slug value : String) : Bool :=
  variantValueContainsSlug (knownSlugs variants) value slug

/-- `active_counts[slug]`: a slug that two variants share is counted for both. -/
def activeCount (variants : List GameVariant) (listings : List String) (slug : String) : Nat :=
  (listings.map fun value =>
    variants.countP fun v => v.slug = slug && holdsSlug variants v.slug value).sum

/-- How many live listings a slug has. -/
def liveCount (variants : List GameVariant) (listings : List String) (slug : String) : Nat :=
  listings.countP (holdsSlug variants slug)

/-! ### Building a context -/

/-- `result[type][key] = entry`. -/
def setEntry (key : String) (e : Entry) : List (String × Entry) → List (String × Entry)
  | [] => [(key, e)]
  | (k, old) :: rest => if k = key then (key, e) :: rest else (k, old) :: setEntry key e rest

def GameVariant.entry (variants : List GameVariant) (listings : List String) (v : GameVariant) :
    Entry where
  slug := v.slug
  limit := v.bounds.1
  stockReserve := v.bounds.2
  active := activeCount variants listings v.slug

/-- `v.source_key or v.slug`. -/
def GameVariant.key (v : GameVariant) : String :=
  if v.sourceKey = "" then v.slug else v.sourceKey

/-- **`build_variant_context`** -/
def buildVariantContext (variants : List GameVariant) (listings : List String) : Context :=
  fun type => (variants.filter fun v => v.type = type && v.mapped).foldl
    (fun entries v => setEntry v.key (v.entry variants listings) entries) []

/-! ### Priorities and eligibility -/

/-- `PLATFORM_PRIORITY`. -/
def platformPriority (game : String) : Option (List (List String)) :=
  if game = "fortnite" then some [["psn", "xbox"], ["pc"], ["ios", "android", "switch"]]
  else if game = "valorant" then some [["pc"], ["psn", "xbox"]]
  else if game = "rainbow-six-siege" then some [["psn", "xbox"], ["pc"]]
  else none

/-- The attributes of a prepared subject that are read; a missing one reads as its default. -/
structure Subject where
  region : String := ""
  regionPhrase : String := ""
  server : String := ""
  mainPlatform : String := ""
  primaryLinkablePlatform : String := ""
  platform : String := ""
  psnLinkable : Bool := false
  xboxLinkable : Bool := false
  psnConnected : Bool := true
  xboxConnected : Bool := true
  deriving DecidableEq, Repr

/-- **`get_eligible_variants`** -/
def getEligibleVariants (game : String) (subject : Subject) : Option (List String) :=
  if game = "fortnite" then
    some (["pc", "android", "ios", "switch"] ++ (if subject.psnLinkable then ["psn"] else [])
      ++ if subject.xboxLinkable then ["xbox"] else [])
  else if game = "rainbow-six-siege" then
    some (["pc"] ++ (if subject.psnConnected then [] else ["psn"])
      ++ if subject.xboxConnected then [] else ["xbox"])
  else none

/-! ### The router -/

/-- **`VariantRouter`** in dropship mode: a context and the posts counted so far. -/
structure VariantRouter where
  ctx : Context
  posted : VariantType → String → Nat := fun _ _ => 0

/-- The entry of a slug. -/
def Context.find (ctx : Context) (type : VariantType) (slug : String) : Option Entry :=
  ((ctx type).find? fun e => e.2.slug = slug).map (·.2)

/-- **`_available`** -/
def VariantRouter.available (r : VariantRouter) (type : VariantType) (slug : String) :
    Option Int :=
  (Context.find r.ctx type slug).map fun e =>
    (e.limit - e.stockReserve : Int) - e.active - r.posted type slug

/-- **`_select_best`**: the loop, with the best slug so far and its room. -/
def VariantRouter.selectBest (r : VariantRouter) (type : VariantType)
    (allowed : Option (List String)) : Option String :=
  ((r.ctx type).foldl (fun (best : Option String × Int) e =>
    if (allowed.map (·.contains e.2.slug)) = some false then best
    else
      match r.available type e.2.slug with
      | some avail => if 0 < avail ∧ best.2 < avail then (some e.2.slug, avail) else best
      | none => best) (none, -1)).1

/-- **`_select_tiered`** -/
def VariantRouter.selectTiered (r : VariantRouter) (type : VariantType)
    (allowed : Option (List String)) (tiers : List (List String)) : Option String :=
  tiers.findSome? fun tier =>
    let tierFilter := match allowed with
      | some slugs => tier.filter (slugs.contains ·)
      | none => tier
    if tierFilter = [] then none
    else (r.selectBest type (some tierFilter)).filter (· ≠ "")

/-- **`select`**: every entry has a limit, and the poster chooses nothing by hand. -/
def VariantRouter.select (r : VariantRouter) (type : VariantType)
    (allowed : Option (List String) := none) (game : String := "") : Option String :=
  if r.ctx type = [] then some ""
  else
    match platformPriority game with
    | some tiers => r.selectTiered type allowed tiers
    | none => r.selectBest type allowed

/-- **`_normalise_variant_key`**, on ASCII. -/
def normaliseVariantKey (value : String) : String :=
  String.ofList ((lowerText value).toList.filter Char.isAlphanum)

/-- **`select_fixed`** -/
def VariantRouter.selectFixed (r : VariantRouter) (type : VariantType) (sourceKey : String) :
    String :=
  let entries := r.ctx type
  let slug (p : String × Entry → Bool) := (entries.find? p).map (·.2.slug)
  let lower := lowerText sourceKey
  let normalized := normaliseVariantKey sourceKey
  ((slug fun e => e.1 = sourceKey)
    <|> (slug fun e => lowerText e.1 = lower || lowerText e.2.slug = lower)
    <|> (if normalized = "" then none else
      slug fun e => normaliseVariantKey e.1 = normalized ||
        normaliseVariantKey e.2.slug = normalized)).getD sourceKey

/-- **`record_post`** -/
def VariantRouter.recordPost (r : VariantRouter) (type : VariantType) (slug : String) :
    VariantRouter :=
  { r with posted := fun t s => if t = type ∧ s = slug then r.posted t s + 1 else r.posted t s }

/-! ### The variant of a listing -/

/-- `_SUBJECT_ATTRS`. -/
def Subject.attrs (subject : Subject) : VariantType → List String
  | .region => [subject.region, subject.regionPhrase, subject.server]
  | .platform => [subject.mainPlatform, subject.primaryLinkablePlatform, subject.platform]

/-- **`_lookup_variant_entry`** -/
def lookupVariantEntry (ctx : Context) (type : VariantType) (key : String) : Option Entry :=
  let lower := lowerText key
  (((ctx type).find? fun e => e.1 = key) <|>
    (ctx type).find? fun e => lowerText e.1 = lower || lowerText e.2.slug = lower).map (·.2)

/-- **`_resolve_subject_slug`** -/
def resolveSubjectSlug (subject : Subject) (ctx : Context) (type : VariantType) : String :=
  (((subject.attrs type).map stripText).findSome? fun value =>
    if value = "" then none
    else (lookupVariantEntry ctx type value).map fun e => stripText e.slug).getD ""

/-- **`resolve_listing_variant_slug`**: the region first, then the platform that was selected.
A component that is empty or `auto` is left out. -/
def resolveListingVariantSlug (subject : Subject) (ctx : Context) (selected : String) : String :=
  let platform :=
    if stripText selected = "" ∨ lowerText (stripText selected) = "auto" then
      resolveSubjectSlug subject ctx .platform
    else stripText selected
  let parts := [resolveSubjectSlug subject ctx .region, platform].filterMap fun slug =>
    let slug := lowerText (stripText slug)
    if slug = "" ∨ slug = "auto" then none else some slug
  if parts = [] then selected else String.intercalate "-" parts

/-! ### What a selection says -/

/-- By the router's count there is room for the slug. -/
def VariantRouter.Room (r : VariantRouter) (type : VariantType) (slug : String) : Prop :=
  ∃ avail, r.available type slug = some avail ∧ 0 < avail

variable {r : VariantRouter} {type : VariantType} {slug : String}
  {allowed : Option (List String)}

/-- **`_select_best`** answers with an allowed slug that has room. -/
theorem selectBest_room (h : r.selectBest type allowed = some slug) :
    allowed.map (·.contains slug) ≠ some false ∧ r.Room type slug := by
  suffices key : ∀ (entries : List (String × Entry)) (best : Option String × Int),
      (∀ s, best.1 = some s → allowed.map (·.contains s) ≠ some false ∧ r.Room type s) →
      ∀ s, (entries.foldl (fun (best : Option String × Int) e =>
        if (allowed.map (·.contains e.2.slug)) = some false then best
        else
          match r.available type e.2.slug with
          | some avail => if 0 < avail ∧ best.2 < avail then (some e.2.slug, avail) else best
          | none => best) best).1 = some s →
        allowed.map (·.contains s) ≠ some false ∧ r.Room type s by
    apply key _ _ _ slug h
    exact fun _ => nofun
  intro entries
  -- the best so far has room, entry by entry
  induction entries with
  | nil => exact fun _ hbest => hbest
  | cons e entries ih =>
    intro best hbest
    apply ih
    intro s hs
    dsimp only at hs
    split at hs
    · exact hbest s hs
    next hallowed =>
    split at hs
    · next avail havail =>
      split at hs
      · next hmore =>
        cases hs
        exact ⟨hallowed, avail, havail, hmore.1⟩
      · exact hbest s hs
    · exact hbest s hs

/-- **`_select_tiered`** too. -/
theorem selectTiered_room {tiers : List (List String)}
    (h : r.selectTiered type allowed tiers = some slug) : r.Room type slug := by
  obtain ⟨tier, -, htier⟩ := List.exists_of_findSome?_eq_some h
  dsimp only at htier
  generalize (match allowed with
    | some slugs => tier.filter (slugs.contains ·)
    | none => tier) = tierFilter at htier
  split at htier
  · cases htier
  · exact (selectBest_room (Option.filter_eq_some_iff.mp htier).1).2

/-- **`select`** answers with a slug that has room, or there are no variants of the type. -/
theorem select_room {game : String} (h : r.select type allowed game = some slug) :
    slug = "" ∧ r.ctx type = [] ∨ r.Room type slug := by
  unfold VariantRouter.select at h
  split at h
  · next hempty => exact Or.inl ⟨(Option.some.inj h).symm, hempty⟩
  · apply Or.inr
    split at h
    · exact selectTiered_room h
    · exact (selectBest_room h).2

/-- The check of one region says that this region has room. -/
theorem select_only {region : String} (hne : r.ctx .region ≠ [])
    (h : r.select .region (some [region]) ≠ none) : r.Room .region region := by
  obtain ⟨slug, hslug⟩ := Option.ne_none_iff_exists'.mp h
  unfold VariantRouter.select at hslug
  rw [if_neg hne] at hslug
  have hgame : platformPriority "" = none := by decide
  rw [hgame] at hslug
  obtain ⟨hallowed, hroom⟩ := selectBest_room hslug
  have hmem : slug = region := by
    by_contra hother
    apply hallowed
    simp [hother]
  rwa [← hmem]

/-- A restriction that leaves every tier as it is. -/
theorem selectTiered_all {slugs : List String} {tiers : List (List String)}
    (h : ∀ tier ∈ tiers, tier.filter (slugs.contains ·) = tier) :
    r.selectTiered type (some slugs) tiers = r.selectTiered type none tiers := by
  unfold VariantRouter.selectTiered
  dsimp only
  induction tiers with
  | nil => rfl
  | cons tier tiers ih =>
    have hrest := ih fun t ht => h t (List.mem_cons_of_mem _ ht)
    simp only [List.findSome?_cons, h tier List.mem_cons_self, hrest]

/-- An account that can be sold on every platform. -/
def openSubject : Subject :=
  { psnLinkable := true, xboxLinkable := true, psnConnected := false, xboxConnected := false }

/-- It is eligible for whatever has room. -/
theorem select_openSubject (game : String) :
    r.select .platform (getEligibleVariants game openSubject) game =
      r.select .platform none game := by
  unfold VariantRouter.select
  split
  · rfl
  by_cases hfortnite : game = "fortnite"
  · subst hfortnite
    exact selectTiered_all (by decide)
  by_cases hsiege : game = "rainbow-six-siege"
  · subst hsiege
    exact selectTiered_all (by decide)
  have hall : getEligibleVariants game openSubject = none := by
    unfold getEligibleVariants
    rw [if_neg hfortnite, if_neg hsiege]
  rw [hall]

/-! ### Where an entry comes from -/

theorem mem_setEntry {key : String} {e : Entry} {entries : List (String × Entry)}
    {p : String × Entry} (h : p ∈ setEntry key e entries) : p = (key, e) ∨ p ∈ entries := by
  induction entries with
  | nil => exact Or.inl (List.mem_singleton.mp h)
  | cons q entries ih =>
    unfold setEntry at h
    split at h
    · rcases List.mem_cons.mp h with rfl | hrest
      · exact Or.inl rfl
      · exact Or.inr (List.mem_cons_of_mem _ hrest)
    · rcases List.mem_cons.mp h with rfl | hrest
      · exact Or.inr List.mem_cons_self
      · exact (ih hrest).imp_right (List.mem_cons_of_mem _)

/-- An entry of a context is that of some variant of the type. -/
theorem mem_buildVariantContext {variants : List GameVariant} {listings : List String}
    {p : String × Entry} (h : p ∈ buildVariantContext variants listings type) :
    ∃ v ∈ variants, v.type = type ∧ p.2 = v.entry variants listings := by
  suffices key : ∀ (vs : List GameVariant) (entries : List (String × Entry)),
      (∀ v ∈ vs, v ∈ variants ∧ v.type = type) →
      p ∈ vs.foldl (fun entries v => setEntry v.key (v.entry variants listings) entries) entries →
      p ∈ entries ∨ ∃ v ∈ variants, v.type = type ∧ p.2 = v.entry variants listings by
    refine (key _ _ (fun v hv => ?_) h).resolve_left (List.not_mem_nil)
    have hv := List.mem_filter.mp hv
    simp only [Bool.and_eq_true, decide_eq_true_eq] at hv
    exact ⟨hv.1, hv.2.1⟩
  intro vs
  induction vs with
  | nil => exact fun _ _ => Or.inl
  | cons v vs ih =>
    intro entries hvs hp
    rcases ih _ (fun w hw => hvs w (List.mem_cons_of_mem _ hw)) hp with hset | hlater
    · rcases mem_setEntry hset with rfl | hold
      · obtain ⟨hmem, htype⟩ := hvs v List.mem_cons_self
        exact Or.inr ⟨v, hmem, htype, rfl⟩
      · exact Or.inl hold
    · exact Or.inr hlater

/-- The entry that is found for a slug. -/
theorem find_buildVariantContext {variants : List GameVariant} {listings : List String}
    {e : Entry} (h : Context.find (buildVariantContext variants listings) type slug = some e) :
    ∃ v ∈ variants, v.type = type ∧ v.slug = slug ∧ e = v.entry variants listings := by
  obtain ⟨p, hp, rfl⟩ := Option.map_eq_some_iff.mp h
  obtain ⟨v, hv, htype, hentry⟩ := mem_buildVariantContext (List.mem_of_find?_eq_some hp)
  have hslug : p.2.slug = slug := by simpa using List.find?_some hp
  refine ⟨v, hv, htype, ?_, hentry⟩
  rw [← hslug, hentry]
  rfl

end Sda.Dropship
