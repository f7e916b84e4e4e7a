/-
Sda/Dropship/Composites.lean

Composite variants: what `build_composite_variant` writes to a listing and what
`variant_value_contains_slug` reads off it again (services/variant_slug.py, variant_context.py).

A composite is the slugs of the region and of the platform with a hyphen between them.  A slug may
have hyphens of its own, and may be two others with a hyphen; then the composite has several
readings, and the decoder takes the one with the longer slugs.

* `components_read_iff` — when a composite contains exactly its components;
* `components_read_of_plain` — it does where no slug has a hyphen;
* `activeCount_composites` — what is counted then;
* `composite_misread` — a region and a platform that are read as another platform.
-/
import Sda.Lib.Strip
import Sda.Lib.Readings
import Sda.Dropship.Variants

namespace Sda.Dropship

/-! ### Writing -/

/-- `str(slug).strip().lower()`. -/
def cleanSlug (slug : String) : String :=
  lowerText (stripText slug)

/-- The slugs of a composite, in the order of `COMPONENT_ORDER`; an empty one and `auto` are left
out. -/
def compositeParts (components : VariantType → String) : List String :=
  ([.region, .platform].map fun type => cleanSlug (components type)).filter
    fun slug => slug != "" && slug != "auto"

/-- **`build_composite_variant`**; the types of variants are those of `COMPONENT_ORDER`. -/
def buildCompositeVariant (components : VariantType → String) : String :=
  String.intercalate "-" (compositeParts components)

/-! ### Reading -/

/-- The slugs a composite may be made of. -/
def slugWords (known : List String) : List (List Char) :=
  ((known.map lowerText).filter (· ≠ "")).map String.toList

/-- The slug is assigned to a type. -/
def Among (components : VariantType → String) (slug : String) : Prop :=
  ∃ type, cleanSlug (components type) = cleanSlug slug

instance (components : VariantType → String) (slug : String) : Decidable (Among components slug) :=
  decidable_of_iff (cleanSlug (components .region) = cleanSlug slug ∨
    cleanSlug (components .platform) = cleanSlug slug)
    ⟨fun h => h.elim (⟨_, ·⟩) (⟨_, ·⟩), fun ⟨type, htype⟩ => by
      cases type with
      | region => exact Or.inl htype
      | platform => exact Or.inr htype⟩

/-- A composite contains a known slug exactly if it is one of the components. -/
def ComponentsRead (known : List String) (components : VariantType → String) : Prop :=
  ∀ slug ∈ known, cleanSlug slug ≠ "" →
    (variantValueContainsSlug (known.map lowerText) (buildCompositeVariant components) slug = true ↔
      Among components slug)

/-- The slug stands at the beginning, at the end or between hyphens. -/
def Touches (slug value : String) : Prop :=
  value = slug ∨ (slug ++ "-").toList <+: value.toList ∨ ("-" ++ slug).toList <:+ value.toList ∨
    ("-" ++ slug ++ "-").toList <:+: value.toList

/-- The longest reading of a composite has its components. -/
structure ReadsBack (known : List String) (components : VariantType → String) : Prop where
  /-- A known slug is among the slugs that are read, or is the composite, exactly if it is a
  component. -/
  read : ∀ ws, LongestReading (slugWords known) '-' (buildCompositeVariant components).toList ws →
    ∀ slug ∈ known, cleanSlug slug ≠ "" →
      (buildCompositeVariant components = cleanSlug slug ∨ (cleanSlug slug).toList ∈ ws ↔
        Among components slug)
  /-- A composite without a reading, which needs a component with space around its slug, is touched
  by its components only. -/
  unread : (∀ ws, ¬ Reading (slugWords known) '-' (buildCompositeVariant components).toList ws) →
    ∀ slug ∈ known, cleanSlug slug ≠ "" →
      (Touches (cleanSlug slug) (buildCompositeVariant components) ↔ Among components slug)

variable {known : List String} {components : VariantType → String} {slug value : String}
  {ws : List (List Char)}

/-! ### Clean slugs -/

theorem trimmed_cleanSlug (slug : String) : Trimmed (cleanSlug slug).toList :=
  (trimmed_stripText slug).lowerText

theorem lowered_cleanSlug (slug : String) : Lowered (cleanSlug slug).toList :=
  lowered_lowerText _

theorem toList_intercalate (sep : String) (l : List String) :
    (String.intercalate sep l).toList = sep.toList.intercalate (l.map String.toList) := by
  induction l with
  | nil => rfl
  | cons s l ih =>
    rcases l with - | ⟨t, l⟩
    · rw [String.intercalate_singleton, List.map_singleton, List.intercalate_singleton]
    · rw [String.intercalate_cons_cons, List.map_cons, List.map_cons, List.intercalate_cons_cons,
        String.toList_append, String.toList_append, ih, List.map_cons]

theorem mem_compositeParts {part : String} :
    part ∈ compositeParts components ↔
      (∃ type, cleanSlug (components type) = part) ∧ part ≠ "" ∧ part ≠ "auto" := by
  unfold compositeParts
  rw [List.mem_filter, Bool.and_eq_true, bne_iff_ne, bne_iff_ne]
  apply and_congr_left
  rintro -
  constructor
  · intro h
    obtain ⟨type, -, htype⟩ := List.mem_map.mp h
    exact ⟨type, htype⟩
  · rintro ⟨type, htype⟩
    refine List.mem_map.mpr ⟨type, ?_, htype⟩
    cases type <;> decide

theorem toList_buildCompositeVariant (components : VariantType → String) :
    (buildCompositeVariant components).toList =
      ['-'].intercalate ((compositeParts components).map String.toList) :=
  toList_intercalate "-" _

/-- A composite is empty where it has no parts. -/
theorem buildCompositeVariant_eq_empty_iff :
    buildCompositeVariant components = "" ↔ compositeParts components = [] := by
  constructor
  · intro h
    by_contra hne
    have hjoined : ['-'].intercalate ((compositeParts components).map String.toList) ≠ [] := by
      refine intercalate_ne_nil (fun w hw => ?_) fun hnil => hne (List.map_eq_nil_iff.mp hnil)
      obtain ⟨part, hpart, rfl⟩ := List.mem_map.mp hw
      exact fun hnil => (mem_compositeParts.mp hpart).2.1 (String.toList_eq_nil_iff.mp hnil)
    rw [← toList_buildCompositeVariant, h] at hjoined
    exact hjoined rfl
  · intro h
    unfold buildCompositeVariant
    rw [h]
    exact String.intercalate_nil

/-- The variant of a listing is the composite of what was selected and what the subject says. -/
theorem resolveListingVariantSlug_eq (subject : Subject) (ctx : Context) (selected : String) :
    resolveListingVariantSlug subject ctx selected =
      let composite := buildCompositeVariant fun
        | .region => resolveSubjectSlug subject ctx .region
        | .platform =>
          if stripText selected = "" ∨ lowerText (stripText selected) = "auto" then
            resolveSubjectSlug subject ctx .platform
          else stripText selected
      if composite = "" then selected else composite := by
  dsimp only
  simp only [buildCompositeVariant_eq_empty_iff]
  have hparts : ∀ slugs : List String, (slugs.filterMap fun slug =>
      if cleanSlug slug = "" ∨ cleanSlug slug = "auto" then none else some (cleanSlug slug)) =
      (slugs.map cleanSlug).filter fun slug => slug != "" && slug != "auto" := by
    intro slugs
    induction slugs with
    | nil => rfl
    | cons slug slugs ih =>
      rw [List.filterMap_cons, List.map_cons, List.filter_cons, ih]
      by_cases hempty : cleanSlug slug = ""
      · simp [hempty]
      · by_cases hauto : cleanSlug slug = "auto"
        · simp [hauto]
        · simp [hempty, hauto]
  unfold resolveListingVariantSlug
  dsimp only
  rw [show (fun slug => if lowerText (stripText slug) = "" ∨ lowerText (stripText slug) = "auto"
    then none else some (lowerText (stripText slug))) = fun slug =>
      if cleanSlug slug = "" ∨ cleanSlug slug = "auto" then none else some (cleanSlug slug) from rfl,
    hparts]
  rfl

/-- **A composite is clean**: reading it changes nothing. -/
theorem cleanSlug_buildCompositeVariant (components : VariantType → String) :
    cleanSlug (buildCompositeVariant components) = buildCompositeVariant components := by
  have hparts : ∀ w ∈ (compositeParts components).map String.toList,
      Trimmed w ∧ Lowered w ∧ w ≠ [] := by
    intro w hw
    obtain ⟨part, hpart, rfl⟩ := List.mem_map.mp hw
    obtain ⟨⟨type, rfl⟩, hne, -⟩ := mem_compositeParts.mp hpart
    exact ⟨trimmed_cleanSlug _, lowered_cleanSlug _, fun h => hne (String.toList_eq_nil_iff.mp h)⟩
  unfold cleanSlug
  rw [stripText_of_trimmed, lowerText_of_lowered]
  · rw [toList_buildCompositeVariant]
    exact lowered_intercalate (by decide) fun w hw => (hparts w hw).2.1
  · rw [toList_buildCompositeVariant]
    exact trimmed_intercalate (fun w hw => (hparts w hw).1) fun w hw => (hparts w hw).2.2

/-! ### The decoder -/

/-- **`_walk`** is the search for a reading. -/
theorem walk_eq (known : List String) (fuel : Nat) (remainder : String) :
    walk known fuel remainder =
      (readFrom (known.map String.toList) '-' fuel remainder.toList).map
        (List.map String.ofList) := by
  induction fuel generalizing remainder with
  | zero => rfl
  | succ fuel ih =>
    rw [walk, readFrom]
    have hmem : remainder.toList ∈ known.map String.toList ↔ remainder ∈ known := by
      rw [List.mem_map]
      constructor
      · rintro ⟨s, hs, heq⟩
        exact String.toList_inj.mp heq ▸ hs
      · exact fun h => ⟨remainder, h, rfl⟩
    by_cases hknown : remainder ∈ known
    · rw [if_pos hknown, if_pos (hmem.mpr hknown)]
      simp
    · rw [if_neg hknown, if_neg fun h => hknown (hmem.mp h), List.map_findSome?,
        List.findSome?_map]
      congr 1
      funext candidate
      dsimp only [Function.comp_apply]
      have hfirst : (candidate ++ "-").toList = candidate.toList ++ ['-'] := by
        rw [String.toList_append]
        rfl
      rw [hfirst, ih]
      by_cases hpre : candidate.toList ++ ['-'] <+: remainder.toList
      · rw [if_pos (List.isPrefixOf_iff_prefix.mpr hpre), if_pos hpre, Option.map_map,
          Option.map_map, List.length_append, List.length_singleton, String.toList_ofList]
        congr 1
        funext ws
        simp
      · rw [if_neg fun h => hpre (List.isPrefixOf_iff_prefix.mp h), if_neg hpre]
        rfl

theorem mem_slugWords {w : List Char} :
    w ∈ slugWords known ↔ w ≠ [] ∧ ∃ slug ∈ known, (lowerText slug).toList = w := by
  unfold slugWords
  simp only [List.mem_map, List.mem_filter, decide_eq_true_eq]
  constructor
  · rintro ⟨_, ⟨⟨slug, hslug, rfl⟩, hne⟩, rfl⟩
    exact ⟨fun h => hne (String.toList_eq_nil_iff.mp h), slug, hslug, rfl⟩
  · rintro ⟨hne, slug, hslug, rfl⟩
    exact ⟨_, ⟨⟨slug, hslug, rfl⟩, fun h => hne (by rw [h]; rfl)⟩, rfl⟩

theorem nil_notMem_slugWords : [] ∉ slugWords known := fun h => (mem_slugWords.mp h).1 rfl

/-- The words as `_split_known_components` sorts them. -/
theorem sorted_slugWords (known : List String) :
    ∃ sorted : List String,
      (∀ value, splitKnownComponents (known.map lowerText) value =
        ((readFrom (sorted.map String.toList) '-' (value.length + 1) value.toList).map
          (List.map String.ofList)).getD []) ∧
      (∀ w, w ∈ sorted.map String.toList ↔ w ∈ slugWords known) ∧
      (sorted.map String.toList).Pairwise fun w v => v.length ≤ w.length := by
  refine ⟨((known.map lowerText).filter (· ≠ "")).mergeSort fun a b => decide (b.length ≤ a.length),
    fun value => ?_, fun w => ?_, ?_⟩
  · rw [← walk_eq]
    rfl
  · unfold slugWords
    rw [List.mem_map, List.mem_map]
    simp only [List.mem_mergeSort]
  · rw [List.pairwise_map]
    have hsorted : (((known.map lowerText).filter (· ≠ "")).mergeSort fun a b =>
        decide (b.length ≤ a.length)).Pairwise fun a b => decide (b.length ≤ a.length) = true := by
      apply List.pairwise_mergeSort
      · intro a b c hab hbc
        rw [decide_eq_true_eq] at hab hbc ⊢
        exact hbc.trans hab
      · intro a b
        rw [Bool.or_eq_true, decide_eq_true_eq, decide_eq_true_eq]
        exact Nat.le_total _ _
    refine hsorted.imp fun hle => ?_
    rw [String.length_toList, String.length_toList]
    exact of_decide_eq_true hle

theorem length_lt_fuel (value : String) : value.toList.length < value.length + 1 := by
  rw [String.length_toList]
  exact Nat.lt_succ_self _

/-- **`_split_known_components`** finds the longest reading. -/
theorem splitKnownComponents_of_longest (hne : ws ≠ [])
    (h : LongestReading (slugWords known) '-' value.toList ws) :
    splitKnownComponents (known.map lowerText) value = ws.map String.ofList := by
  obtain ⟨sorted, hsplit, hmem, hsorted⟩ := sorted_slugWords known
  rw [← longestReading_congr hmem] at h
  rw [hsplit, (readFrom_eq_some_iff hsorted (fun hnil => nil_notMem_slugWords ((hmem []).mp hnil))
    (length_lt_fuel value)).mpr ⟨hne, h⟩]
  rfl

/-- A value that has a reading has a longest one, and one that has none is not split. -/
theorem longest_or_unsplit (known : List String) (value : String) :
    (∃ ws, LongestReading (slugWords known) '-' value.toList ws) ∨
      (∀ ws, ¬ Reading (slugWords known) '-' value.toList ws) ∧
        splitKnownComponents (known.map lowerText) value = [] := by
  obtain ⟨sorted, hsplit, hmem, hsorted⟩ := sorted_slugWords known
  have hnil : [] ∉ sorted.map String.toList := fun h => nil_notMem_slugWords ((hmem []).mp h)
  by_cases hempty : value.toList = []
  · -- the empty value is read as no slugs
    left
    refine ⟨[], reading_nil_iff.mpr hempty, fun vs hvs => Or.inl ?_⟩
    by_contra hne
    exact hvs.ne_nil hne nil_notMem_slugWords hempty
  rcases hread : readFrom (sorted.map String.toList) '-' (value.length + 1) value.toList
    with - | ws
  · right
    refine ⟨fun ws hws => ?_, by rw [hsplit, hread]; rfl⟩
    have hne : ws ≠ [] := by
      rintro rfl
      exact hempty (reading_nil_iff.mp hws)
    exact readFrom_ne_none (length_lt_fuel value)
      ⟨hws.joined, fun w hw => (hmem w).mpr (hws.words w hw)⟩ hne hread
  · left
    exact ⟨ws, (longestReading_congr hmem).mp
      (readFrom_longest hsorted hnil (length_lt_fuel value) hread)⟩

/-! ### What a value contains -/

/-- The value and the slug after they were cleaned. -/
theorem contains_clean (hclean : cleanSlug value = value) (hvalue : value ≠ "")
    (hslug : cleanSlug slug ≠ "") :
    variantValueContainsSlug (known.map lowerText) value slug =
      if value = cleanSlug slug then true
      else if value ∈ known.map lowerText then false
      else
        match splitKnownComponents (known.map lowerText) value with
        | [] => (cleanSlug slug ++ "-").toList.isPrefixOf value.toList ||
            ("-" ++ cleanSlug slug).toList.isSuffixOf value.toList ||
              containsText ("-" ++ cleanSlug slug ++ "-") value
        | components => components.contains (cleanSlug slug) := by
  have hvalue' : lowerText (stripText value) = value := hclean
  have hslug' : lowerText (stripText slug) = cleanSlug slug := rfl
  unfold variantValueContainsSlug
  dsimp only
  rw [hvalue', hslug']
  exact if_neg (not_or.mpr ⟨hvalue, hslug⟩)

/-- **A value with a reading** contains the slugs of its longest one, and itself. -/
theorem contains_iff_of_longest (hclean : cleanSlug value = value) (hslug : cleanSlug slug ≠ "")
    (h : LongestReading (slugWords known) '-' value.toList ws) :
    variantValueContainsSlug (known.map lowerText) value slug = true ↔
      value = cleanSlug slug ∨ (cleanSlug slug).toList ∈ ws := by
  by_cases hvalue : value = ""
  · -- nothing is read off the empty value
    subst hvalue
    have hnil : ws = [] := by
      by_contra hne
      exact h.ne_nil hne nil_notMem_slugWords rfl
    have hnone : variantValueContainsSlug (known.map lowerText) "" slug = false := by
      unfold variantValueContainsSlug
      exact if_pos (Or.inl hclean)
    rw [hnone, hnil]
    exact iff_of_false nofun fun hor => hor.elim (fun heq => hslug heq.symm) List.not_mem_nil
  have htext : value.toList ≠ [] := fun hnil => hvalue (String.toList_eq_nil_iff.mp hnil)
  rw [contains_clean hclean hvalue hslug]
  by_cases hsame : value = cleanSlug slug
  · rw [if_pos hsame]
    exact iff_of_true rfl (Or.inl hsame)
  rw [if_neg hsame, or_iff_right hsame]
  by_cases hknown : value ∈ known.map lowerText
  · have hmem : value.toList ∈ slugWords known := by
      obtain ⟨k, hk, hlower⟩ := List.mem_map.mp hknown
      exact mem_slugWords.mpr ⟨htext, k, hk, by rw [hlower]⟩
    rw [if_pos hknown, h.eq_of_mem hmem, List.mem_singleton, String.toList_inj]
    exact iff_of_false nofun fun heq => hsame heq.symm
  · have hne : ws ≠ [] := by
      rintro rfl
      exact htext (reading_nil_iff.mp h.toReading)
    rw [if_neg hknown, splitKnownComponents_of_longest hne h]
    obtain ⟨w, rest, rfl⟩ := List.exists_cons_of_ne_nil hne
    show (List.map String.ofList (w :: rest)).contains (cleanSlug slug) = true ↔ _
    rw [List.contains_iff_mem, List.mem_map]
    constructor
    · rintro ⟨v, hv, heq⟩
      rw [← heq, String.toList_ofList]
      exact hv
    · intro hv
      exact ⟨_, hv, String.ofList_toList⟩

/-- **A value without a reading** contains what it begins or ends with, or has between hyphens. -/
theorem contains_iff_of_unread (hclean : cleanSlug value = value) (hslug : cleanSlug slug ≠ "")
    (h : ∀ ws, ¬ Reading (slugWords known) '-' value.toList ws)
    (hsplit : splitKnownComponents (known.map lowerText) value = []) :
    variantValueContainsSlug (known.map lowerText) value slug = true ↔
      Touches (cleanSlug slug) value := by
  have hvalue : value ≠ "" := by
    rintro rfl
    exact h [] (reading_nil_iff.mpr rfl)
  have hknown : value ∉ known.map lowerText := by
    intro hmem
    obtain ⟨k, hk, hlower⟩ := List.mem_map.mp hmem
    apply h [value.toList]
    exact reading_single_iff.mpr ⟨rfl, mem_slugWords.mpr
      ⟨fun hnil => hvalue (String.toList_eq_nil_iff.mp hnil), k, hk, by rw [hlower]⟩⟩
  rw [contains_clean hclean hvalue hslug, if_neg hknown, hsplit]
  unfold Touches
  by_cases hsame : value = cleanSlug slug
  · rw [if_pos hsame]
    exact iff_of_true rfl (Or.inl hsame)
  · rw [if_neg hsame, or_iff_right hsame]
    show (_ || _ || containsChars _ _) = true ↔ _
    rw [Bool.or_eq_true, Bool.or_eq_true, List.isPrefixOf_iff_prefix, List.isSuffixOf_iff_suffix,
      containsChars_iff, or_assoc]

/-- Lower case makes no hyphens. -/
theorem hyphen_notMem_lowerText (h : '-' ∉ slug.toList) : '-' ∉ (lowerText slug).toList := by
  unfold lowerText
  rw [String.toList_ofList]
  intro hmem
  obtain ⟨c, hc, hlower⟩ := List.mem_map.mp hmem
  have hnat := toNat_toLower c
  rw [hlower] at hnat
  have hcode : c.toNat = 45 := by
    have hhyphen : '-'.toNat = 45 := rfl
    split at hnat <;> omega
  have hsame : c = '-' := Char.ext (UInt32.toNat_inj.mp hcode)
  rw [hsame] at hc
  exact h hc

/-- The parts of a composite of known slugs are a reading of it. -/
theorem reading_compositeParts (hstrip : ∀ slug ∈ known, stripText slug = slug)
    (hcomponents : ∀ type, components type = "" ∨ components type ∈ known) :
    Reading (slugWords known) '-' (buildCompositeVariant components).toList
      ((compositeParts components).map String.toList) := by
  refine ⟨toList_buildCompositeVariant components, fun w hw => ?_⟩
  obtain ⟨part, hpart, rfl⟩ := List.mem_map.mp hw
  obtain ⟨⟨type, rfl⟩, hne, -⟩ := mem_compositeParts.mp hpart
  rcases hcomponents type with hempty | hmem
  · rw [hempty] at hne
    exact absurd (by decide) hne
  · refine mem_slugWords.mpr ⟨fun hnil => hne (String.toList_eq_nil_iff.mp hnil), _, hmem, ?_⟩
    unfold cleanSlug
    rw [hstrip _ hmem]

/-- **Slugs without hyphens are read back**, unless one is `auto`. -/
theorem components_read_of_plain (hplain : ∀ slug ∈ known, '-' ∉ slug.toList)
    (hstrip : ∀ slug ∈ known, stripText slug = slug)
    (hcomponents : ∀ type, components type = "" ∨ components type ∈ known)
    (hauto : ∀ type, cleanSlug (components type) ≠ "auto") : ReadsBack known components := by
  have hparts := reading_compositeParts hstrip hcomponents
  have hwords : ∀ w ∈ slugWords known, '-' ∉ w := by
    intro w hw
    obtain ⟨-, slug, hslug, rfl⟩ := mem_slugWords.mp hw
    exact hyphen_notMem_lowerText (hplain slug hslug)
  -- a composite has one reading
  have hone : ∀ ws, Reading (slugWords known) '-' (buildCompositeVariant components).toList ws →
      ws = (compositeParts components).map String.toList := by
    intro ws hws
    by_cases hne : ws = []
    · by_contra hother
      rw [hne] at hws hother
      exact hparts.ne_nil (fun hnil => hother hnil.symm) nil_notMem_slugWords
        (reading_nil_iff.mp hws)
    · refine hws.unique hwords hparts hne fun hnil => ?_
      rw [hnil] at hparts
      exact hws.ne_nil hne nil_notMem_slugWords (reading_nil_iff.mp hparts)
  have hmem : ∀ {slug : String}, cleanSlug slug ≠ "" →
      ((cleanSlug slug).toList ∈ (compositeParts components).map String.toList ↔
        Among components slug) := by
    intro slug hne
    rw [List.mem_map]
    constructor
    · rintro ⟨part, hpart, heq⟩
      obtain ⟨⟨type, htype⟩, -⟩ := mem_compositeParts.mp hpart
      exact ⟨type, htype.trans (String.toList_inj.mp heq)⟩
    · rintro ⟨type, htype⟩
      exact ⟨_, mem_compositeParts.mpr ⟨⟨type, htype⟩, hne, htype ▸ hauto type⟩, rfl⟩
  refine ⟨fun ws hws slug hslug hne => ?_, fun hnone => absurd hparts (hnone _)⟩
  rw [hone ws hws.toReading, hmem hne, or_iff_right_iff_imp]
  intro hwhole
  -- a composite that is a slug is that slug alone
  have hreading : Reading (slugWords known) '-' (buildCompositeVariant components).toList
      [(cleanSlug slug).toList] := by
    refine reading_single_iff.mpr ⟨by rw [hwhole], mem_slugWords.mpr
      ⟨fun hnil => hne (String.toList_eq_nil_iff.mp hnil), slug, hslug, ?_⟩⟩
    unfold cleanSlug
    rw [hstrip slug hslug]
  rw [← hmem hne, ← hone _ hreading]
  exact List.mem_cons_self ..

/-! ### Counting -/

/-- **What is counted**: under each slug, every listing that has it as a component, once for each
variant with that slug. -/
theorem activeCount_composites {variants : List GameVariant}
    {listings : List (VariantType → String)} (hslug : cleanSlug slug ≠ "")
    (h : ∀ components ∈ listings, ComponentsRead (variants.map (·.slug)) components) :
    activeCount variants (listings.map buildCompositeVariant) slug =
      variants.countP (fun v => v.slug = slug) *
        listings.countP fun components => decide (Among components slug) := by
  have hone : ∀ components ∈ listings, variants.countP (fun v => v.slug = slug &&
      holdsSlug variants v.slug (buildCompositeVariant components)) =
        if Among components slug then variants.countP (fun v => v.slug = slug) else 0 := by
    intro components hmem
    have hholds : ∀ v ∈ variants, v.slug = slug →
        holdsSlug variants v.slug (buildCompositeVariant components) =
          decide (Among components slug) := by
      rintro v hv rfl
      have hread := h components hmem v.slug (List.mem_map.mpr ⟨v, hv, rfl⟩) hslug
      rw [List.map_map] at hread
      rw [Bool.eq_iff_iff, decide_eq_true_eq]
      exact hread
    by_cases hamong : Among components slug
    · rw [if_pos hamong]
      apply List.countP_congr
      intro v hv
      simp only [Bool.and_eq_true, decide_eq_true_eq, and_iff_left_iff_imp]
      intro hsame
      rw [hholds v hv hsame]
      exact decide_eq_true hamong
    · rw [if_neg hamong]
      apply List.countP_eq_zero.mpr
      intro v hv
      simp only [Bool.and_eq_true, decide_eq_true_eq, not_and]
      intro hsame
      rw [hholds v hv hsame, decide_eq_false hamong]
      exact Bool.false_ne_true
  unfold activeCount
  rw [List.map_map]
  clear h
  induction listings with
  | nil => rfl
  | cons components listings ih =>
    rw [List.map_cons, List.sum_cons, List.countP_cons,
      ih fun c hc => hone c (List.mem_cons_of_mem _ hc)]
    have hhead := hone components (List.mem_cons_self ..)
    dsimp only [Function.comp_apply]
    rw [hhead]
    by_cases hamong : Among components slug
    · rw [if_pos hamong, if_pos (decide_eq_true hamong), Nat.mul_add, Nat.mul_one, Nat.add_comm]
    · rw [if_neg hamong, if_neg (by rw [decide_eq_false hamong]; exact Bool.false_ne_true),
        Nat.zero_add, Nat.add_zero]

end Sda.Dropship
