/-
Sda/Dropship/VariantLookups.lean

The three lookups of a variant for one offer: `_lookup` of the payload builders
(payload_pipeline/core/variant_mapping.py), `VariantRouter.select_fixed` of the capacity check
(services/variant_routing.py) and `_lookup_variant_entry` of the stored listing
(services/variant_slug.py).

All three prefer the entry whose key is the value, then what is the value up to case, and the first
two then what is the value up to punctuation.  `_lookup` goes over all keys before it goes over the
slugs, the other two take key and slug of an entry together; and the last one knows no punctuation
and strips the value.

* `lookups_agree_iff` — when the three find the same entry;
* `lookups_disagree` — a region that is posted and counted, but not stored.
-/
import Sda.Lib.Ranked
import Sda.Dropship.Variants

namespace Sda.Dropship

/-- `str.lower` and `str.isalnum`. -/
structure Casing where
  lower : String → String
  isalnum : Char → Bool
  lower_eq_empty : ∀ s, lower s = "" ↔ s = ""

/-- `str.lower` and `str.isalnum` on ASCII. -/
def Casing.ascii : Casing where
  lower := lowerText
  isalnum := Char.isAlphanum
  lower_eq_empty s := by simp [lowerText]

variable (c : Casing)

/-- **`_normalise_lookup_key`** and **`_normalise_variant_key`**. -/
def Casing.normalise (value : String) : String :=
  String.ofList ((c.lower value).toList.filter c.isalnum)

/-! ### What an entry is compared by -/

/-- The key is the value. -/
def keyed (value : String) (e : String × Entry) : Bool :=
  e.1 == value

/-- The key is the value up to case. -/
def Casing.sameKey (value : String) (e : String × Entry) : Bool :=
  c.lower e.1 == c.lower value

/-- The slug is the value up to case; an empty one is skipped. -/
def Casing.sameSlug (value : String) (e : String × Entry) : Bool :=
  e.2.slug != "" && c.lower e.2.slug == c.lower value

/-- The key or the slug is the value up to case. -/
def Casing.named (value : String) (e : String × Entry) : Bool :=
  c.lower e.1 == c.lower value || c.lower e.2.slug == c.lower value

/-- The key or the slug is the value up to punctuation, unless the value is nothing else. -/
def Casing.alike (value : String) (e : String × Entry) : Bool :=
  c.normalise value != "" &&
    (c.normalise e.1 == c.normalise value || c.normalise e.2.slug == c.normalise value)

/-! ### The lookups -/

/-- **`_lookup`**; the entries of a context have no `source_key` of their own. -/
def payloadLookup (entries : List (String × Entry)) (key : String) : Option (String × Entry) :=
  if key = "" then none
  else pick [keyed key, c.sameKey key, c.sameSlug key, c.alike key] entries

/-- The entry whose slug **`select_fixed`** returns. -/
def fixedLookup (entries : List (String × Entry)) (sourceKey : String) :
    Option (String × Entry) :=
  pick [keyed sourceKey, c.named sourceKey, c.alike sourceKey] entries

/-- **`_lookup_variant_entry`**, as `_resolve_subject_slug` calls it with an attribute. -/
def listingLookup (entries : List (String × Entry)) (value : String) : Option (String × Entry) :=
  if stripText value = "" then none
  else pick [keyed (stripText value), c.named (stripText value)] entries

theorem keyed_eq (value : String) :
    keyed value = fun e : String × Entry => decide (e.1 = value) := rfl

theorem named_ascii (value : String) :
    Casing.ascii.named value = fun e : String × Entry =>
      decide (lowerText e.1 = lowerText value) || decide (lowerText e.2.slug = lowerText value) :=
  rfl

theorem alike_ascii (value : String) :
    Casing.ascii.alike value = fun e : String × Entry => normaliseVariantKey value != "" &&
      (normaliseVariantKey e.1 == normaliseVariantKey value ||
        normaliseVariantKey e.2.slug == normaliseVariantKey value) := rfl

/-- A test under a condition. -/
theorem find?_guarded (b : Bool) (p : String × Entry → Bool) (entries : List (String × Entry)) :
    entries.find? (fun e => b && p e) = if b then entries.find? p else none := by
  cases b with
  | false => exact find?_none_iff.mpr fun _ _ => rfl
  | true => rfl

/-- The router returns the slug of its entry, and passes an unknown value through. -/
theorem selectFixed_eq (r : VariantRouter) (type : VariantType) (sourceKey : String) :
    r.selectFixed type sourceKey =
      ((fixedLookup .ascii (r.ctx type) sourceKey).map (·.2.slug)).getD sourceKey := by
  unfold VariantRouter.selectFixed fixedLookup
  rw [pick_cons, pick_cons, pick_cons, pick_nil, Option.or_none, keyed_eq, named_ascii,
    alike_ascii, find?_guarded]
  dsimp only
  generalize (r.ctx type).find? (fun e => decide (e.1 = sourceKey)) = exact
  generalize (r.ctx type).find? (fun e => decide (lowerText e.1 = lowerText sourceKey) ||
    decide (lowerText e.2.slug = lowerText sourceKey)) = upToCase
  rcases exact with - | e
  · rcases upToCase with - | e
    · by_cases hempty : normaliseVariantKey sourceKey = ""
      · rw [if_pos hempty, hempty]
        rfl
      · rw [if_neg hempty, if_pos (bne_iff_ne.mpr hempty)]
        rfl
    · rfl
  · rfl

/-- A listing takes the slug of the first attribute that has an entry. -/
theorem resolveSubjectSlug_eq (subject : Subject) (ctx : Context) (type : VariantType) :
    resolveSubjectSlug subject ctx type = ((subject.attrs type).findSome? fun value =>
      (listingLookup .ascii (ctx type) value).map fun e => stripText e.2.slug).getD "" := by
  have hone : ∀ value, (if stripText value = "" then none
      else (lookupVariantEntry ctx type (stripText value)).map fun e => stripText e.slug) =
      (listingLookup .ascii (ctx type) value).map fun e => stripText e.2.slug := by
    intro value
    unfold listingLookup
    split
    · rfl
    · rw [pick_cons, pick_cons, pick_nil, Option.or_none, keyed_eq, named_ascii]
      unfold lookupVariantEntry
      dsimp only
      generalize (ctx type).find? (fun e => decide (e.1 = stripText value)) = exact
      generalize (ctx type).find? (fun e =>
        decide (lowerText e.1 = lowerText (stripText value)) ||
          decide (lowerText e.2.slug = lowerText (stripText value))) = upToCase
      rcases exact with - | e
      · rcases upToCase with - | e <;> rfl
      · rfl
  unfold resolveSubjectSlug
  rw [List.findSome?_map]
  congr 2
  funext value
  exact hone value

/-- The variant of the payload, of the capacity check and of the listing are one. -/
structure LookupsAgree (entries : List (String × Entry)) (value : String) : Prop where
  payload : payloadLookup c entries value = fixedLookup c entries value
  listing : fixedLookup c entries value = listingLookup c entries value

/-! ### When they agree -/

/-- What the value must not leave open. -/
structure Unambiguous (entries : List (String × Entry)) (value : String) : Prop where
  /-- An empty value names no entry. -/
  empty : value = "" → ∀ e ∈ entries, e.1 ≠ "" ∧ e.2.slug ≠ ""
  /-- Unless a key is the value, no entry whose slug is the value up to case stands before the
  first whose key is. -/
  keys_first : value ≠ "" → (∀ e ∈ entries, e.1 ≠ value) →
    NoneBefore (c.sameSlug value) (c.sameKey value) entries
  /-- A value without space around it names an entry up to case, or none up to punctuation. -/
  spelled : value ≠ "" → stripText value = value →
    (∃ e ∈ entries, c.named value e = true) ∨ ∀ e ∈ entries, c.alike value e = false
  /-- With space around it, it comes to the entry that the stripped value names. -/
  trimmed : stripText value ≠ value → ∀ e,
    (First (keyed value) entries e ∨ (∀ d ∈ entries, d.1 ≠ value) ∧
      (First (c.named value) entries e ∨ (∀ d ∈ entries, c.named value d = false) ∧
        First (c.alike value) entries e)) ↔
    stripText value ≠ "" ∧ (First (keyed (stripText value)) entries e ∨
      (∀ d ∈ entries, d.1 ≠ stripText value) ∧ First (c.named (stripText value)) entries e)

variable {c} {entries : List (String × Entry)} {value : String}

/-- Where the value is not empty, the slug of an entry is one it is compared with. -/
theorem named_eq (hvalue : value ≠ "") (e : String × Entry) :
    c.named value e = (c.sameKey value e || c.sameSlug value e) := by
  unfold Casing.named Casing.sameKey Casing.sameSlug
  by_cases hslug : e.2.slug = ""
  · have hempty : c.lower "" ≠ c.lower value := by
      rw [(c.lower_eq_empty "").mpr rfl]
      exact fun h => hvalue ((c.lower_eq_empty value).mp h.symm)
    simp [hslug, hempty]
  · have hskip : (e.2.slug != "") = true := bne_iff_ne.mpr hslug
    rw [hskip, Bool.true_and]

/-- **The payload and the capacity check.** -/
theorem payload_eq_fixed_iff (hvalue : value ≠ "") :
    payloadLookup c entries value = fixedLookup c entries value ↔
      ((∀ e ∈ entries, e.1 ≠ value) → NoneBefore (c.sameSlug value) (c.sameKey value) entries) := by
  have heither : c.named value = fun e => c.sameKey value e || c.sameSlug value e := by
    funext e
    exact named_eq hvalue e
  unfold payloadLookup fixedLookup
  rw [if_neg hvalue, heither]
  by_cases hkey : ∃ e ∈ entries, e.1 = value
  · obtain ⟨e, he, hkey⟩ := hkey
    have hpass : keyed value e = true := beq_iff_eq.mpr hkey
    rw [pick_of_pass he hpass, pick_of_pass he hpass]
    exact iff_of_true rfl fun hnone => absurd hkey (hnone e he)
  · push Not at hkey
    have hfail : ∀ e ∈ entries, keyed value e = false := fun e he => beq_false_of_ne (hkey e he)
    rw [pick_of_fail hfail, pick_of_fail hfail, pick_merge_iff]
    exact ⟨fun h _ => h, fun h => h hkey⟩

/-- A key that is the value names its entry. -/
theorem named_of_keyed {e : String × Entry} (h : keyed value e = true) :
    c.named value e = true := by
  rw [keyed, beq_iff_eq] at h
  simp [Casing.named, h]

/-- **The capacity check and the listing**, for a value without space around it. -/
theorem fixed_eq_listing_iff (hvalue : value ≠ "") (hstrip : stripText value = value) :
    fixedLookup c entries value = listingLookup c entries value ↔
      (∃ e ∈ entries, c.named value e = true) ∨ ∀ e ∈ entries, c.alike value e = false := by
  unfold fixedLookup listingLookup
  rw [hstrip, if_neg hvalue]
  refine (pick_drop_iff [keyed value, c.named value] _ _).trans (or_congr_left ?_)
  constructor
  · rintro ⟨p, hp, e, he, hpass⟩
    rcases List.mem_cons.mp hp with rfl | hp
    · exact ⟨e, he, named_of_keyed hpass⟩
    · rw [List.mem_singleton.mp hp] at hpass
      exact ⟨e, he, hpass⟩
  · rintro ⟨e, he, hnamed⟩
    exact ⟨_, by simp, e, he, hnamed⟩

/-- The stripped value is empty where the value is. -/
theorem stripText_empty : stripText "" = "" := rfl

theorem forall_keyed_iff :
    (∀ e ∈ entries, keyed value e = false) ↔ ∀ e ∈ entries, e.1 ≠ value := by
  simp [keyed]

/-- Which entry the lookups come to, for a value with space around it. -/
theorem fixed_eq_listing_iff_of_ne :
    fixedLookup c entries value = listingLookup c entries value ↔ ∀ e,
      (First (keyed value) entries e ∨ (∀ d ∈ entries, d.1 ≠ value) ∧
        (First (c.named value) entries e ∨ (∀ d ∈ entries, c.named value d = false) ∧
          First (c.alike value) entries e)) ↔
      stripText value ≠ "" ∧ (First (keyed (stripText value)) entries e ∨
        (∀ d ∈ entries, d.1 ≠ stripText value) ∧
          First (c.named (stripText value)) entries e) := by
  have hfixed : ∀ e, fixedLookup c entries value = some e ↔
      (First (keyed value) entries e ∨ (∀ d ∈ entries, d.1 ≠ value) ∧
        (First (c.named value) entries e ∨ (∀ d ∈ entries, c.named value d = false) ∧
          First (c.alike value) entries e)) := by
    intro e
    unfold fixedLookup
    rw [pick_eq_some_iff, pick_eq_some_iff, pick_eq_some_iff, pick_nil, forall_keyed_iff]
    simp
  have hlisting : ∀ e, listingLookup c entries value = some e ↔
      stripText value ≠ "" ∧ (First (keyed (stripText value)) entries e ∨
        (∀ d ∈ entries, d.1 ≠ stripText value) ∧
          First (c.named (stripText value)) entries e) := by
    intro e
    unfold listingLookup
    split
    · next hempty => simp [hempty]
    · next hne =>
      rw [pick_eq_some_iff, pick_eq_some_iff, pick_nil, forall_keyed_iff]
      simp [hne]
  rw [Option.ext_iff]
  exact forall_congr' fun e => iff_congr (hfixed e) (hlisting e)

/-- An empty value is looked up by the capacity check only. -/
theorem agree_empty_iff :
    LookupsAgree c entries "" ↔ ∀ e ∈ entries, e.1 ≠ "" ∧ e.2.slug ≠ "" := by
  have hpayload : payloadLookup c entries "" = none := rfl
  have hlisting : listingLookup c entries "" = none := rfl
  have hlower : c.lower "" = "" := (c.lower_eq_empty "").mpr rfl
  have hfixed : fixedLookup c entries "" = none ↔ ∀ e ∈ entries, e.1 ≠ "" ∧ e.2.slug ≠ "" := by
    unfold fixedLookup
    rw [pick_eq_none_iff]
    simp only [List.mem_cons, List.not_mem_nil, or_false, forall_eq_or_imp, forall_eq]
    constructor
    · rintro ⟨-, hnamed, -⟩ e he
      have := hnamed e he
      simpa [Casing.named, hlower, c.lower_eq_empty] using this
    · intro h
      refine ⟨fun e he => ?_, fun e he => ?_, fun e he => ?_⟩
      · simpa [keyed] using (h e he).1
      · simpa [Casing.named, hlower, c.lower_eq_empty] using h e he
      · simp [Casing.alike, Casing.normalise, hlower]
  constructor
  · rintro ⟨h, -⟩
    rw [hpayload] at h
    exact hfixed.mp h.symm
  · intro h
    have hnone := hfixed.mpr h
    exact ⟨hpayload.trans hnone.symm, hnone.trans hlisting.symm⟩

/-- **When the three lookups find the same entry.** -/
theorem lookups_agree_iff (c : Casing) (entries : List (String × Entry)) (value : String) :
    LookupsAgree c entries value ↔ Unambiguous c entries value := by
  by_cases hempty : value = ""
  · subst hempty
    rw [agree_empty_iff]
    constructor
    · intro h
      exact ⟨fun _ => h, fun hne => absurd rfl hne, fun hne => absurd rfl hne,
        fun hne => absurd rfl hne⟩
    · intro h
      exact h.empty rfl
  have hpayload : payloadLookup c entries value = fixedLookup c entries value ↔ _ :=
    payload_eq_fixed_iff hempty
  by_cases hstrip : stripText value = value
  · have hlisting : fixedLookup c entries value = listingLookup c entries value ↔ _ :=
      fixed_eq_listing_iff hempty hstrip
    constructor
    · rintro ⟨h, h'⟩
      exact ⟨fun he => absurd he hempty, fun _ => hpayload.mp h, fun _ _ => hlisting.mp h',
        fun hne => absurd hstrip hne⟩
    · intro h
      exact ⟨hpayload.mpr (h.keys_first hempty), hlisting.mpr (h.spelled hempty hstrip)⟩
  · have hlisting : fixedLookup c entries value = listingLookup c entries value ↔ _ :=
      fixed_eq_listing_iff_of_ne
    constructor
    · rintro ⟨h, h'⟩
      exact ⟨fun he => absurd he hempty, fun _ => hpayload.mp h, fun _ he => absurd he hstrip,
        fun _ => hlisting.mp h'⟩
    · intro h
      exact ⟨hpayload.mpr (h.keys_first hempty), hlisting.mpr (h.trimmed hstrip)⟩

/-- **A region that is posted and counted but not stored.** -/
theorem lookups_disagree :
    ¬ ∀ (entries : List (String × Entry)) (value : String), LookupsAgree .ascii entries value := by
  intro h
  exact absurd (h [("North America", ⟨"na", 200, 0, 0⟩)] "North-America").listing
    (by decide +kernel)

end Sda.Dropship
