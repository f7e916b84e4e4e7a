/-
Sda/Renewal/MartIdentity.lean

The identity of a Mart listing across its renewals
(sync/services/pa_mart_offer_identity.py).

A listing carries an offer id when it is its current one, or when a succeeded
attempt of it names the id, as the old one or as the new.  `resolvePaMartListing`
reads off what is carried (`resolve_iff`); the collision check of the renewal
keeps it apart between listings (`identified_renew`); and what is carried is what
has ever been held, since it grows by the new current id and by nothing else
(`Records`).
-/
import Mathlib.Algebra.Group.Int.Defs
import Sda.Renewal.MartOnce

namespace Sda.Mart

/-! ### The look-up -/

/-- The argument `offer_id`. -/
inductive OfferIdValue
  | bool (b : Bool)
  | int (n : Int)
  | text (s : String)
  | other
  deriving DecidableEq, Repr

def maxOfferIdDigits : Nat := 16

/-- `s.isascii()`. -/
def isAscii (s : String) : Bool :=
  s.toList.all fun c => c.toNat < 128

/-- `s.isdigit()`, on ASCII texts. -/
def isDigitText (s : String) : Bool :=
  !s.toList.isEmpty && s.toList.all fun c => '0' ≤ c && c ≤ '9'

/-- The text half of `_exact_offer_id`. -/
def exactText (s : String) : Option String :=
  if !(1 ≤ s.toList.length && s.toList.length ≤ maxOfferIdDigits) || !isAscii s ||
      !isDigitText s || s.toList.head? == some '0' then none
  else some s

/-- **`_exact_offer_id`**. -/
def exactOfferId (offerId : OfferIdValue) : Option String :=
  match offerId with
  | .bool _ => none
  | .other => none
  | .int n => if 0 < n ∧ n < 10 ^ maxOfferIdDigits then exactText (toString n) else none
  | .text s => exactText s

def martSlug : String := "playerauctions-csgosmurfkings"

/-- **`is_pa_mart_identity_account`**. -/
def isPaMartIdentityAccount (account : Obj Account) : Bool :=
  account.row.provider == .playerauctions && account.row.slug == martSlug

/-- `historical_listing_ids`: the listings whose succeeded attempts name the id. -/
def historicalListingIds (s : Books) (account : Nat) (id : String) : List Nat :=
  (s.attempts.select fun _ a =>
    a.integrationAccount == some account &&
      (s.listings.get? a.listing).bind Listing.integrationAccount == some account &&
      a.status == .succeeded && (a.oldOfferId == id || a.newOfferId == id)).map
    fun a => a.2.listing

/-- The listings that are at the id or were. -/
def candidates (s : Books) (account : Nat) (id : String) : List Nat :=
  s.listings.keys fun k l =>
    l.integrationAccount == some account &&
      (l.storeListingId == id || (historicalListingIds s account id).contains k)

/-- **`resolve_pa_mart_listing`**: the key of the one listing the id names. -/
def resolvePaMartListing (s : Books) (account : Obj Account) (offerId : OfferIdValue) :
    Option Nat :=
  if !isPaMartIdentityAccount account then none
  else
    match exactOfferId offerId with
    | none => none
    | some id =>
      match ((candidates s account.pk id).mergeSort (· ≤ ·)).take 2 with
      | [k] => some k
      | _ => none

theorem one_le_iff (c : Char) : '1' ≤ c ↔ '0' ≤ c ∧ c ≠ '0' := by
  have h : c = '0' ↔ c.toNat = 48 :=
    ⟨fun h => by rw [h]; rfl, fun h => Char.ext (UInt32.toNat_inj.mp h)⟩
  rw [Ne, h]
  show 49 ≤ c.toNat ↔ 48 ≤ c.toNat ∧ _
  omega

/-- The ids the look-up accepts are those a renewal is made from and to. -/
theorem exactText_eq (s : String) : exactText s = if isOfferId s then some s else none := by
  have hascii : ∀ l : List Char, (l.all fun c => '0' ≤ c && c ≤ '9') = true →
      (l.all fun c => c.toNat < 128) = true := by
    intro l h
    rw [List.all_eq_true] at h ⊢
    intro c hc
    have hdigit := h c hc
    simp only [Bool.and_eq_true, decide_eq_true_eq] at hdigit ⊢
    have hle : c.toNat ≤ '9'.toNat := hdigit.2
    exact hle.trans_lt (by decide)
  rw [exactText, isOfferId, isAscii, isDigitText, maxOfferIdDigits]
  rcases s.toList with - | ⟨c, cs⟩
  · rfl
  · have hone := one_le_iff c
    have hall := hascii (c :: cs)
    have hlen : (c :: cs).length ≤ 16 ↔ cs.length ≤ 15 := by
      rw [List.length_cons]
      omega
    have hpos : 1 ≤ (c :: cs).length := by simp
    have hdigits : ((c :: cs).all fun c => decide ('0' ≤ c) && decide (c ≤ '9')) = true ↔
        ('0' ≤ c ∧ c ≤ '9') ∧ (cs.all fun d => decide ('0' ≤ d) && decide (d ≤ '9')) = true := by
      simp
    grind

/-! ### What a listing carries -/

variable {lib : Library} {runs : List Run} {i j k n p : Nat} {s s' : Books} {r : Run}
  {w : World} {ctx : Context} {lead : Int} {a b : Obj Attempt} {fingerprint : List Nat}
  {id : String}

/-- The listing `k` of account `p` is at the offer id. -/
def At (s : Books) (p k : Nat) (id : String) : Prop :=
  ∃ l, s.listings.get? k = some l ∧ l.integrationAccount = some p ∧ l.storeListingId = id

/-- A succeeded attempt of the listing `k` names the offer id. -/
def Aliased (s : Books) (p k : Nat) (id : String) : Prop :=
  ∃ n a, s.attempts.get? n = some a ∧ a.listing = k ∧ a.integrationAccount = some p ∧
    a.status = .succeeded ∧ (a.oldOfferId = id ∨ a.newOfferId = id)

def Carries (s : Books) (p k : Nat) (id : String) : Prop :=
  At s p k id ∨ Aliased s p k id

/-- Every attempt is of the account of its listing, and no two listings of account `p` carry
one id. -/
structure Identified (p : Nat) (s : Books) : Prop where
  accounts : ∀ n a, s.attempts.get? n = some a →
    ∃ l, s.listings.get? a.listing = some l ∧ l.integrationAccount = a.integrationAccount
  distinct : ∀ id j k, Carries s p j id → Carries s p k id → j = k

/-- What is carried grows by what the listings are at. -/
def Records (p : Nat) (s s' : Books) : Prop :=
  ∀ k id, Carries s' p k id ↔ Carries s p k id ∨ At s' p k id

theorem take_two_sorted_iff {l : List Nat} :
    (l.mergeSort (· ≤ ·)).take 2 = [k] ↔ l = [k] := by
  have hperm : (l.mergeSort (· ≤ ·)).Perm l := List.mergeSort_perm l _
  constructor
  · intro h
    have hlen := congrArg List.length h
    rw [List.length_take, List.length_singleton] at hlen
    have hall : (l.mergeSort (· ≤ ·)).take 2 = l.mergeSort (· ≤ ·) :=
      List.take_of_length_le (by omega)
    rw [← hall, h] at hperm
    exact List.perm_singleton.mp hperm.symm
  · rintro rfl
    rw [List.perm_singleton.mp hperm]
    rfl

theorem mem_historicalListingIds (hs : Identified p s) :
    k ∈ historicalListingIds s p id ↔ Aliased s p k id := by
  rw [historicalListingIds, List.mem_map]
  constructor
  · rintro ⟨⟨n, a⟩, hin, rfl⟩
    obtain ⟨ha, hsel⟩ := Table.mem_select.mp hin
    simp only [Bool.and_eq_true, Bool.or_eq_true, beq_iff_eq] at hsel
    obtain ⟨⟨⟨haccount, -⟩, hdone⟩, hnames⟩ := hsel
    exact ⟨n, a, ha, rfl, haccount, hdone, hnames⟩
  · rintro ⟨n, a, ha, rfl, haccount, hdone, hnames⟩
    obtain ⟨l, hl, hof⟩ := hs.accounts n a ha
    have hlisting : (s.listings.get? a.listing).bind Listing.integrationAccount = some p := by
      rw [hl, Option.bind_some, hof, haccount]
    refine ⟨(n, a), Table.mem_select.mpr ⟨ha, ?_⟩, rfl⟩
    simp only [Bool.and_eq_true, Bool.or_eq_true, beq_iff_eq]
    exact ⟨⟨⟨haccount, hlisting⟩, hdone⟩, hnames⟩

theorem mem_candidates (hs : Identified p s) : k ∈ candidates s p id ↔ Carries s p k id := by
  rw [candidates, Table.mem_keys]
  simp only [Bool.and_eq_true, Bool.or_eq_true, beq_iff_eq, List.contains_iff_mem,
    mem_historicalListingIds hs]
  constructor
  · rintro ⟨l, hl, hof, hat | halias⟩
    · exact Or.inl ⟨l, hl, hof, hat⟩
    · exact Or.inr halias
  · rintro (⟨l, hl, hof, hat⟩ | halias)
    · exact ⟨l, hl, hof, Or.inl hat⟩
    · have hrow := halias
      obtain ⟨n, a, ha, rfl, haccount, -⟩ := hrow
      obtain ⟨l, hl, hof⟩ := hs.accounts n a ha
      exact ⟨l, hl, hof.trans haccount, Or.inr halias⟩

/-- An id has no other candidate than the listing that carries it. -/
theorem candidates_eq_singleton_iff (hs : Identified p s) :
    candidates s p id = [k] ↔ Carries s p k id := by
  rw [← mem_candidates hs]
  constructor
  · intro h
    rw [h]
    exact List.mem_singleton_self k
  · intro hk
    have hnodup : (candidates s p id).Nodup := Table.select_keys_nodup
    apply List.perm_singleton.mp
    apply (List.perm_ext_iff_of_nodup hnodup (List.nodup_singleton k)).mpr
    intro j
    rw [List.mem_singleton]
    constructor
    · intro hj
      exact hs.distinct id j k ((mem_candidates hs).mp hj) ((mem_candidates hs).mp hk)
    · rintro rfl
      exact hk

/-- **The look-up reads off what is carried.** -/
theorem resolve_iff {account : Obj Account} {value : OfferIdValue}
    (hs : Identified account.pk s) :
    resolvePaMartListing s account value = some k ↔
      isPaMartIdentityAccount account = true ∧
        ∃ id, exactOfferId value = some id ∧ Carries s account.pk k id := by
  rw [resolvePaMartListing]
  by_cases hmart : isPaMartIdentityAccount account = true
  swap
  · simp [hmart]
  rcases hid : exactOfferId value with - | id
  · simp [hmart]
  simp only [hmart, Bool.not_true, Bool.false_eq_true, if_false, true_and, Option.some.injEq,
    exists_eq_left']
  rw [← candidates_eq_singleton_iff hs, ← take_two_sorted_iff]
  split
  · next j hj =>
    rw [hj]
    simp
  · next hne =>
    constructor
    · intro h
      cases h
    · exact fun h => absurd h (hne k)

/-! ### What a transaction does to it -/

/-- The listings and the succeeded attempts stay, and every attempt is of the account of its
listing or keeps both. -/
structure NamesKept (s s' : Books) : Prop where
  listings : s'.listings = s.listings
  succeeded : ∀ n a, a.status = .succeeded →
    (s'.attempts.get? n = some a ↔ s.attempts.get? n = some a)
  accounts : ∀ n a, s'.attempts.get? n = some a →
    (∃ l, s.listings.get? a.listing = some l ∧ l.integrationAccount = a.integrationAccount) ∨
      ∃ b, s.attempts.get? n = some b ∧ b.listing = a.listing ∧
        b.integrationAccount = a.integrationAccount

theorem NamesKept.refl (s : Books) : NamesKept s s :=
  ⟨rfl, fun _ _ _ => Iff.rfl, fun _ a ha => Or.inr ⟨a, ha, rfl, rfl⟩⟩

theorem namesKept_call (s : Books) (x : Call) : NamesKept s (s.call x) :=
  ⟨rfl, fun _ _ _ => Iff.rfl, fun _ a ha => Or.inr ⟨a, ha, rfl, rfl⟩⟩

theorem namesKept_create {l : Listing} {c : Attempt} (hnew : s.create c = some s')
    (hpending : c.status = .pending) (hl : s.listings.get? c.listing = some l)
    (haccount : c.integrationAccount = l.integrationAccount) : NamesKept s s' := by
  obtain ⟨hattempts, -, hlistings, -, -⟩ := create_some hnew
  refine ⟨hlistings, fun n a hdone => ?_, fun n a ha => ?_⟩
  · rw [hattempts, Table.get?_create]
    split
    · next hn =>
      -- the new row is pending, and no row had its key
      rw [hn, Table.get?_nextKey]
      constructor
      · intro h
        cases h
        rw [hpending] at hdone
        cases hdone
      · intro h
        cases h
    · exact Iff.rfl
  · rw [hattempts, Table.get?_create] at ha
    split at ha
    · cases ha
      exact Or.inl ⟨l, hl, haccount.symm⟩
    · exact Or.inr ⟨a, ha, rfl, rfl⟩

/-- A pending attempt is finished without success. -/
theorem namesKept_finish {c : Attempt} {status : Status} {reason newId : String}
    {expiry : Option Int} (hc : s.attempts.get? n = some c) (hpending : c.status = .pending)
    (hstatus : status ≠ .succeeded) : NamesKept s (s.finish n status reason newId expiry) := by
  refine ⟨rfl, fun k a hdone => ?_, fun k a ha => ?_⟩
  · by_cases hk : k = n
    · subst hk
      rw [get?_finish_self hc, hc]
      constructor
      · intro h
        cases h
        exact absurd hdone hstatus
      · intro h
        cases h
        rw [hpending] at hdone
        cases hdone
    · rw [get?_finish_ne hk]
  · by_cases hk : k = n
    · subst hk
      rw [get?_finish_self hc] at ha
      cases ha
      exact Or.inr ⟨c, hc, rfl, rfl⟩
    · rw [get?_finish_ne hk] at ha
      exact Or.inr ⟨a, ha, rfl, rfl⟩

theorem NamesKept.carries_iff (h : NamesKept s s') : Carries s' p k id ↔ Carries s p k id := by
  have halias : Aliased s' p k id ↔ Aliased s p k id := by
    constructor
    · rintro ⟨n, a, ha, hof, haccount, hdone, hnames⟩
      exact ⟨n, a, (h.succeeded n a hdone).mp ha, hof, haccount, hdone, hnames⟩
    · rintro ⟨n, a, ha, hof, haccount, hdone, hnames⟩
      exact ⟨n, a, (h.succeeded n a hdone).mpr ha, hof, haccount, hdone, hnames⟩
  rw [Carries, Carries, halias, At, At, h.listings]

theorem NamesKept.step (h : NamesKept s s') (hs : Identified p s) :
    Identified p s' ∧ Records p s s' := by
  refine ⟨⟨fun n a ha => ?_, fun id j k hj hk => ?_⟩, fun k id => ?_⟩
  · rw [h.listings]
    rcases h.accounts n a ha with hnew | ⟨b, hb, hlisting, haccount⟩
    · exact hnew
    · rw [← hlisting, ← haccount]
      exact hs.accounts n b hb
  · exact hs.distinct id j k (h.carries_iff.mp hj) (h.carries_iff.mp hk)
  · rw [h.carries_iff]
    constructor
    · exact Or.inl
    · rintro (hcarries | hat)
      · exact hcarries
      · exact h.carries_iff.mp (Or.inl hat)

/-! ### A renewal -/

/-- No other listing of the account carries an id that does not collide. -/
theorem carries_of_collision {listingId : Nat} (hlocked : Locked s listingId ctx)
    (hof : ctx.listing.row.integrationAccount = some p)
    (hfree : collision s w ctx id = false) : ∀ k, Carries s p k id → k = listingId := by
  rw [collision, Bool.or_eq_false_iff, Bool.or_eq_false_iff, Bool.or_eq_false_iff, hof,
    hlocked.pk] at hfree
  obtain ⟨⟨⟨hlistings, -⟩, -⟩, hattempts⟩ := hfree
  rintro k (⟨l, hl, haccount, hat⟩ | ⟨n, a, ha, hk, haccount, -, hnames⟩)
  · have h := Table.any_eq_false_iff.mp hlistings k l hl
    simpa [haccount, hat] using h
  · have h := Table.any_eq_false_iff.mp hattempts n a ha
    rw [← hk]
    rcases hnames with hold | hnew
    · simpa [haccount, hold] using h
    · simpa [haccount, hnew] using h

section Renew

variable {c : Attempt} {listingId : Nat} {newId : String} {date now : Int}

/-- The books after the success of the attempt `n`. -/
abbrev renewed (s : Books) (ctx : Context) (n : Nat) (newId : String) (date now : Int) : Books :=
  (s.renew ctx newId date now).finish n .succeeded "verified_renewal" newId (some date)

theorem get?_renewed_listings (hlocked : Locked s listingId ctx) :
    (renewed s ctx n newId date now).listings.get? k =
      if k = listingId then
        some { ctx.listing.row with
          storeListingId := newId, marketplaceExpiresAt := some date, listedAt := some now }
      else s.listings.get? k := by
  have h : (renewed s ctx n newId date now).listings.get? k = (s.listings.get? k).map fun l =>
      if k == ctx.listing.pk then
        { l with storeListingId := newId, marketplaceExpiresAt := some date,
                 listedAt := some now } else l :=
    Table.get?_updateWhere _ _ _
  rw [h, hlocked.pk]
  by_cases hk : k = listingId
  · subst hk
    simp [hlocked.listing]
  · simp [hk]

/-- The listing carries the new id besides what it carried, and so does no other. -/
theorem carries_renewed (hc : s.attempts.get? n = some c) (hpending : c.status = .pending)
    (hlisting : c.listing = listingId) (hlocked : Locked s listingId ctx)
    (hold : ctx.listing.row.storeListingId = c.oldOfferId) (hnew : newId ≠ "")
    (haccount : ctx.listing.row.integrationAccount = c.integrationAccount) :
    Carries (renewed s ctx n newId date now) p k id ↔
      Carries s p k id ∨ k = listingId ∧ c.integrationAccount = some p ∧ id = newId := by
  have hat : At (renewed s ctx n newId date now) p k id ↔
      k ≠ listingId ∧ At s p k id ∨
        k = listingId ∧ c.integrationAccount = some p ∧ id = newId := by
    rw [At, get?_renewed_listings hlocked]
    by_cases hk : k = listingId
    · simp [hk, haccount, eq_comm]
    · simp [hk, At]
  have hwas : At s p listingId id ↔ c.integrationAccount = some p ∧ c.oldOfferId = id := by
    rw [At, hlocked.listing]
    simp [hold, haccount]
  have hrow : (renewed s ctx n newId date now).attempts.get? n =
      some (c.finished .succeeded "verified_renewal" newId (some date)) :=
    get?_finish_self (s := s.renew ctx newId date now) hc
  have hother : ∀ j, j ≠ n →
      (renewed s ctx n newId date now).attempts.get? j = s.attempts.get? j :=
    fun j hj => get?_finish_ne (s := s.renew ctx newId date now) hj
  have halias : Aliased (renewed s ctx n newId date now) p k id ↔
      Aliased s p k id ∨
        k = listingId ∧ c.integrationAccount = some p ∧ (c.oldOfferId = id ∨ newId = id) := by
    constructor
    · rintro ⟨j, a, ha, hof, hp, hdone, hnames⟩
      by_cases hj : j = n
      · subst hj
        rw [hrow] at ha
        cases ha
        refine Or.inr ⟨hof.symm.trans hlisting, hp, ?_⟩
        simpa [Attempt.finished, hnew] using hnames
      · rw [hother j hj] at ha
        exact Or.inl ⟨j, a, ha, hof, hp, hdone, hnames⟩
    · rintro (⟨j, a, ha, hof, hp, hdone, hnames⟩ | ⟨hk, hp, hnames⟩)
      · refine ⟨j, a, ?_, hof, hp, hdone, hnames⟩
        rw [hother j, ha]
        rintro rfl
        rw [hc] at ha
        cases ha
        rw [hpending] at hdone
        cases hdone
      · refine ⟨n, _, hrow, hlisting.trans hk.symm, hp, rfl, ?_⟩
        simpa [Attempt.finished, hnew] using hnames
  rw [Carries, hat, halias, Carries]
  by_cases hk : k = listingId
  · subst hk
    rw [hwas]
    grind
  · simp [hk]

/-- **A renewal keeps the identities apart.** -/
theorem identified_renew (hs : Identified p s) (hc : s.attempts.get? n = some c)
    (hpending : c.status = .pending) (hlisting : c.listing = listingId)
    (hlocked : Locked s listingId ctx) (hold : ctx.listing.row.storeListingId = c.oldOfferId)
    (hnew : newId ≠ "") (hfree : collision s w ctx newId = false) :
    Identified p (renewed s ctx n newId date now) ∧
      Records p s (renewed s ctx n newId date now) := by
  obtain ⟨l, hl, haccount⟩ := hs.accounts n c hc
  rw [hlisting, hlocked.listing] at hl
  cases hl
  have hcarries : ∀ k id, Carries (renewed s ctx n newId date now) p k id ↔
      Carries s p k id ∨ k = listingId ∧ c.integrationAccount = some p ∧ id = newId :=
    fun k id => carries_renewed hc hpending hlisting hlocked hold hnew haccount
  have halone : c.integrationAccount = some p → ∀ k, Carries s p k newId → k = listingId :=
    fun hp => carries_of_collision hlocked (haccount.trans hp) hfree
  refine ⟨⟨fun j a ha => ?_, fun id j k hj hk => ?_⟩, fun k id => ?_⟩
  · have hbefore : ∃ b, s.attempts.get? j = some b ∧ b.listing = a.listing ∧
        b.integrationAccount = a.integrationAccount := by
      by_cases hj : j = n
      · subst hj
        rw [get?_finish_self (s := s.renew ctx newId date now) hc] at ha
        cases ha
        exact ⟨c, hc, rfl, rfl⟩
      · rw [get?_finish_ne (s := s.renew ctx newId date now) hj] at ha
        exact ⟨a, ha, rfl, rfl⟩
    obtain ⟨b, hb, hof, hp⟩ := hbefore
    obtain ⟨l, hl, hl'⟩ := hs.accounts j b hb
    rw [← hof, ← hp, get?_renewed_listings hlocked]
    split
    · next hj =>
      rw [hj, hlocked.listing] at hl
      cases hl
      exact ⟨_, rfl, hl'⟩
    · exact ⟨l, hl, hl'⟩
  · rw [hcarries] at hj hk
    rcases hj with hj | ⟨hj, hp, hid⟩
    · rcases hk with hk | ⟨hk, hp, hid⟩
      · exact hs.distinct id j k hj hk
      · rw [hid] at hj
        rw [hk, halone hp j hj]
    · rcases hk with hk | ⟨hk, -, -⟩
      · rw [hid] at hk
        rw [hj, halone hp k hk]
      · rw [hj, hk]
  · rw [hcarries]
    constructor
    · rintro (hcarried | ⟨hk, hp, hid⟩)
      · exact Or.inl hcarried
      · have hrow : (renewed s ctx n newId date now).listings.get? k = _ :=
          get?_renewed_listings hlocked
        rw [if_pos hk] at hrow
        exact Or.inr ⟨_, hrow, haccount.trans hp, hid.symm⟩
    · rintro (hcarried | hat)
      · exact Or.inl hcarried
      · exact (hcarries k id).mp (Or.inl hat)

end Renew

/-! ### The transactions of a run -/

theorem createAttempt_named {listing : Listing} {previous : Int}
    (hl : s.listings.get? r.listingId = some listing) :
    NamesKept s (createAttempt lib r i listing previous ctx s).2 ∧
      ∀ a fingerprint,
        (createAttempt lib r i listing previous ctx s).1 = .attempt a fingerprint →
          a.row.listing = r.listingId := by
  rw [createAttempt]
  split
  · refine ⟨NamesKept.refl s, fun a fingerprint h => ?_⟩
    cases h
  · next s' hnew =>
    have hkept : NamesKept s s' := namesKept_create hnew rfl hl rfl
    cases r.claimCommit with
    | done =>
      refine ⟨hkept, fun a fingerprint h => ?_⟩
      cases h
      rfl
    | rolledBack =>
      refine ⟨NamesKept.refl s, fun a fingerprint h => ?_⟩
      cases h
    | lost =>
      refine ⟨hkept, fun a fingerprint h => ?_⟩
      cases h

/-- The claim: its attempt is of the listing of the run, and of the account of that. -/
theorem claim_named : NamesKept s (claim lib r lead i s).2 ∧
    ∀ a fingerprint, (claim lib r lead i s).1 = .attempt a fingerprint →
      a.row.listing = r.listingId := by
  apply claim_rule (K := fun c => NamesKept s c.2 ∧
    ∀ a fingerprint, c.1 = .attempt a fingerprint → a.row.listing = r.listingId)
  · refine fun answer => ⟨NamesKept.refl s, fun a fingerprint h => ?_⟩
    cases h
  · intro listing previous ctx hlisting _
    exact createAttempt_named hlisting

theorem preCall_named : NamesKept s (preCall lib r lead k fingerprint s).2 ∧
    ∀ b, (preCall lib r lead k fingerprint s).1 = .called b → s.attempts.get? k = some b.row := by
  have failed : NamesKept s ((.failed, s) : Called × Books).2 ∧
      ∀ b, ((.failed, s) : Called × Books).1 = .called b → s.attempts.get? k = some b.row := by
    refine ⟨NamesKept.refl s, fun b h => ?_⟩
    cases h
  rw [preCall]
  split
  · exact failed
  split
  · next ctx a _ ha =>
    split
    · refine ⟨NamesKept.refl s, fun b h => ?_⟩
      cases h
    next hpending =>
    rw [not_not] at hpending
    split
    · next code _ =>
      have hkept : NamesKept s (s.finish k .rejected code) :=
        namesKept_finish ha hpending (by decide)
      cases r.preCommit with
      | done =>
        refine ⟨hkept, fun b h => ?_⟩
        cases h
      | rolledBack => exact failed
      | lost =>
        refine ⟨hkept, fun b h => ?_⟩
        cases h
    · exact failed
    · refine ⟨namesKept_call s _, fun b h => ?_⟩
      cases h
      exact ha
  · exact failed

theorem giveUp_named {sent : Bool} {newId : String} {expiry : Option Int} :
    NamesKept s (giveUp r a sent newId expiry s).2 := by
  rw [giveUp]
  dsimp only
  split
  · exact NamesKept.refl s
  · next locked hlocked =>
    split
    · next hpending =>
      rcases r.giveUpCommit.settle_cases () s (s.finish a.pk .unknown _ newId expiry) with
        heq | ⟨-, heq⟩
      · rw [heq]
        exact namesKept_finish hlocked hpending (by decide)
      · rw [heq]
        exact NamesKept.refl s
    · exact NamesKept.refl s

theorem reverify_free {newId : String} {fresh : Context}
    (h : reverify lib r lead fingerprint a newId s w = .ok fresh) (hnew : newId ≠ "") :
    collision s w fresh newId = false := by
  unfold reverify at h
  obtain ⟨ctx, -, h⟩ := except_bind_ok.mp h
  obtain ⟨_, -, h⟩ := except_bind_ok.mp h
  obtain ⟨_, -, h⟩ := except_bind_ok.mp h
  obtain ⟨_, -, h⟩ := except_bind_ok.mp h
  obtain ⟨_, hfree, h⟩ := except_bind_ok.mp h
  cases h
  have hfree := refuseIf_ok hfree
  simpa [hnew] using hfree

/-- A verified answer has an id. -/
theorem verifiedResult_id {result : RenewResult} {previous now date : Int} {newId : String}
    (h : verifiedResult lib result previous now = (newId, some date, "")) : newId ≠ "" := by
  unfold verifiedResult at h
  split at h
  · dsimp only at h
    split at h
    · cases h
    · next hid =>
      split at h
      · cases h
      · split at h
        · cases h
        · split at h
          · cases h
          · cases h
          · split at h
            · cases h
            · cases h
              exact hid
  · cases h

/-- **From the answer on**, for an attempt of the listing of the run. -/
theorem settle_named (hs : Identified p s) (hheld : Holds i (callOf a) s)
    (hlisting : a.row.listing = r.listingId) :
    Identified p (settle lib r lead fingerprint a s).2 ∧
      Records p s (settle lib r lead fingerprint a s).2 := by
  obtain ⟨b, hb, hrun, held⟩ := hheld
  have hb : s.attempts.get? a.pk = some b := hb
  have hcycle := held.cycle
  rw [Attempt.cycle, Prod.mk.injEq, Prod.mk.injEq] at hcycle
  obtain ⟨hof, hold, -⟩ := hcycle
  apply settle_rule (K := fun s' => Identified p s' ∧ Records p s s')
  · exact (NamesKept.refl s).step hs
  · intro status reason newId expiry hstatus
    exact (namesKept_finish hb held.pending hstatus).step hs
  · intro result newId date w fresh _ hverified hfresh
    have hnew : newId ≠ "" := verifiedResult_id hverified
    obtain ⟨hlocked, hchecks⟩ := reverify_ok hfresh
    obtain ⟨hsame, -⟩ := freshChecks_ok hlocked hchecks
    exact identified_renew hs hb held.pending (hof.trans hlisting) hlocked
      (hsame.trans hold.symm) hnew (reverify_free hfresh hnew)

/-! ### Whole runs -/

/-- What a transaction of run `i` does, the identities included. -/
structure Names (lib : Library) (runs : List Run) (p i : Nat) (s s' : Books) : Prop where
  guar : Guar lib runs i s s'
  records : Identified p s → Identified p s' ∧ Records p s s'

theorem stable_of_guar {P : Books → Prop} (h : Stable (Others (Guar lib runs) i) P) :
    Stable (Others (Names lib runs p) i) P := by
  rintro s s' hP ⟨j, hj, hnames⟩
  exact h s s' hP ⟨j, hj, hnames.guar⟩

/-- **A whole run keeps the identities.** -/
theorem names_renewMartListing (hr : runs[i]? = some r) :
    RelyTriple (Others (Names lib runs p) i) (Names lib runs p i) Valid
      (renewMartListing lib r i) fun _ _ => True := by
  have hclaims : ∀ c, Stable (Others (Names lib runs p) i) fun s => Claims i c s ∧
      ∀ a fingerprint, c = .attempt a fingerprint → a.row.listing = r.listingId :=
    fun c => (stable_of_guar (stable_claims c)).and stable_fact
  have hcalls : ∀ (a : Obj Attempt) c, Stable (Others (Names lib runs p) i) fun s =>
      Calls i a.pk c s ∧ ∀ b, c = .called b → b.row.listing = r.listingId :=
    fun a c => (stable_of_guar (stable_calls c)).and stable_fact
  have hmine : ∀ a : Obj Attempt, Stable (Others (Names lib runs p) i) (Mine i a.pk) :=
    fun a => stable_of_guar stable_owns
  apply renewMartListing_rule (stable_of_guar stable_valid) hclaims hcalls
    (E := fun b _ => Mine i b.pk) fun b _ => hmine b
  · intro lead
    apply keeps_claim.strengthen (stable_of_guar stable_valid) hclaims fun _ h => h
    intro s _ hguar hclaim
    exact ⟨⟨hguar, claim_named.1.step⟩, hclaim, claim_named.2⟩
  · intro lead a fingerprint
    apply (keeps_preCall (x := callOf a) rfl).strengthen (hclaims _) (hcalls a)
      fun s hs => hs.1 _ _ rfl
    intro s hs hguar hcall
    refine ⟨⟨hguar, preCall_named.1.step⟩, hcall, fun b hb => ?_⟩
    obtain ⟨⟨c, hc, -, held⟩, -⟩ := hs.1 _ _ rfl
    have hc : s.attempts.get? a.pk = some c := hc
    have hrow : s.attempts.get? a.pk = some b.row := preCall_named.2 b hb
    rw [hrow] at hc
    cases hc
    exact (congrArg Prod.fst held.cycle).trans (hs.2 _ _ rfl)
  · intro lead a fingerprint b
    apply (keeps_settle hr).strengthen (hcalls a _) (fun _ => hmine b) fun s hs => hs.1.2 b rfl
    intro s hs hguar hanswer
    exact ⟨⟨hguar, fun h => settle_named h (hs.1.2 b rfl) (hs.2 b rfl)⟩, hanswer⟩
  · intro a
    apply keeps_giveUp.strengthen (hcalls a _) (fun _ => stable_true) fun s hs => hs.1.1
    exact fun s _ hguar _ => ⟨⟨hguar, giveUp_named.step⟩, trivial⟩
  · intro b newId expiry
    apply keeps_giveUp.strengthen (hmine b) (fun _ => stable_true) fun s hs => hs
    exact fun s _ hguar _ => ⟨⟨hguar, giveUp_named.step⟩, trivial⟩

/-! ### Every schedule -/

section Schedules

variable {listings : Table Listing} {activeOffers : Table OfferPoolActiveOffer}
  {items : Table OfferPoolItem}

/-- The listings of account `p` have pairwise distinct offer ids. -/
def DistinctIds (p : Nat) (listings : Table Listing) : Prop :=
  ∀ j k a b, listings.get? j = some a → listings.get? k = some b →
    a.integrationAccount = some p → b.integrationAccount = some p →
    a.storeListingId = b.storeListingId → j = k

/-- Before the first attempt a listing carries the id it is at. -/
theorem carries_start :
    Carries (start lib listings activeOffers items runs).store p k id ↔
      At (start lib listings activeOffers items runs).store p k id := by
  apply or_iff_left
  rintro ⟨n, a, ha, -⟩
  cases ha

theorem identified_start (h : DistinctIds p listings) :
    Identified p (start lib listings activeOffers items runs).store := by
  refine ⟨fun n a ha => ?_, fun id j k hj hk => ?_⟩
  · cases ha
  · obtain ⟨a, ha, hp, hat⟩ := carries_start.mp hj
    obtain ⟨b, hb, hp', hat'⟩ := carries_start.mp hk
    exact h j k a b ha hb hp hp' (hat.trans hat'.symm)

theorem allSafe_names :
    AllSafe (Names lib runs p) (start lib listings activeOffers items runs) := by
  intro i q hq
  have hq : (runs.mapIdx fun i r => renewMartListing lib r i)[i]? = some q := hq
  rw [List.getElem?_mapIdx] at hq
  obtain ⟨r, hr, rfl⟩ := Option.map_eq_some_iff.mp hq
  exact names_renewMartListing hr _ valid_start

theorem names_keep (i : Nat) (s s' : Books) (hs : Valid s ∧ Identified p s)
    (h : Names lib runs p i s s') : Valid s' ∧ Identified p s' :=
  ⟨h.guar.valid hs.1, (h.records hs.2).1⟩

/-- What is carried in the end is what has been held. -/
theorem carries_iff_ever (h : DistinctIds p listings) (schedule : List Nat) :
    Carries (run System.step (start lib listings activeOffers items runs) schedule).store p k id ↔
      Ever System.step (fun S => At S.store p k id)
        (start lib listings activeOffers items runs) schedule := by
  refine ever_iff_of_along (A := fun S : System Books Answer => Carries S.store p k id)
    carries_start ?_
  refine along_guar allSafe_names ⟨valid_start, identified_start h⟩ names_keep ?_ schedule
  intro S i hS hstep
  rcases hstep with hnames | heq
  · exact (hnames.records hS.2).2 k id
  · rw [heq]
    exact ((NamesKept.refl S.store).step hS.2).2 k id

end Schedules

/-- **The identity of a Mart listing.**  Whatever the runs are answered and however they
are scheduled, an id resolves to a listing of the Mart account exactly when it is canonical
and the listing has been at it. -/
theorem mart_identity (lib : Library) (listings : Table Listing)
    (activeOffers : Table OfferPoolActiveOffer) (items : Table OfferPoolItem) (runs : List Run)
    (schedule : List Nat) (account : Obj Account) (hdistinct : DistinctIds account.pk listings)
    (value : OfferIdValue) (k : Nat) :
    resolvePaMartListing (run System.step (start lib listings activeOffers items runs)
        schedule).store account value = some k ↔
      isPaMartIdentityAccount account = true ∧ ∃ id, exactOfferId value = some id ∧
        Ever System.step (fun S => At S.store account.pk k id)
          (start lib listings activeOffers items runs) schedule := by
  have hfinal := (always_store allSafe_names ⟨valid_start, identified_start hdistinct⟩ names_keep
    (S := start lib listings activeOffers items runs) schedule).last
  rw [resolve_iff hfinal.2]
  refine and_congr_right fun _ => exists_congr fun id => and_congr_right fun _ => ?_
  exact carries_iff_ever hdistinct schedule

/-- The Mart account. -/
def martAccount : Obj Account :=
  ⟨1, { slug := martSlug, provider := .playerauctions }⟩

theorem distinctIds_cloneListings : DistinctIds 1 cloneListings := by
  intro j k a b ha hb _ _ heq
  have hrows : ∀ k a, cloneListings.get? k = some a →
      k = 1 ∧ a.storeListingId = "500" ∨ k = 2 ∧ a.storeListingId = "700" := by
    intro k a ha
    have hin := Table.get?_eq_some_iff.mp ha
    simp only [cloneListings, List.mem_cons, Prod.mk.injEq, List.not_mem_nil, or_false] at hin
    rcases hin with ⟨hk, rfl⟩ | ⟨hk, rfl⟩
    · exact Or.inl ⟨hk, rfl⟩
    · exact Or.inr ⟨hk, rfl⟩
  rcases hrows j a ha with ⟨hj, hid⟩ | ⟨hj, hid⟩ <;>
    rcases hrows k b hb with ⟨hk, hid'⟩ | ⟨hk, hid'⟩
  · rw [hj, hk]
  · rw [hid, hid'] at heq
    exact absurd heq (by decide)
  · rw [hid, hid'] at heq
    exact absurd heq (by decide)
  · rw [hj, hk]

/-- The clone that was renewed from `700` to `900` is still found under its first id. -/
theorem mart_identity_renewed :
    DistinctIds 1 cloneListings ∧
      resolvePaMartListing (run System.step twoRuns [0, 1, 0, 1, 0]).store martAccount
        (.text "700") = some 2 :=
  ⟨distinctIds_cloneListings,
    (mart_identity plainLibrary cloneListings _ _ [openRun, openRun] [0, 1, 0, 1, 0] martAccount
      distinctIds_cloneListings (.text "700") 2).mpr
      ⟨rfl, "700", rfl, Or.inl ⟨_, rfl, rfl, rfl⟩⟩⟩

/-- A listing at an id that is not canonical is not found under it. -/
theorem mart_identity_fails :
    ¬ ∀ (lib : Library) (listings : Table Listing) (activeOffers : Table OfferPoolActiveOffer)
        (items : Table OfferPoolItem) (runs : List Run) (schedule : List Nat)
        (account : Obj Account), isPaMartIdentityAccount account = true →
      DistinctIds account.pk listings → ∀ id k,
        (resolvePaMartListing (run System.step (start lib listings activeOffers items runs)
            schedule).store account (.text id) = some k ↔
          Ever System.step (fun S => At S.store account.pk k id)
            (start lib listings activeOffers items runs) schedule) := by
  intro h
  have hdistinct : DistinctIds martAccount.pk (single 1
      { integrationAccount := some 1, storeListingId := "007", marketplaceExpiresAt := none
        game := some 1 }) := by
    intro j k a b ha hb _ _ _
    have hin := Table.get?_eq_some_iff.mp ha
    have hin' := Table.get?_eq_some_iff.mp hb
    simp only [single, List.mem_singleton, Prod.mk.injEq] at hin hin'
    rw [hin.1, hin'.1]
  have hheld := (h plainLibrary _ .empty .empty [] [] martAccount rfl hdistinct "007" 1).mpr
    ⟨_, rfl, rfl, rfl⟩
  exact absurd hheld (by decide)

end Sda.Mart
