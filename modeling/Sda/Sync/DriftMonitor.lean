/-
Sda/Sync/DriftMonitor.lean

The mini sync of the drift monitor (sync/services/eldorado/drift_monitor.py):
fetch the Active offers of one store, game and variant, apply those that are
not LISTED locally, and mark the LISTED listings that were not fetched as
DELETED.

The listings to delete are the complement of what was fetched, so how the
fetch loop ended matters: `Enumerated` is the way out after the last page,
`FailsAt` the one after a failed answer.  The code does not keep them apart.

Main result: `mini_sync_sound_iff`, when a mini sync deletes only listings
that are absent from a complete enumeration.
-/
import Sda.Lib.Text
import Sda.Sync.Models

namespace Sda.Sync

/-! ### Fetching -/

/-- An offer of a search page, as far as its application depends on it: `game`
and `variant` are what `resolve_game` and `extract_variant` make of it. -/
structure Offer where
  id : String
  offerState : String
  game : Option Nat
  variant : String
  deriving DecidableEq, Repr

/-- `EldoradoOfferSearchPage`. -/
structure SearchPage where
  pageIndex : Nat := 1
  totalPages : Nat := 0
  results : List Offer := []
  deriving DecidableEq, Repr

/-- What a call of `search_my_offers` comes to. -/
inductive SearchAnswer
  | page (data : SearchPage)
  /-- `not result.ok or result.data is None`. -/
  | failed
  | raised
  deriving DecidableEq, Repr

/-- `remote_offers[offer_id] = offer_dict`. -/
def insertOffer (o : Offer) : List Offer → List Offer
  | [] => [o]
  | x :: xs => if x.id = o.id then o :: xs else x :: insertOffer o xs

/-- The offers of a page; one without an id is left out. -/
def collectOffers (offers : List Offer) (results : List Offer) : List Offer :=
  results.foldl (fun offers o => if o.id = "" then offers else insertOffer o offers) offers

/-- The loop of `_run_mini_sync`, from a page on, for at most `calls` calls:
the offers collected, unless an exception or the end of the worker stops it. -/
def fetchActive (answer : Nat → SearchAnswer) : Nat → Nat → List Offer → Option (List Offer)
  | 0, _, _ => none
  | calls + 1, page, offers =>
    match answer page with
    | .raised => none
    | .failed => some offers
    | .page data =>
      if data.pageIndex ≥ data.totalPages then
        some (collectOffers offers data.results)
      else
        fetchActive answer calls (page + 1) (collectOffers offers data.results)

/-! ### Reconciling -/

/-- `STALE_GRACE_HOURS`. -/
def staleGrace : Nat := 6 * 3600

/-- The parameters of a mini sync. -/
structure MiniSync where
  store : Nat
  game : Nat
  variantSlug : String
  deriving DecidableEq, Repr

/-- The rows a mini sync works on; `raws` are the LISTINGS payloads of the
store. -/
structure ListingDb (ι : Type) where
  now : Nat
  listings : Table Listing
  products : Table DropshipProduct := Table.empty
  raws : String → Option (RawPayload ι) := fun _ => none

/-- `mapper.map_status`. -/
def mapStatus (offerState : String) : ListingStatus :=
  if lowerText offerState = "active" then .listed
  else if lowerText offerState = "paused" then .paused
  else .deleted

/-- How `parse_and_apply` ends: the listing is saved first, the owned products
are linked afterwards. -/
inductive ParseOutcome
  | applied
  | failedBefore
  | failedAfter
  deriving DecidableEq, Repr

/-- The columns an offer gives its listing. -/
def offerRow (now : Nat) (o : Offer) (r : Listing) : Listing :=
  { r with status := mapStatus o.offerState, game := o.game, variant := o.variant, updatedAt := now }

/-- The listing of an offer: at most one, `(integration_account,
store_listing_id)` is unique. -/
def isListingOf (store : Nat) (id : String) (r : Listing) : Bool :=
  r.integrationAccount == some store && r.storeListingId == id

/-- `_upsert_listing`. -/
def upsertListing (listings : Table Listing) (now store : Nat) (o : Offer) : Table Listing :=
  if listings.any fun _ r => isListingOf store o.id r then
    listings.updateWhere (fun _ r => isListingOf store o.id r) (offerRow now o)
  else
    listings.create
      (offerRow now o { integrationAccount := some store, storeListingId := o.id })

/-- `RawPayload.objects.update_or_create`, and the status saved after parsing. -/
def refreshRaw {ι : Type} (now : Nat) (payload : ι) (applied : Bool)
    (raw : Option (RawPayload ι)) : RawPayload ι :=
  let status := if applied then .parsed else .pending
  match raw with
  | none => { payload, firstSeenAt := now, lastSeenAt := now, fetchedAt := now, parseStatus := status }
  | some raw =>
    { raw with payload, firstSeenAt := now, lastSeenAt := now, fetchedAt := now, parseStatus := status }

/-- The body of the loop over `to_apply_ids`; an exception of
`parse_and_apply` is logged. -/
def applyOffer (cfg : MiniSync) (parse : String → ParseOutcome) (db : ListingDb Offer)
    (o : Offer) : ListingDb Offer :=
  { db with
    listings :=
      if parse o.id = .failedBefore then db.listings
      else upsertListing db.listings db.now cfg.store o
    raws := Function.update db.raws o.id
      (some (refreshRaw db.now o (parse o.id == .applied) (db.raws o.id))) }

/-- A listing of the store, game and variant. -/
def MiniSync.covers (cfg : MiniSync) (r : Listing) : Bool :=
  r.integrationAccount == some cfg.store && r.game == some cfg.game && r.variant == cfg.variantSlug

/-- `to_apply_ids`: the fetched offers that are not LISTED here. -/
def toApply (cfg : MiniSync) (db : ListingDb Offer) (offers : List Offer) : List Offer :=
  offers.filter fun o => !db.listings.any fun _ r =>
    cfg.covers r && r.status == .listed && r.storeListingId == o.id

/-- `stale_listings`. -/
def isStale (cfg : MiniSync) (now : Nat) (ids : List String) (r : Listing) : Bool :=
  cfg.covers r && r.status == .listed && !ids.contains r.storeListingId &&
    decide (r.updatedAt + staleGrace < now)

/-- The second half of `_run_mini_sync`. -/
def reconcileOffers (cfg : MiniSync) (parse : String → ParseOutcome) (db : ListingDb Offer)
    (offers : List Offer) : ListingDb Offer :=
  let applied := (toApply cfg db offers).foldl (applyOffer cfg parse) db
  let stale := fun (_ : Nat) r => isStale cfg db.now (offers.map Offer.id) r
  let productIds := (applied.listings.select stale).filterMap fun r => r.2.dropshipProduct
  let listings := applied.listings.updateWhere stale fun r => { r with status := .deleted }
  { applied with
    listings
    products := reconcileDropshipProducts listings applied.products db.now productIds }

/-- **`_run_mini_sync`**; `answer n` is the answer for page `n`.  Nothing is
written before the fetch loop has ended. -/
def runMiniSync (cfg : MiniSync) (answer : Nat → SearchAnswer) (parse : String → ParseOutcome)
    (calls : Nat) (db : ListingDb Offer) : ListingDb Offer :=
  match fetchActive answer calls 1 [] with
  | none => db
  | some offers => reconcileOffers cfg parse db offers

/-! ### How the fetch loop ends -/

section Fetch

variable (answer : Nat → SearchAnswer)

/-- After this page another one is asked for. -/
def MorePages (n : Nat) : Prop :=
  ∃ data, answer n = .page data ∧ data.pageIndex < data.totalPages

/-- **The enumeration is complete**: page `n` is the last one, and it and all
pages before it were answered. -/
def Enumerated (n : Nat) : Prop :=
  1 ≤ n ∧ (∀ i, 1 ≤ i → i < n → MorePages answer i) ∧
    ∃ data, answer n = .page data ∧ data.totalPages ≤ data.pageIndex

/-- The answer for page `n` failed, after the pages before it. -/
def FailsAt (n : Nat) : Prop :=
  1 ≤ n ∧ (∀ i, 1 ≤ i → i < n → MorePages answer i) ∧ answer n = .failed

/-- The offers of the pages `1 … n`; of an id, the last one. -/
def offersUpTo : Nat → List Offer
  | 0 => []
  | n + 1 =>
    match answer (n + 1) with
    | .page data => collectOffers (offersUpTo n) data.results
    | _ => offersUpTo n

variable {answer}

theorem not_more_of_last {n : Nat} {data : SearchPage} (h : answer n = .page data)
    (hlast : data.totalPages ≤ data.pageIndex) : ¬MorePages answer n := by
  rintro ⟨data', h', hmore⟩
  rw [h] at h'
  cases h'
  omega

theorem not_more_of_failed {n : Nat} (h : answer n = .failed) : ¬MorePages answer n := by
  rintro ⟨data, h', -⟩
  rw [h] at h'
  cases h'

/-- The loop has one way to end. -/
theorem end_unique {m n : Nat} (hm : 1 ≤ m) (hn : 1 ≤ n)
    (hbefore : ∀ i, 1 ≤ i → i < m → MorePages answer i)
    (hbefore' : ∀ i, 1 ≤ i → i < n → MorePages answer i)
    (hstop : ¬MorePages answer m) (hstop' : ¬MorePages answer n) : m = n := by
  by_contra hne
  rcases Nat.lt_or_gt_of_ne hne with hlt | hgt
  · exact hstop (hbefore' m hm hlt)
  · exact hstop' (hbefore n hn hgt)

theorem Enumerated.stops {n : Nat} (h : Enumerated answer n) : ¬MorePages answer n := by
  obtain ⟨-, -, data, hdata, hlast⟩ := h
  exact not_more_of_last hdata hlast

theorem FailsAt.not_enumerated {m n : Nat} (h : FailsAt answer m) : ¬Enumerated answer n := by
  intro henum
  obtain rfl := end_unique h.1 henum.1 h.2.1 henum.2.1 (not_more_of_failed h.2.2) henum.stops
  obtain ⟨data, hdata, -⟩ := henum.2.2
  rw [h.2.2] at hdata
  cases hdata

theorem end_eq {m n : Nat} (hm : Enumerated answer m ∨ FailsAt answer m)
    (hn : Enumerated answer n ∨ FailsAt answer n) : m = n := by
  have hends : ∀ {i}, Enumerated answer i ∨ FailsAt answer i →
      1 ≤ i ∧ (∀ j, 1 ≤ j → j < i → MorePages answer j) ∧ ¬MorePages answer i := by
    rintro i (h | h)
    · exact ⟨h.1, h.2.1, h.stops⟩
    · exact ⟨h.1, h.2.1, not_more_of_failed h.2.2⟩
  obtain ⟨hm₁, hbefore, hstop⟩ := hends hm
  obtain ⟨hn₁, hbefore', hstop'⟩ := hends hn
  exact end_unique hm₁ hn₁ hbefore hbefore' hstop hstop'

theorem fetchActive_from {calls m : Nat} {offers : List Offer}
    (hbefore : ∀ i, 1 ≤ i → i ≤ m → MorePages answer i) :
    fetchActive answer calls (m + 1) (offersUpTo answer m) = some offers ↔
      ∃ n, m < n ∧ n ≤ m + calls ∧ offers = offersUpTo answer n ∧
        (Enumerated answer n ∨ FailsAt answer n) := by
  induction calls generalizing m with
  | zero =>
    refine iff_of_false (fun h => nomatch h) ?_
    rintro ⟨n, hlt, hle, -⟩
    omega
  | succ calls ih =>
    -- the only way to end later is to go on at page `m + 1`
    have hlater : ¬MorePages answer (m + 1) → ∀ n, m < n →
        (Enumerated answer n ∨ FailsAt answer n) → n = m + 1 := by
      intro hstop n hlt hend
      by_contra hne
      have hbetween : 1 ≤ m + 1 ∧ m + 1 < n := by omega
      rcases hend with h | h
      · exact hstop (h.2.1 _ hbetween.1 hbetween.2)
      · exact hstop (h.2.1 _ hbetween.1 hbetween.2)
    have hpages : ∀ i, 1 ≤ i → i < m + 1 → MorePages answer i := by
      intro i hi hlt
      exact hbefore i hi (by omega)
    rw [fetchActive]
    rcases hanswer : answer (m + 1) with data | - | -
    · by_cases hlast : data.pageIndex ≥ data.totalPages
      · simp only [hlast, if_true]
        have hcollect : collectOffers (offersUpTo answer m) data.results
            = offersUpTo answer (m + 1) := by
          rw [offersUpTo, hanswer]
        rw [hcollect]
        constructor
        · intro h
          cases h
          exact ⟨m + 1, by omega, by omega, rfl, .inl ⟨by omega, hpages, data, hanswer, hlast⟩⟩
        · rintro ⟨n, hlt, -, rfl, hend⟩
          rw [hlater (not_more_of_last hanswer hlast) n hlt hend]
      · simp only [hlast, if_false]
        have hcollect : collectOffers (offersUpTo answer m) data.results
            = offersUpTo answer (m + 1) := by
          rw [offersUpTo, hanswer]
        have hmore : MorePages answer (m + 1) := ⟨data, hanswer, by omega⟩
        have hbefore' : ∀ i, 1 ≤ i → i ≤ m + 1 → MorePages answer i := by
          intro i hi hle
          rcases Nat.lt_or_ge i (m + 1) with hlt | hge
          · exact hpages i hi hlt
          · obtain rfl : i = m + 1 := by omega
            exact hmore
        rw [hcollect, ih hbefore']
        constructor
        · rintro ⟨n, hlt, hle, rfl, hend⟩
          exact ⟨n, by omega, by omega, rfl, hend⟩
        · rintro ⟨n, hlt, hle, rfl, hend⟩
          refine ⟨n, ?_, by omega, rfl, hend⟩
          by_contra hnot
          obtain rfl : n = m + 1 := by omega
          rcases hend with h | h
          · exact h.stops hmore
          · exact not_more_of_failed h.2.2 hmore
    · have hcollect : offersUpTo answer (m + 1) = offersUpTo answer m := by
        rw [offersUpTo, hanswer]
      constructor
      · intro h
        cases h
        exact ⟨m + 1, by omega, by omega, hcollect.symm, .inr ⟨by omega, hpages, hanswer⟩⟩
      · rintro ⟨n, hlt, -, rfl, hend⟩
        rw [hlater (not_more_of_failed hanswer) n hlt hend, hcollect]
    · refine iff_of_false (fun h => nomatch h) ?_
      rintro ⟨n, hlt, -, -, hend⟩
      have hstop : ¬MorePages answer (m + 1) := by
        rintro ⟨data, h, -⟩
        rw [hanswer] at h
        cases h
      obtain rfl := hlater hstop n hlt hend
      rcases hend with ⟨-, -, data, h, -⟩ | ⟨-, -, h⟩ <;> rw [hanswer] at h <;> cases h

/-- **How the fetch loop ends**: after a complete enumeration or a failed
answer, with the offers of the pages so far. -/
theorem fetchActive_iff {calls : Nat} {offers : List Offer} :
    fetchActive answer calls 1 [] = some offers ↔
      ∃ n ≤ calls, offers = offersUpTo answer n ∧ (Enumerated answer n ∨ FailsAt answer n) := by
  have h : fetchActive answer calls (0 + 1) (offersUpTo answer 0) = some offers ↔ _ :=
    fetchActive_from fun i hi hle => by omega
  refine h.trans ⟨?_, ?_⟩
  · rintro ⟨n, -, hle, hoffers, hend⟩
    exact ⟨n, by omega, hoffers, hend⟩
  · rintro ⟨n, hle, hoffers, hend⟩
    have hpos : 1 ≤ n := hend.elim (fun h => h.1) fun h => h.1
    exact ⟨n, by omega, by omega, hoffers, hend⟩

end Fetch

/-! ### The offers collected -/

theorem mem_ids_insertOffer {o : Offer} {offers : List Offer} :
    ((insertOffer o offers).map Offer.id) =
      if o.id ∈ offers.map Offer.id then offers.map Offer.id
      else offers.map Offer.id ++ [o.id] := by
  induction offers with
  | nil => rfl
  | cons x xs ih =>
    rw [insertOffer]
    by_cases hx : x.id = o.id
    · simp [hx]
    · rw [if_neg hx, List.map_cons, ih]
      by_cases hmem : o.id ∈ xs.map Offer.id
      · have hmem' : o.id ∈ (x :: xs).map Offer.id := List.mem_cons_of_mem _ hmem
        rw [if_pos hmem, if_pos hmem']
        rfl
      · have hmem' : o.id ∉ (x :: xs).map Offer.id := by
          rw [List.map_cons, List.mem_cons, not_or]
          exact ⟨Ne.symm hx, hmem⟩
        rw [if_neg hmem, if_neg hmem']
        rfl

theorem nodup_insertOffer {o : Offer} {offers : List Offer}
    (h : (offers.map Offer.id).Nodup) : ((insertOffer o offers).map Offer.id).Nodup := by
  rw [mem_ids_insertOffer]
  split
  · exact h
  · rename_i hmem
    exact List.nodup_append.mpr ⟨h, List.nodup_singleton _, fun a ha b hb hab => by
      rw [List.mem_singleton] at hb
      exact hmem (hb ▸ hab ▸ ha)⟩

theorem nodup_collectOffers {offers results : List Offer} (h : (offers.map Offer.id).Nodup) :
    ((collectOffers offers results).map Offer.id).Nodup := by
  unfold collectOffers
  induction results generalizing offers with
  | nil => exact h
  | cons o results ih =>
    rw [List.foldl_cons]
    apply ih
    split
    · exact h
    · exact nodup_insertOffer h

theorem nodup_offersUpTo (answer : Nat → SearchAnswer) (n : Nat) :
    ((offersUpTo answer n).map Offer.id).Nodup := by
  induction n with
  | zero => exact List.nodup_nil
  | succ n ih =>
    rw [offersUpTo]
    split
    · exact nodup_collectOffers ih
    · exact ih

/-! ### What becomes of a listing -/

section Rows

variable {cfg : MiniSync} {parse : String → ParseOutcome} {db : ListingDb Offer} {k : Nat}
variable {r : Listing}

theorem upsertListing_row {listings : Table Listing} {now store : Nat} {o : Offer}
    (h : listings.get? k = some r) :
    (upsertListing listings now store o).get? k
      = some (if isListingOf store o.id r then offerRow now o r else r) := by
  unfold upsertListing
  by_cases hany : (listings.any fun _ r => isListingOf store o.id r) = true
  · rw [if_pos hany, Table.get?_updateWhere, h]
    rfl
  · have hr : isListingOf store o.id r = false :=
      Table.any_eq_false_iff.mp (Bool.eq_false_iff.mpr hany) k r h
    rw [if_neg hany, hr]
    exact Table.get?_create_of_some h

/-- The offer is applied to this listing. -/
def appliesTo (cfg : MiniSync) (parse : String → ParseOutcome) (r : Listing) (o : Offer) : Bool :=
  isListingOf cfg.store o.id r && parse o.id != .failedBefore

/-- The row after the offers were applied: at most one of them is its own. -/
def appliedRow (cfg : MiniSync) (parse : String → ParseOutcome) (now : Nat) (offers : List Offer)
    (r : Listing) : Listing :=
  match offers.find? (appliesTo cfg parse r) with
  | some o => offerRow now o r
  | none => r

theorem applyOffers_row {offers : List Offer} (hnd : (offers.map Offer.id).Nodup)
    (h : db.listings.get? k = some r) :
    (offers.foldl (applyOffer cfg parse) db).listings.get? k
      = some (appliedRow cfg parse db.now offers r) := by
  induction offers generalizing db r with
  | nil => exact h
  | cons o offers ih =>
    rw [List.map_cons, List.nodup_cons] at hnd
    rw [List.foldl_cons]
    by_cases hown : appliesTo cfg parse r o = true
    · -- the row takes the columns of `o`, and no later offer has its id
      obtain ⟨hlisting, hparse⟩ := Bool.and_eq_true _ _ ▸ hown
      have hrow : (applyOffer cfg parse db o).listings.get? k = some (offerRow db.now o r) := by
        unfold applyOffer
        rw [if_neg (bne_iff_ne.mp hparse), upsertListing_row h, if_pos hlisting]
      have hid : r.storeListingId = o.id := by
        simp only [isListingOf, Bool.and_eq_true, beq_iff_eq] at hlisting
        exact hlisting.2
      have hlater : offers.find? (appliesTo cfg parse (offerRow db.now o r)) = none := by
        refine List.find?_eq_none.mpr fun o' ho' hown' => ?_
        simp only [appliesTo, isListingOf, offerRow, Bool.and_eq_true, beq_iff_eq] at hown'
        exact hnd.1 (List.mem_map.mpr ⟨o', ho', hown'.1.2.symm.trans hid⟩)
      have hfirst : (o :: offers).find? (appliesTo cfg parse r) = some o :=
        List.find?_cons_of_pos hown
      rw [ih hnd.2 hrow, appliedRow, hlater, appliedRow, hfirst]
    · have hrow : (applyOffer cfg parse db o).listings.get? k = some r := by
        unfold applyOffer
        by_cases hparse : parse o.id = .failedBefore
        · rw [if_pos hparse]
          exact h
        · rw [if_neg hparse, upsertListing_row h]
          have hlisting : ¬isListingOf cfg.store o.id r = true := by
            intro hlisting
            exact hown (by rw [appliesTo, hlisting, bne_iff_ne.mpr hparse]; rfl)
          rw [if_neg hlisting]
      have hfirst : (o :: offers).find? (appliesTo cfg parse r)
          = offers.find? (appliesTo cfg parse r) := List.find?_cons_of_neg hown
      rw [ih hnd.2 hrow, appliedRow, appliedRow, hfirst]
      rfl

/-- **What a mini sync does to a listing**: the columns of its offer, or
DELETED when it is stale. -/
theorem reconcileOffers_row {offers : List Offer} (hnd : (offers.map Offer.id).Nodup)
    (h : db.listings.get? k = some r) :
    (reconcileOffers cfg parse db offers).listings.get? k =
      some (if isStale cfg db.now (offers.map Offer.id)
          (appliedRow cfg parse db.now (toApply cfg db offers) r)
        then { appliedRow cfg parse db.now (toApply cfg db offers) r with status := .deleted }
        else appliedRow cfg parse db.now (toApply cfg db offers) r) := by
  have hnd' : ((toApply cfg db offers).map Offer.id).Nodup :=
    hnd.sublist (List.filter_sublist.map _)
  unfold reconcileOffers
  rw [Table.get?_updateWhere, applyOffers_row hnd' h]
  rfl

end Rows

/-! ### When a mini sync deletes soundly -/

/-- **The deletions of a mini sync are sound**: a LISTED listing it turned
DELETED is one of the store, game and variant, their Active offers were
enumerated completely, and it was not among them. -/
def DeletesSoundly (cfg : MiniSync) (answer : Nat → SearchAnswer) (db db' : ListingDb Offer) :
    Prop :=
  ∀ k r r', db.listings.get? k = some r → r.status = .listed →
    db'.listings.get? k = some r' → r'.status = .deleted →
    cfg.covers r = true ∧
      ∃ n, Enumerated answer n ∧ r.storeListingId ∉ (offersUpTo answer n).map Offer.id

/-- No listing is stale against these ids. -/
def NoneStale (cfg : MiniSync) (db : ListingDb Offer) (ids : List String) : Prop :=
  ∀ k r, db.listings.get? k = some r → isStale cfg db.now ids r = false

/-- Applying the offer would unlist a listing: it is LISTED under another game
or variant, and the state of the offer is neither Active nor Paused. -/
def Unlists (cfg : MiniSync) (parse : String → ParseOutcome) (db : ListingDb Offer)
    (offers : List Offer) (o : Offer) : Prop :=
  o ∈ toApply cfg db offers ∧ parse o.id ≠ .failedBefore ∧ mapStatus o.offerState = .deleted ∧
    ∃ k r, db.listings.get? k = some r ∧ isListingOf cfg.store o.id r = true ∧ r.status = .listed

section Sound

variable {cfg : MiniSync} {answer : Nat → SearchAnswer} {parse : String → ParseOutcome}
variable {db : ListingDb Offer} {offers : List Offer} {k : Nat} {r : Listing}

theorem isStale_iff {now : Nat} {ids : List String} :
    isStale cfg now ids r = true ↔ cfg.covers r = true ∧ r.status = .listed ∧
      r.storeListingId ∉ ids ∧ r.updatedAt + staleGrace < now := by
  simp [isStale, and_assoc]

/-- When a LISTED listing is DELETED by the reconciliation. -/
theorem reconciled_deleted_iff (hnd : (offers.map Offer.id).Nodup)
    (hr : db.listings.get? k = some r) (hlisted : r.status = .listed) :
    (∃ r', (reconcileOffers cfg parse db offers).listings.get? k = some r' ∧
        r'.status = .deleted) ↔
      isStale cfg db.now (offers.map Offer.id) r = true ∨
        ∃ o ∈ toApply cfg db offers, isListingOf cfg.store o.id r = true ∧
          parse o.id ≠ .failedBefore ∧ mapStatus o.offerState = .deleted := by
  have hids : ∀ o ∈ toApply cfg db offers, o.id ∈ offers.map Offer.id := fun o ho =>
    List.mem_map.mpr ⟨o, (List.mem_filter.mp ho).1, rfl⟩
  have hnd' : ((toApply cfg db offers).map Offer.id).Nodup :=
    hnd.sublist (List.filter_sublist.map _)
  rw [reconcileOffers_row hnd hr]
  rcases hfind : (toApply cfg db offers).find? (appliesTo cfg parse r) with - | o
  · -- no offer is applied to the listing: only the stale update can reach it
    have hnone : ¬∃ o ∈ toApply cfg db offers, isListingOf cfg.store o.id r = true ∧
        parse o.id ≠ .failedBefore ∧ mapStatus o.offerState = .deleted := by
      rintro ⟨o, ho, hlisting, hparse, -⟩
      refine List.find?_eq_none.mp hfind o ho ?_
      rw [appliesTo, hlisting, bne_iff_ne.mpr hparse]
      rfl
    have hrow : appliedRow cfg parse db.now (toApply cfg db offers) r = r := by
      rw [appliedRow, hfind]
    rw [hrow, or_iff_left hnone]
    by_cases hstale : isStale cfg db.now (offers.map Offer.id) r = true
    · rw [if_pos hstale]
      exact iff_of_true ⟨_, rfl, rfl⟩ hstale
    · rw [if_neg hstale]
      refine iff_of_false ?_ hstale
      rintro ⟨r', hr', hdeleted⟩
      cases hr'
      rw [hlisted] at hdeleted
      cases hdeleted
  · have ho := List.mem_of_find?_eq_some hfind
    have happlies := List.find?_some hfind
    obtain ⟨hlisting, hparse⟩ := Bool.and_eq_true _ _ ▸ happlies
    have hid : r.storeListingId = o.id := by
      simp only [isListingOf, Bool.and_eq_true, beq_iff_eq] at hlisting
      exact hlisting.2
    have hfresh : ∀ r₁ : Listing, r₁.storeListingId = o.id →
        isStale cfg db.now (offers.map Offer.id) r₁ = false := by
      intro r₁ hid₁
      have hmem : (offers.map Offer.id).contains r₁.storeListingId = true := by
        rw [hid₁]
        exact List.contains_iff_mem.mpr (hids o ho)
      simp only [isStale, hmem, Bool.not_true, Bool.and_false, Bool.false_and]
    have hrow : appliedRow cfg parse db.now (toApply cfg db offers) r = offerRow db.now o r := by
      rw [appliedRow, hfind]
    have hstale := hfresh (offerRow db.now o r) hid
    rw [hrow, hstale, hfresh r hid]
    constructor
    · rintro ⟨r', hr', hdeleted⟩
      cases hr'
      exact .inr ⟨o, ho, hlisting, bne_iff_ne.mp hparse, hdeleted⟩
    · rintro (h | ⟨o', ho', hlisting', -, hdeleted⟩)
      · cases h
      · simp only [isListingOf, Bool.and_eq_true, beq_iff_eq] at hlisting'
        obtain rfl := List.inj_on_of_nodup_map hnd' ho ho' (hid.symm.trans hlisting'.2)
        exact ⟨_, rfl, hdeleted⟩

/-- **When a mini sync is sound.**  It deletes only listings absent from a
complete enumeration exactly when, at a failed answer, every LISTED listing
that is old enough is among the offers fetched so far, and no offer unlists a
listing of another game or variant. -/
theorem mini_sync_sound_iff (cfg : MiniSync) (answer : Nat → SearchAnswer)
    (parse : String → ParseOutcome) (calls : Nat) (db : ListingDb Offer) :
    DeletesSoundly cfg answer db (runMiniSync cfg answer parse calls db) ↔
      ∀ n ≤ calls,
        (FailsAt answer n → NoneStale cfg db ((offersUpTo answer n).map Offer.id)) ∧
        (Enumerated answer n ∨ FailsAt answer n → ∀ o ∈ offersUpTo answer n,
          ¬Unlists cfg parse db (offersUpTo answer n) o) := by
  unfold runMiniSync
  rcases hfetch : fetchActive answer calls 1 [] with - | offers
  · -- the loop was left by an exception: nothing is written
    have hnever : ∀ n ≤ calls, ¬(Enumerated answer n ∨ FailsAt answer n) := by
      intro n hn hend
      have hsome := fetchActive_iff.mpr ⟨n, hn, rfl, hend⟩
      rw [hfetch] at hsome
      cases hsome
    refine iff_of_true ?_ fun n hn => ⟨fun h => absurd (.inr h) (hnever n hn), fun h =>
      absurd h (hnever n hn)⟩
    intro k r r' hr hlisted hr' hdeleted
    cases hr.symm.trans hr'
    rw [hlisted] at hdeleted
    cases hdeleted
  · obtain ⟨n, hn, rfl, hend⟩ := fetchActive_iff.mp hfetch
    have hnd := nodup_offersUpTo answer n
    show DeletesSoundly cfg answer db (reconcileOffers cfg parse db (offersUpTo answer n)) ↔ _
    constructor
    · intro hsound m _
      refine ⟨fun hfails k r hr => ?_, fun hend' o _ hunlists => ?_⟩
      · obtain rfl := end_eq hend (.inr hfails)
        by_contra hne
        have hstale := Bool.not_eq_false _ ▸ hne
        have hlisted := (isStale_iff.mp hstale).2.1
        obtain ⟨r', hr', hdeleted⟩ := (reconciled_deleted_iff hnd hr hlisted).mpr (.inl hstale)
        obtain ⟨-, n', henum, -⟩ := hsound k r r' hr hlisted hr' hdeleted
        exact hfails.not_enumerated henum
      · obtain rfl := end_eq hend hend'
        obtain ⟨hmem, hparse, hstatus, k, r, hr, hlisting, hlisted⟩ := hunlists
        obtain ⟨r', hr', hdeleted⟩ := (reconciled_deleted_iff hnd hr hlisted).mpr
          (.inr ⟨o, hmem, hlisting, hparse, hstatus⟩)
        obtain ⟨-, n', henum, habsent⟩ := hsound k r r' hr hlisted hr' hdeleted
        obtain rfl := end_eq hend (.inl henum)
        simp only [isListingOf, Bool.and_eq_true, beq_iff_eq] at hlisting
        rw [hlisting.2] at habsent
        exact habsent (List.mem_map.mpr ⟨o, (List.mem_filter.mp hmem).1, rfl⟩)
    · intro hcond k r r' hr hlisted hr' hdeleted
      obtain ⟨hstale, hunlists⟩ := hcond n hn
      rcases (reconciled_deleted_iff hnd hr hlisted).mp ⟨r', hr', hdeleted⟩ with h |
        ⟨o, hmem, hlisting, hparse, hstatus⟩
      · rcases hend with henum | hfails
        · obtain ⟨hcovers, -, habsent, -⟩ := isStale_iff.mp h
          exact ⟨hcovers, n, henum, habsent⟩
        · rw [hstale hfails k r hr] at h
          cases h
      · exact absurd ⟨hmem, hparse, hstatus, k, r, hr, hlisting, hlisted⟩
          (hunlists hend o (List.mem_filter.mp hmem).1)

/-- A store with one LISTED listing, last touched long ago. -/
def staleDb : ListingDb Offer where
  now := 100000
  listings := Table.empty.create
    { integrationAccount := some 1, storeListingId := "a", game := some 1, variant := "pc" }

/-- The first of two pages is answered, the second is not. -/
def brokenAnswer : Nat → SearchAnswer
  | 1 => .page { totalPages := 2, results := [⟨"b", "Active", some 1, "pc"⟩] }
  | _ => .failed

/-- A failed answer for page 2 deletes the listing of that page. -/
theorem mini_sync_sound_fails :
    ¬DeletesSoundly ⟨1, 1, "pc"⟩ brokenAnswer staleDb
      (runMiniSync ⟨1, 1, "pc"⟩ brokenAnswer (fun _ => .applied) 5 staleDb) := by
  intro hsound
  have hfails : FailsAt brokenAnswer 2 := by
    refine ⟨by omega, fun i hi hlt => ?_, rfl⟩
    obtain rfl : i = 1 := by omega
    exact ⟨_, rfl, by decide⟩
  obtain ⟨-, n, henum, -⟩ := hsound 0
    { integrationAccount := some 1, storeListingId := "a", game := some 1, variant := "pc" }
    { integrationAccount := some 1, storeListingId := "a", game := some 1, variant := "pc",
      status := .deleted }
    (by decide) rfl (by decide) rfl
  exact hfails.not_enumerated henum

end Sound

end Sda.Sync
