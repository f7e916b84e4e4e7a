/-
Sda/Pool/ClaimEnds.lean

How a replenishment ends the claims it holds.

The push paths of `Replenisher` differ in what they send and in how they read
the answers; what they do to the database is always one of a few
transactions on an item they claimed.  `ClaimEnd` lists these, and
`ClaimEnd.tx` runs one.  `replenishPoolOffer` is a replenishment seen from the
database: one `claimPendingItems`, then any sequence of such transactions on
the claims it returned, then the saved remote count.

* `ClaimEnd.tx_ok` — a transaction touches no item but the claimed one, and
  none of the tables the sale path reads;
* `persistClone_ok` — the clone transaction: the ACTIVE clone is inserted
  whatever happened to the claim, the item becomes PUSHED only while it is
  still QUEUED for the PoolOffer;
* `replenishPoolOffer_keeps` — an item that was not PENDING when the
  replenishment began is as before when it ends.
-/
import Sda.Pool.Fencing
import Sda.Pool.Replenisher

namespace Sda

variable {db db' : Db} {c : Claim} {k j : Nat}

/-! ### One transaction -/

/-- The transactions that follow a claim. -/
inductive ClaimEnd
  | pushed (remoteOfferId remoteCredentialId : String)
  | failed (f : Failure)
  | martFailed (localPretransport : Bool) (requestId : String)
  /-- A PlayerAuctions clone is persisted. -/
  | cloned (t : PaTarget) (offerId : String)
  /-- The product of a PUSHED item is linked to the listing. -/
  | linked (listing : Nat)

/-- The lane of a clone is the one its item was claimed for. -/
def PaTarget.ofClaim (t : PaTarget) (c : Claim) : PaTarget :=
  { t with poolOffer := c.poolOffer, pool := c.pool }

def ClaimEnd.tx (db : Db) (c : Claim) : ClaimEnd → Except PyError Db
  | .pushed remoteOfferId credId =>
    (markItemPushed db c.item c.poolOffer remoteOfferId credId).map Prod.snd
  | .failed f => markItemFailed db c.item f
  | .martFailed localPretransport requestId =>
    (finalizeMartClaimFailure db c (some c.claimToken) localPretransport requestId).map Prod.snd
  | .cloned t offerId => persistClone db (t.ofClaim c) c offerId
  | .linked listing => linkPushedItem db listing c.item

/-- The clone rows of a lane are unique by their remote id. -/
theorem persistClone_taken {t : PaTarget} {offerId : String}
    (h : (db.activeOffers.any fun _ a =>
      a.poolOffer == some t.poolOffer && a.storeListingId == offerId) = true) :
    persistClone db t c offerId = .error .integrityError :=
  if_pos h

section Insertion

variable {t : PaTarget} {offerId : String} {r : ItemRow}
  (hfree : ¬(db.activeOffers.any fun _ a =>
    a.poolOffer == some t.poolOffer && a.storeListingId == offerId) = true)
include hfree

theorem persistClone_gone (hk : db.item? c.item = none) :
    persistClone db t c offerId = .error .doesNotExist := by
  rw [persistClone, if_neg hfree, markItemPushed]
  show (getRow (db.item? c.item) >>= _) >>= _ = _
  rw [hk]
  rfl

/-- The claim does not hold any more: the clone is inserted all the same. -/
theorem persistClone_skipped (hk : db.item? c.item = some r)
    (hskip : pushSkips r t.poolOffer = true) :
    persistClone db t c offerId = .ok (cloneRows db t c offerId) := by
  rw [persistClone, if_neg hfree, markItemPushed]
  show (getRow (db.item? c.item) >>= _) >>= _ = _
  rw [hk]
  show (if pushSkips r t.poolOffer = true then _ else _) >>= _ = _
  rw [if_pos hskip]
  rfl

end Insertion

/-- **What the clone transaction does**: the clone rows are added; the item is
pushed, or it is skipped and stays as it was. -/
theorem persistClone_ok {t : PaTarget} {offerId : String}
    (h : persistClone db t c offerId = .ok db') :
    (∃ items attempts, db' = { cloneRows db t c offerId with items, attempts }) ∧
      ∃ r, db.item? c.item = some r ∧
        if pushSkips r t.poolOffer then db' = cloneRows db t c offerId
        else db.Rewrites c.item (pushedRow · db.now offerId "") db' := by
  unfold persistClone at h
  split at h
  · cases h
  · obtain ⟨⟨n, db₁⟩, hpush, h⟩ := except_bind_ok.mp h
    cases h
    obtain ⟨hrest, r, hr, hcase⟩ := markItemPushed_ok hpush
    refine ⟨hrest, r, hr, ?_⟩
    by_cases hskip : pushSkips r t.poolOffer
    · rw [if_pos hskip] at hcase ⊢
      exact hcase.2
    · rw [if_neg hskip] at hcase ⊢
      exact hcase.2

theorem linkPushedItem_ok {listing : Nat} (h : linkPushedItem db listing k = .ok db') :
    ∃ ownedProducts listingOwnedProducts,
      db' = { db with ownedProducts, listingOwnedProducts } := by
  obtain ⟨r, -, h⟩ := except_bind_ok.mp h
  split at h
  · cases h
    exact ⟨_, _, rfl⟩
  split at h
  · cases h
    exact ⟨_, _, rfl⟩
  · cases h
    exact ⟨_, _, rfl⟩

/-- **The frame of a transaction that ends a claim**: only the item of the
claim changes, and nothing the sale path reads. -/
theorem ClaimEnd.tx_ok {e : ClaimEnd} (h : e.tx db c = .ok db') :
    (∀ j, j ≠ c.item → db'.item? j = db.item? j) ∧ db'.saleEvents = db.saleEvents ∧
      db'.offers = db.offers ∧ db'.orders = db.orders ∧ db'.pools = db.pools ∧
      db'.now = db.now := by
  cases e with
  | pushed remoteOfferId credId =>
    obtain ⟨n, h⟩ := map_snd_ok h
    obtain ⟨⟨items, attempts, rfl⟩, r, -, hcase⟩ := markItemPushed_ok h
    refine ⟨fun j hj => ?_, rfl, rfl, rfl, rfl, rfl⟩
    split at hcase
    · rw [hcase.2]
    · exact hcase.2.other hj
  | failed f =>
    obtain ⟨⟨items, attempts, rfl⟩, hrw⟩ := markItemFailed_ok h
    exact ⟨fun j hj => hrw.other hj, rfl, rfl, rfl, rfl, rfl⟩
  | martFailed pretransport requestId =>
    obtain ⟨done, h⟩ := map_snd_ok h
    rcases finalizeMartClaimFailure_ok h with
      rfl | ⟨⟨items, attempts, rfl⟩, r, release, -, -, -, -, hrw⟩
    · exact ⟨fun _ _ => rfl, rfl, rfl, rfl, rfl, rfl⟩
    · exact ⟨fun j hj => hrw.other hj, rfl, rfl, rfl, rfl, rfl⟩
  | cloned t offerId =>
    obtain ⟨⟨items, attempts, rfl⟩, r, -, hcase⟩ := persistClone_ok h
    refine ⟨fun j hj => ?_, rfl, rfl, rfl, rfl, rfl⟩
    split at hcase
    · rw [hcase]
      rfl
    · exact hcase.other hj
  | linked listing =>
    obtain ⟨products, links, rfl⟩ := linkPushedItem_ok h
    exact ⟨fun _ _ => rfl, rfl, rfl, rfl, rfl, rfl⟩

/-! ### A replenishment -/

/-- What one replenishment does after it computed its need: the limits of its
claim, the transactions on the claims it got (by position), and the remote
count it saves unless an exception left it. -/
structure Replenishment where
  limit : Nat
  maxActiveOffers : Option Nat := none
  ends : List (Nat × ClaimEnd) := []
  savedCount : Option Nat := none

/-- The transactions of a replenishment on its claims, each committed or rolled
back. -/
def endClaims (cs : List Claim) (db : Db) : List (Nat × ClaimEnd) → Db
  | [] => db
  | (i, e) :: rest =>
    endClaims cs
      (match cs[i]? with
      | some c => committed db (e.tx db c)
      | none => db)
      rest

/-- `pool.save(update_fields=['current_remote_count', …])`. -/
def saveRemoteCount (db : Db) (offer : Nat) (count : Nat) : Db :=
  { db with
    offers := db.offers.updateWhere (fun k _ => k == offer) fun o =>
      { o with currentRemoteCount := some count } }

/-- **`replenish_pool_offer`**, as the database sees it. -/
def replenishPoolOffer (db : Db) (offer : Nat) (r : Replenishment) : Db :=
  match claimPendingItems db offer r.limit r.maxActiveOffers with
  | .error _ => db
  | .ok (claimed, cs) =>
    let ended := endClaims cs claimed r.ends
    match r.savedCount with
    | none => ended
    | some count => saveRemoteCount ended offer count

theorem endClaims_keeps {cs : List Claim} (db : Db) (hj : ∀ c ∈ cs, j ≠ c.item)
    (ends : List (Nat × ClaimEnd)) :
    (endClaims cs db ends).item? j = db.item? j ∧
      (endClaims cs db ends).saleEvents = db.saleEvents := by
  induction ends generalizing db with
  | nil => exact ⟨rfl, rfl⟩
  | cons end₁ rest ih =>
    obtain ⟨i, e⟩ := end₁
    rw [endClaims]
    rcases hc : cs[i]? with - | c
    · exact ih db
    · obtain ⟨hitem, hevents⟩ := ih (committed db (e.tx db c))
      rw [hitem, hevents]
      rcases committed_cases db (e.tx db c) with hsame | hok
      · rw [hsame]
        exact ⟨rfl, rfl⟩
      · obtain ⟨hother, hsale, -⟩ := ClaimEnd.tx_ok hok
        exact ⟨hother j (hj c (List.mem_of_getElem? hc)), hsale⟩

theorem claimItem_eq {offer : Nat} (h : claimItem db offer k = .ok (db', c)) :
    ∃ items attempts nextToken, db' = { db with items, attempts, nextToken } := by
  obtain ⟨r, -, h⟩ := except_bind_ok.mp h
  obtain ⟨saved, hs, h⟩ := except_bind_ok.mp h
  obtain ⟨items, -, rfl⟩ := Db.saveItem_ok hs
  cases h
  exact ⟨_, _, _, rfl⟩

theorem claimItems_eq {offer : Nat} {ks : List Nat} {cs : List Claim}
    (h : claimItems db offer ks = .ok (db', cs)) :
    ∃ items attempts nextToken, db' = { db with items, attempts, nextToken } := by
  induction ks generalizing db cs with
  | nil =>
    cases h
    exact ⟨_, _, _, rfl⟩
  | cons k ks ih =>
    obtain ⟨⟨db₁, c₁⟩, h₁, h⟩ := except_bind_ok.mp h
    obtain ⟨⟨db₂, cs₂⟩, h₂, h⟩ := except_bind_ok.mp h
    cases h
    obtain ⟨items, attempts, token, rfl⟩ := claimItem_eq h₁
    obtain ⟨items', attempts', token', rfl⟩ := ih h₂
    exact ⟨items', attempts', token', rfl⟩

/-- A claim writes items, attempts and the token supply, and nothing else. -/
theorem claimPendingItems_eq {offer limit : Nat} {cap : Option Nat} {cs : List Claim}
    (h : claimPendingItems db offer limit cap = .ok (db', cs)) :
    ∃ items attempts nextToken, db' = { db with items, attempts, nextToken } := by
  rcases claimPendingItems_cases h with ⟨rfl, -⟩ | ⟨lockedOffer, -, -, hloop⟩
  · exact ⟨_, _, _, rfl⟩
  · exact claimItems_eq hloop

/-- **A replenishment leaves an item alone that was not PENDING when it
began**, and every sale event. -/
theorem replenishPoolOffer_keeps (offer : Nat) (r : Replenishment) {row : ItemRow}
    (hrow : db.item? j = some row) (hnot : row.status ≠ .pending) :
    (replenishPoolOffer db offer r).item? j = some row ∧
      (replenishPoolOffer db offer r).saleEvents = db.saleEvents := by
  unfold replenishPoolOffer
  rcases h : claimPendingItems db offer r.limit r.maxActiveOffers with err | ⟨claimed, cs⟩
  · exact ⟨hrow, rfl⟩
  · obtain ⟨ks, -, -, hclaimed, hpending⟩ := claimPendingItems_ok h
    -- a claimed item was PENDING, so `j` is not one of them
    have hj : j ∉ ks := by
      intro hmem
      obtain ⟨r', hr', hpend, -⟩ := hpending j hmem
      rw [hrow] at hr'
      cases hr'
      exact hnot hpend
    have hne : ∀ c ∈ cs, j ≠ c.item := by
      rintro c hc rfl
      exact hj (hclaimed.items ▸ List.mem_map_of_mem hc)
    obtain ⟨hitem, hsale⟩ := endClaims_keeps claimed hne r.ends
    have hends : (endClaims cs claimed r.ends).item? j = some row ∧
        (endClaims cs claimed r.ends).saleEvents = db.saleEvents := by
      refine ⟨by rw [hitem, hclaimed.frame j hj, hrow], ?_⟩
      rw [hsale]
      obtain ⟨items, attempts, token, rfl⟩ := claimPendingItems_eq h
      rfl
    rcases hcount : r.savedCount with - | count
    · exact hends
    · exact hends

end Sda
