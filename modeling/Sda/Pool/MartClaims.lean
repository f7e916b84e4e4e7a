/-
Sda/Pool/MartClaims.lean

The fenced failure of a Mart create claim (services/pool/pa_mart_claims.py).

`finalizeMartClaimFailure` is the sibling of `markItemFailed` that does carry
the caller's token: it changes the item only while the item is QUEUED under
exactly that token, for the same PoolOffer, pool and product, and its attempt
is still in progress.  It releases the item only for a refusal made before
any transport, and never when the stock carries sale evidence.

Main result: `finalizeMartClaimFailure_ok`, the fence read off as a
specification.
-/
import Sda.Pool.Allocation

namespace Sda

variable {db db' : Db} {k j : Nat}

/-- The slug the fence requires. -/
def martAccountSlug : String := "playerauctions-csgosmurfkings"

/-- `is_mart_account_store`. -/
def isMartAccountStore (account : IntegrationAccount) : Bool :=
  account.provider == .playerauctions &&
    lowerText (stripText account.slug) ∈
      ["csgosmurfkings", "ezsmurfmart", "playerauctions-csgosmurfkings"]

/-- The marketplace account behind a PoolOffer. -/
def offerAccount (db : Db) (offer : PoolOffer) : Option IntegrationAccount := do
  let listing ← db.listings.get? offer.listing
  db.accounts.get? listing.integrationAccount

/-- Is the locked row the claim this worker was given? -/
def martClaimMatches (db : Db) (candidate : Claim) (expectedToken : Nat) (item : ItemRow) :
    Bool :=
  item.status == .queued && item.claimToken == some expectedToken &&
    item.poolOffer == some candidate.poolOffer && item.pool == candidate.pool &&
    item.ownedProduct == candidate.ownedProduct &&
    match db.offers.get? candidate.poolOffer with
    | none => false
    | some offer =>
      offer.pool == item.pool &&
        match offerAccount db offer with
        | none => false
        | some account => account.slug == martAccountSlug && account.provider == .playerauctions

/-- The attempt that belongs to the claim and is still in progress. -/
def openAttempt (db : Db) (candidate : Claim) (expectedToken : Nat) : Bool :=
  db.attempts.any fun _ a =>
    a.idempotencyKey == expectedToken && a.item == candidate.item &&
      a.poolOffer == candidate.poolOffer && a.operation == .push && a.status == .inProgress

/-- Stock that must not return to the pool whatever the refusal was. -/
def martStockProtected (db : Db) (k : Nat) (item : ItemRow) : Bool :=
  (match db.ownedProducts.get? item.ownedProduct with
    | none => true
    | some p => !(p.status == .draft || p.status == .listed)) ||
  db.orders.any (fun _ o => o.ownedProduct == some item.ownedProduct) ||
  db.saleEvents.any (fun _ e => e.poolItem == some k) ||
  db.activeOffers.any fun _ a =>
    (a.status == .active || a.status == .sold) &&
      match a.poolItem with
      | none => false
      | some i => (db.item? i).any fun r => r.ownedProduct == item.ownedProduct

/-- `re.fullmatch(r'[0-9a-f]{40}', request_id)`. -/
def isRequestId (requestId : String) : Bool :=
  requestId.toList.length == 40 &&
    requestId.toList.all fun c => c.isDigit || ('a' ≤ c && c ≤ 'f')

/-- The message stored on the item and its attempt. -/
def martFailureMessage (release : Bool) (requestId : String) : String :=
  (if release then
    "Mart claim not submitted: locally refused before transport; deferred."
  else
    "Mart create outcome unverified or stock protected; " ++
      "reconcile the exact attempt before retry.") ++
  if isRequestId requestId then " Request ID: " ++ requestId else ""

/-- The row the fenced failure writes. -/
def martFailedRow (item : ItemRow) (release : Bool) (requestId : String) : ItemRow :=
  { item with
    status := if release then .pending else .failed
    poolOffer := if release then none else item.poolOffer
    claimToken := none
    claimedAt := none
    failureStage := if release then .knownSafeFailure else .remotePush
    remoteState := if release then .absent else .unknown
    errorMessage := martFailureMessage release requestId }

/-- **`finalize_mart_claim_failure`**: the returned flag says whether the claim
was the caller's. -/
def finalizeMartClaimFailure (db : Db) (candidate : Claim) (expectedToken : Option Nat)
    (localPretransport : Bool) (requestId : String) : Except PyError (Bool × Db) := do
  let some token := expectedToken | return (false, db)
  let item ← getRow (db.item? candidate.item)
  if !martClaimMatches db candidate token item || !openAttempt db candidate token then
    return (false, db)
  let release := localPretransport && !martStockProtected db candidate.item item
  let saved ← db.saveItem candidate.item (martFailedRow item release requestId)
  return (true,
    { saved with
      attempts := saved.attempts.updateWhere
        (fun _ a => a.idempotencyKey == token && a.item == candidate.item &&
          a.poolOffer == candidate.poolOffer && a.operation == .push && a.status == .inProgress)
        fun a =>
          { a with
            status := if release then .failed else .unknown
            errorCode := (martFailedRow item release requestId).failureStage.text
            errorMessage := martFailureMessage release requestId
            finishedAt := some db.now } })

/-- **The fence.**  A Mart failure leaves the database alone, or the item was
QUEUED under the caller's own token and becomes the failed row: PENDING only
for a local refusal, FAILED with an unknown remote state otherwise. -/
theorem finalizeMartClaimFailure_ok {candidate : Claim} {expectedToken : Option Nat}
    {localPretransport : Bool} {requestId : String} {done : Bool}
    (h : finalizeMartClaimFailure db candidate expectedToken localPretransport requestId
      = .ok (done, db')) :
    db' = db ∨
      (∃ items attempts, db' = { db with items, attempts }) ∧
        ∃ r release, db.item? candidate.item = some r ∧ r.status = .queued ∧
          r.claimToken = expectedToken ∧ (release = true → localPretransport = true) ∧
          db.Rewrites candidate.item (martFailedRow · release requestId) db' := by
  cases expectedToken with
  | none =>
    cases h
    exact Or.inl rfl
  | some token =>
    obtain ⟨r, hr, h⟩ := except_bind_ok.mp h
    have hk := getRow_ok hr
    by_cases hguard : !martClaimMatches db candidate token r || !openAttempt db candidate token
    · rw [if_pos hguard] at h
      cases h
      exact Or.inl rfl
    · rw [if_neg hguard] at h
      obtain ⟨saved, hs, h⟩ := except_bind_ok.mp h
      have hrows := fun j => Db.item?_saveItem (j := j) hs hk
      obtain ⟨items, -, rfl⟩ := Db.saveItem_ok hs
      have hmatch : martClaimMatches db candidate token r = true := by
        revert hguard
        cases martClaimMatches db candidate token r <;> simp
      simp only [martClaimMatches, Bool.and_eq_true, beq_iff_eq] at hmatch
      cases h
      refine Or.inr ⟨⟨items, _, rfl⟩, r, _, hk, hmatch.1.1.1.1.1, hmatch.1.1.1.1.2, ?_, r, hk, hrows⟩
      intro hrel
      exact (Bool.and_eq_true _ _ ▸ hrel).1

theorem settles_martFailed {db db' : Db} {candidate : Claim} {token : Option Nat}
    {pretransport done : Bool} {requestId : String}
    (h : finalizeMartClaimFailure db candidate token pretransport requestId = .ok (done, db')) :
    Settles db db' := by
  rcases finalizeMartClaimFailure_ok h with rfl | ⟨-, r, release, -, -, -, -, hrw⟩
  · exact Settles.refl _
  · refine settles_of_rewrites hrw fun _ => ?_
    show (if release then OfferPoolItemStatus.pending else .failed) ≠ .queued
    split <;> simp

end Sda
