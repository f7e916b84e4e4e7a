/-
Sda/Pool/Lifecycle.lean

Removing a key from its lane and returning keys to the pool
(services/pool/lifecycle.py, the reserved branch of services/pool/recovery.py,
and the two item endpoints of api/pool.py).

An operation that asks the marketplace to delete something has two halves.
`removePoolItem` and `detachPoolOffer` run up to the remote call and return
what is in flight (`InFlight`); `answerRemoval` runs when the marketplace has
answered.  Whatever other workers commit meanwhile lies between the two.
Operations without a remote call are one transaction each.

The audit rows of a removal (`PoolDispatchAttempt` with the operation
`remove`) are read by no modelled function and are left out.
-/
import Sda.Pool.Dispatcher
import Sda.Pool.Recovery

namespace Sda

/-- The column text of an item status. -/
def OfferPoolItemStatus.text : OfferPoolItemStatus → String
  | .pending => "pending"
  | .reserved => "reserved"
  | .queued => "queued"
  | .pushed => "pushed"
  | .failed => "failed"
  | .consumed => "consumed"
  | .removed => "removed"

structure RemoveItemResult where
  ok : Bool
  removed : Bool := false
  remoteRemoved : Bool := false
  releasedToPool : Bool := false
  errors : List String := []
  deriving DecidableEq, Repr

/-- A removal that waits for the marketplace. -/
inductive InFlight
  /-- One key; was the remote count of its PoolOffer known when it started, and
  may the key be released once the deletion is confirmed? -/
  | removal (offer k listing : Nat) (countKnown autoRelease : Bool)
  /-- Every key of a PoolOffer that is being detached. -/
  | detach (offer : Nat) (items : List Nat)
  deriving DecidableEq, Repr

/-- Where a removal stands after its local half. -/
inductive RemovalStart
  | done (result : RemoveItemResult)
  | remote (op : InFlight)
  deriving DecidableEq, Repr

/-! ### Evidence -/

/-- `_has_confirmed_sale_evidence`: a sale event of the item, or a SOLD clone. -/
def hasConfirmedSaleEvidence (db : Db) (k : Nat) : Bool :=
  hasSaleEvent db k ||
    db.activeOffers.any fun _ a => a.poolItem == some k && a.status == .sold

/-- `pool_offer.marketplace`. -/
def marketplace (db : Db) (offer : PoolOffer) : Option Provider :=
  (offerAccount db offer).map IntegrationAccount.provider

/-- An individual PlayerAuctions clone lane:
`_should_auto_release_after_remote_removal` and `can_force_return_to_available`. -/
def isPaCloneLane (db : Db) (offer : PoolOffer) : Bool :=
  marketplace db offer == some .playerauctions && offer.strategy == .clone

/-- An ACTIVE clone of this lane for this item. -/
def activePaCloneExists (db : Db) (offer k : Nat) (row : PoolOffer) : Bool :=
  isPaCloneLane db row &&
    db.activeOffers.any fun _ a =>
      a.poolOffer == some offer && a.poolItem == some k && a.status == .active

def saleEvidenceError : String :=
  "Confirmed marketplace sale evidence exists for this key; it cannot be returned to the pool."

def reservedError : String :=
  "This key is reserved by an in-progress dispatch. Try again after it finishes."

def orderHoldMessage : String :=
  "Marketplace order is awaiting final resolution; key remains held outside active stock."

/-! ### Finalizing one removal -/

/-- The status part of the row `_finalize_single_item_removal` writes. -/
def withdrawnRow (item : ItemRow) (canRelease unresolved : Bool) : ItemRow :=
  if canRelease then
    { item with
      status := .pending
      poolOffer := none
      targetOfferId := ""
      pushedAt := none
      consumedAt := none
      reservation := none }
  else if item.status ≠ .consumed then
    if unresolved then { item with status := .consumed }
    else { item with status := .removed, liveOwnedProduct := none }
  else item

/-- The row `_finalize_single_item_removal` writes. -/
def removalRow (item : ItemRow) (canRelease unresolved : Bool) : ItemRow :=
  { withdrawnRow item canRelease unresolved with
    remoteState := .absent
    remoteCredentialId := ""
    claimToken := none
    claimedAt := none
    errorMessage := if unresolved then orderHoldMessage else ""
    failureStage := if unresolved then .marketplaceOrderHold else .blank }

/-- `current_remote_count = F('current_remote_count') - 1` where it is positive. -/
def decrementRemoteCount (db : Db) (offer : Nat) : Db :=
  { db with
    offers := db.offers.updateWhere
      (fun k o => k == offer && o.currentRemoteCount.any (0 < ·))
      fun o =>
        { o with currentRemoteCount := o.currentRemoteCount.map (· - 1), lastError := "" } }

/-- **`_finalize_single_item_removal`**: the flag says whether the key was
released to the pool. -/
def finalizeSingleItemRemoval (db : Db) (offer k listing : Nat)
    (decrementRemote releaseToPool : Bool) : Except PyError (Bool × Db) := do
  let item ← getRow (db.item? k)
  let unresolved := hasUnresolvedMarketplaceOrder db item
  let canRelease := releaseToPool && !hasConfirmedSaleEvidence db k && !unresolved
  let saved ← db.saveItem k (removalRow item canRelease unresolved)
  let unlinked : Db :=
    { saved with
      listingOwnedProducts := db.listingOwnedProducts.deleteWhere fun _ l =>
        l.ownedProduct == item.ownedProduct &&
          (l.listing == listing || db.activeOffers.any fun _ a =>
            a.poolOffer == some offer && a.poolItem == some k && a.listing == some l.listing) }
  return (canRelease, if decrementRemote then decrementRemoteCount unlinked offer else unlinked)

/-! ### Detaching a PoolOffer -/

def setOfferStatus (db : Db) (offer : Nat) (status : PoolOfferStatus) : Db :=
  { db with
    offers := db.offers.updateWhere (fun k _ => k == offer) fun o => { o with status } }

/-- The keys `detach_pool_offer` withdraws: assigned and in use, without sale
evidence. -/
def detachItems (db : Db) (offer : Nat) : List Nat :=
  ((db.items.table.select fun k r =>
    r.poolOffer == some offer &&
      (r.status == .queued || r.status == .pushed || r.status == .failed) &&
        !hasConfirmedSaleEvidence db k).map Prod.fst)

/-- **`detach_pool_offer(…, 'remove_remote')`**, up to the remote call. -/
def detachPoolOffer (db : Db) (offer : Nat) : Except PyError (RemovalStart × Db) := do
  let _ ← getRow (db.offers.get? offer)
  let items := detachItems db offer
  if items.isEmpty then
    return (.done { ok := true, removed := true, remoteRemoved := true },
      setOfferStatus db offer .detached)
  else
    return (.remote (.detach offer items), setOfferStatus db offer .paused)

/-- The row `_release_removed_items` writes. -/
def detachedRow (item : ItemRow) (unresolved : Bool) : ItemRow :=
  { item with
    status := if unresolved then .consumed else .pending
    poolOffer := if unresolved then item.poolOffer else none
    targetOfferId := if unresolved then item.targetOfferId else ""
    pushedAt := if unresolved then item.pushedAt else none
    remoteCredentialId := ""
    remoteState := .absent
    claimToken := none
    claimedAt := none
    errorMessage := if unresolved then orderHoldMessage else ""
    failureStage := if unresolved then .marketplaceOrderHold else .blank }

/-- One item of the loop of `_release_removed_items`. -/
def releaseRemovedItem (db : Db) (offer k : Nat) : Except PyError Db := do
  let item ← getRow (db.item? k)
  let saved ← db.saveItem k (detachedRow item (hasUnresolvedMarketplaceOrder db item))
  return { saved with
    listingOwnedProducts := db.listingOwnedProducts.deleteWhere fun _ l =>
      l.ownedProduct == item.ownedProduct &&
        ((db.offers.get? offer).any (fun o => o.listing == l.listing) ||
          db.activeOffers.any fun _ a => a.poolOffer == some offer && a.listing == some l.listing) }

/-- **`_release_removed_items`**: one transaction for the whole batch. -/
def releaseRemovedItems (db : Db) (offer : Nat) : List Nat → Except PyError Db
  | [] => return db
  | k :: ks => do
    let db ← releaseRemovedItem db offer k
    releaseRemovedItems db offer ks

/-- The row `_finish_remove_failures` writes. -/
def unconfirmedRow (error : String) (item : ItemRow) : ItemRow :=
  { item with
    status := .pushed
    remoteState := .unknown
    errorMessage := takeChars 2000
      ("PlayerAuctions deletion was not confirmed; retry or verify the " ++
        "exact remote offer before returning this key to stock. " ++ error)
    failureStage := .remoteRemoveUnconfirmed }

/-- **`_finish_remove_failures`**: one update an item, then the PoolOffer. -/
def finishRemoveFailures (offer : Nat) (error : String) : List Nat → Prog PyError Db Unit
  | [] =>
    Prog.change fun db =>
      { db with
        offers := db.offers.updateWhere (fun k _ => k == offer) fun o =>
          { o with status := .error, lastError := takeChars 2000 error } }
  | k :: ks => do
    Prog.atomically fun db =>
      db.updateItems (fun j r => j == k && r.status != .consumed) (unconfirmedRow error)
    finishRemoveFailures offer error ks

/-! ### Removing one key -/

/-- `listing.status in {CLOSED, DELETED}`. -/
def listingIsInactive (db : Db) (listing : Nat) : Bool :=
  (db.listings.get? listing).any fun l => l.status == .closed || l.status == .deleted

/-- The test for the purely local removal. -/
def isKnownLocalOnly (db : Db) (offer k listing : Nat) (row : PoolOffer) (item : ItemRow) : Bool :=
  !activePaCloneExists db offer k row &&
    (listingIsInactive db listing || item.remoteState == .absent ||
      (item.status == .pending || item.status == .consumed || item.status == .removed))

/-- The row a stale local removal is repaired to. -/
def repairedRow (item : ItemRow) : ItemRow :=
  { item with
    status := .pushed
    remoteState := .unknown
    errorMessage :=
      "Active PlayerAuctions clone found after a stale local removal; " ++
        "remote cancellation is being verified."
    failureStage := .remoteDeleteReconciliation }

/-- The end of the local half: which remote deletion to ask for. -/
def requestRemoval (db : Db) (offer k listing : Nat) (row : PoolOffer)
    (status : OfferPoolItemStatus) : Except PyError (RemovalStart × Db) :=
  if !(status == .queued || status == .pushed || status == .failed) then
    return (.done
      { ok := false
        errors := ["Key cannot be removed while its Pool state is " ++ status.text ++ "."] }, db)
  else if row.strategy = .append ∧
      (marketplace db row = some .eldorado ∨ marketplace db row = some .gameboost) then
    detachPoolOffer db offer
  else
    return (.remote
      (.removal offer k listing row.currentRemoteCount.isSome (isPaCloneLane db row)), db)

/-- **`remove_pool_item`**, up to the remote call. -/
def removePoolItem (db : Db) (offer k listing : Nat) : Except PyError (RemovalStart × Db) := do
  let row ← getRow (db.offers.get? offer)
  let item ← getRow ((db.item? k).filter fun r => r.poolOffer == some offer)
  if isKnownLocalOnly db offer k listing row item then
    let (_, finalized) ← finalizeSingleItemRemoval db offer k listing false false
    return (.done { ok := true, removed := true }, finalized)
  if item.status = .reserved then
    return (.done { ok := false, errors := [reservedError] }, db)
  if hasConfirmedSaleEvidence db k then
    return (.done { ok := false, errors := [saleEvidenceError] }, db)
  if activePaCloneExists db offer k row && item.status == .removed then
    -- only the stale local marker is repaired; the key is not freed
    let repaired ← db.saveItem k (repairedRow item)
    requestRemoval repaired offer k listing row .pushed
  else
    requestRemoval db offer k listing row item.status

/-- What the marketplace answered to a removal. -/
inductive RemovalAnswer
  /-- The deletions that were confirmed, and the joined errors of the others. -/
  | answered (removed : List Nat) (error : String)
  | raised (error : String)
  deriving DecidableEq, Repr

/-- The rest of `detach_pool_offer` after a partial or full deletion. -/
def finishDetach (offer : Nat) (items removed : List Nat) (error : String) :
    Prog PyError Db Unit := do
  Prog.atomically fun db => releaseRemovedItems db offer (items.filter (· ∈ removed))
  let failed := items.filter (· ∉ removed)
  if failed.isEmpty then
    Prog.change fun db =>
      { db with
        offers := db.offers.updateWhere (fun k _ => k == offer) fun o =>
          { o with status := .detached, lastError := "", currentRemoteCount := some 0 } }
  else
    finishRemoveFailures offer (if error = "" then "Remote removal failed" else error) failed

/-- **The second half of a removal.** -/
def answerRemoval (op : InFlight) (answer : RemovalAnswer) : Prog PyError Db Unit :=
  match op, answer with
  | .removal offer k _ _ _, .raised error => finishRemoveFailures offer error [k]
  | .removal offer k listing countKnown autoRelease, .answered removed error =>
    if k ∈ removed then
      Prog.atomically fun db =>
        (finalizeSingleItemRemoval db offer k listing countKnown autoRelease).map Prod.snd
    else
      finishRemoveFailures offer (if error = "" then "Remote removal failed" else error) [k]
  | .detach offer items, .raised error => finishRemoveFailures offer error items
  | .detach offer items, .answered removed error => finishDetach offer items removed error

/-! ### Returning a key by hand -/

def manualReturnWarning : String :=
  "Manual staff override: returned to available pool after " ++
    "PlayerAuctions deletion was not confirmed; the remote offer may still be live."

/-- The row `force_return_pool_item_to_available` writes. -/
def manuallyReturnedRow (locked : ItemRow) : ItemRow :=
  { locked with
    status := .pending
    poolOffer := none
    targetOfferId := ""
    remoteCredentialId := ""
    remoteState := .unknown
    pushedAt := none
    consumedAt := none
    reservation := none
    claimToken := none
    claimedAt := none
    errorMessage := manualReturnWarning
    failureStage := .manualReturnRemoteUnknown }

/-- The errors under which a key is not returned by hand. -/
def manualReturnErrors (db : Db) (k : Nat) (locked : ItemRow) : List String :=
  if locked.status = .reserved then [reservedError]
  else if hasUnresolvedMarketplaceOrder db locked then
    ["This key has a marketplace order awaiting final resolution and cannot be returned to stock."]
  else if hasConfirmedSaleEvidence db k then [saleEvidenceError]
  else if !(locked.status == .queued || locked.status == .pushed || locked.status == .failed) then
    ["Key cannot be returned while its Pool state is " ++ locked.status.text ++ "."]
  else []

/-- The old clone record of a key returned by hand: kept, without the key. -/
def abandonClone (offer k : Nat) (a : OfferPoolActiveOffer) : OfferPoolActiveOffer :=
  if a.poolOffer = some offer ∧ a.poolItem = some k then
    { a with status := .failed, poolItem := none, active_clone_requires_listing_item := nofun }
  else a

/-- **`force_return_pool_item_to_available`**. -/
def forceReturnToAvailable (db : Db) (offer k listing : Nat) :
    Except PyError (RemoveItemResult × Db) := do
  let row ← getRow (db.offers.get? offer)
  if !isPaCloneLane db row then
    return (
      { ok := false
        errors :=
          ["Manual return is supported only for individual PlayerAuctions clone listings."] }, db)
  let locked ← getRow ((db.item? k).filter fun r => r.poolOffer == some offer)
  let errors := manualReturnErrors db k locked
  if !errors.isEmpty then
    return ({ ok := false, errors }, db)
  let saved ← db.saveItem k (manuallyReturnedRow locked)
  return ({ ok := true, removed := true, releasedToPool := true },
    { saved with
      activeOffers := db.activeOffers.mapRows fun _ a => abandonClone offer k a
      listingOwnedProducts := db.listingOwnedProducts.deleteWhere fun _ l =>
        l.ownedProduct == locked.ownedProduct &&
          (l.listing == listing || db.activeOffers.any fun _ a =>
            a.poolOffer == some offer && a.poolItem == some k && a.listing == some l.listing)
      offers := db.offers.updateWhere (fun j _ => j == offer) fun o =>
        { o with lastError := manualReturnWarning } })

/-- **`remove_pool_item`** of the API, for a key without a PoolOffer; the flag
says whether it was removed. -/
def removeUnassignedItem (db : Db) (k : Nat) : Except PyError (Bool × Db) := do
  let item ← getRow ((db.item? k).filter fun r => r.poolOffer.isNone)
  if item.status = .reserved ∨ hasConfirmedSaleEvidence db k = true ∨
      hasFinalSaleOrder db item.ownedProduct = true ∨ item.status = .queued then
    return (false, db)
  let saved ← db.saveItem k
    { item with
      status := .removed
      liveOwnedProduct := none
      errorMessage := "Removed by staff from shared pool stock." }
  return (true, saved)

/-- The row `retry_pool_item` writes. -/
def retriedRow (item : ItemRow) : ItemRow :=
  { item with
    status := .pending
    poolOffer := none
    failureStage := .blank
    errorMessage := ""
    remoteCredentialId := ""
    targetOfferId := "" }

/-- Only a failure whose remote absence is known is retried. -/
def isRetryable (item : ItemRow) : Bool :=
  item.status == .failed && item.remoteState == .absent

/-- **`retry_pool_item`** of the API. -/
def retryPoolItem (db : Db) (k : Nat) : Except PyError (Bool × Db) := do
  let item ← getRow (db.item? k)
  if !isRetryable item then
    return (false, db)
  let saved ← db.saveItem k (retriedRow item)
  return (true, saved)

/-! ### Recovering a verified unsold key -/

/-- `_reserved_return_allowed`: the job is over, and the reservation is closed
or older than `MANUAL_RESERVED_RETURN_AGE`, thirty minutes. -/
def reservedReturnAllowed (db : Db) (res : PoolDispatchReservation) : Bool :=
  !((res.job.bind db.jobs.get?).any fun job => job.status == .pending || job.status == .running) &&
    (res.status != .active || !(db.now < res.createdAt + staleReservationAge))

def staffReleaseReason : String :=
  "Staff-verified stale reservation returned to available pool stock."

/-- **`_recover_reserved_item`**: the evidence of one item decides about every
item of its reservation. -/
def recoverReservedItem (db : Db) (k : Nat) (item : ItemRow) : Except PyError (Bool × Db) := do
  if hasSaleEvent db k then
    return (false, db)
  if item.poolOffer.isSome || db.activeOffers.any fun _ a => a.poolItem == some k then
    return (false, db)
  match item.reservation with
  | none => makeAvailable db k
  | some n =>
    let res ← getRow (db.reservations.get? n)
    if !reservedReturnAllowed db res then
      return (false, db)
    let released ← releaseReservedItems db n staffReleaseReason .absent none
    return (true, released)

/-- What is left to do after the local half of a recovery. -/
inductive RecoveryStart
  | refused
  | done
  /-- The exact remote record has to be looked up first. -/
  | verify
  deriving DecidableEq, Repr

/-- **`recover_verified_unsold_item`**, up to the remote verification; that
ends in `makeAvailable` or `restoreLiveItem`. -/
def recoverVerifiedUnsoldItem (db : Db) (k : Nat) : Except PyError (RecoveryStart × Db) := do
  let finished (r : Bool × Db) : RecoveryStart × Db := (if r.1 then .done else .refused, r.2)
  let item ← getRow (db.item? k)
  if hasUnresolvedMarketplaceOrder db item then
    return (.refused, db)
  if item.status = .pending ∧ item.poolOffer = none then
    return (.done, db)
  if item.status = .reserved then
    return finished (← recoverReservedItem db k item)
  if item.status = .queued ∨ hasSaleEvent db k = true then
    return (.refused, db)
  match item.poolOffer with
  | none => return finished (← makeAvailable db k)
  | some offer =>
    let row ← getRow (db.offers.get? offer)
    let active := db.activeOffers.any fun _ a => a.poolItem == some k && a.status == .active
    let sold := db.activeOffers.any fun _ a => a.poolItem == some k && a.status == .sold
    if marketplace db row = some .playerauctions then
      if item.remoteState = .absent ∧ active = false then
        return finished (← makeAvailable db k)
      if sold then
        return (.refused, db)
      if active then
        return (.verify, db)
      return finished (← makeAvailable db k)
    else
      return (.verify, db)

end Sda
