/-
Sda/Pool/Recovery.lean

The two transactions of staff recovery (services/pool/recovery.py) and the
sale transaction's write to the sold item (services/pool/checker.py).

`makeAvailable` detaches an item whose credential was verified absent and
returns it to PENDING; `restoreLiveItem` marks it PUSHED again.  Both look at
sale evidence under the row lock, and neither looks at the status of the row
it locks.  `consumeSoldPoolItem` marks an item CONSUMED, whatever it was,
unless it is already terminal.

A refusal is a normal result of the source (`ok=False`); here it is `false`
with the database unchanged.
-/
import Sda.Pool.Allocation

namespace Sda

variable {db db' : Db} {k j : Nat} {done : Bool}

/-- `_has_unresolved_marketplace_order`: an order of this account that is
neither cancelled nor refunded. -/
def hasUnresolvedMarketplaceOrder (db : Db) (item : ItemRow) : Bool :=
  db.orders.any fun _ o =>
    o.ownedProduct == some item.ownedProduct &&
      !(o.status == .cancelled || o.status == .refunded)

/-- `PoolSaleEvent.objects.filter(pool_item_id=k).exists()`. -/
def hasSaleEvent (db : Db) (k : Nat) : Bool :=
  db.saleEvents.any fun _ e => e.poolItem == some k

/-- The listings `_make_available` unlinks from the product. -/
def linkedListing (db : Db) (k : Nat) (locked : ItemRow) (listing : Nat) : Bool :=
  (db.activeOffers.any fun _ a => a.poolItem == some k && a.listing == some listing) ||
    match locked.poolOffer.bind db.offers.get? with
    | some offer => offer.listing == listing
    | none => false

/-- The row `_make_available` writes. -/
def availableRow (locked : ItemRow) : ItemRow :=
  { locked with
    status := .pending
    poolOffer := none
    reservation := none
    pushedAt := none
    consumedAt := none
    errorMessage := ""
    targetOfferId := ""
    remoteCredentialId := ""
    claimToken := none
    claimedAt := none
    failureStage := .blank
    remoteState := .absent }

/-- An ACTIVE clone of the item becomes DELISTED. -/
def delistClone (k : Nat) (a : OfferPoolActiveOffer) : OfferPoolActiveOffer :=
  if a.poolItem = some k ∧ a.status = .active then
    { a with status := .delisted, active_clone_requires_listing_item := a.delisted_requires }
  else a

/-- **`_make_available`**: detach an unsold item and return it to the pending
pool. -/
def makeAvailable (db : Db) (k : Nat) : Except PyError (Bool × Db) := do
  let locked ← getRow (db.item? k)
  if hasUnresolvedMarketplaceOrder db locked || hasSaleEvent db k then
    return (false, db)
  -- a SOLD clone is evidence of a sale, with or without an event
  if db.activeOffers.any fun _ a => a.poolItem == some k && a.status == .sold then
    return (false, db)
  let saved ← db.saveItem k (availableRow locked)
  return (true,
    { saved with
      listingOwnedProducts := db.listingOwnedProducts.deleteWhere fun _ l =>
        l.ownedProduct == locked.ownedProduct && linkedListing db k locked l.listing
      activeOffers := db.activeOffers.mapRows fun _ a => delistClone k a })

/-- The row `_restore_live_item` writes. -/
def restoredRow (locked : ItemRow) (remoteCredentialId : String) : ItemRow :=
  { locked with
    status := .pushed
    consumedAt := none
    failureStage := .blank
    errorMessage := ""
    remoteState := .present
    claimToken := none
    claimedAt := none
    reservation := none
    remoteCredentialId :=
      if remoteCredentialId = "" then locked.remoteCredentialId else remoteCredentialId }

/-- **`_restore_live_item`**: restore a falsely consumed key. -/
def restoreLiveItem (db : Db) (k : Nat) (remoteCredentialId : String) :
    Except PyError (Bool × Db) := do
  let locked ← getRow (db.item? k)
  if hasUnresolvedMarketplaceOrder db locked || hasSaleEvent db k then
    return (false, db)
  -- whatever the status of the row was
  let saved ← db.saveItem k (restoredRow locked remoteCredentialId)
  return (true, saved)

/-- The row a verified sale writes. -/
def consumedRow (item : ItemRow) (now : Nat) : ItemRow :=
  { item with
    status := .consumed
    consumedAt := some now
    remoteState := .sold
    errorMessage := ""
    failureStage := .blank }

/-- **`_consume_sold_pool_item`**: inside the sale transaction; a missing or
terminal item is left alone. -/
def consumeSoldPoolItem (db : Db) (k : Nat) : Except PyError Db :=
  match db.item? k with
  | none => return db
  | some item =>
    if item.status = .consumed ∨ item.status = .removed then return db
    else db.saveItem k (consumedRow item db.now)

/-! ### Specifications -/

/-- **What `_make_available` does**: nothing, or, of an item without sale
evidence, the row becomes available and its ACTIVE clones DELISTED. -/
theorem makeAvailable_ok (h : makeAvailable db k = .ok (done, db')) :
    db' = db ∨
      (∃ items listingOwnedProducts,
        db' = { db with
          items, listingOwnedProducts
          activeOffers := db.activeOffers.mapRows fun _ a => delistClone k a }) ∧
      db.Rewrites k availableRow db' ∧ hasSaleEvent db k = false ∧
      (db.activeOffers.any fun _ a => a.poolItem == some k && a.status == .sold) = false := by
  obtain ⟨r, hr, h⟩ := except_bind_ok.mp h
  have hk := getRow_ok hr
  split at h
  · cases h
    exact Or.inl rfl
  rename_i hheld
  split at h
  · cases h
    exact Or.inl rfl
  rename_i hsold
  obtain ⟨saved, hs, h⟩ := except_bind_ok.mp h
  have hrw := Db.rewrites_of_saveItem (f := availableRow) hk hs
  obtain ⟨items, -, rfl⟩ := Db.saveItem_ok hs
  cases h
  have hevent := (Bool.or_eq_false_iff.mp (Bool.eq_false_iff.mpr hheld)).2
  exact Or.inr ⟨⟨items, _, rfl⟩, hrw, hevent, Bool.eq_false_iff.mpr hsold⟩

/-- **What `_restore_live_item` does**: nothing, or the row becomes PUSHED. -/
theorem restoreLiveItem_ok {credId : String} (h : restoreLiveItem db k credId = .ok (done, db')) :
    (∃ items, db' = { db with items }) ∧
      (db' = db ∨ db.Rewrites k (restoredRow · credId) db') := by
  obtain ⟨r, hr, h⟩ := except_bind_ok.mp h
  have hk := getRow_ok hr
  split at h
  · cases h
    exact ⟨⟨db.items, rfl⟩, Or.inl rfl⟩
  obtain ⟨saved, hs, h⟩ := except_bind_ok.mp h
  have hrw := Db.rewrites_of_saveItem (f := (restoredRow · credId)) hk hs
  obtain ⟨items, -, rfl⟩ := Db.saveItem_ok hs
  cases h
  exact ⟨⟨items, rfl⟩, Or.inr hrw⟩

/-- **What consuming an item does**: nothing, or the row becomes CONSUMED. -/
theorem consumeSoldPoolItem_ok (h : consumeSoldPoolItem db k = .ok db') :
    (∃ items, db' = { db with items }) ∧
      (db' = db ∨ db.Rewrites k (consumedRow · db.now) db') := by
  unfold consumeSoldPoolItem at h
  rcases hk : db.item? k with - | r
  · rw [hk] at h
    cases h
    exact ⟨⟨db.items, rfl⟩, Or.inl rfl⟩
  · simp only [hk] at h
    split at h
    · cases h
      exact ⟨⟨db.items, rfl⟩, Or.inl rfl⟩
    · have hrw := Db.rewrites_of_saveItem (f := (consumedRow · db.now)) hk h
      obtain ⟨items, -, rfl⟩ := Db.saveItem_ok h
      exact ⟨⟨items, rfl⟩, Or.inr hrw⟩

end Sda
