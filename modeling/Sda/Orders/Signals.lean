/-
Sda/Orders/Signals.lean

What a save of an order sets off (orders/signals.py, inventory/signals.py,
listings/signals.py) and the resolver of product statuses
(`resolve_owned_product_status`, inventory/services/__init__.py).

Three apps write `OwnedProduct.status`.  The inventory app resolves it from the
orders and listings of the product, on each save and delete of an order or of a
link to a listing; the orders app steps it along with one order; the listings
app steps it with one listing.  The receivers of one signal run in the order of
the apps: inventory, listings, orders.

A receiver works on a Python object, not on the row: `Owned` is the object
`order.owned_product` with the status it has in memory, and a status that is
already there in memory is not written.  The sync services keep such objects
between runs (`_owned_cache`), so the two may differ.

The row of an order is its product and status (`Order`); the other columns a
receiver reads come with the instance that is saved.  Columns no receiver
reads, and the log lines, are left out.
-/
import Sda.Pool.Allocation
import Sda.Sync.Models

namespace Sda.Orders

open Sync (DropshipProduct)

/-! ### The tables -/

/-- A row of `order_replacements`. -/
structure OrderReplacement where
  order : Nat
  oldProduct : Nat
  newProduct : Nat
  poolItem : Nat
  reason : String
  employeeName : String
  deriving DecidableEq, Repr

/-- The database of the pools, and what the order app has and reads besides. -/
structure Shop where
  db : Db
  dropshipProducts : Table DropshipProduct := .empty
  replacements : Table OrderReplacement := .empty
  /-- `OwnedProduct.product_origin`. -/
  productOrigin : Nat → Option Nat := fun _ => none
  /-- `OwnedProduct.game`. -/
  productGame : Nat → Option Nat := fun _ => none
  /-- `Listing.dropship_product`. -/
  listingDropship : Nat → Option Nat := fun _ => none

/-- An `OwnedProduct` object: its key, and the status it has in memory. -/
structure Owned where
  pk : Nat
  status : OwnedProductStatus
  deriving DecidableEq, Repr

/-- The columns of an order that is saved, as the receivers read them. -/
structure OrderInstance where
  status : OrderStatus
  owned : Option Owned := none
  integrationAccount : Option Nat := none
  listing : Option Nat := none
  dropshipProduct : Option Nat := none
  deriving DecidableEq, Repr

/-- `CANCEL_STATUSES`. -/
def isCancelStatus : OrderStatus → Bool
  | .cancelled | .refunded => true
  | _ => false

/-- `_SOLD`; also the statuses `_handle_order_sold` is called for. -/
def isSoldStatus : OrderStatus → Bool
  | .pending | .delivered | .completed => true
  | _ => false

/-- `_ACTIVE_LISTING`. -/
def isActiveListing : ListingStatus → Bool
  | .listed | .paused => true
  | _ => false

def isListed : ListingStatus → Bool
  | .listed => true
  | _ => false

/-- The column text of a listing status. -/
def listingStatusText : ListingStatus → String
  | .listed => "listed"
  | .paused => "paused"
  | .closed => "closed"
  | .deleted => "deleted"

/-! ### Reading -/

def productStatus (s : Shop) (p : Nat) : Option OwnedProductStatus :=
  (s.db.ownedProducts.get? p).map OwnedProduct.status

/-- The orders of a product that are neither cancelled nor refunded. -/
def activeOrders (db : Db) (p : Nat) : Nat :=
  db.orders.count fun _ o => o.ownedProduct == some p && !isCancelStatus o.status

/-- The orders the resolver counts. -/
def soldOrders (db : Db) (p : Nat) : Nat :=
  db.orders.count fun _ o => o.ownedProduct == some p && isSoldStatus o.status

/-- Is the product linked to a listing of these statuses? -/
def hasListing (selected : ListingStatus → Bool) (db : Db) (p : Nat) : Bool :=
  db.listingOwnedProducts.any fun _ l =>
    l.ownedProduct == p && (db.listings.get? l.listing).any fun row => selected row.status

/-- The number of products linked to a listing. -/
def linkCount (db : Db) (listing : Nat) : Nat :=
  db.listingOwnedProducts.count fun _ l => l.listing == listing

/-! ### The resolver -/

def setProductStatus (s : Shop) (p : Nat) (status : OwnedProductStatus) : Shop :=
  { s with
    db := { s.db with
      ownedProducts := s.db.ownedProducts.updateWhere (fun k _ => k == p) fun _ => { status } } }

/-- `owned.status = status; owned.save(update_fields=['status', 'updated_at'])`. -/
def Owned.save (s : Shop) (o : Owned) (status : OwnedProductStatus) : Shop × Owned :=
  (setProductStatus s o.pk status, { o with status })

/-- `new_status`. -/
def resolvedStatus (db : Db) (p : Nat) : OwnedProductStatus :=
  if 2 ≤ soldOrders db p then .multipleSold
  else if soldOrders db p = 1 then .sold
  else if hasListing isActiveListing db p then .listed
  else .draft

/-- **`resolve_owned_product_status`**. -/
def resolveOwnedProductStatus (s : Shop) (o : Owned) : Shop × Owned :=
  if o.status ≠ resolvedStatus s.db o.pk then o.save s (resolvedStatus s.db o.pk) else (s, o)

/-- `OwnedProduct.objects.get(pk=p)`, resolved; a product that is gone is
ignored. -/
def resolveProduct (s : Shop) (p : Nat) : Shop :=
  match productStatus s p with
  | some status => (resolveOwnedProductStatus s ⟨p, status⟩).1
  | none => s

/-! ### Links between listings and products -/

/-- **`owned_product_listed`**, for a new link. -/
def ownedProductListed (s : Shop) (o : Owned) : Shop :=
  if o.status = .draft then (o.save s .listed).1 else s

/-- **`owned_product_maybe_unlisted`**. -/
def ownedProductMaybeUnlisted (s : Shop) (o : Owned) : Shop :=
  if o.status = .listed ∧ hasListing isListed s.db o.pk = false then (o.save s .draft).1 else s

/-- The object a receiver works on: the one in memory, else the row as it is
now. -/
def fetched (s : Shop) (p : Nat) (memory : Option OwnedProductStatus) : Option Owned :=
  (memory <|> productStatus s p).map fun status => ⟨p, status⟩

def addLink (s : Shop) (listing p : Nat) : Shop :=
  { s with
    db := { s.db with listingOwnedProducts := s.db.listingOwnedProducts.create ⟨listing, p⟩ } }

def dropLink (s : Shop) (link : Nat) : Shop :=
  { s with
    db := { s.db with
      listingOwnedProducts := s.db.listingOwnedProducts.deleteWhere fun k _ => k == link } }

/-- A link is created, and its receivers run. -/
def createLink (s : Shop) (listing p : Nat) (memory : Option OwnedProductStatus) : Shop :=
  let resolved := resolveProduct (addLink s listing p) p
  (fetched resolved p memory).elim resolved (ownedProductListed resolved)

/-- A link is deleted, and its receivers run. -/
def deleteLink (s : Shop) (link p : Nat) (memory : Option OwnedProductStatus) : Shop :=
  let resolved := resolveProduct (dropLink s link) p
  (fetched resolved p memory).elim resolved (ownedProductMaybeUnlisted resolved)

/-! ### Listings -/

/-- The PoolOffers that have a clone on the listing. -/
def cloneLanes (db : Db) (listing : Nat) : List Nat :=
  (db.activeOffers.select fun _ a => a.listing == some listing).filterMap fun r =>
    r.2.poolOffer.filter fun k => (db.offers.get? k).any fun o => o.strategy == .clone

/-- The PoolOffers of the listing become ERROR, those of its clones excepted. -/
def disableLanes (db : Db) (listing : Nat) (status : ListingStatus) : Db :=
  { db with
    offers := db.offers.updateWhere
      (fun k o => o.listing == listing && !(cloneLanes db listing).contains k) fun o =>
        { o with
          status := .error
          lastError := "Listing status changed to " ++ listingStatusText status } }

/-- The ACTIVE clones of the listing become DELISTED. -/
def delistClones (db : Db) (listing : Nat) : Db :=
  { db with
    activeOffers := db.activeOffers.updateWhere
      (fun _ a => a.listing == some listing && a.status == .active) fun a =>
        { a with status := .delisted, active_clone_requires_listing_item := a.delisted_requires } }

/-- **`_cascade_dropship_product`**. -/
def cascadeDropshipProduct (s : Shop) (listing : Nat) : Shop :=
  match s.listingDropship listing with
  | none => s
  | some dp =>
    let otherListed := s.db.listings.any fun k row =>
      k != listing && s.listingDropship k == some dp && row.status == .listed
    { s with
      dropshipProducts := s.dropshipProducts.updateWhere
        (fun k row => k == dp && row.status == .listed && !otherListed) fun row =>
          { row with status := .deleted, deletedAt := some s.db.now } }

/-- Is the product linked to another LISTED listing? -/
def listedElsewhere (db : Db) (listing p : Nat) : Bool :=
  db.listingOwnedProducts.any fun _ l =>
    l.ownedProduct == p && l.listing != listing &&
      (db.listings.get? l.listing).any fun row => isListed row.status

/-- The products of the listing, with the statuses the query reads. -/
def linkedProducts (s : Shop) (listing : Nat) : List Owned :=
  (s.db.listingOwnedProducts.select fun _ l => l.listing == listing).filterMap fun r =>
    fetched s r.2.ownedProduct none

/-- The body of the loop over the products. -/
def unlistProduct (listing : Nat) (s : Shop) (o : Owned) : Shop :=
  if o.status = .listed ∧ listedElsewhere s.db listing o.pk = false then (o.save s .draft).1
  else s

/-- **`listing_deactivated`**. -/
def listingDeactivated (s : Shop) (listing : Nat) (status : ListingStatus) : Shop :=
  if isActiveListing status then s
  else
    let delisted := { s with db := delistClones (disableLanes s.db listing status) listing }
    let cascaded := cascadeDropshipProduct delisted listing
    (linkedProducts cascaded listing).foldl (unlistProduct listing) cascaded

def setListing (s : Shop) (listing : Nat) (status : ListingStatus) : Shop :=
  { s with
    db := { s.db with
      listings := s.db.listings.updateWhere (fun k _ => k == listing) fun row =>
        { row with status } } }

/-- A listing is saved with a status, and its receiver runs. -/
def saveListing (s : Shop) (listing : Nat) (status : ListingStatus) : Shop :=
  listingDeactivated (setListing s listing status) listing status

/-! ### Orders -/

/-- The product of a sold order. -/
def sellOwned (s : Shop) (o : Owned) : Shop × Owned :=
  if 1 < activeOrders s.db o.pk ∧ o.status ≠ .multipleSold then o.save s .multipleSold
  else if activeOrders s.db o.pk = 1 ∧ o.status = .listed then o.save s .sold
  else (s, o)

/-- **`_mark_origin_owned_products_sold`**. -/
def markOriginOwnedProductsSold (s : Shop) (dp : Nat) : Shop :=
  { s with
    db := { s.db with
      ownedProducts := s.db.ownedProducts.updateWhere
        (fun k row => s.productOrigin k == some dp && row.status == .listed) fun _ =>
          { status := .sold } } }

/-- The dropship product of a sold order. -/
def sellDropship (s : Shop) (dp : Nat) : Shop :=
  match s.dropshipProducts.get? dp with
  | none => s
  | some row =>
    if row.status = .sold then s
    else
      markOriginOwnedProductsSold
        { s with dropshipProducts := s.dropshipProducts.set dp { row with status := .sold } } dp

/-- The listing that was sold through. -/
def closeSoldListing (s : Shop) (listing : Nat) : Shop :=
  if (s.db.listings.get? listing).any fun row => isListed row.status then
    saveListing s listing .closed
  else s

/-- The links `_unlink_same_account_listings` reads. -/
def sameAccountLinks (db : Db) (account : Option Nat) (p : Nat) :
    List (Nat × ListingOwnedProduct) :=
  db.listingOwnedProducts.select fun _ l =>
    l.ownedProduct == p && (db.listings.get? l.listing).any fun row =>
      some row.integrationAccount == account && isActiveListing row.status

/-- The body of its loop: a listing without another product is closed. -/
def unlinkSold (s : Shop) (r : Nat × ListingOwnedProduct) : Shop :=
  let totalLinked := linkCount s.db r.2.listing
  let unlinked := deleteLink s r.1 r.2.ownedProduct none
  if totalLinked ≤ 1 then saveListing unlinked r.2.listing .closed else unlinked

/-- **`_unlink_same_account_listings`**. -/
def unlinkSameAccountListings (s : Shop) (account : Option Nat) (p : Nat) : Shop :=
  (sameAccountLinks s.db account p).foldl unlinkSold s

/-- The end of `_handle_order_sold`: the listings of the order. -/
def closeAndUnlink (s : Shop) (inst : OrderInstance) (created : Bool) : Shop :=
  let closed := inst.listing.elim s (closeSoldListing s)
  match inst.owned, created with
  | some o, true => unlinkSameAccountListings closed inst.integrationAccount o.pk
  | _, _ => closed

/-- The product of the order, sold. -/
def sellProduct (s : Shop) (inst : OrderInstance) : Shop × OrderInstance :=
  match inst.owned with
  | some o => let (sold, o) := sellOwned s o; (sold, { inst with owned := some o })
  | none => (s, inst)

/-- **`_handle_order_sold`**. -/
def handleOrderSold (s : Shop) (inst : OrderInstance) (created : Bool) : Shop × OrderInstance :=
  let (sold, inst) := sellProduct s inst
  let dropped := inst.dropshipProduct.elim sold (sellDropship sold)
  (closeAndUnlink dropped inst created, inst)

/-- `remaining`. -/
def remainingOrders (db : Db) (pk p : Nat) : Nat :=
  db.orders.count fun k o =>
    o.ownedProduct == some p && !isCancelStatus o.status && k != pk

/-- The product of a cancelled order. -/
def revertOwned (s : Shop) (pk : Nat) (o : Owned) : Shop × Owned :=
  if o.status ≠ .sold ∧ o.status ≠ .multipleSold then (s, o)
  else if 1 < remainingOrders s.db pk o.pk then (s, o)
  else if remainingOrders s.db pk o.pk = 1 then o.save s .sold
  else if hasListing isListed s.db o.pk then o.save s .listed
  else o.save s .draft

/-- **`_handle_order_cancelled`**. -/
def handleOrderCancelled (s : Shop) (pk : Nat) (inst : OrderInstance) : Shop × OrderInstance :=
  match inst.owned with
  | some o => let (reverted, o) := revertOwned s pk o; (reverted, { inst with owned := some o })
  | none => (s, inst)

/-- **`order_status_changed`**. -/
def orderStatusChanged (pk : Nat) (created : Bool) (st : Shop × OrderInstance) :
    Shop × OrderInstance :=
  if isCancelStatus st.2.status then handleOrderCancelled st.1 pk st.2
  else if isSoldStatus st.2.status then handleOrderSold st.1 st.2 created
  else st

/-- **`order_saved`**. -/
def orderSaved (st : Shop × OrderInstance) : Shop × OrderInstance :=
  match st.2.owned with
  | some o =>
    let (resolved, o) := resolveOwnedProductStatus st.1 o
    (resolved, { st.2 with owned := some o })
  | none => st

/-- The row of the instance. -/
def OrderInstance.row (inst : OrderInstance) : Order where
  ownedProduct := inst.owned.map Owned.pk
  status := inst.status

/-- The row is written: inserted under a new key, or updated. -/
def writeOrder (s : Shop) (pk : Option Nat) (inst : OrderInstance) : Shop :=
  { s with
    db := { s.db with
      orders :=
        match pk with
        | some k => s.db.orders.updateWhere (fun j _ => j == k) fun _ => inst.row
        | none => s.db.orders.create inst.row } }

/-- The key of the row that is written. -/
def orderKey (s : Shop) (pk : Option Nat) : Nat :=
  pk.getD s.db.orders.nextKey

/-- **`order.save()`**, with its receivers; a new order has no key. -/
def saveOrder (s : Shop) (pk : Option Nat) (inst : OrderInstance) : Shop :=
  (orderStatusChanged (orderKey s pk) pk.isNone (orderSaved (writeOrder s pk inst, inst))).1

/-- **`order.delete()`**, with `order_deleted`. -/
def deleteOrder (s : Shop) (pk : Nat) : Shop :=
  let deleted := { s with
    db := { s.db with orders := s.db.orders.deleteWhere fun k _ => k == pk } }
  match (s.db.orders.get? pk).bind Order.ownedProduct with
  | some p => resolveProduct deleted p
  | none => deleted

/-! ### What writes product statuses only -/

section Frames

variable {s s' s'' : Shop} {o : Owned} {p q k listing : Nat}

/-- `s'` is `s` but for the statuses of products, owned or dropshipped. -/
def OnlyProducts (s s' : Shop) : Prop :=
  ∃ ownedProducts dropshipProducts,
    s' = { s with db := { s.db with ownedProducts }, dropshipProducts }

theorem OnlyProducts.refl (s : Shop) : OnlyProducts s s :=
  ⟨s.db.ownedProducts, s.dropshipProducts, rfl⟩

theorem OnlyProducts.trans (h : OnlyProducts s s') (h' : OnlyProducts s' s'') :
    OnlyProducts s s'' := by
  obtain ⟨ps, ds, rfl⟩ := h
  obtain ⟨ps', ds', rfl⟩ := h'
  exact ⟨ps', ds', rfl⟩

theorem OnlyProducts.orders (h : OnlyProducts s s') : s'.db.orders = s.db.orders := by
  obtain ⟨ps, ds, rfl⟩ := h
  rfl

theorem OnlyProducts.listings (h : OnlyProducts s s') : s'.db.listings = s.db.listings := by
  obtain ⟨ps, ds, rfl⟩ := h
  rfl

theorem OnlyProducts.links (h : OnlyProducts s s') :
    s'.db.listingOwnedProducts = s.db.listingOwnedProducts := by
  obtain ⟨ps, ds, rfl⟩ := h
  rfl

theorem OnlyProducts.offers (h : OnlyProducts s s') : s'.db.offers = s.db.offers := by
  obtain ⟨ps, ds, rfl⟩ := h
  rfl

theorem OnlyProducts.pools (h : OnlyProducts s s') : s'.db.pools = s.db.pools := by
  obtain ⟨ps, ds, rfl⟩ := h
  rfl

theorem onlyProducts_set (status : OwnedProductStatus) :
    OnlyProducts s (setProductStatus s p status) :=
  ⟨_, s.dropshipProducts, rfl⟩

theorem onlyProducts_resolve : OnlyProducts s (resolveOwnedProductStatus s o).1 := by
  unfold resolveOwnedProductStatus
  split
  · exact onlyProducts_set _
  · exact OnlyProducts.refl s

theorem onlyProducts_resolveProduct : OnlyProducts s (resolveProduct s p) := by
  unfold resolveProduct
  split
  · exact onlyProducts_resolve
  · exact OnlyProducts.refl s

theorem onlyProducts_maybeUnlisted : OnlyProducts s (ownedProductMaybeUnlisted s o) := by
  unfold ownedProductMaybeUnlisted
  split
  · exact onlyProducts_set _
  · exact OnlyProducts.refl s

theorem onlyProducts_unlistProduct : OnlyProducts s (unlistProduct listing s o) := by
  unfold unlistProduct
  split
  · exact onlyProducts_set _
  · exact OnlyProducts.refl s

theorem onlyProducts_unlistProducts (os : List Owned) (s : Shop) :
    OnlyProducts s (os.foldl (unlistProduct listing) s) := by
  induction os generalizing s with
  | nil => exact OnlyProducts.refl s
  | cons o os ih => exact onlyProducts_unlistProduct.trans (ih _)

theorem onlyProducts_cascade : OnlyProducts s (cascadeDropshipProduct s listing) := by
  unfold cascadeDropshipProduct
  split
  · exact OnlyProducts.refl s
  · exact ⟨s.db.ownedProducts, _, rfl⟩

theorem onlyProducts_sellDropship (dp : Nat) : OnlyProducts s (sellDropship s dp) := by
  unfold sellDropship
  split
  · exact OnlyProducts.refl s
  split
  · exact OnlyProducts.refl s
  · exact ⟨_, _, rfl⟩

theorem onlyProducts_sellOwned : OnlyProducts s (sellOwned s o).1 := by
  unfold sellOwned
  split
  · exact onlyProducts_set _
  · split
    · exact onlyProducts_set _
    · exact OnlyProducts.refl s

theorem onlyProducts_revertOwned : OnlyProducts s (revertOwned s k o).1 := by
  unfold revertOwned
  split
  · exact OnlyProducts.refl s
  split
  · exact OnlyProducts.refl s
  split
  · exact onlyProducts_set _
  split
  · exact onlyProducts_set _
  · exact onlyProducts_set _

/-- **What the deletion of a link leaves**: the link is gone, and product
statuses may differ. -/
theorem deleteLink_leaves (s : Shop) (link p : Nat) (memory : Option OwnedProductStatus) :
    OnlyProducts (dropLink s link) (deleteLink s link p memory) := by
  have hresolved : OnlyProducts (dropLink s link) (resolveProduct (dropLink s link) p) :=
    onlyProducts_resolveProduct
  unfold deleteLink
  dsimp only
  rcases fetched (resolveProduct (dropLink s link) p) p memory with - | o
  · exact hresolved
  · exact hresolved.trans onlyProducts_maybeUnlisted

/-! ### What a listing that is saved leaves -/

/-- The rows of other listings, the PoolOffers of other listings, the links and
the orders are as before. -/
structure LeavesOthers (listing : Nat) (s s' : Shop) : Prop where
  orders : s'.db.orders = s.db.orders
  links : s'.db.listingOwnedProducts = s.db.listingOwnedProducts
  pools : s'.db.pools = s.db.pools
  listings : ∀ l, l ≠ listing → s'.db.listings.get? l = s.db.listings.get? l
  offers : ∀ k o, s.db.offers.get? k = some o → o.listing ≠ listing →
    s'.db.offers.get? k = some o

theorem leavesOthers_of_onlyProducts (h : OnlyProducts s s') : LeavesOthers listing s s' where
  orders := h.orders
  links := h.links
  pools := h.pools
  listings := fun l _ => by rw [h.listings]
  offers := fun k o hk _ => by rw [h.offers]; exact hk

theorem LeavesOthers.trans (h : LeavesOthers listing s s') (h' : LeavesOthers listing s' s'') :
    LeavesOthers listing s s'' where
  orders := h'.orders.trans h.orders
  links := h'.links.trans h.links
  pools := h'.pools.trans h.pools
  listings := fun l hl => (h'.listings l hl).trans (h.listings l hl)
  offers := fun k o hk hl => h'.offers k o (h.offers k o hk hl) hl

theorem leavesOthers_setListing (status : ListingStatus) :
    LeavesOthers listing s (setListing s listing status) where
  orders := rfl
  links := rfl
  pools := rfl
  listings := by
    intro l hl
    show (s.db.listings.updateWhere _ _).get? l = _
    rw [Table.get?_updateWhere]
    rcases s.db.listings.get? l with - | row
    · rfl
    · simp [hl]
  offers := fun _ _ hk _ => hk

theorem leavesOthers_delist (status : ListingStatus) :
    LeavesOthers listing s
      { s with db := delistClones (disableLanes s.db listing status) listing } where
  orders := rfl
  links := rfl
  pools := rfl
  listings := fun _ _ => rfl
  offers := by
    intro k o hk hl
    show (s.db.offers.updateWhere _ _).get? k = _
    rw [Table.get?_updateWhere, hk]
    simp [hl]

theorem leavesOthers_listingDeactivated (status : ListingStatus) :
    LeavesOthers listing s (listingDeactivated s listing status) := by
  unfold listingDeactivated
  split
  · exact leavesOthers_of_onlyProducts (OnlyProducts.refl s)
  · dsimp only
    refine (leavesOthers_delist status).trans ?_
    apply leavesOthers_of_onlyProducts
    exact onlyProducts_cascade.trans (onlyProducts_unlistProducts _ _)

theorem listings_listingDeactivated (status : ListingStatus) :
    (listingDeactivated s listing status).db.listings = s.db.listings := by
  unfold listingDeactivated
  split
  · rfl
  · dsimp only
    exact (onlyProducts_cascade.trans (onlyProducts_unlistProducts _ _)).listings

theorem listings_saveListing (status : ListingStatus) :
    (saveListing s listing status).db.listings
      = s.db.listings.updateWhere (fun k _ => k == listing) fun row => { row with status } :=
  listings_listingDeactivated status

/-- **What a save of a listing leaves.** -/
theorem leavesOthers_saveListing (status : ListingStatus) :
    LeavesOthers listing s (saveListing s listing status) :=
  (leavesOthers_setListing status).trans (leavesOthers_listingDeactivated status)

/-! ### What a save of a sold order leaves -/

/-- The same order, its product perhaps with another status in memory. -/
def SameOrder (inst inst' : OrderInstance) : Prop :=
  ∃ owned, inst' = { inst with owned } ∧ owned.map Owned.pk = inst.owned.map Owned.pk

theorem SameOrder.refl (inst : OrderInstance) : SameOrder inst inst :=
  ⟨inst.owned, rfl, rfl⟩

theorem SameOrder.trans {inst inst' inst'' : OrderInstance} (h : SameOrder inst inst')
    (h' : SameOrder inst' inst'') : SameOrder inst inst'' := by
  obtain ⟨owned, rfl, hpk⟩ := h
  obtain ⟨owned', rfl, hpk'⟩ := h'
  exact ⟨owned', rfl, hpk'.trans hpk⟩

theorem resolveOwnedProductStatus_pk : (resolveOwnedProductStatus s o).2.pk = o.pk := by
  unfold resolveOwnedProductStatus
  split <;> rfl

theorem sellOwned_pk : (sellOwned s o).2.pk = o.pk := by
  unfold sellOwned
  split
  · rfl
  · split <;> rfl

theorem orderSaved_leaves (st : Shop × OrderInstance) :
    OnlyProducts st.1 (orderSaved st).1 ∧ SameOrder st.2 (orderSaved st).2 := by
  unfold orderSaved
  split
  · rename_i o ho
    refine ⟨onlyProducts_resolve, some (resolveOwnedProductStatus st.1 o).2, rfl, ?_⟩
    rw [ho, Option.map_some, Option.map_some, resolveOwnedProductStatus_pk]
  · exact ⟨OnlyProducts.refl _, SameOrder.refl _⟩

theorem sellProduct_leaves (s : Shop) (inst : OrderInstance) :
    OnlyProducts s (sellProduct s inst).1 ∧ SameOrder inst (sellProduct s inst).2 := by
  unfold sellProduct
  split
  · rename_i o ho
    refine ⟨onlyProducts_sellOwned, some (sellOwned s o).2, rfl, ?_⟩
    rw [ho, Option.map_some, Option.map_some, sellOwned_pk]
  · exact ⟨OnlyProducts.refl _, SameOrder.refl _⟩

theorem not_cancel_of_sold {status : OrderStatus} (h : isSoldStatus status = true) :
    isCancelStatus status = false := by
  cases status with
  | pending | delivered | completed => rfl
  | refunded | disputed | disputeResolved | cancelled => cases h

/-- **The save of a sold order** writes its row, then product statuses, and then
sees to the listings. -/
theorem saveOrder_sold (s : Shop) (pk : Option Nat) (inst : OrderInstance)
    (hsold : isSoldStatus inst.status = true) :
    ∃ s₁ inst₁, OnlyProducts (writeOrder s pk inst) s₁ ∧ SameOrder inst inst₁ ∧
      saveOrder s pk inst = closeAndUnlink s₁ inst₁ pk.isNone := by
  obtain ⟨hsaved, hinst⟩ := orderSaved_leaves (writeOrder s pk inst, inst)
  rcases hst : orderSaved (writeOrder s pk inst, inst) with ⟨saved, inst₁⟩
  rw [hst] at hsaved hinst
  obtain ⟨hproduct, hinst₂⟩ := sellProduct_leaves saved inst₁
  have hstatus : inst₁.status = inst.status := by
    obtain ⟨owned, rfl, -⟩ := hinst
    rfl
  refine ⟨(sellProduct saved inst₁).2.dropshipProduct.elim (sellProduct saved inst₁).1
    (sellDropship (sellProduct saved inst₁).1), (sellProduct saved inst₁).2, ?_,
    hinst.trans hinst₂, ?_⟩
  · refine (hsaved.trans hproduct).trans ?_
    rcases (sellProduct saved inst₁).2.dropshipProduct with - | dp
    · exact OnlyProducts.refl _
    · exact onlyProducts_sellDropship dp
  · rw [saveOrder, hst, orderStatusChanged, hstatus, not_cancel_of_sold hsold, hsold]
    rfl

end Frames

end Sda.Orders
