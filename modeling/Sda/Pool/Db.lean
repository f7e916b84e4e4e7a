/-
Sda/Pool/Db.lean

The database of the pool services: one table per model, the clock and the
supply of fresh UUIDs.

Only columns that a modelled service reads or writes are kept.  A
`transaction.atomic()` block is a function `Db → Except PyError Db`: an
exception carries no database, so nothing of the block survives it.

`PoolOffer` carries its three `CHECK` constraints; they speak about columns
no service of this development writes, so updating its status or its last
error keeps them.
-/
import Sda.Lib.Prog
import Sda.Pool.Models

namespace Sda

/-- `IntegrationAccount.provider`. -/
inductive Provider
  | lzt | g2g | eldorado | gameboost | playerauctions | u7buy
  deriving DecidableEq, Repr

/-- The column text of a provider. -/
def Provider.text : Provider → String
  | .lzt => "lzt"
  | .g2g => "g2g"
  | .eldorado => "eldorado"
  | .gameboost => "gameboost"
  | .playerauctions => "playerauctions"
  | .u7buy => "u7buy"

structure IntegrationAccount where
  provider : Provider
  slug : String
  deriving DecidableEq, Repr

inductive ListingStatus
  | listed | paused | closed | deleted
  deriving DecidableEq, Repr

structure Listing where
  integrationAccount : Nat
  storeListingId : String
  status : ListingStatus := .listed
  title : String := ""
  deriving DecidableEq, Repr

structure ListingOwnedProduct where
  listing : Nat
  ownedProduct : Nat
  deriving DecidableEq, Repr

structure OwnedProduct where
  status : OwnedProductStatus := .draft
  deriving DecidableEq, Repr

structure Order where
  ownedProduct : Option Nat
  status : OrderStatus
  deriving DecidableEq, Repr

structure OfferPool where
  status : OfferPoolStatus := .active
  deriving DecidableEq, Repr

/-- The columns of `pool_offers`. -/
structure PoolOfferRow where
  pool : Nat
  listing : Nat
  strategy : PoolOfferStrategy
  targetCount : Nat := 5
  threshold : Nat := 2
  maxConcurrent : Option Nat := none
  currentRemoteCount : Option Nat := none
  lastError : String := ""
  status : PoolOfferStatus := .active
  deriving DecidableEq, Repr

/-- A `PoolOffer` that meets the `CHECK` constraints of its table. -/
structure PoolOffer extends PoolOfferRow where
  pool_offer_threshold_lte_target : threshold ≤ targetCount
  pool_offer_positive_threshold_target : 1 ≤ threshold ∧ 1 ≤ targetCount
  pool_offer_strategy_capacity_valid :
    (strategy = .append ∧ maxConcurrent = none) ∨
      (strategy = .clone ∧ ∃ m, maxConcurrent = some m ∧ m ≤ 10 ∧ targetCount ≤ m)

structure OfferPoolActiveOfferRow where
  pool : Nat
  poolOffer : Option Nat
  storeListingId : String
  listing : Option Nat := none
  poolItem : Option Nat := none
  status : OfferPoolActiveOfferStatus := .active
  deriving DecidableEq, Repr

/-- A clone row; an ACTIVE clone names its listing and its item. -/
structure OfferPoolActiveOffer extends OfferPoolActiveOfferRow where
  active_clone_requires_listing_item :
    status = .active → listing ≠ none ∧ poolItem ≠ none

/-- A DELISTED clone may name neither. -/
theorem OfferPoolActiveOffer.delisted_requires (a : OfferPoolActiveOffer)
    (h : OfferPoolActiveOfferStatus.delisted = .active) :
    a.listing ≠ none ∧ a.poolItem ≠ none := by
  cases h

structure PoolDispatchAttempt where
  idempotencyKey : Nat
  item : Nat
  poolOffer : Nat
  operation : PoolDispatchOperation
  status : PoolDispatchStatus := .pending
  remoteOfferId : String := ""
  remoteCredentialId : String := ""
  errorCode : String := ""
  errorMessage : String := ""
  startedAt : Option Nat := none
  finishedAt : Option Nat := none
  deriving DecidableEq, Repr

structure PoolDispatchReservation where
  token : Nat
  pool : Nat
  store : Nat
  job : Option Nat := none
  status : PoolDispatchReservationStatus := .active
  itemCount : Nat := 0
  reason : String := ""
  createdAt : Nat := 0
  finalizedAt : Option Nat := none
  releasedAt : Option Nat := none
  deriving DecidableEq, Repr

structure PoolSaleEvent where
  eventKey : String
  listing : Nat
  poolOffer : Option Nat := none
  poolItem : Option Nat := none
  orderId : Option Nat := none
  processedAt : Option Nat := none
  outcome : String := ""
  deriving DecidableEq, Repr

/-- `settings["_pool_dispatch"]` of a job, as far as it is read back. -/
structure DispatchConfig where
  pool : Nat
  reservationId : Nat
  targetCount : Nat
  threshold : Nat
  maxConcurrent : Option Nat
  strategy : PoolOfferStrategy
  deriving DecidableEq, Repr

structure PostingJob where
  status : PostingJobStatus := .pending
  poolDispatch : Option DispatchConfig := none
  deriving DecidableEq, Repr

/-- The tables, the clock, and the next UUID. -/
structure Db where
  items : ItemTable
  pools : Table OfferPool := .empty
  offers : Table PoolOffer := .empty
  activeOffers : Table OfferPoolActiveOffer := .empty
  attempts : Table PoolDispatchAttempt := .empty
  reservations : Table PoolDispatchReservation := .empty
  saleEvents : Table PoolSaleEvent := .empty
  orders : Table Order := .empty
  ownedProducts : Table OwnedProduct := .empty
  listings : Table Listing := .empty
  listingOwnedProducts : Table ListingOwnedProduct := .empty
  accounts : Table IntegrationAccount := .empty
  jobs : Table PostingJob := .empty
  now : Nat := 0
  nextToken : Nat := 0

/-- `objects.get(pk=k)`. -/
def getRow {α : Type*} (row : Option α) : Except PyError α :=
  match row with
  | some a => .ok a
  | none => .error .doesNotExist

theorem getRow_ok {α : Type*} {row : Option α} {a : α} (h : getRow row = .ok a) :
    row = some a := by
  cases row with
  | none => cases h
  | some b => cases h; rfl

namespace Db

variable {db db' : Db} {k j : Nat} {r r₀ : ItemRow}

/-- The row of a pool item. -/
def item? (db : Db) (k : Nat) : Option ItemRow :=
  db.items.get? k

/-- `item.save()`. -/
def saveItem (db : Db) (k : Nat) (row : ItemRow) : Except PyError Db := do
  let items ← db.items.save k row
  return { db with items }

/-- `OfferPoolItem.objects.filter(p).update(f)`. -/
def updateItems (db : Db) (p : Nat → ItemRow → Bool) (f : ItemRow → ItemRow) :
    Except PyError Db := do
  let items ← db.items.update p f
  return { db with items }

theorem saveItem_ok (h : db.saveItem k r = .ok db') :
    ∃ items, db.items.save k r = .ok items ∧ db' = { db with items } := by
  obtain ⟨items, hs, h⟩ := except_bind_ok.mp h
  cases h
  exact ⟨items, hs, rfl⟩

theorem updateItems_ok {p : Nat → ItemRow → Bool} {f : ItemRow → ItemRow}
    (h : db.updateItems p f = .ok db') :
    ∃ items, db.items.update p f = .ok items ∧ db' = { db with items } := by
  obtain ⟨items, hs, h⟩ := except_bind_ok.mp h
  cases h
  exact ⟨items, hs, rfl⟩

theorem item?_saveItem (h : db.saveItem k r = .ok db') (hk : db.item? k = some r₀) :
    db'.item? j = if j = k then some r.keepLiveOwner else db.item? j := by
  obtain ⟨items, hs, rfl⟩ := saveItem_ok h
  exact ItemTable.get?_save hs hk

/-- **When `save` goes through**: the new row passes its checks, and no other
row owns the product. -/
theorem saveItem_iff (hk : db.item? k = some r₀) (hpool : r.pool = r₀.pool)
    (howned : r.ownedProduct = r₀.ownedProduct)
    (htok : r.claimToken = none ∨ r.claimToken = r₀.claimToken) (hremoved : r.status ≠ .removed) :
    (∃ db', db.saveItem k r = .ok db') ↔
      r.Checks ∧
        (!db.items.table.any fun j r' =>
          j != k && r'.liveOwnedProduct == some r₀.ownedProduct) = true := by
  have hsaved : (∃ db', db.saveItem k r = .ok db') ↔ ∃ items', db.items.save k r = .ok items' := by
    constructor
    · rintro ⟨db', h⟩
      obtain ⟨items, hs, -⟩ := saveItem_ok h
      exact ⟨items, hs⟩
    · rintro ⟨items', hs⟩
      exact ⟨{ db with items := items' }, by rw [saveItem, hs]; rfl⟩
  have hfree : (!db.items.table.any fun j r' =>
        j != k && r'.liveOwnedProduct == some r₀.ownedProduct) = true ↔
      ∀ j r', j ≠ k → db.items.get? j = some r' →
        r'.liveOwnedProduct ≠ some r₀.ownedProduct := by
    rw [Bool.not_eq_true', Table.any_eq_false_iff]
    constructor
    · intro h j r' hj hr hlive
      have := h j r' hr
      simp [hj, hlive] at this
    · intro h j r' hr
      rw [Bool.and_eq_false_imp, bne_iff_ne, beq_eq_false_iff_ne]
      exact fun hj => h j r' hj hr
  rw [hsaved, hfree]
  exact ItemTable.save_iff hk hpool howned htok hremoved

/-- In the item table, `db'` differs from `db` exactly in row `k`, which was
saved as `f` of itself. -/
def Rewrites (db : Db) (k : Nat) (f : ItemRow → ItemRow) (db' : Db) : Prop :=
  ∃ r, db.item? k = some r ∧
    ∀ j, db'.item? j = if j = k then some (f r).keepLiveOwner else db.item? j

theorem rewrites_of_saveItem {f : ItemRow → ItemRow} (hk : db.item? k = some r)
    (h : db.saveItem k (f r) = .ok db') : db.Rewrites k f db' :=
  ⟨r, hk, fun _ => item?_saveItem h hk⟩

theorem Rewrites.self {f : ItemRow → ItemRow} (h : db.Rewrites k f db')
    (hk : db.item? k = some r) : db'.item? k = some (f r).keepLiveOwner := by
  obtain ⟨r', hk', hrows⟩ := h
  rw [hk] at hk'
  cases hk'
  rw [hrows, if_pos rfl]

theorem Rewrites.row {f : ItemRow → ItemRow} (h : db.Rewrites k f db') :
    ∃ r, db.item? k = some r ∧ db'.item? k = some (f r).keepLiveOwner := by
  obtain ⟨r, hk, hrows⟩ := h
  exact ⟨r, hk, by rw [hrows, if_pos rfl]⟩

theorem Rewrites.other {f : ItemRow → ItemRow} (h : db.Rewrites k f db') (hj : j ≠ k) :
    db'.item? j = db.item? j := by
  obtain ⟨r, -, hrows⟩ := h
  rw [hrows, if_neg hj]

/-- A row after the rewriting: as before, or the image of row `k`. -/
theorem Rewrites.cases {f : ItemRow → ItemRow} (h : db.Rewrites k f db') (j : Nat) :
    db'.item? j = db.item? j ∨
      j = k ∧ ∃ r, db.item? k = some r ∧ db'.item? j = some (f r).keepLiveOwner := by
  by_cases hj : j = k
  · subst hj
    exact Or.inr ⟨rfl, h.row⟩
  · exact Or.inl (h.other hj)

theorem item?_updateItems {p : Nat → ItemRow → Bool} {f : ItemRow → ItemRow}
    (h : db.updateItems p f = .ok db') :
    db'.item? j = (db.item? j).map fun r => if p j r then f r else r := by
  obtain ⟨items, hs, rfl⟩ := updateItems_ok h
  exact ItemTable.get?_update hs

end Db

end Sda
