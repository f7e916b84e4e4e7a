/-
Sda/Sync/Orders.lean

The order services of PlayerAuctions, GameBoost and Eldorado
(sync/services/*/orders/service.py): the hooks and `fetch_page`, over any
answers of their APIs.

PlayerAuctions and GameBoost number their pages; an incremental run keeps the
next number in the transient key `_incremental_page`.  Eldorado pages through
cursors.  The three report a failed request differently: the first two raise,
Eldorado returns an empty page.

Of an order only what the hooks read is here; `details` stands for the rest of
the payload.
-/
import Sda.Sync.FetchLoop

namespace Sda.Sync

/-! ### Page numbers -/

/-- `int(checkpoint.cursor) if checkpoint.cursor else 1`. -/
def cursorPage (cursor : String) : Except PyError Nat :=
  if cursor = "" then .ok 1
  else
    match cursor.toNat? with
    | some page => .ok page
    | none => .error (.valueError "invalid literal for int() with base 10")

/-- The page the checkpoint stands at. -/
def SyncCheckpoint.page (cp : SyncCheckpoint) : Except PyError Nat :=
  match cp.mode with
  | .incremental => .ok (cp.incrementalPage.getD 1)
  | .backfill => cursorPage cp.cursor

/-- An incremental run keeps the number of the next page. -/
def SyncCheckpoint.trackPage (cp : SyncCheckpoint) (nextCursor : String) (next : Nat) :
    SyncCheckpoint :=
  if cp.mode = .incremental ∧ nextCursor ≠ "" then { cp with incrementalPage := some next } else cp

@[simp] theorem page_incremental {cp : SyncCheckpoint} (h : cp.mode = .incremental) :
    cp.page = .ok (cp.incrementalPage.getD 1) := by
  rw [SyncCheckpoint.page, h]

@[simp] theorem trackPage_mode (cp : SyncCheckpoint) (nextCursor : String) (next : Nat) :
    (cp.trackPage nextCursor next).mode = cp.mode := by
  unfold SyncCheckpoint.trackPage
  split <;> rfl

@[simp] theorem trackPage_lastSeenRemoteId (cp : SyncCheckpoint) (nextCursor : String)
    (next : Nat) : (cp.trackPage nextCursor next).lastSeenRemoteId = cp.lastSeenRemoteId := by
  unfold SyncCheckpoint.trackPage
  split <;> rfl

/-! ### PlayerAuctions -/

structure PaOrder where
  orderId : String
  status : String := ""
  createTime : Option Nat := none
  details : String := ""
  deriving DecidableEq, Repr

/-- `SKIP_STATUSES`. -/
def paSkipStatuses : List String :=
  ["Pending Payment", "Offer Unavailable", "Buyer Cancelled", "Order Unavailable",
    "Payment Failed"]

/-- `PlayerAuctionsOrderSyncService`. -/
def playerAuctionsOrderSync (maxPages : Option Nat) : Service PaOrder where
  extractRemoteId o := stripText o.orderId
  extractRemoteTimestamp o := o.createTime
  isAlreadySeen _ o stopRemoteId := stopRemoteId != "" && stripText o.orderId == stopRemoteId
  shouldSkipItem o := paSkipStatuses.contains o.status
  maxPages := maxPages

/-- What `fetch_orders` answers. -/
inductive PaAnswer
  | failed (message : String)
  | page (data : List PaOrder) (totalCount : Nat)
  deriving DecidableEq, Repr

/-- `DEFAULT_PAGE_SIZE`. -/
def paPageSize : Nat := 50

def paTotalPages (totalCount : Nat) : Nat :=
  if totalCount = 0 then 0 else (totalCount + paPageSize - 1) / paPageSize

/-- The text of a failed request. -/
def paError (page : Nat) (message : String) : String :=
  if "Mart unavailable:".toList.isPrefixOf message.toList then message
  else s!"PlayerAuctions API error on page {natText page}: {message}"

/-- **`PlayerAuctionsOrderSyncService.fetch_page`**. -/
def paFetchPage (fetchOrders : Nat → PaAnswer) (cp : SyncCheckpoint) :
    Except PyError (List PaOrder × String) × SyncCheckpoint :=
  match cp.page with
  | .error e => (.error e, cp)
  | .ok page =>
    match fetchOrders page with
    | .failed message => (.error (.other (paError page message)), cp)
    | .page items totalCount =>
      if items.isEmpty then (.ok ([], ""), cp)
      else
        let nextCursor := if page < paTotalPages totalCount then natText (page + 1) else ""
        (.ok (items, nextCursor), cp.trackPage nextCursor (page + 1))

theorem paFetchPage_mode (fetchOrders : Nat → PaAnswer) (cp : SyncCheckpoint) :
    (paFetchPage fetchOrders cp).2.mode = cp.mode := by
  unfold paFetchPage
  split
  · rfl
  · split
    · rfl
    · split
      · rfl
      · exact trackPage_mode ..

/-! ### GameBoost -/

/-- An entry of `list_offer_credentials`. -/
structure CredentialEntry where
  accountOrderId : String := ""
  text : String
  deriving DecidableEq, Repr

/-- `credentials` is the inline text, `credentialEntries` the key
`_credential_entries` that the enrichment adds. -/
structure GameboostOrder where
  id : String
  purchasedAt : Option Nat := none
  createdAt : Option Nat := none
  updatedAt : Nat := 0
  isManualDelivery : Bool := false
  credentials : String := ""
  accountOfferId : String := ""
  credentialEntries : Option (List CredentialEntry) := none
  details : String := ""
  deriving DecidableEq, Repr

/-- `purchased_at or created_at`. -/
def GameboostOrder.timestamp (o : GameboostOrder) : Option Nat :=
  match o.purchasedAt with
  | some (t + 1) => some (t + 1)
  | _ => o.createdAt

/-- `GameboostOrderSyncService`. -/
def gameboostOrderSync : Service GameboostOrder where
  extractRemoteId o := stripText o.id
  extractRemoteTimestamp := GameboostOrder.timestamp
  isAlreadySeen _ o stopRemoteId := stopRemoteId != "" && stripText o.id == stopRemoteId

/-- What `fetch_orders` answers, with the keys of `meta['pagination']`. -/
inductive GameboostAnswer
  | failed (message : String)
  | page (data : List GameboostOrder) (currentPage lastPage : Option Nat)
  deriving DecidableEq, Repr

/-- **`GameboostOrderSyncService.fetch_page`**; `fetchOrders` takes the page and
the sort key. -/
def gameboostFetchPage (fetchOrders : Nat → String → GameboostAnswer) (cp : SyncCheckpoint) :
    Except PyError (List GameboostOrder × String) × SyncCheckpoint :=
  match cp.page with
  | .error e => (.error e, cp)
  | .ok page =>
    match fetchOrders page (if cp.mode = .incremental then "-updated_at" else "created_at") with
    | .failed message =>
      (.error (.other s!"Gameboost API error on page {natText page}: {message}"), cp)
    | .page items currentPage lastPage =>
      if items.isEmpty then (.ok ([], ""), cp)
      else
        let current := currentPage.getD page
        let nextCursor := if current < lastPage.getD current then natText (current + 1) else ""
        (.ok (items, nextCursor), cp.trackPage nextCursor (current + 1))

/-- What `list_offer_credentials` comes to. -/
inductive CredentialsAnswer
  | entries (data : List CredentialEntry)
  | notOk
  | raised
  deriving DecidableEq, Repr

/-- **`GameboostOrderSyncService.prepare_item`**. -/
def gameboostPrepareItem (listOfferCredentials : String → CredentialsAnswer)
    (o : GameboostOrder) : Prepared GameboostOrder :=
  if o.isManualDelivery ∨ o.credentials ≠ "" ∨ o.accountOfferId = "" then
    .item o
  else
    match listOfferCredentials o.accountOfferId with
    | .notOk => .item o
    | .raised => .item o
    | .entries data =>
      if data.isEmpty then .item o
      else
        match (data.filter fun d => o.id != "" && d.accountOrderId == o.id).getLast? with
        | some entry => .item { o with credentialEntries := some [entry] }
        -- no exact match by order id: all entries are stored
        | none => .item { o with credentialEntries := some data }

/-! ### Eldorado -/

/-- `accountDetails` is the key the enrichment adds. -/
structure EldoradoOrder where
  id : String
  createdDate : Option Nat := none
  state : String := ""
  category : String := ""
  guaranteedDeliveryTime : String := ""
  accountDetails : Option String := none
  details : String := ""
  deriving DecidableEq, Repr

/-- `EldoradoOrderSyncService.is_already_seen`. -/
def eldoradoAlreadySeen (stopTimestamp : Option Nat) (o : EldoradoOrder) (stopRemoteId : String) :
    Bool :=
  stopRemoteId != "" &&
    (stripText o.id == stopRemoteId ||
      match stopTimestamp, o.createdDate with
      | some stop, some ts => decide (ts < stop)
      | _, _ => false)

/-- `EldoradoOrderSyncService`. -/
def eldoradoOrderSync (maxPages : Option Nat) : Service EldoradoOrder where
  extractRemoteId o := stripText o.id
  extractRemoteTimestamp o := o.createdDate
  isAlreadySeen := eldoradoAlreadySeen
  maxPages := maxPages

/-- What `fetch_orders` answers; a cursor is `""` where the API sends none. -/
inductive EldoradoAnswer
  | failed
  | page (results : List EldoradoOrder) (nextPageCursor previousPageCursor : String)
  deriving DecidableEq, Repr

/-- `_DIRECTION_CONFIG[direction]['initial_cursor']`. -/
def eldoradoInitialCursor : SyncMode → String
  | .incremental => "9999-99-99 99:99:99.999999999999999-9999-9999-9999-999999999999"
  | .backfill => "0000-00-00 00:00:00.000000000000000-0000-0000-0000-000000000000"

/-- **`EldoradoOrderSyncService.fetch_page`**; `fetchOrders` takes the cursor and
the direction.  A failed request is an empty page. -/
def eldoradoFetchPage (fetchOrders : String → String → EldoradoAnswer) (cp : SyncCheckpoint) :
    Except PyError (List EldoradoOrder × String) × SyncCheckpoint :=
  let cursor := if cp.cursor = "" then eldoradoInitialCursor cp.mode else cp.cursor
  match fetchOrders cursor (if cp.mode = .incremental then "Next" else "Previous") with
  | .failed => (.ok ([], ""), cp)
  | .page items nextPageCursor previousPageCursor =>
    (.ok (items, if cp.mode = .incremental then nextPageCursor else previousPageCursor), cp)

/-- `needs_enrichment`. -/
def needsEnrichment (o : EldoradoOrder) : Bool :=
  !(["Canceled", "Refunded"].contains o.state) && o.category == "Account"
    && o.guaranteedDeliveryTime == "Instant"

/-- **`EldoradoOrderSyncService.prepare_item`**; `none` is a failed request for
the account details. -/
def eldoradoPrepareItem (fetchOrderAccountDetails : String → Option String)
    (o : EldoradoOrder) : Prepared EldoradoOrder :=
  if needsEnrichment o then
    match fetchOrderAccountDetails o.id with
    | none => .item o
    | some accountDetails => .item { o with accountDetails := some accountDetails }
  else
    .item o

end Sda.Sync
