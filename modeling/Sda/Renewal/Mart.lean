/-
Sda/Renewal/Mart.lean

The renewal of one Mart clone (sync/services/pa_mart_renewal.py).

The store holds the three tables a success writes to and the ledger of attempts,
with its two unique constraints; all other tables are looked up in the `World` of
the moment.  The locks held across the call are not modelled: other runs may move
between any two steps of a run (`MartRun.lean`).

`calls` is a history variable: the `renew_offer` calls made, each with its cycle
and attempt.  So is `run`, the number of the run that created an attempt.
-/
import Sda.Renewal.Models

namespace Sda.Mart

/-! ### Rows -/

structure Listing where
  integrationAccount : Option Nat
  storeListingId : String
  marketplaceExpiresAt : Option Int
  listedAt : Option Int := none
  isInstant : Bool := true
  dropshipProduct : Option Nat := none
  game : Option Nat
  productCategory : String := "accounts"
  status : ListingStatus := .listed
  title : String := ""
  deriving DecidableEq, Repr

structure OfferPoolActiveOffer where
  pool : Nat
  poolOffer : Option Nat
  storeListingId : String
  listing : Option Nat
  poolItem : Option Nat
  status : OfferPoolActiveOfferStatus := .active
  deriving DecidableEq, Repr

structure OfferPoolItem where
  pool : Nat
  ownedProduct : Nat
  liveOwnedProduct : Option Nat
  poolOffer : Option Nat
  reservation : Option Nat := none
  status : OfferPoolItemStatus := .pushed
  targetOfferId : String
  claimToken : Option Nat := none
  claimedAt : Option Int := none
  deriving DecidableEq, Repr

structure Account where
  slug : String
  provider : Provider
  isActive : Bool := true
  role : Role := .sell
  deriving DecidableEq, Repr

structure IntegrationCredential where
  account : Nat
  isActive : Bool := true
  deriving DecidableEq, Repr

structure OwnedProduct where
  status : OwnedProductStatus
  game : Option Nat
  refKey : String := ""
  deriving DecidableEq, Repr

structure PoolOffer where
  pool : Nat
  listing : Nat
  strategy : PoolOfferStrategy := .clone
  status : PoolOfferStatus := .active
  deriving DecidableEq, Repr

structure OfferPool where
  game : Nat
  status : OfferPoolStatus := .active
  deriving DecidableEq, Repr

structure ListingOwnedProduct where
  listing : Nat
  ownedProduct : Nat
  deriving DecidableEq, Repr

structure PoolDispatchAttempt where
  item : Nat
  poolOffer : Option Nat
  status : PoolDispatchStatus
  remoteOfferId : String
  deriving DecidableEq, Repr

inductive PlayerAuctionsEditRequestStatus
  | queued | running | succeeded | failed
  deriving DecidableEq, Repr

structure PlayerAuctionsEditRequest where
  listing : Nat
  poolItem : Option Nat
  status : PlayerAuctionsEditRequestStatus
  returnedOfferId : String
  deriving DecidableEq, Repr

structure Order where
  ownedProduct : Option Nat
  listing : Option Nat
  integrationAccount : Option Nat
  storeListingId : String
  deriving DecidableEq, Repr

structure OrderReplacement where
  oldProduct : Option Nat
  newProduct : Option Nat
  poolItem : Option Nat
  deriving DecidableEq, Repr

structure PoolSaleEvent where
  poolItem : Option Nat
  listing : Nat
  deriving DecidableEq, Repr

/-- `PaGmailOrderEvent`, with the product of its order. -/
structure PaGmailOrderEvent where
  listing : Option Nat
  orderProduct : Option Nat
  trackingCode : String
  deriving DecidableEq, Repr

/-- `PaMartRenewalAttempt.Status`. -/
inductive Status
  | pending | succeeded | rejected | unknown
  deriving DecidableEq, Repr

/-- `status in _UNRESOLVED`. -/
def Status.unresolved : Status → Bool
  | .pending | .unknown => true
  | _ => false

/-- `PaMartRenewalAttempt`. -/
structure Attempt where
  listing : Nat
  integrationAccount : Option Nat
  requestId : String
  oldOfferId : String
  newOfferId : String := ""
  previousExpiresAt : Int
  verifiedExpiresAt : Option Int := none
  status : Status := .pending
  reasonCode : String := ""
  run : Nat
  deriving DecidableEq, Repr

/-- `unique_pa_mart_renewal_cycle`. -/
def Attempt.cycle (a : Attempt) : Nat × String × Int :=
  (a.listing, a.oldOfferId, a.previousExpiresAt)

/-- A call of `renew_offer`: the cycle it is made for, and the attempt. -/
structure Call where
  listing : Nat
  offerId : String
  previous : Int
  attempt : Nat
  deriving DecidableEq, Repr

/-- The tables a renewal reads and writes. -/
structure Books where
  listings : Table Listing
  activeOffers : Table OfferPoolActiveOffer
  items : Table OfferPoolItem
  attempts : Table Attempt := .empty
  calls : List Call := []
  requestUnique : attempts.Unique fun a => some a.requestId
  cycleUnique : attempts.Unique fun a => some a.cycle

/-- The tables it only reads, the clock and the flags, at one moment. -/
structure World where
  now : Int
  inTransaction : Bool := false
  renewExpiringPa : Except Raised (Option FeatureFlag) := .ok none
  renewalFlag : Except Raised (Option FeatureFlag) := .ok none
  accounts : Table Account := .empty
  credentials : List IntegrationCredential := []
  products : Table OwnedProduct := .empty
  lanes : Table PoolOffer := .empty
  pools : Table OfferPool := .empty
  links : List ListingOwnedProduct := []
  reservations : Table PoolDispatchReservationStatus := .empty
  dispatchAttempts : List PoolDispatchAttempt := []
  editRequests : List PlayerAuctionsEditRequest := []
  orders : List Order := []
  replacements : List OrderReplacement := []
  faultyReturns : List Nat := []
  manualTransfers : List Nat := []
  saleEvents : List PoolSaleEvent := []
  gmailEvents : List PaGmailOrderEvent := []

/-- A parsed date: with its zone, in UTC, or without one. -/
inductive Stamp
  | aware (t : Int)
  | naive
  deriving DecidableEq, Repr

/-- The library functions the renewal calls: `datetime.fromisoformat`, `isoformat` in UTC,
`timedelta(hours=q)`, the digest, and the pattern search of `extract_tracking_code`. -/
structure Library where
  fromIsoFormat : String → Option Stamp
  isoFormat : Int → String
  timedeltaHours : Rat → Int
  sha256 : String → String
  extractTrackingCode : String → String

/-! ### Texts -/

/-- `_ID_RE`: one digit other than zero, and up to fifteen more. -/
def isOfferId (s : String) : Bool :=
  match s.toList with
  | [] => false
  | c :: cs => '1' ≤ c && c ≤ '9' && cs.length ≤ 15 && cs.all fun d => '0' ≤ d && d ≤ '9'

/-- **`_offer_id`**; `none` is a value that is no text. -/
def offerId (value : Option String) : String :=
  match value with
  | none => ""
  | some s => if isOfferId s then s else ""

/-- `_REQUEST_RE`. -/
def isRequestId (s : String) : Bool :=
  12 ≤ s.length && s.length ≤ 128 && s.toList.all fun c =>
    ('A' ≤ c && c ≤ 'Z') || ('a' ≤ c && c ≤ 'z') || ('0' ≤ c && c ≤ '9') ||
      ['.', '_', ':', '-'].contains c

/-- **`mart_renewal_request_id`**, for an offer id and an expiry that are checked already. -/
def martRenewalRequestId (lib : Library) (offerId : String) (expiresAt : Int) : String :=
  "sda-renew-" ++ offerId ++ "-" ++ lib.sha256 (offerId ++ "|" ++ lib.isoFormat expiresAt)

/-- **`_message`**. -/
def message (reason : String) (requestId : String := "") : String :=
  "Mart renewal: " ++ reason ++
    if isRequestId requestId then "; request " ++ requestId else ""

/-! ### The checks -/

/-- `_Unsafe` with its code, or another exception. -/
inductive Fault
  | unsafeState (code : String)
  | raised
  deriving DecidableEq, Repr

/-- `if refused: raise _Unsafe(code)`. -/
def refuseIf (refused : Bool) (code : String) : Except Fault Unit :=
  if refused then .error (.unsafeState code) else .ok ()

/-- `.get(pk=…)`. -/
def getRow {α : Type} (row : Option α) : Except Fault α :=
  match row with
  | none => .error .raised
  | some a => .ok a

/-- A row with its key. -/
structure Obj (α : Type) where
  pk : Nat
  row : α
  deriving DecidableEq, Repr

/-- What `_lock_context` returns. -/
structure Context where
  listing : Obj Listing
  clone : Obj OfferPoolActiveOffer
  item : Obj OfferPoolItem
  product : Obj OwnedProduct
  lane : Obj PoolOffer
  pool : Obj OfferPool
  deriving DecidableEq, Repr

/-- `tuple(obj.pk for obj in context)`. -/
def Context.fingerprint (c : Context) : List Nat :=
  [c.listing.pk, c.clone.pk, c.item.pk, c.product.pk, c.lane.pk, c.pool.pk]

def martAccountSlug : String := "playerauctions-csgosmurfkings"

/-- **`_enabled`**. -/
def enabled (w : World) : Bool :=
  isSyncFeatureEnabled w.renewExpiringPa false ||
    (unifiedRenewalProviders w.renewalFlag).contains Provider.playerauctions.text

/-- The one active clone of the listing. -/
def activeClone (s : Books) (listingId : Nat) : Except Fault (Obj OfferPoolActiveOffer) :=
  match s.activeOffers.select fun _ c => c.listing == some listingId && c.status == .active with
  | [(k, c)] => .ok ⟨k, c⟩
  | _ => .error (.unsafeState "no_exact_active_clone")

/-- The account half of `_lock_context`. -/
def lockAccount (w : World) (listing : Listing) : Except Fault Nat := do
  refuseIf (listing.integrationAccount.getD 0 == 0) "missing_account"
  let accountId := listing.integrationAccount.getD 0
  let account ← getRow (w.accounts.get? accountId)
  refuseIf (account.slug != martAccountSlug || account.provider != .playerauctions) "not_mart"
  refuseIf (!account.isActive || account.role == .buy) "inactive_account"
  refuseIf (!(w.credentials.find? fun c => c.account == accountId).any fun c => c.isActive)
    "inactive_credentials"
  return accountId

/-- **`_lock_context`**. -/
def lockContext (s : Books) (w : World) (listingId : Nat) : Except Fault Context := do
  let listing ← getRow (s.listings.get? listingId)
  let accountId ← lockAccount w listing
  let clone ← activeClone s listingId
  refuseIf (clone.row.poolItem.getD 0 == 0 || clone.row.poolOffer.getD 0 == 0)
    "missing_clone_linkage"
  let itemId := clone.row.poolItem.getD 0
  let item ← getRow (s.items.get? itemId)
  let product ← getRow (w.products.get? item.ownedProduct)
  let laneId := clone.row.poolOffer.getD 0
  let lane ← getRow (w.lanes.get? laneId)
  let pool ← getRow (w.pools.get? clone.row.pool)
  let template ← getRow (s.listings.get? lane.listing)
  refuseIf (lane.listing == listingId) "root_template_not_stock_clone"
  refuseIf (lane.pool != clone.row.pool || item.pool != clone.row.pool ||
    item.poolOffer != some laneId) "pool_lane_mismatch"
  refuseIf (template.integrationAccount != some accountId) "template_account_mismatch"
  refuseIf (pool.status != .active || lane.status != .active || lane.strategy != .clone)
    "inactive_pool_or_lane"
  refuseIf (!listing.isInstant || listing.dropshipProduct.getD 0 != 0 ||
    listing.productCategory != "accounts" || listing.status != .listed) "listing_not_eligible"
  refuseIf (listing.game.getD 0 == 0 || listing.game != some pool.game ||
    template.game != some pool.game || product.game != some pool.game) "game_mismatch"
  let id := offerId (some listing.storeListingId)
  refuseIf (id == "" || clone.row.storeListingId != id || item.targetOfferId != id)
    "offer_id_mismatch"
  refuseIf (item.status != .pushed) "item_not_pushed"
  refuseIf (item.liveOwnedProduct != some item.ownedProduct) "live_owner_mismatch"
  refuseIf ((w.links.filter fun l => l.listing == listingId).map
    ListingOwnedProduct.ownedProduct != [item.ownedProduct]) "listing_product_mismatch"
  refuseIf (product.status != .draft && product.status != .listed) "product_sold_or_protected"
  return ⟨⟨listingId, listing⟩, clone, ⟨itemId, item⟩, ⟨item.ownedProduct, product⟩,
    ⟨laneId, lane⟩, ⟨clone.row.pool, pool⟩⟩

/-- `pool_offer__listing__integration_account_id`. -/
def laneAccount (s : Books) (w : World) (poolOffer : Option Nat) : Option Nat := do
  let lane ← w.lanes.get? (← poolOffer)
  let listing ← s.listings.get? lane.listing
  listing.integrationAccount

/-- What `_stock_history` returns. -/
structure StockHistory where
  itemIds : List Nat
  listingIds : List Nat
  identities : List (Option Nat × String)
  codes : List String

/-- **`_stock_history`**. -/
def stockHistory (lib : Library) (s : Books) (w : World) (ctx : Context) : StockHistory :=
  let itemIds := s.items.keys fun _ t =>
    t.ownedProduct == ctx.product.pk || t.liveOwnedProduct == some ctx.product.pk
  let clones := s.activeOffers.select fun _ c => c.poolItem.any itemIds.contains
  let listingIds :=
    ((w.links.filter fun l => l.ownedProduct == ctx.product.pk).map
      ListingOwnedProduct.listing) ++ [ctx.listing.pk] ++
      clones.filterMap fun c => c.2.listing
  let listings := s.listings.select fun k _ => listingIds.contains k
  let identities :=
    (listings.map fun l => (l.2.integrationAccount, l.2.storeListingId)) ++
      (clones.map fun c => (laneAccount s w c.2.poolOffer, c.2.storeListingId)) ++
      ((s.items.select fun k _ => itemIds.contains k).map fun t =>
        (laneAccount s w t.2.poolOffer, t.2.targetOfferId)) ++
      ((w.dispatchAttempts.filter fun d => itemIds.contains d.item).map fun d =>
        (laneAccount s w d.poolOffer, d.remoteOfferId)) ++
      ((s.attempts.select fun _ a => listingIds.contains a.listing).flatMap fun a =>
        [(a.2.integrationAccount, a.2.oldOfferId), (a.2.integrationAccount, a.2.newOfferId)]) ++
      ((w.editRequests.filter fun e =>
        listingIds.contains e.listing || e.poolItem.any itemIds.contains).map fun e =>
          ((s.listings.get? e.listing).bind Listing.integrationAccount, e.returnedOfferId))
  let codes := (listings.map fun l => lib.extractTrackingCode l.2.title) ++
    [lib.extractTrackingCode ctx.product.row.refKey]
  { itemIds, listingIds
    identities := identities.filter fun p => p.1.getD 0 != 0 && p.2 != ""
    codes := codes.filter fun c => c != "" }

/-- **`_stock_guard`**. -/
def stockGuard (lib : Library) (s : Books) (w : World) (ctx : Context) : Except Fault Unit := do
  let h := stockHistory lib s w ctx
  let ofItem (item : Option Nat) : Bool := item.any h.itemIds.contains
  let ofListing (listing : Option Nat) : Bool := listing.any h.listingIds.contains
  let isProduct (product : Option Nat) : Bool := product == some ctx.product.pk
  refuseIf (s.items.any fun k t => h.itemIds.contains k &&
    (t.claimToken.isSome || t.claimedAt.isSome ||
      (t.reservation.bind w.reservations.get?) == some .active)) "active_stock_claim"
  refuseIf (w.dispatchAttempts.any fun d => h.itemIds.contains d.item &&
    (d.status == .pending || d.status == .inProgress || d.status == .unknown))
    "unresolved_stock_dispatch"
  refuseIf (w.editRequests.any fun e => (ofListing (some e.listing) || ofItem e.poolItem) &&
    (e.status == .queued || e.status == .running)) "active_stock_edit"
  refuseIf (s.activeOffers.any fun k c =>
    ofItem c.poolItem && c.status == .active && k != ctx.clone.pk) "other_active_stock_clone"
  refuseIf (s.activeOffers.any fun _ c =>
    (ofItem c.poolItem || ofListing c.listing) && c.status == .sold) "sold_stock_clone"
  refuseIf (w.orders.any fun o => isProduct o.ownedProduct || ofListing o.listing ||
    h.identities.contains (o.integrationAccount, o.storeListingId)) "stock_order_evidence"
  refuseIf (w.replacements.any fun o =>
    isProduct o.oldProduct || isProduct o.newProduct || ofItem o.poolItem)
    "stock_replacement_evidence"
  refuseIf (w.faultyReturns.any h.itemIds.contains || w.manualTransfers.any h.itemIds.contains)
    "stock_quarantine_evidence"
  refuseIf (w.saleEvents.any fun e => ofItem e.poolItem || ofListing (some e.listing))
    "stock_sale_event"
  refuseIf (w.gmailEvents.any fun e =>
    ofListing e.listing || isProduct e.orderProduct || h.codes.contains e.trackingCode)
    "signed_stock_order_event"

/-- **`_collision`**. -/
def collision (s : Books) (w : World) (ctx : Context) (id : String) : Bool :=
  let account := ctx.listing.row.integrationAccount
  (s.listings.any fun k l =>
    l.integrationAccount == account && l.storeListingId == id && k != ctx.listing.pk) ||
  (s.activeOffers.any fun k c =>
    ((c.listing.bind s.listings.get?).bind Listing.integrationAccount == account ||
      laneAccount s w c.poolOffer == account) &&
      c.storeListingId == id && k != ctx.clone.pk) ||
  (s.items.any fun k t =>
    laneAccount s w t.poolOffer == account && t.targetOfferId == id && k != ctx.item.pk) ||
  s.attempts.any fun _ a =>
    (a.oldOfferId == id || a.newOfferId == id) && a.integrationAccount == account &&
      a.listing != ctx.listing.pk

/-- **`_fresh_checks`**. -/
def freshChecks (lib : Library) (s : Books) (w : World) (ctx : Context) (lead : Int)
    (attempt : Option (Obj Attempt) := none) : Except Fault Unit := do
  let listing := ctx.listing.row
  refuseIf (!listing.marketplaceExpiresAt.any fun expiry => w.now < expiry && expiry ≤ w.now + lead)
    "outside_unexpired_lead_window"
  refuseIf (attempt.any fun a =>
    listing.integrationAccount != a.row.integrationAccount ||
      listing.storeListingId != a.row.oldOfferId ||
      listing.marketplaceExpiresAt != some a.row.previousExpiresAt) "renewal_cycle_changed"
  stockGuard lib s w ctx
  let h := stockHistory lib s w ctx
  refuseIf (s.attempts.any fun k a => h.listingIds.contains a.listing && a.status.unresolved &&
    attempt.all fun own => k != own.pk) "unresolved_stock_renewal"
  refuseIf (collision s w ctx listing.storeListingId) "current_identity_collision"

/-! ### The answer of the marketplace -/

/-- The attribute `data`: a mapping, with its two keys as far as they are texts, or something
else. -/
inductive ResultData
  | mapping (offerId expiresAt : Option String) (empty : Bool := false)
  | other (truthy : Bool)
  deriving DecidableEq, Repr

/-- `bool(data)`. -/
def ResultData.truthy : ResultData → Bool
  | .mapping _ _ empty => !empty
  | .other truthy => truthy

/-- The answer of `renew_offer`: `ok` is `none` when it is no Boolean, `details` are those of
the error when they are a mapping, with `none` for a value that is no text. -/
structure RenewResult where
  ok : Option Bool
  data : ResultData := .other false
  details : Option (List (String × Option String)) := none
  deriving DecidableEq, Repr

/-- **`_verified_result`**: the returned id, the verified expiry and the reason against it. -/
def verifiedResult (lib : Library) (result : RenewResult) (previousExpiry now : Int) :
    String × Option Int × String :=
  match result.ok, result.data with
  | some true, .mapping id expiresAt _ =>
    let newId := offerId id
    if newId = "" then ("", none, "invalid_returned_offer_id")
    else
      match expiresAt with
      | none => (newId, none, "missing_verified_expiry")
      | some value =>
        if value.length > 80 then (newId, none, "missing_verified_expiry")
        else
          match lib.fromIsoFormat (replaceZulu value) with
          | none => (newId, none, "invalid_verified_expiry")
          | some .naive => (newId, none, "invalid_verified_expiry")
          | some (.aware expiry) =>
            if expiry ≤ previousExpiry ∨ expiry ≤ now ∨ expiry > now + days 35 then
              (newId, none, "invalid_verified_extension")
            else (newId, some expiry, "")
  | _, _ => ("", none, "remote_outcome_unverified")

def localNoWriteProof : String := "sda_local_pretransport"

/-- The keys a local rejection may have. -/
def localRejectionKeys : List String := ["delegation_outcome", "no_write_proof", "error_code"]

def localRejectionReasons : List String := ["renew_invalid_offer_id", "renew_invalid_request_id"]

/-- **`_local_rejection`**. -/
def localRejection (result : RenewResult) : String :=
  match result.ok, result.details with
  | some false, some details =>
    if result.data.truthy then ""
    else if details.any fun d => !localRejectionKeys.contains d.1 then ""
    else
      let value (key : String) : Option String := (details.lookup key).bind id
      match value "error_code" with
      | some code =>
        if value "delegation_outcome" = some "rejected" ∧
            value "no_write_proof" = some localNoWriteProof ∧ code ∈ localRejectionReasons then
          code
        else ""
      | none => ""
  | _, _ => ""

/-! ### Writing -/

/-- What **`_finish`** writes to an attempt. -/
def Attempt.finished (a : Attempt) (status : Status) (reason : String) (newId : String := "")
    (expiry : Option Int := none) : Attempt :=
  { a with
    status, reasonCode := reason
    newOfferId := if newId = "" then a.newOfferId else newId
    verifiedExpiresAt := expiry.or a.verifiedExpiresAt }

namespace Books

/-- `PaMartRenewalAttempt.objects.create`. -/
def create (s : Books) (a : Attempt) : Option Books :=
  if h : s.attempts.holds (fun a => some a.requestId) (some a.requestId) = false ∧
      s.attempts.holds (fun a => some a.cycle) (some a.cycle) = false then
    some { s with
      attempts := s.attempts.create a
      requestUnique := s.requestUnique.create h.1
      cycleUnique := s.cycleUnique.create h.2 }
  else none

/-- The row of an attempt is finished. -/
def finish (s : Books) (attempt : Nat) (status : Status) (reason : String) (newId : String := "")
    (expiry : Option Int := none) : Books :=
  { s with
    attempts := s.attempts.mapRows fun k a =>
      if k = attempt then a.finished status reason newId expiry else a
    requestUnique := s.requestUnique.mapRows fun k a x h => by
      split at h
      · exact h
      · exact h
    cycleUnique := s.cycleUnique.mapRows fun k a x h => by
      split at h
      · exact h
      · exact h }

/-- The call is made. -/
def call (s : Books) (x : Call) : Books :=
  { s with calls := s.calls ++ [x] }

/-- The three updates of a success. -/
def renew (s : Books) (ctx : Context) (newId : String) (expiry now : Int) : Books :=
  { s with
    listings := s.listings.updateWhere (fun k _ => k == ctx.listing.pk) fun l =>
      { l with storeListingId := newId, marketplaceExpiresAt := some expiry, listedAt := some now }
    activeOffers := s.activeOffers.updateWhere (fun k _ => k == ctx.clone.pk) fun c =>
      { c with storeListingId := newId }
    items := s.items.updateWhere (fun k _ => k == ctx.item.pk) fun t =>
      { t with targetOfferId := newId } }

end Books

end Sda.Mart
