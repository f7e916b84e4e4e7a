/-
Sda/Pool/Replenisher.lean

The push paths that put claimed credentials on a marketplace
(services/pool/replenisher.py).

A push runs over a `World`: the database, and a ghost list `exposed` of the
items whose credential was in a write request that the marketplace may have
accepted.  Only `sendWrite` and `sendRow` extend the ghost, each at the point
of the source where the request leaves; no path reads it.

What the marketplace and the local helpers answer to one push is a record
per path (`EldoradoRemote`, `GameboostRemote`, `PaRemote`), read by the path
in the order of the source.  Rendering a credential, building an Eldorado
payload and fingerprinting a text are parameters of these records.

* `pushEldorado`, `pushEldoradoLocked` — append under the offer lease;
* `pushGameboost`, `gameboostAddCredentials` — add, list, reconcile;
* `postPaExcelRow` — one PlayerAuctions clone, by the official API or the
  relay;
* `guardedPush` and `replenishPaItems` — the loops of `_replenish_append` and
  `_replenish_pa` around them, with their exception handlers.
-/
import Sda.Pool.MartClaims
import Sda.Posting.Relay
import Sda.Sdk.Result

namespace Sda

open Prog

/-- The database and the items exposed so far. -/
structure World where
  db : Db
  /-- Ghost: items in a write request the marketplace may have accepted. -/
  exposed : List Nat := []

/-- A database program inside a push. -/
def onDb {α : Type} (c : Prog PyError Db α) : Prog PyError World α :=
  zoom World.db (fun w db => { w with db }) c

/-- A write call whose request carries the credentials of `items`. -/
def sendWrite {α : Type} (items : List Nat) (answer : WriteAnswer α) :
    Prog PyError World (ApiResult α) := do
  change fun w => if answer.mayHaveWritten then { w with exposed := w.exposed ++ items } else w
  known answer.result

/-- One relay post whose row carries the credential of `k`. -/
def sendRow (k : Nat) (reply : RelayReply) : Prog PyError World (Except String String) := do
  change fun w => if reply.written then { w with exposed := w.exposed ++ [k] } else w
  pure (postRow reply)

/-- `mark_item_failed`, as a statement of a push. -/
def failItem (k : Nat) (f : Failure) : Prog PyError World Unit :=
  onDb (atomically fun db => markItemFailed db k f)

/-! ### Shared steps -/

/-- `format_credential_for_marketplace` over the items: the rendered ones, in
order; an item that does not render is failed. -/
def renderItems (render : Nat → Except String String) :
    List Nat → Prog PyError World (List (Nat × String))
  | [] => pure []
  | k :: ks =>
    match render k with
    | .ok cred => do
      let rest ← renderItems render ks
      pure ((k, cred) :: rest)
    | .error exc => do
      failItem k { errorMessage := exc, failureStage := .format, remoteState := .absent }
      renderItems render ks

/-- The link of `_mark_items_pushed`: a PUSHED item's product is linked to the
listing; a product that was linked already is taken out of draft. -/
def linkPushedItem (db : Db) (listing k : Nat) : Except PyError Db := do
  let item ← getRow (db.item? k)
  if item.status ≠ .pushed then
    return db
  if db.listingOwnedProducts.any fun _ l =>
      l.listing == listing && l.ownedProduct == item.ownedProduct then
    return { db with
      ownedProducts := db.ownedProducts.updateWhere
        (fun k p => k == item.ownedProduct && p.status == .draft)
        fun p => { p with status := .listed } }
  return { db with
    listingOwnedProducts := db.listingOwnedProducts.create ⟨listing, item.ownedProduct⟩ }

/-- `_mark_items_pushed`. -/
def markPushed (items : List Nat) (poolOffer listing : Nat) (offerId : String)
    (remoteCredentialIds : Nat → String) : Prog PyError World Nat := do
  let count ← onDb (markItemsPushed items poolOffer offerId remoteCredentialIds)
  each items fun k => onDb (atomically fun db => linkPushedItem db listing k)
  pure count

/-- `PoolOffer.objects.filter(pk=…).update(status=ERROR, …)` of
`_park_pool_offer_for_attention`. -/
def parkPoolOfferForAttention (poolOffer : Nat) (reason : String) : Prog PyError World Unit :=
  onDb <| change fun db =>
    { db with
      offers := db.offers.updateWhere (fun k _ => k == poolOffer) fun o =>
        { o with
          status := .error
          lastError :=
            takeChars 1000 ("Eldorado rejected the pool offer (needs attention): " ++ reason) } }

/-- The PoolOffer a push works for. -/
structure PushTarget where
  poolOffer : Nat
  listing : Nat
  /-- `pool.listing.store_listing_id`. -/
  offerId : String
  deriving DecidableEq, Repr

/-! ### Eldorado -/

inductive EldoradoFailureKind
  | paused | rejected | other
  deriving DecidableEq, Repr

/-- `is_rate_limited` of the governor module. -/
def isRateLimited (e : ErrorDetail) (status : Option Nat) : Bool :=
  !e.details.governor &&
    (e.category == .rateLimit || e.statusCode == some 429 || status == some 429 ||
      e.details.code == some 429 || containsText "calm down, cowboy" (lowerText e.message))

/-- `_eldorado_failure_kind` of a failing result. -/
def eldoradoFailureKind (e : ErrorDetail) (status : Option Nat) : EldoradoFailureKind :=
  if e.details.governor || isRateLimited e status then .paused
  else if containsText "no recognisable account login and password" e.message then .rejected
  else if e.category = .validation then .rejected
  else
    match e.statusCode <|> status with
    | none => .other
    | some code =>
      if 400 ≤ code ∧ code < 500 ∧ code ∉ [401, 403, 404, 408, 429] then .rejected else .other

/-- One entry of an offer's delivery list. -/
structure DeliveryEntry where
  id : String
  secretDetails : String
  deriving DecidableEq, Repr

inductive Lease
  /-- The client has no `offer_mutation`. -/
  | unavailable
  /-- Busy, or writes are held. -/
  | busy
  | admitted
  deriving DecidableEq, Repr

/-- The entries of a detail response; a failed one is read as empty. -/
def ApiResult.dataOrNil {α : Type} : ApiResult (List α) → List α
  | .success entries _ => entries
  | .failure _ _ => []

/-- What one Eldorado push meets. -/
structure EldoradoRemote where
  lease : Lease
  details : Except PyError (ApiResult (List DeliveryEntry))
  /-- Does `preserved_delivery_details` accept the existing entries? -/
  preservable : List DeliveryEntry → Bool
  render : Nat → Except String String
  /-- `build_eldorado_full_update_payload`. -/
  buildPayload : Except PyError Unit
  /-- Does `secret_text_to_delivery_detail` accept the credential? -/
  representable : String → Bool
  update : WriteAnswer Unit
  /-- The detail response after the update. -/
  reread : Except PyError (ApiResult (List DeliveryEntry))
  fingerprint : String → Option String

/-- The last entry of a list that satisfies a test (a later key of a dict
comprehension replaces an earlier one). -/
def lastEntry (entries : List DeliveryEntry) (p : DeliveryEntry → Bool) : Option String :=
  (entries.reverse.find? fun e => p e && stripText e.id != "").map fun e => stripText e.id

/-- `_eldorado_remote_ids_for_credentials`, at one credential: by text, else by
fingerprint; `""` when it is not found. -/
def eldoradoRemoteId (fingerprint : String → Option String) (entries : List DeliveryEntry)
    (cred : String) : String :=
  match lastEntry entries fun e => stripText e.secretDetails == stripText cred with
  | some id => id
  | none =>
    match fingerprint (stripText cred) with
    | none => ""
    | some f => (lastEntry entries fun e => fingerprint e.secretDetails == some f).getD ""

/-- The credential of an item among the rendered ones. -/
def renderedOf (rendered : List (Nat × String)) (k : Nat) : String :=
  (rendered.lookup k).getD ""

/-- **`_push_eldorado_locked`**. -/
def pushEldoradoLocked (target : PushTarget) (remote : EldoradoRemote) (items : List Nat) :
    Prog PyError World Nat := do
  match ← known remote.details with
  | .failure _ _ =>
    onDb (releaseClaimsAsPending items "Could not fetch Eldorado offer credentials")
    pure 0
  | .success existing _ =>
    if !remote.preservable existing then
      onDb (releaseClaimsAsPending items "Existing Eldorado delivery entry is unreadable")
      parkPoolOfferForAttention target.poolOffer
        "Existing delivery details cannot be preserved safely"
      pure 0
    else do
      let rendered ← renderItems remote.render items
      let valid := rendered.map Prod.fst
      if rendered.isEmpty then
        pure 0
      else do
        known remote.buildPayload
        if !rendered.all fun r => remote.representable r.2 then
          onDb (releaseClaimsAsPending valid "New Eldorado delivery entry is invalid")
          parkPoolOfferForAttention target.poolOffer
            "New delivery details cannot be represented safely"
          pure 0
        else
          match ← sendWrite valid remote.update with
          | .success _ _ =>
            let reread ← known remote.reread
            markPushed valid target.poolOffer target.listing target.offerId fun k =>
              eldoradoRemoteId remote.fingerprint reread.dataOrNil (renderedOf rendered k)
          | .failure e status =>
            if eldoradoFailureKind e status = .paused then
              onDb (releaseClaimsAsPending valid "Eldorado store paused (rate limit)")
              pure 0
            else do
              onDb (releaseClaimsAsPending valid "Eldorado update failed; original offer preserved")
              if eldoradoFailureKind e status = .rejected then
                parkPoolOfferForAttention target.poolOffer "Eldorado rejected the update content"
              pure 0

/-- **`_push_eldorado`**: the push under the offer lease. -/
def pushEldorado (target : PushTarget) (remote : EldoradoRemote) (items : List Nat) :
    Prog PyError World Nat :=
  match remote.lease with
  | .unavailable => do
    onDb (releaseClaimsAsPending items "Eldorado offer serialization unavailable")
    pure 0
  | .busy => do
    onDb (releaseClaimsAsPending items "Eldorado offer mutation busy or writes held")
    pure 0
  | .admitted => pushEldoradoLocked target remote items

/-! ### GameBoost -/

/-- What one GameBoost push meets. -/
structure GameboostRemote where
  render : Nat → Except String String
  add : WriteAnswer Unit
  /-- `list_offer_credentials` after the add. -/
  listed : Except PyError (ApiResult (List DeliveryEntry))

/-- `remote_by_text.get(rendered.strip())`: the last listed entry of this text. -/
def gameboostRemoteId (entries : List DeliveryEntry) (rendered : String) : String :=
  ((entries.reverse.find? fun e => stripText e.secretDetails == stripText rendered).map
    DeliveryEntry.id).getD ""

/-- **`_gameboost_add_credentials`**. -/
def gameboostAddCredentials (target : PushTarget) (remote : GameboostRemote)
    (rendered : List (Nat × String)) : Prog PyError World Nat := do
  let valid := rendered.map Prod.fst
  match ← sendWrite valid remote.add with
  | .failure e _ =>
    each valid fun k => failItem k
      { errorMessage := "API error: " ++ takeChars 200 e.text
        failureStage := .remotePush
        remoteState := .absent
        retryable := true }
    pure 0
  | .success _ _ =>
    match ← known remote.listed with
    | .failure _ _ =>
      each valid fun k => failItem k
        { errorMessage := "GameBoost add returned success but credentials could not be reconciled"
          failureStage := .postPushReconcile
          remoteState := .unknown }
      pure 0
    | .success entries _ =>
      let created := rendered.filter fun r => gameboostRemoteId entries r.2 != ""
      let missing := rendered.filter fun r => gameboostRemoteId entries r.2 == ""
      let pushed ← markPushed (created.map Prod.fst) target.poolOffer target.listing target.offerId
        fun k => gameboostRemoteId entries (renderedOf rendered k)
      onDb (releaseClaimsAsPending (missing.map Prod.fst)
        "GameBoost did not create these credentials")
      pure pushed

/-- **`_push_gameboost`**, for an offer of the multi-credential format. -/
def pushGameboost (target : PushTarget) (remote : GameboostRemote) (items : List Nat) :
    Prog PyError World Nat := do
  let rendered ← renderItems remote.render items
  if rendered.isEmpty then
    pure 0
  else
    gameboostAddCredentials target remote rendered

/-! ### PlayerAuctions -/

/-- The response of MCT's delegation bridge to a create, as far as it is read. -/
inductive DelegationReply
  | transportError
  | response (httpStatus : Nat) (ok succeeded reportsError : Bool) (offerId : String)
  deriving DecidableEq, Repr

/-- Does the bridge attest the create? -/
def DelegationReply.verified : DelegationReply → Bool
  | .transportError => false
  | .response status ok succeeded reportsError offerId =>
    200 ≤ status && status < 300 && ok && succeeded && !reportsError && offerId != ""

/-- One call of the provider's `create_listing` on an official-API client.
`written` says whether PlayerAuctions created the offer although the bridge
does not attest it. -/
inductive OfficialCreate
  /-- `_normalize_official_account_payload` refused the payload. -/
  | invalidPayload
  /-- `PA_MART_CREATE_HOLD` is set. -/
  | held
  | delegated (requestId : String) (reply : DelegationReply) (written : Bool)
  | raised (exc : PyError)
  deriving DecidableEq, Repr

/-- The error `create_offer` returns while creates are held. -/
def martCreateHeldError : ErrorDetail where
  category := .validation
  message := "Mart account-offer creation is held pending reconciliation."
  details :=
    { delegationOutcome := "rejected", noWriteProof := "sda_local_pretransport"
      errorCode := "mart_create_held" }

/-- The error `_delegate` returns for every outcome it cannot verify. -/
def delegationUnknownError (requestId : String) (reply : DelegationReply) : ErrorDetail where
  category := .serverError
  message := "MCT Mart delegation outcome is unknown; reconcile the request before retrying."
  statusCode :=
    match reply with
    | .transportError => none
    | .response status _ _ _ _ => some status
  details :=
    { delegationOutcome := "unknown", requestId
      errorCode := if reply = .transportError then "" else "mct_delegation_outcome_unknown" }

/-- `PlayerAuctionsProvider.create_listing` with `MctMartDelegationClient`: the
offer id on success. -/
def createListing : OfficialCreate → WriteAnswer String
  | .invalidPayload =>
    .refused
      { category := .validation
        message := "PlayerAuctions official account-offer creation requires a complete safe " ++
          "account payload." }
  | .held => .refused martCreateHeldError
  | .delegated requestId reply written =>
    match reply with
    | .response _ _ _ _ offerId =>
      if reply.verified then .success offerId
      else if written then .uncertain (delegationUnknownError requestId reply)
      else .refused (delegationUnknownError requestId reply)
    | .transportError =>
      if written then .uncertain (delegationUnknownError requestId reply)
      else .refused (delegationUnknownError requestId reply)
  | .raised exc => .raised exc

/-- The proof that the create never left this process. -/
def isLocalRefusal (d : ErrorDetails) : Bool :=
  d.delegationOutcome == "rejected" && d.noWriteProof == "sda_local_pretransport" &&
    (d.errorCode == "mart_create_held" || d.errorCode == "mct_invalid_product_type") &&
    d.offerId == ""

/-- The relay session of a store: which tokens can be had. -/
structure RelaySession where
  storedToken : Bool
  /-- Username, password and store slug are configured. -/
  credentials : Bool
  fetched : Bool := false
  refreshed : Bool := false
  deriving DecidableEq, Repr

/-- What one PlayerAuctions clone meets. -/
structure PaRemote where
  /-- `_clone_pa_offer` or `_rebuild_pa_offer_from_stock`, up to the post. -/
  prepare : Except PyError Unit
  officialOnly : Bool
  official : OfficialCreate
  session : RelaySession
  first : RelayReply
  /-- The reply to the one repeated post. -/
  second : RelayReply
  /-- Normalizing and persisting the response, before the transaction. -/
  persist : Except PyError Unit

/-- The lane of a PlayerAuctions PoolOffer. -/
structure PaTarget extends PushTarget where
  pool : Nat
  store : Nat
  account : IntegrationAccount
  deriving DecidableEq, Repr

/-- Where a post ended: handled already (with the `_pa_refill_deferred` flag),
or created under an offer id. -/
inductive Posted
  | handled (deferred : Bool)
  | created (offerId : String)
  deriving DecidableEq, Repr

/-- `finalize_mart_claim_failure(item, expected_token=item.claim_token, …)`. -/
def failMartClaim (c : Claim) (localPretransport : Bool) (requestId : String) :
    Prog PyError World Unit := do
  let _ ← onDb (atomic fun db =>
    finalizeMartClaimFailure db c (some c.claimToken) localPretransport requestId)
  pure ()

/-- The official branch of `_post_pa_excel_row`. -/
def postOfficial (t : PaTarget) (remote : PaRemote) (c : Claim) : Prog PyError World Posted := do
  match ← sendWrite [c.item] (createListing remote.official) with
  | .success offerId _ => pure (.created offerId)
  | .failure e _ =>
    if isMartAccountStore t.account then
      failMartClaim c (isLocalRefusal e.details) e.details.requestId
      pure (.handled true)
    else do
      failItem c.item
        { errorMessage := "PA official replacement failed: " ++ takeChars 500 e.text
          failureStage := .remotePush
          remoteState := .absent }
      pure (.handled false)

/-- The post through the relay, with its one repetition under a fresh session. -/
def postThroughRelay (remote : PaRemote) (c : Claim) :
    Prog PyError World (Except String String) := do
  match ← sendRow c.item remote.first with
  | .ok offerId => pure (.ok offerId)
  | .error error =>
    if isPaRelayAuthorizationError error && remote.session.credentials &&
        remote.session.refreshed then
      sendRow c.item remote.second
    else
      pure (.error error)

/-- The relay branch of `_post_pa_excel_row`. -/
def postRelay (remote : PaRemote) (c : Claim) : Prog PyError World Posted := do
  let hasToken := remote.session.storedToken || remote.session.credentials && remote.session.fetched
  if !hasToken then
    failItem c.item
      { errorMessage := "PA relay: could not obtain access token for pool replacement"
        failureStage := .remotePush
        remoteState := .absent
        retryable := true }
    pure (.handled false)
  else
    match ← postThroughRelay remote c with
    | .ok offerId => pure (.created offerId)
    | .error error =>
      failItem c.item
        { errorMessage := "PA relay replacement failed: " ++ takeChars 200 error
          failureStage := .remotePush
          remoteState := .absent
          retryable := true }
      pure (.handled false)

/-- The rows a clone adds: its listing, the product link, and the ACTIVE clone. -/
def cloneRows (db : Db) (t : PaTarget) (c : Claim) (offerId : String) : Db :=
  { db with
    listings := db.listings.create { integrationAccount := t.store, storeListingId := offerId }
    listingOwnedProducts :=
      db.listingOwnedProducts.create ⟨db.listings.nextKey, c.ownedProduct⟩
    activeOffers := db.activeOffers.create
      { pool := t.pool
        poolOffer := some t.poolOffer
        storeListingId := offerId
        listing := some db.listings.nextKey
        poolItem := some c.item
        active_clone_requires_listing_item := fun _ => ⟨nofun, nofun⟩ } }

/-- The transaction that persists a clone and finalizes its item; the clone
rows are unique by PoolOffer and remote id. -/
def persistClone (db : Db) (t : PaTarget) (c : Claim) (offerId : String) : Except PyError Db :=
  if db.activeOffers.any fun _ a =>
      a.poolOffer == some t.poolOffer && a.storeListingId == offerId then
    .error .integrityError
  else do
    let (_, pushed) ← markItemPushed (cloneRows db t c offerId) c.item t.poolOffer offerId ""
    return pushed

/-- **`_post_pa_excel_row`**: the number of clones persisted, and whether the
round is deferred. -/
def postPaExcelRow (t : PaTarget) (remote : PaRemote) (c : Claim) :
    Prog PyError World (Nat × Bool) := do
  match ← (if remote.officialOnly then postOfficial t remote c else postRelay remote c) with
  | .handled deferred => pure (0, deferred)
  | .created offerId =>
    if offerId = "" then
      failItem c.item
        { errorMessage := "PA relay replacement succeeded but no offer ID returned"
          failureStage := .responseParse
          remoteState := .unknown }
      pure (0, false)
    else do
      known remote.persist
      onDb (atomically fun db => persistClone db t c offerId)
      pure (1, false)

/-! ### The loops around the pushes -/

/-- The failure an exception of a push is turned into. -/
def pushException (exc : PyError) : Failure where
  errorMessage := exc.str
  failureStage := .remotePush
  remoteState := .unknown

/-- One item of the exception handler of `_replenish_append`. -/
def failIfQueued (exc : PyError) (k : Nat) : Prog PyError World Unit :=
  onDb <| atomically fun db => do
    let item ← getRow (db.item? k)
    if item.status = .queued then markItemFailed db k (pushException exc) else return db

/-- The guarded push of `_replenish_append`: on an exception every item still
QUEUED is failed, and the exception goes on. -/
def guardedPush (push : Prog PyError World Nat) (items : List Nat) : Prog PyError World Nat :=
  catching push fun exc => do
    each items (failIfQueued exc)
    throw exc

/-- One round of the loop of `_replenish_pa`: the clones persisted, and whether
the loop breaks. -/
def replenishPaItem (t : PaTarget) (remote : PaRemote) (c : Claim) (remaining : List Claim) :
    Prog PyError World (Nat × Bool) :=
  catching
    (do
      known remote.prepare
      let (n, deferred) ← postPaExcelRow t remote c
      if deferred then
        each remaining fun r => failMartClaim r true ""
      pure (n, deferred))
    fun exc =>
      if isMartAccountStore t.account then do
        failMartClaim c false ""
        each remaining fun r => failMartClaim r true ""
        pure (0, true)
      else do
        failItem c.item (pushException exc)
        pure (0, false)

/-- The loop of `_replenish_pa` over the claimed items. -/
def replenishPaItems (t : PaTarget) (remote : Nat → PaRemote) :
    List Claim → Prog PyError World Nat
  | [] => pure 0
  | c :: remaining => do
    let (n, stop) ← replenishPaItem t (remote c.item) c remaining
    if stop then
      pure n
    else do
      let m ← replenishPaItems t remote remaining
      pure (n + m)

end Sda
