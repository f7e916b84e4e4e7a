/-
Sda/Posting/Consumer.lean

The store threads of a posting job (services/stock/consumer.py,
`_post_with_backoff` of services/stock/orchestrator.py): build a payload,
create the offer, persist it, and on a failure release the reserved product.

A thread writes to a `Desk`: the products whose item it marked FAILED, and its
calls of `release_dispatch_items_for_job` in order.  A ghost collects the
products in a create request the marketplace may have accepted; only
`sendCreate` and `sendOffer` extend it, each where the request leaves.  No
program reads the desk.

What the payload builder, the marketplace and the persistence answer is a
record per pipeline.  Persisting (normalizing the response included) is one
step that succeeds or raises.

* `processItem` — one item, with its rate-limit retries and the Eldorado
  variant fallback;
* `processMultiCredBatch` — all credentials of a store in one offer;
* `processPaRelayBatch`, `flushPaBatch` — PlayerAuctions through the relay;
* `processPaOfficial` — PlayerAuctions through the official API;
* `StoreThread.program` — the four ways a thread drains its queue.
-/
import Sda.Pool.Dispatcher
import Sda.Posting.Relay
import Sda.Sdk.Result

namespace Sda

open Prog

/-- A queue entry: a posting item and its product. -/
structure Entry where
  item : Nat
  ownedProduct : Option Nat
  deriving DecidableEq, Repr

/-- One call of `release_dispatch_items_for_job`. -/
structure ReleaseCall where
  products : List Nat
  reason : String
  outcome : RemoteOutcome
  deriving DecidableEq, Repr

structure Desk where
  /-- Ghost: products in a create request the marketplace may have accepted. -/
  exposed : List Nat := []
  /-- The products of the items marked FAILED. -/
  failed : List Nat := []
  releases : List ReleaseCall := []
  deriving DecidableEq, Repr

/-- A create call whose payload carries the credentials of `products`. -/
def sendCreate {α : Type} (products : List Nat) (answer : WriteAnswer α) :
    Prog PyError Desk (ApiResult α) := do
  change fun d => if answer.mayHaveWritten then { d with exposed := d.exposed ++ products } else d
  known answer.result

/-- One relay post. -/
def sendOffer (e : Entry) (reply : RelayReply) : Prog PyError Desk (Except String String) := do
  change fun d =>
    if reply.written then { d with exposed := d.exposed ++ e.ownedProduct.toList } else d
  pure (postRow reply)

/-- `item.status = FAILED`. -/
def markFailed (e : Entry) : Prog PyError Desk Unit :=
  change fun d => { d with failed := d.failed ++ e.ownedProduct.toList }

def releaseProducts (products : List Nat) (reason : String) (outcome : RemoteOutcome) :
    Prog PyError Desk Unit :=
  change fun d => { d with releases := d.releases ++ [⟨products, reason, outcome⟩] }

/-- The failure of one item: `if owned_product:` guards the release. -/
def failEntry (e : Entry) (reason : String) (outcome : RemoteOutcome) : Prog PyError Desk Unit :=
  match e.ownedProduct with
  | none => markFailed e
  | some p => do
    markFailed e
    releaseProducts [p] reason outcome

/-! ### Creating an offer -/

/-- `StockOrchestrator._is_rate_limited`.  The comparison of the category with
`'rate_limit'` never holds, because `str()` of it has the class name in front. -/
def isRateLimitedResult (e : ErrorDetail) : Bool :=
  containsText "429" (lowerText e.message) || containsText "rate limit" (lowerText e.message) ||
    containsText "too many requests" (lowerText e.message)

/-- What a create with backoff meets; the data of a success is its
`extract_listing_id`. -/
structure PostRemote where
  /-- Building the client. -/
  client : Except PyError Unit := .ok ()
  /-- The answer to each attempt. -/
  answers : Nat → WriteAnswer String
  /-- Is the cancel event set after the attempt? -/
  cancelled : Nat → Bool := fun _ => false

/-- `_MAX_RETRIES`. -/
def maxRetries : Nat := 5

/-- The loop of `_post_with_backoff` from attempt `i` on, with `left` retries. -/
def postAttempts (products : List Nat) (remote : PostRemote) :
    Nat → Nat → Prog PyError Desk (ApiResult String)
  | 0, i => sendCreate products (remote.answers i)
  | left + 1, i => do
    match ← sendCreate products (remote.answers i) with
    | .success data status => pure (.success data status)
    | .failure e status =>
      if isRateLimitedResult e && !remote.cancelled i then
        postAttempts products remote left (i + 1)
      else
        pure (.failure e status)

/-- **`_post_with_backoff`**. -/
def postWithBackoff (products : List Nat) (remote : PostRemote) :
    Prog PyError Desk (ApiResult String) := do
  known remote.client
  postAttempts products remote (maxRetries - 1) 0

/-- `is_max_offer_error`. -/
def isMaxOfferError (e : ErrorDetail) : Bool :=
  e.details.messages.any fun m => containsText "active offers is allowed" (lowerText m)

/-- The message of the exception a failing create is turned into. -/
def apiErrorReason (e : ErrorDetail) : String :=
  let messages := e.details.messages.filter (· != "")
  "API error: " ++ (if messages.isEmpty then e.message else "; ".intercalate messages) ++
    " (category=" ++ e.category.text ++ ")"

/-- `build_result['data']`, as far as the pipelines depend on it. -/
structure BuildData where
  variantSlug : String := ""
  /-- The credential strings of the payload. -/
  credentials : List String := []
  deriving DecidableEq, Repr

/-! ### One item -/

/-- What the posting job says about a store thread. -/
structure StoreContext where
  marketplace : Provider
  gameSlug : String
  deriving DecidableEq, Repr

/-- The games of `PLATFORM_PRIORITY`. -/
def hasPlatformPriority (gameSlug : String) : Bool :=
  gameSlug ∈ ["fortnite", "valorant", "rainbow-six-siege"]

/-- One candidate of the variant fallback; a failing build carries
`"[stage] error"`. -/
structure FallbackRemote where
  build : Except String BuildData
  post : PostRemote
  /-- Normalizing and persisting. -/
  persist : Except PyError Unit

/-- What one streamed item meets. -/
structure ItemRemote where
  /-- The job is cancelled, or stopped by a rate limit, before the item. -/
  skipped : Bool := false
  build : Except String BuildData
  post : PostRemote
  /-- `_list_gameboost_offer`; a failing result is only logged. -/
  list : Except PyError Unit := .ok ()
  /-- The available variants, in the order they are tried. -/
  fallback : List FallbackRemote := []
  persist : Except PyError Unit

/-- `_retry_with_variant_fallback`. -/
def retryWithVariantFallback (e : Entry) : List FallbackRemote → Prog PyError Desk Bool
  | [] => pure false
  | candidate :: rest =>
    match candidate.build with
    | .error _ => retryWithVariantFallback e rest
    | .ok _ => do
      match ← postWithBackoff e.ownedProduct.toList candidate.post with
      | .success _ _ =>
        known candidate.persist
        pure true
      | .failure err _ =>
        if isMaxOfferError err then
          retryWithVariantFallback e rest
        else
          pure false

/-- Does a failing create of this item start the fallback? -/
def startsFallback (ctx : StoreContext) (err : ErrorDetail) : Bool :=
  isMaxOfferError err && ctx.marketplace == .eldorado && hasPlatformPriority ctx.gameSlug

/-- The step after a create: GameBoost publishes the draft. -/
def publishCreated (ctx : StoreContext) (list : Except PyError Unit) : Prog PyError Desk Unit :=
  if ctx.marketplace = .gameboost then known list else pure ()

/-- Stage 1 of `_process_item`: true when an offer is to be persisted, false
when the fallback has done so already. -/
def createItem (ctx : StoreContext) (e : Entry) (remote : ItemRemote) : Prog PyError Desk Bool :=
  match remote.build with
  | .error error => throw (.valueError error)
  | .ok _ => do
    match ← postWithBackoff e.ownedProduct.toList remote.post with
    | .success _ _ =>
      publishCreated ctx remote.list
      pure true
    | .failure err _ =>
      if startsFallback ctx err then
        if ← retryWithVariantFallback e remote.fallback then
          pure false
        else
          throw (.other (apiErrorReason err))
      else
        throw (.other (apiErrorReason err))

/-- **`_process_item`**: any exception of stage 1 releases the product as
absent, any of stage 2 as unknown. -/
def processItem (ctx : StoreContext) (e : Entry) (remote : ItemRemote) : Prog PyError Desk Unit := do
  let created ← catching (createItem ctx e remote) fun exc => do
    failEntry e exc.str .absent
    pure false
  if created then
    catching (known remote.persist) fun exc => failEntry e exc.str .unknown

/-! ### One offer with all credentials -/

/-- What a multi-credential batch meets. -/
structure BatchRemote where
  cancelled : Nat → Bool := fun _ => false
  build : Nat → Except String BuildData
  post : PostRemote
  list : Except PyError Unit := .ok ()
  persist : Except PyError Unit

/-- The build loop: the entries built, in order. -/
def buildEntries (remote : BatchRemote) : List Entry → Prog PyError Desk (List (Entry × BuildData))
  | [] => pure []
  | e :: es =>
    if remote.cancelled e.item then
      buildEntries remote es
    else
      match remote.build e.item with
      | .error _ => do
        markFailed e
        buildEntries remote es
      | .ok data => do
        let built ← buildEntries remote es
        pure ((e, data) :: built)

/-- Stage 1 of the batch. -/
def createBatch (ctx : StoreContext) (remote : BatchRemote) (products : List Nat) :
    Prog PyError Desk Unit := do
  match ← postWithBackoff products remote.post with
  | .success _ _ => publishCreated ctx remote.list
  | .failure err _ => throw (.other (apiErrorReason err))

/-- The products of the built entries. -/
def builtProducts (built : List (Entry × BuildData)) : List Nat :=
  built.filterMap fun b => b.1.ownedProduct

/-- The products whose credentials the merged payload carries. -/
def mergedProducts (built : List (Entry × BuildData)) : List Nat :=
  builtProducts (built.filter fun b => !b.2.credentials.isEmpty)

/-- The failure of the whole batch. -/
def failBatch (built : List (Entry × BuildData)) (reason : String) (outcome : RemoteOutcome) :
    Prog PyError Desk Unit := do
  each built fun b => markFailed b.1
  releaseProducts (builtProducts built) reason outcome

/-- **`_process_multi_cred_batch`**. -/
def processMultiCredBatch (ctx : StoreContext) (entries : List Entry) (remote : BatchRemote) :
    Prog PyError Desk Unit := do
  let built ← buildEntries remote entries
  if built.isEmpty then
    let failedOwned := entries.filterMap Entry.ownedProduct
    if !failedOwned.isEmpty then
      releaseProducts failedOwned "All credentials failed to build (pre-remote)" .absent
  else
    let created ← catching
      (do
        createBatch ctx remote (mergedProducts built)
        pure true)
      fun exc => do
        failBatch built exc.str .absent
        pure false
    if created then
      catching (known remote.persist) fun exc => failBatch built exc.str .unknown

/-! ### PlayerAuctions through the relay -/

/-- What one relay row meets. -/
structure RowRemote where
  build : Except String BuildData := .ok {}
  first : RelayReply
  /-- The reply to the post under a fresh session. -/
  second : RelayReply := .timeout false
  persist : Except PyError Unit := .ok ()

/-- `PARelayPoster.post_batch`. -/
def postBatch (reply : Nat → RelayReply) :
    List Entry → Prog PyError Desk (List (Entry × Except String String))
  | [] => pure []
  | e :: es => do
    let r ← sendOffer e (reply e.item)
    let rest ← postBatch reply es
    pure ((e, r) :: rest)

/-- Is this row posted again? -/
def isRetryRow (row : Entry × Except String String) : Bool :=
  match row.2 with
  | .ok _ => false
  | .error error => isRelayAuthorizationFailure error

/-- The merged result: the retried rows, in order, replace their originals. -/
def mergeRetried : List (Entry × Except String String) → List (Entry × Except String String) →
    List (Entry × Except String String)
  | [], _ => []
  | row :: rows, retried =>
    if isRetryRow row then
      match retried with
      | [] => row :: mergeRetried rows []
      | again :: more => (row.1, again.2) :: mergeRetried rows more
    else
      row :: mergeRetried rows retried

/-- `_retry_relay_authorization_failures`; `login` says whether username,
password and store slug are known, `refreshed` whether a fresh session is had. -/
def retryAuthorizationFailures (second : Nat → RelayReply) (login refreshed : Bool)
    (rows : List (Entry × Except String String)) :
    Prog PyError Desk (List (Entry × Except String String)) :=
  if !rows.any isRetryRow || !login then
    pure rows
  else if !refreshed then
    pure rows
  else do
    let retried ← postBatch second ((rows.filter isRetryRow).map Prod.fst)
    pure (mergeRetried rows retried)

/-- The error message of a failed row. -/
def relayFailureMessage (error : String) : String :=
  if isPaRelayUncertainOutcome error then
    "PA relay outcome uncertain — verify no offer was created before retrying: " ++ error
  else if isPaRelayTransientSessionError error then
    "Transient PA session rejection (returned to pool for retry): " ++ error
  else
    error

/-- One row of the relay result. -/
def settleRow (persist : Nat → Except PyError Unit) (row : Entry × Except String String) :
    Prog PyError Desk Unit :=
  match row.2 with
  | .ok _ =>
    catching (known (persist row.1.item)) fun exc => do
      markFailed row.1
      releaseProducts row.1.ownedProduct.toList exc.str .unknown
  | .error error =>
    failEntry row.1 (relayFailureMessage error)
      (if isPaRelayUncertainOutcome error then .unknown else .absent)

/-- Post the rows, retry the rejected sessions, settle every row. -/
def relayRows (rows : Nat → RowRemote) (login refreshed : Bool) (entries : List Entry) :
    Prog PyError Desk Unit := do
  let posted ← postBatch (fun k => (rows k).first) entries
  let results ← retryAuthorizationFailures (fun k => (rows k).second) login refreshed posted
  each results (settleRow fun k => (rows k).persist)

/-- The build loop of the relay batch: the entries built. -/
def buildRelayRows (rows : Nat → RowRemote) : List Entry → Prog PyError Desk (List Entry)
  | [] => pure []
  | e :: es =>
    match (rows e.item).build with
    | .error error => do
      failEntry e error .absent
      buildRelayRows rows es
    | .ok _ => do
      let built ← buildRelayRows rows es
      pure (e :: built)

/-- `_fail_pa_legacy_disabled`. -/
def failPaLegacyDisabled (entries : List Entry) : Prog PyError Desk Unit := do
  each entries markFailed
  let failedOwned := entries.filterMap Entry.ownedProduct
  if !failedOwned.isEmpty then
    releaseProducts failedOwned "PA legacy relay disabled" .absent

/-! ### PlayerAuctions through the official API -/

/-- What one official create meets. -/
structure OfficialRemote where
  build : Except String BuildData := .ok {}
  answer : WriteAnswer String
  persist : Except PyError Unit := .ok ()

/-- `_OfficialPAWriteFailure`. -/
structure OfficialWriteFailure where
  message : String
  retryable : Bool
  deriving DecidableEq, Repr

/-- `offer_id and offer_id.isdigit()` (of ASCII digits). -/
def isDigitText (s : String) : Bool :=
  s != "" && s.toList.all Char.isDigit

/-- The body of the `try`: a write failure is its result. -/
def createOfficial (e : Entry) (remote : OfficialRemote) :
    Prog PyError Desk (Option OfficialWriteFailure) :=
  match remote.build with
  | .error error => throw (.valueError error)
  | .ok _ => do
    match ← sendCreate e.ownedProduct.toList remote.answer with
    | .failure err _ =>
      pure (some ⟨if err.message = "" then err.text else err.message, err.isRetryable⟩)
    | .success data _ =>
      if isDigitText (stripText data) then
        known remote.persist
        pure none
      else
        pure (some ⟨"official account-offer creation returned no numeric offer ID", false⟩)

/-- **One entry of `_process_pa_official_batch`** and of
`_flush_pa_official_batch`: a write failure that is not retryable releases the
product as absent, everything else as unknown. -/
def processPaOfficial (e : Entry) (remote : OfficialRemote) : Prog PyError Desk Unit := do
  let outcome ← catching
    (do
      let failure ← createOfficial e remote
      pure (Except.ok failure))
    fun exc => pure (Except.error exc)
  match outcome with
  | .ok none => pure ()
  | .ok (some failure) =>
    failEntry e ("PA official create failed: " ++ takeChars 500 failure.message)
      (if failure.retryable then .unknown else .absent)
  | .error exc =>
    failEntry e ("PA official payload or persist failure: " ++ takeChars 500 exc.str) .unknown

/-! ### PlayerAuctions batches -/

/-- The relay session of `_process_pa_relay_batch`. -/
structure RelayLogin where
  /-- A cached access token. -/
  storedToken : Bool
  storeSlug : Bool
  /-- Username and password. -/
  password : Bool
  /-- Does fetching a token succeed, the first time and after a rejection? -/
  fetched : Bool := false
  refreshed : Bool := false
  deriving DecidableEq, Repr

/-- `relay_token and store_slug`. -/
def RelayLogin.usable (l : RelayLogin) : Bool :=
  (l.storedToken || (l.password && l.storeSlug && l.fetched)) && l.storeSlug

/-- What a relay batch meets. -/
structure PaBatchRemote where
  /-- Building the client raises (`none`), or the client is official-only. -/
  client : Option Bool
  legacyDisabled : Bool := false
  session : RelayLogin
  rows : Nat → RowRemote
  official : Nat → OfficialRemote

/-- **`_process_pa_relay_batch`**. -/
def processPaRelayBatch (entries : List Entry) (remote : PaBatchRemote) : Prog PyError Desk Unit :=
  match remote.client with
  | none => failPaLegacyDisabled entries
  | some true => each entries fun e => processPaOfficial e (remote.official e.item)
  | some false =>
    if remote.legacyDisabled then
      failPaLegacyDisabled entries
    else if !remote.session.usable then
      each entries fun e => failEntry e "PA relay token unavailable" .absent
    else do
      let built ← buildRelayRows remote.rows entries
      relayRows remote.rows (remote.session.password && remote.session.storeSlug)
        remote.session.refreshed built

/-- The relay session of `_flush_pa_batch`. -/
structure FlushLogin where
  /-- The token and the slug of the client's session. -/
  token : Bool
  slug : Bool
  /-- Username and password, and the slug, of the stored credentials. -/
  password : Bool
  storedSlug : Bool
  fetched : Bool := false
  refreshed : Bool := false
  deriving DecidableEq, Repr

/-- `_relay_token and _store_slug`. -/
def FlushLogin.usable (l : FlushLogin) : Bool :=
  if l.token && l.slug then true
  else if l.password && l.storedSlug then l.fetched
  else l.token && l.storedSlug

/-- What the bulk consumer meets. -/
structure BulkRemote where
  legacyDisabled : Bool := false
  cancelled : Nat → Bool := fun _ => false
  build : Nat → Except String BuildData
  officialOnly : Bool
  session : FlushLogin
  rows : Nat → RowRemote
  official : Nat → OfficialRemote

/-- The message of a row that has no session to be posted with. -/
def noTokenMessage : String :=
  "PA relay token unavailable — check relay machine and store credentials"

/-- **`_flush_pa_batch`**, of entries built before. -/
def flushPaBatch (remote : BulkRemote) (batch : List Entry) : Prog PyError Desk Unit :=
  if remote.officialOnly then
    each batch fun e => processPaOfficial e { remote.official e.item with build := .ok {} }
  else if remote.session.usable then
    relayRows remote.rows remote.session.password remote.session.refreshed batch
  else
    each (batch.map fun e => (e, .error noTokenMessage))
      (settleRow fun k => (remote.rows k).persist)

/-- `_PA_BATCH_SIZE`. -/
def paBatchSize : Nat := 10

/-- The loop of `consume_store_pa`, with its accumulator. -/
def drainBulk (remote : BulkRemote) (accumulator : List Entry) :
    List Entry → Prog PyError Desk Unit
  | [] => if accumulator.isEmpty then pure () else flushPaBatch remote accumulator
  | e :: es =>
    if remote.cancelled e.item then
      drainBulk remote accumulator es
    else
      match remote.build e.item with
      | .error _ => do
        markFailed e
        drainBulk remote accumulator es
      | .ok _ =>
        if (accumulator ++ [e]).length ≥ paBatchSize then do
          flushPaBatch remote (accumulator ++ [e])
          drainBulk remote [] es
        else
          drainBulk remote (accumulator ++ [e]) es

/-! ### Store threads -/

/-- How a store thread drains its queue. -/
inductive StoreThread
  /-- `consume_store` of a manual job on a multi-credential marketplace. -/
  | multiCred (ctx : StoreContext) (entries : List Entry) (remote : BatchRemote)
  /-- `consume_store` of PlayerAuctions. -/
  | relay (entries : List Entry) (remote : PaBatchRemote)
  /-- `consume_store`, item by item. -/
  | streaming (ctx : StoreContext) (entries : List Entry) (remote : Nat → ItemRemote)
  /-- `consume_store_pa`. -/
  | bulk (entries : List Entry) (remote : BulkRemote)

def StoreThread.entries : StoreThread → List Entry
  | .multiCred _ entries _ => entries
  | .relay entries _ => entries
  | .streaming _ entries _ => entries
  | .bulk entries _ => entries

/-- **`consume_store`** and **`consume_store_pa`**. -/
def StoreThread.program : StoreThread → Prog PyError Desk Unit
  | .multiCred ctx entries remote => processMultiCredBatch ctx entries remote
  | .relay entries remote => processPaRelayBatch entries remote
  | .streaming ctx entries remote =>
    each entries fun e =>
      if (remote e.item).skipped then pure () else processItem ctx e (remote e.item)
  | .bulk entries remote =>
    if remote.legacyDisabled then
      if entries.isEmpty then pure () else failPaLegacyDisabled entries
    else
      drainBulk remote [] entries

/-- The desk a thread leaves. -/
def StoreThread.desk (t : StoreThread) : Desk :=
  (exec t.program {}).2

end Sda
