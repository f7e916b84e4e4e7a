/-
Sda/Pool/Dispatcher.lean

The dispatch of a new offer from a pool (services/pool/dispatcher.py) and the
hook that finalizes it (services/shared/listing_writer.py).

A dispatch moves PENDING items to RESERVED under one reservation row and
creates a posting job.  What ends it are three writers that do not know of
each other: the job's failure paths (`releaseItems`, then `saveReleased`, two
statements without a transaction around them), the hook of a successful post
(`finalizeDispatchSuccess`, one transaction) and the stale sweep
(`releaseStaleReservation`, one transaction a reservation).

Main results: `dispatchOfferFromPool_ok`, and the relation `Frees` (a row is
as before or not RESERVED any more; a reservation changes its status only
when no item is RESERVED under it), which finalization and sweep meet
unconditionally: `frees_finalize`, `frees_stale`.
-/
import Sda.Pool.MartClaims

namespace Sda

open Prog

variable {db db' : Db} {n k j : Nat} {r : ItemRow}

/-! ### Reserving -/

/-- `PoolOffer.strategy_for_provider`. -/
def strategyForProvider (provider : Provider) : Except PyError PoolOfferStrategy :=
  if provider = .playerauctions then .ok .clone
  else if provider = .eldorado ∨ provider = .gameboost then .ok .append
  else .error (.other ("Unsupported pool marketplace: " ++ provider.text))

/-- A lane of this pool and store that is not DETACHED. -/
def hasLiveMartLane (db : Db) (pool store : Nat) : Bool :=
  db.offers.any fun _ o =>
    o.pool == pool && o.status != .detached &&
      match db.listings.get? o.listing with
      | some listing => listing.integrationAccount == store
      | none => false

def hasActiveMartDispatch (db : Db) (pool store : Nat) : Bool :=
  db.reservations.any fun _ res =>
    res.pool == pool && res.store == store && res.status == .active

/-- The guards of a Mart store, in the order of the source. -/
def checkMartLane (db : Db) (pool store : Nat) (account : IntegrationAccount) :
    Except PyError Unit :=
  if isMartAccountStore account && hasLiveMartLane db pool store then
    .error (.poolDispatchConflict
      ("This pool already has a Mart offer lane for the selected store. " ++
        "Use that lane for threshold-controlled replenishment; a second lane is blocked."))
  else if isMartAccountStore account && hasActiveMartDispatch db pool store then
    .error (.poolDispatchConflict
      ("A Mart Create Offer request is already processing for this pool. " ++
        "Wait for its verified result; a second job is blocked."))
  else .ok ()

/-- The items a dispatch may take, in allocation order. -/
def reservableItems (db : Db) (pool : Nat) : List (Nat × ItemRow) :=
  (db.items.table.select fun _ r =>
      r.pool == pool && r.status == .pending && r.poolOffer.isNone && r.reservation.isNone &&
        r.claimToken.isNone).insertionSort allocationOrder

/-- The keys of the first `count` of them. -/
def itemsToReserve (db : Db) (pool count : Nat) : List Nat :=
  ((reservableItems db pool).take count).map Prod.fst

/-- The columns the reservation writes. -/
def reservedRow (item : ItemRow) (reservation now : Nat) : ItemRow :=
  { item with
    status := .reserved
    reservation := some reservation
    claimedAt := some now
    claimToken := none
    failureStage := .blank
    remoteState := .blank
    errorMessage := "" }

/-- **`reserve_pending_items_for_new_offer`**: the key of the reservation.  The
caller's transaction undoes everything when there are too few items. -/
def reservePendingItems (db : Db) (pool store count : Nat) : Except PyError (Nat × Db) := do
  let _ ← getRow (db.pools.get? pool)
  let account ← getRow (db.accounts.get? store)
  checkMartLane db pool store account
  if (itemsToReserve db pool count).length < count then
    throw (.valueError
      ("Not enough unreserved pending items in pool #" ++ natText pool ++ ": requested " ++
        natText count ++ ", available " ++ natText (itemsToReserve db pool count).length))
  else
    let saved ← db.updateItems (fun k _ => (itemsToReserve db pool count).contains k)
      (reservedRow · db.reservations.nextKey db.now)
    return (db.reservations.nextKey,
      { saved with
        nextToken := db.nextToken + 1
        reservations := db.reservations.create
          { token := db.nextToken, pool, store, itemCount := count, createdAt := db.now } })

/-- The drawer fields of a dispatch. -/
structure DispatchRequest where
  pool : Nat
  store : Nat
  count : Nat
  targetCount : Nat
  threshold : Nat
  maxConcurrent : Option Nat
  deriving DecidableEq, Repr

/-- **`dispatch_offer_from_pool`**, its transaction: reserve, create the job,
attach it to the reservation.  The result is the job's key. -/
def dispatchOfferFromPool (db : Db) (req : DispatchRequest) : Except PyError (Nat × Db) := do
  let account ← getRow (db.accounts.get? req.store)
  let strategy ← strategyForProvider account.provider
  let (reservation, saved) ← reservePendingItems db req.pool req.store req.count
  let job := saved.jobs.nextKey
  return (job,
    { saved with
      jobs := saved.jobs.create
        { poolDispatch := some
            { pool := req.pool
              reservationId := reservation
              targetCount := req.targetCount
              threshold := req.threshold
              maxConcurrent := req.maxConcurrent
              strategy } }
      reservations := saved.reservations.updateWhere (fun k _ => k == reservation)
        fun res => { res with job := some job } })

/-! ### Releasing -/

/-- `remote_outcome`. -/
inductive RemoteOutcome
  | absent | unknown
  deriving DecidableEq, Repr

/-- `owned_product_ids`: `none` selects every product. -/
def selectsProduct (products : Option (List Nat)) (product : Nat) : Bool :=
  match products with
  | none => true
  | some ids => ids.contains product

/-- RESERVED under the reservation `n`. -/
def isReservedUnder (n : Nat) (r : ItemRow) : Bool :=
  r.status == .reserved && r.reservation == some n

/-- The columns a release writes. -/
def releasedRow (reason : String) (outcome : RemoteOutcome) (r : ItemRow) : ItemRow :=
  match outcome with
  | .absent =>
    { r with
      status := .pending
      reservation := none
      claimedAt := none
      failureStage := .dispatchRelease
      errorMessage := reason }
  | .unknown =>
    { r with
      status := .failed
      failureStage := .dispatchUnknown
      remoteState := .unknown
      errorMessage := reason }

/-- The first statement of `release_reserved_items`: the items. -/
def releaseItems (db : Db) (n : Nat) (reason : String) (outcome : RemoteOutcome)
    (products : Option (List Nat)) : Except PyError Db :=
  db.updateItems (fun _ r => isReservedUnder n r && selectsProduct products r.ownedProduct)
    (releasedRow reason outcome)

/-- The second statement of `release_reserved_items`: the reservation. -/
def saveReleased (db : Db) (n : Nat) (reason : String) (outcome : RemoteOutcome) : Db :=
  { db with
    reservations := db.reservations.updateWhere (fun k _ => k == n) fun res =>
      { res with
        status := if outcome = .absent then .released else .failed
        reason
        releasedAt := some db.now } }

/-- **`release_reserved_items`**. -/
def releaseReservedItems (db : Db) (n : Nat) (reason : String) (outcome : RemoteOutcome)
    (products : Option (List Nat)) : Except PyError Db := do
  let released ← releaseItems db n reason outcome products
  return saveReleased released n reason outcome

/-- `PoolDispatchReservation.objects.get(pk=n, status=ACTIVE)`. -/
def getActiveReservation (db : Db) (n : Nat) : Except PyError PoolDispatchReservation := do
  let res ← getRow (db.reservations.get? n)
  if res.status = .active then return res else throw .doesNotExist

/-- The reservation `release_dispatch_items_for_job` works on: that of the job,
while it is ACTIVE. -/
def jobReservation (db : Db) (job : Nat) : Option Nat := do
  let cfg ← (← db.jobs.get? job).poolDispatch
  match getActiveReservation db cfg.reservationId with
  | .ok _ => some cfg.reservationId
  | .error _ => none

/-- **`release_dispatch_items_for_job`**, when nothing interferes. -/
def releaseDispatchItemsForJob (db : Db) (job : Nat) (products : Option (List Nat))
    (reason : String) (outcome : RemoteOutcome) : Except PyError Db :=
  match jobReservation db job with
  | none => return db
  | some n => releaseReservedItems db n reason outcome products

/-! ### The stale sweep -/

/-- `STALE_RESERVATION_AGE`: thirty minutes. -/
def staleReservationAge : Nat := 1800

def staleReservationReason : String :=
  "Stale dispatch reservation auto-released (worker no longer running)"

/-- The reservations the sweep reads: ACTIVE ones created before the cutoff. -/
def staleReservationIds (db : Db) (maxAge : Nat) : List Nat :=
  (db.reservations.select fun _ res =>
    res.status == .active && res.createdAt + maxAge < db.now).map Prod.fst

/-- The transaction of the sweep for one reservation. -/
def releaseStaleReservation (db : Db) (n : Nat) : Except PyError Db := do
  let _ ← getActiveReservation db n
  releaseReservedItems db n staleReservationReason .absent none

/-- The body of the sweep: a reservation that is not ACTIVE any more is
skipped. -/
def sweepReservation (n : Nat) : Prog PyError Db Unit :=
  catching (atomically fun db => releaseStaleReservation db n) fun exc =>
    if exc = .doesNotExist then pure () else throw exc

/-- **`release_stale_reservations`**. -/
def releaseStaleReservations (maxAge : Nat) : Prog PyError Db Unit := do
  let db ← get
  each (staleReservationIds db maxAge) sweepReservation

/-! ### Finalizing -/

/-- The row `finalize_reserved_items_for_new_offer` saves. -/
def finalizedRow (item : ItemRow) (offer now : Nat) (storeListingId : String) : ItemRow :=
  { item with
    status := .pushed
    poolOffer := some offer
    reservation := none
    targetOfferId := storeListingId
    remoteState := .present
    pushedAt := some now
    claimToken := none
    claimedAt := none }

/-- `for item in items`. -/
def finalizeItems (db : Db) (offer : Nat) (storeListingId : String) :
    List Nat → Except PyError Db
  | [] => return db
  | k :: ks => do
    let item ← getRow (db.item? k)
    let db ← db.saveItem k (finalizedRow item offer db.now storeListingId)
    finalizeItems db offer storeListingId ks

/-- Is an item still RESERVED under the reservation? -/
def hasReserved (db : Db) (n : Nat) : Bool :=
  db.items.table.any fun _ r => isReservedUnder n r

/-- **`finalize_reserved_items_for_new_offer`**. -/
def finalizeReservedItems (db : Db) (n offer : Nat) (listing : Listing) (products : List Nat) :
    Except PyError Db := do
  let items := (db.items.table.select fun _ r =>
    isReservedUnder n r && products.contains r.ownedProduct).map Prod.fst
  let saved ← finalizeItems db offer listing.storeListingId items
  if hasReserved saved n then
    return saved
  else
    return { saved with
      reservations := saved.reservations.updateWhere (fun k _ => k == n) fun res =>
        { res with status := .finalized, finalizedAt := some db.now } }

/-- An insertion into `pool_offers`: accepted when the constraints hold. -/
def PoolOfferRow.commit (row : PoolOfferRow) : Except PyError PoolOffer :=
  if h₁ : row.threshold ≤ row.targetCount then
    if h₂ : 1 ≤ row.threshold ∧ 1 ≤ row.targetCount then
      match hs : row.strategy, hm : row.maxConcurrent with
      | .append, none => .ok ⟨row, h₁, h₂, Or.inl ⟨hs, hm⟩⟩
      | .clone, some m =>
        if h₃ : m ≤ 10 ∧ row.targetCount ≤ m then .ok ⟨row, h₁, h₂, Or.inr ⟨hs, m, hm, h₃⟩⟩
        else .error .integrityError
      | .append, some _ => .error .integrityError
      | .clone, none => .error .integrityError
    else .error .integrityError
  else .error .integrityError

/-- `PoolOffer.objects.get_or_create(listing=listing, defaults=…)`. -/
def getOrCreateOffer (db : Db) (row : PoolOfferRow) : Except PyError (Nat × Db) :=
  match (db.offers.select fun _ o => o.listing == row.listing).head? with
  | some (k, _) => return (k, db)
  | none => do
    let offer ← row.commit
    return (db.offers.nextKey, { db with offers := db.offers.create offer })

/-- The ACTIVE clone of one product, unless it is there already. -/
def linkClone (pool offer listing : Nat) (storeListingId : String) (db : Db) (product : Nat) : Db :=
  match (db.items.table.select fun _ r =>
    r.pool == pool && r.ownedProduct == product && r.poolOffer == some offer).head? with
  | none => db
  | some (k, _) =>
    if db.activeOffers.any fun _ a =>
        a.poolOffer == some offer && a.storeListingId == storeListingId then db
    else
      { db with
        activeOffers := db.activeOffers.create
          { pool
            poolOffer := some offer
            storeListingId
            listing := some listing
            poolItem := some k
            active_clone_requires_listing_item := fun _ => ⟨nofun, nofun⟩ } }

/-- The part of the hook that needs the reservation; a missing one is logged. -/
def finalizeReservation (db : Db) (n offer : Nat) (listing : Listing) (products : List Nat) :
    Except PyError Db :=
  match db.reservations.get? n with
  | none => return db
  | some _ => finalizeReservedItems db n offer listing products

/-- **`_finalize_dispatch_success`**: one transaction. -/
def finalizeDispatchSuccess (db : Db) (cfg : DispatchConfig) (listing : Nat)
    (products : List Nat) : Except PyError Db := do
  let _ ← getRow (db.pools.get? cfg.pool)
  let row ← getRow (db.listings.get? listing)
  let (offer, withOffer) ← getOrCreateOffer db
    { pool := cfg.pool
      listing
      strategy := cfg.strategy
      targetCount := cfg.targetCount
      threshold := cfg.threshold
      maxConcurrent := cfg.maxConcurrent
      currentRemoteCount := some products.length }
  let finalized ← finalizeReservation withOffer cfg.reservationId offer row products
  if cfg.strategy = .clone then
    return products.foldl (linkClone cfg.pool offer listing row.storeListingId) finalized
  else
    return finalized

/-! ### What a dispatch does -/

theorem mem_reservableItems {pool : Nat} :
    (k, r) ∈ reservableItems db pool ↔
      db.item? k = some r ∧ r.pool = pool ∧ r.status = .pending ∧ r.poolOffer = none ∧
        r.reservation = none ∧ r.claimToken = none := by
  rw [reservableItems, List.mem_insertionSort, Table.mem_select]
  simp [Db.item?, ItemTable.get?, and_assoc]

/-- A new ACTIVE reservation, and rows that are as before or were PENDING and
are RESERVED under it. -/
structure Reserves (db : Db) (n : Nat) (db' : Db) : Prop where
  now : db'.now = db.now
  fresh : n = db.reservations.nextKey
  active : ∃ res, db'.reservations.get? n = some res ∧ res.status = .active ∧
    res.createdAt = db.now
  frame : ∀ m, m ≠ n → db'.reservations.get? m = db.reservations.get? m
  row : ∀ k, db'.item? k = db.item? k ∨
    ∃ r, db.item? k = some r ∧ r.status = .pending ∧ db'.item? k = some (reservedRow r n db.now)

theorem reservePendingItems_ok {pool store count : Nat}
    (h : reservePendingItems db pool store count = .ok (n, db')) :
    Reserves db n db' ∧ db'.jobs = db.jobs := by
  obtain ⟨_, -, h⟩ := except_bind_ok.mp h
  obtain ⟨account, -, h⟩ := except_bind_ok.mp h
  obtain ⟨_, -, h⟩ := except_bind_ok.mp h
  split at h
  · cases h
  obtain ⟨saved, hs, h⟩ := except_bind_ok.mp h
  have hrows := fun k => Db.item?_updateItems (j := k) hs
  obtain ⟨items, -, rfl⟩ := Db.updateItems_ok hs
  cases h
  refine ⟨⟨rfl, rfl, ?_, ?_, ?_⟩, rfl⟩
  · exact ⟨_, by rw [Table.get?_create, if_pos rfl], rfl, rfl⟩
  · intro m hm
    rw [Table.get?_create, if_neg hm]
  · intro k
    rcases hk : db.item? k with - | r
    · left
      exact (hrows k).trans (by rw [hk, Option.map_none])
    · have hrow := (hrows k).trans (by rw [hk, Option.map_some])
      split at hrow
      · -- a key that is updated was selected, so its row was PENDING
        rename_i hmem
        rw [List.contains_iff_mem] at hmem
        obtain ⟨⟨k', r'⟩, hm, rfl⟩ := List.mem_map.mp hmem
        obtain ⟨hr', -, hpending, -⟩ := mem_reservableItems.mp (List.mem_of_mem_take hm)
        cases hr'.symm.trans hk
        exact Or.inr ⟨_, rfl, hpending, hrow⟩
      · exact Or.inl hrow

/-- **What a dispatch does.** -/
theorem dispatchOfferFromPool_ok {req : DispatchRequest} {job : Nat}
    (h : dispatchOfferFromPool db req = .ok (job, db')) : ∃ n, Reserves db n db' := by
  obtain ⟨account, -, h⟩ := except_bind_ok.mp h
  obtain ⟨strategy, -, h⟩ := except_bind_ok.mp h
  obtain ⟨⟨n, saved⟩, hs, h⟩ := except_bind_ok.mp h
  obtain ⟨hres, -⟩ := reservePendingItems_ok hs
  obtain ⟨res, hget, hstatus, hcreated⟩ := hres.active
  cases h
  refine ⟨n, hres.now, hres.fresh, ?_, ?_, hres.row⟩
  · refine ⟨{ res with job := some saved.jobs.nextKey }, ?_, hstatus, hcreated⟩
    rw [Table.get?_updateWhere, hget]
    simp
  · intro m hm
    rw [Table.get?_updateWhere, ← hres.frame m hm]
    simp [hm]

/-! ### What ends a dispatch -/

/-- No item is RESERVED under `n`. -/
def NoneReserved (db : Db) (n : Nat) : Prop :=
  ∀ k r, db.item? k = some r → isReservedUnder n r = false

theorem hasReserved_eq_false_iff : hasReserved db n = false ↔ NoneReserved db n :=
  Table.any_eq_false_iff

theorem isReservedUnder_iff : isReservedUnder n r = true ↔
    r.status = .reserved ∧ r.reservation = some n := by
  simp [isReservedUnder]

/-- Rows are as before or not RESERVED any more; a reservation is as before, or
no item is RESERVED under it. -/
structure Frees (db db' : Db) : Prop where
  now : db'.now = db.now
  row : ∀ k, db'.item? k = db.item? k ∨ ∃ r, db'.item? k = some r ∧ r.status ≠ .reserved
  reservation : ∀ m, db'.reservations.get? m = db.reservations.get? m ∨
    ∃ res res', db.reservations.get? m = some res ∧ db'.reservations.get? m = some res' ∧
      res'.createdAt = res.createdAt ∧ NoneReserved db' m

theorem Frees.of_same (hnow : db'.now = db.now) (hitems : db'.items = db.items)
    (hres : db'.reservations = db.reservations) : Frees db db' where
  now := hnow
  row k := Or.inl (by rw [Db.item?, hitems, Db.item?])
  reservation m := Or.inl (by rw [hres])

theorem Frees.refl (db : Db) : Frees db db :=
  Frees.of_same rfl rfl rfl

theorem Frees.noneReserved (h : Frees db db') {m : Nat} (hm : NoneReserved db m) :
    NoneReserved db' m := by
  intro k r hr
  rcases h.row k with hsame | ⟨r', hr', hne⟩
  · exact hm k r (hsame ▸ hr)
  · cases hr'.symm.trans hr
    simp [isReservedUnder, hne]

theorem Frees.trans {db₁ db₂ db₃ : Db} (h₁ : Frees db₁ db₂) (h₂ : Frees db₂ db₃) :
    Frees db₁ db₃ where
  now := h₂.now.trans h₁.now
  row k := by
    rcases h₂.row k with hsame | hleft
    · rw [hsame]
      exact h₁.row k
    · exact Or.inr hleft
  reservation m := by
    rcases h₂.reservation m with hsame₂ | ⟨res₂, res₃, hget₂, hget₃, hcreated₃, hnone⟩
    · rw [hsame₂]
      rcases h₁.reservation m with hsame₁ | ⟨res₁, res₂, hget₁, hget₂, hcreated₂, hnone⟩
      · exact Or.inl hsame₁
      · exact Or.inr ⟨res₁, res₂, hget₁, hget₂, hcreated₂, h₂.noneReserved hnone⟩
    · right
      rcases h₁.reservation m with hsame₁ | ⟨res₁, res₂', hget₁, hget₂', hcreated₂, -⟩
      · exact ⟨res₂, res₃, hsame₁ ▸ hget₂, hget₃, hcreated₃, hnone⟩
      · cases hget₂'.symm.trans hget₂
        exact ⟨res₁, res₃, hget₁, hget₃, hcreated₃.trans hcreated₂, hnone⟩

/-- Only the items change. -/
theorem Frees.of_rows {items : ItemTable} (hdb : db' = { db with items })
    (hrow : ∀ k, db'.item? k = db.item? k ∨ ∃ r, db'.item? k = some r ∧ r.status ≠ .reserved) :
    Frees db db' where
  now := by rw [hdb]
  row := hrow
  reservation m := Or.inl (by rw [hdb])

/-- Saving a reservation under which no item is RESERVED. -/
theorem frees_updateReservation {f : PoolDispatchReservation → PoolDispatchReservation}
    (hnone : NoneReserved db n) (hf : ∀ res, (f res).createdAt = res.createdAt) :
    Frees db { db with reservations := db.reservations.updateWhere (fun k _ => k == n) f } where
  now := rfl
  row _ := Or.inl rfl
  reservation m := by
    show (db.reservations.updateWhere _ f).get? m = _ ∨ _
    rw [Table.get?_updateWhere]
    rcases hm : db.reservations.get? m with - | res
    · exact Or.inl rfl
    · by_cases hmn : m = n
      · subst hmn
        exact Or.inr ⟨res, f res, rfl, by simp, hf res, hnone⟩
      · left
        simp [hmn]

/-- No reservation disappears. -/
theorem Frees.reservation_ne_none (hf : Frees db db') (h : db.reservations.get? n ≠ none) :
    db'.reservations.get? n ≠ none := by
  rcases hf.reservation n with hsame | ⟨res, res', -, hres', -⟩
  · rw [hsame]
    exact h
  · rw [hres']
    exact nofun

/-! #### Releasing -/

section Release

variable {reason : String} {outcome : RemoteOutcome} {products : Option (List Nat)}

@[simp] theorem releasedRow_status_ne (r : ItemRow) :
    (releasedRow reason outcome r).status ≠ .reserved := by
  cases outcome <;> simp [releasedRow]

theorem releaseItems_ok (h : releaseItems db n reason outcome products = .ok db') :
    (∃ items, db' = { db with items }) ∧ ∀ k, db'.item? k = (db.item? k).map fun r =>
      if isReservedUnder n r && selectsProduct products r.ownedProduct then
        releasedRow reason outcome r else r := by
  refine ⟨?_, fun k => Db.item?_updateItems h⟩
  obtain ⟨items, -, rfl⟩ := Db.updateItems_ok h
  exact ⟨items, rfl⟩

/-- No constraint is in the way of a release. -/
theorem releaseItems_succeeds (db : Db) (n : Nat) (reason : String) (outcome : RemoteOutcome)
    (products : Option (List Nat)) : ∃ db', releaseItems db n reason outcome products = .ok db' := by
  have hvalid : Valid (db.items.table.updateWhere
      (fun _ r => isReservedUnder n r && selectsProduct products r.ownedProduct)
      (releasedRow reason outcome)) := by
    refine db.items.valid.mapRows fun r hr => ?_
    split
    · rename_i hsel
      have hreserved := (isReservedUnder_iff.mp (Bool.and_eq_true _ _ ▸ hsel).1).1
      have hoffer := (db.items.valid.checks r hr).reserved_item_no_pool_offer hreserved
      refine ⟨?_, ?_, ?_, ?_, ?_⟩
      · cases outcome <;> constructor <;> simp [releasedRow, hoffer]
      all_goals cases outcome <;> simp [releasedRow]
    · exact ⟨db.items.valid.checks r hr, rfl, rfl, rfl, Or.inr rfl⟩
  refine ⟨{ db with items := ⟨_, hvalid⟩ }, except_bind_ok.mpr ⟨⟨_, hvalid⟩, ?_, rfl⟩⟩
  exact ItemTable.commit_of_valid hvalid

theorem frees_releaseItems (h : releaseItems db n reason outcome products = .ok db') :
    Frees db db' := by
  obtain ⟨⟨items, hdb⟩, hrows⟩ := releaseItems_ok h
  refine Frees.of_rows hdb fun k => ?_
  rw [hrows]
  rcases db.item? k with - | r
  · exact Or.inl rfl
  · rw [Option.map_some]
    split
    · exact Or.inr ⟨_, rfl, releasedRow_status_ne r⟩
    · exact Or.inl rfl

/-- A release that covers the reservation leaves nothing RESERVED under it. -/
theorem noneReserved_releaseItems (h : releaseItems db n reason outcome products = .ok db')
    (hcovers : ∀ k r, db.item? k = some r → isReservedUnder n r = true →
      selectsProduct products r.ownedProduct = true) : NoneReserved db' n := by
  obtain ⟨-, hrows⟩ := releaseItems_ok h
  intro k r hr
  rw [hrows] at hr
  rcases hk : db.item? k with - | r₀
  · rw [hk] at hr
    cases hr
  · rw [hk, Option.map_some] at hr
    split at hr
    · cases hr
      simp [isReservedUnder]
    · rename_i hsel
      cases hr
      by_contra hres
      rw [Bool.not_eq_false] at hres
      exact hsel (by rw [hres, hcovers k r hk hres]; rfl)

theorem frees_saveReleased (hnone : NoneReserved db n) :
    Frees db (saveReleased db n reason outcome) :=
  frees_updateReservation hnone fun _ => rfl

theorem getActiveReservation_ok {res : PoolDispatchReservation}
    (h : getActiveReservation db n = .ok res) :
    db.reservations.get? n = some res ∧ res.status = .active := by
  obtain ⟨res', hget, h⟩ := except_bind_ok.mp h
  split at h
  · rename_i hactive
    cases h
    exact ⟨getRow_ok hget, hactive⟩
  · cases h

theorem getActiveReservation_of {res : PoolDispatchReservation}
    (h : db.reservations.get? n = some res) (hactive : res.status = .active) :
    getActiveReservation db n = .ok res := by
  refine except_bind_ok.mpr ⟨res, by rw [h]; rfl, ?_⟩
  rw [if_pos hactive]
  rfl

theorem getActiveReservation_error {exc : PyError} (h : getActiveReservation db n = .error exc) :
    exc = .doesNotExist := by
  unfold getActiveReservation at h
  rcases hn : db.reservations.get? n with - | res <;> rw [hn] at h
  · cases h
    rfl
  · by_cases hactive : res.status = .active
    · rw [show getRow (some res) = .ok res from rfl] at h
      simp [hactive, bind, Except.bind, pure, Except.pure] at h
    · rw [show getRow (some res) = .ok res from rfl] at h
      simp only [bind, Except.bind, hactive, if_false] at h
      cases h
      rfl

/-- **The sweep of one reservation** covers it. -/
theorem releaseStaleReservation_ok (h : releaseStaleReservation db n = .ok db') :
    ∃ db₁, releaseItems db n staleReservationReason .absent none = .ok db₁ ∧
      NoneReserved db₁ n ∧ db' = saveReleased db₁ n staleReservationReason .absent := by
  obtain ⟨res, -, h⟩ := except_bind_ok.mp h
  obtain ⟨db₁, hrel, h⟩ := except_bind_ok.mp h
  cases h
  exact ⟨db₁, hrel, noneReserved_releaseItems hrel fun _ _ _ _ => rfl, rfl⟩

theorem frees_stale (h : releaseStaleReservation db n = .ok db') : Frees db db' := by
  obtain ⟨db₁, hrel, hnone, rfl⟩ := releaseStaleReservation_ok h
  exact (frees_releaseItems hrel).trans (frees_saveReleased hnone)

end Release

/-! #### Finalizing -/

section Finalize

variable {offer : Nat} {storeListingId : String} {products : List Nat} {listing : Listing}

/-- Only the items change, those of the list to PUSHED. -/
theorem finalizeItems_ok {ks : List Nat} (h : finalizeItems db offer storeListingId ks = .ok db') :
    (∃ items, db' = { db with items }) ∧ (∀ j, j ∉ ks → db'.item? j = db.item? j) ∧
      ∀ j, j ∈ ks → ∃ r, db'.item? j = some r ∧ r.status = .pushed := by
  induction ks generalizing db with
  | nil =>
    cases h
    exact ⟨⟨_, rfl⟩, fun _ _ => rfl, by simp⟩
  | cons k ks ih =>
    obtain ⟨item, hr, h⟩ := except_bind_ok.mp h
    obtain ⟨db₁, hs, h⟩ := except_bind_ok.mp h
    have hk := getRow_ok hr
    have hrows := fun j => Db.item?_saveItem (j := j) hs hk
    obtain ⟨⟨items', hdb⟩, hframe, hpushed⟩ := ih h
    obtain ⟨items, -, rfl⟩ := Db.saveItem_ok hs
    refine ⟨⟨items', hdb⟩, fun j hj => ?_, fun j hj => ?_⟩
    · obtain ⟨hjk, hj⟩ := not_or.mp (mt List.mem_cons.mpr hj)
      rw [hframe j hj, hrows, if_neg hjk]
    · by_cases hjs : j ∈ ks
      · exact hpushed j hjs
      · obtain rfl := (List.mem_cons.mp hj).resolve_right hjs
        refine ⟨_, (hframe j hjs).trans ((hrows j).trans (if_pos rfl)), ?_⟩
        simp [finalizedRow]

/-- What a finalization leaves: rows as before or PUSHED, and nothing RESERVED
under the reservation for the given products. -/
structure Finalizes (db : Db) (n : Nat) (products : List Nat) (db' : Db) : Prop
    extends Frees db db' where
  pushed : ∀ k, db'.item? k = db.item? k ∨ ∃ r, db'.item? k = some r ∧ r.status = .pushed
  done : db.reservations.get? n ≠ none → ∀ k r, db'.item? k = some r →
    isReservedUnder n r = true → r.ownedProduct ∉ products

theorem finalizeReservedItems_ok
    (h : finalizeReservedItems db n offer listing products = .ok db') :
    Finalizes db n products db' := by
  obtain ⟨saved, hs, h⟩ := except_bind_ok.mp h
  obtain ⟨⟨items, hdb⟩, hframe, hpushed⟩ := finalizeItems_ok hs
  have hrow : ∀ k, saved.item? k = db.item? k ∨
      ∃ r, saved.item? k = some r ∧ r.status = .pushed := by
    intro k
    by_cases hk : k ∈ (db.items.table.select fun _ r =>
        isReservedUnder n r && products.contains r.ownedProduct).map Prod.fst
    · exact Or.inr (hpushed k hk)
    · exact Or.inl (hframe k hk)
  have hdone : ∀ k r, saved.item? k = some r → isReservedUnder n r = true →
      r.ownedProduct ∉ products := by
    intro k r hr hres hmem
    by_cases hk : k ∈ (db.items.table.select fun _ r =>
        isReservedUnder n r && products.contains r.ownedProduct).map Prod.fst
    · obtain ⟨r', hr', hstatus⟩ := hpushed k hk
      cases hr'.symm.trans hr
      rw [(isReservedUnder_iff.mp hres).1] at hstatus
      cases hstatus
    · refine hk (List.mem_map.mpr ⟨(k, r), Table.mem_select.mpr ⟨?_, ?_⟩, rfl⟩)
      · exact (hframe k hk).symm.trans hr
      · simpa [hres] using hmem
  have hfrees : Frees db saved := by
    refine Frees.of_rows hdb fun k => (hrow k).imp id ?_
    rintro ⟨r, hr, hstatus⟩
    exact ⟨r, hr, by simp [hstatus]⟩
  split at h
  · cases h
    exact ⟨hfrees, hrow, fun _ => hdone⟩
  · rename_i hnone
    have hnone := hasReserved_eq_false_iff.mp (Bool.eq_false_iff.mpr hnone)
    cases h
    exact ⟨hfrees.trans (frees_updateReservation hnone fun _ => rfl), hrow, fun _ => hdone⟩

theorem getOrCreateOffer_ok {row : PoolOfferRow} (h : getOrCreateOffer db row = .ok (offer, db')) :
    ∃ offers, db' = { db with offers } := by
  unfold getOrCreateOffer at h
  split at h
  · cases h
    exact ⟨db.offers, rfl⟩
  · obtain ⟨o, -, h⟩ := except_bind_ok.mp h
    cases h
    exact ⟨_, rfl⟩

theorem linkClone_eq (pool offer listing : Nat) (storeListingId : String) (db : Db)
    (product : Nat) :
    ∃ activeOffers, linkClone pool offer listing storeListingId db product
      = { db with activeOffers } := by
  unfold linkClone
  split
  · exact ⟨db.activeOffers, rfl⟩
  · split
    · exact ⟨db.activeOffers, rfl⟩
    · exact ⟨_, rfl⟩

theorem linkClones_eq (pool offer listing : Nat) (storeListingId : String) (products : List Nat)
    (db : Db) :
    ∃ activeOffers, products.foldl (linkClone pool offer listing storeListingId) db
      = { db with activeOffers } := by
  induction products generalizing db with
  | nil => exact ⟨db.activeOffers, rfl⟩
  | cons p products ih =>
    obtain ⟨a, ha⟩ := linkClone_eq pool offer listing storeListingId db p
    obtain ⟨b, hb⟩ := ih { db with activeOffers := a }
    exact ⟨b, by rw [List.foldl_cons, ha, hb]⟩

/-- **What the hook of a successful post does.** -/
theorem finalizeDispatchSuccess_ok {cfg : DispatchConfig} {listing : Nat}
    (h : finalizeDispatchSuccess db cfg listing products = .ok db') :
    Finalizes db cfg.reservationId products db' := by
  obtain ⟨_, -, h⟩ := except_bind_ok.mp h
  obtain ⟨row, -, h⟩ := except_bind_ok.mp h
  obtain ⟨⟨offer, withOffer⟩, hoffer, h⟩ := except_bind_ok.mp h
  obtain ⟨finalized, hfin, hlink⟩ := except_bind_ok.mp h
  obtain ⟨offers, rfl⟩ := getOrCreateOffer_ok hoffer
  have hfin : Finalizes db cfg.reservationId products finalized := by
    unfold finalizeReservation at hfin
    split at hfin
    · rename_i hmissing
      cases hfin
      exact ⟨Frees.of_same rfl rfl rfl, fun _ => Or.inl rfl, fun hexists => absurd hmissing hexists⟩
    · obtain ⟨⟨hnow, hrow, hres⟩, hpushed, hdone⟩ := finalizeReservedItems_ok hfin
      exact ⟨⟨hnow, hrow, hres⟩, hpushed, hdone⟩
  split at hlink
  · obtain ⟨clones, hclones⟩ := linkClones_eq cfg.pool offer listing row.storeListingId products
      finalized
    rw [hclones] at hlink
    cases hlink
    exact ⟨hfin.toFrees.trans (Frees.of_same rfl rfl rfl), hfin.pushed, hfin.done⟩
  · cases hlink
    exact hfin

end Finalize

end Sda
