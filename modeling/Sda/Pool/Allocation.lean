/-
Sda/Pool/Allocation.lean

Concurrency-safe allocation primitives for unified offer pools
(services/pool/allocation.py).

* `claimPendingItems` reserves PENDING items for one PoolOffer: they become
  QUEUED under a fresh claim token, and each gets a durable attempt.
* `markItemPushed` and `markItemFailed` are the two transactions that end a
  claim; `markItemsPushed` is the loop over the candidates of a push.
* `quarantineStaleClaims` reads the stale keys in one query and then fails
  them one transaction at a time.

Each transaction has one specification: what it requires of the row it
locks, the row it leaves, and that every other row is as before.  Later
files use these specifications and never unfold a transaction.

Note what the two closing transactions compare.  `markItemPushed` tests the
status and the PoolOffer of the locked row; `markItemFailed` tests nothing.
Neither receives the claim token its caller was given.
-/
import Sda.Lib.Text
import Sda.Pool.Db

namespace Sda

open Prog

variable {db db' : Db} {k j : Nat} {r : ItemRow}

/-! ### Claiming -/

/-- What a worker holds after a claim: the columns of the Python object, as
they were when it was claimed. -/
structure Claim where
  item : Nat
  pool : Nat
  ownedProduct : Nat
  poolOffer : Nat
  claimToken : Nat
  deriving DecidableEq, Repr

/-- `PoolOffer.can_replenish`. -/
def canReplenish (db : Db) (offer : PoolOffer) : Bool :=
  match db.pools.get? offer.pool with
  | some pool => pool.status == .active && offer.status == .active
  | none => false

/-- `_FINAL_SALE_ORDER_STATUSES`. -/
def isFinalSaleOrderStatus : OrderStatus → Bool
  | .completed | .delivered => true
  | _ => false

/-- Does an order of a final sale status name the product? -/
def hasFinalSaleOrder (db : Db) (product : Nat) : Bool :=
  db.orders.any fun _ o => o.ownedProduct == some product && isFinalSaleOrderStatus o.status

/-- `order_by('order', 'created_at')`. -/
def allocationOrder (a b : Nat × ItemRow) : Prop :=
  a.2.order < b.2.order ∨ (a.2.order = b.2.order ∧ a.2.createdAt ≤ b.2.createdAt)

instance : DecidableRel allocationOrder := fun _ _ =>
  inferInstanceAs (Decidable (_ ∨ (_ ∧ _)))

/-- The PENDING, unassigned items of a pool whose product has no final sale,
in allocation order. -/
def claimableItems (db : Db) (pool : Nat) : List (Nat × ItemRow) :=
  (db.items.table.select fun _ r =>
      r.pool == pool && r.status == .pending && r.poolOffer.isNone &&
        !hasFinalSaleOrder db r.ownedProduct).insertionSort allocationOrder

/-- The row `claim_pending_items` writes. -/
def claimedRow (item : ItemRow) (offer : Nat) (token : Nat) (now : Nat) : ItemRow :=
  { item with
    poolOffer := some offer
    status := .queued
    claimToken := some token
    claimedAt := some now
    failureStage := .blank
    remoteState := .blank
    errorMessage := "" }

/-- The body of the claim loop, for one locked item. -/
def claimItem (db : Db) (offer k : Nat) : Except PyError (Db × Claim) := do
  let item ← getRow (db.item? k)
  let token := db.nextToken
  let saved ← db.saveItem k (claimedRow item offer token db.now)
  return (
    { saved with
      nextToken := token + 1
      attempts := saved.attempts.create
        { idempotencyKey := token, item := k, poolOffer := offer, operation := .push
          status := .inProgress, startedAt := some db.now } },
    ⟨k, item.pool, item.ownedProduct, offer, token⟩)

theorem claimItem_ok {offer : Nat} {c : Claim} (h : claimItem db offer k = .ok (db', c)) :
    (c.item = k ∧ c.poolOffer = offer ∧ c.claimToken = db.nextToken) ∧
      db'.nextToken = db.nextToken + 1 ∧ db'.now = db.now ∧
      db.Rewrites k (claimedRow · offer db.nextToken db.now) db' := by
  obtain ⟨r, hr, h⟩ := except_bind_ok.mp h
  obtain ⟨saved, hs, h⟩ := except_bind_ok.mp h
  have hk := getRow_ok hr
  have hrw := Db.rewrites_of_saveItem (f := (claimedRow · offer db.nextToken db.now)) hk hs
  obtain ⟨items, -, rfl⟩ := Db.saveItem_ok hs
  cases h
  exact ⟨⟨rfl, rfl, rfl⟩, rfl, rfl, hrw⟩

/-- `for item in items`, collecting what the caller receives. -/
def claimItems (db : Db) (offer : Nat) : List Nat → Except PyError (Db × List Claim)
  | [] => return (db, [])
  | k :: ks => do
    let (db, c) ← claimItem db offer k
    let (db, cs) ← claimItems db offer ks
    return (db, c :: cs)

/-- The number of claims `limit` allows under the clone cap. -/
def cappedLimit (db : Db) (offer limit : Nat) (maxActiveOffers : Option Nat) : Nat :=
  match maxActiveOffers with
  | none => limit
  | some cap =>
    -- truncated subtraction is the `max(0, …)` of the source
    let active := db.activeOffers.count fun _ a => a.poolOffer == some offer && a.status == .active
    let queued := db.items.table.count fun _ r => r.poolOffer == some offer && r.status == .queued
    min limit (cap - active - queued)

/-- **`claim_pending_items`**: reserve up to `limit` unassigned items for one
PoolOffer. -/
def claimPendingItems (db : Db) (offer limit : Nat) (maxActiveOffers : Option Nat) :
    Except PyError (Db × List Claim) := do
  if limit = 0 then
    return (db, [])
  let lockedOffer ← getRow (db.offers.get? offer)
  if !canReplenish db lockedOffer then
    return (db, [])
  let items := (claimableItems db lockedOffer.pool).take (cappedLimit db offer limit maxActiveOffers)
  claimItems db offer (items.map Prod.fst)

/-- What a successful claim loop over the keys `ks` leaves: one claim a key,
under fresh tokens; the claimed rows; every other row. -/
structure Claimed (db : Db) (offer : Nat) (ks : List Nat) (db' : Db) (cs : List Claim) : Prop where
  items : cs.map Claim.item = ks
  now : db'.now = db.now
  nextToken : db.nextToken ≤ db'.nextToken
  claim : ∀ c ∈ cs, c.poolOffer = offer ∧ db.nextToken ≤ c.claimToken ∧ c.claimToken < db'.nextToken
  frame : ∀ j, j ∉ ks → db'.item? j = db.item? j
  row : ∀ c ∈ cs, ∃ r, db.item? c.item = some r ∧
    db'.item? c.item = some (claimedRow r offer c.claimToken db.now).keepLiveOwner

theorem claimItems_ok {offer : Nat} {ks : List Nat} {cs : List Claim} (hnd : ks.Nodup)
    (h : claimItems db offer ks = .ok (db', cs)) : Claimed db offer ks db' cs := by
  induction ks generalizing db cs with
  | nil =>
    cases h
    exact ⟨rfl, rfl, Nat.le_refl _, by simp, fun _ _ => rfl, by simp⟩
  | cons k ks ih =>
    obtain ⟨⟨db₁, c⟩, h₁, h⟩ := except_bind_ok.mp h
    obtain ⟨⟨db₂, cs₂⟩, h₂, h⟩ := except_bind_ok.mp h
    cases h
    obtain ⟨hk, hrest⟩ := List.nodup_cons.mp hnd
    obtain ⟨⟨rfl, hoffer, hclaim⟩, htok, hnow, hrw⟩ := claimItem_ok h₁
    have rest := ih hrest h₂
    have hle := rest.nextToken
    -- a key of the rest is not `k`, so its row was not touched by the first claim
    have hne : ∀ c' ∈ cs₂, c'.item ≠ c.item := fun c' hc' e =>
      hk (rest.items ▸ e ▸ List.mem_map_of_mem hc')
    refine ⟨by simp [rest.items], rest.now.trans hnow, by omega, ?_, ?_, ?_⟩
    · intro c' hc'
      rcases List.mem_cons.mp hc' with rfl | hc'
      · exact ⟨hoffer, by omega, by omega⟩
      · obtain ⟨ho, hlo, hhi⟩ := rest.claim c' hc'
        exact ⟨ho, by omega, hhi⟩
    · intro j hj
      obtain ⟨hjk, hj⟩ := not_or.mp (mt List.mem_cons.mpr hj)
      rw [rest.frame j hj, hrw.other hjk]
    · intro c' hc'
      rcases List.mem_cons.mp hc' with rfl | hc'
      · obtain ⟨r, hr, hr'⟩ := hrw.row
        exact ⟨r, hr, by rw [rest.frame _ hk, hr', hclaim]⟩
      · obtain ⟨r', hr', hrow⟩ := rest.row c' hc'
        rw [hrw.other (hne c' hc')] at hr'
        exact ⟨r', hr', by rw [hrow, hnow]⟩

theorem mem_claimableItems {pool : Nat} :
    (k, r) ∈ claimableItems db pool ↔
      db.item? k = some r ∧ r.pool = pool ∧ r.status = .pending ∧ r.poolOffer = none ∧
        hasFinalSaleOrder db r.ownedProduct = false := by
  rw [claimableItems, List.mem_insertionSort, Table.mem_select]
  simp [Db.item?, ItemTable.get?, and_assoc]

theorem claimableItems_nodup {pool : Nat} :
    ((claimableItems db pool).map Prod.fst).Nodup :=
  ((List.perm_insertionSort _ _).map Prod.fst).nodup_iff.mpr Table.select_keys_nodup

theorem cappedLimit_le {offer limit : Nat} {cap : Option Nat} :
    cappedLimit db offer limit cap ≤ limit := by
  unfold cappedLimit
  split
  · exact Nat.le_refl _
  · exact Nat.min_le_left _ _

/-- A claim that succeeds is empty, or it is the loop over the first claimable
items of a PoolOffer that may be replenished. -/
theorem claimPendingItems_cases {offer limit : Nat} {cap : Option Nat} {cs : List Claim}
    (h : claimPendingItems db offer limit cap = .ok (db', cs)) :
    (db' = db ∧ cs = []) ∨
      ∃ lockedOffer, db.offers.get? offer = some lockedOffer ∧
        canReplenish db lockedOffer = true ∧
        claimItems db offer
          (((claimableItems db lockedOffer.pool).take (cappedLimit db offer limit cap)).map
            Prod.fst) = .ok (db', cs) := by
  unfold claimPendingItems at h
  split at h
  · cases h
    exact Or.inl ⟨rfl, rfl⟩
  obtain ⟨lockedOffer, hoffer, h⟩ := except_bind_ok.mp h
  by_cases hrep : canReplenish db lockedOffer
  · simp only [hrep, Bool.not_true, Bool.false_eq_true, if_false] at h
    exact Or.inr ⟨lockedOffer, getRow_ok hoffer, hrep, h⟩
  · simp only [hrep, Bool.not_false, if_true] at h
    cases h
    exact Or.inl ⟨rfl, rfl⟩

theorem take_claimableItems_nodup {pool n : Nat} :
    (((claimableItems db pool).take n).map Prod.fst).Nodup :=
  ((List.take_sublist n _).map Prod.fst).nodup claimableItems_nodup

/-- **What `claim_pending_items` does**: within the capped limit it claims
distinct items that were PENDING, unassigned, and without a final sale. -/
theorem claimPendingItems_ok {offer limit : Nat} {cap : Option Nat} {cs : List Claim}
    (h : claimPendingItems db offer limit cap = .ok (db', cs)) :
    ∃ ks : List Nat, ks.Nodup ∧ ks.length ≤ cappedLimit db offer limit cap ∧
      Claimed db offer ks db' cs ∧
      ∀ k ∈ ks, ∃ r, db.item? k = some r ∧ r.status = .pending ∧ r.poolOffer = none ∧
        hasFinalSaleOrder db r.ownedProduct = false := by
  rcases claimPendingItems_cases h with ⟨rfl, rfl⟩ | ⟨lockedOffer, -, -, hloop⟩
  · exact ⟨[], List.nodup_nil, Nat.zero_le _, claimItems_ok List.nodup_nil rfl, by simp⟩
  · refine ⟨_, take_claimableItems_nodup, ?_, claimItems_ok take_claimableItems_nodup hloop, ?_⟩
    · rw [List.length_map, List.length_take]
      exact Nat.min_le_left _ _
    · intro k hk
      obtain ⟨⟨k, r⟩, hm, rfl⟩ := List.mem_map.mp hk
      obtain ⟨hr, -, hpend, hoff, hsale⟩ := mem_claimableItems.mp (List.mem_of_mem_take hm)
      exact ⟨r, hr, hpend, hoff, hsale⟩

/-- The number of items `claim_pending_items` can choose from. -/
def claimableCount (db : Db) (offer : Nat) : Nat :=
  match db.offers.get? offer with
  | none => 0
  | some lockedOffer =>
    if canReplenish db lockedOffer then (claimableItems db lockedOffer.pool).length else 0

/-- A claim takes no more than its limit, and no more than there is. -/
theorem claimPendingItems_length {offer limit : Nat} {cap : Option Nat} {cs : List Claim}
    (h : claimPendingItems db offer limit cap = .ok (db', cs)) :
    cs.length ≤ min limit (claimableCount db offer) := by
  -- one claim for each item of the loop
  rcases claimPendingItems_cases h with ⟨-, rfl⟩ | ⟨lockedOffer, hoffer, hrep, hloop⟩
  · exact Nat.zero_le _
  · have hitems := (claimItems_ok take_claimableItems_nodup hloop).items
    have hlength : cs.length
        = min (cappedLimit db offer limit cap) (claimableItems db lockedOffer.pool).length := by
      rw [← List.length_map (f := Claim.item), hitems, List.length_map, List.length_take]
    have hcount : claimableCount db offer = (claimableItems db lockedOffer.pool).length := by
      simp only [claimableCount, hoffer]
      exact if_pos hrep
    have hcap : cappedLimit db offer limit cap ≤ limit := cappedLimit_le
    rw [hlength, hcount]
    omega

/-! ### Ending a claim -/

/-- The arguments of `mark_item_failed`. -/
structure Failure where
  errorMessage : String
  failureStage : FailureStage
  remoteState : RemoteState
  retryable : Bool := false
  deriving DecidableEq, Repr

/-- Does this failure return the item to the claimable stock? -/
def Failure.releases (f : Failure) : Bool :=
  f.retryable && f.remoteState == .absent

/-- The row `mark_item_failed` writes. -/
def Failure.row (f : Failure) (locked : ItemRow) : ItemRow :=
  { locked with
    status := if f.releases then .pending else .failed
    poolOffer := if f.releases then none else locked.poolOffer
    claimToken := none
    claimedAt := none
    failureStage := f.failureStage
    remoteState := f.remoteState
    errorMessage := takeChars 2000 f.errorMessage }

/-- The attempt of a claim, after `mark_item_failed`. -/
def Failure.attempt (f : Failure) (now : Nat) (a : PoolDispatchAttempt) : PoolDispatchAttempt :=
  { a with
    status := if f.remoteState = .unknown then .unknown else .failed
    errorCode := takeChars 64 f.failureStage.text
    errorMessage := takeChars 2000 f.errorMessage
    finishedAt := some now }

/-- Update the attempt of a token, when there is a token. -/
def updateAttempts (db : Db) (token : Option Nat)
    (f : PoolDispatchAttempt → PoolDispatchAttempt) : Db :=
  match token with
  | none => db
  | some t => { db with attempts := db.attempts.updateWhere (fun _ a => a.idempotencyKey == t) f }

/-- **`mark_item_failed`**: finish a failed claim. -/
def markItemFailed (db : Db) (k : Nat) (f : Failure) : Except PyError Db := do
  let locked ← getRow (db.item? k)
  let saved ← db.saveItem k (f.row locked)
  return updateAttempts saved locked.claimToken (f.attempt db.now)

theorem updateAttempts_eq (db : Db) (token : Option Nat)
    (f : PoolDispatchAttempt → PoolDispatchAttempt) :
    ∃ attempts, updateAttempts db token f = { db with attempts } := by
  cases token with
  | none => exact ⟨db.attempts, rfl⟩
  | some t => exact ⟨_, rfl⟩

@[simp] theorem item?_updateAttempts (token : Option Nat)
    (f : PoolDispatchAttempt → PoolDispatchAttempt) :
    (updateAttempts db token f).item? k = db.item? k := by
  obtain ⟨attempts, h⟩ := updateAttempts_eq db token f
  rw [h]
  rfl

/-- **What `mark_item_failed` does**: whatever state the row is in, it becomes
the failed row; no other row changes. -/
theorem markItemFailed_ok {f : Failure} (h : markItemFailed db k f = .ok db') :
    (∃ items attempts, db' = { db with items, attempts }) ∧ db.Rewrites k f.row db' := by
  obtain ⟨r, hr, h⟩ := except_bind_ok.mp h
  obtain ⟨saved, hs, h⟩ := except_bind_ok.mp h
  have hk := getRow_ok hr
  have hrows := fun j => Db.item?_saveItem (j := j) hs hk
  obtain ⟨items, -, rfl⟩ := Db.saveItem_ok hs
  obtain ⟨attempts, ha⟩ := updateAttempts_eq { db with items } r.claimToken (f.attempt db.now)
  cases h
  refine ⟨⟨items, attempts, ha⟩, r, hk, fun j => ?_⟩
  rw [item?_updateAttempts, hrows]

/-- The row `mark_items_pushed` writes. -/
def pushedRow (item : ItemRow) (now : Nat) (remoteOfferId remoteCredentialId : String) : ItemRow :=
  { item with
    status := .pushed
    pushedAt := some now
    targetOfferId := remoteOfferId
    remoteCredentialId := remoteCredentialId
    claimToken := none
    claimedAt := none
    failureStage := .blank
    remoteState := .present
    errorMessage := "" }

/-- The test under which `mark_items_pushed` skips a candidate. -/
def pushSkips (item : ItemRow) (poolOffer : Nat) : Bool :=
  item.status != .queued || item.poolOffer != some poolOffer || item.claimToken.isNone

/-- The transaction of `mark_items_pushed` for one candidate; the count is 1
when the item was pushed. -/
def markItemPushed (db : Db) (k poolOffer : Nat) (remoteOfferId remoteCredentialId : String) :
    Except PyError (Nat × Db) := do
  let item ← getRow (db.item? k)
  if pushSkips item poolOffer then
    return (0, db)
  let saved ← db.saveItem k (pushedRow item db.now remoteOfferId remoteCredentialId)
  return (1, updateAttempts saved item.claimToken fun a =>
    { a with
      status := .succeeded
      remoteOfferId := remoteOfferId
      remoteCredentialId := remoteCredentialId
      finishedAt := some db.now })

/-- **What `mark_items_pushed` does to one candidate**: nothing, or the row is
QUEUED for this PoolOffer under some token and becomes PUSHED. -/
theorem markItemPushed_ok {offer n : Nat} {remoteOfferId credId : String}
    (h : markItemPushed db k offer remoteOfferId credId = .ok (n, db')) :
    (∃ items attempts, db' = { db with items, attempts }) ∧
      ∃ r, db.item? k = some r ∧
        if pushSkips r offer then n = 0 ∧ db' = db
        else n = 1 ∧ db.Rewrites k (pushedRow · db.now remoteOfferId credId) db' := by
  obtain ⟨r, hr, h⟩ := except_bind_ok.mp h
  have hk := getRow_ok hr
  by_cases hskip : pushSkips r offer
  · rw [if_pos hskip] at h
    cases h
    exact ⟨⟨db.items, db.attempts, rfl⟩, r, hk, by simp [hskip]⟩
  · rw [if_neg hskip] at h
    obtain ⟨saved, hs, h⟩ := except_bind_ok.mp h
    have hrows := fun j => Db.item?_saveItem (j := j) hs hk
    obtain ⟨items, -, rfl⟩ := Db.saveItem_ok hs
    obtain ⟨attempts, ha⟩ := updateAttempts_eq { db with items } r.claimToken fun a =>
      { a with
        status := .succeeded
        remoteOfferId := remoteOfferId
        remoteCredentialId := credId
        finishedAt := some db.now }
    cases h
    refine ⟨⟨items, attempts, ha⟩, r, hk, ?_⟩
    rw [if_neg hskip]
    refine ⟨rfl, r, hk, fun j => ?_⟩
    rw [item?_updateAttempts, hrows]

theorem not_pushSkips_iff {offer : Nat} :
    pushSkips r offer = false ↔
      r.status = .queued ∧ r.poolOffer = some offer ∧ ∃ t, r.claimToken = some t := by
  rcases h : r.claimToken with - | t <;> simp [pushSkips, h]

/-- **`mark_items_pushed`**: finalize successfully pushed claims, one
transaction a candidate; the count of those pushed. -/
def markItemsPushed (items : List Nat) (poolOffer : Nat) (remoteOfferId : String)
    (remoteCredentialIds : Nat → String) : Prog PyError Db Nat :=
  match items with
  | [] => pure 0
  | k :: ks => do
    let n ← atomic fun db => markItemPushed db k poolOffer remoteOfferId (remoteCredentialIds k)
    let m ← markItemsPushed ks poolOffer remoteOfferId remoteCredentialIds
    pure (n + m)

/-- The failure `release_claims_as_pending` reports for every item. -/
def releaseFailure (reason : String) : Failure where
  errorMessage := reason
  failureStage := .knownSafeFailure
  remoteState := .absent
  retryable := true

/-- **`release_claims_as_pending`**. -/
def releaseClaimsAsPending (items : List Nat) (reason : String) : Prog PyError Db Unit :=
  each items fun k => atomically fun db => markItemFailed db k (releaseFailure reason)

/-! ### Stale claims -/

/-- The default `max_age` of `quarantine_stale_claims`: fifteen minutes. -/
def claimMaxAge : Nat := 900

/-- The keys `quarantine_stale_claims` reads: QUEUED items claimed before the
cutoff. -/
def staleClaimIds (db : Db) (maxAge : Nat) : List Nat :=
  (db.items.table.select fun _ r =>
    r.status == .queued &&
      match r.claimedAt with
      | some t => t + maxAge < db.now
      | none => false).map Prod.fst

/-- The failure `quarantine_stale_claims` reports. -/
def staleClaimFailure : Failure where
  errorMessage := "Dispatch claim expired before completion"
  failureStage := .staleClaim
  remoteState := .unknown

/-- **`quarantine_stale_claims`**: move abandoned QUEUED claims to
FAILED/unknown. -/
def quarantineStaleClaims (maxAge : Nat) : Prog PyError Db Nat := do
  let db ← get
  let staleIds := staleClaimIds db maxAge
  each staleIds fun k => atomically fun db => markItemFailed db k staleClaimFailure
  pure staleIds.length

/-! ### Settling -/

/-- Each row is as before, or it is not QUEUED any more: what every transaction
but a claim does. -/
def Settles (db db' : Db) : Prop :=
  ∀ k, db'.item? k = db.item? k ∨ ∃ r, db'.item? k = some r ∧ r.status ≠ .queued

theorem Settles.refl (db : Db) : Settles db db := fun _ => Or.inl rfl

theorem settles_of_rewrites {db db' : Db} {k : Nat} {f : ItemRow → ItemRow}
    (h : db.Rewrites k f db') (hf : ∀ r, (f r).status ≠ .queued) : Settles db db' := by
  intro j
  rcases h.cases j with hsame | ⟨rfl, r, -, hrow⟩
  · exact Or.inl hsame
  · exact Or.inr ⟨_, hrow, by simpa using hf r⟩

theorem Settles.trans {db₁ db₂ db₃ : Db} (h₁ : Settles db₁ db₂) (h₂ : Settles db₂ db₃) :
    Settles db₁ db₃ := by
  intro k
  rcases h₂ k with hsame | hleft
  · rw [hsame]
    exact h₁ k
  · exact Or.inr hleft

theorem Failure.row_status_ne_queued (f : Failure) (r : ItemRow) : (f.row r).status ≠ .queued := by
  show (if f.releases then OfferPoolItemStatus.pending else .failed) ≠ .queued
  split <;> simp

theorem settles_markItemFailed {db db' : Db} {k : Nat} {f : Failure}
    (h : markItemFailed db k f = .ok db') : Settles db db' :=
  settles_of_rewrites (markItemFailed_ok h).2 f.row_status_ne_queued

theorem settles_markItemPushed {db db' : Db} {k offer n : Nat} {remoteOfferId credId : String}
    (h : markItemPushed db k offer remoteOfferId credId = .ok (n, db')) : Settles db db' := by
  obtain ⟨-, r, -, hcase⟩ := markItemPushed_ok h
  split at hcase
  · rw [hcase.2]
    exact Settles.refl db
  · exact settles_of_rewrites hcase.2 fun _ => by simp [pushedRow]

end Sda
