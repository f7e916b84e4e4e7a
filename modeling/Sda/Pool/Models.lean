/-
Sda/Pool/Models.lean

The tables of the offer-pool subsystem (apps/posting/models.py) and the rows
of the neighbouring apps the pool services read.

`OfferPoolItem` is the row every service competes for.  Its database
constraints are not comments here: `ItemTable` is a table of `ItemRow`s
together with the proof `Valid` that each row meets the five `CHECK`
constraints and that the three unique constraints hold.  A statement that
would break one of them has no resulting table; it raises
`PyError.integrityError`, as the database does, and the enclosing
transaction is rolled back.

Two ways to write an item are kept apart, as in the source:

* `ItemTable.save` is `OfferPoolItem.save`: one row, with the hook that
  re-asserts `live_owned_product` on every row that is not REMOVED;
* `ItemTable.update` is a queryset `update`: many rows, no hook.

Time is a number of seconds; a UUID is a number drawn from the counter
`Db.nextToken`, so two draws never agree.  The texts of database errors are
not modelled.
-/
import Sda.Lib.Table

namespace Sda

/-! ### Errors -/

/-- Exceptions the services raise or let through. -/
inductive PyError
  | doesNotExist
  | integrityError
  | valueError (message : String)
  | poolDispatchConflict (message : String)
  /-- Anything a client library, a formatter or a driver raises. -/
  | other (message : String)
  deriving DecidableEq, Repr

/-- `str(exc)`. -/
def PyError.str : PyError → String
  | .doesNotExist => "matching query does not exist."
  | .integrityError => "IntegrityError"
  | .valueError m => m
  | .poolDispatchConflict m => m
  | .other m => m

/-! ### Enumerated columns -/

inductive OfferPoolStatus
  | active | paused | archived | depleted
  deriving DecidableEq, Repr

inductive PoolOfferStatus
  | active | paused | detached | error
  deriving DecidableEq, Repr

inductive PoolOfferStrategy
  | append | clone
  deriving DecidableEq, Repr

inductive OfferPoolItemStatus
  | pending | reserved | queued | pushed | failed | consumed | removed
  deriving DecidableEq, Repr

inductive OfferPoolActiveOfferStatus
  | active | sold | failed | delisted
  deriving DecidableEq, Repr

inductive PoolDispatchOperation
  | push | remove | reconcile
  deriving DecidableEq, Repr

inductive PoolDispatchStatus
  | pending | inProgress | succeeded | failed | unknown | rolledBack
  deriving DecidableEq, Repr

inductive PoolDispatchReservationStatus
  | active | finalized | released | failed
  deriving DecidableEq, Repr

inductive OrderStatus
  | pending | delivered | completed | refunded | disputed | disputeResolved | cancelled
  deriving DecidableEq, Repr

inductive OwnedProductStatus
  | draft | listed | sold | multipleSold | replaced | recovered | lost | banned
  deriving DecidableEq, Repr

inductive PostingJobStatus
  | pending | running | completed | failed | cancelled
  deriving DecidableEq, Repr

/-- The values the services write to `remote_state`. -/
inductive RemoteState
  | blank | present | absent | unknown | sold
  deriving DecidableEq, Repr

/-- The values the pool services write to `failure_stage`. -/
inductive FailureStage
  | blank | format | template | remotePush | postPushReconcile | responseParse
  | knownSafeFailure | staleClaim | dispatchRelease | dispatchUnknown | paRemoteMissing
  | remoteDeleteReconciliation | remoteRemoveUnconfirmed | manualReturnRemoteUnknown
  | marketplaceOrderHold
  deriving DecidableEq, Repr

/-- The column text of a failure stage. -/
def FailureStage.text : FailureStage → String
  | .blank => ""
  | .format => "format"
  | .template => "template"
  | .remotePush => "remote_push"
  | .postPushReconcile => "post_push_reconcile"
  | .responseParse => "response_parse"
  | .knownSafeFailure => "known_safe_failure"
  | .staleClaim => "stale_claim"
  | .dispatchRelease => "dispatch_release"
  | .dispatchUnknown => "dispatch_unknown"
  | .paRemoteMissing => "pa_remote_missing"
  | .remoteDeleteReconciliation => "remote_delete_reconciliation"
  | .remoteRemoveUnconfirmed => "remote_remove_unconfirmed"
  | .manualReturnRemoteUnknown => "manual_return_remote_unknown"
  | .marketplaceOrderHold => "marketplace_order_hold"

/-- No stage is cut by the `[:30]` of `mark_item_failed`. -/
theorem FailureStage.text_length_le (s : FailureStage) : s.text.length ≤ 30 := by
  cases s <;> decide

/-! ### Offer pool items -/

/-- The columns of `offer_pool_items`. -/
structure ItemRow where
  pool : Nat
  ownedProduct : Nat
  liveOwnedProduct : Option Nat := none
  poolOffer : Option Nat := none
  reservation : Option Nat := none
  status : OfferPoolItemStatus := .pending
  pushedAt : Option Nat := none
  consumedAt : Option Nat := none
  errorMessage : String := ""
  targetOfferId : String := ""
  order : Nat := 0
  remoteCredentialId : String := ""
  claimToken : Option Nat := none
  claimedAt : Option Nat := none
  failureStage : FailureStage := .blank
  remoteState : RemoteState := .blank
  createdAt : Nat := 0
  deriving DecidableEq, Repr

namespace ItemRow

/-- The `CHECK` constraints of `OfferPoolItem.Meta`, under their names. -/
structure Checks (r : ItemRow) : Prop where
  pending_item_unassigned :
    r.status = .pending → r.poolOffer = none ∧ r.reservation = none
  reserved_item_no_pool_offer : r.status = .reserved → r.poolOffer = none
  reserved_item_has_reservation : r.status = .reserved → r.reservation ≠ none
  assigned_pool_item_has_offer :
    r.status = .queued ∨ r.status = .pushed ∨ r.status = .consumed → r.poolOffer ≠ none
  queued_pool_item_has_claim : r.status = .queued → r.claimToken ≠ none

instance (r : ItemRow) : Decidable r.Checks :=
  decidable_of_iff
    ((r.status = .pending → r.poolOffer = none ∧ r.reservation = none) ∧
      (r.status = .reserved → r.poolOffer = none) ∧
      (r.status = .reserved → r.reservation ≠ none) ∧
      (r.status = .queued ∨ r.status = .pushed ∨ r.status = .consumed → r.poolOffer ≠ none) ∧
      (r.status = .queued → r.claimToken ≠ none))
    ⟨fun ⟨a, b, c, d, e⟩ => ⟨a, b, c, d, e⟩, fun ⟨a, b, c, d, e⟩ => ⟨a, b, c, d, e⟩⟩

/-- The hook of `OfferPoolItem.save`: a row that is not REMOVED owns its
product exclusively. -/
def keepLiveOwner (r : ItemRow) : ItemRow :=
  if r.status ≠ .removed then { r with liveOwnedProduct := some r.ownedProduct } else r

@[simp] theorem keepLiveOwner_status (r : ItemRow) : r.keepLiveOwner.status = r.status := by
  unfold keepLiveOwner; split <;> rfl

@[simp] theorem keepLiveOwner_pool (r : ItemRow) : r.keepLiveOwner.pool = r.pool := by
  unfold keepLiveOwner; split <;> rfl

@[simp] theorem keepLiveOwner_ownedProduct (r : ItemRow) :
    r.keepLiveOwner.ownedProduct = r.ownedProduct := by
  unfold keepLiveOwner; split <;> rfl

@[simp] theorem keepLiveOwner_poolOffer (r : ItemRow) :
    r.keepLiveOwner.poolOffer = r.poolOffer := by
  unfold keepLiveOwner; split <;> rfl

@[simp] theorem keepLiveOwner_reservation (r : ItemRow) :
    r.keepLiveOwner.reservation = r.reservation := by
  unfold keepLiveOwner; split <;> rfl

@[simp] theorem keepLiveOwner_claimToken (r : ItemRow) :
    r.keepLiveOwner.claimToken = r.claimToken := by
  unfold keepLiveOwner; split <;> rfl

@[simp] theorem keepLiveOwner_claimedAt (r : ItemRow) :
    r.keepLiveOwner.claimedAt = r.claimedAt := by
  unfold keepLiveOwner; split <;> rfl

@[simp] theorem keepLiveOwner_remoteState (r : ItemRow) :
    r.keepLiveOwner.remoteState = r.remoteState := by
  unfold keepLiveOwner; split <;> rfl

theorem keepLiveOwner_live {r : ItemRow} (h : r.status ≠ .removed) :
    r.keepLiveOwner.liveOwnedProduct = some r.ownedProduct := by
  rw [keepLiveOwner, if_pos h]

theorem Checks.keepLiveOwner {r : ItemRow} (h : r.Checks) : r.keepLiveOwner.Checks := by
  constructor <;> simp only [keepLiveOwner_status, keepLiveOwner_poolOffer,
    keepLiveOwner_reservation, keepLiveOwner_claimToken]
  · exact h.pending_item_unassigned
  · exact h.reserved_item_no_pool_offer
  · exact h.reserved_item_has_reservation
  · exact h.assigned_pool_item_has_offer
  · exact h.queued_pool_item_has_claim

theorem checks_keepLiveOwner {r : ItemRow} : r.keepLiveOwner.Checks ↔ r.Checks := by
  refine ⟨fun h => ?_, Checks.keepLiveOwner⟩
  constructor
  · simpa using h.pending_item_unassigned
  · simpa using h.reserved_item_no_pool_offer
  · simpa using h.reserved_item_has_reservation
  · simpa using h.assigned_pool_item_has_offer
  · simpa using h.queued_pool_item_has_claim

end ItemRow

/-- The constraints of `offer_pool_items` on a whole table. -/
structure Valid (t : Table ItemRow) : Prop where
  checks : ∀ r ∈ t.rows, r.2.Checks
  unique_pool_owned_product : (t.rows.map fun r => (r.2.pool, r.2.ownedProduct)).Nodup
  unique_live_owned_product_across_pools : (t.rows.filterMap fun r => r.2.liveOwnedProduct).Nodup
  unique_claim_token : (t.rows.filterMap fun r => r.2.claimToken).Nodup

instance (t : Table ItemRow) : Decidable (Valid t) :=
  decidable_of_iff
    ((∀ r ∈ t.rows, r.2.Checks) ∧
      (t.rows.map fun r => (r.2.pool, r.2.ownedProduct)).Nodup ∧
      (t.rows.filterMap fun r => r.2.liveOwnedProduct).Nodup ∧
      (t.rows.filterMap fun r => r.2.claimToken).Nodup)
    ⟨fun ⟨a, b, c, d⟩ => ⟨a, b, c, d⟩, fun ⟨a, b, c, d⟩ => ⟨a, b, c, d⟩⟩

theorem filterMap_sublist {α β : Type*} {f g : α → Option β} {xs : List α}
    (h : ∀ x ∈ xs, g x = none ∨ g x = f x) : (xs.filterMap g).Sublist (xs.filterMap f) := by
  induction xs with
  | nil => exact List.Sublist.refl _
  | cons x xs ih =>
    have ih := ih fun y hy => h y (List.mem_cons_of_mem x hy)
    rw [List.filterMap_cons, List.filterMap_cons]
    rcases h x List.mem_cons_self with hx | hx
    · rw [hx]
      rcases f x with - | b
      · exact ih
      · exact ih.cons b
    · rw [hx]
      rcases f x with - | b
      · exact ih
      · exact ih.cons_cons b

/-- Rewriting rows keeps the constraints when each new row passes its checks,
stays with its pool, product and live owner, and draws no new token. -/
theorem Valid.mapRows {t : Table ItemRow} (ht : Valid t) {f : Nat → ItemRow → ItemRow}
    (h : ∀ r ∈ t.rows, (f r.1 r.2).Checks ∧ (f r.1 r.2).pool = r.2.pool ∧
      (f r.1 r.2).ownedProduct = r.2.ownedProduct ∧
      (f r.1 r.2).liveOwnedProduct = r.2.liveOwnedProduct ∧
      ((f r.1 r.2).claimToken = none ∨ (f r.1 r.2).claimToken = r.2.claimToken)) :
    Valid (t.mapRows f) where
  checks := by
    intro r hr
    obtain ⟨r₀, hr₀, rfl⟩ := List.mem_map.mp hr
    exact (h r₀ hr₀).1
  unique_pool_owned_product := by
    have : (t.mapRows f).rows.map (fun r => (r.2.pool, r.2.ownedProduct))
        = t.rows.map fun r => (r.2.pool, r.2.ownedProduct) := by
      rw [Table.mapRows, List.map_map]
      refine List.map_congr_left fun r hr => ?_
      obtain ⟨-, hp, ho, -, -⟩ := h r hr
      simp [hp, ho]
    rw [this]
    exact ht.unique_pool_owned_product
  unique_live_owned_product_across_pools := by
    have : (t.mapRows f).rows.filterMap (fun r => r.2.liveOwnedProduct)
        = t.rows.filterMap fun r => r.2.liveOwnedProduct := by
      rw [Table.mapRows, List.filterMap_map]
      refine List.filterMap_congr fun r hr => ?_
      exact (h r hr).2.2.2.1
    rw [this]
    exact ht.unique_live_owned_product_across_pools
  unique_claim_token := by
    rw [Table.mapRows, List.filterMap_map]
    refine ht.unique_claim_token.sublist (filterMap_sublist fun r hr => ?_)
    exact (h r hr).2.2.2.2

/-- Replacing the row of one key keeps the constraints when the new row passes
its checks, stays with its pool and product, draws no new token, and no other
row owns what it owns. -/
theorem Valid.set {t : Table ItemRow} (ht : Valid t) {k : Nat} {row r₀ : ItemRow}
    (hk : t.get? k = some r₀) (hpool : row.pool = r₀.pool)
    (howned : row.ownedProduct = r₀.ownedProduct)
    (htok : row.claimToken = none ∨ row.claimToken = r₀.claimToken) (hchecks : row.Checks)
    (hfree : ∀ j r x, j ≠ k → t.get? j = some r → r.liveOwnedProduct = some x →
      row.liveOwnedProduct ≠ some x) :
    Valid (t.set k row) := by
  have hset : ∀ j, (t.set k row).get? j = if j = k then some row else t.get? j :=
    fun j => Table.get?_set hk
  have hrows : ∀ r ∈ t.rows, r.1 = k → r.2 = r₀ := by
    rintro ⟨j, r⟩ hr rfl
    exact Option.some.inj ((Table.get?_eq_some_iff.mpr hr).symm.trans hk)
  constructor
  · -- the saved row passes, the others did before
    rintro ⟨j, r⟩ hr
    have hget := (hset j).symm.trans (Table.get?_eq_some_iff.mpr hr)
    by_cases hj : j = k
    · rw [if_pos hj] at hget
      cases hget
      exact hchecks
    · rw [if_neg hj] at hget
      exact ht.checks (j, r) (Table.get?_eq_some_iff.mp hget)
  · have hsame : (t.set k row).rows.map
        (fun r => (r.2.pool, r.2.ownedProduct))
        = t.rows.map fun r => (r.2.pool, r.2.ownedProduct) := by
      rw [Table.set, Table.mapRows, List.map_map]
      apply List.map_congr_left
      intro r hr
      by_cases hj : r.1 = k
      · simp [hj, hrows r hr hj, hpool, howned]
      · simp [hj]
    rw [hsame]
    exact ht.unique_pool_owned_product
  · -- the product of the saved row is owned by no other row
    rw [Table.nodup_filterMap_iff]
    intro i j a b x hi hj ha hb
    rw [hset] at hi hj
    by_cases hik : i = k <;> by_cases hjk : j = k
    · rw [hik, hjk]
    · rw [if_pos hik] at hi
      rw [if_neg hjk] at hj
      cases hi
      exact absurd ha (hfree j b x hjk hj hb)
    · rw [if_neg hik] at hi
      rw [if_pos hjk] at hj
      cases hj
      exact absurd hb (hfree i a x hik hi ha)
    · rw [if_neg hik] at hi
      rw [if_neg hjk] at hj
      exact Table.nodup_filterMap_iff.mp ht.unique_live_owned_product_across_pools
        i j a b x hi hj ha hb
  · rw [Table.set, Table.mapRows, List.filterMap_map]
    refine ht.unique_claim_token.sublist (filterMap_sublist fun r hr => ?_)
    by_cases hj : r.1 = k
    · simpa [hj, hrows r hr hj] using htok
    · simp [hj]

/-- `offer_pool_items`: rows that meet the constraints of the table. -/
structure ItemTable where
  table : Table ItemRow
  valid : Valid table

namespace ItemTable

variable {items items' : ItemTable} {k j : Nat} {row r₀ r : ItemRow}

def get? (items : ItemTable) (k : Nat) : Option ItemRow :=
  items.table.get? k

/-- A statement that leaves `t`: accepted when the constraints hold. -/
def commit (t : Table ItemRow) : Except PyError ItemTable :=
  if h : Valid t then .ok ⟨t, h⟩ else .error .integrityError

/-- `OfferPoolItem.save` on the row of key `k`. -/
def save (items : ItemTable) (k : Nat) (row : ItemRow) : Except PyError ItemTable :=
  commit (items.table.set k row.keepLiveOwner)

/-- `OfferPoolItem.objects.filter(p).update(f)`. -/
def update (items : ItemTable) (p : Nat → ItemRow → Bool) (f : ItemRow → ItemRow) :
    Except PyError ItemTable :=
  commit (items.table.updateWhere p f)

theorem commit_ok {t : Table ItemRow} (h : commit t = .ok items) : items.table = t := by
  unfold commit at h
  split at h
  · cases h; rfl
  · cases h

theorem commit_of_valid {t : Table ItemRow} (h : Valid t) : commit t = .ok ⟨t, h⟩ :=
  dif_pos h

/-- The rows of a table of items meet the `CHECK` constraints. -/
theorem checks (items : ItemTable) (h : items.get? k = some r) : r.Checks :=
  items.valid.checks (k, r) (Table.get?_eq_some_iff.mp h)

/-- **What `save` does**: it replaces the row, the live owner re-asserted, and
touches no other row. -/
theorem get?_save (h : items.save k row = .ok items') (hk : items.get? k = some r₀) :
    items'.get? j = if j = k then some row.keepLiveOwner else items.get? j := by
  have hrow : (items.table.set k row.keepLiveOwner).get? j
      = if j = k then some row.keepLiveOwner else items.table.get? j := Table.get?_set hk
  rw [get?, commit_ok h, hrow, get?]

/-- **When `save` goes through**: a save that keeps pool and product, and
releases or keeps the claim token, succeeds exactly when the new row passes its
checks and no other row owns the product. -/
theorem save_iff (hk : items.get? k = some r₀) (hpool : row.pool = r₀.pool)
    (howned : row.ownedProduct = r₀.ownedProduct)
    (htok : row.claimToken = none ∨ row.claimToken = r₀.claimToken)
    (hremoved : row.status ≠ .removed) :
    (∃ items', items.save k row = .ok items') ↔
      row.Checks ∧
        ∀ j r, j ≠ k → items.get? j = some r → r.liveOwnedProduct ≠ some r₀.ownedProduct := by
  have hlive : row.keepLiveOwner.liveOwnedProduct = some r₀.ownedProduct := by
    rw [ItemRow.keepLiveOwner_live hremoved, howned]
  constructor
  · rintro ⟨items', h⟩
    have hvalid : Valid (items.table.set k row.keepLiveOwner) := commit_ok h ▸ items'.valid
    have hself : (items.table.set k row.keepLiveOwner).get? k = some row.keepLiveOwner :=
      Table.get?_set_self hk
    constructor
    · exact ItemRow.checks_keepLiveOwner.mp (hvalid.checks _ (Table.get?_eq_some_iff.mp hself))
    · intro j r hj hr hown
      have hr' : (items.table.set k row.keepLiveOwner).get? j = some r :=
        (Table.get?_set_ne hj).trans hr
      exact hj (Table.nodup_filterMap_iff.mp hvalid.unique_live_owned_product_across_pools
        j k _ _ _ hr' hself hown hlive)
  · rintro ⟨hchecks, hfree⟩
    refine ⟨_, commit_of_valid (items.valid.set hk ?_ ?_ ?_ hchecks.keepLiveOwner ?_)⟩
    · simpa using hpool
    · simpa using howned
    · simpa using htok
    · intro j r x hj hr hown
      rw [hlive, ← hown]
      exact (hfree j r hj hr).symm

/-- Such a save goes through on a row that owns its product. -/
theorem save_succeeds (hk : items.get? k = some r₀) (hpool : row.pool = r₀.pool)
    (howned : row.ownedProduct = r₀.ownedProduct)
    (hlive : r₀.liveOwnedProduct = some r₀.ownedProduct)
    (htok : row.claimToken = none ∨ row.claimToken = r₀.claimToken)
    (hremoved : row.status ≠ .removed) (hchecks : row.Checks) :
    ∃ items', items.save k row = .ok items' := by
  refine (save_iff hk hpool howned htok hremoved).mpr ⟨hchecks, fun j r hj hr hown => hj ?_⟩
  exact Table.nodup_filterMap_iff.mp items.valid.unique_live_owned_product_across_pools
    j k _ _ _ hr hk hown hlive

/-- **What a bulk update does**: it rewrites the rows selected. -/
theorem get?_update {p : Nat → ItemRow → Bool} {f : ItemRow → ItemRow}
    (h : items.update p f = .ok items') :
    items'.get? j = (items.get? j).map fun r => if p j r then f r else r := by
  rw [get?, commit_ok h, Table.get?_updateWhere, get?]

end ItemTable

end Sda
