/-
Sda/Pool/Sales.lean

The reactive sale path (services/pool/checker.py): `notify_sale`,
`_record_sale_event` and `_consume_sold_pool_item`.

A notification visits the append offers of the listing and then its clones.
Each visit is one transaction that is deduplicated by an event key:

* an event under the key exists: missing references of the event are filled
  and nothing else happens;
* otherwise the event is created, the clone becomes SOLD, the lane counter
  goes down, and the item of the sale becomes CONSUMED.

An exception of a visit is logged; its transaction is rolled back and the
loop goes on.  `notifySale` is the whole call, with the replenishments it
starts; `saleStep` interleaves notifications with arbitrary other writes (the
order's product link, recovery, claims, …).

Main results:

* `records_iff` — exactly when one visit leaves the sale recorded: an event
  of the order references the item, and the item is CONSUMED or REMOVED;
* `sale_recording` — in every sequence of notifications and other writes
  whose visits meet that condition, every item a notification identifies is
  recorded when `notify_sale` returns;
* `sale_recording_fails` — the two ways it goes wrong: the order's link set
  after the first notification, and a DELISTED clone whose item went back to
  PENDING (the `CHECK` constraint rolls the visit back).

Columns that only report (`last_checked_at`, log lines) are left out.
-/
import Sda.Pool.ClaimEnds

namespace Sda

/-! ### Notifications -/

/-- The arguments of `notify_sale`; a missing event key is the empty text. -/
structure SaleNotification where
  listing : Nat
  eventKey : String := ""
  orderId : Option Nat := none
  allowReplenish : Bool := true
  allowFailedExactCloneSale : Bool := false
  deriving DecidableEq, Repr

/-- `base_event_key`. -/
def SaleNotification.baseEventKey (n : SaleNotification) (now : Nat) : String :=
  if n.eventKey = "" then "legacy-listing:" ++ toString n.listing ++ ":" ++ toString now
  else n.eventKey

/-- The clone statuses a notification accepts: ACTIVE; DELISTED with an order;
FAILED with an order and the explicit opt-in. -/
def SaleNotification.accepts (n : SaleNotification) : OfferPoolActiveOfferStatus → Bool
  | .active => true
  | .delisted => n.orderId.isSome
  | .failed => n.allowFailedExactCloneSale && n.orderId.isSome
  | .sold => false

/-- One visit of a notification. -/
structure SaleTarget where
  poolOffer : Nat
  eventKey : String
  /-- The clone and its item, as read by the query. -/
  activeOffer : Option (Nat × Option Nat) := none
  deriving DecidableEq, Repr

/-- The append offers of the listing. -/
def offerTargets (n : SaleNotification) (base : String) (db : Db) : List SaleTarget :=
  (db.offers.select fun _ o =>
      o.listing == n.listing && o.strategy == .append && o.status != .detached).map fun r =>
    { poolOffer := r.1, eventKey := base ++ ":offer:" ++ toString r.1 }

/-- The clones of the listing. -/
def cloneTargets (n : SaleNotification) (base : String) (db : Db) : List SaleTarget :=
  (db.activeOffers.select fun _ a => a.listing == some n.listing && n.accepts a.status).filterMap
    fun r => r.2.poolOffer.map fun offer =>
      { poolOffer := offer
        eventKey := base ++ ":active-offer:" ++ toString r.1
        activeOffer := some (r.1, r.2.poolItem) }

/-! ### One visit -/

section Visit

-- `hashlib.sha256(….encode()).hexdigest()`
variable (sha256 : String → String)

/-- The stored event key: the column holds 255 characters. -/
def saleEventKey (key : String) : String :=
  if 255 < key.length then takeChars 180 key ++ ":" ++ sha256 key else key

/-- The item of the lane whose product the order names. -/
def orderItem (db : Db) (offer : Nat) (orderId : Option Nat) : Option Nat := do
  let order ← orderId.bind db.orders.get?
  let product ← order.ownedProduct
  let item ← ((db.items.table.select fun _ r =>
    r.poolOffer == some offer && r.ownedProduct == product).insertionSort allocationOrder).head?
  return item.1

/-- `pool_item_id`: the item of the clone, else the item of the order. -/
def soldItem (db : Db) (n : SaleNotification) (t : SaleTarget) : Option Nat :=
  match t.activeOffer.bind Prod.snd with
  | some k => some k
  | none => orderItem db t.poolOffer n.orderId

/-- The event stored under the key of a visit. -/
def saleEvent? (db : Db) (t : SaleTarget) : Option (Nat × PoolSaleEvent) :=
  (db.saleEvents.select fun _ e => e.eventKey == saleEventKey sha256 t.eventKey).head?

/-- A retry fills the references that are missing. -/
def fillSaleEvent (e : PoolSaleEvent) (orderId item : Option Nat) : PoolSaleEvent :=
  { e with orderId := e.orderId <|> orderId, poolItem := e.poolItem <|> item }

/-- Does the locked clone still accept the sale? -/
def cloneAccepts (db : Db) (n : SaleNotification) (t : SaleTarget) : Except PyError Bool :=
  match t.activeOffer with
  | none => return true
  | some (a, _) => do
    let locked ← getRow (db.activeOffers.get? a)
    return n.accepts locked.status

/-- The clone of the visit becomes SOLD. -/
def sellClone (db : Db) (t : SaleTarget) : Db :=
  match t.activeOffer with
  | none => db
  | some (a, _) =>
    { db with
      activeOffers := db.activeOffers.updateWhere (fun k _ => k == a) fun c =>
        { c with status := .sold, active_clone_requires_listing_item := nofun } }

/-- The lane counter after the sale: the clones still ACTIVE, or one less than
the stored count. -/
def countAfterSale (db : Db) (k : Nat) (offer : PoolOffer) : Nat :=
  if (offerAccount db offer).any fun account => account.provider == .playerauctions then
    db.activeOffers.count fun _ a => a.poolOffer == some k && a.status == .active
  else
    match offer.currentRemoteCount with
    | none => 0
    | some count => count - 1

/-- The event of a new sale, with the outcome of its visit. -/
def newSaleEvent (db : Db) (n : SaleNotification) (t : SaleTarget) (outcome : String) :
    PoolSaleEvent where
  eventKey := saleEventKey sha256 t.eventKey
  listing := n.listing
  poolOffer := some t.poolOffer
  poolItem := soldItem db n t
  orderId := n.orderId
  processedAt := some db.now
  outcome

/-- The end of the transaction: an order that identifies an item consumes it. -/
def consumeIdentified (db : Db) (orderId item : Option Nat) : Except PyError Db :=
  match orderId, item with
  | some _, some k => consumeSoldPoolItem db k
  | _, _ => .ok db

/-- **`_record_sale_event`**: the flag says whether to replenish. -/
def recordSaleEvent (db : Db) (n : SaleNotification) (t : SaleTarget) :
    Except PyError (Bool × Db) :=
  match saleEvent? sha256 db t with
  | some (i, e) =>
    return (false,
      { db with
        saleEvents := db.saleEvents.set i (fillSaleEvent e n.orderId (soldItem db n t)) })
  | none => do
    -- a new key: is the clone still to be sold?
    if !(← cloneAccepts db n t) then
      return (false,
        { db with
          saleEvents := db.saleEvents.create (newSaleEvent sha256 db n t "already_processed") })
    let sold := sellClone db t
    let offer ← getRow (sold.offers.get? t.poolOffer)
    let count := countAfterSale sold t.poolOffer offer
    let counted := saveRemoteCount sold t.poolOffer count
    let processed : Db :=
      { counted with
        saleEvents := db.saleEvents.create (newSaleEvent sha256 db n t "processed") }
    -- the item is consumed in the same transaction, or nothing of it is committed
    let consumed ← consumeIdentified processed n.orderId (soldItem db n t)
    return (count ≤ offer.threshold && canReplenish sold offer, consumed)

/-- One visit and the replenishment it starts. -/
def visit (n : SaleNotification) (replenish : SaleTarget → Replenishment) (db : Db)
    (t : SaleTarget) : Db :=
  match recordSaleEvent sha256 db n t with
  | .error _ => db
  | .ok (shouldReplenish, recorded) =>
    if shouldReplenish && n.allowReplenish then
      replenishPoolOffer recorded t.poolOffer (replenish t)
    else recorded

/-- The database after the visits to the append offers. -/
def afterOffers (n : SaleNotification) (replenish : SaleTarget → Replenishment) (db : Db) : Db :=
  run (visit sha256 n replenish) db (offerTargets n (n.baseEventKey db.now) db)

/-- **`notify_sale`**. -/
def notifySale (n : SaleNotification) (replenish : SaleTarget → Replenishment) (db : Db) : Db :=
  let visited := afterOffers sha256 n replenish db
  run (visit sha256 n replenish) visited (cloneTargets n (n.baseEventKey db.now) visited)

end Visit

/-! ### The property and its condition -/

/-- CONSUMED or REMOVED. -/
def ItemRow.isTerminal (r : ItemRow) : Bool :=
  r.status == .consumed || r.status == .removed

/-- The event references the order and the item. -/
def PoolSaleEvent.references (e : PoolSaleEvent) (order k : Nat) : Bool :=
  e.orderId == some order && e.poolItem == some k

/-- The sale of an item is recorded: an event of the order references it, and
it is CONSUMED or REMOVED. -/
def recorded (db : Db) (order k : Nat) : Bool :=
  (db.saleEvents.any fun _ e => e.references order k) && (db.item? k).any ItemRow.isTerminal

/-- The item is terminal, or the database accepts it as CONSUMED: it is
assigned to a PoolOffer, and no other row owns its product. -/
def consumable (db : Db) (k : Nat) : Bool :=
  (db.item? k).any fun r =>
    r.isTerminal || r.poolOffer.isSome &&
      !db.items.table.any fun j r' => j != k && r'.liveOwnedProduct == some r.ownedProduct

/-- The condition of one visit, on the database before it. -/
def recordable (sha256 : String → String) (db : Db) (n : SaleNotification) (t : SaleTarget)
    (order k : Nat) : Bool :=
  match saleEvent? sha256 db t with
  | some (i, e) =>
    -- a retry: the item must be terminal already, and this event or another names the sale
    (db.item? k).any ItemRow.isTerminal &&
      ((fillSaleEvent e n.orderId (soldItem db n t)).references order k ||
        db.saleEvents.any fun j e' => j != i && e'.references order k)
  | none =>
    recorded db order k ||
      match cloneAccepts db n t with
      | .error _ => false
      | .ok false => (db.item? k).any ItemRow.isTerminal
      | .ok true => (db.offers.get? t.poolOffer).isSome && consumable db k

/-! ### The item -/

section Items

variable {db db' : Db} {k j order : Nat} {r : ItemRow}

theorem isTerminal_iff : r.isTerminal = true ↔ r.status = .consumed ∨ r.status = .removed := by
  simp [ItemRow.isTerminal]

/-- A CONSUMED row of an assigned item passes its checks. -/
theorem consumedRow_checks_iff {now : Nat} : (consumedRow r now).Checks ↔ r.poolOffer ≠ none := by
  constructor
  · intro h
    exact h.assigned_pool_item_has_offer (Or.inr (Or.inr rfl))
  · intro h
    exact ⟨nofun, nofun, nofun, fun _ => h, nofun⟩

/-- **When a sale can consume its item.** -/
theorem consumable_iff :
    consumable db k = true ↔
      ∃ db', consumeSoldPoolItem db k = .ok db' ∧
        (db'.item? k).any ItemRow.isTerminal = true := by
  rcases hk : db.item? k with - | r
  · simp [consumable, consumeSoldPoolItem, hk, pure, Except.pure]
  by_cases hterm : r.isTerminal = true
  · have hstatus := isTerminal_iff.mp hterm
    simp [consumable, consumeSoldPoolItem, hk, hterm, hstatus, pure, Except.pure]
  · -- the row is saved as CONSUMED, when the database accepts that
    have hconsume : consumeSoldPoolItem db k = db.saveItem k (consumedRow r db.now) := by
      unfold consumeSoldPoolItem
      rw [hk]
      exact if_neg (mt isTerminal_iff.mpr hterm)
    have hsave : (∃ db', db.saveItem k (consumedRow r db.now) = .ok db') ↔ _ :=
      Db.saveItem_iff hk rfl rfl (Or.inr rfl) nofun
    have hcond : consumable db k = true ↔
        ∃ db', db.saveItem k (consumedRow r db.now) = .ok db' := by
      rw [hsave, consumedRow_checks_iff, consumable, hk, Option.any_some,
        Bool.eq_false_iff.mpr hterm, Bool.false_or, Bool.and_eq_true, Option.isSome_iff_ne_none]
    rw [hcond, hconsume]
    constructor
    · rintro ⟨db', hsaved⟩
      refine ⟨db', hsaved, ?_⟩
      rw [Db.item?_saveItem hsaved hk, if_pos rfl]
      simp [ItemRow.isTerminal, consumedRow]
    · rintro ⟨db', hsaved, -⟩
      exact ⟨db', hsaved⟩

/-- Consuming an item leaves a terminal row as it is. -/
theorem consumeSoldPoolItem_keeps (h : consumeSoldPoolItem db k = .ok db')
    (hj : (db.item? j).any ItemRow.isTerminal = true) :
    (db'.item? j).any ItemRow.isTerminal = true := by
  rcases consumeSoldPoolItem_ok h with ⟨-, rfl | hrw⟩
  · exact hj
  · rcases hrw.cases j with hsame | ⟨rfl, r, -, hrow⟩
    · rw [hsame]
      exact hj
    · rw [hrow]
      simp [ItemRow.isTerminal, consumedRow]

end Items

/-! ### One visit: when it records -/

section Visits

variable {sha256 : String → String} {db db' : Db} {n : SaleNotification} {t : SaleTarget}
variable {order k : Nat}

/-- The database a visit's transaction leaves, committed or rolled back. -/
def recordVisit (sha256 : String → String) (n : SaleNotification) (db : Db)
    (t : SaleTarget) : Db :=
  committed db ((recordSaleEvent sha256 db n t).map Prod.snd)

theorem newSaleEvent_references (sha256 : String → String) (ho : n.orderId = some order)
    (hk : soldItem db n t = some k) (outcome : String) :
    (newSaleEvent sha256 db n t outcome).references order k = true := by
  simp [newSaleEvent, PoolSaleEvent.references, ho, hk]

/-- A visit under a stored key. -/
theorem recordVisit_of_retry {i : Nat} {e : PoolSaleEvent}
    (h : saleEvent? sha256 db t = some (i, e)) :
    recordVisit sha256 n db t
      = { db with
          saleEvents := db.saleEvents.set i (fillSaleEvent e n.orderId (soldItem db n t)) } := by
  rw [recordVisit, recordSaleEvent, h]
  rfl

theorem saleEvent?_row {i : Nat} {e : PoolSaleEvent} (h : saleEvent? sha256 db t = some (i, e)) :
    db.saleEvents.get? i = some e :=
  (Table.mem_select.mp (List.mem_of_mem_head? h)).1

/-- A visit under a new key whose clone was processed already. -/
theorem recordVisit_of_refused (hnew : saleEvent? sha256 db t = none)
    (h : cloneAccepts db n t = .ok false) :
    recordVisit sha256 n db t
      = { db with
          saleEvents :=
            db.saleEvents.create (newSaleEvent sha256 db n t "already_processed") } := by
  rw [recordVisit, recordSaleEvent, hnew]
  simp only [h]
  rfl

theorem recordVisit_of_gone {err : PyError} (hnew : saleEvent? sha256 db t = none)
    (h : cloneAccepts db n t = .error err) : recordVisit sha256 n db t = db := by
  rw [recordVisit, recordSaleEvent, hnew]
  simp only [h]
  rfl

@[simp] theorem sellClone_offers : (sellClone db t).offers = db.offers := by
  rcases h : t.activeOffer with - | ⟨a, item⟩ <;> simp [sellClone, h]

@[simp] theorem sellClone_items : (sellClone db t).items = db.items := by
  rcases h : t.activeOffer with - | ⟨a, item⟩ <;> simp [sellClone, h]

/-- The database of a sale before its item is consumed. -/
def processedSale (sha256 : String → String) (db : Db) (n : SaleNotification) (t : SaleTarget)
    (offer : PoolOffer) : Db :=
  let sold := sellClone db t
  { saveRemoteCount sold t.poolOffer (countAfterSale sold t.poolOffer offer) with
    saleEvents := db.saleEvents.create (newSaleEvent sha256 db n t "processed") }

theorem item?_processedSale {offer : PoolOffer} :
    (processedSale sha256 db n t offer).item? k = db.item? k := by
  show (sellClone db t).items.get? k = _
  rw [sellClone_items]
  rfl

theorem consumable_processedSale (sha256 : String → String) (n : SaleNotification)
    (t : SaleTarget) (offer : PoolOffer) :
    consumable (processedSale sha256 db n t offer) k = consumable db k := by
  have hitems : (processedSale sha256 db n t offer).items = db.items := sellClone_items
  simp only [consumable, Db.item?, hitems]

/-- A visit under a new key whose clone accepts the sale. -/
theorem recordVisit_of_accepted (hnew : saleEvent? sha256 db t = none)
    (h : cloneAccepts db n t = .ok true) :
    recordVisit sha256 n db t =
      match db.offers.get? t.poolOffer with
      | none => db
      | some offer =>
        committed db
          (consumeIdentified (processedSale sha256 db n t offer) n.orderId (soldItem db n t)) := by
  have hoffers : (sellClone db t).offers.get? t.poolOffer = db.offers.get? t.poolOffer := by
    rw [sellClone_offers]
  rw [recordVisit, recordSaleEvent, hnew]
  simp only [h]
  rcases ho : db.offers.get? t.poolOffer with - | offer
  · rw [ho] at hoffers
    simp only [hoffers]
    rfl
  · rw [ho] at hoffers
    simp only [hoffers]
    show committed db ((((consumeIdentified (processedSale sha256 db n t offer) n.orderId
      (soldItem db n t)) >>= _).map Prod.snd)) = _
    rcases consumeIdentified (processedSale sha256 db n t offer) n.orderId (soldItem db n t) with
      err | db₁ <;> rfl

/-- **What a visit leaves**: the database but for its sale events, or the
processed sale with the item consumed. -/
theorem recordVisit_leaves (sha256 : String → String) (n : SaleNotification) (db : Db)
    (t : SaleTarget) :
    (∃ saleEvents, recordVisit sha256 n db t = { db with saleEvents }) ∨
      ∃ offer, db.offers.get? t.poolOffer = some offer ∧
        consumeIdentified (processedSale sha256 db n t offer) n.orderId (soldItem db n t)
          = .ok (recordVisit sha256 n db t) := by
  rcases hkey : saleEvent? sha256 db t with - | ⟨i, e⟩
  · rcases haccepts : cloneAccepts db n t with err | accepted
    · exact Or.inl ⟨db.saleEvents, recordVisit_of_gone hkey haccepts⟩
    cases accepted with
    | false => exact Or.inl ⟨_, recordVisit_of_refused hkey haccepts⟩
    | true =>
      rw [recordVisit_of_accepted hkey haccepts]
      rcases hoffer : db.offers.get? t.poolOffer with - | offer
      · exact Or.inl ⟨db.saleEvents, rfl⟩
      · rcases committed_cases db
            (consumeIdentified (processedSale sha256 db n t offer) n.orderId (soldItem db n t))
          with hsame | hok
        · exact Or.inl ⟨db.saleEvents, hsame⟩
        · exact Or.inr ⟨offer, rfl, hok⟩
  · exact Or.inl ⟨_, recordVisit_of_retry hkey⟩

/-- Consuming the item of a sale writes items only. -/
theorem consumeIdentified_ok {orderId item : Option Nat}
    (h : consumeIdentified db orderId item = .ok db') : ∃ items, db' = { db with items } := by
  unfold consumeIdentified at h
  split at h
  · exact (consumeSoldPoolItem_ok h).1
  · cases h
    exact ⟨db.items, rfl⟩

theorem terminal_of_recorded (h : recorded db order k = true) :
    (db.item? k).any ItemRow.isTerminal = true :=
  ((Bool.and_eq_true _ _).mp h).2

theorem consumable_of_terminal (h : (db.item? k).any ItemRow.isTerminal = true) :
    consumable db k = true := by
  rcases hk : db.item? k with - | r
  · simp [hk] at h
  · simp only [hk, Option.any_some] at h
    simp [consumable, hk, h]

/-- **One visit is exact.**  The transaction of a visit that identifies the
item leaves the sale recorded exactly when its condition holds. -/
theorem records_iff (ho : n.orderId = some order) (hk : soldItem db n t = some k) :
    recorded (recordVisit sha256 n db t) order k = recordable sha256 db n t order k := by
  unfold recordable
  rcases hevent : saleEvent? sha256 db t with - | ⟨i, e⟩
  · show _ = (recorded db order k || _)
    rcases haccepts : cloneAccepts db n t with err | accepted
    · rw [recordVisit_of_gone hevent haccepts]
      simp
    cases accepted with
    | false =>
      -- the event is created; the item stays as it is
      rw [recordVisit_of_refused hevent haccepts]
      have hrefs := newSaleEvent_references sha256 ho hk "already_processed"
      show ((db.saleEvents.create _).any _ && (db.item? k).any ItemRow.isTerminal) = _
      rw [Table.any_create, hrefs, Bool.or_true, Bool.true_and, recorded]
      cases (db.item? k).any ItemRow.isTerminal <;> simp
    | true =>
      rw [recordVisit_of_accepted hevent haccepts]
      rcases hoffer : db.offers.get? t.poolOffer with - | offer
      · simp
      · simp only [Option.isSome_some, Bool.true_and]
        have hconsume : consumeIdentified (processedSale sha256 db n t offer) n.orderId
            (soldItem db n t) = consumeSoldPoolItem (processedSale sha256 db n t offer) k := by
          rw [ho, hk]
          rfl
        rw [hconsume]
        rcases hdone : consumeSoldPoolItem (processedSale sha256 db n t offer) k with err | db₁
        · -- rolled back: the item could not be consumed
          have hnot : consumable db k = false := by
            rw [← consumable_processedSale sha256 n t offer]
            refine Bool.eq_false_iff.mpr fun hc => ?_
            obtain ⟨db₂, h₂, -⟩ := consumable_iff.mp hc
            rw [hdone] at h₂
            cases h₂
          rw [hnot, Bool.or_false]
          rfl
        · have hrefs := newSaleEvent_references sha256 ho hk "processed"
          obtain ⟨⟨items, hdb₁⟩, -⟩ := consumeSoldPoolItem_ok hdone
          have hany : (db₁.saleEvents.any fun _ e => e.references order k) = true := by
            rw [hdb₁]
            show ((db.saleEvents.create _).any _) = true
            rw [Table.any_create, hrefs, Bool.or_true]
          show recorded db₁ order k = _
          rw [recorded, hany, Bool.true_and, Bool.eq_iff_iff, Bool.or_eq_true]
          constructor
          · intro hterm
            refine Or.inr ?_
            rw [← consumable_processedSale sha256 n t offer]
            exact consumable_iff.mpr ⟨db₁, hdone, hterm⟩
          · intro h
            have hc : consumable db k = true :=
              h.elim (fun h => consumable_of_terminal (terminal_of_recorded h)) id
            rw [← consumable_processedSale sha256 n t offer]
              at hc
            obtain ⟨db₂, h₂, hterm⟩ := consumable_iff.mp hc
            rw [hdone] at h₂
            cases h₂
            exact hterm
  · rw [recordVisit_of_retry hevent]
    show ((db.saleEvents.set i _).any _ && (db.item? k).any ItemRow.isTerminal) = _
    rw [Table.any_set (saleEvent?_row hevent), Bool.and_comm]

/-! ### One visit: what it keeps -/

theorem references_fillSaleEvent {e : PoolSaleEvent} {orderId item : Option Nat}
    (h : e.references order k = true) :
    (fillSaleEvent e orderId item).references order k = true := by
  simp only [PoolSaleEvent.references, Bool.and_eq_true, beq_iff_eq] at h ⊢
  simp [fillSaleEvent, h.1, h.2]

theorem recorded_of_create {e : PoolSaleEvent} (h : recorded db order k = true)
    (hevents : db'.saleEvents = db.saleEvents.create e)
    (hterm : (db'.item? k).any ItemRow.isTerminal = true) : recorded db' order k = true := by
  obtain ⟨hany, -⟩ := (Bool.and_eq_true _ _).mp h
  rw [recorded, hterm, Bool.and_true, hevents, Table.any_create, hany, Bool.true_or]

/-- **A visit keeps every recorded sale**, whichever sale it is about. -/
theorem recordVisit_keeps (h : recorded db order k = true) :
    recorded (recordVisit sha256 n db t) order k = true := by
  have hterm := terminal_of_recorded h
  rcases hevent : saleEvent? sha256 db t with - | ⟨i, e⟩
  -- a new key: the event is created, whatever the item
  · rcases haccepts : cloneAccepts db n t with err | accepted
    · rw [recordVisit_of_gone hevent haccepts]
      exact h
    cases accepted with
    | false =>
      rw [recordVisit_of_refused hevent haccepts]
      exact recorded_of_create h rfl hterm
    | true =>
      rw [recordVisit_of_accepted hevent haccepts]
      rcases hoffer : db.offers.get? t.poolOffer with - | offer
      · exact h
      · have hkept : recorded (processedSale sha256 db n t offer) order k = true := by
          refine recorded_of_create h rfl ?_
          rw [item?_processedSale]
          exact hterm
        show recorded (committed db (consumeIdentified _ n.orderId (soldItem db n t))) order k
          = true
        rcases ho : n.orderId with - | o
        · exact hkept
        rcases hk : soldItem db n t with - | j
        · exact hkept
        · show recorded (committed db (consumeSoldPoolItem _ j)) order k = true
          rcases hdone : consumeSoldPoolItem (processedSale sha256 db n t offer) j with err | db₁
          · exact h
          · obtain ⟨⟨items, hdb₁⟩, -⟩ := consumeSoldPoolItem_ok hdone
            have hterm₁ := consumeSoldPoolItem_keeps hdone (terminal_of_recorded hkept)
            exact recorded_of_create h (by rw [committed, hdb₁]; rfl) hterm₁
  · rw [recordVisit_of_retry hevent]
    obtain ⟨hany, -⟩ := (Bool.and_eq_true _ _).mp h
    show ((db.saleEvents.set i _).any _ && (db.item? k).any ItemRow.isTerminal) = true
    rw [Table.any_set (saleEvent?_row hevent), hterm, Bool.and_true, Bool.or_eq_true]
    obtain ⟨j, e', he', href⟩ := Table.any_iff.mp hany
    by_cases hj : j = i
    · subst hj
      rw [saleEvent?_row hevent] at he'
      cases he'
      exact Or.inl (references_fillSaleEvent href)
    · exact Or.inr (Table.any_iff.mpr ⟨j, e', he', by simp [hj, href]⟩)

theorem replenishPoolOffer_recorded (offer : Nat) (r : Replenishment)
    (h : recorded db order k = true) : recorded (replenishPoolOffer db offer r) order k = true := by
  obtain ⟨hany, hterm⟩ := (Bool.and_eq_true _ _).mp h
  rcases hk : db.item? k with - | row
  · simp [hk] at hterm
  · rw [hk, Option.any_some] at hterm
    -- a terminal item is not PENDING, so the replenishment does not claim it
    have hnot : row.status ≠ .pending := by
      rcases isTerminal_iff.mp hterm with hs | hs <;> rw [hs] <;> exact nofun
    obtain ⟨hrow, hevents⟩ := replenishPoolOffer_keeps offer r hk hnot
    rw [recorded, hevents, hany, hrow, Option.any_some, hterm, Bool.and_self]

/-- A visit is its transaction, perhaps followed by a replenishment. -/
theorem visit_cases (sha256 : String → String) (n : SaleNotification) (db : Db) (t : SaleTarget)
    (replenish : SaleTarget → Replenishment) :
    visit sha256 n replenish db t = recordVisit sha256 n db t ∨
      visit sha256 n replenish db t
        = replenishPoolOffer (recordVisit sha256 n db t) t.poolOffer (replenish t) := by
  unfold visit recordVisit
  rcases recordSaleEvent sha256 db n t with err | ⟨should, recorded⟩
  · exact Or.inl rfl
  · by_cases hshould : (should && n.allowReplenish) = true
    · exact Or.inr (if_pos hshould)
    · exact Or.inl (if_neg hshould)

theorem recorded_visit (replenish : SaleTarget → Replenishment)
    (h : recorded (recordVisit sha256 n db t) order k = true) :
    recorded (visit sha256 n replenish db t) order k = true := by
  rcases visit_cases sha256 n db t replenish with hv | hv
  · rw [hv]
    exact h
  · rw [hv]
    exact replenishPoolOffer_recorded _ _ h

end Visits

/-! ### Whole notifications, in any order -/

/-- The visits of a notification, in order. -/
def visits (sha256 : String → String) (n : SaleNotification)
    (replenish : SaleTarget → Replenishment) (db : Db) : List SaleTarget :=
  offerTargets n (n.baseEventKey db.now) db ++
    cloneTargets n (n.baseEventKey db.now) (afterOffers sha256 n replenish db)

theorem notifySale_eq (sha256 : String → String) (n : SaleNotification)
    (replenish : SaleTarget → Replenishment) (db : Db) :
    notifySale sha256 n replenish db
      = run (visit sha256 n replenish) db (visits sha256 n replenish db) := by
  rw [visits, run_append]
  rfl

/-- The steps between which notifications fall: a notification, with the
replenishments it starts, or any other write. -/
inductive SaleStep
  | notify (n : SaleNotification) (replenish : SaleTarget → Replenishment)
  | other (write : Db → Db)

def saleStep (sha256 : String → String) (db : Db) : SaleStep → Db
  | .notify n replenish => notifySale sha256 n replenish db
  | .other write => write db

/-- A visit that identifies an item meets its condition. -/
def visitMet (sha256 : String → String) (n : SaleNotification) (db : Db) (t : SaleTarget) : Bool :=
  match n.orderId, soldItem db n t with
  | some order, some k => recordable sha256 db n t order k
  | _, _ => true

/-- The item a visit identifies is recorded in a later database. -/
def visitRecorded (n : SaleNotification) (db : Db) (t : SaleTarget) (later : Db) : Bool :=
  match n.orderId, soldItem db n t with
  | some order, some k => recorded later order k
  | _, _ => true

/-- Before each visit of a notification its condition holds. -/
def NotifyMet (sha256 : String → String) (db : Db) : SaleStep → Prop
  | .notify n replenish =>
    Along (visit sha256 n replenish) (fun db t => visitMet sha256 n db t = true) db
      (visits sha256 n replenish db)
  | .other _ => True

/-- Every item a notification identifies is recorded when it returns. -/
def NotifyRecorded (sha256 : String → String) (db : Db) : SaleStep → Prop
  | .notify n replenish =>
    Along (visit sha256 n replenish)
      (fun db' t => visitRecorded n db' t (notifySale sha256 n replenish db) = true) db
      (visits sha256 n replenish db)
  | .other _ => True

instance (sha256 : String → String) (db : Db) : ∀ e, Decidable (NotifyMet sha256 db e)
  | .notify n replenish =>
    inferInstanceAs
      (Decidable (Along (visit sha256 n replenish) _ db (visits sha256 n replenish db)))
  | .other _ => inferInstanceAs (Decidable True)

instance (sha256 : String → String) (db : Db) : ∀ e, Decidable (NotifyRecorded sha256 db e)
  | .notify n replenish =>
    inferInstanceAs
      (Decidable (Along (visit sha256 n replenish) _ db (visits sha256 n replenish db)))
  | .other _ => inferInstanceAs (Decidable True)

theorem visitRecorded_of_met {sha256 : String → String} {n : SaleNotification}
    (replenish : SaleTarget → Replenishment) {db : Db} {t : SaleTarget}
    (h : visitMet sha256 n db t = true) :
    visitRecorded n db t (visit sha256 n replenish db t) = true := by
  unfold visitMet at h
  unfold visitRecorded
  rcases ho : n.orderId with - | order
  · rfl
  rcases hk : soldItem db n t with - | k
  · rfl
  · rw [ho, hk] at h
    apply recorded_visit
    rw [records_iff ho hk]
    exact h

theorem visitRecorded_visit {sha256 : String → String} {n : SaleNotification}
    (replenish : SaleTarget → Replenishment) {db later : Db} {t : SaleTarget} (t' : SaleTarget)
    (h : visitRecorded n db t later = true) :
    visitRecorded n db t (visit sha256 n replenish later t') = true := by
  unfold visitRecorded at h ⊢
  rcases ho : n.orderId with - | order
  · rfl
  rcases hk : soldItem db n t with - | k
  · rfl
  · rw [ho, hk] at h
    exact recorded_visit replenish (recordVisit_keeps h)

/-- One notification: when each visit meets its condition, every identified
item is recorded at the end. -/
theorem notifyRecorded_of_met {sha256 : String → String} {db : Db} {e : SaleStep}
    (h : NotifyMet sha256 db e) : NotifyRecorded sha256 db e := by
  cases e with
  | other write => trivial
  | notify n replenish =>
    show Along (visit sha256 n replenish)
      (fun db' t => visitRecorded n db' t (notifySale sha256 n replenish db) = true) db _
    rw [notifySale_eq]
    exact along_final (R := fun s t later => visitRecorded n s t later = true)
      (fun s t hmet => visitRecorded_of_met replenish hmet)
      (fun s t later t' hrec => visitRecorded_visit replenish t' hrec) h

/-- **Sale recording.**  In every sequence of notifications and other writes,
from any database, whose visits meet their condition, every item a
notification identifies is recorded when `notify_sale` returns. -/
theorem sale_recording (sha256 : String → String) (db : Db) (es : List SaleStep)
    (h : Along (saleStep sha256) (NotifyMet sha256) db es) :
    Along (saleStep sha256) (NotifyRecorded sha256) db es :=
  along_of_along (I := fun _ => True) (fun _ _ _ _ => trivial)
    (fun _ _ _ hmet => notifyRecorded_of_met hmet) trivial h

/-! ### An append lane and a clone lane -/

/-- No replenishment is started. -/
def noReplenishment : SaleTarget → Replenishment := fun _ => { limit := 0 }

/-- A PUSHED item on an append offer, and an order without a product link. -/
def appendLaneDb : Db where
  items := ⟨⟨[(1, { pool := 1, ownedProduct := 7, liveOwnedProduct := some 7
                    poolOffer := some 1, status := .pushed })], by decide⟩, by decide⟩
  pools := singleItemDb.pools
  offers := singleItemDb.offers
  listings := offerListing
  accounts := gameboostStore
  orders := ⟨[(5, { ownedProduct := none, status := .completed })], by decide⟩

/-- A PUSHED item behind an ACTIVE clone, and its order. -/
def cloneLaneDb : Db where
  items := appendLaneDb.items
  pools := singleItemDb.pools
  offers := ⟨[(1, cloneLane 1)], by decide⟩
  activeOffers := ⟨[(1,
    { pool := 1, poolOffer := some 1, storeListingId := "clone", listing := some 2
      poolItem := some 1
      active_clone_requires_listing_item := by decide })], by decide⟩
  listings := ⟨[(1, { integrationAccount := 1, storeListingId := "template" }),
    (2, { integrationAccount := 1, storeListingId := "clone" })], by decide⟩
  accounts := ⟨[(1, { provider := .playerauctions, slug := "playerauctions" })], by decide⟩
  orders := ⟨[(5, { ownedProduct := none, status := .completed })], by decide⟩

/-- The sale of the clone, notified twice. -/
theorem sale_recording_clone :
    Along (saleStep id) (NotifyRecorded id) cloneLaneDb
      [.notify { listing := 2, eventKey := "playerauctions:1:77", orderId := some 5 }
          noReplenishment,
        .notify { listing := 2, eventKey := "playerauctions:1:77", orderId := some 5 }
          noReplenishment] :=
  sale_recording id cloneLaneDb _ (by decide)

/-- **The code does not always record a sale.**  The order of an append lane is
linked to its product between two notifications: the second one finds the
event and leaves the item PUSHED.  And a clone is verified absent, its item
returned to PENDING, before its order arrives: the item cannot become CONSUMED
without a PoolOffer, so the visit is rolled back. -/
theorem sale_recording_fails :
    ¬ Along (saleStep id) (NotifyRecorded id) appendLaneDb
        [.notify { listing := 1, eventKey := "gameboost:1:77", orderId := some 5 } noReplenishment,
          .other fun db =>
            { db with
              orders := db.orders.updateWhere (fun k _ => k == 5) fun o =>
                { o with ownedProduct := some 7 } },
          .notify { listing := 1, eventKey := "gameboost:1:77", orderId := some 5 }
            noReplenishment] ∧
      ¬ Along (saleStep id) (NotifyRecorded id) cloneLaneDb
        [.other fun db => committed db ((makeAvailable db 1).map Prod.snd),
          .notify { listing := 2, eventKey := "playerauctions:1:77", orderId := some 5 }
            noReplenishment] := by
  constructor
  · decide
  · decide

end Sda
