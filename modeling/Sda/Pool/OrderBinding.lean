/-
Sda/Pool/OrderBinding.lean

Which order sold which pool item: the sale events name both.

Two writers name them.  `_record_sale_event` (services/pool/checker.py) creates
an event for each visit of a notification, and a later visit under the same key
fills what is missing.  `bind_consumed_items_to_confirmed_orders`
(services/pool/order_binding.py) creates an event for each CONSUMED item it finds
a confirmed order for.

`attributionStep` interleaves visits, batches and arbitrary other writes; a batch
reads the bound orders before its transaction begins.

* `sale_attribution` — the events are a partial injection between orders and
  items in every state of a run exactly when no pair that a step writes shares
  one side with an older pair;
* `sale_attribution_fails` — two orders of one product, and an event without an
  order that is filled after its item was bound.
-/
import Mathlib.Data.List.MinMax
import Sda.Lib.BiUnique
import Sda.Pool.Sales

namespace Sda

/-! ### The confirmed order of an item -/

/-- The columns of an order that the binder reads. -/
structure OrderSale where
  integrationAccount : Option Nat
  soldAt : Option Nat := none
  createdAt : Nat := 0
  listing : Option Nat := none
  deriving DecidableEq, Repr

/-- `CONFIRMED_SALE_STATUSES`. -/
def confirmedSale (status : OrderStatus) : Bool :=
  status == .delivered || status == .completed || status == .disputed

/-- The place of a nullable time: NULL is the lowest value. -/
def timeRank : Option Nat → Nat
  | none => 0
  | some t => t + 1

/-- `order_by('-sold_at', '-created_at')`. -/
def latestSale (a b : Nat × OrderSale) : Prop :=
  timeRank b.2.soldAt < timeRank a.2.soldAt ∨
    (timeRank b.2.soldAt = timeRank a.2.soldAt ∧ b.2.createdAt ≤ a.2.createdAt)

instance : DecidableRel latestSale := fun _ _ =>
  inferInstanceAs (Decidable (_ ∨ (_ ∧ _)))

/-- `distance`. -/
def saleDistance (consumedAt : Nat) (order : Nat × OrderSale) : Nat :=
  let reference := order.2.soldAt.getD order.2.createdAt
  (reference - consumedAt) + (consumedAt - reference)

/-- `_closest_order`. -/
def closestOrder (candidates : List (Nat × OrderSale)) (consumedAt : Option Nat) :
    Option (Nat × OrderSale) :=
  match consumedAt with
  | none => candidates.head?
  | some t => candidates.argmin (saleDistance t)

/-- The store account of the lane of an item. -/
def laneAccount (db : Db) (item : ItemRow) : Option Nat := do
  let offer ← item.poolOffer.bind db.offers.get?
  let listing ← db.listings.get? offer.listing
  return listing.integrationAccount

/-- The confirmed orders of the product, placed through the account. -/
def confirmedOrders (sales : Table OrderSale) (db : Db) (product account : Nat)
    (excluded : List Nat) : List (Nat × OrderSale) :=
  ((db.orders.select fun k o =>
      o.ownedProduct == some product && confirmedSale o.status && !excluded.contains k).filterMap
    fun r => (sales.get? r.1).bind fun sale =>
      if sale.integrationAccount = some account then some (r.1, sale) else none).insertionSort
        latestSale

/-- `find_exact_confirmed_order`. -/
def findExactConfirmedOrder (sales : Table OrderSale) (db : Db) (item : ItemRow)
    (excluded : List Nat) : Option (Nat × OrderSale) := do
  let account ← laneAccount db item
  closestOrder (confirmedOrders sales db item.ownedProduct account excluded) item.consumedAt

/-! ### The binder -/

/-- `PoolSaleEvent.objects.filter(pool_item_id=…).first()`. -/
def itemEvent? (db : Db) (k : Nat) : Option PoolSaleEvent :=
  (((db.saleEvents.select fun _ e => e.poolItem == some k).insertionSort
    fun a b => a.1 ≤ b.1).head?).map Prod.snd

/-- The transaction of a batch, between two of its items. -/
structure Binding where
  db : Db
  /-- `bound_order_ids`. -/
  bound : List Nat

/-- The order the batch binds an item to; the item is the instance the caller
holds. -/
def bindChoice (sales : Table OrderSale) (b : Binding) (item : Nat × ItemRow) :
    Option (Nat × OrderSale) :=
  if item.2.status != .consumed then none
  else if (itemEvent? b.db item.1).any fun e => e.orderId.isSome then none
  else findExactConfirmedOrder sales b.db item.2 b.bound

def bindingKey (item order : Nat) : String :=
  "first-pass-order-binding:item:" ++ toString item ++ ":order:" ++ toString order

def bindingEvent (now : Nat) (item : Nat × ItemRow) (offer : PoolOffer) (order : Nat × OrderSale) :
    PoolSaleEvent where
  eventKey := bindingKey item.1 order.1
  listing := order.2.listing.getD offer.listing
  poolOffer := item.2.poolOffer
  poolItem := some item.1
  orderId := some order.1
  outcome := "processed"
  processedAt := some now

/-- Is there an event under the key? -/
def eventKeyTaken (events : Table PoolSaleEvent) (key : String) : Bool :=
  events.any fun _ e => e.eventKey == key

/-- `PoolSaleEvent.objects.get_or_create(event_key=…)`. -/
def getOrCreateEvent (events : Table PoolSaleEvent) (e : PoolSaleEvent) : Table PoolSaleEvent :=
  if eventKeyTaken events e.eventKey then events else events.create e

/-- The item is marked as sold: only fields that the instance lacks are written. -/
def markBound (db : Db) (item : Nat × ItemRow) (sale : OrderSale) : Except PyError Db :=
  if item.2.remoteState = .sold ∧ item.2.consumedAt ≠ none then .ok db
  else
    match db.item? item.1 with
    | none => .error (.other "Save with update_fields did not affect any rows.")
    | some row =>
      db.saveItem item.1
        { row with
          remoteState := if item.2.remoteState = .sold then row.remoteState else .sold
          consumedAt :=
            if item.2.consumedAt = none then some (sale.soldAt.getD db.now) else row.consumedAt
          -- the instance is CONSUMED, so the hook of `save` writes the live owner
          liveOwnedProduct := some item.2.ownedProduct }

/-- One item of a batch. -/
def bindItem (sales : Table OrderSale) (b : Binding) (item : Nat × ItemRow) :
    Except PyError Binding :=
  match bindChoice sales b item with
  | none => .ok b
  | some order => do
    let offer ← getRow (item.2.poolOffer.bind b.db.offers.get?)
    let event := bindingEvent b.db.now item offer order
    let db ← markBound { b.db with saleEvents := getOrCreateEvent b.db.saleEvents event } item
      order.2
    return ⟨db, order.1 :: b.bound⟩

/-- The transaction of `bind_consumed_items_to_confirmed_orders`. -/
def bindItems (sales : Table OrderSale) (b : Binding) (items : List (Nat × ItemRow)) :
    Except PyError Binding :=
  items.foldlM (bindItem sales) b

/-- `bound_order_ids`, as read before the transaction. -/
def boundOrders (db : Db) : List Nat :=
  db.saleEvents.rows.filterMap fun r => r.2.orderId

/-! ### The system -/

/-- A batch that has read the bound orders. -/
structure BindRun where
  items : List (Nat × ItemRow)
  bound : List Nat

structure AttributionState where
  db : Db
  sales : Table OrderSale := .empty
  runs : List BindRun := []

inductive AttributionEvent
  /-- The transaction of one visit of a sale notification. -/
  | visit (n : SaleNotification) (t : SaleTarget)
  /-- A batch starts: it holds its items and reads the bound orders. -/
  | readBound (items : List (Nat × ItemRow))
  /-- The transaction of a batch. -/
  | bind (i : Nat)
  /-- Any other write; it leaves the sale events alone. -/
  | others (write : Db → Db) (sales : Table OrderSale)

def attributionStep (sha256 : String → String) (s : AttributionState) :
    AttributionEvent → AttributionState
  | .visit n t => { s with db := recordVisit sha256 n s.db t }
  | .readBound items => { s with runs := s.runs ++ [⟨items, boundOrders s.db⟩] }
  | .bind i =>
    match s.runs[i]? with
    | none => s
    | some r =>
      { s with
        db := committed s.db ((bindItems s.sales ⟨s.db, r.bound⟩ r.items).map Binding.db)
        runs := s.runs.set i { r with items := [] } }
  | .others write sales =>
    { s with db := { write s.db with saleEvents := s.db.saleEvents }, sales }

/-! ### The property and its condition -/

/-- The order and the item of an event that names both. -/
def PoolSaleEvent.pair (e : PoolSaleEvent) : Option (Nat × Nat) :=
  e.orderId.bind fun order => e.poolItem.map fun item => (order, item)

/-- The events attribute the order to the item. -/
def Attributes (events : Table PoolSaleEvent) (order item : Nat) : Prop :=
  ∃ i e, events.get? i = some e ∧ e.pair = some (order, item)

/-- Every order has at most one item, and every item at most one order. -/
def SaleAttribution (s : AttributionState) : Prop :=
  Relator.BiUnique (Attributes s.db.saleEvents)

/-- An event names the order with another item, or the item with another order. -/
def conflicts (events : Table PoolSaleEvent) (p : Nat × Nat) : Bool :=
  events.any fun _ e => e.pair.any fun q => (q.1 == p.1) != (q.2 == p.2)

/-- A sale of the item can be committed: there is no row, or it can be consumed. -/
def saleCommits (db : Db) (k : Nat) : Bool :=
  (db.item? k).isNone || consumable db k

/-- The order and the item that a visit writes into one event. -/
def visitPair (sha256 : String → String) (db : Db) (n : SaleNotification) (t : SaleTarget) :
    Option (Nat × Nat) :=
  match saleEvent? sha256 db t with
  | some (_, e) => (fillSaleEvent e n.orderId (soldItem db n t)).pair
  | none =>
    match cloneAccepts db n t with
    | .error _ => none
    | .ok false => (newSaleEvent sha256 db n t "already_processed").pair
    | .ok true =>
      (newSaleEvent sha256 db n t "processed").pair.filter fun p =>
        (db.offers.get? t.poolOffer).isSome && saleCommits db p.2

/-- The order and the item that a batch writes into a new event. -/
def bindPair (sales : Table OrderSale) (b : Binding) (item : Nat × ItemRow) :
    Option (Nat × Nat) :=
  match bindChoice sales b item with
  | none => none
  | some order =>
    if eventKeyTaken b.db.saleEvents (bindingKey item.1 order.1) then none
    else some (order.1, item.1)

/-- The pair a step writes, if any, conflicts with no event. -/
def pairFits (events : Table PoolSaleEvent) (p : Option (Nat × Nat)) : Bool :=
  p.all fun p => !conflicts events p

/-- Every pair of a batch that is not rolled back conflicts with no event. -/
def BatchFits (sales : Table OrderSale) (b : Binding) (items : List (Nat × ItemRow)) : Prop :=
  (bindItems sales b items).isOk = true →
    AlongLoop (bindItem sales)
      (fun b item => pairFits b.db.saleEvents (bindPair sales b item) = true) b items

instance (sales : Table OrderSale) (b : Binding) (items : List (Nat × ItemRow)) :
    Decidable (BatchFits sales b items) :=
  inferInstanceAs (Decidable (_ = true → _))

/-- The condition of a step, on the state before it. -/
def AttributionFits (sha256 : String → String) (s : AttributionState) : AttributionEvent → Prop
  | .visit n t => pairFits s.db.saleEvents (visitPair sha256 s.db n t) = true
  | .bind i => ∀ r ∈ s.runs[i]?, BatchFits s.sales ⟨s.db, r.bound⟩ r.items
  | .readBound _ => True
  | .others _ _ => True

instance (sha256 : String → String) (s : AttributionState) :
    ∀ e, Decidable (AttributionFits sha256 s e)
  | .visit _ _ => inferInstanceAs (Decidable (_ = true))
  | .readBound _ => inferInstanceAs (Decidable True)
  | .others _ _ => inferInstanceAs (Decidable True)
  | .bind i => inferInstanceAs (Decidable (∀ r ∈ s.runs[i]?, _))

/-! ### The events after one write -/

section Writes

variable {events : Table PoolSaleEvent} {db db' : Db} {i order k : Nat} {e : PoolSaleEvent}

theorem pair_eq_some_iff :
    e.pair = some (order, k) ↔ e.orderId = some order ∧ e.poolItem = some k := by
  rcases ho : e.orderId with - | o <;> rcases hk : e.poolItem with - | j <;>
    simp [PoolSaleEvent.pair, ho, hk]

theorem conflicts_eq_false_iff {p : Nat × Nat} :
    conflicts events p = false ↔ Compatible (Attributes events) p := by
  rw [conflicts, Table.any_eq_false_iff]
  constructor
  · rintro h order k ⟨i, e, he, hpair⟩
    have hq := h i e he
    rw [hpair] at hq
    simpa using hq
  · intro h i e he
    rcases hpair : e.pair with - | ⟨order, k⟩
    · rfl
    · have hq := h order k ⟨i, e, he, hpair⟩
      simpa using hq

theorem pairFits_iff {p : Option (Nat × Nat)} :
    pairFits events p = true ↔ ∀ q, p = some q → Compatible (Attributes events) q := by
  rcases p with - | p
  · exact iff_of_true rfl nofun
  · rw [pairFits, Option.all_some, Bool.not_eq_true', conflicts_eq_false_iff]
    constructor
    · rintro hp q ⟨⟩
      exact hp
    · intro hp
      exact hp p rfl

/-- A new event adds the pair it names. -/
theorem attributes_create : Attributes (events.create e) = WithPair (Attributes events) e.pair := by
  funext order k
  apply propext
  constructor
  · rintro ⟨i, e', he', hpair⟩
    rw [Table.get?_create] at he'
    split at he'
    · cases he'
      exact Or.inr hpair
    · exact Or.inl ⟨i, e', he', hpair⟩
  · rintro (⟨i, e', he', hpair⟩ | hpair)
    · exact ⟨i, e', Table.get?_create_of_some he', hpair⟩
    · refine ⟨events.nextKey, e, ?_, hpair⟩
      rw [Table.get?_create, if_pos rfl]

/-- A filled event keeps the pair it named. -/
theorem pair_fillSaleEvent {orderId item : Option Nat} (h : e.pair = some (order, k)) :
    (fillSaleEvent e orderId item).pair = some (order, k) := by
  obtain ⟨ho, hk⟩ := pair_eq_some_iff.mp h
  apply pair_eq_some_iff.mpr
  simp [fillSaleEvent, ho, hk]

/-- So filling an event adds the pair it then names. -/
theorem attributes_fill (h : events.get? i = some e) (orderId item : Option Nat) :
    Attributes (events.set i (fillSaleEvent e orderId item))
      = WithPair (Attributes events) (fillSaleEvent e orderId item).pair := by
  funext order k
  apply propext
  constructor
  · rintro ⟨j, e', he', hpair⟩
    rw [Table.get?_set h] at he'
    split at he'
    · cases he'
      exact Or.inr hpair
    · exact Or.inl ⟨j, e', he', hpair⟩
  · rintro (⟨j, e', he', hpair⟩ | hpair)
    · by_cases hj : j = i
      · subst hj
        cases h.symm.trans he'
        exact ⟨j, _, Table.get?_set_self h, pair_fillSaleEvent hpair⟩
      · exact ⟨j, e', by rw [Table.get?_set_ne hj]; exact he', hpair⟩
    · exact ⟨i, _, Table.get?_set_self h, hpair⟩

/-- An item that a sale consumed is terminal. -/
theorem terminal_of_consumeSoldPoolItem {r : ItemRow} (hk : db.item? k = some r)
    (h : consumeSoldPoolItem db k = .ok db') : (db'.item? k).any ItemRow.isTerminal = true := by
  rw [consumeSoldPoolItem, hk] at h
  dsimp only at h
  split at h
  · rename_i hstatus
    cases h
    rw [hk]
    exact isTerminal_iff.mpr hstatus
  · rw [Db.item?_saveItem h hk, if_pos rfl]
    simp [ItemRow.isTerminal, consumedRow]

theorem saleEvents_markBound {item : Nat × ItemRow} {sale : OrderSale}
    (h : markBound db item sale = .ok db') : db'.saleEvents = db.saleEvents := by
  rw [markBound] at h
  split at h
  · cases h
    rfl
  · split at h
    · cases h
    · obtain ⟨items, -, rfl⟩ := Db.saveItem_ok h
      rfl

/-- **When the consumption of a sale goes through.** -/
theorem saleCommits_iff : saleCommits db k = true ↔ ∃ db', consumeSoldPoolItem db k = .ok db' := by
  rcases hk : db.item? k with - | r
  · refine iff_of_true (by rw [saleCommits, hk]; rfl) ⟨db, ?_⟩
    rw [consumeSoldPoolItem, hk]
    rfl
  · have hcommits : saleCommits db k = consumable db k := by
      rw [saleCommits, hk]
      rfl
    rw [hcommits, consumable_iff]
    constructor
    · rintro ⟨db', hdone, -⟩
      exact ⟨db', hdone⟩
    · rintro ⟨db', hdone⟩
      exact ⟨db', hdone, terminal_of_consumeSoldPoolItem hk hdone⟩

/-- An attribution is broken where a stored pair conflicts. -/
theorem not_saleAttribution {s : AttributionState}
    (h : (s.db.saleEvents.any fun _ e => e.pair.any (conflicts s.db.saleEvents)) = true) :
    ¬ SaleAttribution s := by
  rintro ⟨hleft, hright⟩
  obtain ⟨i, e, he, hconflicts⟩ := Table.any_iff.mp h
  rcases hpair : e.pair with - | ⟨order, k⟩
  · rw [hpair] at hconflicts
    cases hconflicts
  rw [hpair, Option.any_some] at hconflicts
  have hcompatible : Compatible (Attributes s.db.saleEvents) (order, k) := by
    intro order' k' h'
    constructor
    · rintro rfl
      exact hright h' ⟨i, e, he, hpair⟩
    · rintro rfl
      exact hleft h' ⟨i, e, he, hpair⟩
  rw [conflicts_eq_false_iff.mpr hcompatible] at hconflicts
  cases hconflicts

end Writes

/-! ### Steps -/

section Steps

variable {sha256 : String → String} {sales : Table OrderSale} {db : Db}

variable (sha256 db) in
theorem saleCommits_processedSale (n : SaleNotification) (t : SaleTarget) (offer : PoolOffer)
    (k : Nat) : saleCommits (processedSale sha256 db n t offer) k = saleCommits db k := by
  rw [saleCommits, consumable_processedSale, item?_processedSale]
  rfl

/-- The commit of an accepted sale, or its rollback. -/
theorem attributes_committed (n : SaleNotification) (t : SaleTarget) (offer : PoolOffer) :
    Attributes (committed db (consumeIdentified (processedSale sha256 db n t offer) n.orderId
        (soldItem db n t))).saleEvents
      = WithPair (Attributes db.saleEvents)
          ((newSaleEvent sha256 db n t "processed").pair.filter fun p => saleCommits db p.2) := by
  have hcreated : Attributes (processedSale sha256 db n t offer).saleEvents
      = WithPair (Attributes db.saleEvents) (newSaleEvent sha256 db n t "processed").pair :=
    attributes_create
  have hpair : (newSaleEvent sha256 db n t "processed").pair
      = n.orderId.bind fun order => (soldItem db n t).map fun item => (order, item) := rfl
  rcases ho : n.orderId with - | order
  · rw [ho] at hpair
    rw [hpair] at hcreated ⊢
    exact hcreated
  rcases hk : soldItem db n t with - | k
  · rw [ho, hk] at hpair
    rw [hpair] at hcreated ⊢
    exact hcreated
  -- the item is identified: the sale is committed when it can be consumed
  rw [ho, hk] at hpair
  rw [hpair] at hcreated ⊢
  have hcommits := saleCommits_processedSale sha256 db n t offer k
  show Attributes
      (committed db (consumeSoldPoolItem (processedSale sha256 db n t offer) k)).saleEvents
    = WithPair _ (if saleCommits db k then some (order, k) else none)
  rcases hdone : consumeSoldPoolItem (processedSale sha256 db n t offer) k with err | db₁
  · have hnot : saleCommits db k = false := by
      rw [← hcommits, Bool.eq_false_iff]
      intro hyes
      obtain ⟨db₁, hok⟩ := saleCommits_iff.mp hyes
      rw [hdone] at hok
      cases hok
    rw [hnot]
    exact withPair_none.symm
  · have hyes : saleCommits db k = true := by
      rw [← hcommits]
      exact saleCommits_iff.mpr ⟨db₁, hdone⟩
    obtain ⟨⟨items, rfl⟩, -⟩ := consumeSoldPoolItem_ok hdone
    rw [hyes]
    exact hcreated

variable (sha256 db) in
/-- **What a visit adds to the attribution.** -/
theorem attributes_recordVisit (n : SaleNotification) (t : SaleTarget) :
    Attributes (recordVisit sha256 n db t).saleEvents
      = WithPair (Attributes db.saleEvents) (visitPair sha256 db n t) := by
  rw [visitPair]
  rcases hkey : saleEvent? sha256 db t with - | ⟨i, e⟩
  · rcases haccepts : cloneAccepts db n t with err | accepted
    · rw [recordVisit_of_gone hkey haccepts]
      exact withPair_none.symm
    cases accepted with
    | false =>
      rw [recordVisit_of_refused hkey haccepts]
      exact attributes_create
    | true =>
      rw [recordVisit_of_accepted hkey haccepts]
      rcases hoffer : db.offers.get? t.poolOffer with - | offer
      · simp [withPair_none]
      · simp only [Option.isSome_some, Bool.true_and]
        exact attributes_committed n t offer
  · rw [recordVisit_of_retry hkey]
    exact attributes_fill (saleEvent?_row hkey) _ _

/-- **What an item of a batch adds to the attribution.** -/
theorem attributes_bindItem {b b' : Binding} {item : Nat × ItemRow}
    (h : bindItem sales b item = .ok b') :
    Attributes b'.db.saleEvents
      = WithPair (Attributes b.db.saleEvents) (bindPair sales b item) := by
  rw [bindItem] at h
  rw [bindPair]
  rcases hchoice : bindChoice sales b item with - | order
  · rw [hchoice] at h
    cases h
    exact withPair_none.symm
  rw [hchoice] at h
  obtain ⟨offer, -, h⟩ := except_bind_ok.mp h
  obtain ⟨db', hmark, h⟩ := except_bind_ok.mp h
  cases h
  have hevents : db'.saleEvents
      = if eventKeyTaken b.db.saleEvents (bindingKey item.1 order.1) then b.db.saleEvents
        else b.db.saleEvents.create (bindingEvent b.db.now item offer order) :=
    saleEvents_markBound hmark
  show Attributes db'.saleEvents = WithPair _ (if eventKeyTaken _ _ then none else _)
  rw [hevents]
  by_cases htaken : eventKeyTaken b.db.saleEvents (bindingKey item.1 order.1) = true
  · rw [if_pos htaken, if_pos htaken]
    exact withPair_none.symm
  · rw [if_neg htaken, if_neg htaken]
    exact attributes_create

/-- A batch is exact: the attribution survives its commit exactly when each of
its items fits. -/
theorem batchFits_iff {b b' : Binding} {items : List (Nat × ItemRow)}
    (h : Relator.BiUnique (Attributes b.db.saleEvents)) (hloop : bindItems sales b items = .ok b') :
    Relator.BiUnique (Attributes b'.db.saleEvents) ↔ BatchFits sales b items := by
  have hok : (bindItems sales b items).isOk = true := by
    rw [hloop]
    rfl
  rw [BatchFits, imp_iff_right hok]
  simp only [pairFits_iff]
  exact biUnique_foldlM (Q := fun b : Binding => Attributes b.db.saleEvents)
    (fun _ _ _ => attributes_bindItem) hloop h

/-- **One step is exact.** -/
theorem saleAttribution_step_iff {s : AttributionState} (h : SaleAttribution s)
    (e : AttributionEvent) :
    SaleAttribution (attributionStep sha256 s e) ↔ AttributionFits sha256 s e := by
  cases e with
  | visit n t =>
    show Relator.BiUnique (Attributes (recordVisit sha256 n s.db t).saleEvents) ↔ _
    rw [attributes_recordVisit, biUnique_withPair? h]
    exact pairFits_iff.symm
  | readBound items => exact iff_of_true h trivial
  | others write sales => exact iff_of_true h trivial
  | bind i =>
    rw [attributionStep]
    show _ ↔ ∀ r ∈ s.runs[i]?, BatchFits s.sales ⟨s.db, r.bound⟩ r.items
    rcases s.runs[i]? with - | r
    · exact iff_of_true h nofun
    dsimp only
    have hone : (∀ r' ∈ some r, BatchFits s.sales ⟨s.db, r'.bound⟩ r'.items) ↔
        BatchFits s.sales ⟨s.db, r.bound⟩ r.items := by
      simp
    rw [hone]
    rcases hloop : bindItems s.sales ⟨s.db, r.bound⟩ r.items with err | b'
    · -- rolled back
      refine iff_of_true h ?_
      rw [BatchFits, hloop]
      exact nofun
    · exact batchFits_iff (b := ⟨s.db, r.bound⟩) h hloop

end Steps

/-! ### Runs -/

/-- Product 7 is pushed on an append lane; the orders 5 and 6 both name it. -/
def twoOrdersState : AttributionState where
  db := { appendLaneDb with
    orders := ⟨[(5, { ownedProduct := some 7, status := .completed }),
      (6, { ownedProduct := some 7, status := .completed })], by decide⟩ }
  sales := ⟨[(5, { integrationAccount := some 1 }), (6, { integrationAccount := some 1 })],
    by decide⟩

/-- The visit of the append offer for an order. -/
def orderVisit (order : Option Nat) (key : String) : AttributionEvent :=
  .visit { listing := 1, eventKey := key, orderId := order }
    { poolOffer := 1, eventKey := key ++ ":offer:1" }

theorem twoOrdersState_attribution : SaleAttribution twoOrdersState := by
  constructor
  · rintro a b c ⟨i, e, he, -⟩
    cases he
  · rintro a b c ⟨i, e, he, -⟩
    cases he

/-- Product 7 was bought on the lane and is CONSUMED; the event of a
notification lacks its order. -/
def unboundState : AttributionState where
  db := { twoOrdersState.db with
    items := ⟨⟨[(1, { pool := 1, ownedProduct := 7, liveOwnedProduct := some 7
                      poolOffer := some 1, status := .consumed, remoteState := .absent })],
      by decide⟩, by decide⟩
    saleEvents := ⟨[(1, { eventKey := "gameboost:1:78:offer:1", listing := 1 })], by decide⟩ }
  sales := twoOrdersState.sales

end Sda
