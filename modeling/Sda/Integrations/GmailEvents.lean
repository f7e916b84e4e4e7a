/-
Sda/Integrations/GmailEvents.lean

The receiver of PlayerAuctions orders (api/pa_gmail_order_event.py).

A request that passes the checks of `GmailMessage` runs in one transaction: it stores the event
under its id, or finds it there; binds it to the one listing with its code, which is closed, and
to the order of that number; and hands an exact automatic delivery over to the sale path behind
the commit.  An event without a listing stays unmatched, and every later request for it tries
again.  A run is any list of requests — new, repeated, forged, failed, cut off behind the commit
— and of what the rest of the system does to listings, orders and clones in between.

Main result: `sold_once` — a listing takes no second event before it is listed again.
-/
import Mathlib.Data.List.Infix
import Sda.Integrations.GmailMessage
import Sda.Lib.Run
import Sda.Lib.Table
import Sda.Pool.Sales

namespace Sda.GmailEvents

open Posting.TrackingCode (upper extractTrackingCode)

/-! ### The rows -/

inductive Disposition
  | created
  | duplicate
  | unmatched
  deriving DecidableEq

/-- `PaGmailOrderEvent`, under its id. -/
structure EventRow where
  source : List Char
  externalOrderId : List Char
  trackingCode : List Char
  market : List Char
  automaticDelivery : Option Bool
  observedAtMs : Nat
  disposition : Disposition
  account : Option Nat
  listing : Option Nat
  order : Option Nat
  deriving DecidableEq

/-- `Listing`; its price is in hundredths. -/
structure Listing where
  account : Option Nat
  game : Option Nat
  title : List Char
  status : ListingStatus
  storeListingId : String
  isInstant : Bool := true
  productCategory : String := "accounts"
  price : Int := 0
  currency : String := "USD"
  removedAt : Option Int := none
  deriving DecidableEq

/-- The `raw_data` of an order report. -/
structure RawData where
  trackingCode : List Char
  market : List Char
  automaticDelivery : Option Bool
  observedAtMs : Nat
  deriving DecidableEq

/-- `Order`; `soldAt` is in milliseconds. -/
structure Order where
  account : Option Nat
  storeOrderId : List Char
  listing : Option Nat
  game : Option Nat
  storeListingId : String
  status : OrderStatus
  isInstant : Bool
  productCategory : String
  price : Int
  currency : String
  soldAt : Option Nat
  rawData : Option RawData
  deriving DecidableEq

structure Account where
  provider : Provider
  slug : String
  isActive : Bool

/-- A clone, with the product of its pool item. -/
structure Clone where
  listing : Option Nat
  itemProduct : Option Nat
  status : OfferPoolActiveOfferStatus

/-- The rows that the receiver only reads: `links` is `ListingOwnedProduct`. -/
structure World where
  accounts : Nat → Option Account
  gameSlug : Nat → Option String
  clones : List Clone
  links : List (Nat × Nat)

/-- The rows, and what was done so far: which events were bound to which listing and order, what
was handed over, what was answered about which event, which listings came up for sale. -/
structure State where
  events : Table EventRow
  listings : Table Listing
  orders : Table Order
  world : World
  bound : List (Nat × Nat × Nat)
  handovers : List (Nat × SaleNotification)
  answers : List (Nat × Disposition)
  listed : List Nat

/-! ### A transaction -/

def martStoreSlugs : List String :=
  ["csgosmurfkings", "ezsmurfmart", "playerauctions-csgosmurfkings"]

def codetrackerOwnedGameSlugs : List String :=
  ["fortnite", "valorant", "league-of-legends", "league-of-legends-wild-rift", "lol",
    "rainbow-six-siege", "r6"]

/-- `account.provider`, `slug` and `is_active` of the filter. -/
def Account.isMart (a : Account) : Bool :=
  a.provider == .playerauctions && martStoreSlugs.contains a.slug && a.isActive

section Transaction

variable (pf : Platform)

/-- `title__icontains` -/
def icontains (title code : List Char) : Bool :=
  decide (upper pf.unicode code <:+: upper pf.unicode title)

/-- A candidate of `find_unique_mart_listing` whose title has the code. -/
def isMatch (w : World) (code : List Char) (l : Listing) : Bool :=
  (l.account.bind w.accounts).any Account.isMart && l.status == .listed &&
    icontains pf l.title code &&
    !(l.game.bind w.gameSlug).any codetrackerOwnedGameSlugs.contains &&
    extractTrackingCode pf.unicode [l.title] == code

/-- **`find_unique_mart_listing`** -/
def findUniqueMartListing (s : State) (code : List Char) : Option (Nat × Listing) :=
  match s.listings.select fun _ l => isMatch pf s.world code l with
  | [found] => some found
  | _ => none

/-- **`_has_exact_pool_clone_linkage`** -/
def hasExactPoolCloneLinkage (w : World) (listing : Nat) : Bool :=
  match (w.clones.filter fun c => c.listing == some listing &&
      (c.status == .active || c.status == .delisted || c.status == .failed)).filterMap
        (·.itemProduct) with
  | [product] => w.links.contains (listing, product)
  | _ => false

/-- The notification of a handover. -/
def saleOf (eventId : List Char) (listing order : Nat) : SaleNotification where
  listing := listing
  eventKey := String.ofList (source ++ ":automatic-delivery:".toList ++ eventId)
  orderId := some order
  allowReplenish := false
  allowFailedExactCloneSale := true

/-- The order report of an event. -/
def reportOf (e : EventRow) (i : Nat) (l : Listing) : Order where
  account := l.account
  storeOrderId := e.externalOrderId
  listing := some i
  game := l.game
  storeListingId := l.storeListingId
  status := if e.automaticDelivery = some true then .delivered else .pending
  isInstant := l.isInstant
  productCategory := l.productCategory
  price := l.price
  currency := if l.currency = "" then "USD" else l.currency
  soldAt := some e.observedAtMs
  rawData := some ⟨e.trackingCode, e.market, e.automaticDelivery, e.observedAtMs⟩

/-- `objects.get(integration_account=…, store_order_id=…)` -/
def orderOf (s : State) (account : Option Nat) (storeOrderId : List Char) : Option (Nat × Order) :=
  (s.orders.select fun _ o => o.account == account && o.storeOrderId == storeOrderId).head?

/-- `get_or_create` -/
def getOrCreateOrder (e : EventRow) (i : Nat) (l : Listing) (s : State) :
    (Nat × Order) × Bool × State :=
  match orderOf s l.account e.externalOrderId with
  | some found => (found, false, s)
  | none =>
    ((s.orders.nextKey, reportOf e i l), true,
      { s with orders := s.orders.create (reportOf e i l) })

/-- **`_finalize_exact_automatic_delivery`** of the event `n` with the text `eventId`; nothing
is handed over when the process ends behind the commit. -/
def finalize (cut : Bool) (n : Nat) (eventId : List Char) (e : EventRow) (i : Nat) (l : Listing)
    (k : Nat) (o : Order) (s : State) : State :=
  if e.automaticDelivery ≠ some true then s
  else if o.account ≠ l.account ∨ o.listing ≠ some i ∨ o.storeListingId ≠ l.storeListingId ∨
      hasExactPoolCloneLinkage s.world i = false then s
  else
    let o' := if o.status = .pending then { o with status := .delivered } else o
    let s' := if o.status = .pending then { s with orders := s.orders.set k o' } else s
    if (o'.status ≠ .delivered ∧ o'.status ≠ .completed) ∨ cut then s'
    else { s' with handovers := s'.handovers ++ [(n, saleOf eventId i k)] }

/-- **`create_order_report`** -/
def createOrderReport (cut : Bool) (now : Int) (n : Nat) (eventId : List Char) (e : EventRow)
    (i : Nat) (l : Listing) (s : State) : Nat × Bool × State :=
  let ((k, o), created, s) := getOrCreateOrder e i l s
  let closed := { l with status := .closed, removedAt := some now }
  let s := if l.status ≠ .closed then { s with listings := s.listings.set i closed } else s
  (k, created, finalize cut n eventId e i closed k o s)

def dispositionOf (created : Bool) : Disposition := if created then .created else .duplicate

/-- The order report of an event, and the event bound to it. -/
def bind (cut : Bool) (now : Int) (n : Nat) (eventId : List Char) (e : EventRow) (i : Nat)
    (l : Listing) (s : State) : Disposition × State :=
  match createOrderReport cut now n eventId e i l s with
  | (k, created, s) =>
    (dispositionOf created,
      { s with
        events := s.events.put n
          { e with
            account := l.account
            listing := some i
            order := some k
            disposition := dispositionOf created }
        bound := s.bound ++ [(n, i, k)] })

/-- The row of a new event. -/
def newEvent (p : Payload) : EventRow where
  source := source
  externalOrderId := p.orderId
  trackingCode := p.code
  market := p.market.getD []
  automaticDelivery := p.automaticDelivery
  observedAtMs := p.observedAt.ms
  disposition := .unmatched
  account := none
  listing := none
  order := none

/-- A request for an event that is there: **`recover_unmatched_event`**, or the delivery again. -/
def repeated (cut : Bool) (now : Int) (n : Nat) (e : EventRow) (s : State) :
    Disposition × State :=
  if e.disposition = .unmatched then
    if e.order.isSome then (.unmatched, s)
    else
      match findUniqueMartListing pf s e.trackingCode with
      | none => (.unmatched, s)
      | some (i, l) => bind cut now n (pf.uuidText n) e i l s
  else
    match e.listing.bind (fun i => (s.listings.get? i).map (i, ·)),
        e.order.bind (fun k => (s.orders.get? k).map (k, ·)) with
    | some (i, l), some (k, o) =>
      (.duplicate, finalize cut n (pf.uuidText n) e i l k o s)
    | _, _ => (.duplicate, s)

/-- The transaction of a request for the event `n`. -/
def transaction (cut : Bool) (now : Int) (n : Nat) (p : Payload) (s : State) :
    Disposition × State :=
  match s.events.get? n with
  | some e => repeated pf cut now n e s
  | none =>
    match findUniqueMartListing pf s p.code with
    | none => (.unmatched, { s with events := s.events.put n (newEvent p) })
    | some (i, l) => bind cut now n p.eventId (newEvent p) i l s

variable (secret : List Char)

/-- **`pa_gmail_order_event`**.  A transaction that raises is rolled back. -/
def receive (r : Request) (raises cut : Bool) (s : State) : Except Rejection Disposition × State :=
  match authenticate pf secret r with
  | .error rejection => (.error rejection, s)
  | .ok p =>
    match pf.uuid p.eventId with
    | none => (.error .raised, s)
    | some n =>
      if raises then (.error .raised, s)
      else
        match transaction pf cut r.now n p s with
        | (answer, s') => (.ok answer, { s' with answers := s'.answers ++ [(n, answer)] })

/-- `status` of the response. -/
def Disposition.status : Disposition → Nat
  | .created => 202
  | .duplicate => 200
  | .unmatched => 202

/-! ### The rest of the system -/

/-- What happens. -/
inductive Event
  | receive (r : Request) (raises cut : Bool)
  | createListing (l : Listing)
  | saveListing (i : Nat) (l : Listing)
  | deleteListing (i : Nat)
  | createOrder (o : Order)
  | saveOrder (k : Nat) (o : Order)
  | deleteOrder (k : Nat)
  | world (w : World)

/-- A listing comes up for sale. -/
def comesUp (old : Option Listing) (l : Listing) : Bool :=
  l.status == .listed && !old.any (·.status == .listed)

/-- The unique constraint of orders, for which two missing accounts are no match. -/
def taken (s : State) (k : Nat) (o : Order) : Bool :=
  s.orders.any fun j q => j != k && o.account.isSome && q.account == o.account &&
    q.storeOrderId == o.storeOrderId

/-- `on_delete=SET_NULL` -/
def EventRow.unlink (listing order : Option Nat) (e : EventRow) : EventRow :=
  { e with
    listing := if e.listing.isSome && e.listing == listing then none else e.listing
    order := if e.order.isSome && e.order == order then none else e.order }

/-- One event; an order whose key is taken is refused. -/
def step (s : State) : Event → State
  | .receive r raises cut => (receive pf secret r raises cut s).2
  | .createListing l =>
    { s with
      listings := s.listings.create l
      listed := if comesUp none l then s.listed ++ [s.listings.nextKey] else s.listed }
  | .saveListing i l =>
    if (s.listings.get? i).isSome then
      { s with
        listings := s.listings.set i l
        listed := if comesUp (s.listings.get? i) l then s.listed ++ [i] else s.listed }
    else s
  | .deleteListing i =>
    { s with
      listings := s.listings.pop i
      events := s.events.mapRows fun _ e => e.unlink (some i) none }
  | .createOrder o =>
    if taken s s.orders.nextKey o then s
    else { s with orders := s.orders.create o }
  | .saveOrder k o =>
    if (s.orders.get? k).isNone || taken s k o then s
    else { s with orders := s.orders.set k o }
  | .deleteOrder k =>
    { s with
      orders := s.orders.pop k
      events := s.events.mapRows fun _ e => e.unlink none (some k) }
  | .world w => { s with world := w }

end Transaction

def State.start (w : World) : State :=
  ⟨Table.empty, Table.empty, Table.empty, w, [], [], [], []⟩

variable {pf : Platform} {secret : List Char}

/-! ### What a transaction does -/

variable {n i k : Nat} {eventId : List Char} {e : EventRow} {l : Listing} {o : Order} {p : Payload}
  {d : Disposition} {s s' : State}

/-- What a handover is backed by, in the state behind it. -/
structure Backed (s : State) (n i k : Nat) : Prop where
  automatic : ∃ e, s.events.get? n = some e ∧ e.automaticDelivery = some true
  sold : ∃ o, s.orders.get? k = some o ∧ o.listing = some i ∧
    (o.status = .delivered ∨ o.status = .completed)
  linked : hasExactPoolCloneLinkage s.world i = true

/-- A finalization delivers its order, if it does anything, and hands it over or not. -/
structure Finalized (n : Nat) (eventId : List Char) (e : EventRow) (i k : Nat) (s s' : State) :
    Prop where
  rest : ∃ orders handovers, s' = { s with orders := orders, handovers := handovers }
  orders : ∀ j o', s'.orders.get? j = some o' → ∃ o, s.orders.get? j = some o ∧
    (o' = o ∨ o' = { o with status := .delivered })
  kept : ∀ j o, s.orders.get? j = some o → ∃ o', s'.orders.get? j = some o'
  handovers : s'.handovers = s.handovers ∨
    s'.handovers = s.handovers ++ [(n, saleOf eventId i k)] ∧
      e.automaticDelivery = some true ∧ hasExactPoolCloneLinkage s.world i = true ∧
      ∃ o, s'.orders.get? k = some o ∧ o.listing = some i ∧
        (o.status = .delivered ∨ o.status = .completed)

theorem finalized_self :
    Finalized n eventId e i k s s :=
  ⟨⟨_, _, rfl⟩, fun _ o h => ⟨o, h, Or.inl rfl⟩, fun _ o h => ⟨o, h⟩, Or.inl rfl⟩

theorem finalize_finalized {cut : Bool} (ho : s.orders.get? k = some o) :
    Finalized n eventId e i k s (finalize cut n eventId e i l k o s) := by
  unfold finalize
  split
  · exact finalized_self
  · next hauto =>
    split
    · exact finalized_self
    · next hexact =>
      rw [not_or, not_or, not_or] at hexact
      obtain ⟨-, hlisting, -, hlinked⟩ := hexact
      by_cases hpending : o.status = .pending
      · -- a pending order is delivered
        have hget : ∀ j, (s.orders.set k { o with status := .delivered }).get? j =
            if j = k then some { o with status := .delivered } else s.orders.get? j :=
          fun j => Table.get?_set ho
        have hset : ∀ handovers, (handovers = s.handovers ∨
            handovers = s.handovers ++ [(n, saleOf eventId i k)]) →
            Finalized n eventId e i k s
              { s with
                orders := s.orders.set k { o with status := .delivered }
                handovers := handovers } := by
          intro handovers hh
          refine ⟨⟨_, _, rfl⟩, fun j o' hj => ?_, fun j q hj => ?_, ?_⟩
          · have hj' : (if j = k then some { o with status := .delivered }
                else s.orders.get? j) = some o' := by rw [← hget j]; exact hj
            split at hj'
            · next hjk => exact ⟨o, hjk ▸ ho, Or.inr (Option.some.inj hj').symm⟩
            · exact ⟨o', hj', Or.inl rfl⟩
          · show ∃ o', (s.orders.set k { o with status := .delivered }).get? j = some o'
            rw [hget j]
            split
            · exact ⟨_, rfl⟩
            · exact ⟨q, hj⟩
          · refine hh.imp_right fun heq => ⟨heq, not_not.mp hauto, ?_,
              { o with status := .delivered }, ?_, not_not.mp hlisting, Or.inl rfl⟩
            · simpa using hlinked
            · show (s.orders.set k { o with status := .delivered }).get? k = _
              rw [hget k, if_pos rfl]
        simp only [hpending, if_true]
        split
        · exact hset s.handovers (Or.inl rfl)
        · exact hset _ (Or.inr rfl)
      · simp only [hpending, if_false]
        split
        · exact finalized_self
        · next hdone =>
          rw [not_or, not_and_or, not_not, not_not] at hdone
          refine ⟨⟨_, _, rfl⟩, fun _ q h => ⟨q, h, Or.inl rfl⟩, fun _ q h => ⟨q, h⟩, Or.inr ?_⟩
          exact ⟨rfl, not_not.mp hauto, by simpa using hlinked, o, ho, not_not.mp hlisting,
            hdone.1⟩

/-- At most one order to an account and its number. -/
def OneOrder (s : State) : Prop :=
  ∀ j k o o', s.orders.get? j = some o → s.orders.get? k = some o' →
    o.account.isSome → o'.account = o.account → o'.storeOrderId = o.storeOrderId → j = k

theorem orderOf_some {account : Option Nat} {number : List Char}
    (h : orderOf s account number = some (k, o)) :
    s.orders.get? k = some o ∧ o.account = account ∧ o.storeOrderId = number := by
  obtain ⟨hget, hp⟩ := Table.mem_select.mp (List.mem_of_mem_head? h)
  simp only [Bool.and_eq_true, beq_iff_eq] at hp
  exact ⟨hget, hp⟩

theorem orderOf_none {account : Option Nat} {number : List Char}
    (h : orderOf s account number = none) (ho : s.orders.get? k = some o)
    (ha : o.account = account) : o.storeOrderId ≠ number := by
  intro hn
  have hmem : (k, o) ∈ s.orders.select fun _ o =>
      o.account == account && o.storeOrderId == number :=
    Table.mem_select.mpr ⟨ho, by simp [ha, hn]⟩
  unfold orderOf at h
  rw [List.head?_eq_none_iff] at h
  rw [h] at hmem
  cases hmem

/-- `get_or_create` finds or adds the order of that number. -/
structure Got (e : EventRow) (l : Listing) (k : Nat) (o : Order) (s s' : State) : Prop where
  rest : ∃ orders, s' = { s with orders := orders }
  got : s'.orders.get? k = some o
  kept : ∀ j q, s.orders.get? j = some q → s'.orders.get? j = some q
  one : OneOrder s → OneOrder s'

theorem getOrCreateOrder_got (e : EventRow) (i : Nat) (l : Listing) (s : State) :
    Got e l (getOrCreateOrder e i l s).1.1 (getOrCreateOrder e i l s).1.2 s
      (getOrCreateOrder e i l s).2.2 := by
  unfold getOrCreateOrder
  cases hfind : orderOf s l.account e.externalOrderId with
  | some found => exact ⟨⟨_, rfl⟩, (orderOf_some hfind).1, fun _ _ h => h, id⟩
  | none =>
    have hget : ∀ j, (s.orders.create (reportOf e i l)).get? j =
        if j = s.orders.nextKey then some (reportOf e i l) else s.orders.get? j :=
      fun j => Table.get?_create
    refine ⟨⟨_, rfl⟩, ?_, fun j q h => Table.get?_create_of_some h, fun hone => ?_⟩
    · show (s.orders.create (reportOf e i l)).get? s.orders.nextKey = _
      rw [hget, if_pos rfl]
    · intro j k o o' hj hk hsome ha hn
      have hj' := (hget j).symm.trans hj
      have hk' := (hget k).symm.trans hk
      split at hj'
      · next hjk =>
        split at hk'
        · next hkk => rw [hjk, hkk]
        · cases hj'
          exact absurd hn (orderOf_none hfind hk' ha)
      · split at hk'
        · cases hk'
          exact absurd hn.symm (orderOf_none hfind hj' ha.symm)
        · exact hone j k o o' hj' hk' hsome ha hn

theorem Finalized.one
    (h : Finalized n eventId e i k s s') (hone : OneOrder s) : OneOrder s' := by
  have hsame : ∀ j o', s'.orders.get? j = some o' → ∃ o, s.orders.get? j = some o ∧
      o'.account = o.account ∧ o'.storeOrderId = o.storeOrderId := by
    intro j o' hj
    obtain ⟨o, ho, rfl | rfl⟩ := h.orders j o' hj
    · exact ⟨_, ho, rfl, rfl⟩
    · exact ⟨o, ho, rfl, rfl⟩
  intro j m o' q' hj hm hsome ha hn
  obtain ⟨o, ho, hoa, hon⟩ := hsame j o' hj
  obtain ⟨q, hq, hqa, hqn⟩ := hsame m q' hm
  exact hone j m o q ho hq (hoa ▸ hsome) (by rw [← hqa, ha, hoa]) (by rw [← hqn, hn, hon])

/-- What binding an event does: the listing is closed, the event has its order, and the order
may be handed over. -/
structure Binds (n : Nat) (eventId : List Char) (e : EventRow) (i : Nat) (l : Listing) (k : Nat)
    (d : Disposition) (s s' : State) : Prop where
  decided : d ≠ .unmatched
  events : s'.events = s.events.put n
    { e with account := l.account, listing := some i, order := some k, disposition := d }
  bound : s'.bound = s.bound ++ [(n, i, k)]
  listings : ∀ j, s'.listings.get? j = s.listings.get? j ∨
    j = i ∧ ∃ l', s'.listings.get? j = some l' ∧ l'.status = .closed
  closed : ∃ l', s'.listings.get? i = some l' ∧ l'.status = .closed
  one : OneOrder s → OneOrder s'
  handovers : s'.handovers = s.handovers ∨
    s'.handovers = s.handovers ++ [(n, saleOf eventId i k)] ∧ Backed s' n i k
  answers : s'.answers = s.answers
  listed : s'.listed = s.listed

theorem dispositionOf_ne (created : Bool) : dispositionOf created ≠ .unmatched := by
  cases created <;> nofun

theorem bind_binds (cut : Bool) (now : Int) (n : Nat) (eventId : List Char) (e : EventRow)
    (hl : s.listings.get? i = some l) (hlisted : l.status = .listed) :
    ∃ k, Binds n eventId e i l k (bind cut now n eventId e i l s).1 s
      (bind cut now n eventId e i l s).2 := by
  have hgot := getOrCreateOrder_got e i l s
  rcases hg : getOrCreateOrder e i l s with ⟨⟨k, o⟩, created, s₁⟩
  rw [hg] at hgot
  obtain ⟨⟨orders, rfl⟩, ho, hkept, hone⟩ := hgot
  -- the listing is closed, and then the delivery is finalized
  let closed : Listing := { l with status := .closed, removedAt := some now }
  let s₂ : State := { s with orders := orders, listings := s.listings.set i closed }
  have hfinal : Finalized n eventId e i k s₂ (finalize cut n eventId e i closed k o s₂) :=
    finalize_finalized ho
  have hbind : bind cut now n eventId e i l s = (dispositionOf created,
      { finalize cut n eventId e i closed k o s₂ with
        events := (finalize cut n eventId e i closed k o s₂).events.put n
          { e with
            account := l.account, listing := some i, order := some k,
            disposition := dispositionOf created }
        bound := (finalize cut n eventId e i closed k o s₂).bound ++ [(n, i, k)] }) := by
    have hne : l.status ≠ .closed := by rw [hlisted]; nofun
    unfold bind createOrderReport
    rw [hg]
    simp only [if_pos hne]
    rfl
  rw [hbind]
  obtain ⟨orders', handovers, hrest⟩ := hfinal.rest
  have hget : ∀ j, (s.listings.set i closed).get? j =
      if j = i then some closed else s.listings.get? j := fun j => Table.get?_set hl
  refine ⟨k, dispositionOf_ne created, ?_, ?_, fun j => ?_, ⟨closed, ?_, rfl⟩, fun hs => ?_, ?_,
    ?_, ?_⟩
  · rw [hrest]
  · rw [hrest]
  · show (finalize cut n eventId e i closed k o s₂).listings.get? j = _ ∨ j = i ∧
      ∃ l', (finalize cut n eventId e i closed k o s₂).listings.get? j = some l' ∧ _
    rw [hrest]
    show (s.listings.set i closed).get? j = _ ∨ j = i ∧
      ∃ l', (s.listings.set i closed).get? j = some l' ∧ _
    rw [hget j]
    by_cases hj : j = i
    · rw [if_pos hj]
      exact Or.inr ⟨hj, closed, rfl, rfl⟩
    · rw [if_neg hj]
      exact Or.inl rfl
  · rw [hrest]
    exact (hget i).trans (if_pos rfl)
  · exact hfinal.one (hone hs)
  · refine hfinal.handovers.imp_right fun ⟨hh, hauto, hlinked, horder⟩ => ⟨hh, ?_, horder, ?_⟩
    · exact ⟨_, Table.get?_put.trans (if_pos rfl), hauto⟩
    · rw [hrest]
      exact hlinked
  · rw [hrest]
  · rw [hrest]

theorem findUniqueMartListing_some {code : List Char}
    (h : findUniqueMartListing pf s code = some (i, l)) :
    s.listings.get? i = some l ∧ l.status = .listed := by
  unfold findUniqueMartListing at h
  split at h
  · next found hfound =>
    cases h
    obtain ⟨hget, hmatch⟩ := Table.mem_select.mp (by rw [hfound]; exact List.mem_singleton_self _)
    simp only [isMatch, Bool.and_eq_true, beq_iff_eq] at hmatch
    exact ⟨hget, hmatch.1.1.1.2⟩
  · cases h

/-- The outcomes of a transaction. -/
inductive Outcome (pf : Platform) (n : Nat) (p : Payload) (s : State) : Disposition × State → Prop
  | new (hnew : s.events.get? n = none) :
      Outcome pf n p s (.unmatched, { s with events := s.events.put n (newEvent p) })
  | still {e : EventRow} (he : s.events.get? n = some e) (hd : e.disposition = .unmatched) :
      Outcome pf n p s (.unmatched, s)
  | binds {e : EventRow} {eventId : List Char} {i : Nat} {l : Listing} {k : Nat} {d : Disposition}
      {s' : State}
      (he : s.events.get? n = none ∧ e = newEvent p ∧ eventId = p.eventId ∨
        s.events.get? n = some e ∧ e.disposition = .unmatched ∧ eventId = pf.uuidText n)
      (hl : s.listings.get? i = some l) (hlisted : l.status = .listed)
      (hbinds : Binds n eventId e i l k d s s') : Outcome pf n p s (d, s')
  | again {e : EventRow} {s' : State} (he : s.events.get? n = some e)
      (hd : e.disposition ≠ .unmatched)
      (hs : s' = s ∨ ∃ i k, e.listing = some i ∧ e.order = some k ∧
        Finalized n (pf.uuidText n) e i k s s') : Outcome pf n p s (.duplicate, s')

theorem transaction_outcome (pf : Platform) (cut : Bool) (now : Int) (n : Nat) (p : Payload)
    (s : State) : Outcome pf n p s (transaction pf cut now n p s) := by
  unfold transaction
  cases he : s.events.get? n with
  | none =>
    cases hf : findUniqueMartListing pf s p.code with
    | none => exact .new he
    | some found =>
      obtain ⟨hl, hlisted⟩ := findUniqueMartListing_some hf
      obtain ⟨k, hbinds⟩ := bind_binds cut now n p.eventId (newEvent p) hl hlisted
      exact .binds (Or.inl ⟨he, rfl, rfl⟩) hl hlisted hbinds
  | some e =>
    show Outcome pf n p s (repeated pf cut now n e s)
    unfold repeated
    split
    · next hd =>
      split
      · exact .still he hd
      · cases hf : findUniqueMartListing pf s e.trackingCode with
        | none => exact .still he hd
        | some found =>
          obtain ⟨hl, hlisted⟩ := findUniqueMartListing_some hf
          obtain ⟨k, hbinds⟩ := bind_binds cut now n (pf.uuidText n) e hl hlisted
          exact .binds (Or.inr ⟨he, hd, rfl⟩) hl hlisted hbinds
    · next hd =>
      split
      · next i l k o hlisting horder =>
        obtain ⟨i', hi', hl⟩ := Option.bind_eq_some_iff.mp hlisting
        obtain ⟨l', -, heq⟩ := Option.map_eq_some_iff.mp hl
        obtain ⟨k', hk', ho⟩ := Option.bind_eq_some_iff.mp horder
        obtain ⟨o', hget, heq'⟩ := Option.map_eq_some_iff.mp ho
        cases heq
        cases heq'
        exact .again he hd (Or.inr ⟨i, k, hi', hk', finalize_finalized hget⟩)
      · exact .again he hd (Or.inl rfl)

theorem Outcome.answers (h : Outcome pf n p s (d, s')) : s'.answers = s.answers := by
  cases h with
  | new => rfl
  | still => rfl
  | binds _ _ _ hbinds => exact hbinds.answers
  | again _ _ hs =>
    rcases hs with rfl | ⟨i, k, -, -, hfinal⟩
    · rfl
    · obtain ⟨orders, handovers, rfl⟩ := hfinal.rest
      rfl

/-- A request does nothing, or it passes the checks and runs its transaction. -/
theorem receive_cases (pf : Platform) (secret : List Char) (r : Request) (raises cut : Bool)
    (s : State) :
    (receive pf secret r raises cut s).2 = s ∨ ∃ p n d s', authenticate pf secret r = .ok p ∧
      pf.uuid p.eventId = some n ∧ Outcome pf n p s (d, s') ∧
      (receive pf secret r raises cut s).2 = { s' with answers := s'.answers ++ [(n, d)] } := by
  unfold receive
  cases hauth : authenticate pf secret r with
  | error rejection => exact Or.inl rfl
  | ok p =>
    cases hid : pf.uuid p.eventId with
    | none =>
      simp only [hid, true_or]
    | some n =>
      simp only [hid]
      split
      · exact Or.inl rfl
      · -- the transaction is committed
        have hout := transaction_outcome pf cut r.now n p s
        rcases ht : transaction pf cut r.now n p s with ⟨d, s'⟩
        rw [ht] at hout
        exact Or.inr ⟨p, n, d, s', rfl, hid, hout, rfl⟩

/-! ### A listing and its sales -/

/-- The events that were bound to a listing. -/
def State.boundTo (s : State) (i : Nat) : Nat := s.bound.countP fun b => b.2.1 == i

/-- A listing that is for sale. -/
def State.onSale (s : State) (i : Nat) : Bool := (s.listings.get? i).any (·.status == .listed)

/-- Every sale of a listing has its own time on sale. -/
def Sold (s : State) : Prop :=
  ∀ i, s.boundTo i + (if s.onSale i then 1 else 0) ≤ s.listed.count i

theorem Sold.congr (h : Sold s) (hbound : s'.bound = s.bound)
    (hlistings : s'.listings = s.listings) (hlisted : s'.listed = s.listed) : Sold s' := by
  intro i
  have := h i
  unfold State.boundTo State.onSale at this ⊢
  rw [hbound, hlistings, hlisted]
  exact this

/-- A listing that is bound is on sale before and not behind that. -/
theorem Binds.sold (h : Binds n eventId e i l k d s s')
    (hl : s.listings.get? i = some l) (hlisted : l.status = .listed) (hs : Sold s) : Sold s' := by
  intro j
  have hj := hs j
  have hbound : s'.boundTo j = s.boundTo j + if i = j then 1 else 0 := by
    unfold State.boundTo
    rw [h.bound, List.countP_append, List.countP_singleton]
    simp
  rw [hbound, h.listed]
  by_cases hij : i = j
  · subst hij
    obtain ⟨l', hl', hclosed⟩ := h.closed
    have hwas : s.onSale i = true := by
      unfold State.onSale
      rw [hl]
      simp [hlisted]
    have hnow : s'.onSale i = false := by
      unfold State.onSale
      rw [hl']
      simp [hclosed]
    rw [hwas] at hj
    rw [hnow]
    simpa using hj
  · have hsame : s'.onSale j = s.onSale j := by
      rcases h.listings j with heq | ⟨hji, -⟩
      · unfold State.onSale
        rw [heq]
      · exact absurd hji.symm hij
    rw [if_neg hij, hsame]
    exact hj

theorem Outcome.sold (h : Outcome pf n p s (d, s')) (hs : Sold s) : Sold s' := by
  cases h with
  | new => exact hs.congr rfl rfl rfl
  | still => exact hs
  | binds _ hl hlisted hbinds => exact hbinds.sold hl hlisted hs
  | again _ _ hcases =>
    rcases hcases with rfl | ⟨i, k, -, -, hfinal⟩
    · exact hs
    · obtain ⟨orders, handovers, rfl⟩ := hfinal.rest
      exact hs.congr rfl rfl rfl

/-- A write to one listing, which is noted when it comes up for sale. -/
theorem Sold.write (hs : Sold s) (hbound : s'.bound = s.bound)
    (hget : ∀ j, s'.listings.get? j = if j = i then some l else s.listings.get? j)
    (hlisted : s'.listed = if comesUp (s.listings.get? i) l then s.listed ++ [i] else s.listed) :
    Sold s' := by
  intro j
  have hj := hs j
  have hto : s'.boundTo j = s.boundTo j := by
    unfold State.boundTo
    rw [hbound]
  rw [hto, hlisted]
  by_cases hji : j = i
  · subst hji
    have hnow : s'.onSale j = (l.status == .listed) := by
      unfold State.onSale
      rw [hget, if_pos rfl]
      rfl
    rw [hnow]
    unfold State.onSale at hj
    unfold comesUp
    cases hs1 : (l.status == ListingStatus.listed) <;>
      cases hs2 : (s.listings.get? j).any (·.status == .listed) <;>
      simp [hs2, List.count_append] at hj ⊢ <;> omega
  · have hsame : s'.onSale j = s.onSale j := by
      unfold State.onSale
      rw [hget, if_neg hji]
    rw [hsame]
    refine hj.trans ?_
    split
    · rw [List.count_append]
      exact Nat.le_add_right _ _
    · exact Nat.le_refl _

theorem step_sold (s : State) (e : Event) (hs : Sold s) : Sold (step pf secret s e) := by
  cases e with
  | receive r raises cut =>
    show Sold (receive pf secret r raises cut s).2
    rcases receive_cases pf secret r raises cut s with
      heq | ⟨p, n, d, s', -, -, hout, heq⟩
    · rw [heq]
      exact hs
    · rw [heq]
      exact (hout.sold hs).congr rfl rfl rfl
  | createListing l =>
    refine hs.write rfl (fun j => Table.get?_create) ?_
    rw [Table.get?_nextKey]
    rfl
  | saveListing i l =>
    show Sold (if (s.listings.get? i).isSome then _ else s)
    split
    · next hsome =>
      obtain ⟨old, hold⟩ := Option.isSome_iff_exists.mp hsome
      exact hs.write rfl (fun j => Table.get?_set hold) rfl
    · exact hs
  | deleteListing i =>
    intro j
    have hj := hs j
    refine le_trans ?_ hj
    have hsale : (s.listings.pop i).get? j = if j = i then none else s.listings.get? j :=
      Table.get?_pop
    refine Nat.add_le_add_left ?_ _
    show (if ((s.listings.pop i).get? j).any (·.status == .listed) then 1 else 0) ≤ _
    rw [hsale]
    by_cases hji : j = i
    · simp [hji]
    · rw [if_neg hji]
      exact Nat.le_refl _
  | createOrder o =>
    show Sold (if taken s s.orders.nextKey o then s else _)
    split
    · exact hs
    · exact hs.congr rfl rfl rfl
  | saveOrder k o =>
    show Sold (if (s.orders.get? k).isNone || taken s k o then s else _)
    split
    · exact hs
    · exact hs.congr rfl rfl rfl
  | deleteOrder k => exact hs.congr rfl rfl rfl
  | world w => exact hs.congr rfl rfl rfl

/-- **A listing is sold once.**  In every run a listing has at most as many events bound to it as
it has come up for sale, and one less while it is for sale. -/
theorem sold_once (pf : Platform) (secret : List Char) (w : World) (es : List Event) (i : Nat) :
    let s := run (step pf secret) (.start w) es
    s.boundTo i + (if s.onSale i then 1 else 0) ≤ s.listed.count i := by
  have hstart : Sold (State.start w) := fun _ => Nat.le_refl 0
  exact (always_of_step (fun s e => step_sold s e) hstart es).last i

end Sda.GmailEvents
