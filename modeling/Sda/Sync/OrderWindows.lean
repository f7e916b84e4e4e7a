/-
Sda/Sync/OrderWindows.lean

Which new orders reach `reconcile_cross_platform` (sync/orchestrator.py,
sync/services/gameboost/webhooks.py).

Four things create orders: a sync chain, the status refresh, a run for a webhook of
GameBoost, and the recovery from e-mails.  Two of them reconcile: a chain, and a
webhook run.  Each remembers when it started, and when it is done with its accounts
it asks for the orders created since then, of its account or of all, that are not
cancelled, refunded or disputed by now.

A run is a row of `runs` while it is under way, and its steps interleave with those
of the other runs.  An order is created at a time between the start of its run and
now: the row may be committed a while after it was made.  What the runs do between
these steps is in the other files on orders; the feature flags are on.

* `new_orders_reconciled` — in a run whose steps keep to `WindowFits`, every order that
  was first actionable has been reconciled, or a run under way is to reconcile it;
* `new_orders_reconciled_fails` — an order of the refresh, one of the recovery, one of
  a webhook run that fails after it, and one disputed when the chain asks.
-/
import Sda.Lib.Run
import Sda.Lib.Table
import Sda.Pool.Models

namespace Sda.Sync

/-! ### The tables -/

/-- A row of `orders`, as far as it is read here. -/
structure SyncedOrder where
  account : Nat
  storeOrderId : String
  status : OrderStatus
  createdAt : Nat
  deriving DecidableEq, Repr

inductive WebhookStatus
  | pending | processing | completed | failed
  deriving DecidableEq, Repr

/-- `GameBoostWebhookEvent`. -/
structure WebhookEvent where
  integrationAccount : Nat
  status : WebhookStatus := .pending
  attempts : Nat := 0
  receivedAt : Nat
  updatedAt : Nat
  deriving DecidableEq, Repr

inductive RunKind
  /-- `run_sync_chain`, from `sync_orders` on. -/
  | chain
  /-- `process_next_gameboost_purchase_event`, for an event. -/
  | webhook (event : Nat)
  /-- `_refresh_account`. -/
  | refresh
  /-- `_recover_candidate`. -/
  | recovery
  deriving DecidableEq, Repr

/-- The variables of a run. -/
structure OrderRun where
  kind : RunKind
  /-- The account it syncs; a chain syncs them all. -/
  account : Option Nat
  /-- `chain_start`, `started`. -/
  started : Nat
  /-- `new_order_ids`, once they are read. -/
  newOrderIds : Option (List Nat) := none
  deriving DecidableEq, Repr

structure Windows where
  now : Nat := 0
  orders : Table SyncedOrder := .empty
  webhooks : Table WebhookEvent := .empty
  runs : Table OrderRun := .empty
  /-- The orders `reconcile_cross_platform` was called with. -/
  reconciled : List Nat := []
  /-- The orders that were created in an actionable status. -/
  firstActionable : List Nat := []

/-! ### The queries -/

/-- Neither cancelled, refunded nor disputed. -/
def isActionable : OrderStatus → Bool
  | .cancelled | .refunded | .disputed => false
  | _ => true

/-- `created_at__gte`, and the account of a webhook run. -/
def OrderRun.inWindow (r : OrderRun) (o : SyncedOrder) : Bool :=
  r.account.all (· == o.account) && decide (r.started ≤ o.createdAt)

/-- **`new_order_ids`**. -/
def newOrderIds (orders : Table SyncedOrder) (r : OrderRun) : List Nat :=
  (orders.select fun _ o => r.inWindow o && isActionable o.status).map Prod.fst

/-- Does a run of this kind reconcile? -/
def RunKind.reconciles : RunKind → Bool
  | .chain | .webhook _ => true
  | .refresh | .recovery => false

/-! ### Webhooks -/

/-- `MAX_WEBHOOK_PROCESS_ATTEMPTS`. -/
def maxWebhookProcessAttempts : Nat := 3

/-- `PROCESSING_LEASE_MINUTES`, in seconds. -/
def processingLease : Nat := 15 * 60

/-- The events whose lease has expired are PENDING again. -/
def requeueStale (now : Nat) (webhooks : Table WebhookEvent) : Table WebhookEvent :=
  webhooks.updateWhere
    (fun _ e => e.status == .processing && decide (e.updatedAt + processingLease < now) &&
      decide (e.attempts < maxWebhookProcessAttempts))
    fun e => { e with status := .pending, updatedAt := now }

/-- `order_by('received_at')`. -/
def receivedOrder (a b : Nat × WebhookEvent) : Prop := a.2.receivedAt ≤ b.2.receivedAt

instance : DecidableRel receivedOrder := fun a b =>
  inferInstanceAs (Decidable (a.2.receivedAt ≤ b.2.receivedAt))

/-- **`_claim_next_event`**. -/
def claimNextEvent (now : Nat) (webhooks : Table WebhookEvent) :
    Option (Nat × WebhookEvent) × Table WebhookEvent :=
  let webhooks := requeueStale now webhooks
  match ((webhooks.select fun _ e => e.status == .pending).insertionSort receivedOrder).head? with
  | none => (none, webhooks)
  | some (k, e) =>
    let e := { e with status := .processing, attempts := e.attempts + 1, updatedAt := now }
    (some (k, e), webhooks.set k e)

/-- **`_finish_event`**. -/
def finishEvent (now : Nat) (webhooks : Table WebhookEvent) (event : Nat) (status : WebhookStatus) :
    Table WebhookEvent :=
  webhooks.updateWhere (fun k _ => k == event) fun e => { e with status, updatedAt := now }

/-- The handler of an exception: PENDING again, FAILED after the last attempt. -/
def retryEvent (now : Nat) (webhooks : Table WebhookEvent) (event : Nat) : Table WebhookEvent :=
  webhooks.updateWhere (fun k _ => k == event) fun e =>
    { e with
      status := if e.attempts < maxWebhookProcessAttempts then .pending else .failed
      updatedAt := now }

/-! ### The steps of a run -/

def startRun (s : Windows) (kind : RunKind) (account : Option Nat) : Windows :=
  { s with runs := s.runs.create { kind, account, started := s.now } }

def endRun (s : Windows) (i : Nat) : Windows :=
  { s with runs := s.runs.deleteWhere fun k _ => k == i }

/-- The run is left by an exception. -/
def failRun (s : Windows) (i : Nat) (kind : RunKind) : Windows :=
  match kind with
  | .webhook event => endRun { s with webhooks := retryEvent s.now s.webhooks event } i
  | _ => endRun s i

/-- `Order.objects.update_or_create(...)`. -/
def ingestOrder (s : Windows) (o : SyncedOrder) : Windows :=
  let same := fun (_ : Nat) (row : SyncedOrder) =>
    row.account == o.account && row.storeOrderId == o.storeOrderId
  if s.orders.any same then
    { s with orders := s.orders.updateWhere same fun row => { row with status := o.status } }
  else
    { s with
      orders := s.orders.create o
      firstActionable :=
        if isActionable o.status then s.orders.nextKey :: s.firstActionable
        else s.firstActionable }

/-- The run passes its orders on, and ends. -/
def reconcileRun (s : Windows) (i : Nat) (kind : RunKind) (ids : List Nat) (raised : Bool) :
    Windows :=
  let passed := { s with reconciled := ids ++ s.reconciled }
  match kind with
  | .webhook event =>
    if raised then failRun passed i kind
    else endRun { passed with webhooks := finishEvent s.now s.webhooks event .completed } i
  -- a chain catches the exception
  | _ => endRun passed i

/-- A step of a run that is under way. -/
inductive RunAction
  /-- The payload of an order is applied. -/
  | ingest (o : SyncedOrder)
  /-- The sync of an account raises. -/
  | accountRaises
  /-- The accounts are done; `new_order_ids` is read, or the query raises. -/
  | query (raised : Bool)
  /-- `reconcile_cross_platform` is called, and may raise. -/
  | reconcile (raised : Bool)
  /-- A refresh or a recovery is done. -/
  | finish
  /-- The process is gone. -/
  | crash
  deriving DecidableEq, Repr

inductive WindowEvent
  | wait (seconds : Nat)
  /-- Anything else writes the status of an order. -/
  | update (order : Nat) (status : OrderStatus)
  /-- A signed purchase event is accepted. -/
  | accept (account : Nat)
  | startChain
  | startWebhook
  | startRefresh (account : Nat)
  | startRecovery (account : Nat)
  | act (run : Nat) (a : RunAction)
  deriving DecidableEq, Repr

/-- May the run apply the order now? -/
def OrderRun.mayIngest (r : OrderRun) (now : Nat) (o : SyncedOrder) : Bool :=
  r.newOrderIds.isNone && r.inWindow o && decide (o.createdAt ≤ now)

def runStep (s : Windows) (i : Nat) (r : OrderRun) : RunAction → Windows
  | .ingest o => if r.mayIngest s.now o then ingestOrder s o else s
  | .accountRaises =>
    match r.kind with
    -- `sync_orders` goes on with the next account
    | .chain => s
    | _ => if r.newOrderIds.isNone then failRun s i r.kind else s
  | .query raised =>
    if r.kind.reconciles && r.newOrderIds.isNone then
      if raised then failRun s i r.kind
      else { s with runs := s.runs.set i { r with newOrderIds := some (newOrderIds s.orders r) } }
    else s
  | .reconcile raised =>
    match r.newOrderIds with
    | some ids => reconcileRun s i r.kind ids raised
    | none => s
  | .finish => if r.kind.reconciles then s else endRun s i
  | .crash => endRun s i

def windowStep (s : Windows) : WindowEvent → Windows
  | .wait seconds => { s with now := s.now + seconds }
  | .update order status =>
    { s with orders := s.orders.updateWhere (fun k _ => k == order) fun row => { row with status } }
  | .accept account =>
    { s with
      webhooks := s.webhooks.create
        { integrationAccount := account, receivedAt := s.now, updatedAt := s.now } }
  | .startChain => startRun s .chain none
  | .startWebhook =>
    match claimNextEvent s.now s.webhooks with
    | (some (k, event), webhooks) =>
      startRun { s with webhooks } (.webhook k) (some event.integrationAccount)
    | (none, webhooks) => { s with webhooks }
  | .startRefresh account => startRun s .refresh (some account)
  | .startRecovery account => startRun s .recovery (some account)
  | .act i a =>
    match s.runs.get? i with
    | some r => runStep s i r a
    | none => s

/-! ### The property -/

/-- The run is to reconcile the order: it has its id, or will find it in its window. -/
def OrderRun.holds (r : OrderRun) (orders : Table SyncedOrder) (k : Nat) : Bool :=
  r.kind.reconciles &&
    match r.newOrderIds with
    | some ids => ids.contains k
    | none => (orders.get? k).any r.inWindow

/-- Every order that was first actionable has been reconciled, or a run under way is to
reconcile it. -/
def NewOrdersReconciled (s : Windows) : Prop :=
  ∀ k ∈ s.firstActionable, k ∈ s.reconciled ∨
    ∃ i r, s.runs.get? i = some r ∧ r.holds s.orders k = true

/-- No run that reconciles is under way. -/
def Idle (s : Windows) : Prop :=
  ∀ i r, s.runs.get? i = some r → r.kind.reconciles = false

/-! ### The condition -/

/-- Another run is to reconcile the order. -/
def heldBesides (s : Windows) (i k : Nat) : Bool :=
  s.runs.any fun j r => j != i && r.holds s.orders k

/-- The orders that run `i` is to reconcile are kept by it or by another run, unless they
have been reconciled. -/
def losesNothing (s : Windows) (i : Nat) (r : OrderRun) (keeps : Nat → Bool) : Bool :=
  s.firstActionable.all fun k =>
    s.reconciled.contains k || !r.holds s.orders k || keeps k || heldBesides s i k

/-- A run that is still to read its orders has the order in its window. -/
def isExpected (s : Windows) (o : SyncedOrder) : Bool :=
  s.runs.any fun _ r => r.kind.reconciles && r.newOrderIds.isNone && r.inWindow o

/-- Is the order new, and actionable? -/
def isNewActionable (s : Windows) (o : SyncedOrder) : Bool :=
  isActionable o.status &&
    !s.orders.any fun _ row => row.account == o.account && row.storeOrderId == o.storeOrderId

def actionFits (s : Windows) (i : Nat) (r : OrderRun) : RunAction → Bool
  | .ingest o =>
    r.kind.reconciles || !r.mayIngest s.now o || !isNewActionable s o || isExpected s o
  | .accountRaises =>
    match r.kind with
    | .chain => true
    | _ => r.newOrderIds.isSome || losesNothing s i r fun _ => false
  | .query raised =>
    r.newOrderIds.isSome ||
      losesNothing s i r fun k => !raised && (newOrderIds s.orders r).contains k
  | .crash => losesNothing s i r fun _ => false
  | .reconcile _ | .finish => true

/-- **The condition of a step**, on the state before it. -/
def windowFits (s : Windows) : WindowEvent → Bool
  | .act i a => (s.runs.get? i).all fun r => actionFits s i r a
  | _ => true

def WindowFits (s : Windows) (e : WindowEvent) : Prop :=
  windowFits s e = true

instance (s : Windows) (e : WindowEvent) : Decidable (WindowFits s e) :=
  inferInstanceAs (Decidable (_ = true))

/-! ### What holds an order -/

section Holds

variable {s s' : Windows} {r : OrderRun} {i k : Nat} {orders orders' : Table SyncedOrder}

/-- The rows are still there, of the same account and time. -/
def CoversOrders (orders orders' : Table SyncedOrder) : Prop :=
  ∀ k o, orders.get? k = some o →
    ∃ o', orders'.get? k = some o' ∧ o'.account = o.account ∧ o'.createdAt = o.createdAt

theorem CoversOrders.refl (orders : Table SyncedOrder) : CoversOrders orders orders :=
  fun _ o h => ⟨o, h, rfl, rfl⟩

theorem coversOrders_update (p : Nat → SyncedOrder → Bool) (status : OrderStatus) :
    CoversOrders orders (orders.updateWhere p fun row => { row with status }) := by
  intro k o ho
  rw [Table.get?_updateWhere, ho, Option.map_some]
  split
  · exact ⟨_, rfl, rfl, rfl⟩
  · exact ⟨_, rfl, rfl, rfl⟩

theorem coversOrders_create (o : SyncedOrder) : CoversOrders orders (orders.create o) :=
  fun _ row h => ⟨row, Table.get?_create_of_some h, rfl, rfl⟩

theorem holds_of_coversOrders (h : CoversOrders orders orders') (hr : r.holds orders k = true) :
    r.holds orders' k = true := by
  obtain ⟨hkind, hr⟩ := (Bool.and_eq_true _ _).mp hr
  apply (Bool.and_eq_true _ _).mpr
  refine ⟨hkind, ?_⟩
  rcases hids : r.newOrderIds with - | ids
  · rw [hids] at hr
    obtain ⟨o, ho, hwindow⟩ := (Option.any_eq_true _ _).mp hr
    obtain ⟨o', ho', haccount, hcreated⟩ := h k o ho
    apply (Option.any_eq_true _ _).mpr
    refine ⟨o', ho', ?_⟩
    rw [OrderRun.inWindow, haccount, hcreated]
    exact hwindow
  · rw [hids] at hr
    exact hr

/-- **The rule of the steps.**  What was to be reconciled before the step is afterwards,
or has been. -/
theorem reconciled_of_covers (h : NewOrdersReconciled s)
    (hnew : ∀ k ∈ s'.firstActionable, k ∈ s.firstActionable ∨
      ∃ i r, s'.runs.get? i = some r ∧ r.holds s'.orders k = true)
    (hdone : ∀ k ∈ s.reconciled, k ∈ s'.reconciled)
    (hkeep : ∀ k ∈ s.firstActionable, ∀ i r, s.runs.get? i = some r → r.holds s.orders k = true →
      k ∈ s'.reconciled ∨ ∃ j r', s'.runs.get? j = some r' ∧ r'.holds s'.orders k = true) :
    NewOrdersReconciled s' := by
  intro k hk
  rcases hnew k hk with hold | hheld
  · rcases h k hold with hpassed | ⟨i, r, hr, hholds⟩
    · exact Or.inl (hdone k hpassed)
    · exact hkeep k hold i r hr hholds
  · exact Or.inr hheld

/-- A step that only adds runs and orders. -/
theorem reconciled_of_grows (h : NewOrdersReconciled s) (horders : CoversOrders s.orders s'.orders)
    (hruns : ∀ i r, s.runs.get? i = some r → s'.runs.get? i = some r)
    (hfirst : s'.firstActionable = s.firstActionable) (hdone : s'.reconciled = s.reconciled) :
    NewOrdersReconciled s' := by
  apply reconciled_of_covers h
  · intro k hk
    rw [hfirst] at hk
    exact Or.inl hk
  · intro k hk
    rw [hdone]
    exact hk
  · intro k _ i r hr hholds
    exact Or.inr ⟨i, r, hruns i r hr, holds_of_coversOrders horders hholds⟩

theorem reconciled_startRun (h : NewOrdersReconciled s) (kind : RunKind) (account : Option Nat) :
    NewOrdersReconciled (startRun s kind account) :=
  reconciled_of_grows h (CoversOrders.refl s.orders) (fun _ _ hr => Table.get?_create_of_some hr)
    rfl rfl

theorem heldBesides_iff :
    heldBesides s i k = true ↔
      ∃ j r, s.runs.get? j = some r ∧ j ≠ i ∧ r.holds s.orders k = true := by
  rw [heldBesides, Table.any_iff]
  simp only [Bool.and_eq_true, bne_iff_ne]

theorem losesNothing_iff {keeps : Nat → Bool} :
    losesNothing s i r keeps = true ↔ ∀ k ∈ s.firstActionable, k ∉ s.reconciled →
      r.holds s.orders k = true → keeps k = true ∨ heldBesides s i k = true := by
  rw [losesNothing, List.all_eq_true]
  refine forall₂_congr fun k _ => ?_
  rcases hpassed : s.reconciled.contains k with - | - <;>
    rcases hholds : r.holds s.orders k with - | - <;>
    simp_all [List.contains_eq_mem]

/-- **A run ends**: what it was to reconcile has been, or another run holds it. -/
theorem reconciled_endRun (h : NewOrdersReconciled s) (hr : s.runs.get? i = some r)
    {reconciled : List Nat} {webhooks : Table WebhookEvent}
    (hdone : ∀ k ∈ s.reconciled, k ∈ reconciled)
    (hlost : ∀ k ∈ s.firstActionable, k ∉ reconciled → r.holds s.orders k = true →
      heldBesides s i k = true) :
    NewOrdersReconciled (endRun { s with reconciled, webhooks } i) := by
  have hothers : ∀ j r', s.runs.get? j = some r' → j ≠ i →
      (s.runs.deleteWhere fun k _ => k == i).get? j = some r' := by
    intro j r' hr' hj
    rw [Table.get?_deleteWhere]
    exact ⟨hr', beq_eq_false_iff_ne.mpr hj⟩
  apply reconciled_of_covers h
  · exact fun k hk => Or.inl hk
  · exact hdone
  · intro k hk j r' hr' hholds
    by_cases hpassed : k ∈ reconciled
    · exact Or.inl hpassed
    by_cases hj : j = i
    · subst hj
      cases hr.symm.trans hr'
      obtain ⟨j', r'', hr'', hj', hholds'⟩ := heldBesides_iff.mp (hlost k hk hpassed hholds)
      exact Or.inr ⟨j', r'', hothers j' r'' hr'' hj', hholds'⟩
    · exact Or.inr ⟨j, r', hothers j r' hr' hj, hholds⟩

end Holds

/-! ### Steps -/

section Steps

variable {s : Windows} {r : OrderRun} {i : Nat}

/-- A run that is left by an exception. -/
theorem reconciled_failRun (h : NewOrdersReconciled s) (hr : s.runs.get? i = some r)
    (hlost : losesNothing s i r (fun _ => false) = true) :
    NewOrdersReconciled (failRun s i r.kind) := by
  have hnone : ∀ k ∈ s.firstActionable, k ∉ s.reconciled → r.holds s.orders k = true →
      heldBesides s i k = true := by
    intro k hk hpassed hholds
    exact (losesNothing_iff.mp hlost k hk hpassed hholds).resolve_left nofun
  unfold failRun
  split
  · exact reconciled_endRun h hr (fun _ hk => hk) hnone
  · exact reconciled_endRun h hr (fun _ hk => hk) hnone

/-- The run that is to find a new order: its own, or another one. -/
theorem expected_of_fits {o : SyncedOrder} (hr : s.runs.get? i = some r)
    (hfits : actionFits s i r (.ingest o) = true) (hmay : r.mayIngest s.now o = true)
    (hnew : isNewActionable s o = true) :
    ∃ j r', s.runs.get? j = some r' ∧ r'.kind.reconciles = true ∧ r'.newOrderIds = none ∧
      r'.inWindow o = true := by
  rw [actionFits, hmay, hnew, Bool.not_true, Bool.or_false, Bool.or_false, Bool.or_eq_true] at hfits
  rcases hfits with hown | hexpected
  · simp only [OrderRun.mayIngest, Bool.and_eq_true, Option.isNone_iff_eq_none] at hmay
    exact ⟨i, r, hr, hown, hmay.1.1, hmay.1.2⟩
  · obtain ⟨j, r', hr', hexpected⟩ := Table.any_iff.mp hexpected
    simp only [Bool.and_eq_true, Option.isNone_iff_eq_none] at hexpected
    exact ⟨j, r', hr', hexpected.1.1, hexpected.1.2, hexpected.2⟩

/-- The payload of an order: a new order is created in the window of its run, or of
another one. -/
theorem reconciled_ingest (h : NewOrdersReconciled s) (hr : s.runs.get? i = some r)
    {o : SyncedOrder} (hfits : actionFits s i r (.ingest o) = true) :
    NewOrdersReconciled (runStep s i r (.ingest o)) := by
  unfold runStep
  dsimp only
  split
  · rename_i hmay
    unfold ingestOrder
    dsimp only
    split
    · exact reconciled_of_grows h (coversOrders_update _ _) (fun _ _ hr => hr) rfl rfl
    · rename_i hfresh
      apply reconciled_of_covers h
      · intro k hk
        split at hk
        · rename_i hactionable
          rcases List.mem_cons.mp hk with rfl | hk
          · -- the new order
            have hrow : (s.orders.create o).get? s.orders.nextKey = some o :=
              Table.get?_create.trans (if_pos rfl)
            have hexpected : ∃ j r', s.runs.get? j = some r' ∧ r'.kind.reconciles = true ∧
                r'.newOrderIds = none ∧ r'.inWindow o = true := by
              apply expected_of_fits hr hfits hmay
              rw [isNewActionable, hactionable, Bool.eq_false_iff.mpr hfresh]
              rfl
            obtain ⟨j, r', hr', hkind, hids, hwindow⟩ := hexpected
            refine Or.inr ⟨j, r', hr', ?_⟩
            rw [OrderRun.holds, hkind, hids, hrow]
            exact hwindow
          · exact Or.inl hk
        · exact Or.inl hk
      · exact fun k hk => hk
      · intro k _ j r' hr' hholds
        exact Or.inr ⟨j, r', hr', holds_of_coversOrders (coversOrders_create o) hholds⟩
  · exact h

/-- **The query**: what it does not select is with another run. -/
theorem reconciled_query (h : NewOrdersReconciled s) (hr : s.runs.get? i = some r)
    (hlost : losesNothing s i r (fun k => (newOrderIds s.orders r).contains k) = true) :
    NewOrdersReconciled
      { s with runs := s.runs.set i { r with newOrderIds := some (newOrderIds s.orders r) } } := by
  apply reconciled_of_covers h
  · exact fun k hk => Or.inl hk
  · exact fun k hk => hk
  · intro k hk j r' hr' hholds
    by_cases hpassed : k ∈ s.reconciled
    · exact Or.inl hpassed
    have hother : ∀ j' r'', s.runs.get? j' = some r'' → j' ≠ i → r''.holds s.orders k = true →
        ∃ j r', (s.runs.set i { r with newOrderIds := some (newOrderIds s.orders r) }).get? j
          = some r' ∧ r'.holds s.orders k = true :=
      fun j' r'' hr'' hj' hholds' => ⟨j', r'', (Table.get?_set_ne hj').trans hr'', hholds'⟩
    by_cases hj : j = i
    · subst hj
      cases hr.symm.trans hr'
      rcases losesNothing_iff.mp hlost k hk hpassed hholds with hselected | hbesides
      · refine Or.inr ⟨j, _, Table.get?_set_self hr, ?_⟩
        rw [OrderRun.holds, ((Bool.and_eq_true _ _).mp hholds).1]
        exact hselected
      · obtain ⟨j', r'', hr'', hj', hholds'⟩ := heldBesides_iff.mp hbesides
        exact Or.inr (hother j' r'' hr'' hj' hholds')
    · exact Or.inr (hother j r' hr' hj hholds)

/-- **The call**: the orders of the run have been reconciled. -/
theorem reconciled_reconcileRun (h : NewOrdersReconciled s) (hr : s.runs.get? i = some r)
    {ids : List Nat} (hids : r.newOrderIds = some ids) (raised : Bool) :
    NewOrdersReconciled (reconcileRun s i r.kind ids raised) := by
  have hdone : ∀ k ∈ s.reconciled, k ∈ ids ++ s.reconciled :=
    fun k hk => List.mem_append_right ids hk
  have hlost : ∀ k ∈ s.firstActionable, k ∉ ids ++ s.reconciled → r.holds s.orders k = true →
      heldBesides s i k = true := by
    intro k _ hpassed hholds
    rw [OrderRun.holds, hids, Bool.and_eq_true, List.contains_iff_mem] at hholds
    exact absurd (List.mem_append_left s.reconciled hholds.2) hpassed
  unfold reconcileRun
  dsimp only
  split
  · rename_i event hkind
    split
    · rw [hkind]
      exact reconciled_endRun h hr hdone hlost
    · exact reconciled_endRun h hr hdone hlost
  · exact reconciled_endRun h hr hdone hlost

/-- **One step of a run.** -/
theorem reconciled_runStep (h : NewOrdersReconciled s) (hr : s.runs.get? i = some r)
    {a : RunAction} (hfits : actionFits s i r a = true) : NewOrdersReconciled (runStep s i r a) := by
  cases a with
  | ingest o => exact reconciled_ingest h hr hfits
  | accountRaises =>
    have hfail : losesNothing s i r (fun _ => false) = true →
        NewOrdersReconciled (failRun s i r.kind) := reconciled_failRun h hr
    unfold runStep
    unfold actionFits at hfits
    dsimp only at hfits ⊢
    split
    · exact h
    · rename_i hkind
      split at hfits
      · rename_i hchain
        exact absurd hchain hkind
      rcases hids : r.newOrderIds with - | ids
      · rw [hids] at hfits
        exact hfail hfits
      · exact h
  | query raised =>
    unfold runStep
    unfold actionFits at hfits
    dsimp only at hfits ⊢
    split
    · rename_i hquery
      rw [Bool.and_eq_true, Option.isNone_iff_eq_none] at hquery
      rw [hquery.2] at hfits
      cases raised with
      | true => exact reconciled_failRun h hr hfits
      | false => exact reconciled_query h hr hfits
    · exact h
  | reconcile raised =>
    rw [runStep]
    rcases hids : r.newOrderIds with - | ids
    · exact h
    · exact reconciled_reconcileRun h hr hids raised
  | finish =>
    unfold runStep
    dsimp only
    split
    · exact h
    · rename_i hkind
      refine reconciled_endRun h hr (fun _ hk => hk) fun k _ _ hholds => ?_
      exact absurd ((Bool.and_eq_true _ _).mp hholds).1 hkind
  | crash =>
    refine reconciled_endRun h hr (fun _ hk => hk) fun k hk hpassed hholds => ?_
    exact (losesNothing_iff.mp hfits k hk hpassed hholds).resolve_left nofun

/-- **One step.** -/
theorem reconciled_step (h : NewOrdersReconciled s) {e : WindowEvent} (hfits : WindowFits s e) :
    NewOrdersReconciled (windowStep s e) := by
  cases e with
  | wait seconds => exact reconciled_of_grows h (CoversOrders.refl _) (fun _ _ hr => hr) rfl rfl
  | update order status =>
    exact reconciled_of_grows h (coversOrders_update _ _) (fun _ _ hr => hr) rfl rfl
  | accept account => exact reconciled_of_grows h (CoversOrders.refl _) (fun _ _ hr => hr) rfl rfl
  | startChain => exact reconciled_startRun h .chain none
  | startWebhook =>
    rw [windowStep]
    rcases claimNextEvent s.now s.webhooks with ⟨- | ⟨k, event⟩, webhooks⟩
    · exact reconciled_of_grows h (CoversOrders.refl _) (fun _ _ hr => hr) rfl rfl
    · have hclaimed : NewOrdersReconciled { s with webhooks } :=
        reconciled_of_grows h (CoversOrders.refl _) (fun _ _ hr => hr) rfl rfl
      exact reconciled_startRun hclaimed (.webhook k) (some event.integrationAccount)
  | startRefresh account => exact reconciled_startRun h .refresh (some account)
  | startRecovery account => exact reconciled_startRun h .recovery (some account)
  | act i a =>
    rw [WindowFits, windowFits] at hfits
    rw [windowStep]
    rcases hr : s.runs.get? i with - | r
    · exact h
    · rw [hr] at hfits
      exact reconciled_runStep h hr hfits

end Steps

/-! ### Runs -/

/-- With no run under way that reconciles, everything has been reconciled. -/
theorem reconciled_of_idle {s : Windows} (h : NewOrdersReconciled s) (hidle : Idle s) :
    ∀ k ∈ s.firstActionable, k ∈ s.reconciled := by
  intro k hk
  rcases h k hk with hpassed | ⟨i, r, hr, hholds⟩
  · exact hpassed
  · rw [OrderRun.holds, hidle i r hr] at hholds
    cases hholds

/-- **New orders are reconciled.**  In every interleaving of chains, refreshes, webhook
runs and recoveries whose steps keep to their condition, an order that was first
actionable is with a run that is to reconcile it until it has been reconciled; so it has
been whenever no such run is under way. -/
theorem new_orders_reconciled (s : Windows) (h : NewOrdersReconciled s) (es : List WindowEvent)
    (hfits : Along windowStep WindowFits s es) :
    Always windowStep NewOrdersReconciled s es ∧
      Always windowStep (fun t => Idle t → ∀ k ∈ t.firstActionable, k ∈ t.reconciled) s es := by
  have halways : Always windowStep NewOrdersReconciled s es :=
    always_of_along (fun _ _ hs he => reconciled_step hs he) h hfits
  exact ⟨halways, halways.mono fun _ => reconciled_of_idle⟩

/-! ### A shop without orders -/

theorem empty_reconciled : NewOrdersReconciled {} := nofun

/-- An order of account 1, made at a time. -/
def newOrder (createdAt : Nat) : SyncedOrder where
  account := 1
  storeOrderId := "77"
  status := .pending
  createdAt := createdAt

/-- A refresh creates an order while a chain is under way; a webhook of the account is
processed meanwhile. -/
def coveredRefresh : List WindowEvent :=
  [.accept 1, .startChain, .wait 5, .startRefresh 1, .act 1 (.ingest (newOrder 5)), .act 1 .finish,
    .startWebhook, .act 1 (.query false), .act 1 (.reconcile false),
    .act 0 .accountRaises, .act 0 (.query false), .act 0 (.reconcile true)]

theorem new_orders_reconciled_single :
    Always windowStep NewOrdersReconciled {} coveredRefresh ∧
      Always windowStep (fun t => Idle t → ∀ k ∈ t.firstActionable, k ∈ t.reconciled) {}
        coveredRefresh :=
  new_orders_reconciled {} empty_reconciled coveredRefresh (by decide)

/-- A chain that finds no new order. -/
def laterChain (run : Nat) : List WindowEvent :=
  [.wait 60, .startChain, .act run (.query false), .act run (.reconcile false)]

/-- The order is not reconciled by the end. -/
def missed (s : Windows) : Bool :=
  s.runs.rows.isEmpty && s.firstActionable.any fun k => !s.reconciled.contains k

/-- **Orders that are not reconciled**: one a refresh creates between two chains, one
that is recovered from an e-mail, one of a webhook run that raises for the item orders and
is retried, and one that is disputed when the chain asks and resolved after. -/
theorem new_orders_reconciled_fails :
    missed (run windowStep {}
        ([.startRefresh 1, .act 0 (.ingest (newOrder 0)), .act 0 .finish] ++ laterChain 0)) ∧
      missed (run windowStep {}
        ([.startRecovery 1, .act 0 (.ingest (newOrder 0)), .act 0 .finish] ++ laterChain 0)) ∧
      missed (run windowStep {}
        ([.accept 1, .startWebhook, .act 0 (.ingest (newOrder 0)), .act 0 .accountRaises, .wait 60,
          .startWebhook, .act 0 (.query false), .act 0 (.reconcile false)] ++ laterChain 0)) ∧
      missed (run windowStep {}
        ([.startChain, .act 0 (.ingest (newOrder 0)), .update 0 .disputed, .act 0 (.query false),
          .act 0 (.reconcile false), .update 0 .disputeResolved] ++ laterChain 0)) := by
  decide

end Sda.Sync
