/-
Sda/Sync/Notifications.lean

The notification poll of Eldorado (`EldoradoNotificationStatusSync`,
sync/services/eldorado/notifications/status_sync.py): collect the unread
notifications from the newest down to the stored watermark, set the status of
the orders they name, store the newest id as the new watermark.

The collected notifications are applied in the order of the collection, the
newest first.

* `collectNotifications` — the walk over the pages, for any answers of the API;
* `syncAccount` — one poll of one account;
* `syncAccount_order` — what a poll leaves of an order: the status of the
  oldest notification about it;
* `replay_newest_iff` — when that is the status of the newest one.
-/
import Sda.Lib.Text
import Sda.Pool.Db
import Sda.Sync.Models

namespace Sda.Sync

/-- `orders.Order`, the columns the poll and the status refresh read or write. -/
structure Order where
  provider : Provider
  account : Nat
  storeOrderId : String
  storeListingId : String := ""
  soldAt : Option Nat := none
  status : OrderStatus
  deriving DecidableEq, Repr

/-- `detailsId` is `""` where the API sends none. -/
structure Notification where
  id : String
  type : String
  event : String
  detailsId : String
  deriving DecidableEq, Repr

structure NotificationPage where
  results : List Notification
  nextPageCursor : String := ""
  deriving DecidableEq, Repr

/-- What `get_notifications` answers. -/
inductive NotificationsAnswer
  | failed (error : String)
  | page (data : NotificationPage)
  deriving DecidableEq, Repr

/-- `_EVENT_STATUS_MAP`. -/
def eventStatusMap : String → Option OrderStatus
  | "OrderDelivered" => some .delivered
  | "OrderCancelledBySeller" => some .cancelled
  | "OrderDisputed" => some .disputed
  | "OrderCancelledByAdminAfterDispute" => some .cancelled
  | "OrderReceivedByAdminAfterDispute" => some .disputeResolved
  | "OrderReceivedByBuyerAfterDispute" => some .completed
  | _ => none

/-- `_CURSOR_TOP`. -/
def cursorTop : String := "9999-99-99 99:99:99.999999999999999-9999-9999-9999-999999999999"

/-! ### The walk over the pages -/

/-- What the walk has gathered. -/
structure Collected where
  newNotifications : List Notification := []
  mostRecentId : Option String := none
  deriving DecidableEq, Repr

/-- `for item in page.results`, and whether it met the watermark. -/
def collectPage (lastSeenId : String) : List Notification → Collected → Collected × Bool
  | [], c => (c, false)
  | n :: results, c =>
    let c := { c with mostRecentId := c.mostRecentId.or (some n.id) }
    -- the item that stops the walk still counts as the most recent one
    if lastSeenId ≠ "" ∧ n.id = lastSeenId then (c, true)
    else collectPage lastSeenId results { c with newNotifications := c.newNotifications ++ [n] }

/-- `while not hit_watermark`, from call `n` on; `none` when the worker dies
before the walk ends. -/
def collectNotifications (getNotifications : Nat → String → NotificationsAnswer)
    (lastSeenId : String) : Nat → Nat → String → Collected → Option Collected
  | 0, _, _, _ => none
  | calls + 1, n, cursor, c =>
    match getNotifications n cursor with
    -- an error ends the walk, not the poll: what is collected is applied
    | .failed _ => some c
    | .page page =>
      if page.results.isEmpty then some c
      else
        let (c, hitWatermark) := collectPage lastSeenId page.results c
        if page.nextPageCursor = "" ∨ hitWatermark = true then some c
        else collectNotifications getNotifications lastSeenId calls (n + 1) page.nextPageCursor c

/-! ### Applying the notifications -/

/-- A call of `notify_sale`. -/
structure SaleNotice where
  listing : Nat
  eventKey : String
  order : Nat
  deriving DecidableEq, Repr

/-- The rows of a poll, the sale notices it gave, and its counters. -/
structure StatusSync where
  checkpoint : SyncCheckpoint := { mode := .incremental }
  orders : Table Order := Table.empty
  listings : Table Listing := Table.empty
  sales : List SaleNotice := []
  updated : Nat := 0
  skipped : Nat := 0

/-- The orders a notification names. -/
def isOrderOf (detailsId : String) (o : Order) : Bool :=
  o.storeOrderId == detailsId && o.provider == .eldorado

/-- The notices of `_notify_pool_sale`: one for each order whose listing the
account has. -/
def poolSales (account : Nat) (listings : Table Listing) (orders : List (Nat × Order)) :
    List SaleNotice :=
  orders.filterMap fun (order, o) =>
    ((listings.select fun _ r =>
      o.storeListingId != "" && r.storeListingId == o.storeListingId
        && r.integrationAccount == some account).getLast?).map fun (listing, _) =>
      { listing, order, eventKey := "eldorado:" ++ natText account ++ ":" ++ o.storeOrderId }

/-- An exception in `notify_sale` drops the notices after it. -/
def noticesMade (raises : SaleNotice → Bool) : List SaleNotice → List SaleNotice
  | [] => []
  | s :: rest => if raises s then [s] else s :: noticesMade raises rest

/-- The body of the loop over the collected notifications. -/
def applyNotification (account : Nat) (raises : SaleNotice → Bool) (s : StatusSync)
    (n : Notification) : StatusSync :=
  if n.type = "ActionRequired" then
    { s with skipped := s.skipped + 1 }
  else
    match eventStatusMap n.event with
    -- an event without a status is counted as skipped
    | none => { s with skipped := s.skipped + 1 }
    | some newStatus =>
      if n.detailsId = "" then
        { s with skipped := s.skipped + 1 }
      else
        let orders := s.orders.select fun _ => isOrderOf n.detailsId
        if orders.isEmpty then
          { s with skipped := s.skipped + 1 }
        else
          { s with
            orders := s.orders.updateWhere (fun k _ => (orders.map Prod.fst).contains k)
              fun o => { o with status := newStatus }
            updated := s.updated + orders.length
            sales :=
              if n.event = "OrderDelivered" ∨ n.event = "OrderReceivedByBuyerAfterDispute" then
                s.sales ++ noticesMade raises (poolSales account s.listings orders)
              else s.sales }

/-- The watermark of a checkpoint moves. -/
def SyncCheckpoint.watermark (cp : SyncCheckpoint) (id : String) (now : Nat) : SyncCheckpoint :=
  { cp with lastSeenRemoteId := id, lastRunAt := some now }

/-- What follows the walk. -/
def processNotifications (account : Nat) (raises : SaleNotice → Bool) (now : Nat) (c : Collected)
    (s : StatusSync) : StatusSync :=
  let recent := c.mostRecentId.getD ""
  if s.checkpoint.lastSeenRemoteId = "" ∧ recent ≠ "" then
    -- bootstrap: only the watermark is saved
    { s with checkpoint := s.checkpoint.watermark recent now }
  else
    -- newest first, as they were collected
    let s' := c.newNotifications.foldl (applyNotification account raises) s
    if recent = "" then s'
    else { s' with checkpoint := s'.checkpoint.watermark recent now }

/-- **`_sync_account`**. -/
def syncAccount (getNotifications : Nat → String → NotificationsAnswer) (calls account : Nat)
    (raises : SaleNotice → Bool) (now : Nat) (s : StatusSync) : StatusSync :=
  match collectNotifications getNotifications s.checkpoint.lastSeenRemoteId calls 0 cursorTop {} with
  | none => s
  | some c => processNotifications account raises now c s

/-! ### What the notifications say about an order -/

/-- The status a notification is mapped to, if it is about the order. -/
def verdict (o : Order) (n : Notification) : Option OrderStatus :=
  if n.type = "ActionRequired" ∨ n.detailsId = "" ∨ isOrderOf n.detailsId o = false then none
  else eventStatusMap n.event

/-- The statuses of the mapped notifications about an order, in list order. -/
def verdicts (o : Order) (l : List Notification) : List OrderStatus :=
  l.filterMap (verdict o)

section Apply

variable {account : Nat} {raises : SaleNotice → Bool} {s : StatusSync} {n : Notification}
variable {k : Nat} {o : Order}

@[simp] theorem verdicts_nil (o : Order) : verdicts o [] = [] := rfl

theorem verdicts_cons (o : Order) (n : Notification) (l : List Notification) :
    verdicts o (n :: l) = (verdict o n).toList ++ verdicts o l := by
  rcases h : verdict o n with - | st <;> simp [verdicts, h]

/-- A new status does not change what notifications are about an order. -/
@[simp] theorem verdict_status (o : Order) (st : OrderStatus) (n : Notification) :
    verdict { o with status := st } n = verdict o n := rfl

theorem verdicts_status (o : Order) (st : OrderStatus) (l : List Notification) :
    verdicts { o with status := st } l = verdicts o l := rfl

/-- **One notification**: an order it is about takes its status. -/
theorem applyNotification_order (h : s.orders.get? k = some o) :
    (applyNotification account raises s n).orders.get? k
      = some { o with status := (verdict o n).getD o.status } := by
  unfold applyNotification verdict
  by_cases htype : n.type = "ActionRequired"
  · rw [if_pos htype, if_pos (.inl htype)]
    exact h
  rw [if_neg htype]
  rcases hevent : eventStatusMap n.event with - | st
  · rw [ite_self]
    exact h
  by_cases hdetails : n.detailsId = ""
  · simp only [hdetails, if_true, true_or, or_true]
    exact h
  simp only [hdetails, htype, if_false, false_or]
  by_cases hof : isOrderOf n.detailsId o = true
  · -- the order is among the rows the notification selects
    have hmem : (k, o) ∈ s.orders.select fun _ => isOrderOf n.detailsId :=
      Table.mem_select.mpr ⟨h, hof⟩
    have hkey : ((s.orders.select fun _ => isOrderOf n.detailsId).map Prod.fst).contains k = true :=
      List.contains_iff_mem.mpr (List.mem_map.mpr ⟨_, hmem, rfl⟩)
    have hne : (s.orders.select fun _ => isOrderOf n.detailsId).isEmpty = false := by
      rw [List.isEmpty_eq_false_iff]
      exact List.ne_nil_of_mem hmem
    rw [hne, if_neg Bool.false_ne_true, Table.get?_updateWhere, h, Option.map_some, if_pos hkey,
      hof]
    rfl
  · have hof' : isOrderOf n.detailsId o = false := Bool.not_eq_true _ ▸ hof
    rw [if_pos hof']
    split
    · exact h
    · have hkey : ¬((s.orders.select fun _ => isOrderOf n.detailsId).map Prod.fst).contains k
          = true := by
        rw [List.contains_iff_mem, List.mem_map]
        rintro ⟨⟨k', o'⟩, hmem, rfl⟩
        obtain ⟨ho', hof''⟩ := Table.mem_select.mp hmem
        cases h.symm.trans ho'
        exact hof hof''
      rw [Table.get?_updateWhere, h, Option.map_some, if_neg hkey]
      rfl

theorem applyNotification_checkpoint :
    (applyNotification account raises s n).checkpoint = s.checkpoint := by
  unfold applyNotification
  split
  · rfl
  split
  · rfl
  · split
    · rfl
    · dsimp only
      split <;> rfl

/-- **A list of notifications**: an order ends with the status of the last
mapped one about it. -/
theorem applyNotifications_order (l : List Notification) (h : s.orders.get? k = some o) :
    (l.foldl (applyNotification account raises) s).orders.get? k
      = some { o with status := ((verdicts o l).getLast?).getD o.status } := by
  induction l generalizing s o with
  | nil => exact h
  -- the verdicts of the rest do not depend on the status the first one left
  | cons n l ih =>
    rw [List.foldl_cons, ih (applyNotification_order h), verdicts_status, verdicts_cons]
    rcases verdict o n with - | st
    · rfl
    · rw [Option.toList_some, List.singleton_append, List.getLast?_cons]
      rfl

theorem applyNotifications_checkpoint (l : List Notification) :
    (l.foldl (applyNotification account raises) s).checkpoint = s.checkpoint := by
  induction l generalizing s with
  | nil => rfl
  | cons n l ih => rw [List.foldl_cons, ih, applyNotification_checkpoint]

end Apply

/-! ### The order of the replay -/

/-- The newest of the notifications collected, listed newest first, decides
the status of every order. -/
def EndsNewest (collected : List Notification) (s s' : StatusSync) : Prop :=
  ∀ k o, s.orders.get? k = some o →
    s'.orders.get? k = some { o with status := ((verdicts o collected).head?).getD o.status }

/-- The poll is the first one of the account. -/
def Bootstraps (c : Collected) (s : StatusSync) : Prop :=
  s.checkpoint.lastSeenRemoteId = "" ∧ c.mostRecentId.getD "" ≠ ""

instance (c : Collected) (s : StatusSync) : Decidable (Bootstraps c s) :=
  inferInstanceAs (Decidable (_ ∧ _))

section Replay

variable {getNotifications : Nat → String → NotificationsAnswer} {calls account now k : Nat}
variable {raises : SaleNotice → Bool} {s : StatusSync} {c : Collected} {o : Order}

/-- **The chronological replay** ends every order with the status of its
newest notification. -/
theorem chronological_endsNewest (collected : List Notification) (s : StatusSync) :
    EndsNewest collected s
      (collected.reverse.foldl (applyNotification account raises) s) := by
  intro k o ho
  rw [applyNotifications_order _ ho]
  -- the last verdict of the reversed list is the first one
  show some { o with status := ((collected.reverse.filterMap (verdict o)).getLast?).getD o.status }
    = _
  rw [List.filterMap_reverse, List.getLast?_reverse]
  rfl

theorem processNotifications_bootstrap (h : Bootstraps c s) :
    processNotifications account raises now c s
      = { s with checkpoint := s.checkpoint.watermark (c.mostRecentId.getD "") now } :=
  if_pos h

theorem processNotifications_replay (h : ¬Bootstraps c s) :
    processNotifications account raises now c s =
      let s' := c.newNotifications.foldl (applyNotification account raises) s
      if c.mostRecentId.getD "" = "" then s'
      else { s' with checkpoint := s'.checkpoint.watermark (c.mostRecentId.getD "") now } :=
  if_neg h

theorem processNotifications_orders (h : ¬Bootstraps c s) :
    (processNotifications account raises now c s).orders
      = (c.newNotifications.foldl (applyNotification account raises) s).orders := by
  rw [processNotifications_replay h]
  dsimp only
  split <;> rfl

/-- **What a poll leaves of an order**: the status of the last mapped
notification of the collection, which is the oldest; a bootstrap leaves it
alone. -/
theorem syncAccount_order
    (hc : collectNotifications getNotifications s.checkpoint.lastSeenRemoteId calls 0 cursorTop {}
      = some c) (ho : s.orders.get? k = some o) :
    (syncAccount getNotifications calls account raises now s).orders.get? k =
      some { o with status :=
        if Bootstraps c s then o.status
        else ((verdicts o c.newNotifications).getLast?).getD o.status } := by
  unfold syncAccount
  rw [hc]
  by_cases hboot : Bootstraps c s
  · rw [if_pos hboot]
    show (processNotifications account raises now c s).orders.get? k = _
    rw [processNotifications_bootstrap hboot]
    exact ho
  · rw [if_neg hboot]
    show (processNotifications account raises now c s).orders.get? k = _
    rw [processNotifications_orders hboot, applyNotifications_order _ ho]

/-- **When a poll replays soundly.**  Every order ends with the status of its
newest collected notification exactly when, for every order, the oldest one
says the same; in a bootstrap, exactly when the order has that status already. -/
theorem replay_newest_iff
    (hc : collectNotifications getNotifications s.checkpoint.lastSeenRemoteId calls 0 cursorTop {}
      = some c) :
    EndsNewest c.newNotifications s (syncAccount getNotifications calls account raises now s) ↔
      ∀ k o, s.orders.get? k = some o →
        ((verdicts o c.newNotifications).head?).getD o.status =
          if Bootstraps c s then o.status
          else ((verdicts o c.newNotifications).getLast?).getD o.status := by
  constructor
  · intro hends k o ho
    have hend := hends k o ho
    -- the rows differ at most in their status
    rw [syncAccount_order hc ho, Option.some.injEq, Order.mk.injEq] at hend
    exact hend.2.2.2.2.2.symm
  · intro hsame k o ho
    rw [syncAccount_order hc ho, hsame k o ho]

/-- An order that was disputed and then received by its buyer. -/
def disputedOrder : StatusSync where
  checkpoint := { mode := .incremental, lastSeenRemoteId := "n0" }
  orders := Table.empty.create
    { provider := .eldorado, account := 1, storeOrderId := "o1", status := .delivered }

/-- Both events on one page, the newest first. -/
def disputeSettled : Nat → String → NotificationsAnswer := fun _ _ =>
  .page { results :=
    [⟨"n2", "Order", "OrderReceivedByBuyerAfterDispute", "o1"⟩,
      ⟨"n1", "Order", "OrderDisputed", "o1"⟩,
      ⟨"n0", "Order", "OrderDelivered", "o1"⟩] }

/-- What the poll collects there. -/
def disputeCollected : Collected where
  newNotifications :=
    [⟨"n2", "Order", "OrderReceivedByBuyerAfterDispute", "o1"⟩,
      ⟨"n1", "Order", "OrderDisputed", "o1"⟩]
  mostRecentId := some "n2"

theorem replay_newest_at_dispute :
    EndsNewest disputeCollected.newNotifications disputedOrder
        (syncAccount disputeSettled 1 1 (fun _ => false) 0 disputedOrder) ↔
      ∀ k o, disputedOrder.orders.get? k = some o →
        ((verdicts o disputeCollected.newNotifications).head?).getD o.status =
          if Bootstraps disputeCollected disputedOrder then o.status
          else ((verdicts o disputeCollected.newNotifications).getLast?).getD o.status :=
  replay_newest_iff (by decide)

/-- The order goes back to disputed. -/
theorem replay_newest_fails :
    ¬EndsNewest disputeCollected.newNotifications disputedOrder
      (syncAccount disputeSettled 1 1 (fun _ => false) 0 disputedOrder) := by
  intro hends
  have hend := hends 0 _ rfl
  revert hend
  decide

end Replay

end Sda.Sync
