/-
Sda/Orders/Replace.lean

The replacement of a faulty account (`order_replace` and
`order_emergency_replace`, orders/views.py).

Both views take one PENDING item that no PoolOffer and no reservation has, from
the pool of the replaced account, and in one transaction retire it, mark the old
product REPLACED, put the new product on the order, and retire the item of the
old product.  They differ in how the old item is found: by the product of the
order, or named by the staff and checked.

The role check, the delivery of the credentials after the commit and its columns
are left out.  A row another transaction holds is not selected (`skip_locked`);
the selection here is over the rows it does see.
-/
import Sda.Orders.Signals

namespace Sda.Orders

/-! ### Requests and answers -/

inductive ViewError
  /-- `JsonResponse({'ok': False, 'error': error}, status=status)`. -/
  | json (status : Nat) (error : String)
  | notFound
  | raised (exc : PyError)
  deriving DecidableEq, Repr

/-- A row, or the answer when there is none. -/
def orAnswer {α : Type} (row : Option α) (answer : ViewError) : Except ViewError α :=
  match row with
  | some a => .ok a
  | none => .error answer

/-- `if refused: return answer`. -/
def refuse (refused : Bool) (answer : ViewError) : Except ViewError Unit :=
  if refused then .error answer else .ok ()

theorem orAnswer_ok {α : Type} {row : Option α} {answer : ViewError} {a : α}
    (h : orAnswer row answer = .ok a) : row = some a := by
  cases row with
  | none => cases h
  | some b => cases h; rfl

/-- The columns of the locked order the views read. -/
structure OrderColumns where
  isInstant : Bool := true
  dropshipProduct : Option Nat := none
  integrationAccount : Option Nat := none
  listing : Option Nat := none
  game : Option Nat := none
  deriving DecidableEq, Repr

/-- The form fields. -/
structure ReplaceRequest where
  reason : String := ""
  employeeName : String := ""
  /-- `int(request.POST.get('old_pool_item_id', ''))`, when it is a number. -/
  oldPoolItemId : Option Nat := none
  deriving DecidableEq, Repr

def reasonMissing : ViewError :=
  .json 400 "Reason and employee name are required."

/-- `len(reason) < 3 or not employee_name`, both stripped. -/
def ReplaceRequest.incomplete (req : ReplaceRequest) : Bool :=
  (stripText req.reason).length < 3 || stripText req.employeeName == ""

/-! ### The stock -/

/-- PENDING, without PoolOffer, reservation or error. -/
def isUnallocated (pool old : Nat) (r : ItemRow) : Bool :=
  r.pool == pool && r.status == .pending && r.poolOffer.isNone && r.reservation.isNone &&
    r.ownedProduct != old && r.errorMessage == ""

/-- `order_by('id')`. -/
def idOrder (a b : Nat × ItemRow) : Prop := a.1 ≤ b.1

instance : DecidableRel idOrder := fun a b => inferInstanceAs (Decidable (a.1 ≤ b.1))

/-- The items a replacement may take, in the order of their ids. -/
def replacementStock (db : Db) (pool old : Nat) : List (Nat × ItemRow) :=
  (db.items.table.select fun _ r => isUnallocated pool old r).insertionSort idOrder

/-- The newest item of a product. -/
def newestItem (db : Db) (product : Nat) : Option (Nat × ItemRow) :=
  ((db.items.table.select fun _ r => r.ownedProduct == product).insertionSort idOrder).getLast?

/-- `item`, or the answer that there is none. -/
def takeReplacement (db : Db) (pool old : Nat) : Except ViewError (Nat × ItemRow) :=
  orAnswer (replacementStock db pool old).head?
    (.json 409 "No unallocated pool stock available for this product.")

/-! ### The swap -/

/-- The row of the item that is taken. -/
def takenRow (item : ItemRow) (now : Nat) : ItemRow :=
  { item with status := .removed, consumedAt := some now }

/-- The row of the old item. -/
def retiredRow (item : ItemRow) (message : String) : ItemRow :=
  { item with status := .removed, errorMessage := message }

def saveItem (s : Shop) (k : Nat) (row : ItemRow) : Except ViewError Shop :=
  match s.db.saveItem k row with
  | .ok db => .ok { s with db }
  | .error exc => .error (.raised exc)

/-- The order as it is saved with its new product. -/
def replacedOrder (s : Shop) (status : OrderStatus) (columns : OrderColumns) (new : Nat) :
    OrderInstance where
  status
  owned := fetched s new none
  integrationAccount := columns.integrationAccount
  listing := columns.listing
  dropshipProduct := columns.dropshipProduct

/-- The old item, unless it is left as it is. -/
def retireItem (s : Shop) (retired : Option (Nat × ItemRow)) : Except ViewError Shop :=
  match retired with
  | some (k, row) => saveItem s k row
  | none => .ok s

/-- The order, once the item is taken: the old product is REPLACED, the order
saved with the new one. -/
def swapOrder (s : Shop) (orderId : Nat) (status : OrderStatus) (columns : OrderColumns)
    (old new : Nat) : Shop :=
  saveOrder (setProductStatus s old .replaced) (some orderId) (replacedOrder s status columns new)

/-- The writes both views make: the taken item, the old product, the order, the
old item, the audit row. -/
def swapProduct (s : Shop) (orderId : Nat) (status : OrderStatus) (columns : OrderColumns)
    (old : Nat) (item : Nat × ItemRow) (retired : Option (Nat × ItemRow))
    (audit : OrderReplacement) : Except ViewError (Shop × OrderReplacement) := do
  let taken ← saveItem s item.1 (takenRow item.2 s.db.now)
  let done ← retireItem (swapOrder taken orderId status columns old item.2.ownedProduct) retired
  return ({ done with replacements := done.replacements.create audit }, audit)

/-! ### The views -/

/-- **`order_replace`**. -/
def orderReplace (s : Shop) (orderId : Nat) (columns : OrderColumns) (req : ReplaceRequest) :
    Except ViewError (Shop × OrderReplacement) := do
  let order ← orAnswer (s.db.orders.get? orderId) .notFound
  let _ ← refuse (columns.isInstant || columns.dropshipProduct.isSome)
    (.json 400 "Replacement is only available for self-owned manual-entry accounts.")
  let _ ← refuse req.incomplete reasonMissing
  let old ← orAnswer order.ownedProduct (.json 409
    ("This manual product has no recorded stock-pool link, so a " ++
      "matching replacement cannot be selected automatically."))
  let oldItem ← orAnswer (newestItem s.db old) (.json 409
    ("This account is not linked to a stock pool, so a matching " ++
      "replacement cannot be selected automatically."))
  let item ← takeReplacement s.db oldItem.2.pool old
  let retired :=
    if oldItem.2.status = .removed then none
    else some (oldItem.1, retiredRow oldItem.2 ("Replaced (faulty): " ++ stripText req.reason))
  swapProduct s orderId order.status columns old item retired
    { order := orderId, oldProduct := old, newProduct := item.2.ownedProduct, poolItem := item.1
      reason := stripText req.reason, employeeName := stripText req.employeeName }

/-- `REPLACEABLE_SOLD_STATUSES`. -/
def isReplaceable : OrderStatus → Bool
  | .delivered | .completed | .disputed | .disputeResolved => true
  | _ => false

/-- CONSUMED or REMOVED. -/
def isRetired (r : ItemRow) : Bool :=
  r.status == .consumed || r.status == .removed

/-- Both games are known, and they differ. -/
def gameMismatch (orderGame productGame : Option Nat) : Bool :=
  match orderGame, productGame with
  | some g, some g' => g != g'
  | _, _ => false

def alreadyReplaced (s : Shop) (orderId old : Nat) : Bool :=
  s.replacements.any fun _ r => r.order == orderId && r.oldProduct == old

/-- **`order_emergency_replace`**. -/
def orderEmergencyReplace (s : Shop) (orderId : Nat) (columns : OrderColumns)
    (req : ReplaceRequest) : Except ViewError (Shop × OrderReplacement) := do
  let oldPoolItemId ← orAnswer req.oldPoolItemId
    (.json 400 "Select the exact faulty sold account.")
  let _ ← refuse req.incomplete reasonMissing
  let order ← orAnswer (s.db.orders.get? orderId) .notFound
  let _ ← refuse columns.dropshipProduct.isSome
    (.json 400 "Dropship accounts cannot use emergency pool replacement.")
  let _ ← refuse (!isReplaceable order.status)
    (.json 409 "Emergency replacement requires a confirmed sold order.")
  let oldRow ← orAnswer (s.db.item? oldPoolItemId) .notFound
  let _ ← refuse (!isRetired oldRow)
    (.json 409 "The selected account is not a retired sold pool account.")
  let _ ← refuse (gameMismatch columns.game (s.productGame oldRow.ownedProduct))
    (.json 409 "The selected faulty account does not match this order game.")
  let _ ← refuse (alreadyReplaced s orderId oldRow.ownedProduct)
    (.json 409 "This sold account has already been replaced for this order.")
  let item ← takeReplacement s.db oldRow.pool oldRow.ownedProduct
  swapProduct s orderId order.status columns oldRow.ownedProduct item
    (some (oldPoolItemId,
      retiredRow oldRow ("Emergency replaced (faulty): " ++ stripText req.reason)))
    { order := orderId, oldProduct := oldRow.ownedProduct, newProduct := item.2.ownedProduct
      poolItem := item.1, reason := "Emergency sold-ledger binding: " ++ stripText req.reason
      employeeName := stripText req.employeeName }

/-! ### What a replacement takes and writes -/

section Specs

variable {s s' : Shop} {orderId : Nat} {columns : OrderColumns} {req : ReplaceRequest}
variable {rep : OrderReplacement}

/-- A replacement of a product from a pool: its item is the first of the stock,
and the swap is made with it. -/
structure Replaces (s : Shop) (orderId : Nat) (columns : OrderColumns) (status : OrderStatus)
    (pool : Nat) (s' : Shop) (rep : OrderReplacement) : Prop where
  order : rep.order = orderId
  swap : ∃ row, (replacementStock s.db pool rep.oldProduct).head? = some (rep.poolItem, row) ∧
    rep.newProduct = row.ownedProduct ∧
    ∃ retired, swapProduct s orderId status columns rep.oldProduct (rep.poolItem, row)
      retired rep = .ok (s', rep)

theorem swapProduct_audit {status : OrderStatus} {old : Nat} {item : Nat × ItemRow}
    {retired : Option (Nat × ItemRow)} {audit : OrderReplacement}
    (h : swapProduct s orderId status columns old item retired audit = .ok (s', rep)) :
    rep = audit := by
  obtain ⟨taken, -, h⟩ := except_bind_ok.mp h
  obtain ⟨done, -, h⟩ := except_bind_ok.mp h
  cases h
  rfl

/-- **`order_replace`, when it goes through**: the old product is that of the
order, the pool that of its newest item. -/
theorem orderReplace_ok (h : orderReplace s orderId columns req = .ok (s', rep)) :
    ∃ order oldItem, s.db.orders.get? orderId = some order ∧
      order.ownedProduct = some rep.oldProduct ∧
      newestItem s.db rep.oldProduct = some oldItem ∧
      Replaces s orderId columns order.status oldItem.2.pool s' rep := by
  obtain ⟨order, horder, h⟩ := except_bind_ok.mp h
  obtain ⟨-, -, h⟩ := except_bind_ok.mp h
  obtain ⟨-, -, h⟩ := except_bind_ok.mp h
  obtain ⟨old, hold, h⟩ := except_bind_ok.mp h
  obtain ⟨oldItem, holdItem, h⟩ := except_bind_ok.mp h
  obtain ⟨item, hitem, h⟩ := except_bind_ok.mp h
  cases swapProduct_audit h
  exact ⟨order, oldItem, orAnswer_ok horder, orAnswer_ok hold, orAnswer_ok holdItem,
    rfl, item.2, orAnswer_ok hitem, rfl, _, h⟩

/-- **`order_emergency_replace`, when it goes through**: the old product is that
of the item the staff named. -/
theorem orderEmergencyReplace_ok (h : orderEmergencyReplace s orderId columns req = .ok (s', rep)) :
    ∃ order oldId oldRow, s.db.orders.get? orderId = some order ∧
      req.oldPoolItemId = some oldId ∧ s.db.item? oldId = some oldRow ∧
      oldRow.ownedProduct = rep.oldProduct ∧
      Replaces s orderId columns order.status oldRow.pool s' rep := by
  obtain ⟨oldId, hid, h⟩ := except_bind_ok.mp h
  obtain ⟨-, -, h⟩ := except_bind_ok.mp h
  obtain ⟨order, horder, h⟩ := except_bind_ok.mp h
  obtain ⟨-, -, h⟩ := except_bind_ok.mp h
  obtain ⟨-, -, h⟩ := except_bind_ok.mp h
  obtain ⟨oldRow, holdRow, h⟩ := except_bind_ok.mp h
  obtain ⟨-, -, h⟩ := except_bind_ok.mp h
  obtain ⟨-, -, h⟩ := except_bind_ok.mp h
  obtain ⟨-, -, h⟩ := except_bind_ok.mp h
  obtain ⟨item, hitem, h⟩ := except_bind_ok.mp h
  cases swapProduct_audit h
  exact ⟨order, oldId, oldRow, orAnswer_ok horder, orAnswer_ok hid, orAnswer_ok holdRow, rfl,
    rfl, item.2, orAnswer_ok hitem, rfl, _, h⟩

end Specs

/-- The item of product 7 is CONSUMED, that of product 8 is PENDING. -/
def soldAndSpare : ItemTable :=
  ⟨⟨[(1, { pool := 1, ownedProduct := 7, liveOwnedProduct := some 7
           poolOffer := some 1, status := .consumed }),
    (2, { pool := 1, ownedProduct := 8, liveOwnedProduct := some 8 })], by decide⟩, by decide⟩

end Sda.Orders
