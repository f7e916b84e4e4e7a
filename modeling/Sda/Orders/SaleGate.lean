/-
Sda/Orders/SaleGate.lean

The final-sale gate: no stock is handed out whose product has a COMPLETED or
DELIVERED order.

Four selections hand out PENDING items: the claim of a replenishment
(`claim_pending_items`), the reservation of a new offer
(`reserve_pending_items_for_new_offer`) and the two replacement views.  They ask
for the same columns of the item; the orders of its product are asked for by the
first one alone.

* `sale_gate` — the claim is always gated; each of the others is, exactly when
  its order of selection puts enough gated items first;
* `sale_gate_fails` — a PENDING item whose product has a completed order.
-/
import Sda.Lib.Feed
import Sda.Orders.Replace
import Sda.Pool.Dispatcher
import Sda.Pool.Fencing

namespace Sda.Orders

/-! ### The items the selections see -/

/-- The items of a selection that come before the first one with a final sale. -/
def gatedFirst (db : Db) (items : List (Nat × ItemRow)) : Nat :=
  (above (fun item => hasFinalSaleOrder db item.2.ownedProduct) items).length

/-- No item the reservation takes has a final sale. -/
def ReservesGated (db db' : Db) : Prop :=
  ∀ k r r', db.item? k = some r → db'.item? k = some r' → r.status ≠ .reserved →
    r'.status = .reserved → hasFinalSaleOrder db r.ownedProduct = false

section Gates

variable {db db' : Db} {s s' : Shop}

/-- What a reservation takes: there are enough items, and the selected ones become
RESERVED. -/
theorem reservePendingItems_takes {pool store count n : Nat}
    (h : reservePendingItems db pool store count = .ok (n, db')) :
    count ≤ (reservableItems db pool).length ∧
      ∀ k r, db.item? k = some r → (k ∈ itemsToReserve db pool count ↔
        ∃ r', db'.item? k = some r' ∧ r.status ≠ .reserved ∧ r'.status = .reserved) := by
  obtain ⟨_, -, h⟩ := except_bind_ok.mp h
  obtain ⟨account, -, h⟩ := except_bind_ok.mp h
  obtain ⟨_, -, h⟩ := except_bind_ok.mp h
  split at h
  · cases h
  rename_i henough
  obtain ⟨saved, hs, h⟩ := except_bind_ok.mp h
  have hrows := fun k => Db.item?_updateItems (j := k) hs
  obtain ⟨items, -, rfl⟩ := Db.updateItems_ok hs
  cases h
  refine ⟨?_, fun k r hk => ?_⟩
  · rw [itemsToReserve, List.length_map, List.length_take] at henough
    omega
  have hafter := (hrows k).trans (by rw [hk, Option.map_some])
  constructor
  · intro hmem
    rw [if_pos (List.contains_iff_mem.mpr hmem)] at hafter
    obtain ⟨⟨k', r'⟩, hm, rfl⟩ := List.mem_map.mp hmem
    obtain ⟨hr', -, hpending, -⟩ := mem_reservableItems.mp (List.mem_of_mem_take hm)
    cases hr'.symm.trans hk
    refine ⟨_, hafter, ?_, rfl⟩
    rw [hpending]
    exact nofun
  · rintro ⟨r', hr', hbefore, hreserved⟩
    by_contra hnot
    rw [if_neg (mt List.contains_iff_mem.mp hnot)] at hafter
    have hsame : some r' = some r := hr'.symm.trans hafter
    cases hsame
    exact hbefore hreserved

/-- **A reservation is gated**, exactly when enough gated items come first. -/
theorem reservesGated_iff {pool store count n : Nat}
    (h : reservePendingItems db pool store count = .ok (n, db')) :
    ReservesGated db db' ↔ count ≤ gatedFirst db (reservableItems db pool) := by
  obtain ⟨henough, htakes⟩ := reservePendingItems_takes h
  rw [gatedFirst, ← not_stop_take_iff henough]
  constructor
  · rintro hgated ⟨k, r⟩ hm
    have hk := (mem_reservableItems.mp (List.mem_of_mem_take hm)).1
    have hmem : k ∈ itemsToReserve db pool count := List.mem_map_of_mem hm
    obtain ⟨r', hr', hbefore, hreserved⟩ := (htakes k r hk).mp hmem
    exact hgated k r r' hk hr' hbefore hreserved
  · intro hgated k r r' hk hr' hbefore hreserved
    have hmem := (htakes k r hk).mpr ⟨r', hr', hbefore, hreserved⟩
    obtain ⟨⟨k', r₀⟩, hm, rfl⟩ := List.mem_map.mp hmem
    have hr₀ := (mem_reservableItems.mp (List.mem_of_mem_take hm)).1
    cases hr₀.symm.trans hk
    exact hgated _ hm

/-- **A replacement is gated**, exactly when a gated item comes first. -/
theorem replaces_gated_iff {orderId pool : Nat} {columns : OrderColumns} {status : OrderStatus}
    {rep : OrderReplacement} (h : Replaces s orderId columns status pool s' rep) :
    hasFinalSaleOrder s.db rep.newProduct = false ↔
      1 ≤ gatedFirst s.db (replacementStock s.db pool rep.oldProduct) := by
  obtain ⟨row, hhead, hnew, -⟩ := h.swap
  rcases hstock : replacementStock s.db pool rep.oldProduct with - | ⟨item, rest⟩
  · rw [hstock] at hhead
    cases hhead
  rw [hstock] at hhead
  cases hhead
  have henough : 1 ≤ ((rep.poolItem, row) :: rest).length := Nat.succ_le_succ (Nat.zero_le _)
  rw [gatedFirst, ← not_stop_take_iff henough, hnew]
  simp

end Gates

/-! ### The four selections -/

/-- The stock of `order_replace` puts a gated item first. -/
def ReplacesGated (db : Db) (orderId : Nat) : Prop :=
  ∀ old oldItem, (db.orders.get? orderId).bind Order.ownedProduct = some old →
    newestItem db old = some oldItem → 1 ≤ gatedFirst db (replacementStock db oldItem.2.pool old)

/-- So does that of `order_emergency_replace`. -/
def EmergencyGated (db : Db) (req : ReplaceRequest) : Prop :=
  ∀ oldRow, req.oldPoolItemId.bind db.item? = some oldRow →
    1 ≤ gatedFirst db (replacementStock db oldRow.pool oldRow.ownedProduct)

/-- **The final-sale gate.**  A claim hands out no item with a final sale.  A
reservation hands out none exactly when as many gated items come first as it
takes, a replacement exactly when one does. -/
theorem sale_gate (s : Shop) :
    (∀ offer limit cap db' cs, claimPendingItems s.db offer limit cap = .ok (db', cs) →
      ∀ c ∈ cs, ∀ r, s.db.item? c.item = some r →
        hasFinalSaleOrder s.db r.ownedProduct = false) ∧
    (∀ pool store count n db', reservePendingItems s.db pool store count = .ok (n, db') →
      (ReservesGated s.db db' ↔ count ≤ gatedFirst s.db (reservableItems s.db pool))) ∧
    (∀ orderId columns req s' rep, orderReplace s orderId columns req = .ok (s', rep) →
      (hasFinalSaleOrder s.db rep.newProduct = false ↔ ReplacesGated s.db orderId)) ∧
    (∀ orderId columns req s' rep, orderEmergencyReplace s orderId columns req = .ok (s', rep) →
      (hasFinalSaleOrder s.db rep.newProduct = false ↔ EmergencyGated s.db req)) := by
  refine ⟨?_, ?_, ?_, ?_⟩
  · intro offer limit cap db' cs h c hc r hr
    obtain ⟨ks, -, -, hclaimed, hrows⟩ := claimPendingItems_ok h
    have hk : c.item ∈ ks := by
      rw [← hclaimed.items]
      exact List.mem_map_of_mem hc
    obtain ⟨r', hr', -, -, hgated⟩ := hrows c.item hk
    cases hr'.symm.trans hr
    exact hgated
  · intro pool store count n db' h
    exact reservesGated_iff h
  · intro orderId columns req s' rep h
    obtain ⟨order, oldItem, horder, hold, hitem, hreplaces⟩ := orderReplace_ok h
    have hproduct : (s.db.orders.get? orderId).bind Order.ownedProduct = some rep.oldProduct := by
      rw [horder]
      exact hold
    rw [replaces_gated_iff hreplaces]
    constructor
    · intro hgated old oldItem' hold' hitem'
      cases hproduct.symm.trans hold'
      cases hitem.symm.trans hitem'
      exact hgated
    · intro hgated
      exact hgated rep.oldProduct oldItem hproduct hitem
  · intro orderId columns req s' rep h
    obtain ⟨order, oldId, oldRow, -, hid, hrow, hold, hreplaces⟩ := orderEmergencyReplace_ok h
    have hnamed : req.oldPoolItemId.bind s.db.item? = some oldRow := by
      rw [hid]
      exact hrow
    rw [replaces_gated_iff hreplaces, ← hold]
    constructor
    · intro hgated oldRow' hnamed'
      cases hnamed.symm.trans hnamed'
      exact hgated
    · intro hgated
      exact hgated oldRow hnamed

/-! ### A PENDING item that is sold -/

/-- The pool of a manual order for product 7: its item is CONSUMED; the only
PENDING item is product 8, which has a completed order. -/
def soldStockShop : Shop where
  db :=
    { items := soldAndSpare
      pools := singleItemDb.pools
      offers := singleItemDb.offers
      accounts := gameboostStore
      orders := ⟨[(5, { ownedProduct := some 7, status := .completed }),
        (6, { ownedProduct := some 8, status := .completed })], by decide⟩
      ownedProducts := ⟨[(7, { status := .sold }), (8, { status := .sold })], by decide⟩ }

/-- **The gate is missing** in the reservation and in both replacements: each of
them takes the sold product. -/
theorem sale_gate_fails :
    (∃ n db', reservePendingItems soldStockShop.db 1 1 1 = .ok (n, db') ∧
        ¬ ReservesGated soldStockShop.db db') ∧
      (∃ s' rep, orderReplace soldStockShop 5 { isInstant := false }
          { reason := "banned", employeeName := "A" } = .ok (s', rep) ∧
        hasFinalSaleOrder soldStockShop.db rep.newProduct = true) ∧
      (∃ s' rep, orderEmergencyReplace soldStockShop 5 {}
          { reason := "banned", employeeName := "A", oldPoolItemId := some 1 } = .ok (s', rep) ∧
        hasFinalSaleOrder soldStockShop.db rep.newProduct = true) := by
  refine ⟨⟨_, _, rfl, ?_⟩, ⟨_, _, rfl, by decide⟩, ⟨_, _, rfl, by decide⟩⟩
  intro hgated
  exact absurd (hgated 2 _ _ rfl rfl (by decide) rfl) (by decide)

end Sda.Orders
