/-
Sda/Orders/Durability.lean

What a replacement leaves behind, and what may undo it.  A replacement is made on
the order and on the old product; the payloads of the marketplace still carry the
credentials of the old product, and the resolver does not know REPLACED.

`upsertOrder` is what the order services do with a payload: `parse_and_apply`
matches or creates the product of its credentials, and `_upsert_order` saves the
order with what the payload says (sync/services/gameboost/orders/service.py,
sync/services/base.py).  A refresh of the statuses applies its payloads in the same
way.  The notice to the pools that follows touches neither the product of an order
nor the status of a product, and is left out.

* `replacement_durable` — after a replacement, a run whose steps leave the replaced
  product alone keeps it REPLACED and off the order;
* `payload_reverts` — every payload with the old credentials undoes it.
-/
import Sda.Orders.Replace
import Sda.Orders.StatusAuthority
import Sda.Sync.AccountOrders

namespace Sda.Orders

open Sync (OwnedAccount AccountOrder GameboostOrder orderCategory payloadLogin)

/-! ### Payloads -/

/-- What the defaults of a payload say of `owned_product`. -/
inductive ProductDefault
  /-- Nothing: no credentials, or no game. -/
  | kept
  /-- `owned_product=None`. -/
  | cleared
  /-- The product of these credentials.  A product of the cache of the process has the
  status it was cached with. -/
  | account (a : OwnedAccount) (memory : Option OwnedProductStatus)
  deriving DecidableEq, Repr

/-- The defaults of an order, as far as the handlers read them. -/
structure OrderPayload where
  status : OrderStatus
  product : ProductDefault := .kept
  integrationAccount : Option Nat := none
  listing : Option Nat := none
  dropshipProduct : Option Nat := none
  deriving DecidableEq, Repr

/-- The product default of a GameBoost payload. -/
def gameboostDefault (parse : String → String) (categoryOf : String → Option Nat)
    (p : GameboostOrder) (o : AccountOrder) (memory : Option OwnedProductStatus) :
    ProductDefault :=
  let login := payloadLogin parse p o.deliveryInstructions
  if login = "" then .kept
  else
    match orderCategory categoryOf o with
    | none => .kept
    | some category => .account { category, login := stripText login } memory

/-- The order app, and the identities of the products. -/
structure Books where
  shop : Shop
  /-- `OwnedProduct.category` and `OwnedProduct.login`. -/
  accountOf : Nat → Option OwnedAccount := fun _ => none

/-- A product is created, SOLD. -/
def createOwned (b : Books) (a : OwnedAccount) : Books where
  shop :=
    { b.shop with
      db := { b.shop.db with ownedProducts := b.shop.db.ownedProducts.create { status := .sold } } }
  accountOf := Function.update b.accountOf b.shop.db.ownedProducts.nextKey (some a)

/-- The product of an account. -/
def findOwned (b : Books) (a : OwnedAccount) : Option (Nat × OwnedProduct) :=
  (b.shop.db.ownedProducts.select fun k _ => b.accountOf k == some a).head?

/-- **`get_or_create_owned_product`**, with the status of a product. -/
def getOrCreateOwned (b : Books) (a : OwnedAccount) (memory : Option OwnedProductStatus) :
    Books × Owned :=
  match findOwned b a with
  | some (k, row) => (b, ⟨k, memory.getD row.status⟩)
  | none => (createOwned b a, ⟨b.shop.db.ownedProducts.nextKey, .sold⟩)

/-- The product the order is saved with; `pk` is the row `update_or_create` finds. -/
def payloadOwned (b : Books) (pk : Option Nat) : ProductDefault → Books × Option Owned
  | .kept =>
    (b, ((pk.bind b.shop.db.orders.get?).bind Order.ownedProduct).bind fun p =>
      fetched b.shop p none)
  | .cleared => (b, none)
  | .account a memory =>
    let (b, o) := getOrCreateOwned b a memory
    (b, some o)

/-- The order that is saved. -/
def OrderPayload.inst (p : OrderPayload) (owned : Option Owned) : OrderInstance where
  status := p.status
  owned := owned
  integrationAccount := p.integrationAccount
  listing := p.listing
  dropshipProduct := p.dropshipProduct

/-- **`parse_and_apply`**, and the save of `_upsert_order`. -/
def upsertOrder (b : Books) (pk : Option Nat) (p : OrderPayload) : Books :=
  let (b, owned) := payloadOwned b pk p.product
  { b with shop := saveOrder b.shop pk (p.inst owned) }

/-! ### The system -/

/-- What may follow a replacement. -/
inductive LaterEvent
  /-- A payload of a sync or a status refresh is applied to an order. -/
  | payload (pk : Option Nat) (p : OrderPayload)
  | event (e : StatusEvent)

def laterStep (b : Books) : LaterEvent → Books
  | .payload pk p => upsertOrder b pk p
  | .event e => { b with shop := statusStep b.shop e }

/-- **The replacement stands**: the old product is REPLACED, and not the product of
the order. -/
def Durable (orderId old : Nat) (b : Books) : Prop :=
  productStatus b.shop old = some .replaced ∧
    ∀ row, b.shop.db.orders.get? orderId = some row → row.ownedProduct ≠ some old

/-! ### The condition -/

/-- No handler of a save writes the status of its product, the row of the order
being written. -/
def handlersSpare (w : Shop) (k : Nat) (inst : OrderInstance) (created : Bool) (o : Owned) :
    Bool :=
  o.status == resolvedStatus w.db o.pk &&
    (!isCancelStatus inst.status || o.status != .sold && o.status != .multipleSold ||
      1 < remainingOrders w.db k o.pk) &&
    (!isSoldStatus inst.status ||
      (activeOrders w.db o.pk ≤ 1 || o.status == .multipleSold) &&
        (activeOrders w.db o.pk != 1 || o.status != .listed) &&
        !(created && unlinksProduct w inst o.pk))

/-- A save that has another product; or one of another order, whose handlers write
no status. -/
def saveSpares (s : Shop) (orderId old : Nat) (pk : Option Nat) (inst : OrderInstance) : Bool :=
  inst.owned.all fun o => o.pk != old ||
    orderKey s pk != orderId &&
      handlersSpare (writeOrder s pk inst) (orderKey s pk) inst pk.isNone o

/-- The condition of an event. -/
def eventSpares (s : Shop) (orderId old : Nat) : StatusEvent → Bool
  | .save pk inst => saveSpares s orderId old pk inst
  | .delete pk => (s.db.orders.get? pk).bind Order.ownedProduct != some old
  | .link _ p _ => p != old
  | .unlink _ p _ => p != old
  | .listing _ _ => true

/-- **The condition of a step**, on the state before it. -/
def laterSpares (orderId old : Nat) (b : Books) : LaterEvent → Bool
  | .payload pk p =>
    let (b, owned) := payloadOwned b pk p.product
    saveSpares b.shop orderId old pk (p.inst owned)
  | .event e => eventSpares b.shop orderId old e

def Spares (orderId old : Nat) (b : Books) (e : LaterEvent) : Prop :=
  laterSpares orderId old b e = true

instance (orderId old : Nat) (b : Books) (e : LaterEvent) : Decidable (Spares orderId old b e) :=
  inferInstanceAs (Decidable (_ = true))

/-! ### Handlers that leave a replaced product alone -/

section Keeps

variable {s s' s'' : Shop} {o : Owned} {p q k : Nat} {inst : OrderInstance}

/-- The orders are as before, and a product that is REPLACED stays so. -/
structure KeepsReplaced (p : Nat) (s s' : Shop) : Prop where
  orders : s'.db.orders = s.db.orders
  status : productStatus s p = some .replaced → productStatus s' p = some .replaced

theorem KeepsReplaced.refl (p : Nat) (s : Shop) : KeepsReplaced p s s :=
  ⟨rfl, id⟩

theorem KeepsReplaced.trans (h : KeepsReplaced p s s') (h' : KeepsReplaced p s' s'') :
    KeepsReplaced p s s'' :=
  ⟨h'.orders.trans h.orders, h'.status ∘ h.status⟩

theorem SparesUnlisted.keepsReplaced (h : SparesUnlisted s s') : KeepsReplaced p s s' where
  orders := h.orders
  status := by
    intro hp
    rw [h.status p (by rw [hp]; exact nofun)]
    exact hp

theorem keepsReplaced_set (h : q ≠ p) (status : OwnedProductStatus) :
    KeepsReplaced p s (setProductStatus s q status) where
  orders := rfl
  status := by
    rw [productStatus_set_ne h.symm]
    exact id

theorem keepsReplaced_resolve (h : o.pk ≠ p) :
    KeepsReplaced p s (resolveOwnedProductStatus s o).1 := by
  unfold resolveOwnedProductStatus
  split
  · exact keepsReplaced_set h _
  · exact KeepsReplaced.refl p s

theorem keepsReplaced_resolveProduct (h : q ≠ p) : KeepsReplaced p s (resolveProduct s q) := by
  unfold resolveProduct
  split
  · exact keepsReplaced_resolve h
  · exact KeepsReplaced.refl p s

theorem keepsReplaced_sellOwned (h : o.pk ≠ p) : KeepsReplaced p s (sellOwned s o).1 := by
  rcases sellOwned_cases s o with ⟨hsell, -⟩ | ⟨hsell, -⟩ | ⟨hsell, -⟩
  · rw [hsell]
    exact KeepsReplaced.refl p s
  · rw [hsell]
    exact keepsReplaced_set h _
  · rw [hsell]
    exact keepsReplaced_set h _

theorem keepsReplaced_revertOwned (h : o.pk ≠ p) : KeepsReplaced p s (revertOwned s k o).1 := by
  unfold revertOwned
  split
  · exact KeepsReplaced.refl p s
  split
  · exact KeepsReplaced.refl p s
  split
  · exact keepsReplaced_set h _
  split
  · exact keepsReplaced_set h _
  · exact keepsReplaced_set h _

theorem keepsReplaced_createLink (h : q ≠ p) (listing : Nat)
    (memory : Option OwnedProductStatus) : KeepsReplaced p s (createLink s listing q memory) := by
  have hadded : KeepsReplaced p s (addLink s listing q) := ⟨rfl, id⟩
  refine hadded.trans ((keepsReplaced_resolveProduct h).trans ?_)
  rw [createLink]
  rcases hfetched : fetched (resolveProduct (addLink s listing q) q) q memory with - | o
  · exact KeepsReplaced.refl p _
  · have hpk : o.pk ≠ p := by
      rw [(fetched_status hfetched).1]
      exact h
    show KeepsReplaced p _ (ownedProductListed _ o)
    unfold ownedProductListed
    split
    · exact keepsReplaced_set hpk _
    · exact KeepsReplaced.refl p _

theorem keepsReplaced_deleteLink (h : q ≠ p) (link : Nat) (memory : Option OwnedProductStatus) :
    KeepsReplaced p s (deleteLink s link q memory) := by
  have hdropped : KeepsReplaced p s (dropLink s link) := ⟨rfl, id⟩
  refine hdropped.trans ((keepsReplaced_resolveProduct h).trans ?_)
  rw [deleteLink]
  rcases hfetched : fetched (resolveProduct (dropLink s link) q) q memory with - | o
  · exact KeepsReplaced.refl p _
  · have hpk : o.pk ≠ p := by
      rw [(fetched_status hfetched).1]
      exact h
    show KeepsReplaced p _ (ownedProductMaybeUnlisted _ o)
    unfold ownedProductMaybeUnlisted
    split
    · exact keepsReplaced_set hpk _
    · exact KeepsReplaced.refl p _

theorem keepsReplaced_unlinkSold {r : Nat × ListingOwnedProduct} (h : r.2.ownedProduct ≠ p) :
    KeepsReplaced p s (unlinkSold s r) := by
  have hdeleted : KeepsReplaced p s (deleteLink s r.1 r.2.ownedProduct none) :=
    keepsReplaced_deleteLink h r.1 none
  unfold unlinkSold
  dsimp only
  split
  · exact hdeleted.trans (spares_saveListing _ _ _).keepsReplaced
  · exact hdeleted

theorem keepsReplaced_unlinkSoldAll (links : List (Nat × ListingOwnedProduct)) (s : Shop)
    (h : ∀ r ∈ links, r.2.ownedProduct ≠ p) : KeepsReplaced p s (links.foldl unlinkSold s) := by
  induction links generalizing s with
  | nil => exact KeepsReplaced.refl p s
  | cons r links ih =>
    have hone : KeepsReplaced p s (unlinkSold s r) :=
      keepsReplaced_unlinkSold (h r List.mem_cons_self)
    exact hone.trans (ih _ fun r' hr' => h r' (List.mem_cons_of_mem r hr'))

/-- The sale tail, when it unlinks another product or nothing. -/
theorem keepsReplaced_saleTail {created : Bool}
    (h : created = true → ∀ o ∈ inst.owned,
      ∀ r ∈ sameAccountLinks (closedFor (inst.dropshipProduct.elim s (sellDropship s)) inst).db
        inst.integrationAccount o.pk, r.2.ownedProduct ≠ p) :
    KeepsReplaced p s (saleTail s inst created) := by
  have hspares : SparesUnlisted s (closedFor (inst.dropshipProduct.elim s (sellDropship s)) inst) :=
    (spares_dropship s inst).trans (spares_closedFor _ _)
  cases created with
  | false =>
    rw [saleTail_updated]
    exact hspares.keepsReplaced
  | true =>
    rcases ho : inst.owned with - | o
    · have htail : saleTail s inst true
          = closedFor (inst.dropshipProduct.elim s (sellDropship s)) inst := by
        unfold saleTail closeAndUnlink
        rw [ho]
        rfl
      rw [htail]
      exact hspares.keepsReplaced
    · rw [saleTail_created ho]
      exact hspares.keepsReplaced.trans (keepsReplaced_unlinkSoldAll _ _ (h rfl o ho))

theorem keepsReplaced_orderStatusChanged {created : Bool} (h : ∀ o ∈ inst.owned, o.pk ≠ p) :
    KeepsReplaced p s (orderStatusChanged k created (s, inst)).1 := by
  by_cases hsold : isSoldStatus inst.status = true
  · rcases ho : inst.owned with - | o
    · rw [orderStatusChanged_sold_none hsold ho]
      apply keepsReplaced_saleTail
      rw [ho]
      exact nofun
    · rw [orderStatusChanged_sold hsold ho]
      have hpk : o.pk ≠ p := h o ho
      refine (keepsReplaced_sellOwned hpk).trans (keepsReplaced_saleTail ?_)
      rintro - o' ⟨⟩ r hr
      rw [product_of_mem_sameAccountLinks hr, sellOwned_pk]
      exact hpk
  by_cases hcancel : isCancelStatus inst.status = true
  · rcases ho : inst.owned with - | o
    · rw [orderStatusChanged_cancel_none hcancel ho]
      exact KeepsReplaced.refl p s
    · rw [orderStatusChanged_cancel hcancel ho]
      exact keepsReplaced_revertOwned (h o ho)
  · rw [orderStatusChanged_other (Bool.eq_false_iff.mpr hsold) (Bool.eq_false_iff.mpr hcancel)]
    exact KeepsReplaced.refl p s

/-- **A save with another product.** -/
theorem keepsReplaced_handlers {created : Bool} (h : ∀ o ∈ inst.owned, o.pk ≠ p) :
    KeepsReplaced p s (orderStatusChanged k created (orderSaved (s, inst))).1 := by
  rcases ho : inst.owned with - | o
  · rw [orderSaved_none ho]
    exact keepsReplaced_orderStatusChanged h
  · have hpk : o.pk ≠ p := h o ho
    rw [orderSaved_eq ho]
    refine (keepsReplaced_resolve hpk).trans (keepsReplaced_orderStatusChanged ?_)
    rintro o' ⟨⟩
    exact hpk

/-! ### Saves whose handlers write no status -/

theorem links_closedFor (s : Shop) (inst : OrderInstance) :
    (closedFor s inst).db.listingOwnedProducts = s.db.listingOwnedProducts := by
  rw [closedFor]
  rcases inst.listing with - | listing
  · rfl
  · show (closeSoldListing s listing).db.listingOwnedProducts = _
    unfold closeSoldListing
    split
    · have hleaves : LeavesOthers listing s (saveListing s listing .closed) :=
        leavesOthers_saveListing .closed
      exact hleaves.links
    · rfl

/-- A listing that is active once the sale has closed its own was so before, and is not
the one it closes. -/
theorem active_of_closedFor {j : Nat} {row : Listing}
    (h : (closedFor s inst).db.listings.get? j = some row)
    (hactive : isActiveListing row.status = true) :
    s.db.listings.get? j = some row ∧ (inst.listing = some j → isListed row.status = false) := by
  rw [closedFor] at h
  rcases hlisting : inst.listing with - | listing
  · rw [hlisting] at h
    exact ⟨h, fun h => by cases h⟩
  rw [hlisting, Option.elim_some] at h
  unfold closeSoldListing at h
  split at h
  · rw [listings_saveListing, Table.get?_updateWhere] at h
    obtain ⟨old, hold, hnew⟩ := Option.map_eq_some_iff.mp h
    split at hnew
    · subst hnew
      cases hactive
    · rename_i hne
      subst hnew
      refine ⟨hold, ?_⟩
      rintro ⟨⟩
      exact absurd (beq_self_eq_true j) hne
  · rename_i hopen
    refine ⟨h, ?_⟩
    rintro ⟨⟩
    rw [h, Option.any_some] at hopen
    exact Bool.eq_false_iff.mpr hopen

/-- A sale that finds no link of its product before it closes its listing finds none
after. -/
theorem sameAccountLinks_eq_nil (h : unlinksProduct s inst p = false) :
    sameAccountLinks (closedFor s inst).db inst.integrationAccount p = [] := by
  apply List.eq_nil_iff_forall_not_mem.mpr
  rintro ⟨i, l⟩ hmem
  obtain ⟨hl, hselected⟩ := Table.mem_select.mp hmem
  obtain ⟨hproduct, hselected⟩ := (Bool.and_eq_true _ _).mp hselected
  rcases hrow : (closedFor s inst).db.listings.get? l.listing with - | row
  · rw [hrow] at hselected
    cases hselected
  rw [hrow, Option.any_some] at hselected
  obtain ⟨haccount, hactive⟩ := (Bool.and_eq_true _ _).mp hselected
  obtain ⟨hbefore, hother⟩ := active_of_closedFor hrow hactive
  have hopen : (inst.listing == some l.listing && isListed row.status) = false := by
    rw [Bool.and_eq_false_imp, beq_iff_eq]
    exact hother
  rw [links_closedFor] at hl
  have hfound : unlinksProduct s inst p = true := by
    refine Table.any_iff.mpr ⟨i, l, hl, ?_⟩
    rw [hproduct, hbefore, Option.any_some, haccount, hactive, hopen]
    rfl
  rw [h] at hfound
  cases hfound

/-- **A save whose handlers write no status of its product.** -/
theorem keepsReplaced_spared {created : Bool} (ho : inst.owned = some o)
    (h : handlersSpare s k inst created o = true) :
    KeepsReplaced o.pk s (orderStatusChanged k created (orderSaved (s, inst))).1 := by
  obtain ⟨h, hsale⟩ := (Bool.and_eq_true _ _).mp h
  obtain ⟨hmemory, hcancelled⟩ := (Bool.and_eq_true _ _).mp h
  have hmemory : o.status = resolvedStatus s.db o.pk := eq_of_beq hmemory
  rw [orderSaved_current ho hmemory]
  by_cases hsold : isSoldStatus inst.status = true
  · rw [hsold, Bool.not_true, Bool.false_or, Bool.and_eq_true, Bool.and_eq_true] at hsale
    obtain ⟨⟨hmany, hone⟩, hunlinks⟩ := hsale
    have hsell : sellOwned s o = (s, o) := by
      rw [sellOwned, if_neg, if_neg]
      · rintro ⟨hactive, hlisted⟩
        rw [hactive, hlisted] at hone
        simp at hone
      · rintro ⟨hactive, hstatus⟩
        rw [Bool.or_eq_true, decide_eq_true_iff, beq_iff_eq] at hmany
        exact hmany.elim (Nat.not_le.mpr hactive) hstatus
    have hinst : ({ inst with owned := some o } : OrderInstance) = inst := by rw [← ho]
    rw [orderStatusChanged_sold hsold ho, hsell]
    dsimp only
    rw [hinst]
    apply keepsReplaced_saleTail
    rintro rfl o' ho' r hr
    rw [ho] at ho'
    cases ho'
    rw [Bool.true_and, Bool.not_eq_true'] at hunlinks
    have honly := onlyProducts_dropship s inst
    have hnone : unlinksProduct (inst.dropshipProduct.elim s (sellDropship s)) inst o.pk
        = false := by
      rw [unlinksProduct, honly.links, honly.listings]
      exact hunlinks
    rw [sameAccountLinks_eq_nil hnone] at hr
    cases hr
  by_cases hcancel : isCancelStatus inst.status = true
  · rw [hcancel, Bool.not_true, Bool.false_or, Bool.or_eq_true, decide_eq_true_iff,
      Bool.and_eq_true, bne_iff_ne, bne_iff_ne] at hcancelled
    have hrevert : revertOwned s k o = (s, o) := by
      rw [revertOwned]
      split
      · rfl
      · rename_i hsoldStatus
        rw [if_pos (hcancelled.resolve_left hsoldStatus)]
    rw [orderStatusChanged_cancel hcancel ho, hrevert]
    exact KeepsReplaced.refl o.pk s
  · rw [orderStatusChanged_other (Bool.eq_false_iff.mpr hsold) (Bool.eq_false_iff.mpr hcancel)]
    exact KeepsReplaced.refl o.pk s

end Keeps

/-! ### Steps -/

section Steps

variable {s : Shop} {b : Books} {orderId old : Nat} {inst : OrderInstance}

/-- The row of an order after a row is written. -/
theorem order_of_writeOrder {pk : Option Nat} {row : Order}
    (h : (writeOrder s pk inst).db.orders.get? orderId = some row) :
    orderKey s pk = orderId ∧ row = inst.row ∨
      orderKey s pk ≠ orderId ∧ s.db.orders.get? orderId = some row := by
  rcases pk with - | k
  · rw [show (writeOrder s none inst).db.orders = s.db.orders.create inst.row from rfl,
      Table.get?_create] at h
    split at h
    · rename_i hkey
      exact Or.inl ⟨hkey.symm, (Option.some.inj h).symm⟩
    · rename_i hkey
      exact Or.inr ⟨fun heq => hkey heq.symm, h⟩
  · rw [show (writeOrder s (some k) inst).db.orders
        = s.db.orders.updateWhere (fun j _ => j == k) fun _ => inst.row from rfl,
      Table.get?_updateWhere] at h
    obtain ⟨old, hold, hnew⟩ := Option.map_eq_some_iff.mp h
    split at hnew
    · rename_i hkey
      exact Or.inl ⟨(eq_of_beq hkey).symm, hnew.symm⟩
    · rename_i hkey
      rw [hnew] at hold
      exact Or.inr ⟨fun heq => hkey (beq_iff_eq.mpr heq.symm), hold⟩

/-- **A save** that leaves the replaced product alone. -/
theorem durable_save {pk : Option Nat} (h : Durable orderId old b)
    (hspares : saveSpares b.shop orderId old pk inst = true) :
    Durable orderId old { b with shop := saveOrder b.shop pk inst } := by
  have hall : ∀ o ∈ inst.owned, o.pk = old → orderKey b.shop pk ≠ orderId ∧
      handlersSpare (writeOrder b.shop pk inst) (orderKey b.shop pk) inst pk.isNone o = true := by
    intro o ho hold
    have hone := (Option.all_eq_true _ _).mp hspares o ho
    rw [hold, bne_self_eq_false, Bool.false_or, Bool.and_eq_true, bne_iff_ne] at hone
    exact hone
  have hkeeps : KeepsReplaced old (writeOrder b.shop pk inst) (saveOrder b.shop pk inst) := by
    by_cases hother : ∀ o ∈ inst.owned, o.pk ≠ old
    · exact keepsReplaced_handlers hother
    · push Not at hother
      obtain ⟨o, ho, rfl⟩ := hother
      exact keepsReplaced_spared ho (hall o ho rfl).2
  refine ⟨hkeeps.status h.1, ?_⟩
  intro row hrow
  rw [hkeeps.orders] at hrow
  rcases order_of_writeOrder hrow with ⟨hkey, rfl⟩ | ⟨-, hbefore⟩
  · intro hproduct
    obtain ⟨o, ho, hpk⟩ := Option.map_eq_some_iff.mp hproduct
    exact (hall o ho hpk).1 hkey
  · exact h.2 row hbefore

/-- The product a payload is matched with, or creates. -/
theorem durable_payloadOwned (h : Durable orderId old b) (pk : Option Nat) (p : ProductDefault) :
    Durable orderId old (payloadOwned b pk p).1 := by
  cases p with
  | kept => exact h
  | cleared => exact h
  | account a memory =>
    show Durable orderId old (getOrCreateOwned b a memory).1
    unfold getOrCreateOwned
    split
    · exact h
    · refine ⟨?_, h.2⟩
      obtain ⟨row, hrow, hstatus⟩ := Option.map_eq_some_iff.mp h.1
      show ((b.shop.db.ownedProducts.create { status := .sold }).get? old).map _ = _
      rw [Table.get?_create_of_some hrow, Option.map_some, hstatus]

theorem durable_of_keeps {s' : Shop} (h : Durable orderId old b)
    (hkeeps : KeepsReplaced old b.shop s') : Durable orderId old { b with shop := s' } := by
  refine ⟨hkeeps.status h.1, ?_⟩
  intro row hrow
  rw [hkeeps.orders] at hrow
  exact h.2 row hrow

theorem durable_delete {pk : Nat} (h : Durable orderId old b)
    (hspares : ((b.shop.db.orders.get? pk).bind Order.ownedProduct != some old) = true) :
    Durable orderId old { b with shop := deleteOrder b.shop pk } := by
  have hdeleted : Durable orderId old
      { b with shop := { b.shop with db := withoutOrder b.shop.db pk } } := by
    refine ⟨h.1, ?_⟩
    intro row hrow
    rw [show (withoutOrder b.shop.db pk).orders
      = b.shop.db.orders.deleteWhere fun k _ => k == pk from rfl, Table.get?_deleteWhere] at hrow
    exact h.2 row hrow.1
  rw [deleteOrder]
  rcases hproduct : (b.shop.db.orders.get? pk).bind Order.ownedProduct with - | p
  · exact hdeleted
  · rw [hproduct, bne_iff_ne] at hspares
    apply durable_of_keeps hdeleted
    exact keepsReplaced_resolveProduct fun heq => hspares (congrArg some heq)

/-- **One step.** -/
theorem durable_step (h : Durable orderId old b) {e : LaterEvent} (hspares : Spares orderId old b e) :
    Durable orderId old (laterStep b e) := by
  cases e with
  | payload pk p =>
    exact durable_save (durable_payloadOwned h pk p.product) hspares
  | event e =>
    cases e with
    | save pk inst => exact durable_save h hspares
    | delete pk => exact durable_delete h hspares
    | link listing p memory =>
      exact durable_of_keeps h (keepsReplaced_createLink (bne_iff_ne.mp hspares) listing memory)
    | unlink link p memory =>
      exact durable_of_keeps h (keepsReplaced_deleteLink (bne_iff_ne.mp hspares) link memory)
    | listing listing status =>
      exact durable_of_keeps h (spares_saveListing b.shop listing status).keepsReplaced

end Steps

/-! ### The replacement -/

section Replacement

variable {s s' : Shop} {orderId : Nat} {columns : OrderColumns} {req : ReplaceRequest}
variable {rep : OrderReplacement}

theorem shop_saveItem {k : Nat} {row : ItemRow} (h : saveItem s k row = .ok s') :
    s'.db.orders = s.db.orders ∧ s'.db.ownedProducts = s.db.ownedProducts := by
  rw [saveItem] at h
  rcases hsaved : s.db.saveItem k row with exc | db
  · rw [hsaved] at h
    cases h
  · rw [hsaved] at h
    cases h
    obtain ⟨items, -, rfl⟩ := Db.saveItem_ok hsaved
    exact ⟨rfl, rfl⟩

theorem shop_retireItem {retired : Option (Nat × ItemRow)} (h : retireItem s retired = .ok s') :
    s'.db.orders = s.db.orders ∧ s'.db.ownedProducts = s.db.ownedProducts := by
  rcases retired with - | ⟨k, row⟩
  · cases h
    exact ⟨rfl, rfl⟩
  · exact shop_saveItem h

/-- A replacement is not the product it replaces. -/
theorem replacement_ne {pool old : Nat} {item : Nat × ItemRow}
    (h : (replacementStock s.db pool old).head? = some item) : item.2.ownedProduct ≠ old := by
  have hmem := (List.mem_insertionSort idOrder).mp (List.mem_of_mem_head? h)
  have hselected := (Table.mem_select.mp hmem).2
  simp only [isUnallocated, Bool.and_eq_true, bne_iff_ne] at hselected
  exact hselected.1.2

/-- The order is saved with another product, the old one being REPLACED. -/
theorem durable_saveOrder (b : Books) {inst : OrderInstance} {old : Nat}
    (h : productStatus s old = some .replaced) (howned : ∀ o ∈ inst.owned, o.pk ≠ old) :
    Durable orderId old { b with shop := saveOrder s (some orderId) inst } := by
  have hkeeps : KeepsReplaced old (writeOrder s (some orderId) inst)
      (saveOrder s (some orderId) inst) := keepsReplaced_handlers howned
  refine ⟨hkeeps.status h, ?_⟩
  intro row hrow hproduct
  rw [hkeeps.orders] at hrow
  rcases order_of_writeOrder hrow with ⟨-, rfl⟩ | ⟨hkey, -⟩
  · obtain ⟨o, ho, hpk⟩ := Option.map_eq_some_iff.mp hproduct
    exact howned o ho hpk
  · exact hkey rfl

theorem durable_swapOrder (b : Books) {status : OrderStatus} {old new : Nat} (hne : new ≠ old)
    (h : productStatus s old ≠ none) :
    Durable orderId old { b with shop := swapOrder s orderId status columns old new } := by
  apply durable_saveOrder b (productStatus_set_self h .replaced)
  intro o ho
  rw [(fetched_status ho).1]
  exact hne

/-- **A replacement that goes through** stands. -/
theorem durable_of_replaces (b : Books) {status : OrderStatus} {pool : Nat}
    (h : Replaces s orderId columns status pool s' rep)
    (hproduct : productStatus s rep.oldProduct ≠ none) :
    Durable orderId rep.oldProduct { b with shop := s' } := by
  obtain ⟨row, hitem, -, retired, hswap⟩ := h.swap
  obtain ⟨taken, htaken, hswap⟩ := except_bind_ok.mp hswap
  obtain ⟨done, hdone, hswap⟩ := except_bind_ok.mp hswap
  cases hswap
  have hstatus : productStatus taken rep.oldProduct ≠ none := by
    rw [productStatus, (shop_saveItem htaken).2]
    exact hproduct
  have hswapped : Durable orderId rep.oldProduct { b with
      shop := swapOrder taken orderId status columns rep.oldProduct row.ownedProduct } :=
    durable_swapOrder b (replacement_ne hitem) hstatus
  refine ⟨?_, ?_⟩
  · show (done.db.ownedProducts.get? _).map _ = _
    rw [(shop_retireItem hdone).2]
    exact hswapped.1
  · show ∀ row, done.db.orders.get? _ = some row → _
    rw [(shop_retireItem hdone).1]
    exact hswapped.2

/-- **A replacement is durable.**  After a replacement that went through, every run of
payloads, saves and deletes of orders, links, unlinks and saves of listings whose steps
leave the replaced product alone keeps it REPLACED and off the order. -/
theorem replacement_durable (b : Books) (orderId : Nat) (columns : OrderColumns)
    (req : ReplaceRequest) (s' : Shop) (rep : OrderReplacement)
    (h : orderReplace b.shop orderId columns req = .ok (s', rep) ∨
      orderEmergencyReplace b.shop orderId columns req = .ok (s', rep))
    (hproduct : productStatus b.shop rep.oldProduct ≠ none) (es : List LaterEvent)
    (hspares : Along laterStep (Spares orderId rep.oldProduct) { b with shop := s' } es) :
    Always laterStep (Durable orderId rep.oldProduct) { b with shop := s' } es := by
  refine always_of_along (fun _ _ hb he => durable_step hb he) ?_ hspares
  rcases h with h | h
  · obtain ⟨order, oldItem, -, -, -, hreplaces⟩ := orderReplace_ok h
    exact durable_of_replaces b hreplaces hproduct
  · obtain ⟨order, oldId, oldRow, -, -, -, -, hreplaces⟩ := orderEmergencyReplace_ok h
    exact durable_of_replaces b hreplaces hproduct

end Replacement

/-! ### The old credentials -/

section Credentials

variable {b : Books} {orderId old : Nat} {a : OwnedAccount}

/-- The order of a save names the product it is saved with. -/
theorem order_saveOrder {s : Shop} {row : Order} {inst : OrderInstance}
    (h : s.db.orders.get? orderId = some row) :
    (saveOrder s (some orderId) inst).db.orders.get? orderId = some inst.row := by
  have hfresh : ∃ p, ∀ o ∈ inst.owned, o.pk ≠ p := by
    rcases inst.owned with - | o
    · exact ⟨0, nofun⟩
    · exact ⟨o.pk + 1, by rintro o' ⟨⟩; omega⟩
  obtain ⟨p, hp⟩ := hfresh
  have hkeeps : KeepsReplaced p (writeOrder s (some orderId) inst)
      (saveOrder s (some orderId) inst) := keepsReplaced_handlers hp
  rw [hkeeps.orders]
  show (s.db.orders.updateWhere (fun j _ => j == orderId) fun _ => inst.row).get? orderId = _
  rw [Table.get?_updateWhere, h, Option.map_some, if_pos (beq_self_eq_true orderId)]

/-- **Every payload with the old credentials undoes the replacement**, whatever the
order and the product have become. -/
theorem payload_reverts {row : Order} (horder : b.shop.db.orders.get? orderId = some row)
    {product : OwnedProduct} (hfound : findOwned b a = some (old, product))
    (memory : Option OwnedProductStatus) (p : OrderPayload) :
    ¬ Durable orderId old
      (laterStep b (.payload (some orderId) { p with product := .account a memory })) := by
  have howned : payloadOwned b (some orderId) (.account a memory)
      = (b, some ⟨old, memory.getD product.status⟩) := by
    rw [payloadOwned, getOrCreateOwned, hfound]
  intro h
  refine h.2 ⟨some old, p.status⟩ ?_ rfl
  rw [laterStep, upsertOrder, howned]
  exact order_saveOrder horder

end Credentials

/-! ### One replacement -/

/-- Order 5 was delivered product 7; product 8 is in stock. -/
def faultyAccount : Books where
  shop :=
    { db :=
        { items := soldAndSpare
          orders := ⟨[(5, { ownedProduct := some 7, status := .delivered })], by decide⟩
          ownedProducts := ⟨[(7, { status := .sold }), (8, { status := .draft })], by decide⟩ } }
  accountOf k := if k = 7 then some ⟨1, "old"⟩ else if k = 8 then some ⟨1, "new"⟩ else none

/-- The request of the staff. -/
def bannedRequest : ReplaceRequest where
  reason := "banned"
  employeeName := "A"
  oldPoolItemId := some 1

/-- A payload without credentials completes the order, and a listing is closed. -/
theorem replacement_durable_single :
    ∃ s' rep, orderReplace faultyAccount.shop 5 { isInstant := false } bannedRequest
        = .ok (s', rep) ∧
      Always laterStep (Durable 5 7) { faultyAccount with shop := s' }
        [.payload (some 5) { status := .completed }, .event (.listing 1 .closed)] :=
  ⟨_, _, rfl, replacement_durable faultyAccount 5 { isInstant := false } bannedRequest _ _
    (Or.inl rfl) (by decide) _ (by decide)⟩

/-- The payload of order 5: its credentials are still the old ones. -/
def oldPayload : LaterEvent :=
  .payload (some 5)
    { status := .completed
      product := gameboostDefault id (fun _ => some 1) { id := "77", credentials := "old" }
        { id := "77", gameId := "gta" } none }

/-- **A payload reverts the replacement**: product 7 is on the order again, and SOLD. -/
theorem replacement_durable_fails :
    (∃ s' rep, orderReplace faultyAccount.shop 5 { isInstant := false } bannedRequest
        = .ok (s', rep) ∧ rep.oldProduct = 7 ∧
      ¬ Durable 5 7 (laterStep { faultyAccount with shop := s' } oldPayload) ∧
      productStatus (laterStep { faultyAccount with shop := s' } oldPayload).shop 7
        = some .sold) ∧
    ∃ s' rep, orderEmergencyReplace faultyAccount.shop 5 {} bannedRequest = .ok (s', rep) ∧
      rep.oldProduct = 7 ∧
      ¬ Durable 5 7 (laterStep { faultyAccount with shop := s' } oldPayload) := by
  have hreverts : ∀ s' : Shop, s'.db.orders.get? 5 = some ⟨some 8, .delivered⟩ →
      findOwned { faultyAccount with shop := s' } ⟨1, "old"⟩ = some (7, { status := .replaced }) →
      ¬ Durable 5 7 (laterStep { faultyAccount with shop := s' } oldPayload) :=
    fun s' horder hfound => payload_reverts horder hfound none { status := .completed }
  refine ⟨⟨_, _, rfl, rfl, hreverts _ rfl ?_, ?_⟩, ⟨_, _, rfl, rfl, hreverts _ rfl ?_⟩⟩
  · rfl
  · decide
  · rfl

end Sda.Orders
