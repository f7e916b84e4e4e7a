/-
Sda/Orders/StatusAuthority.lean

Two notions of an active order.  The orders app counts every order that is
neither CANCELLED nor REFUNDED; the resolver of the inventory app counts PENDING,
DELIVERED and COMPLETED orders.  They differ on DISPUTED and DISPUTE_RESOLVED.

`statusStep` takes the saves and deletes of orders, the links and unlinks and the
saves of listings, in any order; the objects that are saved may hold a stale
status of their product in memory.

* `status_authority` — in a run whose steps keep to `StatusFits`, a product with an
  active order is never stored as DRAFT or LISTED, and the two handlers of a saved
  order leave one status, whichever runs last;
* `status_authority_fails` — a DISPUTED order, a stale object, and a PENDING order
  next to a DISPUTED one.
-/
import Sda.Lib.Run
import Sda.Orders.ProductStatus
import Sda.Pool.Fencing

namespace Sda.Orders

/-! ### The system -/

inductive StatusEvent
  /-- An order is saved: inserted without a key, or updated. -/
  | save (pk : Option Nat) (inst : OrderInstance)
  | delete (pk : Nat)
  | link (listing p : Nat) (memory : Option OwnedProductStatus)
  | unlink (link p : Nat) (memory : Option OwnedProductStatus)
  | listing (listing : Nat) (status : ListingStatus)

def statusStep (s : Shop) : StatusEvent → Shop
  | .save pk inst => saveOrder s pk inst
  | .delete pk => deleteOrder s pk
  | .link listing p memory => createLink s listing p memory
  | .unlink link p memory => deleteLink s link p memory
  | .listing listing status => saveListing s listing status

/-- `order.save()` with its two handlers the other way round. -/
def saveOrderSwapped (s : Shop) (pk : Option Nat) (inst : OrderInstance) : Shop :=
  (orderSaved (orderStatusChanged (orderKey s pk) pk.isNone (writeOrder s pk inst, inst))).1

/-! ### The properties -/

/-- A product of this status is offered as stock. -/
def isStock : OwnedProductStatus → Bool
  | .draft | .listed => true
  | _ => false

def inStock (s : Shop) (p : Nat) : Bool :=
  (productStatus s p).any isStock

/-- No product with an active order is stored as stock. -/
def StatusAuthority (s : Shop) : Prop :=
  ∀ p, 0 < activeOrders s.db p → inStock s p = false

/-- The product of a saved order has one status after both orders of the handlers. -/
def HandlersAgree (s : Shop) : StatusEvent → Prop
  | .save pk inst => ∀ o ∈ inst.owned,
      productStatus (saveOrder s pk inst) o.pk = productStatus (saveOrderSwapped s pk inst) o.pk
  | _ => True

/-! ### The condition -/

/-- The resolver counts an order of every product that has an active one. -/
def resolverCounts (db : Db) (p : Nat) : Bool :=
  activeOrders db p == 0 || 0 < soldOrders db p

/-- A sale unlinks the product: it has a link of the account, and the listing that
is sold through, when it is LISTED, is closed before. -/
def unlinksProduct (w : Shop) (inst : OrderInstance) (p : Nat) : Bool :=
  w.db.listingOwnedProducts.any fun _ l =>
    l.ownedProduct == p && (w.db.listings.get? l.listing).any fun row =>
      some row.integrationAccount == inst.integrationAccount && isActiveListing row.status &&
        !(inst.listing == some l.listing && isListed row.status)

/-- The sale sells the dropship product that a LISTED product comes from. -/
def sellsOrigin (w : Shop) (inst : OrderInstance) (p : Nat) : Bool :=
  productStatus w p == some .listed && inst.dropshipProduct.any fun dp =>
    w.productOrigin p == some dp &&
      (w.dropshipProducts.get? dp).any fun row => row.status != .sold

/-- Some handler of the save writes the status of the product, the row of the order
being written. -/
def writesProduct (w : Shop) (inst : OrderInstance) (created : Bool) (o : Owned) : Bool :=
  o.status != resolvedStatus w.db o.pk ||
    isCancelStatus inst.status && activeOrders w.db o.pk == 1 ||
    isSoldStatus inst.status &&
      (1 < activeOrders w.db o.pk && soldOrders w.db o.pk == 1 || sellsOrigin w inst o.pk ||
        created && unlinksProduct w inst o.pk)

/-- The condition of a save, the row of the order being written. -/
def savedFits (w : Shop) (inst : OrderInstance) (created : Bool) (o : Owned) : Bool :=
  resolverCounts w.db o.pk &&
    (activeOrders w.db o.pk == 0 || !inStock w o.pk || writesProduct w inst created o) &&
    (!isSoldStatus inst.status || 0 < soldOrders w.db o.pk &&
      (activeOrders w.db o.pk ≤ 1 || 2 ≤ soldOrders w.db o.pk ||
        created && unlinksProduct w inst o.pk))

/-- The orders after a delete. -/
def withoutOrder (db : Db) (pk : Nat) : Db :=
  { db with orders := db.orders.deleteWhere fun k _ => k == pk }

/-- **The condition of a step**, on the state before it. -/
def statusFits (s : Shop) : StatusEvent → Bool
  | .save pk inst => inst.owned.all (savedFits (writeOrder s pk inst) inst pk.isNone)
  | .delete pk =>
    ((s.db.orders.get? pk).bind Order.ownedProduct).all (resolverCounts (withoutOrder s.db pk))
  | .link _ p memory =>
    resolverCounts s.db p && (memory != some .draft || activeOrders s.db p == 0)
  | .unlink link p memory =>
    resolverCounts s.db p &&
      (memory != some .listed || activeOrders s.db p == 0 ||
        hasListing isListed (dropLink s link).db p)
  | .listing _ _ => true

def StatusFits (s : Shop) (e : StatusEvent) : Prop :=
  statusFits s e = true

instance (s : Shop) (e : StatusEvent) : Decidable (StatusFits s e) :=
  inferInstanceAs (Decidable (_ = true))

/-! ### Handlers that keep products out of stock -/

section Keeps

variable {s s' s'' : Shop} {o : Owned} {p q : Nat}

/-- The orders are as before, and no product with an active order comes into stock. -/
structure KeepsOut (s s' : Shop) : Prop where
  orders : s'.db.orders = s.db.orders
  keys : ∀ q, (productStatus s' q).isSome = (productStatus s q).isSome
  out : ∀ q, 0 < activeOrders s.db q → inStock s q = false → inStock s' q = false

theorem activeOrders_of_orders {db db' : Db} (h : db'.orders = db.orders) (p : Nat) :
    activeOrders db' p = activeOrders db p := by
  rw [activeOrders, activeOrders, h]

theorem soldOrders_of_orders {db db' : Db} (h : db'.orders = db.orders) (p : Nat) :
    soldOrders db' p = soldOrders db p := by
  rw [soldOrders, soldOrders, h]

theorem KeepsOut.refl (s : Shop) : KeepsOut s s :=
  ⟨rfl, fun _ => rfl, fun _ _ h => h⟩

theorem KeepsOut.trans (h : KeepsOut s s') (h' : KeepsOut s' s'') : KeepsOut s s'' where
  orders := h'.orders.trans h.orders
  keys := fun q => (h'.keys q).trans (h.keys q)
  out := by
    intro q hactive hq
    refine h'.out q ?_ (h.out q hactive hq)
    rw [activeOrders_of_orders h.orders]
    exact hactive

theorem inStock_eq_false_iff :
    inStock s p = false ↔ ∀ status, productStatus s p = some status → isStock status = false := by
  rw [inStock]
  rcases productStatus s p with - | status <;> simp

/-- Whatever spares the products that are not LISTED keeps out what is out. -/
theorem SparesUnlisted.keepsOut (h : SparesUnlisted s s') : KeepsOut s s' where
  orders := h.orders
  keys := h.keys
  out := by
    intro q _ hq
    have hne : productStatus s q ≠ some .listed := by
      intro hlisted
      rw [inStock, hlisted] at hq
      cases hq
    rw [inStock, h.status q hne]
    exact hq

theorem keepsOut_set {status : OwnedProductStatus}
    (h : isStock status = false ∨ activeOrders s.db p = 0 ∨ inStock s p = true) :
    KeepsOut s (setProductStatus s p status) where
  orders := rfl
  keys := fun q => keys_set s p q status
  out := by
    intro q hactive hq
    by_cases hqp : q = p
    · subst hqp
      rcases h with hstatus | hnone | hstock
      · apply inStock_eq_false_iff.mpr
        intro st hst
        rw [productStatus_set, if_pos rfl] at hst
        obtain ⟨_, -, rfl⟩ := Option.map_eq_some_iff.mp hst
        exact hstatus
      · omega
      · rw [hstock] at hq
        cases hq
    · rw [inStock, productStatus_set_ne hqp]
      exact hq

theorem resolverCounts_iff {db : Db} :
    resolverCounts db p = true ↔ (0 < activeOrders db p → 0 < soldOrders db p) := by
  rw [resolverCounts, Bool.or_eq_true, beq_iff_eq, decide_eq_true_iff]
  omega

/-- The status that is resolved is out of stock, or there is no active order. -/
theorem resolved_out {db : Db} (h : resolverCounts db p = true) :
    isStock (resolvedStatus db p) = false ∨ activeOrders db p = 0 := by
  rcases Nat.eq_zero_or_pos (activeOrders db p) with hnone | hactive
  · exact Or.inr hnone
  · rcases resolvedStatus_of_sold (resolverCounts_iff.mp h hactive) with ⟨hr, -⟩ | ⟨hr, -⟩
    · exact Or.inl (by rw [hr]; rfl)
    · exact Or.inl (by rw [hr]; rfl)

theorem keepsOut_resolve (h : resolverCounts s.db o.pk = true) :
    KeepsOut s (resolveOwnedProductStatus s o).1 := by
  unfold resolveOwnedProductStatus
  split
  · exact keepsOut_set ((resolved_out h).imp_right Or.inl)
  · exact KeepsOut.refl s

theorem keepsOut_resolveProduct (h : resolverCounts s.db p = true) :
    KeepsOut s (resolveProduct s p) := by
  unfold resolveProduct
  split
  · exact keepsOut_resolve h
  · exact KeepsOut.refl s

theorem keepsOut_sellOwned : KeepsOut s (sellOwned s o).1 := by
  unfold sellOwned
  split
  · exact keepsOut_set (Or.inl rfl)
  · split
    · exact keepsOut_set (Or.inl rfl)
    · exact KeepsOut.refl s

/-- A link that is deleted: its product is read from the row. -/
theorem keepsOut_maybeUnlisted
    (h : o.status = .listed → activeOrders s.db o.pk = 0 ∨ inStock s o.pk = true ∨
      hasListing isListed s.db o.pk = true) :
    KeepsOut s (ownedProductMaybeUnlisted s o) := by
  unfold ownedProductMaybeUnlisted
  split
  · rename_i hlisted
    rcases h hlisted.1 with hnone | hstock | hlisting
    · exact keepsOut_set (Or.inr (Or.inl hnone))
    · exact keepsOut_set (Or.inr (Or.inr hstock))
    · rw [hlisting] at hlisted
      exact absurd hlisted.2 nofun
  · exact KeepsOut.refl s

theorem keepsOut_listed
    (h : o.status = .draft → activeOrders s.db o.pk = 0 ∨ inStock s o.pk = true) :
    KeepsOut s (ownedProductListed s o) := by
  unfold ownedProductListed
  split
  · rename_i hdraft
    exact keepsOut_set (Or.inr (h hdraft))
  · exact KeepsOut.refl s

/-- An object that is fetched has the status of its row, or the one in memory. -/
theorem fetched_status {memory : Option OwnedProductStatus} (h : fetched s p memory = some o) :
    o.pk = p ∧ (memory = some o.status ∨ productStatus s p = some o.status) := by
  obtain ⟨status, hstatus, rfl⟩ := Option.map_eq_some_iff.mp h
  refine ⟨rfl, ?_⟩
  rcases memory with - | m
  · exact Or.inr hstatus
  · cases hstatus
    exact Or.inl rfl

theorem inStock_of_status {status : OwnedProductStatus} (h : productStatus s p = some status)
    (hstock : isStock status = true) : inStock s p = true := by
  rw [inStock, h]
  exact hstock

theorem keepsOut_dropLink (s : Shop) (link : Nat) : KeepsOut s (dropLink s link) :=
  ⟨rfl, fun _ => rfl, fun _ _ h => h⟩

theorem keepsOut_addLink (s : Shop) (listing p : Nat) : KeepsOut s (addLink s listing p) :=
  ⟨rfl, fun _ => rfl, fun _ _ h => h⟩

theorem keepsOut_deleteLink {link : Nat} {memory : Option OwnedProductStatus}
    (h : resolverCounts s.db p = true)
    (hmemory : memory = some .listed → activeOrders s.db p = 0 ∨
      hasListing isListed (dropLink s link).db p = true) :
    KeepsOut s (deleteLink s link p memory) := by
  have hresolved : KeepsOut (dropLink s link) (resolveProduct (dropLink s link) p) :=
    keepsOut_resolveProduct h
  refine (keepsOut_dropLink s link).trans ?_
  rw [deleteLink]
  rcases hfetched : fetched (resolveProduct (dropLink s link) p) p memory with - | o
  · exact hresolved
  refine hresolved.trans (keepsOut_maybeUnlisted fun hlisted => ?_)
  obtain ⟨rfl, hstatus⟩ := fetched_status hfetched
  have horders : (resolveProduct (dropLink s link) o.pk).db.orders = s.db.orders :=
    hresolved.orders
  rcases hstatus with hm | hrow
  · rw [hlisted] at hm
    rcases hmemory hm with hnone | hlisting
    · exact Or.inl ((activeOrders_of_orders horders o.pk).trans hnone)
    · refine Or.inr (Or.inr ?_)
      have honly : OnlyProducts (dropLink s link) (resolveProduct (dropLink s link) o.pk) :=
        onlyProducts_resolveProduct
      rw [hasListing, honly.links, honly.listings]
      exact hlisting
  · exact Or.inr (Or.inl (inStock_of_status hrow (by rw [hlisted]; rfl)))

theorem keepsOut_createLink {listing : Nat} {memory : Option OwnedProductStatus}
    (h : resolverCounts s.db p = true)
    (hmemory : memory = some .draft → activeOrders s.db p = 0) :
    KeepsOut s (createLink s listing p memory) := by
  have hresolved : KeepsOut (addLink s listing p) (resolveProduct (addLink s listing p) p) :=
    keepsOut_resolveProduct h
  refine (keepsOut_addLink s listing p).trans ?_
  rw [createLink]
  rcases hfetched : fetched (resolveProduct (addLink s listing p) p) p memory with - | o
  · exact hresolved
  refine hresolved.trans (keepsOut_listed fun hdraft => ?_)
  obtain ⟨rfl, hstatus⟩ := fetched_status hfetched
  rcases hstatus with hm | hrow
  · rw [hdraft] at hm
    exact Or.inl ((activeOrders_of_orders hresolved.orders o.pk).trans (hmemory hm))
  · exact Or.inr (inStock_of_status hrow (by rw [hdraft]; rfl))

/-! ### The end of a sale -/

theorem keepsOut_unlinkSold (r : Nat × ListingOwnedProduct)
    (h : resolverCounts s.db r.2.ownedProduct = true) : KeepsOut s (unlinkSold s r) := by
  have hdeleted : KeepsOut s (deleteLink s r.1 r.2.ownedProduct none) :=
    keepsOut_deleteLink h nofun
  unfold unlinkSold
  dsimp only
  split
  · exact hdeleted.trans (spares_saveListing _ _ _).keepsOut
  · exact hdeleted

theorem keepsOut_unlinkSoldAll (links : List (Nat × ListingOwnedProduct)) (s : Shop)
    (hlinks : ∀ r ∈ links, r.2.ownedProduct = p) (h : resolverCounts s.db p = true) :
    KeepsOut s (links.foldl unlinkSold s) := by
  induction links generalizing s with
  | nil => exact KeepsOut.refl s
  | cons r links ih =>
    have hr := hlinks r List.mem_cons_self
    have hone : KeepsOut s (unlinkSold s r) := keepsOut_unlinkSold r (by rw [hr]; exact h)
    refine hone.trans (ih _ (fun r' hr' => hlinks r' (List.mem_cons_of_mem r hr')) ?_)
    rw [resolverCounts, activeOrders_of_orders hone.orders, soldOrders_of_orders hone.orders]
    exact h

theorem product_of_mem_sameAccountLinks {account : Option Nat} {r : Nat × ListingOwnedProduct}
    (h : r ∈ sameAccountLinks s.db account p) : r.2.ownedProduct = p := by
  have hselected := (Table.mem_select.mp h).2
  rw [Bool.and_eq_true] at hselected
  exact eq_of_beq hselected.1

theorem resolverCounts_of_orders {db db' : Db} (h : db'.orders = db.orders)
    (hcounts : resolverCounts db p = true) : resolverCounts db' p = true := by
  rw [resolverCounts, activeOrders_of_orders h, soldOrders_of_orders h]
  exact hcounts

theorem keepsOut_closeAndUnlink {inst : OrderInstance} (created : Bool)
    (h : ∀ o ∈ inst.owned, resolverCounts s.db o.pk = true) :
    KeepsOut s (closeAndUnlink s inst created) := by
  have hclosed : KeepsOut s (inst.listing.elim s (closeSoldListing s)) := by
    rcases inst.listing with - | listing
    · exact KeepsOut.refl s
    · exact (spares_closeSoldListing s listing).keepsOut
  unfold closeAndUnlink
  split
  · rename_i o ho
    refine hclosed.trans (keepsOut_unlinkSoldAll _ _ (fun r hr =>
      product_of_mem_sameAccountLinks hr) ?_)
    exact resolverCounts_of_orders hclosed.orders (h o ho)
  · exact hclosed

end Keeps

/-! ### The links of a sale -/

section Unlinks

variable {s u : Shop} {p : Nat} {status : OwnedProductStatus}

theorem productStatus_ne_none_of_keys {s' : Shop} (h : KeepsOut s s')
    (hp : productStatus s p ≠ none) : productStatus s' p ≠ none := by
  intro hnone
  have hkeys := h.keys p
  rw [hnone] at hkeys
  exact hp (Option.not_isSome_iff_eq_none.mp (by rw [← hkeys]; exact nofun))

theorem resolved_ne_listed {db : Db} (h : 0 < soldOrders db p) :
    resolvedStatus db p ≠ .listed := by
  rcases resolvedStatus_of_sold h with ⟨hr, -⟩ | ⟨hr, -⟩
  · rw [hr]
    exact nofun
  · rw [hr]
    exact nofun

theorem resolved_cases {db : Db} (h : 0 < soldOrders db p) :
    ¬ resolvedStatus db p ≠ .sold ∨ ¬ resolvedStatus db p ≠ .multipleSold := by
  rcases resolvedStatus_of_sold h with ⟨hr, -⟩ | ⟨hr, -⟩
  · exact Or.inl (not_not.mpr hr)
  · exact Or.inr (not_not.mpr hr)

theorem resolverCounts_of_sold {db : Db} (h : 0 < soldOrders db p) :
    resolverCounts db p = true :=
  resolverCounts_iff.mpr fun _ => h

/-- **A link that a sale deletes** has its product resolved. -/
theorem productStatus_unlinkSold {r : Nat × ListingOwnedProduct} (hr : r.2.ownedProduct = p)
    (h : productStatus s p ≠ none) (hsold : 0 < soldOrders s.db p) :
    productStatus (unlinkSold s r) p = some (resolvedStatus s.db p) := by
  have hne := resolved_ne_listed hsold
  have hresolved : productStatus (resolveProduct (dropLink s r.1) p) p
      = some (resolvedStatus s.db p) := by
    have hdropped : productStatus (dropLink s r.1) p ≠ none := h
    rw [productStatus_resolveProduct hdropped]
    exact congrArg some (resolvedStatus_of_orders rfl hsold)
  have hdeleted : productStatus (deleteLink s r.1 p none) p = some (resolvedStatus s.db p) := by
    rw [deleteLink]
    have hfetched : fetched (resolveProduct (dropLink s r.1) p) p none
        = some ⟨p, resolvedStatus s.db p⟩ := by
      rw [fetched, hresolved]
      rfl
    rw [hfetched]
    show productStatus (ownedProductMaybeUnlisted _ _) p = _
    rw [ownedProductMaybeUnlisted, if_neg fun h => hne h.1]
    exact hresolved
  subst hr
  unfold unlinkSold
  dsimp only
  split
  · have hunlisted : productStatus (deleteLink s r.1 r.2.ownedProduct none) r.2.ownedProduct
        ≠ some .listed := by
      rw [hdeleted]
      exact fun h => hne (Option.some.inj h)
    rw [(spares_saveListing _ _ _).status _ hunlisted]
    exact hdeleted
  · exact hdeleted

theorem unlinkSoldAll_keeps (links : List (Nat × ListingOwnedProduct)) (s : Shop)
    (hlinks : ∀ r ∈ links, r.2.ownedProduct = p) (hsold : 0 < soldOrders s.db p)
    (h : productStatus s p = some (resolvedStatus s.db p)) :
    productStatus (links.foldl unlinkSold s) p = some (resolvedStatus s.db p) := by
  induction links generalizing s with
  | nil => exact h
  | cons r links ih =>
    have hr := hlinks r List.mem_cons_self
    have horders : (unlinkSold s r).db.orders = s.db.orders :=
      (keepsOut_unlinkSold r (by rw [hr]; exact resolverCounts_of_sold hsold)).orders
    have hresolved := resolvedStatus_of_orders horders hsold
    have hone : productStatus (unlinkSold s r) p = some (resolvedStatus s.db p) :=
      productStatus_unlinkSold hr (by rw [h]; exact nofun) hsold
    rw [List.foldl_cons, ← hresolved]
    apply ih
    · exact fun r' hr' => hlinks r' (List.mem_cons_of_mem r hr')
    · rw [soldOrders_of_orders horders]
      exact hsold
    · rw [hone, hresolved]

/-- As soon as there is a link. -/
theorem unlinkSoldAll_resolves {links : List (Nat × ListingOwnedProduct)} (hne : links ≠ [])
    (hlinks : ∀ r ∈ links, r.2.ownedProduct = p) (hsold : 0 < soldOrders s.db p)
    (h : productStatus s p ≠ none) :
    productStatus (links.foldl unlinkSold s) p = some (resolvedStatus s.db p) := by
  rcases links with - | ⟨r, links⟩
  · exact absurd rfl hne
  have hr := hlinks r List.mem_cons_self
  have horders : (unlinkSold s r).db.orders = s.db.orders :=
    (keepsOut_unlinkSold r (by rw [hr]; exact resolverCounts_of_sold hsold)).orders
  have hresolved := resolvedStatus_of_orders horders hsold
  rw [List.foldl_cons, ← hresolved]
  apply unlinkSoldAll_keeps
  · exact fun r' hr' => hlinks r' (List.mem_cons_of_mem r hr')
  · rw [soldOrders_of_orders horders]
    exact hsold
  · rw [productStatus_unlinkSold hr h hsold, hresolved]

/-- What a sale does to the listing it is sold through. -/
def closedFor (u : Shop) (inst : OrderInstance) : Shop :=
  inst.listing.elim u (closeSoldListing u)

theorem spares_closedFor (u : Shop) (inst : OrderInstance) :
    SparesUnlisted u (closedFor u inst) := by
  unfold closedFor
  rcases inst.listing with - | listing
  · exact SparesUnlisted.refl u
  · exact spares_closeSoldListing u listing

/-- A link that the sale finds is still there when the listing is closed. -/
theorem sameAccountLinks_closedFor {inst : OrderInstance}
    (h : unlinksProduct u inst p = true) :
    sameAccountLinks (closedFor u inst).db inst.integrationAccount p ≠ [] := by
  obtain ⟨k, l, hl, hfound⟩ := Table.any_iff.mp h
  obtain ⟨hproduct, hfound⟩ := (Bool.and_eq_true _ _).mp hfound
  rcases hrow : u.db.listings.get? l.listing with - | row
  · rw [hrow] at hfound
    cases hfound
  rw [hrow, Option.any_some, Bool.and_eq_true, Bool.not_eq_true'] at hfound
  obtain ⟨hactive, hopen⟩ := hfound
  have hkept : (closedFor u inst).db.listings.get? l.listing = some row ∧
      (closedFor u inst).db.listingOwnedProducts = u.db.listingOwnedProducts := by
    rw [closedFor]
    rcases hlisting : inst.listing with - | listing
    · exact ⟨hrow, rfl⟩
    show (closeSoldListing u listing).db.listings.get? l.listing = some row ∧
      (closeSoldListing u listing).db.listingOwnedProducts = _
    unfold closeSoldListing
    split
    · rename_i hlisted
      have hne : l.listing ≠ listing := by
        rintro rfl
        rw [hrow, Option.any_some] at hlisted
        rw [hlisting, hlisted] at hopen
        simp at hopen
      have hleaves : LeavesOthers listing u (saveListing u listing .closed) :=
        leavesOthers_saveListing .closed
      exact ⟨(hleaves.listings _ hne).trans hrow, hleaves.links⟩
    · exact ⟨hrow, rfl⟩
  have hmem : (k, l) ∈ sameAccountLinks (closedFor u inst).db inst.integrationAccount p := by
    apply Table.mem_select.mpr
    rw [hkept.1, hkept.2]
    exact ⟨hl, by rw [hproduct, Option.any_some, hactive]; rfl⟩
  exact List.ne_nil_of_mem hmem

/-- The end of a sale: the dropship product, the listing, the links. -/
def saleTail (u : Shop) (inst : OrderInstance) (created : Bool) : Shop :=
  closeAndUnlink (inst.dropshipProduct.elim u (sellDropship u)) inst created

theorem saleTail_created {inst : OrderInstance} {o : Owned} (ho : inst.owned = some o) :
    saleTail u inst true = unlinkSameAccountListings
      (closedFor (inst.dropshipProduct.elim u (sellDropship u)) inst) inst.integrationAccount
        o.pk := by
  unfold saleTail closeAndUnlink
  rw [ho]
  rfl

theorem saleTail_updated (inst : OrderInstance) :
    saleTail u inst false
      = closedFor (inst.dropshipProduct.elim u (sellDropship u)) inst := by
  unfold saleTail closeAndUnlink
  rcases inst.owned with - | o <;> rfl

theorem spares_dropship (u : Shop) (inst : OrderInstance) :
    SparesUnlisted u (inst.dropshipProduct.elim u (sellDropship u)) := by
  rcases inst.dropshipProduct with - | dp
  · exact SparesUnlisted.refl u
  · exact spares_sellDropship u dp

theorem onlyProducts_dropship (u : Shop) (inst : OrderInstance) :
    OnlyProducts u (inst.dropshipProduct.elim u (sellDropship u)) := by
  rcases inst.dropshipProduct with - | dp
  · exact OnlyProducts.refl u
  · exact onlyProducts_sellDropship dp

theorem keepsOut_saleTail {inst : OrderInstance} (created : Bool)
    (h : ∀ o ∈ inst.owned, resolverCounts u.db o.pk = true) :
    KeepsOut u (saleTail u inst created) := by
  have hdropped := (spares_dropship u inst).keepsOut
  refine hdropped.trans (keepsOut_closeAndUnlink created fun o ho => ?_)
  exact resolverCounts_of_orders hdropped.orders (h o ho)

/-- The end of a sale leaves a product that is resolved. -/
theorem saleTail_keeps {inst : OrderInstance} (created : Bool) (hsold : 0 < soldOrders u.db p)
    (hpk : inst.owned.map Owned.pk = some p)
    (h : productStatus u p = some (resolvedStatus u.db p)) :
    productStatus (saleTail u inst created) p = some (resolvedStatus u.db p) := by
  have hne : productStatus u p ≠ some .listed := by
    rw [h]
    exact fun h => resolved_ne_listed hsold (Option.some.inj h)
  have hspares : SparesUnlisted u (closedFor (inst.dropshipProduct.elim u (sellDropship u)) inst) :=
    (spares_dropship u inst).trans (spares_closedFor _ _)
  have hclosed := (hspares.status p hne).trans h
  obtain ⟨o, ho, rfl⟩ := Option.map_eq_some_iff.mp hpk
  cases created with
  | false =>
    rw [saleTail_updated]
    exact hclosed
  | true =>
    have hresolved := resolvedStatus_of_orders hspares.orders hsold
    rw [saleTail_created ho, ← hresolved]
    apply unlinkSoldAll_keeps
    · exact fun r hr => product_of_mem_sameAccountLinks hr
    · rw [soldOrders_of_orders hspares.orders]
      exact hsold
    · rw [hclosed, hresolved]

/-- A sale that unlinks its product leaves it resolved. -/
theorem saleTail_unlinks {inst : OrderInstance} (hsold : 0 < soldOrders u.db p)
    (hpk : inst.owned.map Owned.pk = some p) (hunlinks : unlinksProduct u inst p = true)
    (h : productStatus u p ≠ none) :
    productStatus (saleTail u inst true) p = some (resolvedStatus u.db p) := by
  have hspares : SparesUnlisted u (closedFor (inst.dropshipProduct.elim u (sellDropship u)) inst) :=
    (spares_dropship u inst).trans (spares_closedFor _ _)
  have honly := onlyProducts_dropship u inst
  have hunlinks' : unlinksProduct (inst.dropshipProduct.elim u (sellDropship u)) inst p
      = true := by
    rw [unlinksProduct, honly.links, honly.listings]
    exact hunlinks
  have hlinks := sameAccountLinks_closedFor hunlinks'
  obtain ⟨o, ho, rfl⟩ := Option.map_eq_some_iff.mp hpk
  have hresolved := resolvedStatus_of_orders hspares.orders hsold
  rw [saleTail_created ho, ← hresolved]
  apply unlinkSoldAll_resolves hlinks
  · exact fun r hr => product_of_mem_sameAccountLinks hr
  · rw [soldOrders_of_orders hspares.orders]
    exact hsold
  · exact productStatus_ne_none_of_keys hspares.keepsOut h

end Unlinks

/-! ### A save, handler by handler -/

section Saves

variable {s t w : Shop} {o : Owned} {k p : Nat} {inst : OrderInstance} {created : Bool}

/-- The row of a cancelled order is not counted, so the orders that remain are the
active ones. -/
theorem remainingOrders_eq {db : Db}
    (h : ∀ row, db.orders.get? k = some row → isCancelStatus row.status = true) :
    remainingOrders db k p = activeOrders db p := by
  apply Nat.le_antisymm
  · apply Table.count_le
    intro j row hrow hselected
    rw [Bool.and_eq_true] at hselected
    exact ⟨row, hrow, hselected.1⟩
  · apply Table.count_le
    intro j row hrow hselected
    refine ⟨row, hrow, ?_⟩
    have hne : j ≠ k := by
      rintro rfl
      rw [h row hrow] at hselected
      simp at hselected
    rw [hselected, Bool.true_and]
    exact bne_iff_ne.mpr hne

/-- A cancelled order is cancelled once its row is written. -/
def RowCancelled (t : Shop) (k : Nat) (inst : OrderInstance) : Prop :=
  isCancelStatus inst.status = true →
    ∀ row, t.db.orders.get? k = some row → isCancelStatus row.status = true

theorem rowCancelled_writeOrder (s : Shop) (pk : Option Nat) (inst : OrderInstance) :
    RowCancelled (writeOrder s pk inst) (orderKey s pk) inst := by
  intro hcancel row hrow
  have hwritten : row = inst.row := by
    rcases pk with - | k
    · rw [show (writeOrder s none inst).db.orders = s.db.orders.create inst.row from rfl,
        show orderKey s none = s.db.orders.nextKey from rfl, Table.get?_create, if_pos rfl] at hrow
      exact (Option.some.inj hrow).symm
    · rw [show (writeOrder s (some k) inst).db.orders
          = s.db.orders.updateWhere (fun j _ => j == k) fun _ => inst.row from rfl,
        show orderKey s (some k) = k from rfl, Table.get?_updateWhere] at hrow
      obtain ⟨old, -, hnew⟩ := Option.map_eq_some_iff.mp hrow
      rw [if_pos (beq_self_eq_true k)] at hnew
      exact hnew.symm
  rw [hwritten]
  exact hcancel

theorem RowCancelled.remaining (h : RowCancelled t k inst)
    (hcancel : isCancelStatus inst.status = true) :
    remainingOrders t.db k p = activeOrders t.db p :=
  remainingOrders_eq (h hcancel)

theorem keepsOut_revertOwned (h : remainingOrders t.db k o.pk = activeOrders t.db o.pk) :
    KeepsOut t (revertOwned t k o).1 := by
  unfold revertOwned
  split
  · exact KeepsOut.refl t
  split
  · exact KeepsOut.refl t
  split
  · exact keepsOut_set (Or.inl rfl)
  · have hnone : activeOrders t.db o.pk = 0 := by omega
    split
    · exact keepsOut_set (Or.inr (Or.inl hnone))
    · exact keepsOut_set (Or.inr (Or.inl hnone))

/-- The handler of the inventory app. -/
theorem orderSaved_eq (ho : inst.owned = some o) :
    orderSaved (w, inst) = ((resolveOwnedProductStatus w o).1,
      { inst with owned := some ⟨o.pk, resolvedStatus w.db o.pk⟩ }) := by
  have hmemory : (resolveOwnedProductStatus w o).2 = ⟨o.pk, resolvedStatus w.db o.pk⟩ := by
    unfold resolveOwnedProductStatus
    split
    · rfl
    · rename_i hsame
      rw [← not_not.mp hsame]
  unfold orderSaved
  rw [ho, ← hmemory]

/-- An order without a product is left to the other handlers. -/
theorem orderSaved_none (ho : inst.owned = none) : orderSaved (w, inst) = (w, inst) := by
  unfold orderSaved
  rw [ho]

/-- So is a product whose object has the resolved status in memory. -/
theorem orderSaved_current (ho : inst.owned = some o)
    (hmemory : o.status = resolvedStatus w.db o.pk) : orderSaved (w, inst) = (w, inst) := by
  rw [orderSaved_eq ho, resolveOwnedProductStatus, if_neg (not_not.mpr hmemory), ← hmemory, ← ho]

/-- The handler of the orders app, for a sold order. -/
theorem orderStatusChanged_sold (hsold : isSoldStatus inst.status = true)
    (ho : inst.owned = some o) :
    orderStatusChanged k created (t, inst)
      = (saleTail (sellOwned t o).1 { inst with owned := some (sellOwned t o).2 } created,
        { inst with owned := some (sellOwned t o).2 }) := by
  rw [orderStatusChanged, not_cancel_of_sold hsold, hsold, if_neg Bool.false_ne_true, if_pos rfl,
    handleOrderSold, sellProduct, ho]
  rfl

theorem orderStatusChanged_sold_none (hsold : isSoldStatus inst.status = true)
    (ho : inst.owned = none) :
    orderStatusChanged k created (t, inst) = (saleTail t inst created, inst) := by
  rw [orderStatusChanged, not_cancel_of_sold hsold, hsold, if_neg Bool.false_ne_true, if_pos rfl,
    handleOrderSold, sellProduct, ho]
  rfl

/-- For a cancelled order. -/
theorem orderStatusChanged_cancel (hcancel : isCancelStatus inst.status = true)
    (ho : inst.owned = some o) :
    orderStatusChanged k created (t, inst)
      = ((revertOwned t k o).1, { inst with owned := some (revertOwned t k o).2 }) := by
  rw [orderStatusChanged, hcancel, if_pos rfl, handleOrderCancelled, ho]

theorem orderStatusChanged_cancel_none (hcancel : isCancelStatus inst.status = true)
    (ho : inst.owned = none) : orderStatusChanged k created (t, inst) = (t, inst) := by
  rw [orderStatusChanged, hcancel, if_pos rfl, handleOrderCancelled, ho]

/-- For any other order. -/
theorem orderStatusChanged_other (hsold : isSoldStatus inst.status = false)
    (hcancel : isCancelStatus inst.status = false) :
    orderStatusChanged k created (t, inst) = (t, inst) := by
  rw [orderStatusChanged, hcancel, hsold]
  rfl

/-- What the handler of a sold order does to its product. -/
theorem sellOwned_cases (t : Shop) (o : Owned) :
    sellOwned t o = (t, o) ∧ ¬ (1 < activeOrders t.db o.pk ∧ o.status ≠ .multipleSold) ∨
      sellOwned t o = o.save t .multipleSold ∧ 1 < activeOrders t.db o.pk ∧
        o.status ≠ .multipleSold ∨
      sellOwned t o = o.save t .sold ∧ activeOrders t.db o.pk = 1 ∧ o.status = .listed := by
  rw [sellOwned]
  by_cases hmany : 1 < activeOrders t.db o.pk ∧ o.status ≠ .multipleSold
  · rw [if_pos hmany]
    exact Or.inr (Or.inl ⟨rfl, hmany⟩)
  · rw [if_neg hmany]
    by_cases hone : activeOrders t.db o.pk = 1 ∧ o.status = .listed
    · rw [if_pos hone]
      exact Or.inr (Or.inr ⟨rfl, hone⟩)
    · rw [if_neg hone]
      exact Or.inl ⟨rfl, hmany⟩

theorem keepsOut_orderStatusChanged (hcounts : ∀ o ∈ inst.owned, resolverCounts t.db o.pk = true)
    (hrow : RowCancelled t k inst) :
    KeepsOut t (orderStatusChanged k created (t, inst)).1 := by
  by_cases hsold : isSoldStatus inst.status = true
  · rcases ho : inst.owned with - | o
    · rw [orderStatusChanged_sold_none hsold ho]
      exact keepsOut_saleTail created hcounts
    · rw [orderStatusChanged_sold hsold ho]
      have hsell : KeepsOut t (sellOwned t o).1 := keepsOut_sellOwned
      refine hsell.trans (keepsOut_saleTail created ?_)
      rintro o' ⟨⟩
      rw [sellOwned_pk]
      exact resolverCounts_of_orders hsell.orders (hcounts o ho)
  by_cases hcancel : isCancelStatus inst.status = true
  · rcases ho : inst.owned with - | o
    · rw [orderStatusChanged_cancel_none hcancel ho]
      exact KeepsOut.refl t
    · rw [orderStatusChanged_cancel hcancel ho]
      exact keepsOut_revertOwned (hrow.remaining hcancel)
  · rw [orderStatusChanged_other (Bool.eq_false_iff.mpr hsold) (Bool.eq_false_iff.mpr hcancel)]
    exact KeepsOut.refl t

theorem inStock_of_resolved (hsold : 0 < soldOrders w.db p)
    (h : productStatus t p = some (resolvedStatus w.db p)) : inStock t p = false := by
  rw [inStock, h]
  rcases resolvedStatus_of_sold hsold with ⟨hr, -⟩ | ⟨hr, -⟩
  · rw [hr]
    rfl
  · rw [hr]
    rfl

theorem status_of_inStock (h : inStock w p = true) : productStatus w p ≠ none := by
  intro hnone
  rw [inStock, hnone] at h
  cases h

/-- Handlers see the statuses of products only, so they resolve alike. -/
theorem resolvedStatus_of_onlyProducts (h : OnlyProducts w t) (p : Nat) :
    resolvedStatus t.db p = resolvedStatus w.db p := by
  obtain ⟨ps, ds, rfl⟩ := h
  rfl

theorem soldOrders_le_activeOrders {db : Db} : soldOrders db p ≤ activeOrders db p := by
  apply Table.count_le
  intro j row hrow hselected
  obtain ⟨hproduct, hstatus⟩ := (Bool.and_eq_true _ _).mp hselected
  exact ⟨row, hrow, by rw [hproduct, not_cancel_of_sold hstatus]; rfl⟩

/-- The product of a dropship product that is sold is SOLD. -/
theorem inStock_sellOrigin (h : sellsOrigin t inst p = true) :
    inStock (inst.dropshipProduct.elim t (sellDropship t)) p = false := by
  obtain ⟨hlisted, h⟩ := (Bool.and_eq_true _ _).mp h
  rcases hdropship : inst.dropshipProduct with - | dp
  · rw [hdropship] at h
    cases h
  rw [hdropship, Option.any_some, Bool.and_eq_true] at h
  obtain ⟨horigin, hopen⟩ := h
  rcases hrow : t.dropshipProducts.get? dp with - | row
  · rw [hrow] at hopen
    cases hopen
  rw [hrow, Option.any_some, bne_iff_ne] at hopen
  show inStock (sellDropship t dp) p = false
  rw [sellDropship, hrow]
  dsimp only
  rw [if_neg hopen, inStock, productStatus_markOrigin]
  rw [if_pos ⟨eq_of_beq horigin, eq_of_beq hlisted⟩]
  rfl

/-- **A sale that writes its product** takes it out of stock. -/
theorem sold_out (hsoldOrder : isSoldStatus inst.status = true) (ho : inst.owned = some o)
    (hresolved : o.status = resolvedStatus t.db o.pk) (hsold : 0 < soldOrders t.db o.pk)
    (hstatus : productStatus t o.pk ≠ none)
    (hwrites : 1 < activeOrders t.db o.pk ∧ soldOrders t.db o.pk = 1 ∨
      sellsOrigin t inst o.pk = true ∨ created = true ∧ unlinksProduct t inst o.pk = true) :
    inStock (orderStatusChanged k created (t, inst)).1 o.pk = false := by
  rw [orderStatusChanged_sold hsoldOrder ho]
  have hcounts : ∀ o' ∈ some (sellOwned t o).2, resolverCounts (sellOwned t o).1.db o'.pk = true := by
    rintro o' ⟨⟩
    rw [sellOwned_pk]
    exact resolverCounts_of_orders keepsOut_sellOwned.orders (resolverCounts_of_sold hsold)
  rcases sellOwned_cases t o with ⟨hsell, hnot⟩ | ⟨hsell, hmany, -⟩ | ⟨hsell, -, hlisted⟩
  · -- nothing is written so far
    rw [hsell] at hcounts ⊢
    rcases hwrites with ⟨hmany, hone⟩ | horigin | ⟨rfl, hunlinks⟩
    · have hsold : resolvedStatus t.db o.pk = .sold := by
        rcases resolvedStatus_of_sold hsold with ⟨hr, -⟩ | ⟨-, htwo⟩
        · exact hr
        · omega
      exact absurd ⟨hmany, by rw [hresolved, hsold]; exact nofun⟩ hnot
    · have hdropped := inStock_sellOrigin horigin
      refine (keepsOut_closeAndUnlink created fun o' ho' => ?_).out o.pk ?_ hdropped
      · exact resolverCounts_of_orders (spares_dropship t inst).orders (hcounts o' ho')
      · rw [activeOrders_of_orders (spares_dropship t inst).orders]
        exact Nat.lt_of_lt_of_le hsold soldOrders_le_activeOrders
    · apply inStock_of_resolved hsold
      exact saleTail_unlinks hsold rfl hunlinks hstatus
  · rw [hsell] at hcounts ⊢
    have hout : inStock (o.save t .multipleSold).1 o.pk = false := by
      rw [inStock, Owned.save, productStatus_set_self hstatus]
      rfl
    refine (keepsOut_saleTail created hcounts).out o.pk ?_ hout
    show 0 < activeOrders t.db o.pk
    omega
  · exact absurd (hresolved.symm.trans hlisted) (resolved_ne_listed hsold)

/-- **A cancellation that leaves one order** makes its product SOLD. -/
theorem cancelled_out (hcancel : isCancelStatus inst.status = true) (ho : inst.owned = some o)
    (hresolved : o.status = resolvedStatus w.db o.pk) (hrow : RowCancelled w k inst)
    (hsold : 0 < soldOrders w.db o.pk) (hone : activeOrders w.db o.pk = 1)
    (hstatus : productStatus w o.pk ≠ none) :
    inStock (orderStatusChanged k created (w, inst)).1 o.pk = false := by
  have hremaining : remainingOrders w.db k o.pk = 1 := (hrow.remaining hcancel).trans hone
  have hmany : ¬ 1 < remainingOrders w.db k o.pk := by omega
  have hrevert : revertOwned w k o = o.save w .sold := by
    rw [revertOwned, hresolved, if_neg (not_and_or.mpr (resolved_cases hsold)), if_neg hmany,
      if_pos hremaining]
  rw [orderStatusChanged_cancel hcancel ho]
  dsimp only
  rw [hrevert, inStock, Owned.save, productStatus_set_self hstatus]
  rfl

theorem writesProduct_iff : writesProduct w inst created o = true ↔
    o.status ≠ resolvedStatus w.db o.pk ∨
      isCancelStatus inst.status = true ∧ activeOrders w.db o.pk = 1 ∨
      isSoldStatus inst.status = true ∧
        (1 < activeOrders w.db o.pk ∧ soldOrders w.db o.pk = 1 ∨ sellsOrigin w inst o.pk = true ∨
          created = true ∧ unlinksProduct w inst o.pk = true) := by
  simp [writesProduct, or_assoc]

theorem savedFits_iff : savedFits w inst created o = true ↔
    resolverCounts w.db o.pk = true ∧
      (0 < activeOrders w.db o.pk → inStock w o.pk = true →
        writesProduct w inst created o = true) ∧
      (isSoldStatus inst.status = true → 0 < soldOrders w.db o.pk ∧
        (activeOrders w.db o.pk ≤ 1 ∨ 2 ≤ soldOrders w.db o.pk ∨
          created = true ∧ unlinksProduct w inst o.pk = true)) := by
  rw [savedFits]
  rcases inStock w o.pk with - | - <;> rcases isSoldStatus inst.status with - | - <;>
    simp [and_assoc, or_assoc, Nat.pos_iff_ne_zero, imp_iff_not_or]

variable (created) in
/-- The inventory handler leaves the orders app an object with the resolved status. -/
theorem afterResolver (hcounts : resolverCounts w.db o.pk = true) (ho : inst.owned = some o)
    (hrow : RowCancelled w k inst) :
    KeepsOut w (orderSaved (w, inst)).1 ∧
      KeepsOut (orderSaved (w, inst)).1
        (orderStatusChanged k created (orderSaved (w, inst))).1 := by
  have hresolve : KeepsOut w (resolveOwnedProductStatus w o).1 := keepsOut_resolve hcounts
  rw [orderSaved_eq ho]
  refine ⟨hresolve, keepsOut_orderStatusChanged ?_ ?_⟩
  · rintro o' ⟨⟩
    exact resolverCounts_of_orders hresolve.orders hcounts
  · rw [RowCancelled, hresolve.orders]
    exact hrow

/-- **A save that keeps to its condition** takes its product out of stock. -/
theorem saved_out (ho : inst.owned = some o) (hfits : savedFits w inst created o = true)
    (hrow : RowCancelled w k inst) (hactive : 0 < activeOrders w.db o.pk) :
    inStock (orderStatusChanged k created (orderSaved (w, inst))).1 o.pk = false := by
  obtain ⟨hcounts, hwritten, -⟩ := savedFits_iff.mp hfits
  have hsold := resolverCounts_iff.mp hcounts hactive
  obtain ⟨hresolve, hkeeps⟩ := afterResolver created hcounts ho hrow
  by_cases hstock : inStock w o.pk = false
  · exact (hresolve.trans hkeeps).out o.pk hactive hstock
  rw [Bool.not_eq_false] at hstock
  have hstatus := status_of_inStock hstock
  by_cases hmemory : o.status = resolvedStatus w.db o.pk
  · -- the resolver writes nothing; a later handler does
    rw [orderSaved_current ho hmemory]
    rcases writesProduct_iff.mp (hwritten hactive hstock) with hne | ⟨hcancel, hone⟩ | ⟨hsale, hw⟩
    · exact absurd hmemory hne
    · exact cancelled_out hcancel ho hmemory hrow hsold hone hstatus
    · exact sold_out hsale ho hmemory hsold hstatus hw
  · refine hkeeps.out o.pk ?_ (inStock_of_resolved hsold ?_)
    · rw [activeOrders_of_orders hresolve.orders]
      exact hactive
    · rw [orderSaved_eq ho]
      exact (productStatus_resolve hstatus).trans (if_neg hmemory)

end Saves

/-! ### The two handlers, either way round -/

section Agree

variable {s t u w : Shop} {o : Owned} {k p : Nat} {inst : OrderInstance} {created : Bool}

theorem resolved_of_unsold {db : Db} (h : soldOrders db p = 0) :
    resolvedStatus db p = .listed ∨ resolvedStatus db p = .draft := by
  rw [resolvedStatus, h, if_neg (by omega), if_neg (by omega)]
  split
  · exact Or.inl rfl
  · exact Or.inr rfl

/-- A status that means a sale is resolved from an order. -/
theorem soldOrders_pos {db : Db}
    (h : resolvedStatus db p = .sold ∨ resolvedStatus db p = .multipleSold) :
    0 < soldOrders db p := by
  by_contra hnot
  rcases resolved_of_unsold (Nat.eq_zero_of_not_pos hnot) with hr | hr
  · rw [hr] at h
    exact h.elim nofun nofun
  · rw [hr] at h
    exact h.elim nofun nofun

/-- With one active order, a sale resolves to SOLD. -/
theorem resolved_of_one {db : Db} (hsold : 0 < soldOrders db p) (hone : activeOrders db p = 1) :
    resolvedStatus db p = .sold := by
  have hle : soldOrders db p ≤ activeOrders db p := soldOrders_le_activeOrders
  rcases resolvedStatus_of_sold hsold with ⟨hr, -⟩ | ⟨-, htwo⟩
  · exact hr
  · omega

/-- The resolver at the end: it leaves the status it resolves, if that is the row's
whenever it writes nothing. -/
theorem resolve_last {status : OwnedProductStatus} (hpk : o.pk = p)
    (hresolved : resolvedStatus u.db p = status) (h : productStatus u p ≠ none)
    (hsame : o.status = status → productStatus u p = some status) :
    productStatus (resolveOwnedProductStatus u o).1 p = some status := by
  subst hpk
  subst hresolved
  rw [productStatus_resolve h]
  split
  · rename_i hmemory
    exact hsame hmemory
  · rfl

/-- What the handler of a cancelled order does to its product. -/
theorem revertOwned_cases (t : Shop) (o : Owned)
    (h : remainingOrders t.db k o.pk = activeOrders t.db o.pk) :
    revertOwned t k o = (t, o) ∨
      (o.status = .sold ∨ o.status = .multipleSold) ∧
        (activeOrders t.db o.pk = 1 ∧ revertOwned t k o = o.save t .sold ∨
          activeOrders t.db o.pk = 0 ∧ ∃ status, revertOwned t k o = o.save t status) := by
  rw [revertOwned, h]
  by_cases hunsold : o.status ≠ .sold ∧ o.status ≠ .multipleSold
  · rw [if_pos hunsold]
    exact Or.inl rfl
  rw [if_neg hunsold]
  by_cases hmany : 1 < activeOrders t.db o.pk
  · rw [if_pos hmany]
    exact Or.inl rfl
  rw [if_neg hmany]
  have hstatus : o.status = .sold ∨ o.status = .multipleSold := by
    by_contra hnot
    exact hunsold (not_or.mp hnot)
  by_cases hone : activeOrders t.db o.pk = 1
  · rw [if_pos hone]
    exact Or.inr ⟨hstatus, Or.inl ⟨hone, rfl⟩⟩
  · rw [if_neg hone]
    refine Or.inr ⟨hstatus, Or.inr ⟨by omega, ?_⟩⟩
    split
    · exact ⟨.listed, rfl⟩
    · exact ⟨.draft, rfl⟩

theorem revertOwned_pk : (revertOwned t k o).2.pk = o.pk := by
  unfold revertOwned
  split
  · rfl
  split
  · rfl
  split
  · rfl
  split <;> rfl

/-- A cancelled order whose product has the resolved status in memory: the handler
leaves it so. -/
theorem revertOwned_resolved (hrem : remainingOrders t.db k o.pk = activeOrders t.db o.pk)
    (hresolved : o.status = resolvedStatus t.db o.pk) :
    (revertOwned t k o).2.status = o.status ∧
      (productStatus t o.pk ≠ none → productStatus t o.pk = some o.status →
        productStatus (revertOwned t k o).1 o.pk = some o.status) := by
  rcases revertOwned_cases t o hrem with hsame | ⟨hstatus, ⟨hone, hsave⟩ | ⟨hnone, -⟩⟩
  · rw [hsame]
    exact ⟨rfl, fun _ h => h⟩
  · rw [hresolved] at hstatus
    have hsold := resolved_of_one (soldOrders_pos hstatus) hone
    rw [hsave, hresolved, hsold]
    exact ⟨rfl, fun h _ => productStatus_set_self h _⟩
  · rw [hresolved] at hstatus
    have hle : soldOrders t.db o.pk ≤ activeOrders t.db o.pk := soldOrders_le_activeOrders
    have hpos := soldOrders_pos hstatus
    omega

/-- A status the handler writes is in the row and in memory. -/
theorem revertOwned_row (hrem : remainingOrders t.db k o.pk = activeOrders t.db o.pk)
    (h : productStatus t o.pk ≠ none) (hchanged : (revertOwned t k o).2.status ≠ o.status) :
    productStatus (revertOwned t k o).1 o.pk = some (revertOwned t k o).2.status := by
  rcases revertOwned_cases t o hrem with hsame | ⟨-, ⟨-, hsave⟩ | ⟨-, status, hsave⟩⟩
  · rw [hsame] at hchanged
    exact absurd rfl hchanged
  · rw [hsave]
    exact productStatus_set_self h _
  · rw [hsave]
    exact productStatus_set_self h _

/-- **A cancelled order**: its handlers agree. -/
theorem agree_cancel (hcancel : isCancelStatus inst.status = true) (ho : inst.owned = some o)
    (hrow : RowCancelled w k inst) (h : productStatus w o.pk ≠ none) :
    productStatus (orderStatusChanged k created (orderSaved (w, inst))).1 o.pk
      = productStatus (orderSaved (orderStatusChanged k created (w, inst))).1 o.pk := by
  have hrem : remainingOrders w.db k o.pk = activeOrders w.db o.pk := hrow.remaining hcancel
  have hfirst : (orderStatusChanged k created (orderSaved (w, inst))).1
      = (revertOwned (resolveOwnedProductStatus w o).1 k
          ⟨o.pk, resolvedStatus w.db o.pk⟩).1 := by
    have hcancel' : isCancelStatus ({ inst with
        owned := some ⟨o.pk, resolvedStatus w.db o.pk⟩ } : OrderInstance).status = true := hcancel
    rw [orderSaved_eq ho, orderStatusChanged_cancel hcancel' rfl]
  have hlast : (orderSaved (orderStatusChanged k created (w, inst))).1
      = (resolveOwnedProductStatus (revertOwned w k o).1 (revertOwned w k o).2).1 := by
    rw [orderStatusChanged_cancel hcancel ho, orderSaved_eq rfl]
  rw [hfirst, hlast]
  have honly : OnlyProducts w (revertOwned w k o).1 := onlyProducts_revertOwned
  have hpk : (revertOwned w k o).2.pk = o.pk := revertOwned_pk
  have hkeys : productStatus (revertOwned w k o).1 o.pk ≠ none :=
    productStatus_ne_none_of_keys (keepsOut_revertOwned hrem) h
  have hR : resolvedStatus (revertOwned w k o).1.db o.pk = resolvedStatus w.db o.pk :=
    resolvedStatus_of_onlyProducts honly o.pk
  by_cases hmemory : o.status = resolvedStatus w.db o.pk
  · -- the resolver writes nothing, before or after
    have hsame : resolveOwnedProductStatus w o = (w, o) := by
      rw [resolveOwnedProductStatus, if_neg (not_not.mpr hmemory)]
    have hstatus := (revertOwned_resolved hrem hmemory).1
    rw [hsame, ← hmemory]
    rw [resolveOwnedProductStatus, if_neg]
    rw [hpk, hR, ← hmemory]
    exact not_not.mpr hstatus
  · -- both end with the status that is resolved
    have hresolved : productStatus (resolveOwnedProductStatus w o).1 o.pk
        = some (resolvedStatus w.db o.pk) := by
      rw [productStatus_resolve h, if_neg hmemory]
    have honly' : OnlyProducts w (resolveOwnedProductStatus w o).1 := onlyProducts_resolve
    have hfirst' : productStatus (revertOwned (resolveOwnedProductStatus w o).1 k
        ⟨o.pk, resolvedStatus w.db o.pk⟩).1 o.pk = some (resolvedStatus w.db o.pk) := by
      refine (revertOwned_resolved ?_ ?_).2 ?_ hresolved
      · show remainingOrders _ k o.pk = activeOrders _ o.pk
        rw [remainingOrders, activeOrders, honly'.orders]
        exact hrem
      · exact (resolvedStatus_of_onlyProducts honly' o.pk).symm
      · rw [hresolved]
        exact nofun
    rw [hfirst']
    refine (resolve_last hpk hR hkeys fun hwritten => ?_).symm
    have hchanged : (revertOwned w k o).2.status ≠ o.status := by
      rw [hwritten]
      exact fun heq => hmemory heq.symm
    rw [revertOwned_row hrem h hchanged, hwritten]

/-- An order that is neither sold nor cancelled: one handler does nothing. -/
theorem agree_other (hsold : isSoldStatus inst.status = false)
    (hcancel : isCancelStatus inst.status = false) (ho : inst.owned = some o) :
    orderStatusChanged k created (orderSaved (w, inst))
      = orderSaved (orderStatusChanged k created (w, inst)) := by
  rw [orderStatusChanged_other hsold hcancel, orderSaved_eq ho]
  exact orderStatusChanged_other hsold hcancel

/-- A sale of a product that has the resolved status in memory writes nothing, unless
the orders app counts more orders than the resolver. -/
theorem sellOwned_resolved (hresolved : o.status = resolvedStatus t.db o.pk)
    (hsold : 0 < soldOrders t.db o.pk)
    (hcount : activeOrders t.db o.pk ≤ 1 ∨ 2 ≤ soldOrders t.db o.pk) :
    sellOwned t o = (t, o) := by
  rcases sellOwned_cases t o with ⟨hsame, -⟩ | ⟨-, hmany, hne⟩ | ⟨-, -, hlisted⟩
  · exact hsame
  · rcases resolvedStatus_of_sold hsold with ⟨-, hone⟩ | ⟨hr, -⟩
    · omega
    · exact absurd (hresolved.trans hr) hne
  · exact absurd (hresolved.symm.trans hlisted) (resolved_ne_listed hsold)

/-- What a sale writes is what is resolved. -/
theorem sellOwned_row (h : productStatus t o.pk ≠ none) (hsold : 0 < soldOrders t.db o.pk)
    (hcount : activeOrders t.db o.pk ≤ 1 ∨ 2 ≤ soldOrders t.db o.pk) :
    (sellOwned t o).2 = o ∨ productStatus (sellOwned t o).1 o.pk
      = some (resolvedStatus t.db o.pk) := by
  rcases sellOwned_cases t o with ⟨hsame, -⟩ | ⟨hsave, hmany, -⟩ | ⟨hsave, hone, -⟩
  · rw [hsame]
    exact Or.inl rfl
  · rcases resolvedStatus_of_sold hsold with ⟨-, hone⟩ | ⟨hr, -⟩
    · omega
    · rw [hsave, hr]
      exact Or.inr (productStatus_set_self h _)
  · rw [hsave, resolved_of_one hsold hone]
    exact Or.inr (productStatus_set_self h _)

theorem unlinksProduct_of_onlyProducts (h : OnlyProducts w t) (owned : Option Owned) :
    unlinksProduct t { inst with owned } p = unlinksProduct w inst p := by
  rw [unlinksProduct, h.links, h.listings]
  rfl

/-- The handler of a sold order, on an object. -/
def saleOf (t : Shop) (inst : OrderInstance) (created : Bool) (o : Owned) : Shop :=
  saleTail (sellOwned t o).1 { inst with owned := some (sellOwned t o).2 } created

theorem keepsOut_saleOf (hsold : 0 < soldOrders t.db o.pk) :
    KeepsOut t (saleOf t inst created o) := by
  have hsell : KeepsOut t (sellOwned t o).1 := keepsOut_sellOwned
  refine hsell.trans (keepsOut_saleTail created ?_)
  rintro o' ⟨⟩
  rw [sellOwned_pk]
  exact resolverCounts_of_orders hsell.orders (resolverCounts_of_sold hsold)

theorem resolved_sellOwned (hsold : 0 < soldOrders t.db o.pk) :
    0 < soldOrders (sellOwned t o).1.db o.pk ∧
      resolvedStatus (sellOwned t o).1.db o.pk = resolvedStatus t.db o.pk := by
  have horders : (sellOwned t o).1.db.orders = t.db.orders := keepsOut_sellOwned.orders
  exact ⟨by rw [soldOrders_of_orders horders]; exact hsold, resolvedStatus_of_orders horders hsold⟩

theorem saleOf_keeps (hsold : 0 < soldOrders t.db o.pk)
    (h : productStatus (sellOwned t o).1 o.pk = some (resolvedStatus t.db o.pk)) :
    productStatus (saleOf t inst created o) o.pk = some (resolvedStatus t.db o.pk) := by
  obtain ⟨hsold', hresolved⟩ := resolved_sellOwned hsold
  rw [← hresolved] at h ⊢
  exact saleTail_keeps created hsold' (congrArg some sellOwned_pk) h

theorem saleOf_unlinks (hsold : 0 < soldOrders t.db o.pk) (h : productStatus t o.pk ≠ none)
    (hunlinks : unlinksProduct t inst o.pk = true) :
    productStatus (saleOf t inst true o) o.pk = some (resolvedStatus t.db o.pk) := by
  obtain ⟨hsold', hresolved⟩ := resolved_sellOwned hsold
  have hunlinks' : unlinksProduct (sellOwned t o).1
      { inst with owned := some (sellOwned t o).2 } o.pk = true := by
    rw [unlinksProduct_of_onlyProducts onlyProducts_sellOwned]
    exact hunlinks
  rw [← hresolved]
  exact saleTail_unlinks hsold' (congrArg some sellOwned_pk) hunlinks'
    (productStatus_ne_none_of_keys keepsOut_sellOwned h)

/-- **A sold order**: its handlers agree. -/
theorem agree_sold (hsale : isSoldStatus inst.status = true) (ho : inst.owned = some o)
    (h : productStatus w o.pk ≠ none) (hsold : 0 < soldOrders w.db o.pk)
    (hcount : (activeOrders w.db o.pk ≤ 1 ∨ 2 ≤ soldOrders w.db o.pk) ∨
      created = true ∧ unlinksProduct w inst o.pk = true) :
    productStatus (orderStatusChanged k created (orderSaved (w, inst))).1 o.pk
      = productStatus (orderSaved (orderStatusChanged k created (w, inst))).1 o.pk := by
  generalize hR : resolvedStatus w.db o.pk = R
  generalize ht : (resolveOwnedProductStatus w o).1 = t
  have honly : OnlyProducts w t := ht ▸ onlyProducts_resolve
  have hsoldT : 0 < soldOrders t.db o.pk := by
    rw [soldOrders_of_orders honly.orders]
    exact hsold
  have hRT : resolvedStatus t.db o.pk = R := (resolvedStatus_of_onlyProducts honly o.pk).trans hR
  have hfirst : (orderStatusChanged k created (orderSaved (w, inst))).1
      = saleOf t inst created ⟨o.pk, R⟩ := by
    have hsale' : isSoldStatus ({ inst with owned := some ⟨o.pk, R⟩ } : OrderInstance).status
        = true := hsale
    rw [orderSaved_eq ho, hR, ht, orderStatusChanged_sold hsale' rfl]
    rfl
  have hlast : (orderSaved (orderStatusChanged k created (w, inst))).1
      = (resolveOwnedProductStatus (saleOf w inst created o) (sellOwned w o).2).1 := by
    rw [orderStatusChanged_sold hsale ho, orderSaved_eq rfl]
    rfl
  rw [hfirst, hlast]
  -- the resolver after the sale
  have hkeeps : KeepsOut w (saleOf w inst created o) := keepsOut_saleOf hsold
  have hend : ((sellOwned w o).2.status = R →
        productStatus (saleOf w inst created o) o.pk = some R) →
      productStatus (resolveOwnedProductStatus (saleOf w inst created o) (sellOwned w o).2).1 o.pk
        = some R := by
    apply resolve_last sellOwned_pk
    · exact (resolvedStatus_of_orders hkeeps.orders hsold).trans hR
    · exact productStatus_ne_none_of_keys hkeeps h
  rcases hcount with hcount | ⟨rfl, hunlinks⟩
  · have hsame : sellOwned t ⟨o.pk, R⟩ = (t, ⟨o.pk, R⟩) := by
      apply sellOwned_resolved (o := ⟨o.pk, R⟩) hRT.symm hsoldT
      show activeOrders t.db o.pk ≤ 1 ∨ 2 ≤ soldOrders t.db o.pk
      rw [activeOrders_of_orders honly.orders, soldOrders_of_orders honly.orders]
      exact hcount
    by_cases hmemory : o.status = R
    · -- the same sale, and nothing to resolve
      have hwt : t = w := by
        rw [← ht, resolveOwnedProductStatus, hR, if_neg (not_not.mpr hmemory)]
      have hobj : (⟨o.pk, R⟩ : Owned) = o := by rw [← hmemory]
      have hsell : (sellOwned w o).2 = o := by
        rw [hwt, hobj] at hsame
        rw [hsame]
      rw [hwt, hobj, hsell, resolveOwnedProductStatus, if_neg]
      rw [resolvedStatus_of_orders hkeeps.orders hsold, hR]
      exact not_not.mpr hmemory
    · -- both end with the status that is resolved
      have hrow : productStatus t o.pk = some R := by
        rw [← ht, productStatus_resolve h, hR, if_neg hmemory]
      rw [hend]
      · refine (saleOf_keeps (o := ⟨o.pk, R⟩) hsoldT ?_).trans (congrArg some hRT)
        rw [hsame]
        exact hrow.trans (congrArg some hRT.symm)
      · intro hwritten
        rcases sellOwned_row h hsold hcount with hobj | hrow'
        · rw [hobj] at hwritten
          exact absurd hwritten hmemory
        · exact (saleOf_keeps hsold hrow').trans (congrArg some hR)
  · -- the product is unlinked, and resolved then
    rw [hend]
    · refine (saleOf_unlinks (o := ⟨o.pk, R⟩) hsoldT ?_ ?_).trans (congrArg some hRT)
      · exact productStatus_ne_none_of_keys (ht ▸ keepsOut_resolve (resolverCounts_of_sold hsold)) h
      · exact (unlinksProduct_of_onlyProducts honly inst.owned).trans hunlinks
    · intro _
      exact (saleOf_unlinks hsold h hunlinks).trans (congrArg some hR)

theorem keys_orderSaved (st : Shop × OrderInstance) (q : Nat) :
    (productStatus (orderSaved st).1 q).isSome = (productStatus st.1 q).isSome := by
  unfold orderSaved
  split
  · dsimp only
    unfold resolveOwnedProductStatus
    split
    · exact keys_set _ _ _ _
    · rfl
  · rfl

/-- **The handlers of a saved order agree.** -/
theorem handlers_agree (ho : inst.owned = some o) (hfits : savedFits w inst created o = true)
    (hrow : RowCancelled w k inst) :
    productStatus (orderStatusChanged k created (orderSaved (w, inst))).1 o.pk
      = productStatus (orderSaved (orderStatusChanged k created (w, inst))).1 o.pk := by
  obtain ⟨hcounts, -, hcount⟩ := savedFits_iff.mp hfits
  by_cases hstatus : productStatus w o.pk = none
  · -- the product is gone
    obtain ⟨hresolve, hlater⟩ := afterResolver created hcounts ho hrow
    have hfirst := (hresolve.trans hlater).keys o.pk
    have hchanged : KeepsOut w (orderStatusChanged k created (w, inst)).1 := by
      refine keepsOut_orderStatusChanged ?_ hrow
      rw [ho]
      rintro o' ⟨⟩
      exact hcounts
    have hlast := (keys_orderSaved (orderStatusChanged k created (w, inst)) o.pk).trans
      (hchanged.keys o.pk)
    rw [hstatus] at hfirst hlast
    rw [Option.isSome_eq_false_iff.mp hfirst |> Option.isNone_iff_eq_none.mp,
      Option.isSome_eq_false_iff.mp hlast |> Option.isNone_iff_eq_none.mp]
  by_cases hsale : isSoldStatus inst.status = true
  · obtain ⟨hsold, hcount⟩ := hcount hsale
    exact agree_sold hsale ho hstatus hsold (or_assoc.mpr hcount)
  by_cases hcancel : isCancelStatus inst.status = true
  · exact agree_cancel hcancel ho hrow hstatus
  · rw [agree_other (Bool.eq_false_iff.mpr hsale) (Bool.eq_false_iff.mpr hcancel) ho]

end Agree

/-! ### Steps that keep products out of stock -/

section Steps

variable {s s' : Shop} {q : Nat}

theorem authority_of_keepsOut (h : StatusAuthority s) (hkeeps : KeepsOut s s') :
    StatusAuthority s' := by
  intro q hactive
  rw [activeOrders_of_orders hkeeps.orders] at hactive
  exact hkeeps.out q hactive (h q hactive)

/-- A row that is written counts for its own product alone. -/
theorem activeOrders_writeOrder_le (pk : Option Nat) {inst : OrderInstance}
    (h : inst.row.ownedProduct ≠ some q) :
    activeOrders (writeOrder s pk inst).db q ≤ activeOrders s.db q := by
  have hself : ((inst.row.ownedProduct == some q) && !isCancelStatus inst.row.status) = false := by
    rw [beq_eq_false_iff_ne.mpr h, Bool.false_and]
  apply Table.count_le
  intro j row hrow hselected
  rcases pk with - | k
  · rw [show (writeOrder s none inst).db.orders = s.db.orders.create inst.row from rfl,
      Table.get?_create] at hrow
    split at hrow
    · cases hrow
      rw [hself] at hselected
      cases hselected
    · exact ⟨row, hrow, hselected⟩
  · rw [show (writeOrder s (some k) inst).db.orders
        = s.db.orders.updateWhere (fun j _ => j == k) fun _ => inst.row from rfl,
      Table.get?_updateWhere] at hrow
    obtain ⟨old, hold, hnew⟩ := Option.map_eq_some_iff.mp hrow
    split at hnew
    · cases hnew
      rw [hself] at hselected
      cases hselected
    · cases hnew
      exact ⟨row, hold, hselected⟩

theorem activeOrders_withoutOrder_le (db : Db) (pk : Nat) :
    activeOrders (withoutOrder db pk) q ≤ activeOrders db q := by
  apply Table.count_le
  intro j row hrow hselected
  rw [show (withoutOrder db pk).orders = db.orders.deleteWhere fun k _ => k == pk from rfl,
    Table.get?_deleteWhere] at hrow
  exact ⟨row, hrow.1, hselected⟩

theorem authority_save (h : StatusAuthority s) (pk : Option Nat) (inst : OrderInstance)
    (hfits : StatusFits s (.save pk inst)) : StatusAuthority (saveOrder s pk inst) := by
  have hrow := rowCancelled_writeOrder s pk inst
  have hothers : ∀ q, inst.row.ownedProduct ≠ some q → 0 < activeOrders (writeOrder s pk inst).db q →
      inStock (writeOrder s pk inst) q = false := by
    intro q hq hactive
    exact h q (Nat.lt_of_lt_of_le hactive (activeOrders_writeOrder_le pk hq))
  rcases ho : inst.owned with - | o
  · have hkeeps : KeepsOut (writeOrder s pk inst) (saveOrder s pk inst) := by
      rw [saveOrder, orderSaved_none ho]
      refine keepsOut_orderStatusChanged ?_ hrow
      rw [ho]
      intro o h
      cases h
    intro q hactive
    rw [activeOrders_of_orders hkeeps.orders] at hactive
    refine hkeeps.out q hactive (hothers q ?_ hactive)
    rw [OrderInstance.row, ho]
    intro h
    cases h
  · have hsaved : savedFits (writeOrder s pk inst) inst pk.isNone o = true := by
      rw [StatusFits, statusFits, ho] at hfits
      exact hfits
    obtain ⟨hresolve, hlater⟩ :=
      afterResolver pk.isNone (savedFits_iff.mp hsaved).1 ho hrow
    have hkeeps : KeepsOut (writeOrder s pk inst) (saveOrder s pk inst) := hresolve.trans hlater
    intro q hactive
    rw [activeOrders_of_orders hkeeps.orders] at hactive
    by_cases hq : q = o.pk
    · subst hq
      exact saved_out ho hsaved hrow hactive
    · refine hkeeps.out q hactive (hothers q ?_ hactive)
      rw [OrderInstance.row, ho]
      exact fun heq => hq (Option.some.inj heq).symm

theorem authority_delete (h : StatusAuthority s) (pk : Nat) (hfits : StatusFits s (.delete pk)) :
    StatusAuthority (deleteOrder s pk) := by
  have hdeleted : StatusAuthority { s with db := withoutOrder s.db pk } := by
    intro q hactive
    exact h q (Nat.lt_of_lt_of_le hactive (activeOrders_withoutOrder_le s.db pk))
  rw [StatusFits, statusFits] at hfits
  rw [deleteOrder]
  rcases hproduct : (s.db.orders.get? pk).bind Order.ownedProduct with - | p
  · exact hdeleted
  · rw [hproduct] at hfits
    exact authority_of_keepsOut hdeleted (keepsOut_resolveProduct hfits)

theorem authority_link (h : StatusAuthority s) {listing p : Nat}
    {memory : Option OwnedProductStatus} (hfits : StatusFits s (.link listing p memory)) :
    StatusAuthority (createLink s listing p memory) := by
  obtain ⟨hcounts, hmemory⟩ := (Bool.and_eq_true _ _).mp hfits
  apply authority_of_keepsOut h
  apply keepsOut_createLink hcounts
  rintro rfl
  simpa using hmemory

theorem authority_unlink (h : StatusAuthority s) {link p : Nat}
    {memory : Option OwnedProductStatus} (hfits : StatusFits s (.unlink link p memory)) :
    StatusAuthority (deleteLink s link p memory) := by
  obtain ⟨hcounts, hmemory⟩ := (Bool.and_eq_true _ _).mp hfits
  apply authority_of_keepsOut h
  apply keepsOut_deleteLink hcounts
  rintro rfl
  simpa using hmemory

/-- **One step.** -/
theorem authority_step (h : StatusAuthority s) {e : StatusEvent} (hfits : StatusFits s e) :
    StatusAuthority (statusStep s e) := by
  cases e with
  | save pk inst => exact authority_save h pk inst hfits
  | delete pk => exact authority_delete h pk hfits
  | link listing p memory => exact authority_link h hfits
  | unlink link p memory => exact authority_unlink h hfits
  | listing listing status =>
    exact authority_of_keepsOut h (spares_saveListing s listing status).keepsOut

end Steps

/-! ### Runs -/

/-- One step: the handlers agree. -/
theorem handlersAgree_step {s : Shop} {e : StatusEvent} (hfits : StatusFits s e) :
    HandlersAgree s e := by
  cases e with
  | save pk inst =>
    intro o ho
    have ho : inst.owned = some o := ho
    rw [StatusFits, statusFits, ho] at hfits
    exact handlers_agree ho hfits (rowCancelled_writeOrder s pk inst)
  | delete _ => trivial
  | link _ _ _ => trivial
  | unlink _ _ _ => trivial
  | listing _ _ => trivial

/-- **Status authority.**  From a state without sold stock, every run of saves and
deletes of orders, links, unlinks and saves of listings whose steps keep to their
condition stays in such states, and at each saved order both handlers leave one
status, whichever runs last. -/
theorem status_authority (s : Shop) (h : StatusAuthority s) (es : List StatusEvent)
    (hfits : Along statusStep StatusFits s es) :
    Always statusStep StatusAuthority s es ∧ Along statusStep HandlersAgree s es :=
  ⟨always_of_along (fun _ _ hs he => authority_step hs he) h hfits,
    along_of_along (I := fun _ => True) (fun _ _ _ _ => trivial)
      (fun _ _ _ he => handlersAgree_step he) trivial hfits⟩

/-! ### A product with one or two orders -/

/-- Product 7 on the LISTED listing 1, without orders. -/
def oneProductShop : Shop where
  db :=
    { items := ⟨.empty, by decide⟩
      ownedProducts := ⟨[(7, { status := .listed })], by decide⟩
      listings := offerListing
      listingOwnedProducts := ⟨[(1, ⟨1, 7⟩)], by decide⟩ }

/-- An order of product 7, whose object has a status in memory. -/
def orderOf (status : OrderStatus) (memory : OwnedProductStatus) : OrderInstance where
  status := status
  owned := some ⟨7, memory⟩
  integrationAccount := some 2

theorem oneProductShop_authority : StatusAuthority oneProductShop := by
  intro p hactive
  exact absurd hactive (Nat.lt_irrefl 0)

/-- A sale, its completion and its refund. -/
theorem status_authority_single :
    Always statusStep StatusAuthority oneProductShop
        [.save none (orderOf .pending .listed), .save (some 0) (orderOf .completed .sold),
          .listing 1 .closed, .save (some 0) (orderOf .refunded .sold)] ∧
      Along statusStep HandlersAgree oneProductShop
        [.save none (orderOf .pending .listed), .save (some 0) (orderOf .completed .sold),
          .listing 1 .closed, .save (some 0) (orderOf .refunded .sold)] :=
  status_authority oneProductShop oneProductShop_authority _ (by decide)

/-- The product is offered again after the dispute of its order, and after a sale
whose object had the status SOLD in memory; a PENDING order next to a DISPUTED one
leaves it SOLD or MULTIPLE_SOLD. -/
theorem status_authority_fails :
    ¬ StatusAuthority (run statusStep oneProductShop
        [.save none (orderOf .pending .listed), .save (some 0) (orderOf .disputed .sold)]) ∧
      ¬ StatusAuthority (run statusStep oneProductShop [.save none (orderOf .pending .sold)]) ∧
      ¬ HandlersAgree (run statusStep oneProductShop [.save none (orderOf .disputed .listed)])
        (.save none (orderOf .pending .listed)) := by
  refine ⟨fun h => ?_, fun h => ?_, fun h => ?_⟩
  · exact absurd (h 7 (by decide)) (by decide)
  · exact absurd (h 7 (by decide)) (by decide)
  · exact absurd (h ⟨7, .listed⟩ rfl) (by decide)

end Sda.Orders
