/-
Sda/Orders/ProductStatus.lean

What the handlers of Sda/Orders/Signals.lean do to the status of one product.

* a listing that is saved and a dropship product that is sold leave every product
  alone that is not LISTED (`SparesUnlisted`);
* the resolver writes the status it resolves, unless the object it works on has
  that status already in memory (`productStatus_resolve`);
* a product with an order the resolver counts resolves to SOLD or MULTIPLE_SOLD,
  whatever its listings are (`resolvedStatus_of_sold`).
-/
import Sda.Orders.Signals

namespace Sda.Orders

section Status

variable {s s' s'' : Shop} {o : Owned} {p q listing : Nat} {status : OwnedProductStatus}

/-! ### One status is written -/

theorem productStatus_set (s : Shop) (p q : Nat) (status : OwnedProductStatus) :
    productStatus (setProductStatus s p status) q
      = if q = p then (productStatus s p).map fun _ => status else productStatus s q := by
  show ((s.db.ownedProducts.updateWhere _ _).get? q).map _ = _
  rw [Table.get?_updateWhere]
  by_cases hq : q = p
  · subst hq
    rw [if_pos rfl, productStatus]
    rcases s.db.ownedProducts.get? q with - | row <;> simp
  · rw [if_neg hq, productStatus]
    rcases s.db.ownedProducts.get? q with - | row <;> simp [hq]

theorem productStatus_set_self (h : productStatus s p ≠ none) (status : OwnedProductStatus) :
    productStatus (setProductStatus s p status) p = some status := by
  rw [productStatus_set, if_pos rfl]
  rcases hp : productStatus s p with - | old
  · exact absurd hp h
  · rfl

theorem productStatus_set_ne (h : q ≠ p) (status : OwnedProductStatus) :
    productStatus (setProductStatus s p status) q = productStatus s q := by
  rw [productStatus_set, if_neg h]

theorem keys_set (s : Shop) (p q : Nat) (status : OwnedProductStatus) :
    (productStatus (setProductStatus s p status) q).isSome = (productStatus s q).isSome := by
  rw [productStatus_set]
  split
  · rename_i hq
    rw [hq, Option.isSome_map]
  · rfl

/-! ### The resolver -/

theorem resolvedStatus_of_orders {db db' : Db} (horders : db'.orders = db.orders)
    (hsold : 0 < soldOrders db p) : resolvedStatus db' p = resolvedStatus db p := by
  have hcount : soldOrders db' p = soldOrders db p := by rw [soldOrders, soldOrders, horders]
  rw [resolvedStatus, resolvedStatus, hcount]
  by_cases htwo : 2 ≤ soldOrders db p
  · rw [if_pos htwo, if_pos htwo]
  · have hone : soldOrders db p = 1 := by omega
    rw [if_neg htwo, if_neg htwo, if_pos hone, if_pos hone]

/-- **A product the resolver counts orders of** is SOLD or MULTIPLE_SOLD. -/
theorem resolvedStatus_of_sold {db : Db} (hsold : 0 < soldOrders db p) :
    resolvedStatus db p = .sold ∧ soldOrders db p = 1 ∨
      resolvedStatus db p = .multipleSold ∧ 2 ≤ soldOrders db p := by
  rw [resolvedStatus]
  by_cases htwo : 2 ≤ soldOrders db p
  · rw [if_pos htwo]
    exact Or.inr ⟨rfl, htwo⟩
  · have hone : soldOrders db p = 1 := by omega
    rw [if_neg htwo, if_pos hone]
    exact Or.inl ⟨rfl, hone⟩

/-- The resolver writes, unless the object has the status in memory. -/
theorem productStatus_resolve (h : productStatus s o.pk ≠ none) :
    productStatus (resolveOwnedProductStatus s o).1 o.pk
      = if o.status = resolvedStatus s.db o.pk then productStatus s o.pk
        else some (resolvedStatus s.db o.pk) := by
  unfold resolveOwnedProductStatus
  by_cases hsame : o.status = resolvedStatus s.db o.pk
  · rw [if_neg (not_not.mpr hsame), if_pos hsame]
  · rw [if_pos hsame, if_neg hsame]
    exact productStatus_set_self h _

/-- The row that is fetched is resolved. -/
theorem productStatus_resolveProduct (h : productStatus s p ≠ none) :
    productStatus (resolveProduct s p) p = some (resolvedStatus s.db p) := by
  rw [resolveProduct]
  rcases hp : productStatus s p with - | old
  · exact absurd hp h
  · have hresolve := productStatus_resolve (s := s) (o := ⟨p, old⟩) h
    rw [hresolve]
    split
    · rename_i hsame
      exact hp.trans (congrArg some hsame)
    · rfl

/-! ### Products that are not LISTED -/

/-- The orders are as before, and so is every product that is not LISTED. -/
structure SparesUnlisted (s s' : Shop) : Prop where
  orders : s'.db.orders = s.db.orders
  keys : ∀ q, (productStatus s' q).isSome = (productStatus s q).isSome
  status : ∀ q, productStatus s q ≠ some .listed → productStatus s' q = productStatus s q

theorem SparesUnlisted.refl (s : Shop) : SparesUnlisted s s :=
  ⟨rfl, fun _ => rfl, fun _ _ => rfl⟩

theorem SparesUnlisted.trans (h : SparesUnlisted s s') (h' : SparesUnlisted s' s'') :
    SparesUnlisted s s'' where
  orders := h'.orders.trans h.orders
  keys := fun q => (h'.keys q).trans (h.keys q)
  status := by
    intro q hq
    have hsame := h.status q hq
    rw [h'.status q (by rw [hsame]; exact hq), hsame]

/-- The products of a listing are read from their rows. -/
theorem productStatus_of_mem_linkedProducts (h : o ∈ linkedProducts s listing) :
    productStatus s o.pk = some o.status := by
  obtain ⟨r, -, hfetched⟩ := List.mem_filterMap.mp h
  obtain ⟨status, hstatus, rfl⟩ := Option.map_eq_some_iff.mp hfetched
  exact hstatus

theorem productStatus_unlistProducts (os : List Owned) (s : Shop)
    (h : ∀ o ∈ os, o.pk = q → o.status ≠ .listed) :
    productStatus (os.foldl (unlistProduct listing) s) q = productStatus s q := by
  induction os generalizing s with
  | nil => rfl
  | cons o os ih =>
    rw [List.foldl_cons, ih _ fun o' ho' => h o' (List.mem_cons_of_mem o ho')]
    unfold unlistProduct
    split
    · rename_i hlisted
      have hne : q ≠ o.pk := by
        rintro rfl
        exact h o List.mem_cons_self rfl hlisted.1
      exact productStatus_set_ne hne _
    · rfl

theorem keys_unlistProducts (os : List Owned) (s : Shop) (q : Nat) :
    (productStatus (os.foldl (unlistProduct listing) s) q).isSome
      = (productStatus s q).isSome := by
  induction os generalizing s with
  | nil => rfl
  | cons o os ih =>
    rw [List.foldl_cons, ih]
    unfold unlistProduct
    split
    · exact keys_set s o.pk q .draft
    · rfl

theorem productStatus_cascade :
    productStatus (cascadeDropshipProduct s listing) q = productStatus s q := by
  unfold cascadeDropshipProduct
  split <;> rfl

/-- **A listing that is saved** takes LISTED products only. -/
theorem spares_saveListing (s : Shop) (listing : Nat) (status : ListingStatus) :
    SparesUnlisted s (saveListing s listing status) where
  orders := (leavesOthers_saveListing status).orders
  keys := by
    intro q
    unfold saveListing listingDeactivated
    split
    · rfl
    · dsimp only
      rw [keys_unlistProducts, productStatus_cascade]
      rfl
  status := by
    intro q hq
    unfold saveListing listingDeactivated
    split
    · rfl
    · dsimp only
      rw [productStatus_unlistProducts, productStatus_cascade]
      · rfl
      · rintro o ho rfl hlisted
        have hrow := productStatus_of_mem_linkedProducts ho
        rw [productStatus_cascade, hlisted] at hrow
        exact hq hrow

theorem spares_closeSoldListing (s : Shop) (listing : Nat) :
    SparesUnlisted s (closeSoldListing s listing) := by
  unfold closeSoldListing
  split
  · exact spares_saveListing s listing .closed
  · exact SparesUnlisted.refl s

/-- **A dropship product that is sold** takes the LISTED products it is the origin
of. -/
theorem productStatus_markOrigin (dp : Nat) :
    productStatus (markOriginOwnedProductsSold s dp) q
      = if s.productOrigin q = some dp ∧ productStatus s q = some .listed then some .sold
        else productStatus s q := by
  show ((s.db.ownedProducts.updateWhere _ _).get? q).map _ = _
  rw [Table.get?_updateWhere, productStatus]
  rcases s.db.ownedProducts.get? q with - | row
  · simp
  · by_cases htaken : s.productOrigin q = some dp ∧ row.status = .listed
    · simp [htaken]
    · have hnot : ¬ (s.productOrigin q = some dp ∧ some row.status = some .listed) := by
        simpa using htaken
      simp only [Option.map_some, Bool.and_eq_true, beq_iff_eq, htaken, if_false, hnot]

theorem spares_sellDropship (s : Shop) (dp : Nat) : SparesUnlisted s (sellDropship s dp) where
  orders := (onlyProducts_sellDropship dp).orders
  keys := by
    intro q
    unfold sellDropship
    split
    · rfl
    split
    · rfl
    · rw [productStatus_markOrigin]
      split
      · rename_i h
        rw [show productStatus s q = some .listed from h.2]
        rfl
      · rfl
  status := by
    intro q hq
    unfold sellDropship
    split
    · rfl
    split
    · rfl
    · rw [productStatus_markOrigin, if_neg fun h => hq h.2]
      rfl

end Status

end Sda.Orders
