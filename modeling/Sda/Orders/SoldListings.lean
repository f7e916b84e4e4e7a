/-
Sda/Orders/SoldListings.lean

What the save of a sold order does to listings with several credentials.

Two rules close listings there (`_handle_order_sold`, orders/signals.py): the
listing that was sold through is closed, however many credentials it has, and
`_unlink_same_account_listings` takes the sold credential from the listings of
its store and closes those it leaves empty.  A listing that closes takes its
append PoolOffer with it (`listing_deactivated`).

* `multi_listing_stays_open` — the listings that keep a credential stay open,
  with their PoolOffers, exactly when no order is saved through a LISTED one;
* `multi_listing_closes` — a sale through a listing of two credentials.
-/
import Sda.Lib.Run
import Sda.Orders.Signals
import Sda.Pool.Sales

namespace Sda.Orders

/-! ### The property and its condition -/

/-- An order that is saved as sold: under its key, or as a new order. -/
structure SoldOrder where
  pk : Option Nat := none
  inst : OrderInstance
  sold : isSoldStatus inst.status = true

/-- The product of the order. -/
def SoldOrder.product (o : SoldOrder) : Option Nat :=
  o.inst.owned.map Owned.pk

inductive ShopEvent
  | sold (o : SoldOrder)
  /-- Any other write: notifications, replenishments, new links, … -/
  | other (write : Shop → Shop)

def shopStep (s : Shop) : ShopEvent → Shop
  | .sold o => saveOrder s o.pk o.inst
  | .other write => write s

/-- The listing has several credentials, and one of them is not the sold one. -/
def otherCredential (db : Db) (listing : Nat) (p : Option Nat) : Bool :=
  2 ≤ linkCount db listing &&
    db.listingOwnedProducts.any fun _ l => l.listing == listing && some l.ownedProduct != p

def listingOpen (db : Db) (listing : Nat) : Bool :=
  (db.listings.get? listing).any fun row => isListed row.status

/-- The listing is as it was, and so are its PoolOffers: what could be
replenished can be replenished. -/
structure StaysOpen (s s' : Shop) (listing : Nat) : Prop where
  row : s'.db.listings.get? listing = s.db.listings.get? listing
  offers : ∀ k o, s.db.offers.get? k = some o → o.listing = listing →
    s'.db.offers.get? k = some o ∧ canReplenish s'.db o = canReplenish s.db o

/-- **Listings that keep a credential stay open.** -/
def KeepsMultiListings (s : Shop) : ShopEvent → Prop
  | .sold o => ∀ listing, otherCredential s.db listing o.product = true →
      StaysOpen s (saveOrder s o.pk o.inst) listing
  | .other _ => True

/-- The condition of a step, on the state before it: the listing of the order is
not LISTED, or it has no other credential. -/
def SoldThroughLast (s : Shop) : ShopEvent → Prop
  | .sold o => (o.inst.listing.all fun listing =>
      !listingOpen s.db listing || !otherCredential s.db listing o.product) = true
  | .other _ => True

instance (s : Shop) : ∀ e, Decidable (SoldThroughLast s e)
  | .sold _ => inferInstanceAs (Decidable (_ = true))
  | .other _ => inferInstanceAs (Decidable True)

/-! ### Listings that are left alone -/

section Keeps

variable {s s' s'' : Shop} {listing other p : Nat}

/-- The rows of a listing and its PoolOffers, and the pools. -/
structure KeepsListing (listing : Nat) (s s' : Shop) : Prop where
  row : s'.db.listings.get? listing = s.db.listings.get? listing
  offers : ∀ k o, s.db.offers.get? k = some o → o.listing = listing →
    s'.db.offers.get? k = some o
  pools : s'.db.pools = s.db.pools

theorem KeepsListing.refl (s : Shop) : KeepsListing listing s s :=
  ⟨rfl, fun _ _ hk _ => hk, rfl⟩

theorem KeepsListing.trans (h : KeepsListing listing s s') (h' : KeepsListing listing s' s'') :
    KeepsListing listing s s'' where
  row := h'.row.trans h.row
  offers := fun k o hk hl => h'.offers k o (h.offers k o hk hl) hl
  pools := h'.pools.trans h.pools

theorem KeepsListing.staysOpen (h : KeepsListing listing s s') : StaysOpen s s' listing where
  row := h.row
  offers := by
    intro k o hk hl
    refine ⟨h.offers k o hk hl, ?_⟩
    rw [canReplenish, h.pools]
    rfl

theorem keepsListing_of_onlyProducts (h : OnlyProducts s s') : KeepsListing listing s s' where
  row := by rw [h.listings]
  offers := fun k o hk _ => by rw [h.offers]; exact hk
  pools := h.pools

theorem keepsListing_of_leavesOthers (h : LeavesOthers other s s') (hne : other ≠ listing) :
    KeepsListing listing s s' where
  row := h.listings listing hne.symm
  offers := fun k o hk hl => h.offers k o hk (by rw [hl]; exact hne.symm)
  pools := h.pools

theorem keepsListing_deleteLink (link p : Nat) (memory : Option OwnedProductStatus) :
    KeepsListing listing s (deleteLink s link p memory) := by
  have hdropped : KeepsListing listing s (dropLink s link) := ⟨rfl, fun _ _ hk _ => hk, rfl⟩
  exact hdropped.trans (keepsListing_of_onlyProducts (deleteLink_leaves s link p memory))

theorem links_deleteLink (link p : Nat) (memory : Option OwnedProductStatus) :
    (deleteLink s link p memory).db.listingOwnedProducts
      = s.db.listingOwnedProducts.deleteWhere fun k _ => k == link :=
  (deleteLink_leaves s link p memory).links

theorem links_unlinkSold (r : Nat × ListingOwnedProduct) :
    (unlinkSold s r).db.listingOwnedProducts
      = s.db.listingOwnedProducts.deleteWhere fun k _ => k == r.1 := by
  unfold unlinkSold
  dsimp only
  split
  · rw [(leavesOthers_saveListing _).links, links_deleteLink]
  · exact links_deleteLink ..

/-- **The unlink rule** spares a listing with the credential of another product. -/
theorem keepsListing_unlinkSold (rs : List (Nat × ListingOwnedProduct)) {j : Nat}
    {l : ListingOwnedProduct} (s : Shop)
    (hrows : ∀ r ∈ rs, s.db.listingOwnedProducts.get? r.1 = some r.2 ∧ r.2.ownedProduct = p)
    (hnodup : (rs.map Prod.fst).Nodup) (hj : s.db.listingOwnedProducts.get? j = some l)
    (hlisting : l.listing = listing) (hp : l.ownedProduct ≠ p) :
    KeepsListing listing s (rs.foldl unlinkSold s) := by
  induction rs generalizing s with
  | nil => exact KeepsListing.refl s
  | cons r rs ih =>
    obtain ⟨hr, hrp⟩ := hrows r List.mem_cons_self
    have hne : r.1 ≠ j := by
      rintro rfl
      rw [hj] at hr
      cases hr
      exact hp hrp
    have hkeys := List.nodup_cons.mp hnodup
    -- the other links are still there
    have hget : ∀ {i m}, i ≠ r.1 → s.db.listingOwnedProducts.get? i = some m →
        (unlinkSold s r).db.listingOwnedProducts.get? i = some m := by
      intro i m hi hm
      rw [links_unlinkSold, Table.get?_deleteWhere]
      exact ⟨hm, beq_eq_false_iff_ne.mpr hi⟩
    have hkept : KeepsListing listing s (unlinkSold s r) := by
      unfold unlinkSold
      dsimp only
      split
      · rename_i hlast
        refine (keepsListing_deleteLink r.1 r.2.ownedProduct none).trans ?_
        apply keepsListing_of_leavesOthers (leavesOthers_saveListing _)
        -- a listing with the link of the sold product and another one has two
        intro hsame
        have htwo : 2 ≤ linkCount s.db r.2.listing :=
          Table.two_le_count hr hj (by simp) (by simp [hlisting, hsame]) hne
        omega
      · exact keepsListing_deleteLink r.1 r.2.ownedProduct none
    refine hkept.trans (ih (unlinkSold s r) ?_ hkeys.2 (hget hne.symm hj))
    intro r' hr'
    obtain ⟨hget', hp'⟩ := hrows r' (List.mem_cons_of_mem _ hr')
    refine ⟨hget ?_ hget', hp'⟩
    intro hsame
    exact hkeys.1 (hsame ▸ List.mem_map_of_mem hr')

/-! ### The two rules -/

theorem keepsListing_closeSoldListing (hopen : other = listing → listingOpen s.db other = false) :
    KeepsListing listing s (closeSoldListing s other) := by
  unfold closeSoldListing
  split
  · rename_i hlisted
    apply keepsListing_of_leavesOthers (leavesOthers_saveListing _)
    intro hsame
    have hclosed := hopen hsame
    rw [listingOpen, hlisted] at hclosed
    cases hclosed
  · exact KeepsListing.refl s

theorem keepsListing_unlink (account : Option Nat) {j : Nat} {l : ListingOwnedProduct}
    (hj : s.db.listingOwnedProducts.get? j = some l) (hlisting : l.listing = listing)
    (hp : l.ownedProduct ≠ p) :
    KeepsListing listing s (unlinkSameAccountListings s account p) := by
  refine keepsListing_unlinkSold (sameAccountLinks s.db account p) s ?_
    Table.select_keys_nodup hj hlisting hp
  rintro ⟨k, m⟩ hr
  obtain ⟨hget, hsel⟩ := Table.mem_select.mp hr
  rw [Bool.and_eq_true, beq_iff_eq] at hsel
  exact ⟨hget, hsel.1⟩

/-- A CLOSED listing stays CLOSED under the unlink rule. -/
theorem closed_unlinkSold (rs : List (Nat × ListingOwnedProduct)) (s : Shop)
    (h : (s.db.listings.get? listing).any (fun row => row.status == .closed) = true) :
    ((rs.foldl unlinkSold s).db.listings.get? listing).any (fun row => row.status == .closed)
      = true := by
  induction rs generalizing s with
  | nil => exact h
  | cons r rs ih =>
    refine ih (unlinkSold s r) ?_
    have hdeleted : (deleteLink s r.1 r.2.ownedProduct none).db.listings = s.db.listings :=
      (deleteLink_leaves s r.1 r.2.ownedProduct none).listings
    unfold unlinkSold
    dsimp only
    split
    · rw [listings_saveListing, hdeleted, Table.get?_updateWhere]
      rcases hrow : s.db.listings.get? listing with - | row
      · rw [hrow] at h
        cases h
      · rw [hrow] at h
        by_cases hsame : listing = r.2.listing
        · simp [hsame]
        · simpa [hsame] using h
    · rw [hdeleted]
      exact h

theorem closed_closeSoldListing (h : listingOpen s.db listing = true) :
    ((closeSoldListing s listing).db.listings.get? listing).any (fun row => row.status == .closed)
      = true := by
  unfold listingOpen at h
  rw [closeSoldListing, if_pos h, listings_saveListing, Table.get?_updateWhere]
  rcases hrow : s.db.listings.get? listing with - | row
  · rw [hrow] at h
    cases h
  · simp

/-- A LISTED listing is not CLOSED. -/
theorem not_closed_of_open (h : listingOpen s.db listing = true) :
    (s.db.listings.get? listing).any (fun row => row.status == .closed) ≠ true := by
  intro hclosed
  rw [listingOpen] at h
  rcases hget : s.db.listings.get? listing with - | row
  · rw [hget] at h
    cases h
  · rw [hget, Option.any_some] at h hclosed
    rw [beq_iff_eq] at hclosed
    rw [hclosed] at h
    cases h

section CloseAndUnlink

variable {inst : OrderInstance} {created : Bool}

/-- The listing an order was sold through is closed, if it is LISTED. -/
theorem closed_closeAndUnlink (hlisting : inst.listing = some listing)
    (hopen : listingOpen s.db listing = true) :
    ((closeAndUnlink s inst created).db.listings.get? listing).any
      (fun row => row.status == .closed) = true := by
  have hfirst := closed_closeSoldListing hopen
  unfold closeAndUnlink
  dsimp only
  rw [hlisting]
  split
  · exact closed_unlinkSold _ _ hfirst
  · exact hfirst

theorem links_closeSoldListing (s : Shop) (through : Option Nat) :
    (through.elim s (closeSoldListing s)).db.listingOwnedProducts = s.db.listingOwnedProducts := by
  rcases through with - | through
  · rfl
  show (closeSoldListing s through).db.listingOwnedProducts = _
  unfold closeSoldListing
  split
  · exact (leavesOthers_saveListing _).links
  · rfl

/-- A listing with a credential of another product is left alone, unless the order was sold
through it while it is LISTED. -/
theorem keepsListing_closeAndUnlink {j : Nat} {l : ListingOwnedProduct}
    (hthrough : inst.listing = some listing → listingOpen s.db listing = false)
    (hj : s.db.listingOwnedProducts.get? j = some l) (hlisting : l.listing = listing)
    (hp : some l.ownedProduct ≠ inst.owned.map Owned.pk) :
    KeepsListing listing s (closeAndUnlink s inst created) := by
  have hclose : KeepsListing listing s (inst.listing.elim s (closeSoldListing s)) := by
    rcases hsold : inst.listing with - | through
    · exact KeepsListing.refl s
    · apply keepsListing_closeSoldListing
      rintro rfl
      exact hthrough hsold
  unfold closeAndUnlink
  dsimp only
  split
  · rename_i o ho
    have hlink : (inst.listing.elim s (closeSoldListing s)).db.listingOwnedProducts.get? j
        = some l := by
      rw [links_closeSoldListing]
      exact hj
    refine hclose.trans (keepsListing_unlink _ hlink hlisting fun heq => hp ?_)
    rw [heq, ho]
    rfl
  · exact hclose

end CloseAndUnlink

/-! ### One save -/

/-- **The save of a sold order is exact.** -/
theorem keepsMultiListings_iff (s : Shop) (e : ShopEvent) :
    KeepsMultiListings s e ↔ SoldThroughLast s e := by
  cases e with
  | other write => exact Iff.rfl
  | sold o =>
    obtain ⟨s₁, inst, honly, hsame, hsaved⟩ := saveOrder_sold s o.pk o.inst o.sold
    obtain ⟨owned, rfl, hpk⟩ := hsame
    have hopen : ∀ listing, listingOpen s₁.db listing = listingOpen s.db listing := by
      intro listing
      rw [listingOpen, show s₁.db.listings = s.db.listings from honly.listings]
      rfl
    have hlinks : s₁.db.listingOwnedProducts = s.db.listingOwnedProducts := honly.links
    show (∀ listing, _ → StaysOpen s (saveOrder s o.pk o.inst) listing) ↔ _
    rw [hsaved]
    constructor
    · intro hkeeps
      show (o.inst.listing.all _) = true
      rcases hlisting : o.inst.listing with - | listing
      · rfl
      rw [Option.all_some, Bool.or_eq_true, Bool.not_eq_true', Bool.not_eq_true']
      rcases hlisted : listingOpen s.db listing with - | -
      · exact Or.inl rfl
      rcases hother : otherCredential s.db listing o.product with - | -
      · exact Or.inr rfl
      -- the listing is LISTED with another credential, and it is closed
      exfalso
      have hclosed := @closed_closeAndUnlink s₁ listing { o.inst with owned } o.pk.isNone
        hlisting ((hopen listing).trans hlisted)
      rw [(hkeeps listing hother).row] at hclosed
      exact not_closed_of_open hlisted hclosed
    · intro hlast listing hother
      have hlast : (o.inst.listing.all fun listing =>
        !listingOpen s.db listing || !otherCredential s.db listing o.product) = true := hlast
      have hwritten : KeepsListing listing s (writeOrder s o.pk o.inst) :=
        ⟨rfl, fun _ _ hk _ => hk, rfl⟩
      obtain ⟨j, l, hj, hl⟩ := Table.any_iff.mp ((Bool.and_eq_true _ _).mp hother).2
      rw [Bool.and_eq_true, beq_iff_eq, bne_iff_ne] at hl
      refine ((hwritten.trans (keepsListing_of_onlyProducts honly)).trans ?_).staysOpen
      refine keepsListing_closeAndUnlink (fun hthrough => ?_) (by rw [hlinks]; exact hj) hl.1 ?_
      · have hthrough : o.inst.listing = some listing := hthrough
        rw [hthrough, Option.all_some, hother, Bool.not_true, Bool.or_false,
          Bool.not_eq_true'] at hlast
        exact (hopen listing).trans hlast
      · show some l.ownedProduct ≠ owned.map Owned.pk
        rw [hpk]
        exact hl.2

end Keeps

/-! ### Runs -/

/-- **Listings with several credentials.**  In every sequence of sold orders and
other writes, every sale leaves the listings that keep a credential open, with
their PoolOffers, exactly when each order is saved through a listing that is not
LISTED or has no other credential. -/
theorem multi_listing_stays_open (s : Shop) (es : List ShopEvent) :
    Along shopStep KeepsMultiListings s es ↔ Along shopStep SoldThroughLast s es :=
  along_iff_along (I := fun _ => True) (fun _ _ _ _ => trivial)
    (fun s e _ => keepsMultiListings_iff s e) trivial es

/-! ### A listing with two credentials -/

/-- The append offer of listing 1, with the products 7 and 8. -/
def pairListingShop : Shop where
  db := { appendLaneDb with
    ownedProducts := ⟨[(7, { status := .listed }), (8, { status := .listed })], by decide⟩
    listingOwnedProducts := ⟨[(1, ⟨1, 7⟩), (2, ⟨1, 8⟩)], by decide⟩ }

/-- A completed order of product 7, sold through listing 1. -/
def pairListingOrder : SoldOrder where
  inst := { status := .completed, owned := some ⟨7, .listed⟩, integrationAccount := some 1
            listing := some 1 }
  sold := rfl

/-- **The sale closes the listing** and disables its PoolOffer, with product 8
still on it. -/
theorem multi_listing_closes :
    ¬ Along shopStep KeepsMultiListings pairListingShop [.sold pairListingOrder] ∧
      ((shopStep pairListingShop (.sold pairListingOrder)).db.offers.get? 1).map
        (fun o => o.status) = some .error := by
  constructor
  · rintro ⟨hkeeps, -⟩
    exact absurd (hkeeps 1 (by decide)).row (by decide)
  · decide

end Sda.Orders
