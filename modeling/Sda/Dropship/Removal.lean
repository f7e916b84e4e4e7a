/-
Sda/Dropship/Removal.lean

Removing the offers of dropship products (_remove_all_offers and its callers in
services/dropship/cleaner.py, services/dropship/delist.py).

Four operations remove offers: the cleaner for an item that is gone or whose price has changed,
and the two delists.  All of them look only at whether the provider call raises.  `Exact` says
what they are to do: a listing ends DELETED exactly if the marketplace confirmed that its offer
is gone, and a product stops being LISTED exactly if that holds of all its offers.

* `removal_exact` — each operation is exact exactly if every call that returns a result gets
  one that confirms;
* `removal_inexact` — a failing result, on each of the four.
-/
import Sda.Pool.Db
import Sda.Sdk.Result
import Sda.Sync.Models

namespace Sda.Dropship.Removal

open Sync (DropshipProductStatus)

/-! ### Rows and answers -/

structure Store where
  id : Nat
  provider : Provider
  name : String := ""
  hasCredential : Bool := true
  deriving DecidableEq, Repr

structure Listing where
  product : Nat
  store : Option Store
  status : ListingStatus := .listed
  /-- `int(store_listing_id)` does not raise. -/
  numeric : Bool := true
  deriving DecidableEq, Repr

structure Rows where
  products : Table DropshipProductStatus
  listings : Table Listing

/-- What a delete or cancel call comes to.  The data of a success is `isSuccess`, where the
response has it. -/
abbrev Answer := Except PyError (ApiResult (Option Bool))

/-- The marketplace says that the offer is gone. -/
def Confirms : Answer → Bool
  | .ok (.success isSuccess _) => isSuccess != some false
  | .ok (.failure e _) => e.category = .notFound
  | .error _ => false

/-- The answers to the calls of an operation: one for each listing, and one for each store whose
PlayerAuctions offers are cancelled together. -/
structure Answers where
  single : Nat → Answer
  bulk : Nat → Answer

/-- The store is there, and its credential. -/
def Listing.reachable (l : Listing) : Bool :=
  match l.store with
  | some store => store.hasCredential
  | none => false

/-! ### One call -/

/-- **`delete_listing`** of a provider, called with `game_slug` or without: what it raises before
it calls the client. -/
def refuses (provider : Provider) (gameSlug numeric : Bool) : Option PyError :=
  match provider with
  | .gameboost | .u7buy => none
  | .lzt =>
    if gameSlug then some (.other "unexpected keyword argument 'game_slug'")
    else some (.other "LZT is used as a source platform only")
  | .eldorado | .g2g =>
    if gameSlug then some (.other "unexpected keyword argument 'game_slug'") else none
  | .playerauctions =>
    if gameSlug then some (.other "unexpected keyword argument 'game_slug'")
    else if numeric then none
    else some (.valueError "invalid literal for int()")

/-- **`_delete_marketplace_offer`** and **`_delete_one_listing`**, which passes `game_slug`: what
they return.  The result of the call is not looked at. -/
def deleteOffer (gameSlug : Bool) (answer : Answer) (l : Listing) : Bool :=
  match l.store with
  | none => true
  | some store =>
    if store.hasCredential = false then true
    else
      match refuses store.provider gameSlug l.numeric, answer with
      | some _, _ | none, .error _ => false
      | none, .ok _ => true

/-- The PlayerAuctions listings of a store are cancelled together. -/
def Listing.inBulk (l : Listing) : Option Nat :=
  match l.store with
  | some store => if store.provider = .playerauctions then some store.id else none
  | none => none

/-- **`_cancel_pa_bulk`**: what it answers for each listing of the group. -/
def cancelPaBulk (answer : Answer) (group : List Listing) : Bool :=
  group.all (·.reachable) && group.all (·.numeric) &&
    match answer with
    | .ok _ => true
    | .error _ => false

/-! ### The operations -/

/-- The loop over the listings, on what is returned for each. -/
def deleteEach (ok : Nat → Listing → Bool) (rows : Table Listing) :
    List (Nat × Listing) → Table Listing
  | [] => rows
  | (i, l) :: rest =>
    deleteEach ok (if ok i l then rows.set i { l with status := .deleted } else rows) rest

/-- The listings an operation loads. -/
def loaded (rows : Rows) (touched : Nat → Bool) : List (Nat × Listing) :=
  rows.listings.select fun _ l => touched l.product && l.status = .listed

/-- The listings go one by one, and then each product whose listings are all gone. -/
def remove (ok : Nat → Listing → Bool) (rows : Rows) (touched : Nat → Bool)
    (status : DropshipProductStatus) : Rows where
  listings := deleteEach ok rows.listings (loaded rows touched)
  products := rows.products.updateWhere
    (fun p _ => touched p &&
      (loaded rows touched).all fun r => r.2.product != p || ok r.1 r.2) fun _ => status

/-- Why the cleaner removes a product. -/
inductive Reason
  | sold | closed | deleted | priceChange
  deriving DecidableEq, Repr

/-- **`_handle_item_gone`** and **`_handle_price_change`**: the new status. -/
def Reason.status : Reason → DropshipProductStatus
  | .sold | .closed => .sold
  | .deleted | .priceChange => .deleted

/-- **`_remove_all_offers`** and what follows it. -/
def handleGone (answers : Answers) (rows : Rows) (p : Nat) (reason : Reason) : Rows :=
  remove (fun i l => deleteOffer false (answers.single i) l) rows (· = p) reason.status

/-- **`delist_single`** -/
def delistSingle (answers : Answers) (rows : Rows) (p : Nat) : Rows :=
  remove (fun i l => deleteOffer true (answers.single i) l) rows (· = p) .deleted

/-- `listing_ok` of **`delist_bulk`**. -/
def listingOk (answers : Answers) (all : List (Nat × Listing)) (i : Nat) (l : Listing) : Bool :=
  match l.inBulk with
  | some store =>
    cancelPaBulk (answers.bulk store) ((all.map (·.2)).filter (·.inBulk = some store))
  | none => deleteOffer true (answers.single i) l

/-- `BULK_DELIST_LIMIT`. -/
def bulkDelistLimit : Nat := 50

/-- **`delist_bulk`** -/
def delistBulk (answers : Answers) (rows : Rows) (dps : List Nat) : Rows :=
  let touched := fun p => (dps.take bulkDelistLimit).contains p
  remove (listingOk answers (loaded rows touched)) rows touched .deleted

/-! ### The property -/

/-- The answer to the call that is made for a listing alone, if one is made. -/
def callOne (gameSlug : Bool) (answers : Answers) (i : Nat) (l : Listing) : Option Answer :=
  match l.store with
  | some store =>
    if store.hasCredential = true ∧ refuses store.provider gameSlug l.numeric = none then
      some (answers.single i)
    else none
  | none => none

/-- The answer to the call that is made for a listing in a bulk delist. -/
def callBulk (answers : Answers) (all : List (Nat × Listing)) (i : Nat) (l : Listing) :
    Option Answer :=
  match l.inBulk with
  | some store =>
    let group := (all.map (·.2)).filter (·.inBulk = some store)
    if (group.all (·.reachable) && group.all (·.numeric)) = true then some (answers.bulk store)
    else none
  | none => callOne true answers i l

/-- What an operation on these products is to do, by the calls it makes.  Stores without
credentials are excepted. -/
structure Exact (before after : Rows) (touched : Nat → Bool)
    (call : Nat → Listing → Option Answer) : Prop where
  /-- A listing ends DELETED exactly if the marketplace confirmed it, -/
  listing : ∀ i l, (i, l) ∈ loaded before touched → l.reachable = true →
    (after.listings.get? i = some { l with status := .deleted } ↔
      ∃ a, call i l = some a ∧ Confirms a = true)
  /-- and else it stays, as all others do. -/
  kept : ∀ i l, before.listings.get? i = some l → after.listings.get? i = some l ∨
    (i, l) ∈ loaded before touched ∧ after.listings.get? i = some { l with status := .deleted }
  /-- A product leaves LISTED only if that was so for all its offers, -/
  only : ∀ p, before.products.get? p = some .listed → after.products.get? p ≠ some .listed →
    touched p = true ∧ ∀ i l, (i, l) ∈ loaded before touched → l.product = p →
      l.reachable = true → ∃ a, call i l = some a ∧ Confirms a = true
  /-- and then it does. -/
  always : ∀ p, before.products.get? p = some .listed → touched p = true →
    (∀ i l, (i, l) ∈ loaded before touched → l.product = p →
      l.reachable = true ∧ ∃ a, call i l = some a ∧ Confirms a = true) →
    after.products.get? p ≠ some .listed

/-- Every call that returns a result returns one that confirms. -/
def Sound (rows : Rows) (touched : Nat → Bool) (call : Nat → Listing → Option Answer) : Prop :=
  ∀ i l, (i, l) ∈ loaded rows touched → l.reachable = true → ∀ r, call i l = some (.ok r) →
    Confirms (.ok r) = true

/-! ### What the loop leaves -/

variable {ok : Nat → Listing → Bool} {rows : Rows} {touched : Nat → Bool}
  {call : Nat → Listing → Option Answer} {status : DropshipProductStatus}

theorem mem_loaded {i : Nat} {l : Listing} : (i, l) ∈ loaded rows touched ↔
    rows.listings.get? i = some l ∧ touched l.product = true ∧ l.status = .listed := by
  unfold loaded
  rw [Table.mem_select]
  simp

/-- A listing that is not in the loop stays. -/
theorem get?_deleteEach_of_notMem {table : Table Listing} {todo : List (Nat × Listing)} {i : Nat}
    (h : i ∉ todo.map (·.1)) : (deleteEach ok table todo).get? i = table.get? i := by
  induction todo generalizing table with
  | nil => rfl
  | cons r rest ih =>
    obtain ⟨j, l⟩ := r
    rw [List.map_cons, List.mem_cons, not_or] at h
    unfold deleteEach
    rw [ih h.2]
    split
    · exact Table.get?_set_ne h.1
    · rfl

/-- A listing in the loop is DELETED exactly if its removal returned true. -/
theorem get?_deleteEach {table : Table Listing} {todo : List (Nat × Listing)} {i : Nat}
    {l : Listing} (hnodup : (todo.map (·.1)).Nodup) (hmem : (i, l) ∈ todo)
    (hrows : ∀ r ∈ todo, table.get? r.1 = some r.2) :
    (deleteEach ok table todo).get? i =
      some (if ok i l = true then { l with status := .deleted } else l) := by
  induction todo generalizing table with
  | nil => cases hmem
  | cons r rest ih =>
    obtain ⟨j, m⟩ := r
    rw [List.map_cons, List.nodup_cons] at hnodup
    have hfirst : table.get? j = some m := hrows (j, m) List.mem_cons_self
    unfold deleteEach
    rcases List.mem_cons.mp hmem with heq | hrest
    · obtain ⟨rfl, rfl⟩ := Prod.mk.inj heq
      rw [get?_deleteEach_of_notMem hnodup.1]
      split
      · exact Table.get?_set_self hfirst
      · exact hfirst
    · apply ih hnodup.2 hrest
      intro r hr
      have hold := hrows r (List.mem_cons_of_mem _ hr)
      split
      · rw [Table.get?_set_ne, hold]
        intro heq
        apply hnodup.1
        exact List.mem_map.mpr ⟨r, hr, heq⟩
      · exact hold

theorem get?_remove_listing {i : Nat} {l : Listing} (h : (i, l) ∈ loaded rows touched) :
    (remove ok rows touched status).listings.get? i =
      some (if ok i l = true then { l with status := .deleted } else l) :=
  get?_deleteEach Table.select_keys_nodup h fun _ hr => (mem_loaded.mp hr).1

/-- A listed product is marked exactly if all its listings are gone. -/
theorem get?_remove_product (hstatus : status ≠ .listed) {p : Nat}
    (h : rows.products.get? p = some .listed) :
    (remove ok rows touched status).products.get? p ≠ some .listed ↔
      touched p = true ∧ ∀ i l, (i, l) ∈ loaded rows touched → l.product = p → ok i l = true := by
  have hget : (remove ok rows touched status).products.get? p =
      some (if (touched p && (loaded rows touched).all fun r => r.2.product != p || ok r.1 r.2) =
        true then status else .listed) := by
    show (Table.updateWhere _ _ _).get? p = _
    rw [Table.get?_updateWhere, h]
    rfl
  have hall : (touched p && (loaded rows touched).all fun r => r.2.product != p || ok r.1 r.2) =
      true ↔
        touched p = true ∧ ∀ i l, (i, l) ∈ loaded rows touched → l.product = p → ok i l = true := by
    rw [Bool.and_eq_true, List.all_eq_true]
    apply and_congr_right
    intro _
    constructor
    · intro hgone i l hmem hp
      have := hgone (i, l) hmem
      simpa [hp] using this
    · rintro hgone ⟨i, l⟩ hmem
      by_cases hp : l.product = p
      · simp [hgone i l hmem hp]
      · simp [hp]
  rw [hget, ← hall]
  split
  · next hyes => exact iff_of_true (fun heq => hstatus (Option.some.inj heq)) hyes
  · next hno => exact iff_of_false (fun hne => hne rfl) hno

/-! ### Exactly when an operation is exact -/

/-- What a removal returns is whether its call did not raise. -/
def Reports (ok : Nat → Listing → Bool) (call : Nat → Listing → Option Answer) (i : Nat)
    (l : Listing) : Prop :=
  ok i l = true ↔ ∃ r, call i l = some (.ok r)

theorem confirms_ok {a : Answer} (h : Confirms a = true) : ∃ r, a = .ok r := by
  cases a with
  | ok r => exact ⟨r, rfl⟩
  | error e => cases h

/-- **The rule.**  What reports whether its calls raise is exact where results confirm. -/
theorem exact_iff_sound (hstatus : status ≠ .listed)
    (hreports : ∀ i l, (i, l) ∈ loaded rows touched → l.reachable = true → Reports ok call i l) :
    Exact rows (remove ok rows touched status) touched call ↔ Sound rows touched call := by
  constructor
  · intro h i l hmem hreach r hcall
    have hgone : ok i l = true := (hreports i l hmem hreach).mpr ⟨r, hcall⟩
    have hget : (remove ok rows touched status).listings.get? i =
        some { l with status := .deleted } := by
      rw [get?_remove_listing hmem, if_pos hgone]
    obtain ⟨a, ha, hconfirms⟩ := (h.listing i l hmem hreach).mp hget
    rw [hcall] at ha
    cases ha
    exact hconfirms
  · intro h
    -- on reachable listings, returning true and being confirmed are the same
    have hsame : ∀ i l, (i, l) ∈ loaded rows touched → l.reachable = true →
        (ok i l = true ↔ ∃ a, call i l = some a ∧ Confirms a = true) := by
      intro i l hmem hreach
      refine (hreports i l hmem hreach).trans ⟨?_, ?_⟩
      · rintro ⟨r, hcall⟩
        exact ⟨_, hcall, h i l hmem hreach r hcall⟩
      · rintro ⟨a, hcall, hconfirms⟩
        obtain ⟨r, rfl⟩ := confirms_ok hconfirms
        exact ⟨r, hcall⟩
    refine ⟨fun i l hmem hreach => ?_, fun i l hget => ?_, fun p hp hleft => ?_,
      fun p hp htouched hall => ?_⟩
    · rw [get?_remove_listing hmem, ← hsame i l hmem hreach]
      have hlisted := (mem_loaded.mp hmem).2.2
      split
      · next hyes => exact iff_of_true rfl hyes
      · next hno =>
        apply iff_of_false _ hno
        intro heq
        rw [Option.some.inj heq] at hlisted
        cases hlisted
    · by_cases hmem : (i, l) ∈ loaded rows touched
      · rw [get?_remove_listing hmem]
        split
        · exact Or.inr ⟨hmem, rfl⟩
        · exact Or.inl rfl
      · refine Or.inl ((get?_deleteEach_of_notMem ?_).trans hget)
        intro hkey
        obtain ⟨⟨j, m⟩, hr, rfl⟩ := List.mem_map.mp hkey
        have hm := (mem_loaded.mp hr).1
        rw [hget] at hm
        cases hm
        exact hmem hr
    · obtain ⟨htouched, hgone⟩ := (get?_remove_product hstatus hp).mp hleft
      exact ⟨htouched, fun i l hmem hproduct hreach =>
        (hsame i l hmem hreach).mp (hgone i l hmem hproduct)⟩
    · refine (get?_remove_product hstatus hp).mpr ⟨htouched, fun i l hmem hproduct => ?_⟩
      obtain ⟨hreach, hconfirmed⟩ := hall i l hmem hproduct
      exact (hsame i l hmem hreach).mpr hconfirmed

/-- A listing that is removed alone. -/
theorem reports_one (gameSlug : Bool) (answers : Answers) {i : Nat} {l : Listing}
    (hreach : l.reachable = true) :
    Reports (fun i l => deleteOffer gameSlug (answers.single i) l) (callOne gameSlug answers) i
      l := by
  unfold Reports
  unfold Listing.reachable at hreach
  cases hstore : l.store with
  | none =>
    rw [hstore] at hreach
    cases hreach
  | some store =>
    rw [hstore] at hreach
    have hcredential : store.hasCredential = true := hreach
    simp only [deleteOffer, callOne, hstore, hcredential]
    cases refuses store.provider gameSlug l.numeric with
    | some e => simp
    | none =>
      cases answers.single i with
      | ok r => simp
      | error e => simp

/-- A listing of a bulk delist. -/
theorem reports_bulk (answers : Answers) (all : List (Nat × Listing)) {i : Nat} {l : Listing}
    (hreach : l.reachable = true) : Reports (listingOk answers all) (callBulk answers all) i l := by
  cases hbulk : l.inBulk with
  | none =>
    have hone := reports_one true answers (i := i) hreach
    unfold Reports at hone ⊢
    simpa only [listingOk, callBulk, hbulk] using hone
  | some store =>
    unfold Reports
    simp only [listingOk, callBulk, cancelPaBulk, hbulk]
    generalize ((all.map (·.2)).filter (·.inBulk = some store)) = group
    by_cases hready : (group.all (·.reachable) && group.all (·.numeric)) = true
    · rw [if_pos hready, hready, Bool.true_and]
      cases answers.bulk store with
      | ok r => simp
      | error e => simp
    · rw [if_neg hready, Bool.not_eq_true] at *
      rw [hready]
      simp

/-! ### The main result -/

theorem deleted_ne_listed : DropshipProductStatus.deleted ≠ .listed := nofun

theorem Reason.status_ne_listed (reason : Reason) : reason.status ≠ .listed := by
  cases reason <;> nofun

/-- Each removal is exact on the rows exactly if every call that returns a result gets one that
says that the offer is gone. -/
theorem removal_exact (answers : Answers) (rows : Rows) :
    (∀ p reason, Exact rows (handleGone answers rows p reason) (· = p) (callOne false answers) ↔
      Sound rows (· = p) (callOne false answers)) ∧
    (∀ p, Exact rows (delistSingle answers rows p) (· = p) (callOne true answers) ↔
      Sound rows (· = p) (callOne true answers)) ∧
    ∀ dps : List Nat,
      let touched := fun p => (dps.take bulkDelistLimit).contains p
      Exact rows (delistBulk answers rows dps) touched (callBulk answers (loaded rows touched)) ↔
        Sound rows touched (callBulk answers (loaded rows touched)) := by
  refine ⟨fun p reason => ?_, fun p => ?_, fun dps => ?_⟩
  · apply exact_iff_sound reason.status_ne_listed
    intro i l _ hreach
    exact reports_one false answers hreach
  · apply exact_iff_sound deleted_ne_listed
    intro i l _ hreach
    exact reports_one true answers hreach
  · apply exact_iff_sound deleted_ne_listed
    intro i l _ hreach
    exact reports_bulk answers _ hreach

/-! ### A failing result -/

/-- One product with one listing, on a store of this provider. -/
def onSale (provider : Provider) : Rows where
  products := ⟨[(1, .listed)], by decide⟩
  listings := ⟨[(7, { product := 1, store := some { id := 3, provider := provider } })],
    List.nodup_singleton 7⟩

/-- Every call returns a result that failed with a server error. -/
def failing : Answers where
  single _ := .ok (.failure { category := .serverError, message := "HTTP 500" } (some 500))
  bulk _ := .ok (.failure { category := .serverError, message := "HTTP 500" } (some 500))

/-- The offer is still on sale, and the product is SOLD or DELETED. -/
theorem removal_inexact :
    (¬Exact (onSale .eldorado) (handleGone failing (onSale .eldorado) 1 .sold) (· = 1)
      (callOne false failing)) ∧
    (¬Exact (onSale .eldorado) (handleGone failing (onSale .eldorado) 1 .priceChange) (· = 1)
      (callOne false failing)) ∧
    (¬Exact (onSale .gameboost) (delistSingle failing (onSale .gameboost) 1) (· = 1)
      (callOne true failing)) ∧
    ¬Exact (onSale .playerauctions) (delistBulk failing (onSale .playerauctions) [1]) (· = 1)
      (callBulk failing (loaded (onSale .playerauctions) (· = 1))) := by
  refine ⟨fun h => ?_, fun h => ?_, fun h => ?_, fun h => ?_⟩
  all_goals
    have hleft := h.only 1 rfl (by decide)
    obtain ⟨a, ha, hconfirms⟩ := hleft.2 7 _ List.mem_cons_self rfl rfl
    cases ha
    cases hconfirms

end Sda.Dropship.Removal
