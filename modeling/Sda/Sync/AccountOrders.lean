/-
Sda/Sync/AccountOrders.lean

Which account a GameBoost order is linked to (sync/services/gameboost/orders).

`prepare_item` fetches the credential entries of the offer.  It stores the entry
of the order, or all entries when none is the order's.
`_match_or_create_owned_product` then takes the first entry with a login, else
the inline credentials, else the delivery instructions, and links the order to
the product with that login.

The parser of credential texts is a parameter, of which only the login is used;
so is the category of a game.

* `account_attribution` — the order is linked to an account of its own exactly
  when the entries of other orders are not fallen back on;
* `account_attribution_fails` — two orders of an offer whose entries are not
  sold yet.
-/
import Sda.Sync.Orders

namespace Sda.Sync

/-! ### Orders and products -/

/-- An account order, as the API returns it. -/
structure AccountOrder where
  id : String
  isManualDelivery : Bool := false
  credentials : String := ""
  accountOfferId : String := ""
  deliveryInstructions : String := ""
  gameId : String := ""
  deriving DecidableEq, Repr

/-- The part of the payload that the enrichment sees. -/
def AccountOrder.payload (o : AccountOrder) : GameboostOrder where
  id := o.id
  isManualDelivery := o.isManualDelivery
  credentials := o.credentials
  accountOfferId := o.accountOfferId

/-- The identity of an `OwnedProduct`. -/
structure OwnedAccount where
  category : Nat
  login : String
  deriving DecidableEq, Repr

/-- `get_or_create_owned_product`: the product and the table after it. -/
def getOrCreateOwnedProduct (products : Table OwnedAccount) (category : Nat) (login : String) :
    Nat × Table OwnedAccount :=
  let account : OwnedAccount := { category, login := stripText login }
  match (products.select fun _ row => row == account).head? with
  | some (k, _) => (k, products)
  | none => (products.nextKey, products.create account)

/-! ### The login of an order -/

section Logins

-- the `login` of `parse_credentials_text`, and the category of a game
variable (parse : String → String) (categoryOf : String → Option Nat)

/-- The login of a text; an empty one is not parsed. -/
def textLogin (text : String) : String :=
  if text = "" then "" else parse text

/-- `parse_credentials_from_entries`: the entries without a login are left out. -/
def entryLogins (entries : List CredentialEntry) : List String :=
  (entries.map fun d => textLogin parse d.text).filter (· ≠ "")

/-- The login of a stored payload: entries, inline credentials, delivery
instructions. -/
def payloadLogin (p : GameboostOrder) (deliveryInstructions : String) : String :=
  let fromEntries := ((entryLogins parse (p.credentialEntries.getD [])).head?).getD ""
  if fromEntries ≠ "" then fromEntries
  else if textLogin parse p.credentials ≠ "" then textLogin parse p.credentials
  else textLogin parse deliveryInstructions

/-- The category of the order's game. -/
def orderCategory (o : AccountOrder) : Option Nat :=
  if o.gameId = "" then none else categoryOf o.gameId

/-- **`_match_or_create_owned_product`**. -/
def matchOrCreateOwnedProduct (p : GameboostOrder) (o : AccountOrder)
    (products : Table OwnedAccount) : Option Nat × Table OwnedAccount :=
  let login := payloadLogin parse p o.deliveryInstructions
  if login = "" then (none, products)
  else
    match orderCategory categoryOf o with
    | none => (none, products)
    | some category =>
      let (k, products) := getOrCreateOwnedProduct products category login
      (some k, products)

variable (listOfferCredentials : String → CredentialsAnswer)

/-- The stored payload of an order. -/
def preparedPayload (o : AccountOrder) : GameboostOrder :=
  match gameboostPrepareItem listOfferCredentials o.payload with
  | .item p => p
  | _ => o.payload

/-- The product that syncing an order links it to: `prepare_item`, then
`parse_and_apply`. -/
def linkAccountOrder (o : AccountOrder) (products : Table OwnedAccount) :
    Option Nat × Table OwnedAccount :=
  matchOrCreateOwnedProduct parse categoryOf (preparedPayload listOfferCredentials o) o products

/-! ### The property and its condition -/

/-- The texts that belong to the order: the entries under its id, and what its
own payload carries. -/
inductive OwnText (o : AccountOrder) : String → Prop
  | entry {data : List CredentialEntry} {d : CredentialEntry}
      (hanswer : listOfferCredentials o.accountOfferId = .entries data) (hmem : d ∈ data)
      (hid : o.id ≠ "") (hown : d.accountOrderId = o.id) : OwnText o d.text
  | inline : OwnText o o.credentials
  | delivery : OwnText o o.deliveryInstructions

/-- A text of the order has the login. -/
def OwnLogin (o : AccountOrder) (login : String) : Prop :=
  ∃ text, OwnText listOfferCredentials o text ∧ textLogin parse text ≠ "" ∧
    login = stripText (textLogin parse text)

/-- The linked product, if any, is the account of a text of the order. -/
def LinksOwn (o : AccountOrder) (linked : Option Nat × Table OwnedAccount) : Prop :=
  ∀ k, linked.1 = some k →
    ∃ row, linked.2.get? k = some row ∧ OwnLogin parse listOfferCredentials o row.login

/-- The entries are fetched. -/
def enriches (o : AccountOrder) : Bool :=
  !o.isManualDelivery && o.credentials == "" && o.accountOfferId != ""

def isOwnEntry (o : AccountOrder) (d : CredentialEntry) : Bool :=
  o.id != "" && d.accountOrderId == o.id

/-- The login fallen back on: that of the first entry, when none is the order's. -/
def fallbackLogin (o : AccountOrder) : Option String :=
  if enriches o then
    match listOfferCredentials o.accountOfferId with
    | .entries data => if data.any (isOwnEntry o) then none else (entryLogins parse data).head?
    | _ => none
  else none

/-- A fallback links nothing, or names the account of the delivery instructions. -/
def FallbackFits (o : AccountOrder) : Prop :=
  ∀ login ∈ fallbackLogin parse listOfferCredentials o, orderCategory categoryOf o = none ∨
    textLogin parse o.deliveryInstructions ≠ "" ∧
      stripText (textLogin parse o.deliveryInstructions) = stripText login

end Logins

/-! ### Products -/

section Products

variable {parse : String → String} {categoryOf : String → Option Nat}
variable {listOfferCredentials : String → CredentialsAnswer}
variable {o : AccountOrder} {p : GameboostOrder} {products : Table OwnedAccount}

/-- The product that is matched or created has the category and the login. -/
theorem get?_getOrCreateOwnedProduct (products : Table OwnedAccount) (category : Nat)
    (login : String) :
    (getOrCreateOwnedProduct products category login).2.get?
        (getOrCreateOwnedProduct products category login).1
      = some { category, login := stripText login } := by
  rw [getOrCreateOwnedProduct]
  rcases h : (products.select fun _ row =>
    row == ({ category, login := stripText login } : OwnedAccount)).head? with - | ⟨k, row⟩
  · exact (Table.get?_create).trans (if_pos rfl)
  · obtain ⟨hrow, heq⟩ := Table.mem_select.mp (List.mem_of_mem_head? h)
    show products.get? k = _
    rw [hrow, eq_of_beq heq]

/-- **What an order is linked to**: the login of its payload must be an own one,
as soon as there is a login and a category. -/
theorem linksOwn_iff : LinksOwn parse listOfferCredentials o
      (matchOrCreateOwnedProduct parse categoryOf p o products) ↔
    (payloadLogin parse p o.deliveryInstructions ≠ "" → orderCategory categoryOf o ≠ none →
      OwnLogin parse listOfferCredentials o
        (stripText (payloadLogin parse p o.deliveryInstructions))) := by
  rw [matchOrCreateOwnedProduct]
  by_cases hlogin : payloadLogin parse p o.deliveryInstructions = ""
  · rw [if_pos hlogin]
    exact iff_of_true (fun _ h => by cases h) (fun h => absurd hlogin h)
  rw [if_neg hlogin]
  rcases hcategory : orderCategory categoryOf o with - | category
  · exact iff_of_true (fun _ h => by cases h) (fun _ h => absurd rfl h)
  have hrow := get?_getOrCreateOwnedProduct products category
    (payloadLogin parse p o.deliveryInstructions)
  constructor
  · rintro h - -
    obtain ⟨row, hget, hown⟩ := h _ rfl
    cases hrow.symm.trans hget
    exact hown
  · rintro h k ⟨⟩
    exact ⟨_, hrow, h hlogin (Option.some_ne_none category)⟩

/-! ### Payloads -/

theorem entryLogins_head?_ne {entries : List CredentialEntry} {login : String}
    (h : (entryLogins parse entries).head? = some login) :
    login ≠ "" ∧ ∃ d ∈ entries, textLogin parse d.text = login := by
  obtain ⟨hmem, hne⟩ := List.mem_filter.mp (List.mem_of_mem_head? h)
  obtain ⟨d, hd, hlogin⟩ := List.mem_map.mp hmem
  exact ⟨of_decide_eq_true hne, d, hd, hlogin⟩

/-- Without a login in the entries, the login is one the order carries. -/
theorem ownLogin_of_no_entry
    (h : (entryLogins parse (p.credentialEntries.getD [])).head? = none)
    (hinline : p.credentials = o.credentials)
    (hne : payloadLogin parse p o.deliveryInstructions ≠ "") :
    OwnLogin parse listOfferCredentials o
      (stripText (payloadLogin parse p o.deliveryInstructions)) := by
  have hlogin : payloadLogin parse p o.deliveryInstructions
      = if textLogin parse o.credentials ≠ "" then textLogin parse o.credentials
        else textLogin parse o.deliveryInstructions := by
    rw [payloadLogin, h, hinline]
    rfl
  rw [hlogin] at hne ⊢
  split at hne
  · rename_i hcredentials
    rw [if_pos hcredentials]
    exact ⟨o.credentials, .inline, hne, rfl⟩
  · rename_i hcredentials
    rw [if_neg hcredentials]
    exact ⟨o.deliveryInstructions, .delivery, hne, rfl⟩

/-- With a login in the entries, that of the first one is taken. -/
theorem payloadLogin_of_entry {login : String}
    (h : (entryLogins parse (p.credentialEntries.getD [])).head? = some login)
    (deliveryInstructions : String) : payloadLogin parse p deliveryInstructions = login := by
  rw [payloadLogin, h]
  exact if_pos (entryLogins_head?_ne h).1

/-- What the enrichment stores. -/
inductive Stored (listOfferCredentials : String → CredentialsAnswer) (o : AccountOrder) :
    Option (List CredentialEntry) → Prop
  /-- Nothing was fetched. -/
  | nothing (hnone : ∀ data, enriches o = true →
      listOfferCredentials o.accountOfferId = .entries data → data = []) : Stored _ o none
  /-- The entry of the order. -/
  | own {data : List CredentialEntry} {d : CredentialEntry}
      (hanswer : listOfferCredentials o.accountOfferId = .entries data) (hmem : d ∈ data)
      (hown : isOwnEntry o d = true) : Stored _ o (some [d])
  /-- All entries: none is the order's. -/
  | all {data : List CredentialEntry} (henriches : enriches o = true)
      (hanswer : listOfferCredentials o.accountOfferId = .entries data)
      (hnone : data.any (isOwnEntry o) = false) : Stored _ o (some data)

theorem enriches_eq_true_iff : enriches o = true ↔ ¬ (o.payload.isManualDelivery = true ∨
    o.payload.credentials ≠ "" ∨ o.payload.accountOfferId = "") := by
  simp [enriches, AccountOrder.payload, and_assoc]

theorem gameboostPrepareItem_item (answer : String → CredentialsAnswer) (o : GameboostOrder) :
    ∃ p, gameboostPrepareItem answer o = .item p := by
  unfold gameboostPrepareItem
  split
  · exact ⟨_, rfl⟩
  · split
    · exact ⟨_, rfl⟩
    · exact ⟨_, rfl⟩
    · split
      · exact ⟨_, rfl⟩
      · split <;> exact ⟨_, rfl⟩

/-- The entries are stored, whichever they are. -/
theorem stored_entries (henriches : enriches o = true) {data : List CredentialEntry}
    (hanswer : listOfferCredentials o.accountOfferId = .entries data) :
    Stored listOfferCredentials o
      (some (match (data.filter (isOwnEntry o)).getLast? with
        | some entry => [entry]
        | none => data)) := by
  rcases hlast : (data.filter (isOwnEntry o)).getLast? with - | d
  · refine .all henriches hanswer ?_
    rw [List.getLast?_eq_none_iff, List.filter_eq_nil_iff] at hlast
    rw [List.any_eq_false]
    exact hlast
  · obtain ⟨hmem, hown⟩ := List.mem_filter.mp (List.mem_of_getLast? hlast)
    exact .own hanswer hmem hown

variable (listOfferCredentials o) in
/-- **What `prepare_item` leaves**: the inline credentials, and the entries. -/
theorem preparedPayload_stored :
    (preparedPayload listOfferCredentials o).credentials = o.credentials ∧
      Stored listOfferCredentials o (preparedPayload listOfferCredentials o).credentialEntries := by
  obtain ⟨p, hitem⟩ := gameboostPrepareItem_item listOfferCredentials o.payload
  have hp : preparedPayload listOfferCredentials o = p := by rw [preparedPayload, hitem]
  rw [hp]
  unfold gameboostPrepareItem at hitem
  split at hitem
  · rename_i hnot
    cases hitem
    exact ⟨rfl, .nothing fun _ h => absurd hnot (enriches_eq_true_iff.mp h)⟩
  rename_i henriches
  rw [← enriches_eq_true_iff] at henriches
  split at hitem
  · rename_i hanswer
    cases hitem
    exact ⟨rfl, .nothing fun _ _ h => absurd (hanswer.symm.trans h) nofun⟩
  · rename_i hanswer
    cases hitem
    exact ⟨rfl, .nothing fun _ _ h => absurd (hanswer.symm.trans h) nofun⟩
  · rename_i data hanswer
    have hstored := stored_entries henriches hanswer
    split at hitem
    · rename_i hempty
      cases hitem
      refine ⟨rfl, .nothing fun data' _ h => ?_⟩
      cases hanswer.symm.trans h
      exact List.isEmpty_iff.mp hempty
    · split at hitem
      · rename_i hlast
        cases hitem
        rw [show (data.filter (isOwnEntry o)).getLast? = some _ from hlast] at hstored
        exact ⟨rfl, hstored⟩
      · rename_i hlast
        cases hitem
        rw [show (data.filter (isOwnEntry o)).getLast? = none from hlast] at hstored
        exact ⟨rfl, hstored⟩

end Products

/-! ### The attribution -/

section Attribution

variable {parse : String → String} {listOfferCredentials : String → CredentialsAnswer}
variable {o : AccountOrder}

/-- In a fallback only the delivery instructions are the order's. -/
theorem ownText_of_fallback {data : List CredentialEntry} {text : String}
    (henriches : enriches o = true)
    (hanswer : listOfferCredentials o.accountOfferId = .entries data)
    (hnone : data.any (isOwnEntry o) = false) (h : OwnText listOfferCredentials o text)
    (hne : textLogin parse text ≠ "") : text = o.deliveryInstructions := by
  cases h with
  | entry hanswer' hmem hid hown =>
    cases hanswer.symm.trans hanswer'
    rw [List.any_eq_false] at hnone
    exact absurd (by simp [isOwnEntry, hid, hown]) (hnone _ hmem)
  | inline =>
    have hempty : o.credentials = "" := by
      by_contra hcredentials
      exact enriches_eq_true_iff.mp henriches (Or.inr (Or.inl hcredentials))
    rw [hempty] at hne
    exact absurd rfl hne
  | delivery => rfl

theorem fallbackFits_of_none {categoryOf : String → Option Nat}
    (h : fallbackLogin parse listOfferCredentials o = none) :
    FallbackFits parse categoryOf listOfferCredentials o := by
  intro login hlogin
  rw [h] at hlogin
  cases hlogin

/-- Nothing, or no entry, is fetched. -/
theorem fallbackLogin_of_nothing (h : ∀ data, enriches o = true →
      listOfferCredentials o.accountOfferId = .entries data → data = []) :
    fallbackLogin parse listOfferCredentials o = none := by
  rw [fallbackLogin]
  split
  · rename_i henriches
    split
    · rename_i data hanswer
      rw [h data henriches hanswer]
      rfl
    · rfl
  · rfl

/-- An entry of the order is fetched. -/
theorem fallbackLogin_of_own {data : List CredentialEntry} {d : CredentialEntry}
    (hanswer : listOfferCredentials o.accountOfferId = .entries data) (hmem : d ∈ data)
    (hown : isOwnEntry o d = true) : fallbackLogin parse listOfferCredentials o = none := by
  rw [fallbackLogin, hanswer]
  simp only [List.any_eq_true.mpr ⟨d, hmem, hown⟩, if_true, ite_self]

variable (parse) in
/-- Only entries of other orders are fetched. -/
theorem fallbackLogin_of_all {data : List CredentialEntry} (henriches : enriches o = true)
    (hanswer : listOfferCredentials o.accountOfferId = .entries data)
    (hnone : data.any (isOwnEntry o) = false) :
    fallbackLogin parse listOfferCredentials o = (entryLogins parse data).head? := by
  rw [fallbackLogin, if_pos henriches, hanswer]
  simp [hnone]

/-- **Account attribution.**  Whatever the API answers, syncing an order of any
offer links it to nothing but an account of its own, exactly when it falls back
on no entry that has a login (or the login of its delivery instructions). -/
theorem account_attribution (parse : String → String) (categoryOf : String → Option Nat)
    (listOfferCredentials : String → CredentialsAnswer) (o : AccountOrder)
    (products : Table OwnedAccount) :
    LinksOwn parse listOfferCredentials o
        (linkAccountOrder parse categoryOf listOfferCredentials o products) ↔
      FallbackFits parse categoryOf listOfferCredentials o := by
  obtain ⟨hinline, hstored⟩ := preparedPayload_stored listOfferCredentials o
  rw [linkAccountOrder, linksOwn_iff]
  generalize preparedPayload listOfferCredentials o = p at hinline hstored ⊢
  generalize hentries : p.credentialEntries = entries at hstored
  cases hstored with
  | nothing hnone =>
    apply iff_of_true
    · exact fun hne _ => ownLogin_of_no_entry (by rw [hentries]; rfl) hinline hne
    · exact fallbackFits_of_none (fallbackLogin_of_nothing hnone)
  | @own data d hanswer hmem hown =>
    apply iff_of_true
    · intro hne _
      rcases hhead : (entryLogins parse (p.credentialEntries.getD [])).head? with - | login
      · exact ownLogin_of_no_entry hhead hinline hne
      · rw [payloadLogin_of_entry hhead]
        obtain ⟨hne, d', hd', rfl⟩ := entryLogins_head?_ne hhead
        rw [hentries] at hd'
        cases List.mem_singleton.mp hd'
        obtain ⟨hid, heq⟩ := (Bool.and_eq_true _ _).mp hown
        exact ⟨d.text, .entry hanswer hmem (bne_iff_ne.mp hid) (eq_of_beq heq), hne, rfl⟩
    · exact fallbackFits_of_none (fallbackLogin_of_own hanswer hmem hown)
  | @all data henriches hanswer hnone =>
    have hfallback := fallbackLogin_of_all parse henriches hanswer hnone
    rcases hhead : (entryLogins parse data).head? with - | login
    · apply iff_of_true
      · exact fun hne _ => ownLogin_of_no_entry (by rw [hentries]; exact hhead) hinline hne
      · exact fallbackFits_of_none (hfallback.trans hhead)
    · -- the first entry with a login, which is not the order's
      have hfirst : (entryLogins parse (p.credentialEntries.getD [])).head? = some login := by
        rw [hentries]
        exact hhead
      have hlogin := payloadLogin_of_entry hfirst o.deliveryInstructions
      rw [hlogin, FallbackFits, hfallback, hhead]
      constructor
      · rintro h login' ⟨⟩
        rcases hcategory : orderCategory categoryOf o with - | category
        · exact Or.inl rfl
        · obtain ⟨text, hown, hne, heq⟩ := h (entryLogins_head?_ne hhead).1 (by simp [hcategory])
          cases ownText_of_fallback henriches hanswer hnone hown hne
          exact Or.inr ⟨hne, heq.symm⟩
      · intro h _ hcategory
        obtain ⟨hne, heq⟩ := (h login rfl).resolve_left hcategory
        exact ⟨_, .delivery, hne, heq.symm⟩

end Attribution

/-! ### An offer with two credentials -/

/-- The login of a text `login:password`. -/
def colonLogin (text : String) : String :=
  String.ofList (text.toList.takeWhile (· ≠ ':'))

/-- Two credentials of offer 9, neither of them sold to an order. -/
def unsoldEntries : String → CredentialsAnswer := fun _ =>
  .entries [{ text := "first@mail.com:secret1" }, { text := "second@mail.com:secret2" }]

def offerOrder (id : String) : AccountOrder where
  id := id
  accountOfferId := "9"
  gameId := "3"

/-- The order is synced: its link and the products after it. -/
def syncUnsold (id : String) (products : Table OwnedAccount) : Option Nat × Table OwnedAccount :=
  linkAccountOrder colonLogin (fun _ => some 1) unsoldEntries (offerOrder id) products

def someProducts : Table OwnedAccount :=
  ⟨[(1, { category := 1, login := "other@mail.com" })], by decide⟩

/-- **Entries of other orders are fallen back on.**  Two orders of one offer, and
neither has an entry: both are linked to the account of the first entry. -/
theorem account_attribution_fails :
    ¬ LinksOwn colonLogin unsoldEntries (offerOrder "101") (syncUnsold "101" someProducts) ∧
      (syncUnsold "101" someProducts).1 = some 2 ∧
      (syncUnsold "102" (syncUnsold "101" someProducts).2).1 = some 2 := by
  refine ⟨?_, by decide, by decide⟩
  intro h
  obtain ⟨row, -, text, hown, hne, -⟩ := h 2 (by decide)
  cases ownText_of_fallback (by decide) rfl (by decide) hown hne
  exact hne rfl

end Sda.Sync
